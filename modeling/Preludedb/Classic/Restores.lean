import Preludedb.Classic.Delete

/-! Inserting a message and deleting it again: the deletion finds every row of the message, and no
row that was there before. -/

namespace Preludedb.Classic

open Foundations Sql Idmef

variable {b : Backend} {k : Kind} {ident : ℕ} {d : Database}

/-- No row of a message of the kind has the ident; a message of the other kind may. -/
def Fresh (k : Kind) (ident : ℕ) (d : Database) : Prop :=
  ∀ t, ∀ r ∈ d.tables t, r.messageIdent = ident → RowOf k.other t r

lemma serve_ok (r : Request) (d : Database) : ∃ x, (serve b r d).1 = .ok x :=
  Call.serve_ok (engine b) r d

section

variable [L : Libprelude]

def entryWrite (ident : ℕ) (e : Entry) : Table × Row :=
  (e.element.table, e.element.row ident e.fields)

/-- What the insertion of a message writes when nothing fails. -/
def writes (m : Message) (d : Database) : List (Table × Row) :=
  ((kindOf m).table, messageRow d (kindOf m) (topFields m)) ::
    (entriesOf m).map (entryWrite (d.counter (kindOf m)))

lemma plain_steps (e : Entry) (d : Database) :
    ((e.steps ident).flatMap Step.plain).foldl (fun d r => (serve b r d).2) d =
      d.write (.insert (entryWrite ident e).1 (entryWrite ident e).2) := by
  have hliteral (l : Literal) (d : Database) :
      (l.step.plain).foldl (fun d r => (serve b r d).2) d = d := by
    cases l with
    | text input | textOr n input => rfl
    | data x => rcases Literal.step_data x with ⟨bytes, h⟩ | ⟨err, -, h⟩ <;> rw [h] <;> rfl
  have hliterals (ls : List Literal) (d : Database) :
      ((ls.map Literal.step).flatMap Step.plain).foldl (fun d r => (serve b r d).2) d = d := by
    induction ls with
    | nil => rfl
    | cons l ls ih => rw [List.map_cons, List.flatMap_cons, List.foldl_append, hliteral, ih]
  rw [Entry.steps, List.flatMap_append, List.foldl_append, hliterals]
  cases e.issue <;> rfl

lemma store_serve {es : List Entry} (hok : ((Entry.store ident es).run (serve b) d).1 = .ok ()) :
    ((Entry.store ident es).run (serve b) d).2 =
      (es.map fun e => TableWrite.insert (entryWrite ident e).1 (entryWrite ident e).2).foldl
        Database.write d := by
  rw [Entry.store, Program.script_answered serve_ok hok]
  clear hok
  induction es generalizing d with
  | nil => rfl
  | cons e es ih =>
    rw [List.flatMap_cons, List.flatMap_append, List.foldl_append, plain_steps, ih]
    rfl

lemma insertOf_serve {m : Message} (hok : ((insertOf m).run (serve b) d).1 = .ok ()) :
    d.counter (kindOf m) < 2 ^ 64 ∧ ((insertOf m).run (serve b) d).2 =
      ((writes m d).map fun w => TableWrite.insert w.1 w.2).foldl Database.write d := by
  have hescape : serve b (.escapeFast (messageidOf m)) d = (.ok (), d) := rfl
  have htop := insertMessage_serve b d (kindOf m) (topFields m)
  rw [insertOf_eq, Program.run_bind, Program.run_call, hescape] at hok ⊢
  simp only [Program.run_bind] at hok ⊢
  rcases hid : fieldToUint64 (.number (d.counter (kindOf m))) with e | i
  · rw [hid] at htop
    rw [htop] at hok
    cases hok
  · obtain ⟨hc, rfl⟩ := fieldToUint64_natCast.mp hid
    rw [hid] at htop
    rw [htop] at hok ⊢
    refine ⟨hc, ?_⟩
    simp only at hok ⊢
    rw [store_serve hok, writes, List.map_cons, List.map_map]
    rfl

end

lemma Fresh.kept {t : Table} {r : Row} (h : Fresh k ident d) (hr : r ∈ d.tables t) :
    TableWrite.deleted t ((deleteQueries k).map fun q =>
      (q.1, Where.holds ⟨[ident], q.2, [], .any⟩)) r = false := by
  rw [deleted_eq]
  by_cases hi : r.messageIdent = ident
  · rw [(h t r hr hi).selects_other, Bool.and_false]
  · rw [decide_eq_false hi, Bool.false_and]

/-- The rows of a message carry its ident and can be told from those of the other kind. -/
lemma writes_rows [L : Libprelude] {m : Message} {w : Table × Row} (hw : w ∈ writes m d) :
    w.2.messageIdent = d.counter (kindOf m) ∧ RowOf (kindOf m) w.1 w.2 := by
  rcases List.mem_cons.mp hw with rfl | hw
  · exact ⟨rfl, .inl ⟨rfl, rfl⟩⟩
  · obtain ⟨e, he, rfl⟩ := List.mem_map.mp hw
    exact ⟨rfl, .inr ⟨e.element, (entriesOf_fits m e he).kind, rfl, rfl⟩⟩

lemma writes_deleted [L : Libprelude] {m : Message} {w : Table × Row} (hw : w ∈ writes m d) :
    TableWrite.deleted w.1 ((deleteQueries (kindOf m)).map fun q =>
      (q.1, Where.holds ⟨[d.counter (kindOf m)], q.2, [], .any⟩)) w.2 = true := by
  obtain ⟨hident, hrow⟩ := writes_rows hw
  rw [deleted_eq, hrow.selects, decide_eq_true hident]
  rfl

lemma deletions_undo_writes [L : Libprelude] {m : Message}
    (h : Fresh (kindOf m) (d.counter (kindOf m)) d) :
    ((deleteQueries (kindOf m)).map fun q => TableWrite.delete q.1
      (Where.holds ⟨[d.counter (kindOf m)], q.2, [], .any⟩)).foldl TableWrite.apply
        (((writes m d).map fun w => TableWrite.insert w.1 w.2).foldl TableWrite.apply d.tables) =
      d.tables := by
  have hundo := TableWrite.delete_insert (d := d.tables)
    (fun t r hr => h.kept hr) fun w (hw : w ∈ writes m d) => writes_deleted hw
  rw [List.map_map] at hundo
  exact hundo

lemma deletions_serve (queries : List (Table × TypeTest)) :
    (Program.calls (queries.map (deletion [ident]))).run (serve b) d =
      (.ok (), (queries.map fun q => TableWrite.delete q.1
        (Where.holds ⟨[ident], q.2, [], .any⟩)).foldl Database.write d) := by
  rw [Program.calls_answered serve_ok, List.foldl_map, List.foldl_map]
  rfl

variable [L : Libprelude]

/-- The deletion of a message that was inserted under a fresh ident leaves the tables as they were
before the insertion. -/
theorem classicDelete_restores (m : Message) (b : Backend) (p : Pattern) (w : World) (d : Database)
    (hp : Faultless p) (h : Serving d w.session)
    (hf : Fresh (kindOf m) (d.counter (kindOf m)) d)
    (hok : (run b p (classicInsert m) w).1 = .ok ()) :
    ∃ d', Serving d' (run b p (classicDelete (kindOf m) (d.counter (kindOf m)))
        (run b p (classicInsert m) w).2).2.session ∧ d'.tables = d.tables ∧
      (run b p (classicDelete (kindOf m) (d.counter (kindOf m)))
        (run b p (classicInsert m) w).2).1 = .ok () := by
  have hinsert : (insertOf m).Requests fun r => r.inner = true :=
    (insertOf_requests m).mono fun r hr => hr.inner
  have hdelete : ∀ queries : List (Table × TypeTest), (Program.calls (queries.map (deletion [d.counter (kindOf m)])) :
      Action Unit).Requests fun r => r.inner = true := fun queries =>
    Program.calls_requests fun r hr => by
      obtain ⟨q, -, rfl⟩ := List.mem_map.mp hr
      rfl
  have hserved := serve_of_inTransaction hp hinsert h hok
  obtain ⟨-, hmid⟩ := inTransaction_serve hp hinsert h hserved
  obtain ⟨-, htables⟩ := insertOf_serve hserved
  obtain ⟨hend, hafter⟩ := inTransaction_serve hp (hdelete (deleteQueries (kindOf m))) hmid
    (congrArg Prod.fst (deletions_serve _))
  rw [classicDelete_eq, deleteMessage]
  refine ⟨_, hafter, ?_, hend⟩
  rw [deletions_serve, Database.foldl_write_tables, htables, Database.foldl_write_tables]
  exact deletions_undo_writes hf

section Issued

/-- Every row belongs to a message whose ident has been given out. -/
def Issued (d : Database) : Prop :=
  ∀ t, ∀ r ∈ d.tables t, ∃ k, RowOf k t r ∧ r.messageIdent < d.counter k

omit L in
/-- The next ident is then fresh. -/
lemma Issued.fresh (h : Issued d) (k : Kind) : Fresh k (d.counter k) d := by
  intro t r hr hident
  obtain ⟨k', hrow, hlt⟩ := h t r hr
  have hk : k' = k.other := by
    by_contra hne
    have hkk : k' = k := by cases k <;> cases k' <;> first | rfl | exact absurd rfl hne
    rw [hkk, hident] at hlt
    exact lt_irrefl _ hlt
  exact hk ▸ hrow

omit L in
lemma counter_le_foldl (ws : List Write) (d : Database) (k : Kind) :
    d.counter k ≤ (ws.foldl Database.write d).counter k := by
  induction ws generalizing d with
  | nil => exact le_rfl
  | cons w ws ih => exact (Database.bump_le k w _).trans (ih (d.write w))

lemma Issued.insertOf {m : Message} (h : Issued d)
    (hok : ((Classic.insertOf m).run (serve b) d).1 = .ok ()) :
    Issued ((Classic.insertOf m).run (serve b) d).2 := by
  obtain ⟨-, hd⟩ := insertOf_serve hok
  have htop : d.counter (kindOf m) < (((writes m d).map fun w =>
      TableWrite.insert w.1 w.2).foldl Database.write d).counter (kindOf m) := by
    rw [writes, List.map_cons, List.foldl_cons]
    refine lt_of_lt_of_le ?_ (counter_le_foldl _ _ (kindOf m))
    simp [Database.write, Database.bump, messageRow]
  have hcount := fun k => counter_le_foldl ((writes m d).map fun w => TableWrite.insert w.1 w.2) d k
  rw [hd]
  intro t r hr
  rw [Database.foldl_write_tables, TableWrite.foldl_insert, List.mem_append,
    TableWrite.mem_inserted] at hr
  rcases hr with hr | hr
  · obtain ⟨k, hrow, hlt⟩ := h t r hr
    exact ⟨k, hrow, hlt.trans_le (hcount k)⟩
  · obtain ⟨hident, hrow⟩ := writes_rows hr
    refine ⟨kindOf m, hrow, ?_⟩
    simp only at hident
    rw [hident]
    exact htop

omit L in
lemma Issued.deletions (h : Issued d) (queries : List (Table × TypeTest)) :
    Issued ((Program.calls (queries.map (deletion [ident]))).run (serve b) d).2 := by
  rw [deletions_serve]
  intro t r hr
  have hkept : r ∈ d.tables t := by
    have hfold := TableWrite.foldl_delete (queries.map fun q =>
      (q.1, Where.holds ⟨[ident], q.2, [], .any⟩)) d.tables t
    rw [List.map_map] at hfold
    simp only [Database.foldl_write_tables] at hr
    exact (List.mem_filter.mp (hfold ▸ hr)).1
  obtain ⟨k, hrow, hlt⟩ := h t r hkept
  exact ⟨k, hrow, hlt.trans_le (counter_le_foldl _ d k)⟩

end Issued

omit L in
theorem classicDelete_restores_empty :
    ∃ d', Serving d' (run .mysql (fun _ _ => .ok) (classicDelete .alert 1)
        (run .mysql (fun _ _ => .ok) (classicInsert (L := bareLibrary) (.alert classifiedAlert))
          newWorld).2).2.session ∧ d'.tables = Database.empty.tables ∧
      (run .mysql (fun _ _ => .ok) (classicDelete .alert 1)
        (run .mysql (fun _ _ => .ok) (classicInsert (L := bareLibrary) (.alert classifiedAlert))
          newWorld).2).1 = .ok () :=
  classicDelete_restores (L := bareLibrary) (.alert classifiedAlert) .mysql (fun _ _ => .ok) newWorld
    Database.empty (fun _ _ => rfl) (.idle rfl rfl rfl rfl) (fun _ _ hr => by cases hr) rfl

end Preludedb.Classic
