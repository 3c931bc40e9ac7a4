import Preludedb.Foundations.Observations
import Preludedb.Classic.Mirrors
import Preludedb.Classic.Backends

/-! What the readers find in the rows of a stored message: the rows a query selects are those of one
list, and each reader of a field gives back what the column was written from. -/

namespace Preludedb.Classic

open Foundations Sql Idmef

/-- The reader finds the value in the database. -/
def Finds {α : Type} (b : Backend) (d : Database) (p : Action α) (a : α) : Prop :=
  p.Observes (serve b) d a

section Fields

variable {α β : Type} {b : Backend} {d : Database} {row : List Cell} {i : ℕ}

lemma Finds.done (a : α) : Finds b d (.done a) a := Program.Observes.done a

lemma Finds.bind {p : Action α} {f : α → Action β} {a : α} {x : β} (hp : Finds b d p a)
    (hf : Finds b d (f a) x) : Finds b d (p >>= f) x :=
  Program.Observes.bind hp hf

lemma Finds.of_bind {p : Action α} {f : α → Action β} {x : β} (h : Finds b d (p >>= f) x)
    (hs : (p.run (serve b) d).2 = d) : ∃ a, Finds b d p a ∧ Finds b d (f a) x :=
  Program.Observes.of_bind hs h

lemma Finds.after {p : Action α} {f : α → Action β} {a : α} {x : β} (h : Finds b d (p >>= f) x)
    (hp : Finds b d p a) : Finds b d (f a) x :=
  Program.Observes.after h hp

lemma fetchRow_finds : Finds b d (Program.call (.fetchRow : Request)) () :=
  Program.Observes.call rfl

lemma rowGetField_finds : Finds b d (rowGetField row i)
    (if row.getD i .null = .null then none else some (row.getD i .null)) := by
  refine Finds.bind (a := ()) (Program.Observes.call rfl) ?_
  cases row.getD i .null <;> exact .done _

lemma getString_finds {x : Option String} (h : row.getD i .null = textCell x) :
    Finds b d (getString row i) x := by
  refine rowGetField_finds.bind ?_
  rw [h]
  cases x <;> exact .done _

lemma getInteger_finds {fieldTo : Cell → Except SqlError α} {toInt : α → Int} {x : Option α}
    (hto : ∀ a, fieldTo (.number (toInt a)) = .ok a)
    (h : row.getD i .null = getOptionalInteger toInt x) : Finds b d (getInteger fieldTo row i) x := by
  refine rowGetField_finds.bind ?_
  rw [h]
  cases x with
  | none => exact .done _
  | some a => exact Finds.bind (Program.Observes.ofExcept (hto a)) (.done _)

lemma fieldToUint32_toNat (n : UInt32) : fieldToUint32 (.number n.toNat) = .ok n := by
  have hn := n.toNat_lt
  rw [fieldToUint32, fieldToInteger, if_pos (by omega)]
  simp [Except.map]

lemma fieldToUint16_toNat (n : UInt16) : fieldToUint16 (.number n.toNat) = .ok n := by
  have hn := n.toNat_lt
  rw [fieldToUint16, fieldToInteger, if_pos (by omega)]
  simp [Except.map]

lemma fieldToUint8_toNat (n : UInt8) : fieldToUint8 (.number n.toNat) = .ok n := by
  have hn := n.toNat_lt
  rw [fieldToUint8, fieldToInteger, if_pos (by omega)]
  simp [Except.map]

lemma fieldToInt32_toInt (n : Int32) : fieldToInt32 (.number n.toInt) = .ok n := by
  have hle := n.le_toInt
  have hlt := n.toInt_lt
  rw [fieldToInt32, fieldToInteger, if_pos (by omega)]
  simp [Except.map]

lemma getUint32_finds {x : Option UInt32} (h : row.getD i .null = getOptionalUint32 x) :
    Finds b d (getUint32 row i) x := getInteger_finds fieldToUint32_toNat h

lemma getUint16_finds {x : Option UInt16} (h : row.getD i .null = getOptionalUint16 x) :
    Finds b d (getUint16 row i) x := getInteger_finds fieldToUint16_toNat h

lemma getUint8_finds {x : Option UInt8} (h : row.getD i .null = getOptionalUint8 x) :
    Finds b d (getUint8 row i) x := getInteger_finds fieldToUint8_toNat h

lemma getEnum_finds [L : Libprelude] {e : Enumeration} {x : Option String}
    (h : row.getD i .null = textCell x) : Finds b d (getEnum e row i) (x.map (L.enumToNumeric e)) := by
  refine rowGetField_finds.bind ?_
  rw [h]
  cases x <;> exact .done _

end Fields

section Rows

variable [L : Libprelude] {b : Backend} {m : Message} {ident : ℕ} {d : Database} {s : Element}

/-- The test on the parent type in a query for the element's table. -/
def Element.test (s : Element) : TypeTest := s.parentType.elim .any .eq

/-- The condition a reader puts on the rows of the element's list. -/
def Element.query (s : Element) (ident : ℕ) (index : IndexTest) : Where :=
  ⟨[ident], s.test, s.parents, index⟩

omit L in
lemma test_covers (s : Element) : Covers s.kind s.table s.test := by
  rw [Element.test]
  cases hp : s.parentType with
  | none => exact fun parentType _ => untyped_selected hp parentType
  | some c => exact Covers.eq (hp ▸ selects_element s)

omit L in
lemma holds_iff {e : Element} (ht : e.table = s.table) {fields : List (String × Cell)} (it : IndexTest) :
    (s.query ident it).holds (e.row ident fields) =
      (decide (SameList s (e.table, e.row ident fields)) && it.holds e.index) := by
  have hparents : s.parents.isPrefixOf e.parents = decide (e.parents = s.parents) := by
    have hlength : s.parents.length = e.parents.length := by rw [e.levels, s.levels, ht]
    refine Bool.eq_iff_iff.mpr ?_
    rw [List.isPrefixOf_iff_prefix, decide_eq_true_iff]
    exact ⟨fun h => (h.eq_of_length hlength).symm, fun h => h ▸ List.prefix_rfl⟩
  have htype : s.test.holds e.parentType = decide (e.parentType = s.parentType) := by
    have htyped : e.parentType.isSome = s.parentType.isSome := by rw [e.typed, s.typed, ht]
    rw [Element.test]
    cases hs : s.parentType with
    | none =>
      rw [hs] at htyped
      have hnone : e.parentType = none := by simpa using htyped
      rw [hnone]
      rfl
    | some c => exact beq_eq_decide _ _
  simp [Where.holds, Element.query, Element.row, SameList, hparents, htype, ht]

/-- A query selects the rows of one list of the message. -/
lemma select_rows (h : Holds m ident d) (hk : s.kind = kindOf m) (it : IndexTest) :
    (d.tables s.table).filter (s.query ident it).holds =
      (listRows m ident s).filter fun r => it.holds r.index := by
  rw [filter_holds (hk ▸ test_covers s) rfl, h, TableWrite.inserted, listRows, List.filter_map,
    List.filter_map, List.filter_filter, List.filter_filter]
  refine congrArg _ (List.filter_congr fun w hw => ?_)
  simp only [Function.comp_apply]
  by_cases ht : w.1 = s.table
  · rcases List.mem_cons.mp hw with rfl | hw
    · exact absurd ht.symm (s.table_ne _)
    · obtain ⟨x, -, rfl⟩ := List.mem_map.mp hw
      have hholds : (s.query ident it).holds (entryWrite ident x).2 =
          (decide (SameList s (entryWrite ident x)) && it.holds (entryWrite ident x).2.index) :=
        holds_iff ht it
      rw [hholds, decide_eq_true ht, Bool.and_true, Bool.and_comm]
  · have hother : ¬ SameList s w := fun hsame => ht hsame.1
    rw [decide_eq_false ht, decide_eq_false hother, Bool.and_false, Bool.and_false]

/-- The list that an element belongs to, as the message has it. -/
structure StoredAs {α : Type} (m : Message) (s : Element) (xs : List α) (mk : Int → α → Entry) :
    Prop where
  indexed : Indexed s mk
  arity : s.arity ≠ .single
  group : group m s = ((numbered 0 xs).map fun x => mk x.1 x.2) ∨
    group m s = (listed xs).map fun x => mk x.1 x.2

variable {α β : Type} {xs : List α} {mk : Int → α → Entry}

omit L in
lemma ne_last_holds (i : Int) : IndexTest.holds (.ne (-1)) (some i) = decide (i ≠ -1) := by
  simp [IndexTest.holds, bne, beq_eq_decide]

omit L in
lemma numbered_ne_last (xs : List α) :
    (numbered 0 xs).filter (fun x => decide (x.1 ≠ -1)) = numbered 0 xs :=
  List.filter_eq_self.mpr fun x hx => by
    have hle := le_of_mem_numbered hx
    exact decide_eq_true (by omega)

lemma StoredAs.rows (h : StoredAs m s xs mk) :
    (listRows m ident s).filter (fun r => IndexTest.holds (.ne (-1)) r.index) =
      (numbered 0 xs).map fun x => rowAt ident s mk x.1 x.2 := by
  have hfilter : ∀ ys : List (Int × α),
      ((ys.map fun x => mk x.1 x.2).map fun x => (entryWrite ident x).2).filter
        (fun r => IndexTest.holds (.ne (-1)) r.index) =
        (ys.filter fun x => decide (x.1 ≠ -1)).map fun x => rowAt ident s mk x.1 x.2 := by
    intro ys
    have hrow : ∀ x : Int × α, (entryWrite ident (mk x.1 x.2)).2 = rowAt ident s mk x.1 x.2 :=
      fun x => h.indexed.row h.arity x.1 x.2
    rw [List.map_map, List.filter_map]
    simp only [Function.comp_def, hrow, rowAt, ne_last_holds]
  rw [listRows_eq]
  rcases h.group with hg | hg
  · rw [hg, hfilter, numbered_ne_last]
  · rw [hg, hfilter, listed_ne_last]

omit L in
lemma rowAt_sorted (xs : List α) :
    ((numbered 0 xs).map fun x => rowAt ident s mk x.1 x.2).mergeSort byIndex =
      (numbered 0 xs).map fun x => rowAt ident s mk x.1 x.2 := by
  refine List.mergeSort_of_pairwise (List.pairwise_map.mpr ?_)
  refine (numbered_sorted 0 xs).imp fun h => ?_
  exact decide_eq_true h.le

/-- The rows of a list come back in the order of the list, without the copy of the last one. -/
lemma StoredAs.select (h : StoredAs m s xs mk) (hd : Holds m ident d) (hk : s.kind = kindOf m)
    (columns : List String) : Finds b d (selectOrdered s.table columns (s.query ident .any))
      (b.result ((numbered 0 xs).map fun x => project b columns (rowAt ident s mk x.1 x.2))) := by
  have hrows : d.select s.table (s.query ident (.ne (-1))) true =
      (numbered 0 xs).map fun x => rowAt ident s mk x.1 x.2 := by
    rw [Database.select, if_pos rfl, select_rows hd hk, h.rows, rowAt_sorted]
  have hexec : exec b d (.select s.table columns (s.query ident (.ne (-1))) true) =
      (b.result ((numbered 0 xs).map fun x => project b columns (rowAt ident s mk x.1 x.2)), []) := by
    rw [exec, hrows, List.map_map]
    rfl
  have hrun := data_run (b := b) (congrArg Prod.snd hexec)
  rw [hexec] at hrun
  exact hrun

/-- The row of a single object comes back, if there is one. -/
lemma single_select (hd : Holds m ident d) (hk : s.kind = kindOf m) (columns : List String) :
    Finds b d (Classic.select s.table columns (s.query ident .any))
      (b.result ((group m s).map fun x => project b columns (entryWrite ident x).2)) := by
  have hrows : d.select s.table (s.query ident .any) false =
      (group m s).map fun x => (entryWrite ident x).2 := by
    rw [Database.select, if_neg Bool.false_ne_true, select_rows hd hk, ← listRows_eq]
    exact List.filter_eq_self.mpr fun _ _ => rfl
  have hexec : exec b d (.select s.table columns (s.query ident .any) false) =
      (b.result ((group m s).map fun x => project b columns (entryWrite ident x).2), []) := by
    rw [exec, hrows, List.map_map]
    rfl
  have hrun := data_run (b := b) (congrArg Prod.snd hexec)
  rw [hexec] at hrun
  exact hrun

end Rows

section Loops

variable {α β : Type} {b : Backend} {d : Database}

lemma firstRow_finds {f : List Cell → Action β} {row : List Cell} {y : β} (h : Finds b d (f row) y) :
    Finds b d (firstRow f (b.result [row])) (some y) := by
  rw [Backend.result_of_ne_nil (List.cons_ne_nil _ _)]
  exact fetchRow_finds.bind (h.bind (.done _))

lemma firstRow_none {f : List Cell → Action β} : Finds b d (firstRow f (b.result [])) none := by
  cases b with
  | mysql | pgsql => exact .done _
  | sqlite3 => exact fetchRow_finds.bind (.done _)

lemma forRows_finds {f : Int → List Cell → Action β} {g : Int → α → β} {rowOf : Int × α → List Cell}
    {xs : List α} {k : Int} (h : ∀ x ∈ numbered k xs, Finds b d (f x.1 (rowOf x)) (g x.1 x.2)) :
    Finds b d (forRows f k ((numbered k xs).map rowOf)) ((numbered k xs).map fun x => g x.1 x.2) := by
  induction xs generalizing k with
  | nil => exact fetchRow_finds.bind (.done _)
  | cons x xs ih =>
    refine fetchRow_finds.bind ((h (k, x) List.mem_cons_self).bind ?_)
    exact (ih fun y hy => h y (List.mem_cons_of_mem _ hy)).bind (.done _)

lemma allRows_finds {f : Int → List Cell → Action β} {g : Int → α → β} {rowOf : Int × α → List Cell}
    {xs : List α} (h : ∀ x ∈ numbered 0 xs, Finds b d (f x.1 (rowOf x)) (g x.1 x.2)) :
    Finds b d (allRows f (b.result ((numbered 0 xs).map rowOf)))
      ((numbered 0 xs).map fun x => g x.1 x.2) := by
  have hall := forRows_finds h
  rw [Backend.result]
  split
  next hnone =>
    rw [List.isEmpty_iff.mp hnone.1] at hall
    cases xs with
    | nil => exact .done _
    | cons x xs => cases hnone.1
  next => exact hall

/-- A server answers every fetch, and the rows of objects are those of any other loop. -/
lemma objectRows_finds {p : Action (Option Result)} {f : Int → List Cell → Action β} {ys : List β} :
    Finds b d (p >>= objectRows f) ys ↔ Finds b d (p >>= allRows f) ys := by
  have hrun : (p >>= objectRows f).run (serve b) d = (p >>= allRows f).run (serve b) d :=
    Program.run_bind_congr rfl (objectRows_run f)
  rw [Finds, Finds, Program.Observes, Program.Observes, hrun]

/-- The loop finds the values that its body finds one after the other. -/
lemma forIndexed_finds {f : Int → α → Action β} {xs : List α} {ys : List β} {k : ℕ}
    (hlength : ys.length = xs.length) (h : ∀ (n : ℕ) x y, xs[n]? = some x → ys[n]? = some y →
      Finds b d (f (k + n : ℕ) x) y) : Finds b d (forIndexed f k xs) ys := by
  induction xs generalizing k ys with
  | nil =>
    rw [List.length_eq_zero_iff.mp hlength]
    exact .done _
  | cons x xs ih =>
    cases ys with
    | nil => cases hlength
    | cons y ys =>
      have hrest : Finds b d (forIndexed f (k + 1 : ℕ) xs) ys := by
        refine ih (Nat.succ.inj hlength) fun n x y hx hy => ?_
        rw [Nat.add_right_comm, Nat.add_assoc]
        exact h (n + 1) x y hx hy
      exact (h 0 x y rfl rfl).bind (Finds.bind hrest (.done _))

lemma numbered_map_snd (k : Int) (xs : List α) : (numbered k xs).map Prod.snd = xs := by
  induction xs generalizing k with
  | nil => rfl
  | cons x xs ih => exact congrArg (x :: ·) (ih (k + 1))

/-- Each value that the loop returns is what its body finds in the row at that place. -/
lemma forRows_found {k : Kind} {ident : ℕ} {f : Int → List Cell → Action β} {rows : Result}
    {ys : List β} {start : Int} (h : Finds b d (forRows f start rows) ys)
    (hf : ∀ i row, (f i row).Requests (Reads k ident)) : ys.length = rows.length ∧
      ∀ (n : ℕ) y, ys[n]? = some y → ∃ row, rows[n]? = some row ∧ Finds b d (f (start + n) row) y := by
  induction rows generalizing start ys with
  | nil =>
    obtain ⟨_, -, h⟩ := Finds.of_bind h rfl
    obtain rfl := h.unique (.done [])
    exact ⟨rfl, fun n y hy => by cases hy⟩
  | cons row rows ih =>
    obtain ⟨_, -, h⟩ := Finds.of_bind h rfl
    obtain ⟨y, hy, h⟩ := Finds.of_bind h (run_reads (hf start row))
    obtain ⟨zs, hzs, h⟩ := Finds.of_bind h (run_reads (forRows_reads hf (start + 1) rows))
    obtain rfl := h.unique (.done (y :: zs))
    obtain ⟨hlength, hall⟩ := ih hzs
    refine ⟨congrArg (· + 1) hlength, fun n z hz => ?_⟩
    cases n with
    | zero =>
      obtain rfl := Option.some.inj hz
      exact ⟨row, rfl, (add_zero start).symm ▸ hy⟩
    | succ n =>
      obtain ⟨row', hrow, hfinds⟩ := hall n z hz
      have hindex : start + 1 + (n : Int) = start + (n + 1 : ℕ) := by omega
      exact ⟨row', hrow, hindex ▸ hfinds⟩

lemma allRows_found {k : Kind} {ident : ℕ} {f : Int → List Cell → Action β} {rows : Result}
    {ys : List β} (h : Finds b d (allRows f (b.result rows)) ys)
    (hf : ∀ i row, (f i row).Requests (Reads k ident)) : ys.length = rows.length ∧
      ∀ (n : ℕ) y, ys[n]? = some y → ∃ row, rows[n]? = some row ∧ Finds b d (f n row) y := by
  rw [Backend.result] at h
  split at h
  next hnone =>
    obtain rfl := h.unique (.done [])
    rw [List.isEmpty_iff.mp hnone.1]
    exact ⟨rfl, fun n y hy => by cases hy⟩
  next =>
    obtain ⟨hlength, hall⟩ := forRows_found h hf
    refine ⟨hlength, fun n y hy => ?_⟩
    obtain ⟨row, hrow, hfinds⟩ := hall n y hy
    exact ⟨row, hrow, (zero_add (n : Int)) ▸ hfinds⟩

lemma forIndexed_found {k : Kind} {ident : ℕ} {f : Int → α → Action β} {xs : List α} {ys : List β}
    {start : Int} (h : Finds b d (forIndexed f start xs) ys)
    (hf : ∀ i x, (f i x).Requests (Reads k ident)) : ys.length = xs.length ∧
      ∀ (n : ℕ) y, ys[n]? = some y → ∃ x, xs[n]? = some x ∧ Finds b d (f (start + n) x) y := by
  induction xs generalizing start ys with
  | nil =>
    obtain rfl := h.unique (.done [])
    exact ⟨rfl, fun n y hy => by cases hy⟩
  | cons x xs ih =>
    obtain ⟨y, hy, h⟩ := Finds.of_bind h (run_reads (hf start x))
    obtain ⟨zs, hzs, h⟩ := Finds.of_bind h (run_reads (forIndexed_reads hf (start + 1) xs))
    obtain rfl := h.unique (.done (y :: zs))
    obtain ⟨hlength, hall⟩ := ih hzs
    refine ⟨congrArg (· + 1) hlength, fun n z hz => ?_⟩
    cases n with
    | zero =>
      obtain rfl := Option.some.inj hz
      exact ⟨x, rfl, (add_zero start).symm ▸ hy⟩
    | succ n =>
      obtain ⟨x', hx, hfinds⟩ := hall n z hz
      have hindex : start + 1 + (n : Int) = start + (n + 1 : ℕ) := by omega
      exact ⟨x', hx, hindex ▸ hfinds⟩

lemma numbered_length (k : Int) (xs : List α) : (numbered k xs).length = xs.length := by
  rw [numbered_eq, List.length_mapIdx]

end Loops

section Stored

variable [L : Libprelude] {b : Backend} {p : Pattern} {m : Message} {w : World} {d : Database}

/-- The back end returns the columns of the message as they were stored. -/
def Unchanged (b : Backend) (m : Message) : Prop :=
  ∀ x ∈ entriesOf m, ∀ f ∈ x.fields, b.field f.2 = f.2

lemma Unchanged.of_ne (h : b ≠ .sqlite3) : Unchanged b m := fun _ _ f _ => by
  cases b with
  | mysql | pgsql => rfl
  | sqlite3 => exact absurd rfl h

/-- An insertion of the message under a fresh ident in which nothing failed. -/
structure Stored (b : Backend) (p : Pattern) (m : Message) (w : World) (d : Database) : Prop where
  faultless : Faultless p
  serving : Serving d w.session
  fresh : Fresh (kindOf m) (d.counter (kindOf m)) d
  stored : (run b p (classicInsert m) w).1 = .ok ()

lemma Stored.first (h : (run b (fun _ _ => .ok) (classicInsert m) newWorld).1 = .ok ()) :
    Stored b (fun _ _ => .ok) m newWorld Database.empty :=
  ⟨fun _ _ => rfl, .idle rfl rfl rfl rfl, fun _ _ hr => (by cases hr), h⟩

/-- What a reader returns on the session that has stored the message. -/
def readBack {α : Type} (b : Backend) (p : Pattern) (m : Message) (w : World) (a : Action α) :
    Except SqlError α :=
  (run b p a (run b p (classicInsert m) w).2).1

lemma Stored.holds (h : Stored b p m w d) :
    ∃ d', Holds m (d.counter (kindOf m)) d' ∧ Serving d' (run b p (classicInsert m) w).2.session := by
  have hinner : (insertOf m).Requests fun r => r.inner = true :=
    (insertOf_requests m).mono fun r hr => hr.inner
  have hserved := serve_of_inTransaction h.faultless hinner h.serving h.stored
  obtain ⟨-, hafter⟩ := inTransaction_serve h.faultless hinner h.serving hserved
  exact ⟨_, insertOf_holds h.fresh hserved, hafter⟩

lemma readBack_iff {α : Type} {k : Kind} {ident : ℕ} {a : Action α} {x : α} (hp : Faultless p)
    (h : Serving d (run b p (classicInsert m) w).2.session) (ha : a.Requests (Reads k ident)) :
    readBack b p m w a = .ok x ↔ Finds b d a x := by
  have hrun := (h.run (b := b) hp (ha.mono fun _ hr => hr.inner)).1
  have hkept := run_reads (b := b) (d := d) ha
  rw [readBack, hrun]
  constructor
  · intro hx
    exact Prod.ext hx hkept
  · intro hx
    exact congrArg Prod.fst hx

omit L in
lemma project_kept {r : Row} (h : ∀ f ∈ r.fields, b.field f.2 = f.2) (columns : List String) :
    project b columns r = columns.map r.column := by
  refine List.map_congr_left fun name _ => ?_
  have hnumber : ∀ n : Int, b.field (.number n) = .number n := by cases b <;> exact fun _ => rfl
  have hnull : b.field .null = .null := by cases b <;> rfl
  unfold Row.column
  split
  · exact hnumber _
  · exact hnumber _
  · cases r.index with
    | none => exact hnull
    | some i => exact hnumber i
  · cases hf : r.fields.lookup name with
    | none => exact hnull
    | some c =>
      obtain ⟨before, after, hfields, -⟩ := List.lookup_eq_some_iff.mp hf
      exact h (name, c) (by simp [hfields])

variable {s : Element} {ident : ℕ} {α β : Type} {xs : List α} {mk : Int → α → Entry}

lemma mem_entriesOf {x : Entry} (h : x ∈ group m s) : x ∈ entriesOf m := by
  rw [← inGroup_entriesOf] at h
  exact (List.mem_filter.mp h).1

lemma StoredAs.unchanged (h : StoredAs m s xs mk) (hb : Unchanged b m) {x : Int × α}
    (hx : x ∈ numbered 0 xs) : ∀ f ∈ (rowAt ident s mk x.1 x.2).fields, b.field f.2 = f.2 := by
  have hmem : mk x.1 x.2 ∈ Classic.group m s := by
    rcases h.group with hg | hg
    · rw [hg]
      exact List.mem_map_of_mem hx
    · rw [hg]
      exact List.mem_map_of_mem (List.mem_append_left _ hx)
  rw [rowAt, h.indexed.fields 0 x.1]
  exact hb _ (mem_entriesOf hmem)

/-- The loop over the rows of a list finds what it finds in the row of each of its elements. -/
lemma StoredAs.listed_finds (h : StoredAs m s xs mk) (hd : Holds m ident d) (hk : s.kind = kindOf m)
    (hb : Unchanged b m) {columns : List String} {f : Int → List Cell → Action β} {g : Int → α → β}
    (hf : ∀ x ∈ numbered 0 xs,
      Finds b d (f x.1 (columns.map (rowAt ident s mk x.1 x.2).column)) (g x.1 x.2)) :
    Finds b d (selectOrdered s.table columns (s.query ident .any) >>= allRows f)
      ((numbered 0 xs).map fun x => g x.1 x.2) := by
  refine (h.select hd hk columns).bind (allRows_finds fun x hx => ?_)
  rw [project_kept (h.unchanged hb hx)]
  exact hf x hx

omit L in
lemma mem_of_numbered {i : Int} {x : Int × α} (h : x ∈ numbered i xs) : x.2 ∈ xs := by
  have hmem := List.mem_map_of_mem (f := Prod.snd) h
  rwa [numbered_map_snd] at hmem

lemma StoredAs.all_finds (h : StoredAs m s xs mk) (hd : Holds m ident d) (hk : s.kind = kindOf m)
    (hb : Unchanged b m) {columns : List String} {f : Int → List Cell → Action β} {g : α → β}
    (hf : ∀ i, ∀ x ∈ xs, Finds b d (f i (columns.map (rowAt ident s mk i x).column)) (g x)) :
    Finds b d (selectOrdered s.table columns (s.query ident .any) >>= allRows f) (xs.map g) := by
  have hlist : xs.map g = (numbered 0 xs).map fun x => g x.2 := by
    conv_lhs => rw [← numbered_map_snd 0 xs, List.map_map]
    rfl
  rw [hlist]
  exact h.listed_finds (g := fun _ => g) hd hk hb fun x hx => hf x.1 x.2 (mem_of_numbered hx)

/-- When the loop over the rows of a list ends, its body has found something in every row. -/
lemma StoredAs.found (h : StoredAs m s xs mk) (hd : Holds m ident d) (hk : s.kind = kindOf m)
    (hb : Unchanged b m) {columns : List String} {f : Int → List Cell → Action β} {ys : List β}
    (hys : Finds b d (selectOrdered s.table columns (s.query ident .any) >>= allRows f) ys)
    (hf : ∀ i row, (f i row).Requests (Reads (kindOf m) ident)) : ys.length = xs.length ∧
      ∀ x ∈ xs, ∃ i y, Finds b d (f i (columns.map (rowAt ident s mk i x).column)) y := by
  obtain ⟨hlength, hall⟩ := allRows_found (hys.after (h.select hd hk columns)) hf
  rw [List.length_map, numbered_length] at hlength
  refine ⟨hlength, fun x hx => ?_⟩
  obtain ⟨n, hn, rfl⟩ := List.mem_iff_getElem.mp hx
  obtain ⟨row, hrow, hfinds⟩ := hall n _ (List.getElem?_eq_getElem (hlength.symm ▸ hn))
  have hplace : (numbered 0 xs)[n]? = some ((n : Int), xs[n]) := by
    rw [numbered_eq, List.getElem?_mapIdx, List.getElem?_eq_getElem hn, Option.map_some, zero_add]
  rw [List.getElem?_map, hplace] at hrow
  obtain rfl := Option.some.inj hrow
  have hkept : project b columns (rowAt ident s mk n xs[n]) =
      columns.map (rowAt ident s mk n xs[n]).column :=
    project_kept (h.unchanged hb (List.mem_of_getElem? hplace)) columns
  have hread : Finds b d (f n (project b columns (rowAt ident s mk n xs[n]))) _ := hfinds
  exact ⟨n, _, hkept ▸ hread⟩

/-- The number of the elements of a list, without the copy of the last one. -/
lemma StoredAs.count (h : StoredAs m s xs mk) (hd : Holds m ident d) (hk : s.kind = kindOf m) :
    Finds b d (Program.call (Call.query (.data (.count s.table (s.query ident (.ne (-1)))))))
      (some [[.number xs.length]]) := by
  have hcount : (d.tables s.table).countP (s.query ident (.ne (-1))).holds = xs.length := by
    rw [List.countP_eq_length_filter, select_rows hd hk, h.rows, List.length_map, numbered_length]
  have hexec : exec b d (.count s.table (s.query ident (.ne (-1)))) =
      (some [[.number xs.length]], []) := by
    rw [exec, hcount]
  have hrun := data_run (b := b) (congrArg Prod.snd hexec)
  rw [hexec] at hrun
  exact hrun

/-- A list with one element that is stored by itself. -/
lemma sole_select {e : Entry} (hg : group m s = [e]) (he : e.element.index = some 0)
    (hd : Holds m ident d) (hk : s.kind = kindOf m) (columns : List String) :
    Finds b d (selectOrdered s.table columns (s.query ident .any))
      (b.result [project b columns (entryWrite ident e).2]) := by
  have hindex : (entryWrite ident e).2.index = some 0 := he
  have hrows : d.select s.table (s.query ident (.ne (-1))) true = [(entryWrite ident e).2] := by
    rw [Database.select, if_pos rfl, select_rows hd hk, listRows_eq, hg, List.map_singleton,
      List.filter_singleton, hindex]
    exact List.mergeSort_singleton _
  have hexec : exec b d (.select s.table columns (s.query ident (.ne (-1))) true) =
      (b.result [project b columns (entryWrite ident e).2], []) := by
    rw [exec, hrows, List.map_singleton]
  have hrun := data_run (b := b) (congrArg Prod.snd hexec)
  rw [hexec] at hrun
  exact hrun

/-- The reader of a single object finds what it finds in its row. -/
lemma single_row_finds {o : Option α} {entry : α → Entry} (hg : group m s = o.toList.map entry)
    (hb : Unchanged b m) {columns : List String} {f : List Cell → Action β} {g : α → β}
    (hf : ∀ x ∈ o, Finds b d (f (columns.map (entryWrite ident (entry x)).2.column)) (g x)) :
    Finds b d (firstRow f (b.result ((group m s).map fun x =>
      project b columns (entryWrite ident x).2))) (o.map g) := by
  rw [hg]
  cases o with
  | none => exact firstRow_none
  | some x =>
    have hmem : entry x ∈ entriesOf m := mem_entriesOf (by rw [hg]; exact List.mem_singleton_self _)
    have hkept : project b columns (entryWrite ident (entry x)).2 =
        columns.map (entryWrite ident (entry x)).2.column := project_kept (hb _ hmem) columns
    have hrow := firstRow_finds (hf x rfl)
    rw [← hkept] at hrow
    exact hrow

lemma single_finds {o : Option α} {entry : α → Entry} (hg : group m s = o.toList.map entry)
    (hd : Holds m ident d) (hk : s.kind = kindOf m) (hb : Unchanged b m) {columns : List String}
    {f : List Cell → Action β} {g : α → β}
    (hf : ∀ x ∈ o, Finds b d (f (columns.map (entryWrite ident (entry x)).2.column)) (g x)) :
    Finds b d (Classic.select s.table columns (s.query ident .any) >>= firstRow f) (o.map g) :=
  (single_select hd hk columns).bind (single_row_finds hg hb hf)

lemma single_found {o : Option α} {entry : α → Entry} (hg : group m s = o.toList.map entry)
    (hd : Holds m ident d) (hk : s.kind = kindOf m) (hb : Unchanged b m) {columns : List String}
    {f : List Cell → Action β} {y : Option β}
    (hy : Finds b d (Classic.select s.table columns (s.query ident .any) >>= firstRow f) y)
    (hf : ∀ row, (f row).Requests (Reads (kindOf m) ident)) {x : α} (hx : x ∈ o) :
    ∃ z, Finds b d (f (columns.map (entryWrite ident (entry x)).2.column)) z := by
  have hy := hy.after (single_select hd hk columns)
  rw [Option.mem_def.mp hx, Option.toList_some, List.map_singleton] at hg
  have hmem : entry x ∈ entriesOf m := mem_entriesOf (by rw [hg]; exact List.mem_singleton_self _)
  rw [hg, List.map_singleton, Backend.result_of_ne_nil (List.cons_ne_nil _ _)] at hy
  obtain ⟨z, hz, -⟩ := (hy.after fetchRow_finds).of_bind (run_reads (hf _))
  have hkept : project b columns (entryWrite ident (entry x)).2 =
      columns.map (entryWrite ident (entry x)).2.column := project_kept (hb _ hmem) columns
  exact ⟨z, hkept ▸ hz⟩

end Stored

end Preludedb.Classic
