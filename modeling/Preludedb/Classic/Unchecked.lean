import Preludedb.Classic.Issued
import Preludedb.Classic.Sessions

/-! What becomes of a failing statement of an insertion: three INSERT statements are issued without
a look at their result, and an insertion can pass over their failure only. -/

namespace Preludedb.Classic

open Foundations Sql Idmef

def isStatement : Request → Prop
  | .query (.data _) => True
  | _ => False

/-- The INSERT statements into the tables outside `F` are answered. -/
def Spares (F : Table → Prop) (p : Pattern) : Prop :=
  ∀ n t r, ¬ F t → p n (.query (.data (.insert t r))) = .ok

/-- The INSERT statements into one table are refused, and nothing else. -/
def refusing (t : Table) : Pattern
  | _, .query (.data (.insert t' _)) =>
    if t' = t then ⟨none, some (preludedbError .query)⟩ else .ok
  | _, _ => .ok

section Refused

variable {b : Backend} {w : World} {t : Table}

/-- A session inside a transaction of its own. -/
def Steady (w : World) : Prop :=
  w.session.status = ⟨true, true⟩ ∧ w.session.internalTransactionDisabled = false

/-- The inner requests that are answered although one table refuses its rows. -/
def Granted (t : Table) (r : Request) : Prop :=
  r.inner = true ∧ ∀ row, r ≠ .query (.data (.insert t row))

lemma refusing_granted {r : Request} {n : ℕ} (h : ∀ row, r ≠ .query (.data (.insert t row))) :
    refusing t n r = .ok := by
  rw [refusing.eq_def]
  split
  · split
    · next ht => exact absurd (by rw [ht]) (h _)
    · rfl
  · rfl

lemma steady_handle {r : Request} (hr : r.inner = true) (h : Steady w) :
    Steady (handle b (refusing t) r w).2 := by
  have hconn : w.session.status.connected = true := by rw [h.1]
  rcases Call.perform_cases (E := engine b) (o := refusing t w.clock r) hr hconn with
    ⟨-, ha⟩ | ⟨e, -, ho, hf⟩
  · exact ⟨ha.status.trans h.1, ha.disabled.trans h.2⟩
  · have hquery : e.code = .query := by
      rw [refusing.eq_def] at ho
      split at ho
      · split at ho
        · exact (Option.some.inj ho) ▸ rfl
        · cases ho
      · cases ho
    rcases hf.session with ⟨hs, -⟩ | ⟨hk, -⟩
    · exact ⟨hs.trans h.1, hf.disabled.trans h.2⟩
    · rw [preludedbErrorCheck, hquery] at hk
      cases hk

lemma granted_handle {r : Request} (hr : Granted t r) (h : Steady w) :
    ∃ x, (handle b (refusing t) r w).1 = .ok x := by
  have hconn : w.session.status.connected = true := by rw [h.1]
  rcases Call.perform_cases (E := engine b) (o := refusing t w.clock r) hr.1 hconn with
    ⟨hx, -⟩ | ⟨e, -, ho, -⟩
  · obtain ⟨x, hs⟩ := Call.serve_ok (engine b) r (w.session.server.view Database.write)
    exact ⟨x, hx.trans hs⟩
  · rw [refusing_granted hr.2] at ho
    cases ho

lemma refused_handle (row : Row) (h : Steady w) :
    ∃ e, (handle b (refusing t) (.query (.data (.insert t row))) w).1 = .error e := by
  have hconn : w.session.status.connected = true := by rw [h.1]
  have ho : (refusing t w.clock (.query (.data (.insert t row)))).operation =
      some (preludedbError .query) := by
    rw [refusing, if_pos rfl]
  exact ⟨_, congrArg Prod.fst (Connection.query_error hconn ho)⟩

lemma granted_stores {k : Kind} {ident : ℕ} {r : Request} (h : Stores k ident r)
    (hr : ∀ e fields, r = Element.insert ident e fields → e.table ≠ t) : Granted t r := by
  refine ⟨h.inner, ?_⟩
  rintro row rfl
  cases h with
  | insert e fields hk => exact hr e fields rfl rfl

lemma steady_end (h : Steady w) : (handle b (refusing t) .transactionEnd w).1 = .ok () := by
  have hconn : w.session.status.connected = true := by rw [h.1]
  have htran : w.session.status.transaction = true := by rw [h.1]
  have hend : (w.session.transactionEnd (engine b) .ok).1 = .ok () := by
    rw [Connection.transactionEnd, h.2, if_neg Bool.false_ne_true, Connection.end_inside htran,
      Connection.query_ok hconn rfl]
    rfl
  exact hend

end Refused

section

variable [L : Libprelude]

def Converts : Option Data → Prop
  | some (.byteString _) | some (.charString _) | some (.char _) => True
  | d => ∃ string, L.dataToString d = .ok string

/-- The data of the message have a text. -/
def Convertible (m : Message) : Prop := ∀ d ∈ dataOf m, Converts d

lemma converts_iff {d : Option Data} :
    Converts d ↔ ∃ bytes, (Literal.data d).step = .must (.escapeBinary (some bytes)) id := by
  cases d with
  | none => cases hd : L.dataToString none <;> simp [Converts, Literal.step, hd]
  | some d =>
    cases d with
    | byteString _ | charString _ | char _ => exact iff_of_true trivial ⟨_, rfl⟩
    | unknown | byte _ | uint32 _ | int _ | float _ | time _ =>
      simp only [Converts, Literal.step]
      generalize L.dataToString (some _) = text
      cases text <;> simp

variable {b : Backend} {p : Pattern} {w : World} {m : Message} {t : Table} {F : Table → Prop}

lemma insertOf_not_convertible (h : ¬ Convertible m) (a : Unit) :
    (run b p (insertOf m) w).1 ≠ .ok a := by
  simp only [Convertible, not_forall] at h
  obtain ⟨d, hd, hc⟩ := h
  obtain ⟨e, he, hl⟩ := exists_data hd
  have hstep : ∃ err, (Literal.data d).step = .stop err := by
    rcases Literal.step_data d with h | ⟨err, -, h⟩
    · exact absurd (converts_iff.mpr h) hc
    · exact ⟨err, h⟩
  obtain ⟨err, hstep⟩ := hstep
  have hstop (ident : ℕ) : Step.stop err ∈ (entriesOf m).flatMap (Entry.steps ident) := by
    refine List.mem_flatMap.mpr ⟨e, he, List.mem_append_left _ ?_⟩
    exact hstep ▸ List.mem_map_of_mem hl
  rw [run, insertOf_eq]
  intro hok
  obtain ⟨u, -, hok⟩ := Program.run_bind_ok.mp hok
  obtain ⟨ident, -, hok⟩ := Program.run_bind_ok.mp hok
  exact Program.script_stop (hstop ident) a hok

/-- A failure that an insertion passes over is that of a statement on one of the unchecked tables
of the message. -/
lemma insertOf_succeeds (hp : Spares F p) (hF : ∀ t ∈ uncheckedTables m, ¬ F t)
    (h : (run b p (insertOf m) w).1 = .ok ()) :
    (insertOf m).Succeeds (handle b p) isStatement w := by
  have hstop : (insertOf m).FailStop fun r => ∀ t row, r = .query (.data (.insert t row)) → F t :=
    insertOf_failStop fun t ht row hc => hF t ht (hc t row rfl)
  refine hstop.succeeds_all (insertOf_requests m) (fun r w' _ _ hc e => ?_) h
  push Not at hc
  obtain ⟨t, row, rfl, ht⟩ := hc
  exact Call.query_of_ok _ (hp w'.clock t row ht) e

lemma steps_survive {e : Entry} {k : Kind} {ident : ℕ} {W : Table → Prop}
    (ht : t.unchecked = true) (h : e.Fits k W Converts) :
    ∀ s ∈ e.steps ident, s.Survives (Granted t) := by
  have hescape (input : Option String) : Granted t (.escapeFast input) :=
    ⟨rfl, fun row h => by cases h⟩
  have hbinary (bytes : List UInt8) : Granted t (.escapeBinary (some bytes)) :=
    ⟨rfl, fun row h => by cases h⟩
  have hinsert (e : Element) (fields : List (String × Cell)) (he : e.table ≠ t) :
      Granted t (e.insert ident fields) := by
    refine ⟨rfl, fun row h => he ?_⟩
    cases h
    rfl
  simp only [Entry.steps, List.forall_mem_append, List.forall_mem_map, List.forall_mem_singleton]
  constructor
  · intro l hl
    cases l with
    | text input | textOr n input => exact hescape input
    | data d =>
      obtain ⟨bytes, hd⟩ := converts_iff.mp (h.data d hl)
      rw [hd]
      exact hbinary bytes
  · have hp := h.passes
    cases hi : e.issue with
    | checked | checkedOr n =>
      refine hinsert e.element e.fields fun he => ?_
      rw [hi, he, ht] at hp
      cases hp
    | unchecked => exact List.forall_mem_nil _
    | uncheckedOrNull =>
      have hnull : (Element.toolAlertident (-1)).table ≠ t := fun h => by
        rw [← h] at ht
        cases ht
      simp only [Issue.step, Step.Survives, nullAlertident, List.forall_mem_cons]
      exact ⟨hescape none, hescape none, hinsert _ _ hnull, List.forall_mem_nil _⟩

lemma uncheckedTables_unchecked (ht : t ∈ uncheckedTables m) : t.unchecked = true := by
  obtain ⟨e, he, rfl, hp⟩ := exists_unchecked ht
  rw [← (entriesOf_fits m e he).passes, hp]

/-- A store goes through although one of its statements is refused. -/
lemma store_refused (ident : ℕ) (hm : Convertible m) (ht : t ∈ uncheckedTables m) (h : Steady w) :
    ((Entry.store ident (entriesOf m)).run (handle b (refusing t)) w).1 = .ok () ∧
      Steady ((Entry.store ident (entriesOf m)).run (handle b (refusing t)) w).2 ∧
      ¬ (Entry.store ident (entriesOf m)).Succeeds (handle b (refusing t)) isStatement w := by
  have hunch := uncheckedTables_unchecked ht
  have hfits : ∀ e ∈ entriesOf m, e.Fits (kindOf m) (· ∈ uncheckedTables m) Converts := fun e he =>
    { entriesOf_fits m e he with data := fun d hd => hm d ((entriesOf_fits m e he).data d hd) }
  have hsurvive : ∀ s ∈ (entriesOf m).flatMap (Entry.steps ident), s.Survives (Granted t) := by
    intro s hs
    obtain ⟨e, he, hs⟩ := List.mem_flatMap.mp hs
    exact steps_survive hunch (hfits e he) s hs
  have hinner : ∀ s ∈ (entriesOf m).flatMap (Entry.steps ident), ∀ r ∈ s.passedOver,
      r.inner = true := by
    intro s hs r hr
    obtain ⟨e, -, hs⟩ := List.mem_flatMap.mp hs
    rw [(Entry.steps_passedOver s hs r hr).1]
    rfl
  obtain ⟨e, he, htable, hpass⟩ := exists_unchecked ht
  obtain ⟨s, hs, hover⟩ : ∃ s ∈ (entriesOf m).flatMap (Entry.steps ident),
      s.passedOver = some (e.insert ident) := by
    refine ⟨e.issue.step ident (e.insert ident), List.mem_flatMap.mpr ⟨e, he, by simp [Entry.steps]⟩, ?_⟩
    cases hi : e.issue with
    | checked | checkedOr n => rw [hi] at hpass; cases hpass
    | unchecked | uncheckedOrNull => rfl
  have hrefused : ∀ w, Steady w → ∃ x, (handle b (refusing t) (e.insert ident) w).1 = .error x := by
    intro w hw
    rw [Entry.insert, Element.insert, htable]
    exact refused_handle _ hw
  have hgranted := fun (r : Request) w (hr : Granted t r) (hw : Steady w) => granted_handle (b := b) hr hw
  have hsteady := fun (r : Request) w (hr : r.inner = true) (hw : Steady w) =>
    steady_handle (b := b) (t := t) hr hw
  obtain ⟨hrun, hend⟩ :=
    Program.script_run hgranted hsteady (fun r hr => hr.1) hsurvive hinner h
  exact ⟨hrun, hend, Program.script_not_succeeds hgranted hsteady (fun r hr => hr.1) hsurvive hinner h
    hs hover trivial hrefused⟩

lemma insertOf_refused (hm : Convertible m) (ht : t ∈ uncheckedTables m)
    (h : Steady w) (hd : Inside Database.empty w.session) :
    (run b (refusing t) (insertOf m) w).1 = .ok () ∧ Steady (run b (refusing t) (insertOf m) w).2 ∧
      ¬ (insertOf m).Succeeds (handle b (refusing t)) isStatement w := by
  let head : Action ℕ := Program.call (.escapeFast (messageidOf m)) >>= fun _ =>
    insertMessage (kindOf m) (topFields m)
  have hbody : insertOf m = head >>= fun ident => Entry.store ident (entriesOf m) := by
    rw [insertOf_eq, bind_assoc]
  have hgranted := fun (r : Request) w (hr : Granted t r) (hw : Steady w) => granted_handle (b := b) hr hw
  have hsteady := fun (r : Request) w (hr : Granted t r) (hw : Steady w) =>
    steady_handle (b := b) (t := t) hr.1 hw
  have hq : head.Requests (Granted t) :=
    .bind (.call ⟨rfl, fun _ h => by cases h⟩) fun _ => insertMessage_requests
      ⟨rfl, fun _ h => by cases h⟩ ⟨rfl, fun _ h => by cases h⟩ ⟨rfl, fun _ h => by cases h⟩
      ⟨rfl, fun _ h => by cases h⟩
  have hsteady' : Steady (head.run (handle b (refusing t)) w).2 := hq.run_preserves _ hsteady h
  have hserved := hd.run (p := refusing t) (b := b) (fun r hr => hr.1) hq
    (hq.succeeds hgranted hsteady h)
  have hident : (head.run (handle b (refusing t)) w).1 = .ok 1 := by
    refine hserved.1.trans ?_
    simp only [head, Program.run_bind, Program.run_call]
    have hserve := insertMessage_serve b Database.empty (kindOf m) (topFields m)
    have hsmall : Database.empty.counter (kindOf m) < 2 ^ 64 := show 1 < 2 ^ 64 by decide
    rw [fieldToUint64_natCast.mpr ⟨hsmall, rfl⟩] at hserve
    exact congrArg Prod.fst hserve
  obtain ⟨hok, hend, hnot⟩ := store_refused (b := b) 1 hm ht hsteady'
  refine ⟨?_, ?_, fun hs => ?_⟩
  · rw [run, hbody]
    exact Program.run_bind_ok.mpr ⟨1, hident, hok⟩
  · rw [run, hbody, Program.run_bind]
    rcases hr : head.run (handle b (refusing t)) w with ⟨e | ident, w'⟩
    · rw [hr] at hident
      cases hident
    · rw [hr] at hident hend
      cases hident
      exact hend
  · rw [hbody, Program.succeeds_bind] at hs
    exact hnot (hs.2 1 hident)

lemma classicInsert_refused (hm : Convertible m) (ht : t ∈ uncheckedTables m) :
    (run .sqlite3 (refusing t) (classicInsert m) newWorld).1 = .ok () ∧
      ¬ (classicInsert m).Succeeds (handle .sqlite3 (refusing t)) isStatement newWorld := by
  have hstart : (handle .sqlite3 (refusing t) .transactionStart newWorld).1 = .ok () := rfl
  have hsteady : Steady (handle .sqlite3 (refusing t) .transactionStart newWorld).2 := ⟨rfl, rfl⟩
  have hinside : Inside Database.empty
      (handle .sqlite3 (refusing t) .transactionStart newWorld).2.session := ⟨rfl, rfl, rfl, rfl⟩
  obtain ⟨hok, hend, hnot⟩ := insertOf_refused (b := .sqlite3) hm ht hsteady hinside
  refine ⟨?_, fun h => hnot ((inTransaction_succeeds id id id hstart).mp h)⟩
  rw [classicInsert, inTransaction_end hstart hok]
  exact steady_end hend

/-- An insertion reports every failing statement exactly when the patterns of failures cannot touch
an unchecked table that the message fills. -/
theorem classicInsert_reports_iff (m : Message) (F : Table → Prop) :
    (∀ b p w, Spares F p → (run b p (classicInsert m) w).1 = .ok () →
      (classicInsert m).Succeeds (handle b p) isStatement w) ↔
    (Convertible m → ∀ t ∈ uncheckedTables m, ¬ F t) := by
  constructor
  · intro h hm t ht hF
    have hspares : Spares F (refusing t) := fun n t' r ht' =>
      if_neg fun he : t' = t => ht' (he ▸ hF)
    obtain ⟨hok, hnot⟩ := classicInsert_refused hm ht
    exact hnot (h .sqlite3 _ newWorld hspares hok)
  · intro hF b p w hp hok
    obtain ⟨hstart, hbody⟩ := inTransaction_ok hok
    refine (inTransaction_succeeds id id id hstart).mpr ?_
    by_cases hm : Convertible m
    · exact insertOf_succeeds hp (hF hm) hbody
    · exact absurd hbody (insertOf_not_convertible hm ())

end

theorem classicInsert_drops_failure :
    (run .sqlite3 (refusing .classification) (classicInsert (L := bareLibrary)
      (.alert classifiedAlert)) newWorld).1 = .ok () ∧
    ¬ (classicInsert (L := bareLibrary) (.alert classifiedAlert)).Succeeds
      (handle .sqlite3 (refusing .classification)) isStatement newWorld :=
  classicInsert_refused (L := bareLibrary) (m := .alert classifiedAlert)
    (List.forall_mem_nil _) List.mem_cons_self

end Preludedb.Classic
