import Preludedb.Classic.Unchecked

/-! What a failed insertion leaves behind. In a transaction of its own it leaves nothing; inside a
transaction of the caller its start, end and abort do nothing, and what it leaves is up to the call
that closes that transaction. -/

namespace Preludedb.Classic

open Foundations Sql Idmef

/-- No failure of an unchecked INSERT is the loss of the session. -/
def KeepsSession (p : Pattern) : Prop :=
  ∀ n t row e, t.unchecked = true → (p n (.query (.data (.insert t row)))).operation = some e →
    preludedbErrorCheck e .connection = false

/-- A session inside a transaction, over the durable database `d`; `outer` says that the
transaction is the caller's. -/
structure Within (d : Database) (outer : Bool) (c : Session) : Prop where
  connected : c.status.connected = true
  transaction : c.status.transaction = true
  pending : c.server.pending.isSome = true
  durable : c.server.durable = d
  disabled : c.internalTransactionDisabled = outer

/-- The same when the session may be gone. -/
structure Interrupted (d : Database) (outer : Bool) (c : Session) : Prop where
  transaction : c.status.transaction = true
  durable : c.server.durable = d
  disabled : c.internalTransactionDisabled = outer

lemma Within.interrupted {d : Database} {outer : Bool} {c : Session} (h : Within d outer c) :
    Interrupted d outer c :=
  ⟨h.transaction, h.durable, h.disabled⟩

section Sessions

variable {b : Backend} {c c' : Session} {o : Outcome} {d : Database} {outer : Bool} {r : Request}
  {e : SqlError}

lemma refused_durable (s : Statement Stmt) : (c.refused s e).server.durable = c.server.durable := by
  rcases (Call.failed_of_update (c := c) (e := e) (.queried c.session s (some e))).session with
    ⟨-, h⟩ | ⟨-, h⟩
  · exact congrArg Store.durable h
  · have hd := congrArg Store.durable h
    exact hd

lemma query_rollback_durable :
    (c.query (engine b) .rollback o).2.server.durable = c.server.durable := by
  have onSession {c : Session} (hc : c.status.connected = true) :
      (c.query (engine b) .rollback o).2.server.durable = c.server.durable := by
    cases ho : o.operation with
    | none =>
      rw [Connection.query_ok hc ho]
      rfl
    | some e =>
      rw [Connection.query_error hc ho]
      exact refused_durable .rollback
  cases hc : c.status.connected with
  | true => exact onSession hc
  | false =>
    cases ho : o.opening with
    | some e =>
      rw [Connection.query_unopened hc ho]
      rfl
    | none =>
      rw [Connection.query_opened hc ho]
      exact onSession rfl

/-- An abort makes nothing durable, whatever it returns. -/
lemma abort_durable : (c.baseTransactionAbort (engine b) o).2.server.durable = c.server.durable := by
  rw [Connection.baseTransactionAbort]
  split
  · have hq := query_rollback_durable (b := b) (c := c.setTransaction false) (o := o)
    simp only
    split
    · rfl
    · rcases hr : (c.setTransaction false).query (engine b) .rollback o with ⟨e | x, c'⟩ <;>
      · rw [hr] at hq
        exact hq
  · rfl

lemma start_within (h : (c.baseTransactionStart (engine b) o).1 = .ok ()) :
    ∃ d, Within d c.internalTransactionDisabled (c.baseTransactionStart (engine b) o).2 ∧
      (d = c.server.durable ∨ d = c.server.view Database.write) := by
  obtain ⟨-, c', hconn, hc', hstart⟩ := Connection.start_success h
  rw [hstart]
  refine ⟨c'.server.view Database.write, ⟨hconn, rfl, rfl, rfl, ?_⟩, ?_⟩
  · rcases hc' with rfl | rfl <;> rfl
  rcases hc' with rfl | rfl
  · exact .inr rfl
  · exact .inl rfl

lemma start_failed (h : (c.baseTransactionStart (engine b) o).1 = .error e) :
    (c.baseTransactionStart (engine b) o).2.server.durable = c.server.durable := by
  have onSession {c : Session} (ht : c.status.transaction = false) (hc : c.status.connected = true)
      (h : (c.baseTransactionStart (engine b) o).1 = .error e) :
      (c.baseTransactionStart (engine b) o).2.server.durable = c.server.durable := by
    cases ho : o.operation with
    | none => rw [Connection.start_ok ht hc ho] at h; cases h
    | some e' =>
      rw [Connection.start_error ht hc ho]
      exact refused_durable .begin
  cases ht : c.status.transaction with
  | true =>
    rw [Connection.start_nested ht]
  | false =>
    cases hc : c.status.connected with
    | true => exact onSession ht hc h
    | false =>
      cases ho : o.opening with
      | some e' =>
        rw [Connection.start_unopened ht hc ho]
        rfl
      | none =>
        rw [Connection.start_opened ht hc ho] at h ⊢
        exact onSession rfl rfl h

/-- A COMMIT that fails makes nothing durable. -/
lemma end_failed (hw : Within d outer c) (h : (c.baseTransactionEnd (engine b) o).1 = .error e) :
    (c.baseTransactionEnd (engine b) o).2.server.durable = d := by
  rw [Connection.end_inside hw.transaction] at h ⊢
  cases ho : o.operation with
  | none => rw [Connection.query_ok hw.connected ho] at h; cases h
  | some e' =>
    rw [Connection.query_error hw.connected ho]
    exact (refused_durable .commit).trans hw.durable

lemma Within.answered (hr : r.inner = true) (h : Within d outer c)
    (ha : Call.Answered (engine b) r c c') : Within d outer c' where
  connected := ha.status ▸ h.connected
  transaction := ha.status ▸ h.transaction
  pending := ha.server ▸ (Call.effect_open (engine b) hr h.pending).2
  durable := by rw [ha.server, (Call.effect_open (engine b) hr h.pending).1, h.durable]
  disabled := ha.disabled.trans h.disabled

lemma Within.failed (h : Within d outer c) (hf : Call.Failed e c c')
    (hk : preludedbErrorCheck e .connection = false) : Within d outer c' := by
  rcases hf.session with ⟨hs, hv⟩ | ⟨hk', -⟩
  · exact ⟨hs ▸ h.connected, hs ▸ h.transaction, hv ▸ h.pending, hv ▸ h.durable,
      hf.disabled.trans h.disabled⟩
  · rw [hk] at hk'
    cases hk'

lemma Within.lost (h : Within d outer c) (hf : Call.Failed e c c') : Interrupted d outer c' := by
  refine ⟨hf.transaction.trans h.transaction, ?_, hf.disabled.trans h.disabled⟩
  rcases hf.session with ⟨-, hv⟩ | ⟨-, hv⟩
  · rw [hv, h.durable]
  · rw [hv, Store.rollback_durable, h.durable]

end Sessions

section

variable [L : Libprelude] {b : Backend} {p : Pattern} {m : Message} {w : World} {d : Database}
  {outer : Bool} {e : SqlError}

/-- The statements of an insertion leave the durable database alone, and only the failure of one
that is checked can interrupt the transaction. -/
lemma insertOf_within (hp : KeepsSession p) (h : Within d outer w.session) :
    ((run b p (insertOf m) w).1 = .ok () → Within d outer (run b p (insertOf m) w).2.session) ∧
      Interrupted d outer (run b p (insertOf m) w).2.session := by
  have hstop : (insertOf m).FailStop
      fun r => ∀ t row, r = .query (.data (.insert t row)) → t.unchecked = false := by
    refine insertOf_failStop fun t ht row hc => ?_
    have h := hc t row rfl
    rw [uncheckedTables_unchecked ht] at h
    cases h
  have hrun := hstop.run_cases (handle b p) (I := fun w => Within d outer w.session)
    (J := fun w => Interrupted d outer w.session) (fun _ h => h.interrupted) ?_ ?_ (insertOf_requests m) h
  · exact ⟨hrun.1 (), hrun.2⟩
  · intro r w hr hw hc
    rcases Call.perform_cases (E := engine b) (o := p w.clock r) hr.inner hw.connected with
      ⟨-, ha⟩ | ⟨e, he, ho, hf⟩
    · exact hw.answered hr.inner ha
    · have hunch : ∃ t row, r = .query (.data (.insert t row)) ∧ t.unchecked = true := by
        by_contra hno
        refine hc e (fun t row hrow => ?_) he
        cases ht : t.unchecked with
        | false => rfl
        | true => exact absurd ⟨t, row, hrow, ht⟩ hno
      obtain ⟨t, row, rfl, ht⟩ := hunch
      exact hw.failed hf (hp _ t row e ht ho)
  · intro r w e hr hw he
    rcases Call.perform_cases (E := engine b) (o := p w.clock r) hr.inner hw.connected with
      ⟨hx, -⟩ | ⟨e', -, -, hf⟩
    · obtain ⟨x, hs⟩ := Call.serve_ok (engine b) r (w.session.server.view Database.write)
      cases (hx.trans hs).symm.trans he
    · exact hw.lost hf

/-- A failed insertion in a transaction of its own; the transaction that an earlier failure may have
left open on the server is committed by the start. -/
lemma own_failed {w' : World} (hp : KeepsSession p)
    (hd : w.session.internalTransactionDisabled = false)
    (h : run b p (classicInsert m) w = (.error e, w')) :
    w'.session.server.durable = w.session.server.durable ∨
      w'.session.server.durable = w.session.server.view Database.write := by
  have hstart := handle_start (b := b) (p := p) hd
  rcases inTransaction_error h with ⟨e', hs⟩ | ⟨w₁, hs, hbody⟩
  · obtain ⟨he, rfl⟩ := Prod.mk.inj (hstart.symm.trans hs)
    exact .inl (start_failed he)
  · obtain ⟨hok, hw₁⟩ := Prod.mk.inj (hstart.symm.trans hs)
    obtain ⟨d, hw, hbefore⟩ := start_within hok
    suffices hdur : w'.session.server.durable = d by
      rw [hdur]
      exact hbefore
    have hwithin : Within d false w₁.session := by
      rw [← hw₁, ← hd]
      exact hw
    obtain ⟨hin, hout⟩ := insertOf_within (b := b) (m := m) hp hwithin
    rcases hbody with ⟨e', w₂, hb, ha⟩ | ⟨e', w₂, hb, he⟩
    · rw [hb] at hout
      rw [handle_abort hout.disabled] at ha
      rw [← ha, ← hout.durable]
      exact abort_durable
    · rw [hb] at hin
      have hw₂ := hin rfl
      rw [handle_end hw₂.disabled] at he
      obtain ⟨herr, rfl⟩ := Prod.mk.inj he
      exact end_failed hw₂ herr

/-- Inside a transaction of the caller an insertion is its statements and nothing else. -/
lemma outer_run (hp : KeepsSession p) (h : Within d true w.session) :
    ((run b p (classicInsert m) w).1 = .ok () →
      Within d true (run b p (classicInsert m) w).2.session) ∧
      Interrupted d true (run b p (classicInsert m) w).2.session := by
  rw [classicInsert, inTransaction_run, (handle_outer h.disabled).1]
  obtain ⟨hin, hout⟩ :=
    insertOf_within (b := b) (m := m) (w := ⟨w.session, w.clock + 1⟩) hp h
  rcases hb : run b p (insertOf m) ⟨w.session, w.clock + 1⟩ with ⟨e | u, w₂⟩
  · rw [hb] at hout
    simp only [hb, (handle_outer hout.disabled).2.2]
    exact ⟨fun h => (by cases h), hout⟩
  · rw [hb] at hin
    have hw₂ := hin rfl
    simp only [hb, (handle_outer hw₂.disabled).2.1]
    exact ⟨fun _ => hw₂, hw₂.interrupted⟩

def insertAll : List Message → Action Unit
  | [] => pure ()
  | m :: ms => do
    classicInsert m
    insertAll ms

/-- A transaction of the caller, with some insertions made in it. -/
def inOuter (ms : List Message) : Action Unit := do
  let _ ← Program.call .outerTransactionStart
  insertAll ms

lemma insertAll_within {ms : List Message} (hp : KeepsSession p) (h : Within d true w.session)
    (hok : (run b p (insertAll ms) w).1 = .ok ()) :
    Within d true (run b p (insertAll ms) w).2.session := by
  induction ms generalizing w with
  | nil => exact h
  | cons m ms ih =>
    obtain ⟨u, hm, hms⟩ := Program.run_bind_ok.mp hok
    have hw := (outer_run (b := b) (m := m) hp h).1 hm
    rcases hr : (classicInsert m).run (handle b p) w with ⟨e | u, w'⟩
    · rw [hr] at hm
      cases hm
    · have hrun : run b p (insertAll (m :: ms)) w = run b p (insertAll ms) w' := by
        rw [run, insertAll, Program.run_bind, hr]
        rfl
      rw [run, hr] at hw
      rw [hr] at hms
      rw [hrun]
      exact ih hw hms

omit L in
lemma outerStart_within (h : (handle b p .outerTransactionStart w).1 = .ok ()) :
    ∃ d, Within d true (handle b p .outerTransactionStart w).2.session ∧
      (d = w.session.server.durable ∨ d = w.session.server.view Database.write) := by
  rcases hs : w.session.baseTransactionStart (engine b) (p w.clock .outerTransactionStart) with
    ⟨e | u, c⟩
  · simp only [handle, Call.perform, Connection.outerTransactionStart, hs] at h
    cases h
  · obtain ⟨d, hw, hbefore⟩ := start_within (congrArg Prod.fst hs)
    rw [hs] at hw
    refine ⟨d, ?_, hbefore⟩
    simp only [handle, Call.perform, Connection.outerTransactionStart, hs]
    exact ⟨hw.connected, hw.transaction, hw.pending, hw.durable, rfl⟩

lemma inOuter_within {ms : List Message} {w' : World} (hp : KeepsSession p)
    (h : run b p (inOuter ms) w = (.ok (), w')) : ∃ d, Within d true w'.session ∧
      (d = w.session.server.durable ∨ d = w.session.server.view Database.write) := by
  have hok : ((inOuter ms).run (handle b p) w).1 = .ok () := congrArg Prod.fst h
  obtain ⟨u, hs, hms⟩ := Program.run_bind_ok.mp hok
  rw [Program.run_call] at hs hms
  obtain ⟨d, hw, hbefore⟩ := outerStart_within (b := b) (p := p) hs
  rw [run, inOuter, Program.run_bind, Program.run_call] at h
  rcases hr : handle b p .outerTransactionStart w with ⟨e | u, w₁⟩
  · rw [hr] at hs
    cases hs
  · rw [hr] at h hw hms
    have hend := insertAll_within hp hw hms
    have hrun : run b p (insertAll ms) w₁ = (.ok (), w') := h
    rw [hrun] at hend
    exact ⟨d, hend, hbefore⟩

end

lemma refusing_keepsSession (t : Table) : KeepsSession (refusing t) := by
  intro n t' row e _ he
  rw [refusing] at he
  split at he
  · cases he
    rfl
  · cases he

/-- An insertion in a transaction that the caller ends whatever became of the insertion. -/
def insertInOuter [L : Libprelude] (m : Message) : Action (Except SqlError Unit) := do
  inOuter []
  let ret ← (classicInsert m).attempt
  let _ ← Program.call .outerTransactionEnd
  pure ret

end Preludedb.Classic
