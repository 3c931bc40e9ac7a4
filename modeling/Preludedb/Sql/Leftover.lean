import Preludedb.Sql.Mutex

/-! What the server has open when the status word shows no transaction: a COMMIT or a ROLLBACK that
the server refuses clears the TRANSACTION bit, and nothing else does away with the transaction. -/

namespace Preludedb.Sql

open Foundations

variable {σ ρ δ ω : Type}

/-- The plugin reports an error and keeps the session. -/
def Outcome.Refused (o : Outcome) : Prop :=
  ∃ e ∈ o.operation, preludedbErrorCheck e .connection = false

instance (o : Outcome) : Decidable o.Refused :=
  inferInstanceAs (Decidable (∃ e ∈ o.operation, _))

namespace Connection

variable {E : Engine σ ρ δ ω} {s : Statement σ} {o : Outcome} {c d : Connection σ δ ω}

def NothingLeftOpen (c : Connection σ δ ω) : Prop :=
  c.status.connected = true → c.status.transaction = false → c.server.pending = none

lemma nothingLeftOpen_of_same (hs : d.status = c.status) (hp : d.server = c.server) :
    d.NothingLeftOpen ↔ c.NothingLeftOpen := by
  rw [NothingLeftOpen, NothingLeftOpen, hs, hp]

lemma nothingLeftOpen_of_closed (h : c.status.connected = false) : c.NothingLeftOpen := by
  intro hc
  rw [h] at hc
  cases hc

lemma nothingLeftOpen_of_transaction (h : c.status.transaction = true) : c.NothingLeftOpen := by
  intro _ ht
  rw [h] at ht
  cases ht

lemma opened_nothingLeftOpen (c : Connection σ δ ω) : c.opened.NothingLeftOpen := fun _ _ => rfl

lemma update_nothingLeftOpen (e : SqlError) (h : c.NothingLeftOpen) :
    (c.updateSqlFromErrno e).NothingLeftOpen := by
  cases hk : preludedbErrorCheck e .connection with
  | true => exact nothingLeftOpen_of_closed (by simp [updateSqlFromErrno, hk])
  | false => simpa [updateSqlFromErrno, hk] using h

lemma refused_nothingLeftOpen (e : SqlError) (h : c.NothingLeftOpen) :
    (c.refused s e).NothingLeftOpen :=
  update_nothingLeftOpen e h

lemma refused_kept {e : SqlError} (hk : preludedbErrorCheck e .connection = false) :
    (c.refused s e).status = c.status ∧ (c.refused s e).server = c.server := by
  simp [refused, updateSqlFromErrno, hk, raise, record]

lemma refused_lost {e : SqlError} (hk : preludedbErrorCheck e .connection = true) :
    (c.refused s e).status.connected = false := by
  simp [refused, updateSqlFromErrno, hk]

/-- A statement other than BEGIN opens no transaction. -/
lemma answered_nothingLeftOpen (hs : s ≠ .begin) (h : c.NothingLeftOpen) :
    (c.answered E s).NothingLeftOpen := by
  intro hc ht
  cases s with
  | begin => exact absurd rfl hs
  | commit | rollback => rfl
  | data q =>
    have hp : c.server.pending = none := h hc ht
    simp [answered, Engine.execute, Store.write, hp]

lemma query_nothingLeftOpen (hs : s ≠ .begin) (h : c.NothingLeftOpen) :
    (c.query E s o).2.NothingLeftOpen := by
  have onSession {d : Connection σ δ ω} (hd : d.status.connected = true)
      (h : d.NothingLeftOpen) : (d.query E s o).2.NothingLeftOpen := by
    cases ho : o.operation with
    | none =>
      rw [query_ok hd ho]
      exact answered_nothingLeftOpen hs h
    | some e =>
      rw [query_error hd ho]
      exact refused_nothingLeftOpen e h
  cases hc : c.status.connected with
  | true => exact onSession hc h
  | false =>
    cases ho : o.opening with
    | some e =>
      rw [query_unopened hc ho]
      exact (nothingLeftOpen_of_same rfl rfl).mpr h
    | none =>
      rw [query_opened hc ho]
      exact onSession rfl c.opened_nothingLeftOpen

lemma begin_nothingLeftOpen_iff (h : c.NothingLeftOpen) :
    (c.query E .begin o).2.NothingLeftOpen ↔ ¬ (o.operation = none ∧
      if c.status.connected then c.status.transaction = false else o.opening = none) := by
  have onSession {d : Connection σ δ ω} (hd : d.status.connected = true)
      (h : d.NothingLeftOpen) : (d.query E .begin o).2.NothingLeftOpen ↔
        ¬ (o.operation = none ∧ d.status.transaction = false) := by
    cases ho : o.operation with
    | none =>
      rw [query_ok hd ho]
      have hopen : (d.answered E .begin).server.pending = some [] := rfl
      have hstatus : (d.answered E .begin).status = d.status := rfl
      rw [NothingLeftOpen, hopen, hstatus]
      simp [hd]
    | some e =>
      rw [query_error hd ho]
      simpa using refused_nothingLeftOpen e h
  cases hc : c.status.connected with
  | true => simpa using onSession hc h
  | false =>
    cases ho : o.opening with
    | some e =>
      rw [query_unopened hc ho]
      simpa using (nothingLeftOpen_of_same (d := c.raise e) rfl rfl).mpr h
    | none =>
      rw [query_opened hc ho, onSession rfl c.opened_nothingLeftOpen]
      simp [opened]

lemma start_nothingLeftOpen (h : c.NothingLeftOpen) :
    (c.baseTransactionStart E o).2.NothingLeftOpen := by
  have onSession {d : Connection σ δ ω} (ht : d.status.transaction = false)
      (hd : d.status.connected = true) (h : d.NothingLeftOpen) :
      (d.baseTransactionStart E o).2.NothingLeftOpen := by
    cases ho : o.operation with
    | none =>
      rw [start_ok ht hd ho]
      exact nothingLeftOpen_of_transaction rfl
    | some e =>
      rw [start_error ht hd ho]
      exact refused_nothingLeftOpen e h
  cases ht : c.status.transaction with
  | true =>
    rw [start_nested ht]
    exact h
  | false =>
    cases hc : c.status.connected with
    | true => exact onSession ht hc h
    | false =>
      cases ho : o.opening with
      | some e =>
        rw [start_unopened ht hc ho]
        exact (nothingLeftOpen_of_same rfl rfl).mpr h
      | none =>
        rw [start_opened ht hc ho]
        exact onSession rfl rfl c.opened_nothingLeftOpen

/-- With the bit cleared, all depends on what the statement that ends the transaction did. -/
lemma query_cleared_iff (hs : s = .commit ∨ s = .rollback) :
    ((c.query E s o).2.setTransaction false).NothingLeftOpen ↔
      ¬ (c.status.connected = true ∧ c.server.pending ≠ none ∧ o.Refused) := by
  have onSession {d : Connection σ δ ω} (hd : d.status.connected = true) :
      ((d.query E s o).2.setTransaction false).NothingLeftOpen ↔
        ¬ (d.server.pending ≠ none ∧ o.Refused) := by
    cases ho : o.operation with
    | none =>
      rw [query_ok hd ho]
      have hclosed : (E.execute s d.server).2.pending = none := by
        rcases hs with rfl | rfl <;> rfl
      simp [NothingLeftOpen, setTransaction, answered, hclosed, Outcome.Refused, ho]
    | some e =>
      rw [query_error hd ho]
      cases hk : preludedbErrorCheck e .connection with
      | true =>
        have hlost : ((d.refused s e).setTransaction false).NothingLeftOpen :=
          nothingLeftOpen_of_closed (refused_lost hk)
        simp [hlost, Outcome.Refused, ho, hk]
      | false =>
        obtain ⟨hstatus, hserver⟩ := refused_kept (c := d) (s := s) hk
        simp [NothingLeftOpen, setTransaction, hstatus, hserver, hd, Outcome.Refused, ho, hk]
  cases hc : c.status.connected with
  | true => simpa using onSession hc
  | false =>
    cases ho : o.opening with
    | some e =>
      rw [query_unopened hc ho]
      have hlost : ((c.raise e).setTransaction false).status.connected = false := hc
      simpa using nothingLeftOpen_of_closed hlost
    | none =>
      rw [query_opened hc ho, onSession rfl]
      simp [opened]

lemma end_nothingLeftOpen_iff (h : c.NothingLeftOpen) :
    (c.baseTransactionEnd E o).2.NothingLeftOpen ↔ ¬ (c.status.transaction = true ∧
      c.status.connected = true ∧ c.server.pending ≠ none ∧ o.Refused) := by
  cases ht : c.status.transaction with
  | false =>
    rw [end_outside ht]
    simpa using h
  | true =>
    rw [end_inside ht]
    simpa using! query_cleared_iff (.inl rfl)

lemma query_rollback_cleared_iff (ht : c.status.transaction = false) :
    (c.query E .rollback o).2.NothingLeftOpen ↔
      ¬ (c.status.connected = true ∧ c.server.pending ≠ none ∧ o.Refused) := by
  have hbit : (c.query E .rollback o).2.status.transaction = false := by
    rw [(query_locks E .rollback o c).2, ht, ite_self]
  have hstatus : ((c.query E .rollback o).2.setTransaction false).status =
      (c.query E .rollback o).2.status := by
    simp only [setTransaction]
    rw [← hbit]
  rw [← query_cleared_iff (.inr rfl)]
  exact (nothingLeftOpen_of_same hstatus rfl).symm

lemma abort_nothingLeftOpen_iff (h : c.NothingLeftOpen) :
    (c.baseTransactionAbort E o).2.NothingLeftOpen ↔ ¬ (c.status.transaction = true ∧
      c.status.connected = true ∧ c.server.pending ≠ none ∧ o.Refused) := by
  cases ht : c.status.transaction with
  | false =>
    rw [abort_outside ht]
    simpa using h
  | true =>
    have hrollback := query_rollback_cleared_iff (E := E) (o := o) (c := c.setTransaction false) rfl
    have hserver : (c.setTransaction false).server = c.server := rfl
    have hconnected : (c.setTransaction false).status.connected = c.status.connected := rfl
    rw [hserver, hconnected] at hrollback
    simp only [baseTransactionAbort, ht, if_true, true_and]
    rw [← hrollback]
    split
    · rename_i hc
      have hlost : (c.setTransaction false).status.connected = false := hc
      refine iff_of_true (nothingLeftOpen_of_closed hlost) ?_
      rw [hrollback, ← hconnected, hlost]
      simp
    · rcases hq : (c.setTransaction false).query E .rollback o with ⟨e | r, d⟩ <;>
        exact nothingLeftOpen_of_same rfl rfl

end Connection

namespace Call

/-- The calls that end the transaction of the status word. -/
def endsTransaction (c : Connection σ δ ω) : Call σ → Bool
  | .baseTransactionEnd | .baseTransactionAbort | .outerTransactionEnd
  | .outerTransactionAbort => c.status.transaction
  | .transactionEnd | .transactionAbort =>
    c.status.transaction && !c.internalTransactionDisabled
  | _ => false

/-- A transaction of the server survives the call that ends it, or a BEGIN is sent as a query. -/
def LeavesOpen (c : Connection σ δ ω) (l : Call σ × Outcome) : Prop :=
  (l.1.endsTransaction c = true ∧ c.status.connected = true ∧ c.server.pending ≠ none ∧
    l.2.Refused) ∨
  (l.1 = .query .begin ∧ l.2.operation = none ∧
    if c.status.connected then c.status.transaction = false else l.2.opening = none)

lemma leavesOpen_ends {c : Connection σ δ ω} {r : Call σ} (o : Outcome) (hr : r ≠ .query .begin) :
    LeavesOpen c (r, o) ↔ (r.endsTransaction c = true ∧ c.status.connected = true ∧
      c.server.pending ≠ none ∧ o.Refused) := by
  simp [LeavesOpen, hr]

lemma not_leavesOpen {c : Connection σ δ ω} {r : Call σ} (o : Outcome) (hr : r ≠ .query .begin)
    (he : r.endsTransaction c = false) : ¬ LeavesOpen c (r, o) := by
  simp [leavesOpen_ends o hr, he]

lemma step_nothingLeftOpen_iff (E : Engine σ ρ δ ω) (c : Connection σ δ ω) (l : Call σ × Outcome)
    (h : c.NothingLeftOpen) : (step E c l).NothingLeftOpen ↔ ¬ LeavesOpen c l := by
  obtain ⟨r, o⟩ := l
  have kept {d : Connection σ δ ω} (hr : r ≠ .query .begin) (he : r.endsTransaction c = false)
      (hd : d.NothingLeftOpen) : d.NothingLeftOpen ↔ ¬ LeavesOpen c (r, o) :=
    iff_of_true hd (not_leavesOpen o hr he)
  have escaped : (c.escape o).2.NothingLeftOpen := by
    have onSession {d : Connection σ δ ω} (hd : d.status.connected = true)
        (h : d.NothingLeftOpen) : (d.escape o).2.NothingLeftOpen := by
      rw [Connection.escape_connected hd]
      cases o.operation <;> exact h
    cases hc : c.status.connected with
    | true => exact onSession hc h
    | false =>
      cases ho : o.opening with
      | some e =>
        rw [Connection.escape_unopened hc ho]
        exact h
      | none =>
        rw [Connection.escape_opened hc ho]
        exact onSession rfl c.opened_nothingLeftOpen
  have fetched : (c.fetch o).2.NothingLeftOpen := by
    rw [Connection.fetch]
    cases o.operation with
    | none => exact h
    | some e => exact Connection.update_nothingLeftOpen e h
  cases r with
  | query s =>
    by_cases hs : s = .begin
    · subst hs
      rw [step, perform, Connection.begin_nothingLeftOpen_iff h]
      simp [LeavesOpen, endsTransaction]
    · have hr : Call.query s ≠ .query .begin := fun heq => hs (Call.query.inj heq)
      exact kept hr rfl (Connection.query_nothingLeftOpen hs h)
  | escapeFast input | escapeBinary input =>
    cases input with
    | none => exact kept (by simp) rfl h
    | some text => exact kept (by simp) rfl escaped
  | unescapeBinary input => exact kept (by simp) rfl escaped
  | fetchRow | fetchField => exact kept (by simp) rfl fetched
  | getLastInsertIdent =>
    refine kept (by simp) rfl ?_
    rw [step, perform, Connection.getLastInsertIdent]
    cases o.operation <;> exact h
  | baseTransactionStart => exact kept (by simp) rfl (Connection.start_nothingLeftOpen h)
  | baseTransactionEnd =>
    rw [leavesOpen_ends o (by simp)]
    exact Connection.end_nothingLeftOpen_iff h
  | baseTransactionAbort =>
    rw [leavesOpen_ends o (by simp)]
    exact Connection.abort_nothingLeftOpen_iff h
  | transactionStart =>
    refine kept (by simp) rfl ?_
    rw [step, perform, Connection.transactionStart]
    split
    · exact h
    · exact Connection.start_nothingLeftOpen h
  | transactionEnd =>
    rw [leavesOpen_ends o (by simp), step, perform, Connection.transactionEnd, endsTransaction]
    cases c.internalTransactionDisabled with
    | true => simpa using h
    | false => simpa using Connection.end_nothingLeftOpen_iff h
  | transactionAbort =>
    rw [leavesOpen_ends o (by simp), step, perform, Connection.transactionAbort, endsTransaction]
    cases c.internalTransactionDisabled with
    | true => simpa using h
    | false => simpa using Connection.abort_nothingLeftOpen_iff h
  | outerTransactionStart =>
    refine kept (by simp) rfl ?_
    have hs := Connection.start_nothingLeftOpen (E := E) (o := o) h
    rw [step, perform, Connection.outerTransactionStart]
    rcases hq : c.baseTransactionStart E o with ⟨e | r, d⟩ <;> rw [hq] at hs <;> exact hs
  | outerTransactionEnd =>
    rw [leavesOpen_ends o (by simp)]
    exact Connection.end_nothingLeftOpen_iff h
  | outerTransactionAbort =>
    rw [leavesOpen_ends o (by simp)]
    exact Connection.abort_nothingLeftOpen_iff h

theorem nothing_left_open_iff (E : Engine σ ρ δ ω) (d : δ) (run : List (Call σ × Outcome)) :
    Runs.Throughout (step E) (fun c => c.status.transaction = false → c.status.connected = true →
        c.server.pending = none) (.new d) run ↔
      Runs.Guarded (step E) (fun c l => ¬ LeavesOpen c l) (.new d) run := by
  have hnew : (Connection.new d : Connection σ δ ω).NothingLeftOpen := fun _ _ => rfl
  rw [← Runs.throughout_iff_guarded (step_nothingLeftOpen_iff E) hnew]
  exact ⟨Runs.Throughout.mono fun c h hc ht => h ht hc,
    Runs.Throughout.mono fun c h ht hc => h hc ht⟩

/-- The reply that keeps the session. -/
def statementRefused : Outcome :=
  ⟨none, some (preludedbErrorVerbose .query "disk is full")⟩

/-- The COMMIT is refused, and the next message is written inside the transaction left open. -/
theorem transaction_left_after_refused_commit :
    let run := [(Call.transactionStart, Outcome.ok), (.query (.data 1), .ok),
      (.transactionEnd, statementRefused)]
    let c := run.foldl (step Engine.journal) (.new [])
    ¬ Runs.Throughout (step Engine.journal) (fun c => c.status.transaction = false →
        c.status.connected = true → c.server.pending = none) (.new []) run ∧
      c.status = ⟨true, false⟩ ∧ c.server.pending = some [1] ∧
      (step Engine.journal c (.query (.data 2), .ok)).server.pending = some [1, 2] := by
  refine ⟨fun h => ?_, rfl, rfl, rfl⟩
  have hlast := h.foldl rfl rfl
  cases hlast

end Call

end Preludedb.Sql
