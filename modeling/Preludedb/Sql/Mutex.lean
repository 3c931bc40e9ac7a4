import Preludedb.Foundations.Runs
import Preludedb.Sql.Connection

/-! The mutex of a connection is held between two calls exactly by an open transaction, as long as
no call in the middle of a transaction opens a new session. -/

namespace Preludedb.Sql

open Foundations

variable {σ ρ δ ω : Type}

namespace Connection

/-- The status word is rewritten: a session has been lost and the next one can be opened. -/
def Reconnects (o : Outcome) (c : Connection σ δ ω) : Prop :=
  c.status.connected = false ∧ o.opening = none

instance (o : Outcome) (c : Connection σ δ ω) : Decidable (c.Reconnects o) :=
  inferInstanceAs (Decidable (_ ∧ _))

def MutexFollowsTransaction (c : Connection σ δ ω) : Prop :=
  c.mutex = if c.status.transaction then 1 else 0

lemma update_locks (e : SqlError) (c : Connection σ δ ω) :
    (c.updateSqlFromErrno e).mutex = c.mutex ∧
      (c.updateSqlFromErrno e).status.transaction = c.status.transaction := by
  by_cases hk : preludedbErrorCheck e .connection <;> simp [updateSqlFromErrno, hk]

lemma query_locks (E : Engine σ ρ δ ω) (s : Statement σ) (o : Outcome) (c : Connection σ δ ω) :
    (c.query E s o).2.mutex = c.mutex ∧ (c.query E s o).2.status.transaction =
      if c.Reconnects o then false else c.status.transaction := by
  have onSession {d : Connection σ δ ω} (hd : d.status.connected = true) :
      (d.query E s o).2.mutex = d.mutex ∧
        (d.query E s o).2.status.transaction = d.status.transaction := by
    cases ho : o.operation with
    | none => simp [query_ok hd ho, answered, record]
    | some e =>
      rw [query_error hd ho]
      exact update_locks e _
  cases hc : c.status.connected with
  | true => simpa [Reconnects, hc] using onSession hc
  | false =>
    cases ho : o.opening with
    | none => simpa [Reconnects, hc, ho, query_opened hc ho] using! onSession (d := c.opened) rfl
    | some e => simp [Reconnects, ho, query_unopened hc ho, raise]

lemma escape_locks (o : Outcome) (c : Connection σ δ ω) :
    (c.escape o).2.mutex = c.mutex ∧ (c.escape o).2.status.transaction =
      if c.Reconnects o then false else c.status.transaction := by
  have onSession {d : Connection σ δ ω} (hd : d.status.connected = true) :
      (d.escape o).2.mutex = d.mutex ∧
        (d.escape o).2.status.transaction = d.status.transaction := by
    cases ho : o.operation <;> simp [escape_connected hd, ho, raise, record]
  cases hc : c.status.connected with
  | true => simpa [Reconnects, hc] using onSession hc
  | false =>
    cases ho : o.opening with
    | none => simpa [Reconnects, hc, ho, escape_opened hc ho] using! onSession (d := c.opened) rfl
    | some e => simp [Reconnects, ho, escape_unopened hc ho, raise]

lemma fetch_locks (o : Outcome) (c : Connection σ δ ω) :
    (c.fetch o).2.mutex = c.mutex ∧ (c.fetch o).2.status.transaction = c.status.transaction := by
  cases ho : o.operation <;>
    simp [fetch, ho, update_locks, raise, record]

lemma start_locks (E : Engine σ ρ δ ω) (o : Outcome) (c : Connection σ δ ω)
    (h : c.MutexFollowsTransaction) : (c.baseTransactionStart E o).2.MutexFollowsTransaction := by
  unfold MutexFollowsTransaction at h
  unfold baseTransactionStart
  cases ht : c.status.transaction with
  | true => simpa [lock, unlock, MutexFollowsTransaction, ht] using h
  | false =>
    simp only [ht, Bool.false_eq_true, if_false] at h
    have hl : c.lock.status.transaction = false := ht
    obtain ⟨hm, hs⟩ := query_locks E .begin o c.lock
    rw [hl, ite_self] at hs
    rw [if_neg (by simp)]
    rcases hq : c.lock.query E .begin o with ⟨e | r, d⟩ <;>
      simp only [hq] at hm hs <;>
      simp [MutexFollowsTransaction, unlock, setTransaction, hm, hs, lock, h]

lemma end_releases (E : Engine σ ρ δ ω) (o : Outcome) (c : Connection σ δ ω)
    (h : c.MutexFollowsTransaction) : (c.baseTransactionEnd E o).2.mutex = 0 ∧
      (c.baseTransactionEnd E o).2.status.transaction = false := by
  unfold MutexFollowsTransaction at h
  unfold baseTransactionEnd
  cases ht : c.status.transaction with
  | false => simpa [ht] using h
  | true =>
    have hm := (query_locks E .commit o c).1
    rw [if_pos rfl]
    rcases hq : c.query E .commit o with ⟨e | r, d⟩ <;>
      simp only [hq] at hm <;>
      simp [unlock, setTransaction, hm, h, ht]

lemma abort_releases (E : Engine σ ρ δ ω) (o : Outcome) (c : Connection σ δ ω)
    (h : c.MutexFollowsTransaction) : (c.baseTransactionAbort E o).2.mutex = 0 ∧
      (c.baseTransactionAbort E o).2.status.transaction = false := by
  unfold MutexFollowsTransaction at h
  unfold baseTransactionAbort
  cases ht : c.status.transaction with
  | false => simpa [ht] using h
  | true =>
    simp only [ht, if_true] at h ⊢
    split
    · simp [raise, unlock, setTransaction, h]
    · obtain ⟨hm, hs⟩ := query_locks E .rollback o (c.setTransaction false)
      have hc : (c.setTransaction false).mutex = 1 := h
      have ht' : (c.setTransaction false).status.transaction = false := rfl
      rw [hc] at hm
      rw [ht', ite_self] at hs
      rcases hq : (c.setTransaction false).query E .rollback o with ⟨e | r, d⟩ <;>
        simp only [hq] at hm hs ⊢ <;>
        simp [raise, unlock, hm, hs]

end Connection

namespace Call

/-- The calls that open a session when there is none. -/
def connects : Call σ → Bool
  | .query _ => true
  | .escapeFast input => input.isSome
  | .escapeBinary input => input.isSome
  | .unescapeBinary _ => true
  | _ => false

/-- Not a new session in the middle of a transaction. -/
def KeepsTransaction (c : Connection σ δ ω) (l : Call σ × Outcome) : Prop :=
  ¬ (l.1.connects ∧ c.status.transaction ∧ c.Reconnects l.2)

lemma follows_iff_keeps {c d : Connection σ δ ω} {o : Outcome} (h : c.MutexFollowsTransaction)
    (hd : d.mutex = c.mutex ∧ d.status.transaction =
      if c.Reconnects o then false else c.status.transaction) :
    d.MutexFollowsTransaction ↔ ¬ (c.status.transaction ∧ c.Reconnects o) := by
  unfold Connection.MutexFollowsTransaction at *
  rw [hd.1, hd.2, h]
  by_cases hr : c.Reconnects o <;> cases c.status.transaction <;> simp [hr]

lemma step_follows_iff (E : Engine σ ρ δ ω) (c : Connection σ δ ω) (l : Call σ × Outcome)
    (h : c.MutexFollowsTransaction) :
    (step E c l).MutexFollowsTransaction ↔ KeepsTransaction c l := by
  have ofReleased {d : Connection σ δ ω} (hd : d.mutex = 0 ∧ d.status.transaction = false) :
      d.MutexFollowsTransaction := by
    simp [Connection.MutexFollowsTransaction, hd]
  have ofSame {d : Connection σ δ ω}
      (hd : d.mutex = c.mutex ∧ d.status.transaction = c.status.transaction) :
      d.MutexFollowsTransaction := by
    simpa [Connection.MutexFollowsTransaction, hd] using h
  obtain ⟨r, o⟩ := l
  cases r with
  | query s => simpa [KeepsTransaction, connects, step, perform] using follows_iff_keeps h (c.query_locks E s o)
  | escapeFast input | escapeBinary input =>
    cases input with
    | none => simpa [KeepsTransaction, connects, step, perform] using h
    | some text => simpa [KeepsTransaction, connects, step, perform] using follows_iff_keeps h (c.escape_locks o)
  | unescapeBinary input =>
    simpa [KeepsTransaction, connects, step, perform] using follows_iff_keeps h (c.escape_locks o)
  | fetchRow | fetchField =>
    simpa [KeepsTransaction, connects, step, perform] using ofSame (c.fetch_locks o)
  | getLastInsertIdent =>
    simp only [KeepsTransaction, connects, Bool.false_eq_true, false_and, not_false_eq_true, iff_true]
    refine ofSame ?_
    cases ho : o.operation <;>
      simp [step, perform, Connection.getLastInsertIdent, ho, Connection.raise, Connection.record]
  | baseTransactionStart => simpa [KeepsTransaction, connects, step, perform] using c.start_locks E o h
  | baseTransactionEnd => simpa [KeepsTransaction, connects, step, perform] using ofReleased (c.end_releases E o h)
  | baseTransactionAbort =>
    simpa [KeepsTransaction, connects, step, perform] using ofReleased (c.abort_releases E o h)
  | transactionStart =>
    simp only [KeepsTransaction, connects, step, perform, Connection.transactionStart]
    split
    · simpa using h
    · simpa using c.start_locks E o h
  | transactionEnd =>
    simp only [KeepsTransaction, connects, step, perform, Connection.transactionEnd]
    split
    · simpa using h
    · simpa using ofReleased (c.end_releases E o h)
  | transactionAbort =>
    simp only [KeepsTransaction, connects, step, perform, Connection.transactionAbort]
    split
    · simpa using h
    · simpa using ofReleased (c.abort_releases E o h)
  | outerTransactionStart =>
    have hs := c.start_locks E o h
    simp only [KeepsTransaction, connects, step, perform, Connection.outerTransactionStart]
    rcases hq : c.baseTransactionStart E o with ⟨e | r, d⟩ <;> simp only [hq] at hs
    · simpa using hs
    · simp only [Bool.false_eq_true, false_and, not_false_eq_true, iff_true]
      exact hs
  | outerTransactionEnd =>
    simpa [KeepsTransaction, connects, step, perform] using ofReleased (d := (c.outerTransactionEnd E o).2)
      (c.end_releases E o h)
  | outerTransactionAbort =>
    simpa [KeepsTransaction, connects, step, perform] using ofReleased (d := (c.outerTransactionAbort E o).2)
      (c.abort_releases E o h)

lemma new_follows (d : δ) : (Connection.new d : Connection σ δ ω).MutexFollowsTransaction := rfl

theorem mutex_follows_transaction_iff (E : Engine σ ρ δ ω) (d : δ) (run : List (Call σ × Outcome)) :
    (Runs.Throughout (step E) Connection.MutexFollowsTransaction (.new d) run ↔
      Runs.Guarded (step E) KeepsTransaction (.new d) run) ∧
    (Runs.Guarded (step E) KeepsTransaction (.new d) run → ∀ o,
      ((run.foldl (step E) (.new d)).baseTransactionEnd E o).2.mutex = 0 ∧
      ((run.foldl (step E) (.new d)).baseTransactionAbort E o).2.mutex = 0) := by
  have h : Runs.Throughout (step E) Connection.MutexFollowsTransaction (.new d) run ↔
      Runs.Guarded (step E) KeepsTransaction (.new d) run :=
    Runs.throughout_iff_guarded (step_follows_iff E) (new_follows d)
  refine ⟨h, fun hg o => ?_⟩
  have hlast := (h.mpr hg).foldl
  exact ⟨(Connection.end_releases E o _ hlast).1, (Connection.abort_releases E o _ hlast).1⟩

/-- The second statement opens a new session, and the end of the transaction finds none to end. -/
theorem mutex_held_after_reconnection :
    let run := [(Call.transactionStart, Outcome.ok), (.query (.data 1), .sessionLost),
      (.query (.data 2), .ok)]
    let c := run.foldl (step Engine.journal) (.new [])
    ¬ Runs.Throughout (step Engine.journal) Connection.MutexFollowsTransaction (.new []) run ∧
      (c.transactionEnd Engine.journal .ok).1 = .error (preludedbError .notInTransaction) ∧
      (c.transactionEnd Engine.journal .ok).2.mutex = 1 := by
  refine ⟨fun h => ?_, rfl, rfl⟩
  have hlast := h.foldl
  exact absurd hlast (by unfold Connection.MutexFollowsTransaction; decide)

end Call

end Preludedb.Sql
