import Preludedb.Sql.Connection

/-! The calls made inside a transaction, none of which opens or closes one: what an answer and what
an error does to the connection while its session stands. -/

namespace Preludedb.Sql

open Foundations

namespace Call

variable {σ ρ δ ω : Type}

def inner : Call σ → Bool
  | .query (.data _) => true
  | .escapeFast _ => true
  | .escapeBinary _ => true
  | .unescapeBinary _ => true
  | .fetchRow => true
  | .fetchField => true
  | .getLastInsertIdent => true
  | _ => false

/-- What an answered call does to the server. -/
def effect (E : Engine σ ρ δ ω) (s : Store δ ω) : Call σ → Store δ ω
  | .query q => (E.execute q s).2
  | _ => s

/-- The database alone, as an environment that answers every call. -/
def serve (E : Engine σ ρ δ ω) : (r : Call σ) → δ → Except SqlError (r.Reply ρ) × δ
  | .query (.data q), d => (.ok (E.exec d q).1, E.perform d q)
  | .query .begin, d | .query .commit, d | .query .rollback, d => (.ok none, d)
  | .escapeFast _, d | .escapeBinary _, d | .unescapeBinary _, d | .fetchRow, d | .fetchField, d
  | .getLastInsertIdent, d | .baseTransactionStart, d | .baseTransactionEnd, d
  | .baseTransactionAbort, d | .transactionStart, d | .transactionEnd, d | .transactionAbort, d
  | .outerTransactionStart, d | .outerTransactionEnd, d | .outerTransactionAbort, d => (.ok (), d)

@[simp] lemma serve_data (E : Engine σ ρ δ ω) (q : σ) (d : δ) :
    serve E (.query (.data q)) d = (.ok (E.exec d q).1, E.perform d q) := rfl

lemma serve_ok (E : Engine σ ρ δ ω) (r : Call σ) (d : δ) : ∃ x, (r.serve E d).1 = .ok x := by
  cases r with
  | query q => cases q <;> exact ⟨_, rfl⟩
  | _ => exact ⟨(), rfl⟩

lemma effect_view (E : Engine σ ρ δ ω) {r : Call σ} (hr : r.inner = true) (s : Store δ ω) :
    (r.effect E s).view E.apply = (r.serve E (s.view E.apply)).2 := by
  cases r with
  | query q =>
    cases q with
    | data q => simp [effect, serve, Engine.execute, Engine.perform]
    | begin | commit | rollback => cases hr
  | _ => rfl

lemma effect_open (E : Engine σ ρ δ ω) {r : Call σ} (hr : r.inner = true) {s : Store δ ω}
    (hs : s.pending.isSome = true) :
    (r.effect E s).durable = s.durable ∧ (r.effect E s).pending.isSome = true := by
  cases r with
  | query q =>
    cases q with
    | data q =>
      obtain ⟨ps, hp⟩ := Option.isSome_iff_exists.mp hs
      simp [effect, Engine.execute, Store.write_open E.apply s hp]
    | begin | commit | rollback => cases hr
  | _ => exact ⟨rfl, hs⟩

lemma effect_closed (E : Engine σ ρ δ ω) {r : Call σ} (hr : r.inner = true) {s : Store δ ω}
    (hs : s.pending = none) : (r.effect E s).pending = none := by
  cases r with
  | query q =>
    cases q with
    | data q => simp [effect, Engine.execute, Store.write, hs]
    | begin | commit | rollback => cases hr
  | _ => exact hs

variable {E : Engine σ ρ δ ω} {o : Outcome} {c : Connection σ δ ω} {r : Call σ}

/-- The connection after a call that was answered. -/
structure Answered (E : Engine σ ρ δ ω) (r : Call σ) (c c' : Connection σ δ ω) : Prop where
  status : c'.status = c.status
  disabled : c'.internalTransactionDisabled = c.internalTransactionDisabled
  server : c'.server = r.effect E c.server

/-- The connection after a call that failed with `e`; the session may be gone. -/
structure Failed (e : SqlError) (c c' : Connection σ δ ω) : Prop where
  transaction : c'.status.transaction = c.status.transaction
  disabled : c'.internalTransactionDisabled = c.internalTransactionDisabled
  session : c'.status = c.status ∧ c'.server = c.server ∨
    preludedbErrorCheck e .connection = true ∧ c'.server = c.server.rollback

lemma failed_of_raise {e : SqlError} (v : Event σ) : Failed e c ((c.raise e).record v) :=
  ⟨rfl, rfl, .inl ⟨rfl, rfl⟩⟩

lemma failed_of_update {e : SqlError} (v : Event σ) :
    Failed e c (((c.raise e).record v).updateSqlFromErrno e) := by
  cases hk : preludedbErrorCheck e .connection with
  | false =>
    rw [Connection.updateSqlFromErrno, hk, if_neg Bool.false_ne_true]
    exact failed_of_raise v
  | true =>
    rw [Connection.updateSqlFromErrno, hk, if_pos rfl]
    exact ⟨rfl, rfl, .inr ⟨hk, rfl⟩⟩

lemma escape_cases (hr : r.effect E c.server = c.server) (hc : c.status.connected = true) :
    ((c.escape o).1 = .ok () ∧ Answered E r c (c.escape o).2) ∨
      ∃ e, (c.escape o).1 = .error e ∧ o.operation = some e ∧ Failed e c (c.escape o).2 := by
  rw [Connection.escape_connected hc]
  cases o.operation with
  | none => exact .inl ⟨rfl, rfl, rfl, hr.symm⟩
  | some e => exact .inr ⟨e, rfl, rfl, failed_of_raise _⟩

lemma fetch_cases (hr : r.effect E c.server = c.server) :
    ((c.fetch o).1 = .ok () ∧ Answered E r c (c.fetch o).2) ∨
      ∃ e, (c.fetch o).1 = .error e ∧ o.operation = some e ∧ Failed e c (c.fetch o).2 := by
  rw [Connection.fetch]
  cases o.operation with
  | none => exact .inl ⟨rfl, rfl, rfl, hr.symm⟩
  | some e => exact .inr ⟨e, rfl, rfl, failed_of_update _⟩

/-- An inner call on an open session is answered or fails with the plugin's error. -/
lemma perform_cases (hr : r.inner = true) (hc : c.status.connected = true) :
    ((r.perform E o c).1 = (r.serve E (c.server.view E.apply)).1 ∧
        Answered E r c (r.perform E o c).2) ∨
      ∃ e, (r.perform E o c).1 = .error e ∧ o.operation = some e ∧
        Failed e c (r.perform E o c).2 := by
  cases r with
  | query s =>
    cases s with
    | data q =>
      rw [perform]
      cases ho : o.operation with
      | none =>
        rw [Connection.query_ok hc ho]
        exact .inl ⟨rfl, rfl, rfl, rfl⟩
      | some e =>
        rw [Connection.query_error hc ho]
        exact .inr ⟨e, rfl, rfl, failed_of_update _⟩
    | begin | commit | rollback => cases hr
  | escapeFast input =>
    cases input with
    | none => exact .inl ⟨rfl, rfl, rfl, rfl⟩
    | some s => exact escape_cases rfl hc
  | escapeBinary input =>
    cases input with
    | none => exact .inl ⟨rfl, rfl, rfl, rfl⟩
    | some s => exact escape_cases rfl hc
  | unescapeBinary input => exact escape_cases rfl hc
  | fetchRow | fetchField => exact fetch_cases rfl
  | getLastInsertIdent =>
    rw [perform, Connection.getLastInsertIdent]
    cases o.operation with
    | none => exact .inl ⟨rfl, rfl, rfl, rfl⟩
    | some e => exact .inr ⟨e, rfl, rfl, failed_of_raise _⟩
  | baseTransactionStart | baseTransactionEnd | baseTransactionAbort | transactionStart
  | transactionEnd | transactionAbort | outerTransactionStart | outerTransactionEnd
  | outerTransactionAbort => cases hr

/-- An inner call the plugin answers in full is answered, on the session at hand or on a new one. -/
lemma perform_answered (hr : r.inner = true) (ho : o = .ok) :
    ∃ c₀, (c₀ = c ∨ c₀ = c.opened) ∧
      (r.perform E o c).1 = (r.serve E (c₀.server.view E.apply)).1 ∧
      Answered E r c₀ (r.perform E o c).2 := by
  subst ho
  have onSession {c : Connection σ δ ω} (hc : c.status.connected = true) :
      (r.perform E .ok c).1 = (r.serve E (c.server.view E.apply)).1 ∧
        Answered E r c (r.perform E .ok c).2 := by
    rcases perform_cases (E := E) (o := .ok) hr hc with h | ⟨e, -, ho, -⟩
    · exact h
    · cases ho
  cases hc : c.status.connected with
  | true => exact ⟨c, .inl rfl, onSession hc⟩
  | false =>
    have hopened := onSession (c := c.opened) rfl
    have hescape : c.escape .ok = c.opened.escape .ok := Connection.escape_opened hc rfl
    cases r with
    | query s =>
      have hquery : c.query E s .ok = c.opened.query E s .ok := Connection.query_opened hc rfl
      rw [perform] at hopened ⊢
      rw [hquery]
      exact ⟨c.opened, .inr rfl, hopened⟩
    | escapeFast input =>
      cases input with
      | none => exact ⟨c, .inl rfl, rfl, rfl, rfl, rfl⟩
      | some s =>
        rw [perform] at hopened ⊢
        rw [hescape]
        exact ⟨c.opened, .inr rfl, hopened⟩
    | escapeBinary input =>
      cases input with
      | none => exact ⟨c, .inl rfl, rfl, rfl, rfl, rfl⟩
      | some s =>
        rw [perform] at hopened ⊢
        rw [hescape]
        exact ⟨c.opened, .inr rfl, hopened⟩
    | unescapeBinary input =>
      rw [perform] at hopened ⊢
      rw [hescape]
      exact ⟨c.opened, .inr rfl, hopened⟩
    | fetchRow | fetchField | getLastInsertIdent => exact ⟨c, .inl rfl, rfl, rfl, rfl, rfl⟩
    | baseTransactionStart | baseTransactionEnd | baseTransactionAbort | transactionStart
    | transactionEnd | transactionAbort | outerTransactionStart | outerTransactionEnd
    | outerTransactionAbort => cases hr

/-- A query the plugin answers in full is answered, whatever the state of the session. -/
lemma query_of_ok (s : Statement σ) (ho : o = .ok) (e : SqlError) :
    (Call.perform E (.query s) o c).1 ≠ .error e := by
  subst ho
  have hnone : Outcome.ok.operation = none := rfl
  rw [perform]
  cases hc : c.status.connected with
  | true =>
    rw [Connection.query_ok hc hnone]
    exact fun h => by cases h
  | false =>
    have hopened : (c.opened).status.connected = true := rfl
    rw [Connection.query_opened hc rfl, Connection.query_ok hopened hnone]
    exact fun h => by cases h

end Call

end Preludedb.Sql
