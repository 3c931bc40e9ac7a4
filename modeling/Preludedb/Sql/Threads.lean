import Preludedb.Sql.Leftover

/-! Threads that share a connection. A call is one step, taken when the mutex is free or held by the
thread that calls. Each statement carries the thread that issues it and whether that thread is then
between a start that succeeded and the end or abort that goes with it. -/

namespace Preludedb.Sql

open Foundations

variable {τ σ ρ : Type}

structure Issued (τ σ : Type) where
  thread : τ
  inside : Bool
  statement : σ
  deriving DecidableEq, Repr

abbrev SharedConnection (τ σ : Type) := Connection (Issued τ σ) (List (Issued τ σ)) (Issued τ σ)

/-- The server whose statements are their own record, and whose answers depend on that record. -/
def Engine.issued (answer : List (Issued τ σ) → σ → Option ρ) :
    Engine (Issued τ σ) ρ (List (Issued τ σ)) (Issued τ σ) :=
  ⟨fun d x => d ++ [x], fun d x => (answer d x.statement, [x])⟩

/-- The calls a program makes; `outer` ones are those on a `preludedb_t`. -/
inductive ApiCall (σ : Type)
  | query (s : Statement σ)
  | escape (input : Option String)
  | fetchRow
  | transactionStart
  | transactionEnd
  | transactionAbort
  | outerTransactionStart
  | outerTransactionEnd
  | outerTransactionAbort
  deriving DecidableEq, Repr

def Statement.map {α β : Type} (f : α → β) : Statement α → Statement β
  | .begin => .begin
  | .commit => .commit
  | .rollback => .rollback
  | .data q => .data (f q)

namespace ApiCall

def toCall (issue : σ → Issued τ σ) : ApiCall σ → Call (Issued τ σ)
  | .query s => .query (s.map issue)
  | .escape input => .escapeFast input
  | .fetchRow => .fetchRow
  | .transactionStart => .transactionStart
  | .transactionEnd => .transactionEnd
  | .transactionAbort => .transactionAbort
  | .outerTransactionStart => .outerTransactionStart
  | .outerTransactionEnd => .outerTransactionEnd
  | .outerTransactionAbort => .outerTransactionAbort

def starts : ApiCall σ → Bool
  | .transactionStart | .outerTransactionStart => true
  | _ => false

/-- The end or abort that goes with the start that began the transaction, and not one that is
without effect inside an outer transaction. -/
def finishes (disabled : Bool) : ApiCall σ → Bool
  | .transactionEnd | .transactionAbort => !disabled
  | .outerTransactionEnd | .outerTransactionAbort => true
  | _ => false

end ApiCall

/-- `issued` has, for each thread inside a transaction, the statements it has run there. -/
structure Threads (τ σ : Type) where
  connection : SharedConnection τ σ
  holder : Option τ
  errors : τ → Option String
  issued : τ → Option (List (Issued τ σ))

structure ThreadStep (τ σ : Type) where
  thread : τ
  call : ApiCall σ
  outcome : Outcome

namespace Threads

variable [DecidableEq τ]

def new : Threads τ σ := ⟨.new [], none, fun _ => none, fun _ => none⟩

def Enabled (s : Threads τ σ) (t : τ) : Prop := s.connection.mutex = 0 ∨ s.holder = some t

instance (s : Threads τ σ) (t : τ) : Decidable (s.Enabled t) := inferInstanceAs (Decidable (_ ∨ _))

def issue (s : Threads τ σ) (t : τ) (q : σ) : Issued τ σ := ⟨t, (s.issued t).isSome, q⟩

/-- The error text is that of the thread. -/
def own (s : Threads τ σ) (t : τ) : SharedConnection τ σ :=
  { s.connection with threadError := s.errors t }

def perform (answer : List (Issued τ σ) → σ → Option ρ) (s : Threads τ σ) (l : ThreadStep τ σ) :
    Except SqlError ((l.call.toCall (s.issue l.thread)).Reply ρ) ×
      SharedConnection τ σ :=
  (l.call.toCall (s.issue l.thread)).perform (Engine.issued answer) l.outcome (s.own l.thread)

/-- What a thread has run in its transaction after a call that succeeded or failed. -/
def issuedAfter (s : Threads τ σ) (l : ThreadStep τ σ) (ok : Bool) : Option (List (Issued τ σ)) :=
  if l.call.starts && ok then some ((s.issued l.thread).getD [])
  else if l.call.finishes s.connection.internalTransactionDisabled then none
  else match l.call with
    | .query (.data q) =>
      if ok then (s.issued l.thread).map (· ++ [s.issue l.thread q]) else s.issued l.thread
    | _ => s.issued l.thread

def step (answer : List (Issued τ σ) → σ → Option ρ) (s : Threads τ σ) (l : ThreadStep τ σ) :
    Threads τ σ :=
  if s.Enabled l.thread then
    let c := (s.perform answer l).2
    { connection := c
      holder := if c.mutex = 0 then none else some l.thread
      errors := Function.update s.errors l.thread c.threadError
      issued := Function.update s.issued l.thread (s.issuedAfter l (s.perform answer l).1.isOk) }
  else s

/-- On a session that stands, the open transaction of the server is the one each thread inside a
transaction has begun, with its statements and no other, and no server transaction has a statement
issued inside a transaction together with one of another thread. -/
def OwnTransaction (s : Threads τ σ) : Prop :=
  (∀ t qs, s.issued t = some qs → s.connection.status.connected = true →
    s.connection.server.pending = some qs) ∧
  ∀ ws, s.connection.server.pending = some ws → ∀ x ∈ ws, x.inside = true →
    ∀ y ∈ ws, y.thread = x.thread

/-- The call opens a new session inside a transaction, leaves the transaction it ends open on the
server, or is a transaction statement sent as a query inside a transaction. -/
def Breaks (s : Threads τ σ) (l : ThreadStep τ σ) : Prop :=
  let c := s.connection
  let r := l.call.toCall (s.issue l.thread)
  (r.connects = true ∧ c.status.transaction = true ∧ c.Reconnects l.outcome) ∨
  (r.endsTransaction c = true ∧ c.status.connected = true ∧ c.server.pending ≠ none ∧
    l.outcome.Refused) ∨
  (l.call = .query .begin ∨ l.call = .query .commit ∨ l.call = .query .rollback) ∧
    c.status.transaction = true

end Threads

namespace Connection

variable (answer : List (Issued τ σ) → σ → Option ρ) {o : Outcome}
  {c d : SharedConnection τ σ} {qs : List (Issued τ σ)}

/-- No statement issued inside a transaction is pending. -/
def Unclaimed (c : SharedConnection τ σ) : Prop :=
  ∀ ws, c.server.pending = some ws → ∀ x ∈ ws, x.inside = false

lemma unclaimed_of_closed (h : c.server.pending = none) : c.Unclaimed := by
  intro ws hws
  rw [h] at hws
  cases hws

structure Idle (c : SharedConnection τ σ) : Prop where
  transaction : c.status.transaction = false
  mutex : c.mutex = 0
  unclaimed : c.Unclaimed

structure Busy (qs : List (Issued τ σ))
    (c : SharedConnection τ σ) : Prop where
  transaction : c.status.transaction = true
  mutex : c.mutex = 1
  pending : c.server.pending = if c.status.connected then some qs else none

lemma Idle.of_same (h : c.Idle) (hs : d.status.transaction = c.status.transaction)
    (hm : d.mutex = c.mutex) (hp : d.server.pending = c.server.pending ∨ d.server.pending = none) :
    d.Idle := by
  refine ⟨hs.trans h.transaction, hm.trans h.mutex, ?_⟩
  rcases hp with hp | hp
  · rw [Unclaimed, hp]
    exact h.unclaimed
  · exact unclaimed_of_closed hp

lemma update_same (e : SqlError) (c : SharedConnection τ σ) :
    (c.updateSqlFromErrno e).status.transaction = c.status.transaction ∧
      (c.updateSqlFromErrno e).mutex = c.mutex ∧
      ((c.updateSqlFromErrno e).status.connected = c.status.connected ∧
          (c.updateSqlFromErrno e).server.pending = c.server.pending ∨
        (c.updateSqlFromErrno e).status.connected = false ∧
          (c.updateSqlFromErrno e).server.pending = none) := by
  cases hk : preludedbErrorCheck e .connection <;> simp [updateSqlFromErrno, hk]

lemma Idle.update (h : c.Idle) (e : SqlError) : (c.updateSqlFromErrno e).Idle := by
  obtain ⟨ht, hm, hp⟩ := update_same e c
  exact h.of_same ht hm (hp.imp And.right And.right)

lemma Busy.update (h : c.Busy qs) (e : SqlError) : (c.updateSqlFromErrno e).Busy qs := by
  obtain ⟨ht, hm, hp⟩ := update_same e c
  refine ⟨ht.trans h.transaction, hm.trans h.mutex, ?_⟩
  rcases hp with ⟨hc, hp⟩ | ⟨hc, hp⟩ <;> rw [hc, hp]
  · exact h.pending
  · rfl

lemma Idle.reaches (h : c.Idle) (hr : Reaches o c d) : d.Idle := by
  cases hr with
  | standing hc => exact h
  | opened hc ho => exact ⟨rfl, h.mutex, unclaimed_of_closed rfl⟩

lemma Busy.reaches (h : c.Busy qs) (hn : ¬ c.Reconnects o) (hr : Reaches o c d) :
    d = c ∧ d.server.pending = some qs := by
  cases hr with
  | standing hc => exact ⟨rfl, h.pending.trans (if_pos hc)⟩
  | opened hc ho => exact absurd ⟨hc, ho⟩ hn

lemma Idle.raise (h : c.Idle) (e : SqlError) : (c.raise e).Idle := h.of_same rfl rfl (.inl rfl)

lemma Busy.raise (h : c.Busy qs) (e : SqlError) : (c.raise e).Busy qs :=
  ⟨h.transaction, h.mutex, h.pending⟩

lemma Idle.refused (h : c.Idle) (s : Statement (Issued τ σ)) (e : SqlError) :
    (c.refused s e).Idle :=
  ((h.raise e).of_same (d := (c.raise e).record (.queried c.session s (some e))) rfl rfl
    (.inl rfl)).update e

lemma Busy.refused (h : c.Busy qs) (s : Statement (Issued τ σ)) (e : SqlError) :
    (c.refused s e).Busy qs := by
  have hrecord : ((c.raise e).record (.queried c.session s (some e))).Busy qs :=
    ⟨h.transaction, h.mutex, h.pending⟩
  exact hrecord.update e

lemma answered_data_pending (x : Issued τ σ) :
    (c.answered (Engine.issued answer) (.data x)).server.pending =
      c.server.pending.map (· ++ [x]) := by
  cases hp : c.server.pending <;> simp [answered, Engine.execute, Engine.issued, Store.write, hp]

lemma Idle.query (h : c.Idle) (s : Statement (Issued τ σ)) (hs : ∀ x, s = .data x → x.inside = false) :
    (c.query (Engine.issued answer) s o).2.Idle := by
  rcases query_cases (Engine.issued answer) s o c with
    ⟨d, hr, hq⟩ | ⟨d, e, hr, -, hq⟩ | ⟨e, -, hq⟩ <;> rw [hq]
  · have hd := h.reaches hr
    refine ⟨hd.transaction, hd.mutex, fun ws hws x hx => ?_⟩
    cases s with
    | begin =>
      cases (Option.some.inj hws : [] = ws)
      cases hx
    | commit | rollback => cases hws
    | data q =>
      simp only [answered_data_pending answer, Option.map_eq_some_iff] at hws
      obtain ⟨ps, hp, rfl⟩ := hws
      rcases List.mem_append.mp hx with hold | hnew
      · exact hd.unclaimed ps hp x hold
      · rw [List.mem_singleton.mp hnew, hs q rfl]
  · exact (h.reaches hr).refused s e
  · exact h.raise e

/-- A statement inside a transaction joins it, or fails. -/
lemma Busy.query (h : c.Busy qs) (hn : ¬ c.Reconnects o) (x : Issued τ σ) :
    ((∃ r, (c.query (Engine.issued answer) (.data x) o).1 = .ok r) ∧
      (c.query (Engine.issued answer) (.data x) o).2.Busy (qs ++ [x])) ∨
    ((∃ e, (c.query (Engine.issued answer) (.data x) o).1 = .error e) ∧
      (c.query (Engine.issued answer) (.data x) o).2.Busy qs) := by
  rcases query_cases (Engine.issued answer) (.data x) o c with
    ⟨d, hr, hq⟩ | ⟨d, e, hr, -, hq⟩ | ⟨e, -, hq⟩ <;> rw [hq]
  · obtain ⟨rfl, hp⟩ := h.reaches hn hr
    refine .inl ⟨⟨_, rfl⟩, h.transaction, h.mutex, ?_⟩
    rw [answered_data_pending answer, hp]
    exact (if_pos hr.connected).symm
  · obtain ⟨rfl, -⟩ := h.reaches hn hr
    exact .inr ⟨⟨e, rfl⟩, h.refused _ e⟩
  · exact .inr ⟨⟨e, rfl⟩, h.raise e⟩

lemma Idle.escape (h : c.Idle) : (c.escape o).2.Idle := by
  have onSession {d : SharedConnection τ σ} (hd : d.Idle) (hc : d.status.connected = true) :
      (d.escape o).2.Idle := by
    rw [escape_connected hc]
    cases o.operation <;> exact hd.of_same rfl rfl (.inl rfl)
  cases hc : c.status.connected with
  | true => exact onSession h hc
  | false =>
    cases ho : o.opening with
    | some e =>
      rw [escape_unopened hc ho]
      exact h.raise e
    | none =>
      rw [escape_opened hc ho]
      exact onSession (h.reaches (.opened hc ho)) rfl

lemma Busy.escape (h : c.Busy qs) (hn : ¬ c.Reconnects o) : (c.escape o).2.Busy qs := by
  cases hc : c.status.connected with
  | true =>
    rw [escape_connected hc]
    cases o.operation <;> exact ⟨h.transaction, h.mutex, h.pending⟩
  | false =>
    cases ho : o.opening with
    | some e =>
      rw [escape_unopened hc ho]
      exact h.raise e
    | none => exact absurd ⟨hc, ho⟩ hn

lemma Idle.fetch (h : c.Idle) : (c.fetch o).2.Idle := by
  rw [Connection.fetch]
  cases o.operation with
  | none => exact h.of_same rfl rfl (.inl rfl)
  | some e =>
    have hrecord : ((c.raise e).record (.fetched c.session (some e))).Idle :=
      h.of_same rfl rfl (.inl rfl)
    exact hrecord.update e

lemma Busy.fetch (h : c.Busy qs) : (c.fetch o).2.Busy qs := by
  rw [Connection.fetch]
  cases o.operation with
  | none => exact ⟨h.transaction, h.mutex, h.pending⟩
  | some e =>
    have hrecord : ((c.raise e).record (.fetched c.session (some e))).Busy qs :=
      ⟨h.transaction, h.mutex, h.pending⟩
    exact hrecord.update e

lemma Idle.start (h : c.Idle) :
    ((c.baseTransactionStart (Engine.issued answer) o).1 = .ok () ∧
      (c.baseTransactionStart (Engine.issued answer) o).2.Busy []) ∨
    ((∃ e, (c.baseTransactionStart (Engine.issued answer) o).1 = .error e) ∧
      (c.baseTransactionStart (Engine.issued answer) o).2.Idle) := by
  have onSession {d : SharedConnection τ σ} (hd : d.Idle) (hc : d.status.connected = true) :
      ((d.baseTransactionStart (Engine.issued answer) o).1 = .ok () ∧
        (d.baseTransactionStart (Engine.issued answer) o).2.Busy []) ∨
      ((∃ e, (d.baseTransactionStart (Engine.issued answer) o).1 = .error e) ∧
        (d.baseTransactionStart (Engine.issued answer) o).2.Idle) := by
    cases ho : o.operation with
    | none =>
      rw [start_ok hd.transaction hc ho]
      have hmutex : d.mutex + 1 = 1 := by rw [hd.mutex]
      exact .inl ⟨rfl, rfl, hmutex, (if_pos hc).symm⟩
    | some e =>
      rw [start_error hd.transaction hc ho]
      exact .inr ⟨⟨e, rfl⟩, hd.refused _ e⟩
  cases hc : c.status.connected with
  | true => exact onSession h hc
  | false =>
    cases ho : o.opening with
    | some e =>
      rw [start_unopened h.transaction hc ho]
      exact .inr ⟨⟨e, rfl⟩, h.raise e⟩
    | none =>
      rw [start_opened h.transaction hc ho]
      exact onSession (h.reaches (.opened hc ho)) rfl

/-- The statement that ends the transaction ends it on the server, unless it is refused. -/
lemma ends_pending (hlost : c.status.connected = false → c.server.pending = none)
    {s : Statement (Issued τ σ)} (hs : s = .commit ∨ s = .rollback)
    (hr : ¬ (c.status.connected = true ∧ c.server.pending ≠ none ∧ o.Refused)) :
    (c.query (Engine.issued answer) s o).2.server.pending = none := by
  rcases query_cases (Engine.issued answer) s o c with
    ⟨d, -, hq⟩ | ⟨d, e, hd, ho, hq⟩ | ⟨e, hc, hq⟩ <;> rw [hq]
  · rcases hs with rfl | rfl <;> rfl
  · cases hk : preludedbErrorCheck e .connection with
    | true => simp [Connection.refused, updateSqlFromErrno, hk]
    | false =>
      rw [(refused_kept hk).2]
      cases hd with
      | opened hc ho => rfl
      | standing hc =>
        by_contra hp
        exact hr ⟨hc, hp, e, ho, hk⟩
  · exact hlost hc

lemma Busy.lost (h : c.Busy qs) (hc : c.status.connected = false) : c.server.pending = none := by
  rw [h.pending, hc, if_neg Bool.false_ne_true]

lemma Busy.follows (h : c.Busy qs) : c.MutexFollowsTransaction := by
  rw [MutexFollowsTransaction, h.mutex, h.transaction, if_pos rfl]

lemma Busy.finish (h : c.Busy qs)
    (hr : ¬ (c.status.connected = true ∧ c.server.pending ≠ none ∧ o.Refused)) :
    (c.baseTransactionEnd (Engine.issued answer) o).2.Idle := by
  obtain ⟨hm, ht⟩ := end_releases (Engine.issued answer) o c h.follows
  refine ⟨ht, hm, unclaimed_of_closed ?_⟩
  rw [end_inside h.transaction]
  exact ends_pending answer h.lost (.inl rfl) hr

lemma Busy.abort (h : c.Busy qs)
    (hr : ¬ (c.status.connected = true ∧ c.server.pending ≠ none ∧ o.Refused)) :
    (c.baseTransactionAbort (Engine.issued answer) o).2.Idle := by
  obtain ⟨hm, ht⟩ := abort_releases (Engine.issued answer) o c h.follows
  refine ⟨ht, hm, unclaimed_of_closed ?_⟩
  have hends := ends_pending answer (o := o) (c := c.setTransaction false) h.lost
    (.inr rfl) hr
  simp only [baseTransactionAbort, h.transaction, if_true]
  split
  · rename_i hc
    exact h.lost hc
  · rcases hq : (c.setTransaction false).query (Engine.issued answer) .rollback o with
      ⟨e | r, d⟩ <;> rw [hq] at hends <;> exact hends

lemma update_disabled (e : SqlError) (c : SharedConnection τ σ) :
    (c.updateSqlFromErrno e).internalTransactionDisabled = c.internalTransactionDisabled := by
  cases hk : preludedbErrorCheck e .connection <;> simp [updateSqlFromErrno, hk]

lemma Reaches.disabled (h : Reaches o c d) :
    d.internalTransactionDisabled = c.internalTransactionDisabled := by
  cases h <;> rfl

lemma query_disabled (s : Statement (Issued τ σ)) :
    (c.query (Engine.issued answer) s o).2.internalTransactionDisabled =
      c.internalTransactionDisabled := by
  rcases query_cases (Engine.issued answer) s o c with
    ⟨d, hr, hq⟩ | ⟨d, e, hr, -, hq⟩ | ⟨e, -, hq⟩ <;> rw [hq]
  · exact hr.disabled
  · exact (update_disabled e _).trans hr.disabled
  · rfl

lemma escape_disabled :
    (c.escape o).2.internalTransactionDisabled = c.internalTransactionDisabled := by
  have onSession {d : SharedConnection τ σ} (hc : d.status.connected = true) :
      (d.escape o).2.internalTransactionDisabled = d.internalTransactionDisabled := by
    rw [escape_connected hc]
    cases o.operation <;> rfl
  cases hc : c.status.connected with
  | true => exact onSession hc
  | false =>
    cases ho : o.opening with
    | some e => rw [escape_unopened hc ho]; rfl
    | none => rw [escape_opened hc ho]; exact onSession rfl

lemma fetch_disabled :
    (c.fetch o).2.internalTransactionDisabled = c.internalTransactionDisabled := by
  rw [Connection.fetch]
  cases o.operation with
  | none => rfl
  | some e => exact update_disabled e _

lemma start_disabled :
    (c.baseTransactionStart (Engine.issued answer) o).2.internalTransactionDisabled =
      c.internalTransactionDisabled := by
  rw [baseTransactionStart]
  split
  · rfl
  · have hquery := query_disabled answer (o := o) (c := c.lock) .begin
    rcases hq : c.lock.query (Engine.issued answer) .begin o with ⟨e | r, d⟩ <;>
      rw [hq] at hquery <;> exact hquery

lemma end_disabled :
    (c.baseTransactionEnd (Engine.issued answer) o).2.internalTransactionDisabled =
      c.internalTransactionDisabled := by
  rw [baseTransactionEnd]
  split
  · have hquery := query_disabled answer (o := o) (c := c) .commit
    rcases hq : c.query (Engine.issued answer) .commit o with ⟨e | r, d⟩ <;>
      rw [hq] at hquery <;> exact hquery
  · rfl

lemma abort_disabled :
    (c.baseTransactionAbort (Engine.issued answer) o).2.internalTransactionDisabled =
      c.internalTransactionDisabled := by
  rw [baseTransactionAbort]
  split
  · dsimp only
    split
    · rfl
    · have hquery := query_disabled answer (o := o) (c := c.setTransaction false) .rollback
      rcases hq : (c.setTransaction false).query (Engine.issued answer) .rollback o with
        ⟨e | r, d⟩ <;> rw [hq] at hquery <;> exact hquery
  · rfl

end Connection

namespace Threads

variable [DecidableEq τ] (answer : List (Issued τ σ) → σ → Option ρ)

/-- Nobody is inside a transaction, or the holder of the mutex is, with its statements pending. -/
inductive Sound (s : Threads τ σ) : Prop
  | free (hc : s.connection.Idle) (hd : s.connection.internalTransactionDisabled = false)
      (hi : ∀ t, s.issued t = none)
  | held (t : τ) (qs : List (Issued τ σ)) (hc : s.connection.Busy qs) (hh : s.holder = some t)
      (hi : s.issued t = some qs) (hothers : ∀ t', t' ≠ t → s.issued t' = none)
      (hq : ∀ x ∈ qs, x.thread = t)

omit [DecidableEq τ] in
lemma Sound.ownTransaction {s : Threads τ σ} (h : s.Sound) : s.OwnTransaction := by
  cases h with
  | free hc hd hi =>
    refine ⟨fun t qs hqs => ?_, fun ws hws x hx hin => ?_⟩
    · rw [hi t] at hqs
      cases hqs
    · rw [hc.unclaimed ws hws x hx] at hin
      cases hin
  | held t qs hc hh hi hothers hq =>
    refine ⟨fun t' qs' hqs hcon => ?_, fun ws hws x hx hin y hy => ?_⟩
    · by_cases h' : t' = t
      · subst h'
        rw [hc.pending, if_pos hcon, ← hqs, hi]
      · rw [hothers t' h'] at hqs
        cases hqs
    · have hp := hc.pending
      rw [hws] at hp
      split_ifs at hp
      obtain rfl := Option.some.inj hp
      rw [hq x hx, hq y hy]

omit [DecidableEq τ] in
lemma new_sound : (new : Threads τ σ).Sound :=
  .free ⟨rfl, rfl, Connection.unclaimed_of_closed rfl⟩ rfl fun _ => rfl

variable {answer} {s : Threads τ σ} {l : ThreadStep τ σ}

lemma free_step (he : s.Enabled l.thread) (hc : (s.perform answer l).2.Idle)
    (hd : (s.perform answer l).2.internalTransactionDisabled = false)
    (hi : s.issuedAfter l (s.perform answer l).1.isOk = none)
    (hothers : ∀ t, t ≠ l.thread → s.issued t = none) : (step answer s l).Sound := by
  rw [step, if_pos he]
  refine .free hc hd fun t => ?_
  by_cases ht : t = l.thread
  · subst ht
    exact (Function.update_self ..).trans hi
  · exact (Function.update_of_ne ht ..).trans (hothers t ht)

lemma held_step {qs : List (Issued τ σ)} (he : s.Enabled l.thread)
    (hc : (s.perform answer l).2.Busy qs)
    (hi : s.issuedAfter l (s.perform answer l).1.isOk = some qs)
    (hothers : ∀ t, t ≠ l.thread → s.issued t = none) (hq : ∀ x ∈ qs, x.thread = l.thread) :
    (step answer s l).Sound := by
  rw [step, if_pos he]
  refine .held l.thread qs hc ?_ ((Function.update_self ..).trans hi)
    (fun t ht => (Function.update_of_ne ht ..).trans (hothers t ht)) hq
  have hm : (s.perform answer l).2.mutex ≠ 0 := by
    rw [hc.mutex]
    exact Nat.one_ne_zero
  exact if_neg hm

lemma step_free (he : s.Enabled l.thread) (hc : s.connection.Idle)
    (hd : s.connection.internalTransactionDisabled = false) (hi : ∀ t, s.issued t = none) :
    (step answer s l).Sound := by
  obtain ⟨t, r, o⟩ := l
  have hown : (s.own t).Idle := hc.of_same rfl rfl (.inl rfl)
  have hothers : ∀ t', t' ≠ t → s.issued t' = none := fun t' _ => hi t'
  -- a call that begins no transaction
  have idle (hidle : (s.perform answer ⟨t, r, o⟩).2.Idle)
      (hdisabled : (s.perform answer ⟨t, r, o⟩).2.internalTransactionDisabled = false)
      (hnone : (r.starts && (s.perform answer ⟨t, r, o⟩).1.isOk) = false) :
      (step answer s ⟨t, r, o⟩).Sound := by
    refine free_step he hidle hdisabled ?_ hothers
    have hit : s.issued t = none := hi t
    simp only [issuedAfter, hnone, Bool.false_eq_true, if_false, hit]
    split
    · rfl
    · cases r with
      | query q => cases q <;> simp
      | _ => rfl
  cases r with
  | query q =>
    refine idle (hown.query answer _ fun x hx => ?_) ((Connection.query_disabled answer _).trans hd) rfl
    cases q with
    | data q =>
      cases hx
      simp [issue, hi t]
    | begin | commit | rollback => cases hx
  | escape input =>
    cases input with
    | none => exact idle hown hd rfl
    | some text => exact idle hown.escape (Connection.escape_disabled.trans hd) rfl
  | fetchRow => exact idle hown.fetch (Connection.fetch_disabled.trans hd) rfl
  | transactionStart =>
    have hperform : s.perform answer ⟨t, .transactionStart, o⟩ =
        (s.own t).baseTransactionStart (Engine.issued answer) o := if_neg (by simp [own, hd])
    rcases hown.start answer (o := o) with ⟨hok, hbusy⟩ | ⟨⟨e, herr⟩, hidle⟩
    · refine held_step he (hperform ▸ hbusy) ?_ hothers (by simp)
      simp [issuedAfter, ApiCall.starts, hperform, hok, Except.isOk, Except.toBool, hi t]
    · refine idle (hperform ▸ hidle) ?_ ?_
      · rw [hperform]
        exact (Connection.start_disabled answer).trans hd
      · simp [hperform, herr, Except.isOk, Except.toBool]
  | outerTransactionStart =>
    have hperform : s.perform answer ⟨t, .outerTransactionStart, o⟩ =
        (s.own t).outerTransactionStart (Engine.issued answer) o := rfl
    rcases hown.start answer (o := o) with ⟨hok, hbusy⟩ | ⟨⟨e, herr⟩, hidle⟩
    · rw [Connection.outerStart_ok hok] at hperform
      have hbegun : (s.perform answer ⟨t, .outerTransactionStart, o⟩).2.Busy
          ([] : List (Issued τ σ)) := by
        rw [hperform]
        exact ⟨hbusy.transaction, hbusy.mutex, hbusy.pending⟩
      refine held_step he hbegun ?_ hothers (by simp)
      simp [issuedAfter, ApiCall.starts, hperform, Except.isOk, Except.toBool, hi t]
    · rw [Connection.outerStart_error herr] at hperform
      refine idle ?_ ?_ ?_ <;> rw [hperform]
      · exact hidle
      · exact (Connection.start_disabled answer).trans hd
      · rfl
  | transactionEnd =>
    have hperform : s.perform answer ⟨t, .transactionEnd, o⟩ =
        (s.own t).baseTransactionEnd (Engine.issued answer) o := if_neg (by simp [own, hd])
    rw [Connection.end_outside hown.transaction] at hperform
    refine idle ?_ ?_ rfl <;> rw [hperform]
    · exact hown
    · exact hd
  | transactionAbort =>
    have hperform : s.perform answer ⟨t, .transactionAbort, o⟩ =
        (s.own t).baseTransactionAbort (Engine.issued answer) o := if_neg (by simp [own, hd])
    rw [Connection.abort_outside hown.transaction] at hperform
    refine idle ?_ ?_ rfl <;> rw [hperform]
    · exact hown
    · exact hd
  | outerTransactionEnd =>
    have hperform : (s.perform answer ⟨t, .outerTransactionEnd, o⟩).2 =
        (((s.own t).baseTransactionEnd (Engine.issued answer) o).2).enableInternalTransaction := rfl
    rw [Connection.end_outside hown.transaction] at hperform
    refine idle ?_ ?_ rfl <;> rw [hperform]
    · exact hown.of_same rfl rfl (.inl rfl)
    · rfl
  | outerTransactionAbort =>
    have hperform : (s.perform answer ⟨t, .outerTransactionAbort, o⟩).2 =
        (((s.own t).baseTransactionAbort (Engine.issued answer) o).2).enableInternalTransaction :=
      rfl
    rw [Connection.abort_outside hown.transaction] at hperform
    refine idle ?_ ?_ rfl <;> rw [hperform]
    · exact hown.of_same rfl rfl (.inl rfl)
    · rfl

lemma step_held {t : τ} {r : ApiCall σ} {o : Outcome} {qs : List (Issued τ σ)}
    (he : s.Enabled t) (hc : s.connection.Busy qs) (hi : s.issued t = some qs)
    (hothers : ∀ t', t' ≠ t → s.issued t' = none) (hq : ∀ x ∈ qs, x.thread = t)
    (hg : ¬ s.Breaks ⟨t, r, o⟩) : (step answer s ⟨t, r, o⟩).Sound := by
  have hown : (s.own t).Busy qs := ⟨hc.transaction, hc.mutex, hc.pending⟩
  have hkeeps (hr : (r.toCall (s.issue t)).connects = true) : ¬ (s.own t).Reconnects o :=
    fun hrec => hg (.inl ⟨hr, hc.transaction, hrec⟩)
  have hends (hr : (r.toCall (s.issue t)).endsTransaction s.connection = true) :
      ¬ ((s.own t).status.connected = true ∧ (s.own t).server.pending ≠ none ∧ o.Refused) :=
    fun hrefused => hg (.inr (.inl ⟨hr, hrefused⟩))
  have hraw : ¬ (r = .query .begin ∨ r = .query .commit ∨ r = .query .rollback) :=
    fun hr => hg (.inr (.inr ⟨hr, hc.transaction⟩))
  -- a call that neither ends the transaction nor adds to it
  have same (hbusy : (s.perform answer ⟨t, r, o⟩).2.Busy qs)
      (hsame : s.issuedAfter ⟨t, r, o⟩ (s.perform answer ⟨t, r, o⟩).1.isOk = some qs) :
      (step answer s ⟨t, r, o⟩).Sound := held_step he hbusy hsame hothers hq
  cases r with
  | query q =>
    cases q with
    | begin | commit | rollback => exact absurd (by simp) hraw
    | data q =>
      have hperform : s.perform answer ⟨t, .query (.data q), o⟩ =
          (s.own t).query (Engine.issued answer) (.data (s.issue t q)) o := rfl
      rcases hown.query answer (hkeeps rfl) (s.issue t q) with ⟨⟨u, hok⟩, hbusy⟩ | ⟨⟨e, herr⟩, hbusy⟩
      · refine held_step he (hperform ▸ hbusy) ?_ hothers ?_
        · simp [issuedAfter, ApiCall.starts, ApiCall.finishes, hperform, hok, Except.isOk,
            Except.toBool, hi]
        · intro x hx
          rcases List.mem_append.mp hx with hold | hnew
          · exact hq x hold
          · rw [List.mem_singleton.mp hnew, issue]
      · refine same (hperform ▸ hbusy) ?_
        simp [issuedAfter, ApiCall.starts, ApiCall.finishes, hperform, herr, Except.isOk,
          Except.toBool, hi]
  | escape input =>
    cases input with
    | none => exact same hown (by simpa [issuedAfter, ApiCall.starts, ApiCall.finishes] using hi)
    | some text =>
      exact same (hown.escape (hkeeps rfl))
        (by simpa [issuedAfter, ApiCall.starts, ApiCall.finishes] using hi)
  | fetchRow =>
    exact same hown.fetch (by simpa [issuedAfter, ApiCall.starts, ApiCall.finishes] using hi)
  | transactionStart =>
    have hperform : s.perform answer ⟨t, .transactionStart, o⟩ =
        if (s.own t).internalTransactionDisabled then (.ok (), s.own t)
        else (s.own t).baseTransactionStart (Engine.issued answer) o := rfl
    rw [Connection.start_nested hown.transaction] at hperform
    refine same ?_ ?_
    · rw [hperform]
      split <;> exact hown
    · rw [hperform]
      split <;> simp [issuedAfter, ApiCall.starts, ApiCall.finishes, Except.isOk, Except.toBool, hi]
  | outerTransactionStart =>
    have hnested := Connection.start_nested (E := Engine.issued answer) (o := o) hown.transaction
    have hperform : s.perform answer ⟨t, .outerTransactionStart, o⟩ =
        (s.own t).outerTransactionStart (Engine.issued answer) o := rfl
    rw [Connection.outerStart_error (congrArg Prod.fst hnested), hnested] at hperform
    refine same ?_ ?_ <;> rw [hperform]
    · exact hown
    · simp [issuedAfter, ApiCall.starts, ApiCall.finishes, Except.isOk, Except.toBool, hi]
  | transactionEnd =>
    have hperform : s.perform answer ⟨t, .transactionEnd, o⟩ =
        if (s.own t).internalTransactionDisabled then (.ok (), s.own t)
        else (s.own t).baseTransactionEnd (Engine.issued answer) o := rfl
    cases hflag : (s.own t).internalTransactionDisabled with
    | true =>
      have hd : s.connection.internalTransactionDisabled = true := hflag
      rw [if_pos hflag] at hperform
      refine same ?_ ?_ <;> rw [hperform]
      · exact hown
      · simpa [issuedAfter, ApiCall.starts, ApiCall.finishes, hd] using hi
    | false =>
      have hd : s.connection.internalTransactionDisabled = false := hflag
      rw [if_neg (by simp [hflag])] at hperform
      refine free_step he ?_ ?_ ?_ hothers
      · rw [hperform]
        exact hown.finish answer (hends (by
          simp [ApiCall.toCall, Call.endsTransaction, hc.transaction, hd]))
      · rw [hperform]
        exact (Connection.end_disabled answer).trans hd
      · simp [issuedAfter, ApiCall.starts, ApiCall.finishes, hd]
  | transactionAbort =>
    have hperform : s.perform answer ⟨t, .transactionAbort, o⟩ =
        if (s.own t).internalTransactionDisabled then (.ok (), s.own t)
        else (s.own t).baseTransactionAbort (Engine.issued answer) o := rfl
    cases hflag : (s.own t).internalTransactionDisabled with
    | true =>
      have hd : s.connection.internalTransactionDisabled = true := hflag
      rw [if_pos hflag] at hperform
      refine same ?_ ?_ <;> rw [hperform]
      · exact hown
      · simpa [issuedAfter, ApiCall.starts, ApiCall.finishes, hd] using hi
    | false =>
      have hd : s.connection.internalTransactionDisabled = false := hflag
      rw [if_neg (by simp [hflag])] at hperform
      refine free_step he ?_ ?_ ?_ hothers
      · rw [hperform]
        exact hown.abort answer (hends (by
          simp [ApiCall.toCall, Call.endsTransaction, hc.transaction, hd]))
      · rw [hperform]
        exact (Connection.abort_disabled answer).trans hd
      · simp [issuedAfter, ApiCall.starts, ApiCall.finishes, hd]
  | outerTransactionEnd =>
    have hidle := hown.finish answer (hends hc.transaction)
    refine free_step he (hidle.of_same rfl rfl (.inl rfl)) rfl ?_ hothers
    simp [issuedAfter, ApiCall.starts, ApiCall.finishes]
  | outerTransactionAbort =>
    have hidle := hown.abort answer (hends hc.transaction)
    refine free_step he (hidle.of_same rfl rfl (.inl rfl)) rfl ?_ hothers
    simp [issuedAfter, ApiCall.starts, ApiCall.finishes]

lemma step_sound (s : Threads τ σ) (l : ThreadStep τ σ) (h : s.Sound) (hg : ¬ s.Breaks l) :
    (step answer s l).Sound := by
  by_cases he : s.Enabled l.thread
  · cases h with
    | free hc hd hi => exact step_free he hc hd hi
    | held t qs hc hh hi hothers hq =>
      -- the mutex is held, so that the thread that calls is the one inside the transaction
      have ht : l.thread = t := by
        rcases he with hm | hholder
        · rw [hc.mutex] at hm
          cases hm
        · exact Option.some.inj (hholder.symm.trans hh)
      subst ht
      exact step_held he hc hi hothers hq hg
  · rw [step, if_neg he]
    exact h

instance [DecidableEq σ] (s : Threads τ σ) (l : ThreadStep τ σ) : Decidable (s.Breaks l) :=
  inferInstanceAs (Decidable ((_ ∧ _ ∧ _) ∨ (_ ∧ _ ∧ _ ∧ _) ∨ (_ ∨ _ ∨ _) ∧ _))

def silent (_ : List (Issued Bool ℕ)) (_ : ℕ) : Option Unit := none

end Threads

end Preludedb.Sql
