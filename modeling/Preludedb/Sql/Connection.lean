import Preludedb.Foundations.Store
import Preludedb.Sql.Error

/-! The connection object shared by the threads of a program: its status word, its recursive
mutex and the plugin session behind it, as the calls of one thread change them. The functions with
`base` in their name are those of the source with a leading underscore, and `outer` ones are those
of `preludedb_t`. A statement that fails has no effect on the server, and a session that is closed
takes its transaction with it. -/

namespace Preludedb.Sql

open Foundations

inductive Statement (σ : Type)
  | begin
  | commit
  | rollback
  | data (s : σ)
  deriving DecidableEq, Repr

structure Engine (σ ρ δ ω : Type) where
  apply : δ → ω → δ
  exec : δ → σ → Option ρ × List ω

structure Status where
  connected : Bool
  transaction : Bool
  deriving DecidableEq, Repr

structure Outcome where
  opening : Option SqlError
  operation : Option SqlError
  deriving DecidableEq, Repr

def Outcome.ok : Outcome := ⟨none, none⟩

/-- The reply that loses the session, with the text a plugin gives it. -/
def Outcome.sessionLost : Outcome :=
  ⟨none, some (preludedbErrorVerbose .connection "server has gone away")⟩

inductive Event (σ : Type)
  | opened (session : ℕ)
  | closed (session : ℕ)
  | queried (session : ℕ) (statement : Statement σ) (answer : Option SqlError)
  | escaped (session : ℕ) (answer : Option SqlError)
  | fetched (session : ℕ) (answer : Option SqlError)
  | askedLastInsertIdent (session : ℕ) (answer : Option SqlError)
  deriving DecidableEq, Repr

/-- `session` counts the sessions opened, the last of which is the current one; `events` is a
record of the plugin calls that no function reads. -/
structure Connection (σ δ ω : Type) where
  status : Status
  session : ℕ
  internalTransactionDisabled : Bool
  mutex : ℕ
  threadError : Option String
  server : Store δ ω
  events : List (Event σ)

namespace Engine

variable {σ ρ δ ω : Type} (E : Engine σ ρ δ ω)

def execute : Statement σ → Store δ ω → Option ρ × Store δ ω
  | .begin, s => (none, s.start E.apply)
  | .commit, s => (none, s.commit E.apply)
  | .rollback, s => (none, s.rollback)
  | .data q, s => ((E.exec (s.view E.apply) q).1, s.write E.apply (E.exec (s.view E.apply) q).2)

def perform (d : δ) (q : σ) : δ := (E.exec d q).2.foldl E.apply d

/-- The server whose statements are their own record. -/
def journal : Engine ℕ Unit (List ℕ) ℕ := ⟨fun d n => d ++ [n], fun _ n => (none, [n])⟩

end Engine

namespace Connection

variable {σ ρ δ ω : Type}

def new (d : δ) : Connection σ δ ω :=
  ⟨⟨false, false⟩, 0, false, 0, none, ⟨d, none⟩, []⟩

def lock (c : Connection σ δ ω) : Connection σ δ ω := { c with mutex := c.mutex + 1 }

def unlock (c : Connection σ δ ω) : Connection σ δ ω := { c with mutex := c.mutex - 1 }

def record (e : Event σ) (c : Connection σ δ ω) : Connection σ δ ω :=
  { c with events := c.events ++ [e] }

def raise (e : SqlError) (c : Connection σ δ ω) : Connection σ δ ω :=
  { c with threadError := e.text <|> c.threadError }

def updateSqlFromErrno (e : SqlError) (c : Connection σ δ ω) : Connection σ δ ω :=
  if preludedbErrorCheck e .connection then
    { c with
      status := ⟨false, c.status.transaction⟩
      server := c.server.rollback
      events := c.events ++ [.closed c.session] }
  else c

/-- The whole status word is rewritten. -/
def opened (c : Connection σ δ ω) : Connection σ δ ω :=
  { c with
    status := ⟨true, false⟩
    session := c.session + 1
    server := c.server.rollback
    events := c.events ++ [.opened (c.session + 1)] }

def connect (o : Outcome) (c : Connection σ δ ω) : Except SqlError Unit × Connection σ δ ω :=
  match o.opening with
  | some e => (.error e, c.raise e)
  | none => (.ok (), c.opened)

def assertConnected (o : Outcome) (c : Connection σ δ ω) : Except SqlError Unit × Connection σ δ ω :=
  if c.status.connected then (.ok (), c)
  else match c.connect o with
    | (.error e, c) => (.error e, c.unlock)
    | (.ok (), c) => (.ok (), c)

def pluginQuery (E : Engine σ ρ δ ω) (s : Statement σ) (o : Outcome) (c : Connection σ δ ω) :
    Except SqlError (Option ρ) × Connection σ δ ω :=
  match o.operation with
  | some e => (.error e, (c.raise e).record (.queried c.session s (some e)))
  | none => (.ok (E.execute s c.server).1,
      { c.record (.queried c.session s none) with server := (E.execute s c.server).2 })

def query (E : Engine σ ρ δ ω) (s : Statement σ) (o : Outcome) (c : Connection σ δ ω) :
    Except SqlError (Option ρ) × Connection σ δ ω :=
  match c.lock.assertConnected o with
  | (.error e, c) => (.error e, c)
  | (.ok (), c) =>
    match c.pluginQuery E s o with
    | (.error e, c) => (.error e, (c.updateSqlFromErrno e).unlock)
    | (.ok r, c) => (.ok r, c.unlock)

def escape (o : Outcome) (c : Connection σ δ ω) : Except SqlError Unit × Connection σ δ ω :=
  match c.lock.assertConnected o with
  | (.error e, c) => (.error e, c)
  | (.ok (), c) =>
    match o.operation with
    | some e => (.error e, ((c.raise e).record (.escaped c.session (some e))).unlock)
    | none => (.ok (), (c.record (.escaped c.session none)).unlock)

def fetch (o : Outcome) (c : Connection σ δ ω) : Except SqlError Unit × Connection σ δ ω :=
  match o.operation with
  | some e => (.error e, ((c.raise e).record (.fetched c.session (some e))).updateSqlFromErrno e)
  | none => (.ok (), c.record (.fetched c.session none))

def getLastInsertIdent (o : Outcome) (c : Connection σ δ ω) :
    Except SqlError Unit × Connection σ δ ω :=
  match o.operation with
  | some e => (.error e, (c.raise e).record (.askedLastInsertIdent c.session (some e)))
  | none => (.ok (), c.record (.askedLastInsertIdent c.session none))

def setTransaction (b : Bool) (c : Connection σ δ ω) : Connection σ δ ω :=
  { c with status := ⟨c.status.connected, b⟩ }

def baseTransactionStart (E : Engine σ ρ δ ω) (o : Outcome) (c : Connection σ δ ω) :
    Except SqlError Unit × Connection σ δ ω :=
  if c.status.transaction then
    (.error (preludedbError .alreadyInTransaction), c.lock.unlock)
  else
    match c.lock.query E .begin o with
    | (.error e, c) => (.error e, c.unlock)
    | (.ok _, c) => (.ok (), c.setTransaction true)

def baseTransactionEnd (E : Engine σ ρ δ ω) (o : Outcome) (c : Connection σ δ ω) :
    Except SqlError Unit × Connection σ δ ω :=
  if c.status.transaction then
    match c.query E .commit o with
    | (.error e, c) => (.error e, (c.setTransaction false).unlock)
    | (.ok _, c) => (.ok (), (c.setTransaction false).unlock)
  else (.error (preludedbError .notInTransaction), c)

def noRollbackPossible (originalError : String) : SqlError :=
  preludedbErrorVerbose .query (originalError ++ ". No ROLLBACK possible due to connection closure")

def rollbackFailed (originalError : Option String) (e : SqlError) : SqlError :=
  match originalError with
  | some text => preludedbErrorVerbose .query (text ++ ".\nROLLBACK failed: " ++ strerror e)
  | none => preludedbErrorVerbose .query ("ROLLBACK failed: " ++ strerror e)

def baseTransactionAbort (E : Engine σ ρ δ ω) (o : Outcome) (c : Connection σ δ ω) :
    Except SqlError Unit × Connection σ δ ω :=
  if c.status.transaction then
    let originalError := c.threadError
    let c := c.setTransaction false
    match originalError, c.status.connected with
    | some text, false =>
      (.error (noRollbackPossible text), (c.raise (noRollbackPossible text)).unlock)
    | _, _ =>
      match c.query E .rollback o with
      | (.error e, c) =>
        (.error (rollbackFailed originalError e), (c.raise (rollbackFailed originalError e)).unlock)
      | (.ok _, c) => (.ok (), c.unlock)
  else (.error (preludedbError .notInTransaction), c)

def transactionStart (E : Engine σ ρ δ ω) (o : Outcome) (c : Connection σ δ ω) :
    Except SqlError Unit × Connection σ δ ω :=
  if c.internalTransactionDisabled then (.ok (), c) else c.baseTransactionStart E o

def transactionEnd (E : Engine σ ρ δ ω) (o : Outcome) (c : Connection σ δ ω) :
    Except SqlError Unit × Connection σ δ ω :=
  if c.internalTransactionDisabled then (.ok (), c) else c.baseTransactionEnd E o

def transactionAbort (E : Engine σ ρ δ ω) (o : Outcome) (c : Connection σ δ ω) :
    Except SqlError Unit × Connection σ δ ω :=
  if c.internalTransactionDisabled then (.ok (), c) else c.baseTransactionAbort E o

def enableInternalTransaction (c : Connection σ δ ω) : Connection σ δ ω :=
  { c with internalTransactionDisabled := false }

def disableInternalTransaction (c : Connection σ δ ω) : Connection σ δ ω :=
  { c with internalTransactionDisabled := true }

def outerTransactionStart (E : Engine σ ρ δ ω) (o : Outcome) (c : Connection σ δ ω) :
    Except SqlError Unit × Connection σ δ ω :=
  match c.baseTransactionStart E o with
  | (.error e, c) => (.error e, c)
  | (.ok (), c) => (.ok (), c.disableInternalTransaction)

def outerTransactionEnd (E : Engine σ ρ δ ω) (o : Outcome) (c : Connection σ δ ω) :
    Except SqlError Unit × Connection σ δ ω :=
  ((c.baseTransactionEnd E o).1, (c.baseTransactionEnd E o).2.enableInternalTransaction)

def outerTransactionAbort (E : Engine σ ρ δ ω) (o : Outcome) (c : Connection σ δ ω) :
    Except SqlError Unit × Connection σ δ ω :=
  ((c.baseTransactionAbort E o).1, (c.baseTransactionAbort E o).2.enableInternalTransaction)

section Query

variable {E : Engine σ ρ δ ω} {s : Statement σ} {o : Outcome} {c : Connection σ δ ω} {e : SqlError}

/-- The state after a statement that the session answered. -/
def answered (E : Engine σ ρ δ ω) (s : Statement σ) (c : Connection σ δ ω) : Connection σ δ ω :=
  { c.record (.queried c.session s none) with server := (E.execute s c.server).2 }

/-- The state after a statement that failed with `e`. -/
def refused (s : Statement σ) (e : SqlError) (c : Connection σ δ ω) : Connection σ δ ω :=
  ((c.raise e).record (.queried c.session s (some e))).updateSqlFromErrno e

lemma query_ok (hc : c.status.connected = true) (ho : o.operation = none) :
    c.query E s o = (.ok (E.execute s c.server).1, c.answered E s) := by
  simp [query, assertConnected, pluginQuery, answered, lock, unlock, record, hc, ho]

lemma query_error (hc : c.status.connected = true) (ho : o.operation = some e) :
    c.query E s o = (.error e, c.refused s e) := by
  by_cases hk : preludedbErrorCheck e .connection <;>
    simp [query, assertConnected, pluginQuery, refused, lock, unlock, record, raise,
      updateSqlFromErrno, hc, ho, hk]

lemma query_unopened (hc : c.status.connected = false) (ho : o.opening = some e) :
    c.query E s o = (.error e, c.raise e) := by
  simp [query, assertConnected, connect, lock, unlock, raise, hc, ho]

lemma query_opened (hc : c.status.connected = false) (ho : o.opening = none) :
    c.query E s o = c.opened.query E s o := by
  simp [query, assertConnected, connect, lock, opened, hc, ho]

end Query

/-- The connection a call of the plugin is made on. -/
inductive Reaches (o : Outcome) (c : Connection σ δ ω) : Connection σ δ ω → Prop
  | standing (h : c.status.connected = true) : Reaches o c c
  | opened (h : c.status.connected = false) (ho : o.opening = none) : Reaches o c c.opened

lemma Reaches.connected {o : Outcome} {c d : Connection σ δ ω} (h : Reaches o c d) :
    d.status.connected = true := by
  cases h with
  | standing h => exact h
  | opened h ho => rfl

/-- All that a query can do. -/
lemma query_cases (E : Engine σ ρ δ ω) (s : Statement σ) (o : Outcome) (c : Connection σ δ ω) :
    (∃ d, Reaches o c d ∧ c.query E s o = (.ok (E.execute s d.server).1, d.answered E s)) ∨
    (∃ d e, Reaches o c d ∧ o.operation = some e ∧ c.query E s o = (.error e, d.refused s e)) ∨
    ∃ e, c.status.connected = false ∧ c.query E s o = (.error e, c.raise e) := by
  have onSession {d : Connection σ δ ω} (hr : Reaches o c d) (hq : c.query E s o = d.query E s o) :
      (∃ d, Reaches o c d ∧ c.query E s o = (.ok (E.execute s d.server).1, d.answered E s)) ∨
      ∃ d e, Reaches o c d ∧ o.operation = some e ∧ c.query E s o = (.error e, d.refused s e) := by
    cases ho : o.operation with
    | none => exact .inl ⟨d, hr, hq.trans (query_ok hr.connected ho)⟩
    | some e => exact .inr ⟨d, e, hr, rfl, hq.trans (query_error hr.connected ho)⟩
  cases hc : c.status.connected with
  | true => exact (onSession (.standing hc) rfl).imp_right .inl
  | false =>
    cases ho : o.opening with
    | some e => exact .inr (.inr ⟨e, rfl, query_unopened hc ho⟩)
    | none => exact (onSession (.opened hc ho) (query_opened hc ho)).imp_right .inl

section Escape

variable {o : Outcome} {c : Connection σ δ ω} {e : SqlError}

lemma escape_connected (hc : c.status.connected = true) : c.escape o = match o.operation with
    | some e => (.error e, (c.raise e).record (.escaped c.session (some e)))
    | none => (.ok (), c.record (.escaped c.session none)) := by
  cases ho : o.operation <;> simp [escape, assertConnected, lock, unlock, record, raise, hc, ho]

lemma escape_unopened (hc : c.status.connected = false) (ho : o.opening = some e) :
    c.escape o = (.error e, c.raise e) := by
  simp [escape, assertConnected, connect, lock, unlock, raise, hc, ho]

lemma escape_opened (hc : c.status.connected = false) (ho : o.opening = none) :
    c.escape o = c.opened.escape o := by
  simp [escape, assertConnected, connect, lock, opened, hc, ho]

end Escape

section Transaction

variable {E : Engine σ ρ δ ω} {o : Outcome} {c : Connection σ δ ω} {e : SqlError}

lemma refused_lock (s : Statement σ) : (c.lock.refused s e).unlock = c.refused s e := by
  by_cases hk : preludedbErrorCheck e .connection <;>
    simp [refused, raise, record, updateSqlFromErrno, lock, unlock, hk]

lemma start_nested (ht : c.status.transaction = true) :
    c.baseTransactionStart E o = (.error (preludedbError .alreadyInTransaction), c) := by
  simp [baseTransactionStart, ht, lock, unlock]

lemma start_ok (ht : c.status.transaction = false) (hc : c.status.connected = true)
    (ho : o.operation = none) :
    c.baseTransactionStart E o = (.ok (), ((c.answered E .begin).lock).setTransaction true) := by
  have hl : c.lock.status.connected = true := hc
  rw [baseTransactionStart, ht, if_neg Bool.false_ne_true, query_ok hl ho]
  rfl

lemma start_error (ht : c.status.transaction = false) (hc : c.status.connected = true)
    (ho : o.operation = some e) :
    c.baseTransactionStart E o = (.error e, c.refused .begin e) := by
  have hl : c.lock.status.connected = true := hc
  simp [baseTransactionStart, ht, query_error hl ho, refused_lock]

lemma start_unopened (ht : c.status.transaction = false) (hc : c.status.connected = false)
    (ho : o.opening = some e) : c.baseTransactionStart E o = (.error e, c.raise e) := by
  have hl : c.lock.status.connected = false := hc
  rw [baseTransactionStart, ht, if_neg Bool.false_ne_true, query_unopened hl ho]
  rfl

lemma start_opened (ht : c.status.transaction = false) (hc : c.status.connected = false)
    (ho : o.opening = none) : c.baseTransactionStart E o = c.opened.baseTransactionStart E o := by
  have hl : c.lock.status.connected = false := hc
  simp only [baseTransactionStart, ht, query_opened hl ho]
  rfl

lemma outerStart_ok (h : (c.baseTransactionStart E o).1 = .ok ()) : c.outerTransactionStart E o =
    (.ok (), (c.baseTransactionStart E o).2.disableInternalTransaction) := by
  rcases hq : c.baseTransactionStart E o with ⟨e | u, d⟩ <;> rw [hq] at h
  · cases h
  · simp [outerTransactionStart, hq]

lemma outerStart_error (h : (c.baseTransactionStart E o).1 = .error e) :
    c.outerTransactionStart E o = (.error e, (c.baseTransactionStart E o).2) := by
  rcases hq : c.baseTransactionStart E o with ⟨e' | u, d⟩ <;> rw [hq] at h
  · cases h
    simp [outerTransactionStart, hq]
  · cases h

lemma end_outside (ht : c.status.transaction = false) :
    c.baseTransactionEnd E o = (.error (preludedbError .notInTransaction), c) := by
  simp [baseTransactionEnd, ht]

lemma abort_outside (ht : c.status.transaction = false) :
    c.baseTransactionAbort E o = (.error (preludedbError .notInTransaction), c) := by
  simp [baseTransactionAbort, ht]

lemma end_inside (ht : c.status.transaction = true) : c.baseTransactionEnd E o =
    ((c.query E .commit o).1.map fun _ => (),
      ((c.query E .commit o).2.setTransaction false).unlock) := by
  rcases hq : c.query E .commit o with ⟨e | r, d⟩ <;>
    simp [baseTransactionEnd, ht, hq, Except.map]

lemma start_success (h : (c.baseTransactionStart E o).1 = .ok ()) :
    o.operation = none ∧ ∃ d : Connection σ δ ω, d.status.connected = true ∧
      (d = c ∨ d = c.opened) ∧
      c.baseTransactionStart E o = (.ok (), ((d.answered E .begin).lock).setTransaction true) := by
  have onSession {d : Connection σ δ ω} (ht : d.status.transaction = false)
      (hd : d.status.connected = true) (hs : (d.baseTransactionStart E o).1 = .ok ()) :
      o.operation = none ∧
        d.baseTransactionStart E o = (.ok (), ((d.answered E .begin).lock).setTransaction true) := by
    cases ho : o.operation with
    | some e => simp [start_error ht hd ho] at hs
    | none => exact ⟨rfl, start_ok ht hd ho⟩
  cases ht : c.status.transaction with
  | true => simp [start_nested ht] at h
  | false =>
    cases hc : c.status.connected with
    | true =>
      obtain ⟨ho, he⟩ := onSession ht hc h
      exact ⟨ho, c, hc, .inl rfl, he⟩
    | false =>
      cases ho : o.opening with
      | some e => simp [start_unopened ht hc ho] at h
      | none =>
        rw [start_opened ht hc ho] at h ⊢
        obtain ⟨hop, he⟩ := onSession rfl rfl h
        exact ⟨hop, c.opened, rfl, .inr rfl, he⟩

end Transaction

end Connection

inductive Call (σ : Type)
  | query (s : Statement σ)
  | escapeFast (input : Option String)
  | escapeBinary (input : Option (List UInt8))
  | unescapeBinary (input : List UInt8)
  | fetchRow
  | fetchField
  | getLastInsertIdent
  | baseTransactionStart
  | baseTransactionEnd
  | baseTransactionAbort
  | transactionStart
  | transactionEnd
  | transactionAbort
  | outerTransactionStart
  | outerTransactionEnd
  | outerTransactionAbort
  deriving DecidableEq, Repr

namespace Call

variable {σ ρ δ ω : Type}

def Reply (ρ : Type) : Call σ → Type
  | .query _ => Option ρ
  | _ => Unit

def perform (E : Engine σ ρ δ ω) : (r : Call σ) → Outcome → Connection σ δ ω →
    Except SqlError (r.Reply ρ) × Connection σ δ ω
  | .query s, o, c => c.query E s o
  -- a null input is the literal NULL, without the mutex or a session
  | .escapeFast none, _, c => (.ok (), c)
  | .escapeBinary none, _, c => (.ok (), c)
  | .escapeFast (some _), o, c => c.escape o
  | .escapeBinary (some _), o, c => c.escape o
  | .unescapeBinary _, o, c => c.escape o
  | .fetchRow, o, c => c.fetch o
  | .fetchField, o, c => c.fetch o
  | .getLastInsertIdent, o, c => c.getLastInsertIdent o
  | .baseTransactionStart, o, c => c.baseTransactionStart E o
  | .baseTransactionEnd, o, c => c.baseTransactionEnd E o
  | .baseTransactionAbort, o, c => c.baseTransactionAbort E o
  | .transactionStart, o, c => c.transactionStart E o
  | .transactionEnd, o, c => c.transactionEnd E o
  | .transactionAbort, o, c => c.transactionAbort E o
  | .outerTransactionStart, o, c => c.outerTransactionStart E o
  | .outerTransactionEnd, o, c => c.outerTransactionEnd E o
  | .outerTransactionAbort, o, c => c.outerTransactionAbort E o

def step (E : Engine σ ρ δ ω) (c : Connection σ δ ω) (l : Call σ × Outcome) : Connection σ δ ω :=
  (l.1.perform E l.2 c).2

end Call

end Preludedb.Sql
