import Preludedb.Foundations.Obligations
import Preludedb.Foundations.Store
import Preludedb.Sql.Error

/-! The copy and move commands of the administration tool: messages are read from the source one by
one and inserted in the destination under transactions of many events, and a move deletes from the
source what it has collected in a table. -/

namespace Preludedb.Admin

open Foundations Sql

/-- The calls of the library the commands make, and the look at the flag a signal sets. -/
inductive Api (μ : Type)
  | getMessageIdents (limit offset : Int)
  | resultIdentsGet
  | getMessage (ident : ℕ)
  | insertMessage (message : μ)
  | deleteMessageFromList (idents : List ℕ)
  | transactionStart
  | transactionEnd
  | transactionAbort
  | stopProcessing

def Api.Reply {μ : Type} : Api μ → Type
  | .getMessageIdents _ _ => List ℕ
  | .getMessage _ => μ
  | .stopProcessing => Bool
  | _ => Unit

abbrev Command (μ : Type) := Program (Api μ) SqlError Api.Reply

def getMessageIdents {μ : Type} (limit offset : Int) : Command μ (List ℕ) :=
  Program.call (Api.getMessageIdents limit offset)

def stopProcessing {μ : Type} : Command μ Bool := Program.call Api.stopProcessing

/-- What the command line sets; `limit` is negative when there is none. -/
structure Settings where
  eventsPerTransaction : ℕ
  limit : Int
  offset : Int
  deleteCopied : Bool

/-- The variables of a run: two counters of the program, the events of the open destination
transaction, and the table of the idents to delete. -/
structure Progress where
  curCount : ℕ
  limitCopy : Int
  dstEventNo : ℕ
  deleteTbl : List ℕ

/-- The size of the table of the idents to delete. -/
def deleteTblSize : ℕ := 1024

/-- The value of a wider integer passed as an `int`. -/
def toInt (n : Int) : Int := n.bmod (2 ^ 32)

namespace Settings

variable {μ : Type} (o : Settings)

/-- The result of the two calls is not looked at. -/
def flushTransactionIfNeeded (increment : ℕ) (g : Progress) : Command μ Progress :=
  if o.eventsPerTransaction = 0 then pure g
  else if o.eventsPerTransaction ≤ g.dstEventNo + increment ∨
      increment = 0 ∧ g.dstEventNo + increment ≠ 0 then do
    let _ ← (Program.call .transactionEnd).attempt
    let _ ← (Program.call .transactionStart).attempt
    pure { g with curCount := g.curCount + (g.dstEventNo + increment), dstEventNo := 0 }
  else pure { g with dstEventNo := g.dstEventNo + increment }

def transactionStart : Command μ Unit :=
  if 1 < o.eventsPerTransaction then do
    let _ ← (Program.call .transactionStart).attempt
    pure ()
  else pure ()

def transactionEnd (ret : Except SqlError Unit) : Command μ Unit :=
  if 1 < o.eventsPerTransaction then do
    match ret with
    | .error _ => do
      let _ ← (Program.call .transactionAbort).attempt
      pure ()
    | .ok () => do
      let _ ← (Program.call .transactionEnd).attempt
      pure ()
  else pure ()

def fetchMessageIdentsLimited (g : Progress) : Command μ (List ℕ × Progress) := do
  let localLimit := if g.limitCopy < 0 then (o.eventsPerTransaction : Int)
    else min o.eventsPerTransaction g.limitCopy
  let start := if o.deleteCopied then toInt o.offset else toInt (o.offset + g.curCount)
  let idents ← getMessageIdents (toInt localLimit) start
  pure (idents, if idents ≠ [] ∧ 0 < g.limitCopy then
    { g with limitCopy := g.limitCopy - idents.length } else g)

/-- A move puts the ident in its table, and deletes from the source when the table is full; the
failure of that deletion skips the rest of the turn. -/
def collect (ident : ℕ) (g : Progress) : Command μ (Bool × Progress) :=
  if o.deleteCopied then
    let g := { g with deleteTbl := g.deleteTbl ++ [ident] }
    if (o.eventsPerTransaction ≠ 0 ∧ o.eventsPerTransaction ≤ g.dstEventNo) ∨
        deleteTblSize ≤ g.deleteTbl.length then do
      match ← (Program.call (.deleteMessageFromList g.deleteTbl)).attempt with
      | .error _ => pure (false, g)
      | .ok _ => pure (true, { g with deleteTbl := [] })
    else pure (true, g)
  else pure (true, g)

/-- What follows the loop over the idents. -/
def finish (ret : Except SqlError Unit) (g : Progress) :
    Command μ (Except SqlError Unit × Progress) := do
  let g ← o.flushTransactionIfNeeded 0 g
  if g.deleteTbl ≠ [] then do
    match ← (Program.call (.deleteMessageFromList g.deleteTbl)).attempt with
    | .error _ => pure (.error (preludedbError (.foreign (-1))), g)
    | .ok _ => pure (ret, g)
  else pure (ret, g)

def copyIterate : List ℕ → Progress → Command μ (Except SqlError Unit × Progress)
  | idents, g => do
    match ← (Program.call .resultIdentsGet).attempt with
    | .error e => o.finish (.error e) g
    | .ok _ =>
      match idents with
      | [] => o.finish (.ok ()) g
      | ident :: rest => do
        match ← (Program.call (.getMessage ident)).attempt with
        | .error e => pure (.error e, g)
        | .ok message => do
          match ← (Program.call (.insertMessage message)).attempt with
          | .error e => pure (.error e, g)
          | .ok _ => do
            let (goOn, g) ← o.collect ident g
            let g ← if goOn then o.flushTransactionIfNeeded 1 g else pure g
            copyIterate rest g

/-- The turns of the command, at most `fuel` of them. -/
def copyMoveLoop : ℕ → Progress → Command μ (Except SqlError Unit)
  | 0, _ => pure (.ok ())
  | fuel + 1, g => do
    match ← (o.fetchMessageIdentsLimited g).attempt with
    | .error e => pure (.error e)
    | .ok ([], _) => pure (.ok ())
    | .ok (idents, g) => do
      let (ret, g) ← o.copyIterate idents { g with deleteTbl := [] }
      match ret with
      | .error e => pure (.error e)
      | .ok () => do
        let stop ← stopProcessing
        if stop then pure (.ok ()) else copyMoveLoop fuel g

def doCmdCopyMove (fuel : ℕ) : Command μ (Except SqlError Unit) := do
  o.transactionStart
  let ret ← o.copyMoveLoop fuel ⟨0, o.limit, 0, []⟩
  o.transactionEnd ret
  pure ret

/-- The counter after the end of the command's transaction. -/
def endCount (ret : Except SqlError Unit) (g : Progress) : ℕ :=
  match ret with
  | .error _ => g.curCount
  | .ok () => if 1 < o.eventsPerTransaction then g.curCount + g.dstEventNo else g.curCount

/-- The turns of the command with the variables they leave; `none` when `fuel` turns do not
suffice. -/
def copyMoveTurns : ℕ → Progress → Command μ (Option (Except SqlError Unit × Progress))
  | 0, _ => pure none
  | fuel + 1, g => do
    match ← (o.fetchMessageIdentsLimited g).attempt with
    | .error e => pure (some (.error e, g))
    | .ok ([], g) => pure (some (.ok (), g))
    | .ok (idents, g) => do
      let (ret, g) ← o.copyIterate idents { g with deleteTbl := [] }
      match ret with
      | .error e => pure (some (.error e, g))
      | .ok () => do
        let stop ← stopProcessing
        if stop then pure (some (.ok (), g)) else copyMoveTurns fuel g

def outcome (turns : Option (Except SqlError Unit × Progress)) : Except SqlError Unit :=
  (turns.map Prod.fst).getD (.ok ())

/-- The command with the counter it leaves, which the program reports. -/
def copyMove (fuel : ℕ) : Command μ (Option (Except SqlError Unit × ℕ)) := do
  o.transactionStart
  let turns ← o.copyMoveTurns fuel ⟨0, o.limit, 0, []⟩
  o.transactionEnd (outcome turns)
  pure (turns.map fun end_ => (end_.1, o.endCount end_.1 end_.2))

lemma copyMoveLoop_eq (fuel : ℕ) (g : Progress) :
    (o.copyMoveLoop fuel g : Command μ _) = o.copyMoveTurns fuel g >>= fun r => pure (outcome r) := by
  induction fuel generalizing g with
  | zero => rfl
  | succ fuel ih =>
    simp only [copyMoveLoop, copyMoveTurns, bind_assoc]
    refine bind_congr fun fetched => ?_
    split
    · rfl
    · rfl
    · simp only [bind_assoc]
      refine bind_congr fun iterated => ?_
      split
      · rfl
      · simp only [bind_assoc]
        refine bind_congr fun stop => ?_
        split
        · rfl
        · exact ih _

/-- The command is the one above; only its counter is looked at as well. -/
lemma doCmdCopyMove_eq (fuel : ℕ) :
    (o.doCmdCopyMove fuel : Command μ _) = o.copyMove fuel >>= fun r =>
      pure ((r.map Prod.fst).getD (.ok ())) := by
  simp only [doCmdCopyMove, copyMove, copyMoveLoop_eq, bind_assoc, pure_bind]
  refine bind_congr fun _ => bind_congr fun turns => bind_congr fun _ => ?_
  cases turns <;> rfl

end Settings

/-- What becomes of a call: it succeeds, it fails, or it fails and its session is lost. -/
inductive Fault
  | none
  | refused (e : SqlError)
  | lost (e : SqlError)
  deriving DecidableEq

/-- The environment of a command. The source holds the messages `content i` under the idents `i`,
of which the criteria select some. -/
structure Environment (μ : Type) where
  fault : ℕ → Fault
  stop : ℕ → Bool
  content : ℕ → μ
  selected : ℕ → Bool

/-- The idents left in the source, the destination with its open transaction, and whether the
destination is in a transaction of the command. -/
structure Databases (μ : Type) where
  source : List ℕ
  destination : Store (List μ) μ
  transaction : Bool
  clock : ℕ

def append {μ : Type} (ms : List μ) (m : μ) : List μ := ms ++ [m]

namespace Databases

variable {μ : Type} (s : Databases μ)

def next : Databases μ := { s with clock := s.clock + 1 }

/-- The destination loses its session. -/
def lose : Databases μ := { s with destination := s.destination.rollback }

def view : List μ := s.destination.view append

/-- Outside a transaction of the command an insertion has its own. -/
def insert (m : μ) : Databases μ :=
  if s.transaction then { s with destination := s.destination.write append [m] }
  else { s with destination := ((s.destination.start append).write append [m]).commit append }

def delete (idents : List ℕ) : Databases μ :=
  { s with source := s.source.filter fun i => !idents.contains i }

def opened : Databases μ :=
  { s with destination := s.destination.start append, transaction := true }

def committed : Databases μ :=
  { s with destination := s.destination.commit append, transaction := false }

def aborted : Databases μ :=
  { s with destination := s.destination.rollback, transaction := false }

def left : Databases μ := { s with transaction := false }

def matching (env : Environment μ) (limit offset : Int) : List ℕ :=
  let found := s.source.filter env.selected
  if limit < 0 then found else (found.drop offset.toNat).take limit.toNat

end Databases

section

variable {μ : Type} (env : Environment μ)

/-- The answer of a call: `ok` when it succeeds, and `failed` when it does not. -/
def answer {ρ : Type} (onDestination : Bool) (s failed : Databases μ) (ok : ρ × Databases μ) :
    Except SqlError ρ × Databases μ :=
  match env.fault s.clock with
  | .none => (.ok ok.1, ok.2.next)
  | .refused e => (.error e, failed.next)
  | .lost e => (.error e, (if onDestination then failed.lose else failed).next)

def handle : (r : Api μ) → Databases μ → Except SqlError r.Reply × Databases μ
  | .getMessageIdents limit offset, s => answer env false s s (s.matching env limit offset, s)
  | .resultIdentsGet, s => answer env false s s ((), s)
  | .getMessage ident, s => answer env false s s (env.content ident, s)
  | .insertMessage message, s => answer env true s s ((), s.insert message)
  | .deleteMessageFromList idents, s => answer env false s s ((), s.delete idents)
  | .transactionStart, s =>
    if s.transaction then (.error (preludedbError .alreadyInTransaction), s.next)
    else answer env true s s ((), s.opened)
  | .transactionEnd, s =>
    if s.transaction then answer env true s s.left ((), s.committed)
    else (.error (preludedbError .notInTransaction), s.next)
  | .transactionAbort, s =>
    if s.transaction then answer env true s s.left ((), s.aborted)
    else (.error (preludedbError .notInTransaction), s.next)
  | .stopProcessing, s => (.ok (env.stop s.clock), s.next)

end

end Preludedb.Admin
