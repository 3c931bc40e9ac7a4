import Preludedb.Foundations.Monitors
import Preludedb.Classic.Traversal
import Preludedb.Classic.Files

/-! The errors of the database that the readers of a message pass over: that of the query for a
service, and that of a fetch in a loop whose objects are gone over once more. -/

namespace Preludedb.Classic

open Foundations Sql Idmef

/-- The table that was selected from last, and the fetches since. -/
structure Cursor where
  table : Option Table
  fetched : ℕ

def Cursor.start : Cursor := ⟨none, 0⟩

def Cursor.next (c : Cursor) : Request → Cursor
  | .query (.data (.select t _ _ _)) => ⟨some t, 0⟩
  | .query _ => ⟨none, 0⟩
  | .fetchRow => ⟨c.table, c.fetched + 1⟩
  | _ => c

/-- A fetch after the first row of such a table. -/
def Cursor.InRevisited (c : Cursor) : Prop := (∃ t ∈ revisited, c.table = some t) ∧ 1 ≤ c.fetched

/-- The requests whose errors are passed over. -/
def Cursor.PassedOver (c : Cursor) : Request → Prop
  | .query (.data (.select t _ _ _)) => t = .service
  | .fetchRow => c.InRevisited
  | _ => False

def lostErrors : Monitor Request Cursor := ⟨Cursor.next, Cursor.PassedOver⟩

/-- The SELECT statements and the fetches of rows. -/
def Retrieves : Request → Prop
  | .query (.data _) | .fetchRow => True
  | _ => False

instance : DecidablePred Retrieves
  | .query (.data _) | .fetchRow => .isTrue trivial
  | .query .begin | .query .commit | .query .rollback | .escapeFast _ | .escapeBinary _ | .unescapeBinary _
  | .fetchField | .getLastInsertIdent | .baseTransactionStart | .baseTransactionEnd | .baseTransactionAbort
  | .transactionStart | .transactionEnd | .transactionAbort | .outerTransactionStart | .outerTransactionEnd
  | .outerTransactionAbort => .isFalse id

/-- The errors that are not passed over end the program. -/
def Watched {α : Type} (p : Action α) : Prop := ∀ c, p.Heeds lostErrors (fun _ => True) c

section Rules

variable {α β : Type}

lemma Prompt.watched {p : Action α} (hp : Prompt p) : Watched p := fun c => Program.FailStop.heeds hp c

lemma Watched.bind {p : Action α} {f : α → Action β} (hp : Watched p) (hf : ∀ a, Watched (f a)) :
    Watched (p >>= f) :=
  fun c => (hp c).bind fun a c _ => hf a c

/-- The error of the query is not that of the reader. -/
lemma selectService_watched (columns : List String) (w : Where) :
    Watched (select .service columns w).attempt := by
  refine fun c => ⟨fun hspared => absurd rfl hspared, fun x => ?_⟩
  cases x <;> trivial

end Rules

section Objects

variable {α : Type} {f : Int → List Cell → Action α} (hp : ∀ index row, Prompt (f index row))
  (hf : ∀ index row, OnlyFields (f index row))

lemma next_fetchField (c : Cursor) (r : Request) (hr : r = .fetchField) : lostErrors.next c r = c := by
  rw [hr]
  rfl

lemma fetchOrEnd_heeds {next : Action (List α)} {c : Cursor} (hc : c.InRevisited)
    (h : next.Heeds lostErrors (fun _ => True) (c.next .fetchRow)) :
    (fetchOrEnd next).Heeds lostErrors (fun _ => True) c := by
  refine ⟨fun hspared => absurd hc hspared, fun x => ?_⟩
  cases x with
  | error e => trivial
  | ok a => exact h

lemma Cursor.InRevisited.next {c : Cursor} (h : c.InRevisited) : (c.next .fetchRow).InRevisited :=
  ⟨h.1, Nat.le_succ_of_le h.2⟩

include hp hf

lemma restRows_heeds (index : Int) (rows : Result) {c : Cursor} (hc : c.InRevisited) :
    (restRows f index rows).Heeds lostErrors (fun _ => True) c := by
  induction rows generalizing index c with
  | nil => exact fetchOrEnd_heeds hc trivial
  | cons row rows ih =>
    have hvalue : (f index row).Heeds lostErrors (· = c.next .fetchRow) (c.next .fetchRow) :=
      (hp index row).heeds_same (hf index row) (next_fetchField _)
    refine fetchOrEnd_heeds hc (hvalue.bind fun value c' hc' => ?_)
    rw [hc']
    exact (ih (index + 1) hc.next).bind fun _ _ _ => trivial

/-- The first fetch ends the reader when it fails, and the others the loop. -/
lemma objectRows_watched {t : Table} (ht : t ∈ revisited) (columns : List String) (w : Where) :
    Watched (selectOrdered t columns w >>= objectRows f) := by
  intro c
  have hselect : (selectOrdered t columns w).Heeds lostErrors (· = ⟨some t, 0⟩) c := by
    refine ⟨fun _ e => ⟨e, rfl⟩, fun x => ?_⟩
    cases x with
    | error e => trivial
    | ok a => rfl
  refine hselect.bind fun table c hc => ?_
  rw [hc]
  cases table with
  | none => trivial
  | some rows =>
    have hfetch : (Program.call Call.fetchRow : Action Unit).Heeds lostErrors (· = ⟨some t, 1⟩) ⟨some t, 0⟩ := by
      refine ⟨fun _ e => ⟨e, rfl⟩, fun x => ?_⟩
      cases x with
      | error e => trivial
      | ok a => rfl
    cases rows with
    | nil => exact hfetch.bind fun _ _ _ => trivial
    | cons row rows =>
      have hrevisited : Cursor.InRevisited ⟨some t, 1⟩ := ⟨⟨t, ht, rfl⟩, Nat.le_refl 1⟩
      refine hfetch.bind fun _ c hc => ?_
      rw [hc]
      have hvalue : (f 0 row).Heeds lostErrors (· = (⟨some t, 1⟩ : Cursor)) ⟨some t, 1⟩ :=
        (hp 0 row).heeds_same (hf 0 row) (next_fetchField _)
      refine hvalue.bind fun value c' hc' => ?_
      rw [hc']
      exact (restRows_heeds hp hf 1 rows hrevisited).bind fun _ _ _ => trivial

end Objects

section Readers

variable [L : Libprelude] (ident : ℕ)

lemma watched_compositional : Compositional fun _ p => Watched p where
  done _ := Prompt.watched trivial
  bind hp hf := hp.bind hf
  ask r _ := (prompt_call r).watched
  convert x _ := (prompt_ofExcept x).watched
  service columns w := selectService_watched columns w
  objects ht hp hf _ columns w := objectRows_watched hp hf ht columns w

omit L in
lemma messageRowOf_prompt {α : Type} {f : List Cell → Action α} (hf : ∀ row, Prompt (f row)) (table : Option Result) :
    Prompt (messageRowOf f table) := by
  rcases table with _ | _ | ⟨row, rows⟩
  · trivial
  · exact (prompt_call .fetchRow).bind fun _ => trivial
  · exact (prompt_call .fetchRow).bind fun _ => hf row

omit L in
lemma getOverflowAlert_prompt : Prompt (getOverflowAlert ident) := by
  refine Prompt.bind (prompt_call _) fun table => ?_
  rcases table with _ | _ | ⟨row, rows⟩
  · trivial
  · exact (prompt_call .fetchRow).bind fun _ => trivial
  · refine (prompt_call .fetchRow).bind fun _ => Prompt.bind ?_ fun _ => trivial
    refine (getString_prompt row 0).bind fun _ => (getInteger_prompt _ row 1).bind fun _ =>
      (rowGetField_prompt row 2).bind fun field => ?_
    cases field with
    | none => trivial
    | some field => exact Prompt.bind ((prompt_call _).bind fun _ => trivial) fun _ => trivial

lemma classicGet_watched (k : Kind) : Watched (classicGet k ident) := by
  cases k with
  | alert =>
    have hmessageid : Prompt (getAlertMessageid ident) :=
      Prompt.bind (prompt_call _) fun table => messageRowOf_prompt (fun row => getString_prompt row 0) table
    have halert : Watched (classicGetAlert ident) := by
      rw [classicGetAlert_eq]
      exact hmessageid.watched.bind fun _ => (alertParts_holds watched_compositional ident _).bind fun _ =>
        (getOverflowAlert_prompt ident).watched.bind fun _ => Prompt.watched trivial
    exact halert.bind fun _ => Prompt.watched trivial
  | heartbeat =>
    have hheartbeat : Prompt (getHeartbeat ident) := by
      refine Prompt.bind (prompt_call _) fun table => messageRowOf_prompt (fun row => ?_) table
      exact (getString_prompt row 0).bind fun _ => (getInteger_prompt _ row 1).bind fun _ => trivial
    exact (hheartbeat.watched.bind fun row => heartbeatParts_holds watched_compositional ident row).bind fun _ =>
      Prompt.watched trivial

end Readers

section Runs

lemma passedOver_retrieves (c : Cursor) (r : Request) (h : lostErrors.Spares c r) : Retrieves r := by
  cases r with
  | query s =>
    cases s with
    | data q => trivial
    | _ => exact h.elim
  | fetchRow => trivial
  | _ => exact h.elim

/-- A message that is returned is one of which nothing failed to be read, when no query for a service
failed and no fetch after the first row of a source, a target or a file. -/
theorem classicGet_reads_all_iff [L : Libprelude] {σ : Type} (handle : (r : Request) → σ → Except SqlError (r.Reply Result) × σ)
    (s : σ) (k : Kind) (ident : ℕ) {m : Message} (h : ((classicGet k ident).run handle s).1 = .ok m) :
    (classicGet k ident).Succeeds handle Retrieves s ↔
      (classicGet k ident).SparedSucceed lostErrors handle Cursor.start s := by
  constructor
  · exact fun hs => hs.spared passedOver_retrieves
  · exact fun hs => (((classicGet_watched ident k) Cursor.start).succeeds h hs).mono fun _ _ => trivial

/-- The queries for one table are refused, and nothing else. -/
def unread (t : Table) : Pattern
  | _, .query (.data (.select t' _ _ _)) => if t' = t then ⟨none, some (preludedbError .query)⟩ else .ok
  | _, _ => .ok

/-- An alert from a source with a service. -/
def servedAlert : Message := .alert { classifiedAlert with
  sources := [⟨none, 0, none, none, none, none, some ⟨none, none, none, none, some "ssh", some 22, none, none, .default⟩⟩] }

/-- The session that has stored the alert. -/
def servedWorld (b : Backend) : World :=
  (Classic.run b (fun _ _ => .ok) (classicInsert (L := bareLibrary) servedAlert) newWorld).2

theorem classicGet_reads_all_served : ∃ m, ((classicGet (L := bareLibrary) .alert 1).run
      (handle .pgsql fun _ _ => .ok) (servedWorld .pgsql)).1 = .ok m ∧
    ((classicGet (L := bareLibrary) .alert 1).Succeeds (handle .pgsql fun _ _ => .ok) Retrieves (servedWorld .pgsql) ↔
      (classicGet (L := bareLibrary) .alert 1).SparedSucceed lostErrors (handle .pgsql fun _ _ => .ok)
        Cursor.start (servedWorld .pgsql)) := by
  have hok : ((classicGet (L := bareLibrary) .alert 1).run (handle .pgsql fun _ _ => .ok)
      (servedWorld .pgsql)).1.isOk = true := by decide +kernel
  cases hrun : ((classicGet (L := bareLibrary) .alert 1).run (handle .pgsql fun _ _ => .ok)
      (servedWorld .pgsql)).1 with
  | error e =>
    rw [hrun] at hok
    cases hok
  | ok m => exact ⟨m, rfl, classicGet_reads_all_iff (L := bareLibrary) _ _ _ _ hrun⟩

/-- The service is missing from the alert that is returned. -/
theorem classicGet_loses_service : ¬ ∀ (b : Backend) (p : Pattern) (w : World) (k : Kind) (ident : ℕ) (m : Message),
    ((classicGet (L := bareLibrary) k ident).run (handle b p) w).1 = .ok m →
      (classicGet (L := bareLibrary) k ident).Succeeds (handle b p) Retrieves w := by
  intro h
  have hok : ((classicGet (L := bareLibrary) .alert 1).run (handle .pgsql (unread .service))
      (servedWorld .pgsql)).1.isOk = true := by decide +kernel
  cases hrun : ((classicGet (L := bareLibrary) .alert 1).run (handle .pgsql (unread .service))
      (servedWorld .pgsql)).1 with
  | error e =>
    rw [hrun] at hok
    cases hok
  | ok m => exact absurd (h _ _ _ _ _ m hrun) (by decide +kernel)

end Runs

end Preludedb.Classic
