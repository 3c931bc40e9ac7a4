import Preludedb.Foundations.Counters
import Preludedb.Admin.Move

/-! The indices at which the loop of a move stores in its table of idents. A deletion that fails
leaves the table full, and the loop goes on. -/

namespace Preludedb.Admin

open Foundations Sql

/-- A store in the table: the index, and the answer of the deletion that it led to, if any. -/
structure Stored where
  index : ℕ
  deletion : Option Bool
  deriving DecidableEq, Repr

def Stored.emptied (x : Stored) : Bool := decide (x.deletion = some true)

namespace Settings

variable {μ : Type} (o : Settings)

/-- As `collect`, with what was stored. -/
def collectStored (ident : ℕ) (g : Progress) : Command μ ((Bool × Progress) × List Stored) :=
  if o.deleteCopied then
    let index := g.deleteTbl.length
    let g := { g with deleteTbl := g.deleteTbl ++ [ident] }
    if (o.eventsPerTransaction ≠ 0 ∧ o.eventsPerTransaction ≤ g.dstEventNo) ∨
        deleteTblSize ≤ g.deleteTbl.length then do
      match ← (Program.call (.deleteMessageFromList g.deleteTbl)).attempt with
      | .error _ => pure ((false, g), [⟨index, some false⟩])
      | .ok _ => pure ((true, { g with deleteTbl := [] }), [⟨index, some true⟩])
    else pure ((true, g), [⟨index, none⟩])
  else pure ((true, g), [])

/-- As `copyIterate`, with what was stored. -/
def copyIterateStored : List ℕ → Progress → Command μ ((Except SqlError Unit × Progress) × List Stored)
  | idents, g => do
    match ← (Program.call .resultIdentsGet).attempt with
    | .error e => do
      let r ← o.finish (.error e) g
      pure (r, [])
    | .ok _ =>
      match idents with
      | [] => do
        let r ← o.finish (.ok ()) g
        pure (r, [])
      | ident :: rest => do
        match ← (Program.call (.getMessage ident)).attempt with
        | .error e => pure ((.error e, g), [])
        | .ok message => do
          match ← (Program.call (.insertMessage message)).attempt with
          | .error e => pure ((.error e, g), [])
          | .ok _ => do
            let ((goOn, g), stored) ← o.collectStored ident g
            let g ← if goOn then o.flushTransactionIfNeeded 1 g else pure g
            let (r, storedRest) ← copyIterateStored rest g
            pure (r, stored ++ storedRest)

lemma collectStored_eq (ident : ℕ) (g : Progress) :
    (o.collect ident g : Command μ _) = o.collectStored ident g >>= fun r => pure r.1 := by
  rw [collect, collectStored]
  cases o.deleteCopied with
  | false => rfl
  | true =>
    simp only [if_true]
    split_ifs
    · rw [bind_assoc]
      refine bind_congr fun answer => ?_
      cases answer <;> rfl
    · rfl

/-- Only what was stored is looked at as well. -/
lemma copyIterateStored_eq (idents : List ℕ) (g : Progress) :
    (o.copyIterate idents g : Command μ _) = o.copyIterateStored idents g >>= fun r => pure r.1 := by
  induction idents generalizing g with
  | nil =>
    rw [copyIterate, copyIterateStored, bind_assoc]
    refine bind_congr fun got => ?_
    cases got with
    | error e => simp only [bind_assoc, pure_bind, bind_pure]
    | ok u => simp only [bind_assoc, pure_bind, bind_pure]
  | cons ident rest ih =>
    rw [copyIterate, copyIterateStored, bind_assoc]
    refine bind_congr fun got => ?_
    cases got with
    | error e => simp only [bind_assoc, pure_bind, bind_pure]
    | ok u =>
      simp only [bind_assoc]
      refine bind_congr fun message => ?_
      cases message with
      | error e => rfl
      | ok message =>
        simp only [bind_assoc]
        refine bind_congr fun inserted => ?_
        cases inserted with
        | error e => rfl
        | ok u =>
          simp only [collectStored_eq, bind_assoc, pure_bind]
          refine bind_congr fun collected => ?_
          split_ifs
          · simp only [ih, bind_assoc, pure_bind]
          · simp only [ih, bind_assoc, pure_bind]

/-- The table after a turn: what was stored in it, and whether it was emptied. -/
structure Turned (g g' : Progress) (stored : List Stored) : Prop where
  counted : stored = [] ∧ g'.deleteTbl = g.deleteTbl ∨ ∃ deletion, stored = [⟨g.deleteTbl.length, deletion⟩] ∧
    g'.deleteTbl.length = if deletion = some true then 0 else g.deleteTbl.length + 1

lemma collectStored_turned (ident : ℕ) (g : Progress) :
    (o.collectStored ident g : Command μ _).Yields fun r => Turned g r.1.2 r.2 := by
  rw [collectStored]
  cases o.deleteCopied with
  | false => exact ⟨.inl ⟨rfl, rfl⟩⟩
  | true =>
    simp only [if_true]
    split_ifs
    · refine (Program.yields_any _).bind fun answer _ => ?_
      cases answer with
      | error e => exact ⟨.inr ⟨some false, rfl, by simp⟩⟩
      | ok u => exact ⟨.inr ⟨some true, rfl, rfl⟩⟩
    · exact ⟨.inr ⟨none, rfl, by simp⟩⟩

lemma flushTransactionIfNeeded_deleteTbl (increment : ℕ) (g : Progress) :
    (o.flushTransactionIfNeeded increment g : Command μ _).Yields fun g' => g'.deleteTbl = g.deleteTbl := by
  rw [flushTransactionIfNeeded]
  split_ifs
  · exact rfl
  · exact (Program.yields_any _).bind fun _ _ => (Program.yields_any _).bind fun _ _ => rfl
  · exact rfl

/-- The table of idents is a counter that the deletions that succeed set back. -/
def Counted (g : Progress) (stored : List Stored) : Prop :=
  stored.map Stored.index = Counters.countsFrom g.deleteTbl.length (stored.map Stored.emptied)

lemma Turned.counted_append {g g' g'' : Progress} {stored rest : List Stored} (h : Turned g g' stored)
    (hsame : g''.deleteTbl = g'.deleteTbl) (hrest : Counted g'' rest) : Counted g (stored ++ rest) := by
  rw [Counted, hsame] at hrest
  rcases h.counted with ⟨rfl, hg⟩ | ⟨deletion, rfl, hg⟩
  · rw [hg] at hrest
    exact hrest
  · have hreset : (if Stored.emptied ⟨g.deleteTbl.length, deletion⟩ then 0 else g.deleteTbl.length + 1) =
        g'.deleteTbl.length := by simp [Stored.emptied, hg]
    rw [Counted, List.singleton_append, List.map_cons, List.map_cons, Counters.countsFrom, hreset, hrest]

lemma copyIterateStored_counted (idents : List ℕ) (g : Progress) :
    (o.copyIterateStored idents g : Command μ _).Yields fun r => Counted g r.2 := by
  induction idents generalizing g with
  | nil =>
    rw [copyIterateStored]
    refine (Program.yields_any _).bind fun got _ => ?_
    cases got <;> exact (Program.yields_any _).bind fun _ _ => rfl
  | cons ident rest ih =>
    rw [copyIterateStored]
    refine (Program.yields_any _).bind fun got _ => ?_
    cases got with
    | error e => exact (Program.yields_any _).bind fun _ _ => rfl
    | ok u =>
      refine (Program.yields_any _).bind fun message _ => ?_
      cases message with
      | error e => exact rfl
      | ok message =>
        refine (Program.yields_any _).bind fun inserted _ => ?_
        cases inserted with
        | error e => exact rfl
        | ok u =>
          refine (o.collectStored_turned ident g).bind fun collected hturned => ?_
          obtain ⟨⟨goOn, g'⟩, stored⟩ := collected
          cases goOn with
          | true =>
            exact (o.flushTransactionIfNeeded_deleteTbl 1 _).bind fun g'' hsame => (ih g'').bind fun r hr =>
              hturned.counted_append hsame hr
          | false => exact (ih _).bind fun r hr => hturned.counted_append rfl hr

/-- What a page stores, whose table is empty at the start. -/
def storesOf {σ : Type} (handle : (r : Api μ) → σ → Except SqlError r.Reply × σ) (idents : List ℕ) (g : Progress)
    (s : σ) : List Stored :=
  ((o.copyIterateStored idents { g with deleteTbl := [] }).run handle s).1.toOption.elim [] Prod.snd

lemma storesOf_counted {σ : Type} (handle : (r : Api μ) → σ → Except SqlError r.Reply × σ) (idents : List ℕ)
    (g : Progress) (s : σ) : Counted { g with deleteTbl := [] } (o.storesOf handle idents g s) := by
  rw [storesOf]
  cases hrun : ((o.copyIterateStored idents { g with deleteTbl := [] }).run handle s).1 with
  | error e => rfl
  | ok r => exact (o.copyIterateStored_counted idents _).run hrun

end Settings

/-- A source that refuses to delete. -/
def refusing : (r : Api ℕ) → Unit → Except SqlError r.Reply × Unit
  | .deleteMessageFromList _, s => (.error (preludedbError .query), s)
  | .getMessageIdents _ _, s => (.ok [], s)
  | .getMessage ident, s => (.ok ident, s)
  | .stopProcessing, s => (.ok false, s)
  | .resultIdentsGet, s | .insertMessage _, s | .transactionStart, s | .transactionEnd, s
  | .transactionAbort, s => (.ok (), s)

/-- A move without transactions. -/
def plainMove : Settings := ⟨0, -1, 0, true⟩

lemma collectStored_refused (ident : ℕ) (g : Progress) :
    ∃ r x, (plainMove.collectStored ident g).run refusing () = (.ok (r, [x]), ()) ∧ x.deletion ≠ some true := by
  have hevents : ¬ (plainMove.eventsPerTransaction ≠ 0 ∧ plainMove.eventsPerTransaction ≤ g.dstEventNo) :=
    fun h => h.1 rfl
  have hcopied : plainMove.deleteCopied = true := rfl
  rw [Settings.collectStored, if_pos hcopied]
  simp only [hevents, false_or]
  by_cases h : deleteTblSize ≤ (g.deleteTbl ++ [ident]).length
  · rw [if_pos h]
    exact ⟨(false, { g with deleteTbl := g.deleteTbl ++ [ident] }), ⟨g.deleteTbl.length, some false⟩, rfl, by simp⟩
  · rw [if_neg h]
    exact ⟨(true, { g with deleteTbl := g.deleteTbl ++ [ident] }), ⟨g.deleteTbl.length, none⟩, rfl, by simp⟩

lemma copyIterateStored_refused (idents : List ℕ) (g : Progress) :
    ∃ r stored, (plainMove.copyIterateStored idents g).run refusing () = (.ok (r, stored), ()) ∧
      stored.length = idents.length ∧ ∀ x ∈ stored, x.deletion ≠ some true := by
  induction idents generalizing g with
  | nil =>
    by_cases h : g.deleteTbl = []
    · refine ⟨(.ok (), g), [], ?_, rfl, by simp⟩
      simp [Settings.copyIterateStored, Settings.finish, Settings.flushTransactionIfNeeded, plainMove, Program.run_bind,
        Program.run_attempt, Program.run_call, refusing, h]
    · refine ⟨(.error (preludedbError (.foreign (-1))), g), [], ?_, rfl, by simp⟩
      simp [Settings.copyIterateStored, Settings.finish, Settings.flushTransactionIfNeeded, plainMove, Program.run_bind,
        Program.run_attempt, Program.run_call, refusing, h]
  | cons ident rest ih =>
    obtain ⟨⟨goOn, g'⟩, x, hcollect, hx⟩ := collectStored_refused ident g
    obtain ⟨r, stored, hrest, hlength, hall⟩ := ih g'
    refine ⟨r, x :: stored, ?_, by simp [hlength], by simpa [hx] using hall⟩
    have hflush : ∀ g, (plainMove.flushTransactionIfNeeded 1 g : Command ℕ Progress) = pure g := fun _ => rfl
    simp only [Settings.copyIterateStored, Program.run_bind, Program.run_attempt, Program.run_call, refusing, hcollect,
      hflush]
    cases goOn <;> simp [Program.run_bind, hrest]

end Preludedb.Admin

