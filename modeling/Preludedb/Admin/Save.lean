import Preludedb.Foundations.Paging
import Preludedb.Admin.Pages

/-! The save command of the administration tool: the messages are fetched in pages and written to a
file one by one, and one that cannot be retrieved or encoded is passed over. -/

namespace Preludedb.Admin

open Foundations Paging Sql

/-- The calls of the library, and the writing of a message. -/
inductive SaveApi (μ : Type)
  | library (r : Api μ)
  | messageWrite (ident : ℕ) (message : μ)

def SaveApi.Reply {μ : Type} : SaveApi μ → Type
  | .library r => r.Reply
  | .messageWrite _ _ => Unit

abbrev Saving (μ : Type) := Program (SaveApi μ) SqlError SaveApi.Reply

variable {μ : Type}

def Command.saving {α : Type} : Command μ α → Saving μ α
  | .done a => .done a
  | .fail e => .fail e
  | .request r k => .request (.library r) fun x => Command.saving (k x)

/-- The messages that have been written are counted. -/
def saveIterateMessage : List ℕ → ℕ → Saving μ ℕ
  | idents, curCount => do
    let stop ← Command.saving stopProcessing
    if stop then pure curCount
    else do
      match ← (Program.call (.library .resultIdentsGet)).attempt with
      | .error _ => pure curCount
      | .ok _ =>
        match idents with
        | [] => pure curCount
        | ident :: rest => do
          match ← (Program.call (.library (.getMessage ident))).attempt with
          | .error _ => saveIterateMessage rest curCount
          | .ok message => do
            match ← (Program.call (.messageWrite ident message)).attempt with
            | .error _ => saveIterateMessage rest curCount
            | .ok _ => saveIterateMessage rest (curCount + 1)

namespace Settings

variable (o : Settings)

/-- The turns of the command; `none` when `fuel` turns do not suffice. -/
def saveTurns : ℕ → Progress → Saving μ (Option (Except SqlError Unit))
  | 0, _ => pure none
  | fuel + 1, g => do
    match ← (Command.saving (o.fetchMessageIdentsLimited g)).attempt with
    | .error e => pure (some (.error e))
    | .ok ([], _) => pure (some (.ok ()))
    | .ok (idents, g) => do
      let curCount ← saveIterateMessage idents g.curCount
      let stop ← Command.saving stopProcessing
      if stop then pure (some (.ok ())) else saveTurns fuel { g with curCount := curCount }

/-- A save asks for the next page behind what it has counted. -/
def cmdSave (fuel : ℕ) : Saving μ (Option (Except SqlError Unit)) :=
  ({ o with deleteCopied := false } : Settings).saveTurns fuel ⟨0, o.limit, 0, []⟩

end Settings

/-- A source of messages in one order, some of which cannot be retrieved or encoded. -/
structure Holdings (μ : Type) where
  matching : List ℕ
  content : ℕ → μ
  retrieval : ℕ → Option SqlError
  encoding : μ → Option SqlError

namespace Holdings

variable (h : Holdings μ)

def page (limit offset : Int) : List ℕ :=
  if limit < 0 then h.matching else (h.matching.drop offset.toNat).take limit.toNat

def saved (ident : ℕ) : Bool :=
  (h.retrieval ident).isNone && (h.encoding (h.content ident)).isNone

/-- The idents of the messages that are in the file. -/
def archive : (r : SaveApi μ) → List ℕ → Except SqlError r.Reply × List ℕ
  | .library (.getMessageIdents limit offset), file => (.ok (h.page limit offset), file)
  | .library (.getMessage ident), file =>
    match h.retrieval ident with
    | some e => (.error e, file)
    | none => (.ok (h.content ident), file)
  | .library .stopProcessing, file => (.ok false, file)
  | .library .resultIdentsGet, file | .library (.insertMessage _), file
  | .library (.deleteMessageFromList _), file | .library .transactionStart, file
  | .library .transactionEnd, file | .library .transactionAbort, file => (.ok (), file)
  | .messageWrite ident message, file =>
    match h.encoding message with
    | some e => (.error e, file)
    | none => (.ok (), file ++ [ident])

/-- The messages a save is asked for. -/
def selected (o : Settings) : List ℕ :=
  let past := h.matching.drop o.offset.toNat
  if o.limit < 0 then past else past.take o.limit.toNat

end Holdings

section Pages

variable {h : Holdings μ} {o : Settings} {g : Progress} {file : List ℕ}

/-- What becomes of one message. -/
lemma saved_cases (h : Holdings μ) (ident : ℕ) :
    (∃ e, h.retrieval ident = some e ∧ h.saved ident = false) ∨
    (h.retrieval ident = none ∧ ∃ e, h.encoding (h.content ident) = some e ∧ h.saved ident = false) ∨
    (h.retrieval ident = none ∧ h.encoding (h.content ident) = none ∧ h.saved ident = true) := by
  rw [Holdings.saved]
  cases h.retrieval ident with
  | some e => exact .inl ⟨e, rfl, rfl⟩
  | none =>
    cases h.encoding (h.content ident) with
    | some e => exact .inr (.inl ⟨rfl, e, rfl, rfl⟩)
    | none => exact .inr (.inr ⟨rfl, rfl, rfl⟩)

lemma saveIterateMessage_run (idents : List ℕ) (curCount : ℕ) :
    (saveIterateMessage idents curCount).run h.archive file =
      (.ok (curCount + (idents.filter h.saved).length), file ++ idents.filter h.saved) := by
  induction idents generalizing curCount file with
  | nil =>
    rw [saveIterateMessage, List.filter_nil, List.append_nil]
    rfl
  | cons ident rest ih =>
    rw [saveIterateMessage]
    change Program.run h.archive ((Program.call (SaveApi.library (.getMessage ident))).attempt >>= _) file = _
    rw [Program.run_try]
    rcases saved_cases h ident with ⟨e, hr, hs⟩ | ⟨hr, e, he, hs⟩ | ⟨hr, he, hs⟩
    · rw [List.filter_cons_of_neg (by rw [hs]; exact Bool.false_ne_true), ← ih]
      simp only [Holdings.archive, hr]
    · rw [List.filter_cons_of_neg (by rw [hs]; exact Bool.false_ne_true), ← ih]
      simp only [Holdings.archive, hr]
      rw [Program.run_try]
      simp only [Holdings.archive, he]
    · simp only [Holdings.archive, hr]
      rw [Program.run_try]
      simp only [Holdings.archive, he]
      rw [ih, List.filter_cons_of_pos hs, List.append_assoc, List.length_cons, Nat.add_assoc, Nat.add_comm 1]
      rfl

lemma saving_run {α : Type} (p : Command μ α) :
    (Command.saving p).run h.archive file = p.run (fun r => h.archive (.library r)) file := by
  induction p generalizing file with
  | done a | fail e => rfl
  | request r k ih => exact ih _

/-- The messages past the offset. -/
def Holdings.past (h : Holdings μ) (o : Settings) : List ℕ := h.matching.drop o.offset.toNat

def Holdings.at (h : Holdings μ) (o : Settings) (i : ℕ) : ℕ := (h.past o)[i]?.getD 0

def Holdings.savedAt (h : Holdings μ) (o : Settings) (i : ℕ) : Bool := h.saved (h.at o i)

def limitOf (limit : Int) : Option ℕ := if limit < 0 then none else some limit.toNat

lemma limitOf_page (g : Progress) :
    o.pageSize g = (limitOf g.limitCopy).elim o.eventsPerTransaction (min o.eventsPerTransaction) := by
  rw [Settings.pageSize, limitOf]
  split <;> rfl

lemma page_positions (c k : ℕ) : ((h.past o).drop c).take k =
    (List.range' c (min (c + k) (h.past o).length - c)).map (h.at o) := by
  refine List.ext_getElem ?_ fun i hi hi' => ?_
  · rw [List.length_take, List.length_drop, List.length_map, List.length_range']
    omega
  · rw [List.length_take, List.length_drop] at hi
    rw [List.getElem_take, List.getElem_drop, List.getElem_map, List.getElem_range', Holdings.at,
      List.getElem?_eq_getElem (by omega), Option.getD_some]
    congr 1
    omega

lemma page_saved (c k : ℕ) : (((h.past o).drop c).take k).filter h.saved =
    (hits (h.savedAt o) c (min (c + k) (h.past o).length)).map (h.at o) := by
  rw [page_positions, List.filter_map]
  rfl

lemma fetched_limitOf {idents : List ℕ} (hne : idents ≠ []) (hle : idents.length ≤ o.pageSize g) :
    limitOf (g.fetched idents).limitCopy = (limitOf g.limitCopy).map fun l => l - idents.length := by
  have hpos := List.length_pos_iff.mpr hne
  rw [Settings.pageSize] at hle
  by_cases hneg : g.limitCopy < 0
  · have hsame : g.fetched idents = g := if_neg fun hc => absurd hc.2 (by omega)
    rw [hsame, limitOf, if_pos hneg]
    rfl
  · rw [if_neg hneg] at hle
    have hless : (g.fetched idents).limitCopy = g.limitCopy - idents.length := by
      rw [Progress.fetched, if_pos ⟨hne, by omega⟩]
    rw [hless, limitOf, limitOf, if_neg hneg, if_neg (by omega), Option.map_some]
    congr 1
    omega

lemma fetch_run (ho : o.deleteCopied = false) (hE : o.eventsPerTransaction < 2 ^ 31) (h0 : 0 ≤ o.offset)
    (hsmall : o.offset + g.curCount < 2 ^ 31) :
    (o.fetchMessageIdentsLimited g).run (fun r => h.archive (.library r)) file =
      (.ok (((h.past o).drop g.curCount).take (o.pageSize g),
        g.fetched (((h.past o).drop g.curCount).take (o.pageSize g))), file) := by
  have hpage : h.page (o.pageSize g) ((o.offset.toNat + g.curCount : ℕ) : Int) =
      ((h.past o).drop g.curCount).take (o.pageSize g) := by
    rw [Holdings.page, if_neg (by omega), Int.toNat_natCast, Int.toNat_natCast, Holdings.past,
      List.drop_drop]
  rw [fetch_eq hE h0 (by rw [ho]; exact hsmall), ho, ← hpage]
  rfl

lemma stopProcessing_run : (Command.saving stopProcessing).run h.archive file = (.ok false, file) := rfl

/-- The turns of a save are those of its pages. -/
lemma saveTurns_run (ho : o.deleteCopied = false) (hE : o.eventsPerTransaction < 2 ^ 31) (h0 : 0 ≤ o.offset)
    (hsmall : o.offset + (h.past o).length < 2 ^ 31) (fuel : ℕ) (hcount : g.curCount ≤ (h.past o).length) :
    (Paging.turns (h.savedAt o) (h.past o).length o.eventsPerTransaction fuel (limitOf g.limitCopy) g.curCount = none →
      ((o.saveTurns fuel g).run h.archive file).1 = .ok none) ∧
    ∀ done, Paging.turns (h.savedAt o) (h.past o).length o.eventsPerTransaction fuel (limitOf g.limitCopy) g.curCount =
        some done →
      (o.saveTurns fuel g).run h.archive file = (.ok (some (.ok ())), file ++ done.map (h.at o)) := by
  induction fuel generalizing g file with
  | zero => exact ⟨fun _ => rfl, fun done hdone => by cases hdone⟩
  | succ fuel ih =>
    have hfetch := @fetch_run _ h o g file ho hE h0 (by omega)
    generalize hidents : ((h.past o).drop g.curCount).take (o.pageSize g) = idents at hfetch
    have hend : pageEnd (h.past o).length o.eventsPerTransaction (limitOf g.limitCopy) g.curCount =
        min (g.curCount + o.pageSize g) (h.past o).length := by
      rw [pageEnd, limitOf_page]
    have hlength : idents.length =
        pageEnd (h.past o).length o.eventsPerTransaction (limitOf g.limitCopy) g.curCount - g.curCount := by
      rw [hend, ← hidents, List.length_take, List.length_drop]
      omega
    have hsaved := page_saved (h := h) (o := o) g.curCount (o.pageSize g)
    rw [← hend, hidents] at hsaved
    rw [Paging.turns, Settings.saveTurns, Program.run_bind, Program.run_attempt, saving_run, hfetch]
    cases idents with
    | nil =>
      rw [List.length_nil] at hlength
      rw [if_pos (by omega)]
      refine ⟨fun hnone => (by cases hnone), fun done hdone => ?_⟩
      cases hdone
      exact Prod.ext rfl (List.append_nil file).symm
    | cons ident rest =>
      rw [List.length_cons] at hlength
      rw [if_neg (by omega)]
      generalize hpage : pageEnd (h.past o).length o.eventsPerTransaction (limitOf g.limitCopy) g.curCount = e
        at hlength hend hsaved ⊢
      have hlimit : limitOf (g.fetched (ident :: rest)).limitCopy =
          (limitOf g.limitCopy).map fun l => l - (e - g.curCount) := by
        have hle : (ident :: rest).length ≤ o.pageSize g := by
          rw [← hidents]
          exact List.length_take_le _ _
        rw [fetched_limitOf (List.cons_ne_nil _ _) hle, List.length_cons, hlength]
      have hcurCount : (g.fetched (ident :: rest)).curCount = g.curCount := fetched_curCount g _
      have hhits := @hits_length_le (h.savedAt o) g.curCount e
      simp only [Program.run_bind, saveIterateMessage_run, stopProcessing_run, Bool.false_eq_true, if_false,
        hcurCount, hsaved, List.length_map]
      obtain ⟨hnone, hsome⟩ := @ih { g.fetched (ident :: rest) with
        curCount := g.curCount + (hits (h.savedAt o) g.curCount e).length }
        (file ++ (hits (h.savedAt o) g.curCount e).map (h.at o)) (by simp only; omega)
      simp only [hlimit] at hnone hsome
      refine ⟨fun hturns => hnone (Option.map_eq_none_iff.mp hturns), fun done hturns => ?_⟩
      obtain ⟨rest', hrest, rfl⟩ := Option.map_eq_some_iff.mp hturns
      rw [List.map_append, ← List.append_assoc]
      exact hsome rest' hrest

/-- The messages a save is asked for, by their positions past the offset. -/
lemma selected_positions (o : Settings) : (h.selected o).filter h.saved =
    (hits (h.savedAt o) 0 ((limitOf o.limit).elim (h.past o).length fun l => min l (h.past o).length)).map
      (h.at o) := by
  have hpast : h.selected o = ((h.past o).drop 0).take
      ((limitOf o.limit).elim (h.past o).length fun l => min l (h.past o).length) := by
    rw [Holdings.selected, limitOf, List.drop_zero]
    split
    · rw [Option.elim_none, List.take_length]
      rfl
    · rw [Option.elim_some, ← List.take_eq_take_min]
      rfl
  rw [hpast, page_saved, Nat.zero_add]
  congr 2
  cases limitOf o.limit with
  | none => rw [Option.elim_none, Nat.min_self]
  | some l => rw [Option.elim_some, Nat.min_assoc, Nat.min_self]

/-- Positions within the list tell its elements apart. -/
lemma perm_positions {l l' : List ℕ} (hnd : h.matching.Nodup) (hl : ∀ i ∈ l, i < (h.past o).length)
    (hl' : ∀ i ∈ l', i < (h.past o).length) : (l.map (h.at o)).Perm (l'.map (h.at o)) ↔ l.Perm l' := by
  have hpast : (h.past o).Nodup := (List.drop_sublist _ _).nodup hnd
  have hback : ∀ l : List ℕ, (∀ i ∈ l, i < (h.past o).length) →
      (l.map (h.at o)).map (fun x => (h.past o).idxOf x) = l := fun l hl => by
    rw [List.map_map]
    refine (List.map_congr_left fun i hi => ?_).trans (List.map_id l)
    have hi' := hl i hi
    rw [Function.comp_apply, Holdings.at, List.getElem?_eq_getElem hi', Option.getD_some]
    exact hpast.idxOf_getElem i hi'
  constructor
  · intro hperm
    have hmap := hperm.map fun x => (h.past o).idxOf x
    rwa [hback l hl, hback l' hl'] at hmap
  · exact fun hperm => hperm.map _

end Pages

/-- Every message of the selection can be saved, or there is a limit and the pages recover behind the
first that cannot; without events in a page nothing is saved. -/
def SkipsFailures (h : Holdings μ) (o : Settings) : Prop :=
  let n := (h.past o).length
  let m := (limitOf o.limit).elim n fun l => min l n
  if o.eventsPerTransaction = 0 then hits (h.savedAt o) 0 m = []
  else (∀ i < m, h.savedAt o i = true) ∨ ∃ l r, limitOf o.limit = some l ∧ r < m ∧
    h.savedAt o r = false ∧ (∀ i < r, h.savedAt o i = true) ∧
    Recovers (h.savedAt o) n o.eventsPerTransaction l r

/-- Four messages, of which the second cannot be encoded. -/
def fourHoldings : Holdings ℕ :=
  ⟨[5, 6, 7, 8], id, fun _ => none, fun m => if m = 6 then some (preludedbError (.foreign (-1))) else none⟩

end Preludedb.Admin
