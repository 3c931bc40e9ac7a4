import Preludedb.Admin.Tally

/-! The pages in which the messages of the source are fetched: a copy asks for the next page behind
what it has counted, and a move for the same place of a source that has shrunk. -/

namespace Preludedb.Admin

open Foundations Sql

variable {μ : Type} {env : Environment μ} {o : Settings} {s s' : Databases μ} {g : Progress}
  {start ids : List ℕ}

namespace Settings

/-- The messages past the offset, in the order of the source. -/
def range (o : Settings) (env : Environment μ) (start : List ℕ) : List ℕ :=
  (start.filter env.selected).drop o.offset.toNat

def pageSize (o : Settings) (g : Progress) : ℕ :=
  if g.limitCopy < 0 then o.eventsPerTransaction else min o.eventsPerTransaction g.limitCopy.toNat

end Settings

def Progress.fetched (g : Progress) (idents : List ℕ) : Progress :=
  if idents ≠ [] ∧ 0 < g.limitCopy then { g with limitCopy := g.limitCopy - idents.length } else g

lemma toInt_of_small {n : Int} (h0 : 0 ≤ n) (h : n < 2 ^ 31) : toInt n = n := by
  rw [toInt, Int.bmod_eq_of_le_mul_two]
  · omega
  · omega

/-- What is left of a list without the elements of one of its windows. -/
lemma filter_window {l : List ℕ} (hl : l.Nodup) (a b : ℕ) :
    l.filter (fun i => !((l.drop a).take b).contains i) = l.take a ++ (l.drop a).drop b := by
  have hsplit : l = l.take a ++ ((l.drop a).take b ++ (l.drop a).drop b) := by
    rw [List.take_append_drop, List.take_append_drop]
  have hnd := hl
  rw [hsplit, List.nodup_append, List.nodup_append] at hnd
  obtain ⟨-, ⟨-, -, hright⟩, hleft⟩ := hnd
  have hl₁ : (l.take a).filter (fun i => !((l.drop a).take b).contains i) = l.take a := by
    rw [List.filter_eq_self]
    intro i hi
    simpa using fun hw => hleft i hi i (List.mem_append_left _ hw) rfl
  have hl₂ : ((l.drop a).take b).filter (fun i => !((l.drop a).take b).contains i) = [] := by
    rw [List.filter_eq_nil_iff]
    intro i hi
    simpa using hi
  have hl₃ : ((l.drop a).drop b).filter (fun i => !((l.drop a).take b).contains i) =
      (l.drop a).drop b := by
    rw [List.filter_eq_self]
    intro i hi
    simpa using fun hw => hright i hw i hi rfl
  calc l.filter (fun i => !((l.drop a).take b).contains i)
      = (l.take a ++ ((l.drop a).take b ++ (l.drop a).drop b)).filter
          (fun i => !((l.drop a).take b).contains i) := by rw [← hsplit]
    _ = l.take a ++ (l.drop a).drop b := by
          rw [List.filter_append, List.filter_append, hl₁, hl₂, hl₃, List.nil_append]

/-- The place of the offset in a source without the first `p` messages of the range is where the
others of the range begin. -/
lemma drop_shrunk (hnd : start.Nodup) (p : ℕ) :
    ((start.filter fun i => !((o.range env start).take p).contains i).filter env.selected).drop
      o.offset.toNat = (o.range env start).drop p := by
  have hswap : (start.filter fun i => !((o.range env start).take p).contains i).filter env.selected =
      (start.filter env.selected).filter fun i => !((o.range env start).take p).contains i := by
    rw [List.filter_filter, List.filter_filter]
    exact List.filter_congr fun i _ => Bool.and_comm _ _
  have hnodup : (start.filter env.selected).Nodup := hnd.filter _
  rw [hswap, Settings.range, filter_window hnodup]
  by_cases hlen : o.offset.toNat ≤ (start.filter env.selected).length
  · rw [List.drop_append_of_le_length (by rw [List.length_take]; omega)]
    rw [List.drop_of_length_le (by rw [List.length_take]; omega), List.nil_append]
  · have hnil : (start.filter env.selected).drop o.offset.toNat = [] :=
      List.drop_of_length_le (by omega)
    rw [hnil, List.drop_nil, List.append_nil]
    exact List.drop_of_length_le (by rw [List.length_take]; omega)

/-- The next page of the range, wherever the command asks for it. -/
lemma matching_page (hr : Remains o start ids { g with deleteTbl := [] } s)
    (hnd : o.deleteCopied = true → start.Nodup) (hids : ids = (o.range env start).take g.curCount)
    (size : ℕ) :
    s.matching env size (if o.deleteCopied then o.offset.toNat else o.offset.toNat + g.curCount : ℕ) =
      ((o.range env start).drop g.curCount).take size := by
  have hsize : ¬ (size : Int) < 0 := by omega
  simp only [Databases.matching, if_neg hsize, Int.toNat_natCast]
  rw [Remains] at hr
  cases hd : o.deleteCopied with
  | false =>
    have hs : s.source = start := by
      rw [hr, hd]
      exact List.filter_eq_self.mpr fun i _ => rfl
    rw [hs, if_neg Bool.false_ne_true, Settings.range, List.drop_drop]
  | true =>
    have hs : s.source = start.filter fun i => !ids.contains i := by
      rw [hr]
      refine List.filter_congr fun i _ => ?_
      simp [hd]
    rw [hs, if_pos rfl, hids, drop_shrunk (hnd hd)]

/-- What the fetch of a page comes to. -/
def Fetched (env : Environment μ) (o : Settings) (start : List ℕ) (g : Progress) (s : Databases μ)
    (x : Except SqlError (List ℕ × Progress)) (s' : Databases μ) : Prop :=
  s' = s.next ∧ (env.Quiet → ∀ e, x ≠ .error e) ∧ ∀ idents g', x = .ok (idents, g') →
    idents = ((o.range env start).drop g.curCount).take (o.pageSize g) ∧ g' = g.fetched idents

/-- The fetch of a page, with the limit and the offset the conversions to `int` leave. -/
lemma fetch_eq (hE : o.eventsPerTransaction < 2 ^ 31) (h0 : 0 ≤ o.offset)
    (hsmall : o.offset + (if o.deleteCopied then 0 else g.curCount : ℕ) < 2 ^ 31) :
    (o.fetchMessageIdentsLimited g : Command μ _) =
      getMessageIdents (o.pageSize g)
        (if o.deleteCopied then o.offset.toNat else o.offset.toNat + g.curCount : ℕ) >>=
      fun idents => pure (idents, g.fetched idents) := by
  have hlimit : toInt (if g.limitCopy < 0 then (o.eventsPerTransaction : Int)
      else min o.eventsPerTransaction g.limitCopy) = (o.pageSize g : Int) := by
    rw [Settings.pageSize]
    split
    · exact toInt_of_small (by omega) (by omega)
    · rw [toInt_of_small (by omega) (by omega)]
      omega
  have hstart : (if o.deleteCopied then toInt o.offset else toInt (o.offset + g.curCount)) =
      ((if o.deleteCopied then o.offset.toNat else o.offset.toNat + g.curCount : ℕ) : Int) := by
    cases hd : o.deleteCopied with
    | true =>
      rw [hd, if_pos rfl] at hsmall
      rw [if_pos rfl, if_pos rfl, toInt_of_small h0 (by omega)]
      omega
    | false =>
      rw [hd, if_neg Bool.false_ne_true] at hsmall
      rw [if_neg Bool.false_ne_true, if_neg Bool.false_ne_true, toInt_of_small (by omega) hsmall]
      omega
  rw [Settings.fetchMessageIdentsLimited]
  simp only [hlimit, hstart]
  rfl

lemma fetch_page {G : Api μ → Databases μ → Prop} (hE : o.eventsPerTransaction < 2 ^ 31)
    (h0 : 0 ≤ o.offset) (hsmall : o.offset + g.curCount < 2 ^ 31)
    (hr : Remains o start ids { g with deleteTbl := [] } s)
    (hnd : o.deleteCopied = true → start.Nodup) (hids : ids = (o.range env start).take g.curCount) :
    (o.fetchMessageIdentsLimited g).Secures (handle env) G (fun _ => True)
      (Fetched env o start g s) s := by
  rw [fetch_eq hE h0 (by split <;> omega)]
  refine ⟨trivial, fun _ => ?_⟩
  have hnext : (handle env (.getMessageIdents (o.pageSize g)
      ((if o.deleteCopied then o.offset.toNat else o.offset.toNat + g.curCount : ℕ) : Int)) s).2 =
      s.next := answer_source _
  rw [hnext]
  rw [handle, answer, matching_page hr hnd hids]
  split
  · exact ⟨trivial, rfl, fun _ e he => (by cases he), fun idents g' hx => (by cases hx; exact ⟨rfl, rfl⟩)⟩
  · next he =>
    exact ⟨trivial, rfl, fun hq => (by cases he.symm.trans (hq s.clock).1),
      fun _ _ hx => (by cases hx)⟩
  · next he =>
    exact ⟨trivial, rfl, fun hq => (by cases he.symm.trans (hq s.clock).1),
      fun _ _ hx => (by cases hx)⟩

/-- The messages a command is asked for. -/
def Settings.window (o : Settings) (env : Environment μ) (start : List ℕ) : List ℕ :=
  if o.limit < 0 then o.range env start else (o.range env start).take o.limit.toNat

/-- A command that has processed `p` messages of its window and may take `limitCopy` more. -/
structure Paged (env : Environment μ) (o : Settings) (start : List ℕ) (p : ℕ) (limitCopy : Int) :
    Prop where
  within : p ≤ (o.window env start).length
  left : if o.limit < 0 then limitCopy < 0 else limitCopy + p = o.limit

namespace Paged

lemma none_yet : Paged env o start 0 o.limit := by
  refine ⟨Nat.zero_le _, ?_⟩
  split
  · assumption
  · exact Int.add_zero _

variable {p : ℕ} (h : Paged env o start p g.limitCopy)

include h in
lemma window_take : (o.window env start).take p = (o.range env start).take p := by
  have hl := h.left
  have hw := h.within
  rw [Settings.window] at hw ⊢
  split at hl
  · next hneg => rw [if_pos hneg]
  · next hneg =>
    rw [if_neg hneg] at hw ⊢
    rw [List.length_take] at hw
    rw [List.take_take, Nat.min_eq_left (by omega)]

include h in
lemma page_eq : ((o.range env start).drop p).take (o.pageSize g) =
    ((o.window env start).drop p).take (o.pageSize g) := by
  have hl := h.left
  have hw := h.within
  rw [Settings.window] at hw ⊢
  split at hl
  · next hneg => rw [if_pos hneg]
  · next hneg =>
    rw [if_neg hneg, List.length_take] at hw
    rw [if_neg hneg, List.drop_take, List.take_take, Settings.pageSize]
    congr 1
    split <;> omega

include h in
/-- When pages are not empty, none is left only when the window is done. -/
lemma page_nil (hE : 0 < o.eventsPerTransaction)
    (hnil : ((o.window env start).drop p).take (o.pageSize g) = []) :
    p = (o.window env start).length := by
  have hl := h.left
  have hw := h.within
  have hlen := congrArg List.length hnil
  rw [List.length_take, List.length_drop, List.length_nil, Settings.pageSize] at hlen
  split at hl
  · rw [if_pos (by assumption)] at hlen
    omega
  · next hneg =>
    rw [Settings.window, if_neg hneg, List.length_take] at hw hlen ⊢
    split at hlen <;> omega

include h in
lemma fetched {idents : List ℕ} (hne : idents ≠ [])
    (hpage : idents = ((o.window env start).drop p).take (o.pageSize g)) :
    Paged env o start (idents.length + p) (g.fetched idents).limitCopy := by
  have hl := h.left
  have hw := h.within
  have hpos := List.length_pos_iff.mpr hne
  have hlen := congrArg List.length hpage
  rw [List.length_take, List.length_drop] at hlen
  refine ⟨by omega, ?_⟩
  have hle : idents.length ≤ o.pageSize g := by omega
  rw [Settings.pageSize] at hle
  rw [Progress.fetched]
  split at hl
  · next hneg =>
    rw [if_pos hneg, if_neg (fun hc => absurd hc.2 (by omega))]
    exact hl
  · next hneg =>
    rw [if_neg hneg]
    have hcopy : 0 < g.limitCopy := by
      rw [Settings.window, if_neg hneg, List.length_take] at hw
      split at hle <;> omega
    rw [if_pos ⟨hne, hcopy⟩]
    push_cast
    omega

end Paged

/-- A command between two pages: it has inserted the first messages of its window, as many as it
counts. -/
structure AtPage (env : Environment μ) (o : Settings) (before : List μ) (start : List ℕ)
    (g : Progress) (s : Databases μ) : Prop where
  tallied : Tallied o (fun _ => true) before
    (((o.window env start).take g.curCount).map env.content) 0 g s
  remains : Remains o start ((o.window env start).take g.curCount) { g with deleteTbl := [] } s
  paged : Paged env o start g.curCount g.limitCopy
  settled : g.dstEventNo = 0

variable {before : List μ}

lemma AtPage.next (h : AtPage env o before start g s) : AtPage env o before start g s.next :=
  ⟨h.tallied.next, h.remains, h.paged, h.settled⟩

/-- The page is behind the command. -/
lemma AtPage.of_page {k : ℕ} {g' : Progress} {ids' : List ℕ} (hE : o.eventsPerTransaction ≠ 0)
    (hids : ids' = (o.window env start).take g.curCount ++ ((o.window env start).drop g.curCount).take k)
    (hzero : g'.dstEventNo = 0) (hpaged : Paged env o start (k + g.curCount) g'.limitCopy)
    (ht : Tallied o (fun _ => true) before (ids'.map env.content) 0 g' s')
    (hr : Remains o start ids' { g' with deleteTbl := [] } s') :
    g'.curCount = k + g.curCount ∧ AtPage env o before start g' s' := by
  have hw := hpaged.within
  have htake : ids' = (o.window env start).take (g.curCount + k) := by
    rw [hids, List.take_add]
  have hcount := ht.counted hE
  rw [List.length_map, htake, List.length_take, hzero] at hcount
  have hcur : g'.curCount = k + g.curCount := by omega
  have hsame : ids' = (o.window env start).take g'.curCount := by
    rw [htake, hcur, Nat.add_comm]
  refine ⟨hcur, ?_, ?_, ?_, hzero⟩
  · rw [← hsame]
    exact ht
  · rw [← hsame]
    exact hr
  · rw [hcur]
    exact hpaged

/-- How the turns leave the destination: some of the window is inserted, and all of it when nothing
fails and there are turns enough. -/
def Turned (env : Environment μ) (o : Settings) (before : List μ) (start : List ℕ) (enough : Prop)
    (x : Except SqlError (Option (Except SqlError Unit × Progress))) (s : Databases μ) : Prop :=
  (x = .ok none ∧ ¬ (env.Quiet ∧ enough)) ∨ ∃ ret g ids', x = .ok (some (ret, g)) ∧
    ids' <+: o.window env start ∧
    Resumable (fun _ => true) before (ids'.map env.content) g.curCount s ∧
    (ret = .ok () → g.dstEventNo = 0 ∧
      Tallied o (fun _ => true) before (ids'.map env.content) 0 g s) ∧
    (env.Quiet → enough → ret = .ok () ∧ g.curCount = (o.window env start).length ∧
      AtPage env o before start g s)

lemma fetched_curCount (g : Progress) (idents : List ℕ) :
    (g.fetched idents).curCount = g.curCount := by
  rw [Progress.fetched]
  split <;> rfl

lemma fetched_dstEventNo (g : Progress) (idents : List ℕ) :
    (g.fetched idents).dstEventNo = g.dstEventNo := by
  rw [Progress.fetched]
  split <;> rfl

lemma window_nodup (h : start.Nodup) : (o.window env start).Nodup := by
  have hrange : (o.range env start).Nodup := (List.drop_sublist _ _).nodup (h.filter _)
  rw [Settings.window]
  split
  · exact hrange
  · exact (List.take_sublist _ _).nodup hrange

/-- The turns of a copy or a move. -/
lemma copyMoveTurns_turned (hE : o.eventsPerTransaction < 2 ^ 31) (h0 : 0 ≤ o.offset)
    (hsmall : o.offset + (o.window env start).length < 2 ^ 31)
    (hnd : o.deleteCopied = true → start.Nodup) (fuel : ℕ) (h : AtPage env o before start g s) :
    (o.copyMoveTurns fuel g).Secures (handle env) (Counts env o) (fun _ => True)
      (Turned env o before start
        (0 < o.eventsPerTransaction ∧ (o.window env start).length < fuel + g.curCount)) s := by
  induction fuel generalizing g s with
  | zero =>
    refine ⟨trivial, .inl ⟨rfl, fun henough => ?_⟩⟩
    have hw := h.paged.within
    omega
  | succ fuel ih =>
    have hw := h.paged.within
    have hprefix : (o.window env start).take g.curCount <+: o.window env start := List.take_prefix _ _
    rw [Settings.copyMoveTurns]
    have hfetch : (o.fetchMessageIdentsLimited g).attempt.Secures (handle env) (Counts env o)
        (fun _ => True) (fun y s' => ∃ x, y = .ok x ∧ Fetched env o start g s x s') s :=
      .attempt ((fetch_page hE h0 (by omega) h.remains hnd h.paged.window_take).mono
        fun x s' hx => ⟨x, rfl, hx⟩)
    refine hfetch.bind ?_ fun e s' hx => by obtain ⟨x, hx, -⟩ := hx; cases hx
    rintro x s₁ - ⟨x', hx, rfl, hquiet, hpage⟩
    cases hx
    split
    · next e =>
      refine ⟨trivial, .inr ⟨_, _, _, rfl, hprefix, h.next.tallied.resumable, fun h => (by cases h),
        fun hq => absurd rfl (hquiet hq e)⟩⟩
    · next g' =>
      obtain ⟨hnil, rfl⟩ := hpage [] g' rfl
      rw [h.paged.page_eq] at hnil
      refine ⟨trivial, .inr ⟨_, _, _, rfl, hprefix, h.next.tallied.resumable,
        fun _ => ⟨h.settled, h.next.tallied⟩, fun _ henough => ⟨rfl, ?_, h.next⟩⟩⟩
      exact h.paged.page_nil henough.1 hnil.symm
    · next idents g' hne =>
      obtain ⟨hidents, rfl⟩ := hpage idents g' rfl
      rw [h.paged.page_eq] at hidents
      have hpos := List.length_pos_iff.mpr hne
      have hlen := congrArg List.length hidents
      rw [List.length_take, List.length_drop] at hlen
      have hzero : o.eventsPerTransaction ≠ 0 := by
        rw [Settings.pageSize] at hlen
        split at hlen <;> omega
      have hpage' : idents = ((o.window env start).drop g.curCount).take idents.length := by
        rw [← List.prefix_iff_eq_take, hidents]
        exact List.take_prefix _ _
      have hdone : (o.window env start).take g.curCount ++ idents <+: o.window env start := by
        rw [hpage', ← List.take_add]
        exact List.take_prefix _ _
      have htallied : Tallied o (fun _ => true) before
          (((o.window env start).take g.curCount).map env.content) 0
          { g.fetched idents with deleteTbl := [] } s.next :=
        h.next.tallied.of_table (fetched_curCount g idents) (fetched_dstEventNo g idents)
      have hremains : Remains o start ((o.window env start).take g.curCount)
          { g.fetched idents with deleteTbl := [] } s.next := h.remains
      refine (copyIterate_tallies htallied hremains (List.nil_subset _) (fun _ => rfl)
        fun hmove => hdone.sublist.nodup (window_nodup (hnd hmove))).bind ?_
        fun e s' hx => by obtain ⟨ret, g', ids', hx, -⟩ := hx; cases hx
      rintro x s₂ - ⟨ret, g', ids', hx, hp, hres, hret, hend⟩
      cases hx
      have hp' : ids' <+: o.window env start := hp.trans hdone
      cases ret with
      | error e =>
        refine ⟨trivial, .inr ⟨_, _, ids', rfl, hp', hres, fun h => (by cases h), fun hq => ?_⟩⟩
        cases hret hq
      | ok u =>
        obtain ⟨hids, hzero', hlimit, ht, hr⟩ := hend rfl
        have hpaged := h.paged.fetched hne hidents
        rw [← hlimit] at hpaged
        obtain ⟨hcur, hat⟩ := AtPage.of_page hzero (hids.trans (by rw [← hpage'])) hzero' hpaged ht hr
        refine stop_secures trivial ?_
        split
        · next hs =>
          refine ⟨trivial, .inr ⟨_, _, ids', rfl, hp', ht.next.resumable,
            fun _ => ⟨hzero', ht.next⟩, fun hq => ?_⟩⟩
          cases hs.symm.trans (hq s₂.clock).2
        · refine (ih hat.next).mono fun x s' hx => ?_
          rw [hcur] at hx
          rcases hx with ⟨hx, hfew⟩ | ⟨ret, g₁, ids₁, hx, hp₁, hres₁, hend₁, hall⟩
          · refine .inl ⟨hx, fun henough => hfew ⟨henough.1, henough.2.1, ?_⟩⟩
            have hmany := henough.2.2
            omega
          · refine .inr ⟨ret, g₁, ids₁, hx, hp₁, hres₁, hend₁, fun hq henough => hall hq
              ⟨henough.1, ?_⟩⟩
            have hmany := henough.2
            omega

/-- How a copy or a move of the messages `start` leaves the databases. -/
def Moved (env : Environment μ) (o : Settings) (before : List μ) (start : List ℕ) (enough : Prop)
    (x : Except SqlError (Option (Except SqlError Unit × ℕ))) (s : Databases μ) : Prop :=
  (x = .ok none ∧ ¬ (env.Quiet ∧ enough)) ∨ ∃ ret count ids', x = .ok (some (ret, count)) ∧
    ids' <+: o.window env start ∧
    Resumable (fun _ => true) before (ids'.map env.content) count s ∧
    (env.Quiet → enough → ret = .ok () ∧ count = (o.window env start).length ∧
      s.source = start.filter fun i => !o.deleteCopied || !(o.window env start).contains i)

lemma copyMove_moved (hE : o.eventsPerTransaction < 2 ^ 31) (h0 : 0 ≤ o.offset)
    (hsmall : o.offset + (o.window env s.source).length < 2 ^ 31)
    (hnd : o.deleteCopied = true → s.source.Nodup) (ht : s.transaction = false)
    (hu : s.uncommitted = []) (fuel : ℕ) :
    (o.copyMove fuel).Secures (handle env) (Counts env o) (fun _ => True)
      (Moved env o s.destination.durable s.source
        (0 < o.eventsPerTransaction ∧ (o.window env s.source).length < fuel)) s := by
  rw [Settings.copyMove]
  refine (transactionStart_tallies (fun _ => true) ht hu).bind ?_ fun e s' hx => by cases hx.1
  rintro u s₁ - ⟨-, hs₁, h₁⟩
  have hat : AtPage env o s.destination.durable s.source ⟨0, o.limit, 0, []⟩ s₁ := by
    refine ⟨h₁, ?_, Paged.none_yet, rfl⟩
    rw [Remains, hs₁]
    exact (List.filter_eq_self.mpr fun i _ => by simp).symm
  refine (copyMoveTurns_turned hE h0 hsmall hnd fuel hat).bind ?_ fun e s' hx => by
    rcases hx with ⟨hx, -⟩ | ⟨ret, g, ids', hx, -⟩ <;> cases hx
  rintro turns s₂ - (⟨hx, hfew⟩ | ⟨ret, g, ids', hx, hp, hres, hend, hall⟩)
  · cases hx
    refine (transactionEnd_ok (.ok ())).bind ?_ fun e s' hx => by cases hx
    rintro u s₃ - -
    exact ⟨trivial, .inl ⟨rfl, fun h => hfew ⟨h.1, h.2.1, h.2.2⟩⟩⟩
  · cases hx
    refine (transactionEnd_resumable ret hres fun h => (hend h).2).bind ?_
      fun e s' hx => by cases hx.1
    rintro u s₃ - ⟨-, hs₃, hres₃⟩
    refine ⟨trivial, .inr ⟨ret, _, ids', rfl, hp, hres₃, fun hq henough => ?_⟩⟩
    obtain ⟨hret, hcount, hpage⟩ := hall hq henough
    subst hret
    have hremains := hpage.remains
    rw [Remains, hcount, List.take_length] at hremains
    refine ⟨rfl, ?_, ?_⟩
    · rw [Settings.endCount, hpage.settled, hcount]
      exact ite_self _
    · rw [hs₃, hremains]
      refine List.filter_congr fun i _ => ?_
      simp

end Preludedb.Admin
