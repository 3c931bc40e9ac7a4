import Preludedb.Admin.Pages

/-! The delete command: the messages of each page are deleted under transactions of many events, and
the next page is at the same place of what is left. With it the three commands that go through their
messages in pages. -/

namespace Preludedb.Admin

open Foundations Sql

namespace Settings

variable {μ : Type} (o : Settings)

/-- The turns of the command; `none` when `fuel` turns do not suffice. The idents of a result are
deleted as a list of them is. -/
def deleteTurns : ℕ → Progress → Command μ (Option (Except SqlError Unit × Progress))
  | 0, _ => pure none
  | fuel + 1, g => do
    match ← (o.fetchMessageIdentsLimited g).attempt with
    | .error e => pure (some (.error e, g))
    | .ok ([], g) => pure (some (.ok (), g))
    | .ok (idents, g) => do
      let ret ← (Program.call (.deleteMessageFromList idents)).attempt
      let g ← o.flushTransactionIfNeeded idents.length g
      match ret with
      | .error e => pure (some (.error e, g))
      | .ok _ => do
        let stop ← stopProcessing
        if stop then pure (some (.ok (), g)) else deleteTurns fuel g

/-- The command, which asks for each page at the offset as a move does. -/
def cmdDelete (fuel : ℕ) : Command μ (Option (Except SqlError Unit × ℕ)) := do
  o.transactionStart
  let turns ← { o with deleteCopied := true }.deleteTurns fuel ⟨0, o.limit, 0, []⟩
  o.transactionEnd (outcome turns)
  pure (turns.map fun end_ => (end_.1, o.endCount end_.1 end_.2))

end Settings

/-- One database, from which messages are deleted. -/
structure Pruned where
  messages : Store (List ℕ) (List ℕ)
  transaction : Bool
  clock : ℕ

def without (messages idents : List ℕ) : List ℕ := messages.filter fun i => !idents.contains i

namespace Pruned

variable (s : Pruned)

def next : Pruned := { s with clock := s.clock + 1 }

def lose : Pruned := { s with messages := s.messages.rollback }

def view : List ℕ := s.messages.view without

/-- Outside a transaction of the command a deletion has its own. -/
def delete (idents : List ℕ) : Pruned :=
  if s.transaction then { s with messages := s.messages.write without [idents] }
  else { s with messages := ((s.messages.start without).write without [idents]).commit without }

def opened : Pruned := { s with messages := s.messages.start without, transaction := true }

def committed : Pruned := { s with messages := s.messages.commit without, transaction := false }

def aborted : Pruned := { s with messages := s.messages.rollback, transaction := false }

def left : Pruned := { s with transaction := false }

end Pruned

section

variable {μ : Type} (env : Environment μ)

def Pruned.matching (s : Pruned) (limit offset : Int) : List ℕ :=
  let found := s.view.filter env.selected
  if limit < 0 then found else (found.drop offset.toNat).take limit.toNat

/-- The answer of a call: `ok` when it succeeds, and `failed` when it does not. -/
def reply {ρ : Type} (s failed : Pruned) (ok : ρ × Pruned) : Except SqlError ρ × Pruned :=
  match env.fault s.clock with
  | .none => (.ok ok.1, ok.2.next)
  | .refused e => (.error e, failed.next)
  | .lost e => (.error e, failed.lose.next)

/-- The calls of the commands on one database; the delete command reads and inserts no message. -/
def prune : (r : Api μ) → Pruned → Except SqlError r.Reply × Pruned
  | .getMessageIdents limit offset, s => reply env s s (s.matching env limit offset, s)
  | .resultIdentsGet, s => reply env s s ((), s)
  | .getMessage ident, s => reply env s s (env.content ident, s)
  | .insertMessage _, s => reply env s s ((), s)
  | .deleteMessageFromList idents, s => reply env s s ((), s.delete idents)
  | .transactionStart, s =>
    if s.transaction then (.error (preludedbError .alreadyInTransaction), s.next)
    else reply env s s ((), s.opened)
  | .transactionEnd, s =>
    if s.transaction then reply env s s.left ((), s.committed)
    else (.error (preludedbError .notInTransaction), s.next)
  | .transactionAbort, s =>
    if s.transaction then reply env s s.left ((), s.aborted)
    else (.error (preludedbError .notInTransaction), s.next)
  | .stopProcessing, s => (.ok (env.stop s.clock), s.next)

end

section

variable {μ : Type} {env : Environment μ} {o : Settings} {g : Progress} {s : Pruned}
  {start : List ℕ} {n : ℕ}

namespace Pruned

def uncommitted (s : Pruned) : List (List ℕ) := s.messages.pending.getD []

lemma view_settled (h : s.uncommitted = []) : s.view = s.messages.durable := by
  rw [view, Store.view]
  rw [uncommitted] at h
  rw [h]
  rfl

lemma delete_view (idents : List ℕ) : (s.delete idents).view = without s.view idents := by
  rw [delete]
  split
  · exact Store.write_view without s.messages [idents]
  · simp only [view, Store.commit_view]
    exact Store.write_view without _ [idents]

end Pruned

lemma reply_quiet {ρ : Type} {failed : Pruned} {ok : ρ × Pruned} (hq : env.Quiet) :
    reply env s failed ok = (.ok ok.1, ok.2.next) := by
  rw [reply, (hq s.clock).1]

/-- A delete command between two pages: the first messages of its window are gone. -/
structure Pruning (env : Environment μ) (o : Settings) (start : List ℕ) (p : ℕ) (g : Progress)
    (s : Pruned) : Prop where
  view : s.view = start.filter fun i => !((o.window env start).take p).contains i
  paged : Paged env o start p g.limitCopy
  outside : s.transaction = false → s.uncommitted = []

lemma Pruning.next {p : ℕ} (h : Pruning env o start p g s) : Pruning env o start p g s.next :=
  ⟨h.view, h.paged, h.outside⟩

/-- The events of the open transaction are counted when it ends. -/
structure Settled (o : Settings) (p : ℕ) (g : Progress) (s : Pruned) : Prop where
  counted : p = g.curCount + g.dstEventNo
  single : o.eventsPerTransaction ≤ 1 → g.dstEventNo = 0 ∧ s.uncommitted = []

lemma prune_end (hq : env.Quiet) (houtside : s.transaction = false → s.uncommitted = []) :
    (prune env .transactionEnd s).2.transaction = false ∧
      (prune env .transactionEnd s).2.view = s.view ∧
      (prune env .transactionEnd s).2.uncommitted = [] := by
  rw [prune]
  split
  · rw [reply_quiet hq]
    exact ⟨rfl, rfl, rfl⟩
  · next ht =>
    have hclosed := Bool.eq_false_iff.mpr ht
    exact ⟨hclosed, rfl, houtside hclosed⟩

lemma prune_start (hq : env.Quiet) (ht : s.transaction = false) :
    (prune env .transactionStart s).2.view = s.view ∧
      (prune env .transactionStart s).2.uncommitted = [] := by
  rw [prune, if_neg (by rw [ht]; exact Bool.false_ne_true), reply_quiet hq]
  exact ⟨rfl, rfl⟩

lemma prune_flush (hq : env.Quiet) (hn : 0 < n) (hE : 0 < o.eventsPerTransaction) {p : ℕ}
    (h : Pruning env o start (n + p) g s) (hc : p = g.curCount + g.dstEventNo) :
    (o.flushTransactionIfNeeded n g).Secures (prune env) (fun _ _ => True) (fun _ => True)
      (fun x s' => ∃ g', x = .ok g' ∧ Pruning env o start (n + p) g' s' ∧ Settled o (n + p) g' s') s := by
  rw [Settings.flushTransactionIfNeeded, if_neg (by omega)]
  split
  · refine .tried trivial fun _ => .tried trivial fun _ => ⟨trivial, _, rfl, ?_⟩
    obtain ⟨hleft, hview₁, -⟩ := prune_end hq h.outside
    obtain ⟨hview, hu⟩ := prune_start hq hleft
    refine ⟨⟨hview.trans (hview₁.trans h.view), h.paged, fun _ => hu⟩, ?_, fun _ => ⟨rfl, hu⟩⟩
    simp only [hc]
    omega
  · next hfew =>
    push Not at hfew
    refine ⟨trivial, _, rfl, ⟨h.view, h.paged, h.outside⟩, ?_, fun hone => ?_⟩
    · simp only [hc]
      omega
    · omega

lemma Pruning.delete {p : ℕ} (hq : env.Quiet) (h : Pruning env o start p g s) {idents : List ℕ}
    (hne : idents ≠ []) (hpage : idents = ((o.window env start).drop p).take (o.pageSize g)) :
    (prune env (.deleteMessageFromList idents) s).1 = .ok () ∧
      Pruning env o start (idents.length + p) (g.fetched idents)
        (prune env (.deleteMessageFromList idents) s).2 := by
  rw [prune, reply_quiet hq]
  refine ⟨rfl, ?_, h.paged.fetched hne hpage, fun ht => ?_⟩
  · have hidents : (o.window env start).take (idents.length + p) =
        (o.window env start).take p ++ idents := by
      rw [Nat.add_comm, List.take_add]
      congr 1
      exact (List.prefix_iff_eq_take.mp (by rw [hpage]; exact List.take_prefix _ _)).symm
    have hview : (s.delete idents).next.view = without s.view idents := s.delete_view idents
    rw [hview, h.view, without, List.filter_filter, hidents]
    refine List.filter_congr fun i _ => ?_
    simp [Bool.and_comm]
  · have hclosed : s.transaction = false := by
      revert ht
      simp only [Pruned.next, Pruned.delete]
      split <;> simp_all
    simp only [Pruned.next, Pruned.delete, hclosed]
    rfl

lemma Pruning.matching {p : ℕ} (h : Pruning env o start p g s) (hnd : start.Nodup) (size : ℕ) :
    s.matching env size (o.offset.toNat : ℕ) = ((o.range env start).drop p).take size := by
  have hsize : ¬ (size : Int) < 0 := by omega
  simp only [Pruned.matching, if_neg hsize, Int.toNat_natCast]
  rw [h.view, h.paged.window_take, drop_shrunk hnd]

/-- Page after page until the window is done. -/
lemma deleteTurns_prunes (hq : env.Quiet) (hE0 : 0 < o.eventsPerTransaction)
    (hE : o.eventsPerTransaction < 2 ^ 31) (h0 : 0 ≤ o.offset) (hsmall : o.offset < 2 ^ 31)
    (hd : o.deleteCopied = true) (hnd : start.Nodup) (fuel p : ℕ) (h : Pruning env o start p g s)
    (hs : Settled o p g s) (henough : (o.window env start).length < fuel + p) :
    (o.deleteTurns fuel g).Secures (prune env) (fun _ _ => True) (fun _ => True)
      (fun x s' => ∃ g', x = .ok (some (.ok (), g')) ∧
        Pruning env o start (o.window env start).length g' s' ∧
        Settled o (o.window env start).length g' s') s := by
  induction fuel generalizing g s p with
  | zero =>
    have hw := h.paged.within
    omega
  | succ fuel ih =>
    have hw := h.paged.within
    have hmatch := h.matching hnd (o.pageSize g)
    rw [h.paged.page_eq] at hmatch
    have hget : prune env (.getMessageIdents (o.pageSize g) (o.offset.toNat : ℕ)) s =
        (.ok (((o.window env start).drop p).take (o.pageSize g)), s.next) := by
      rw [prune, reply_quiet hq, hmatch]
    rw [Settings.deleteTurns, fetch_eq hE h0 (by rw [hd, if_pos rfl]; omega), hd, if_pos rfl]
    have hfetch : ((getMessageIdents (o.pageSize g) (o.offset.toNat : ℕ) >>= fun idents =>
        pure (idents, g.fetched idents) : Command μ _).attempt).Secures (prune env)
        (fun _ _ => True) (fun _ => True) (fun y s' => ∃ idents,
          y = .ok (.ok (idents, g.fetched idents)) ∧ s' = s.next ∧
          idents = ((o.window env start).drop p).take (o.pageSize g)) s := by
      refine ⟨trivial, fun _ => ?_⟩
      rw [hget]
      exact ⟨trivial, _, rfl, rfl, rfl⟩
    refine hfetch.bind ?_ fun e s' hx => by obtain ⟨idents, hx, -⟩ := hx; cases hx
    rintro y s₁ - ⟨idents, hy, rfl, hidents⟩
    cases hy
    split
    · next hx => cases hx
    · next g' hx =>
      cases hx
      have hp := h.paged.page_nil hE0 hidents.symm
      rw [← hp]
      exact ⟨trivial, _, rfl, h.next, hs.counted, hs.single⟩
    · next idents' g' hne hx =>
      cases hx
      have hpos := List.length_pos_iff.mpr hne
      obtain ⟨hok, hdel⟩ := h.next.delete hq hne hidents
      have hcount : p = (g.fetched idents).curCount + (g.fetched idents).dstEventNo := by
        rw [fetched_curCount, fetched_dstEventNo]
        exact hs.counted
      refine .tried trivial fun _ => ?_
      rw [hok]
      refine (prune_flush hq hpos hE0 hdel hcount).bind ?_ fun e s' hx => by
        obtain ⟨g', hx, -⟩ := hx
        cases hx
      rintro g₁ s₂ - ⟨g', hx, hpruning, hsettled⟩
      cases hx
      refine ⟨trivial, fun _ => ?_⟩
      have hstop : (prune env .stopProcessing s₂) = (.ok false, s₂.next) := by
        rw [prune, (hq s₂.clock).2]
      rw [hstop]
      exact ih (idents.length + p) hpruning.next ⟨hsettled.counted, hsettled.single⟩ (by omega)

lemma cmdDelete_prunes (hq : env.Quiet) (hE0 : 0 < o.eventsPerTransaction)
    (hE : o.eventsPerTransaction < 2 ^ 31) (h0 : 0 ≤ o.offset) (hsmall : o.offset < 2 ^ 31)
    (hnd : s.view.Nodup) (ht : s.transaction = false) (hu : s.uncommitted = []) (fuel : ℕ)
    (henough : (o.window env s.view).length < fuel) :
    (o.cmdDelete fuel).Secures (prune env) (fun _ _ => True) (fun _ => True)
      (fun x s' => x = .ok (some (.ok (), (o.window env s.view).length)) ∧
        s'.messages.durable = s.view.filter fun i => !(o.window env s.view).contains i) s := by
  have hwindow : ({ o with deleteCopied := true } : Settings).window env s.view =
      o.window env s.view := rfl
  rw [Settings.cmdDelete]
  have hstart : (o.transactionStart).Secures (prune env) (fun _ _ => True) (fun _ => True)
      (fun x s' => x = .ok () ∧ Pruning env { o with deleteCopied := true } s.view 0
        ⟨0, o.limit, 0, []⟩ s' ∧ s'.uncommitted = []) s := by
    have hnone : s.view = s.view.filter fun i =>
        !((({ o with deleteCopied := true } : Settings).window env s.view).take 0).contains i :=
      (List.filter_eq_self.mpr fun i _ => by simp).symm
    rw [Settings.transactionStart]
    split
    · refine .tried trivial fun _ => ⟨trivial, rfl, ?_⟩
      obtain ⟨hview, hu'⟩ := prune_start hq ht
      exact ⟨⟨hview.trans hnone, Paged.none_yet, fun _ => hu'⟩, hu'⟩
    · exact ⟨trivial, rfl, ⟨hnone, Paged.none_yet, fun _ => hu⟩, hu⟩
  refine hstart.bind ?_ fun e s' hx => by cases hx.1
  rintro u s₁ - ⟨-, hpruning, hu₁⟩
  refine (deleteTurns_prunes (o := { o with deleteCopied := true }) hq hE0 hE h0 hsmall rfl hnd fuel 0
    hpruning ⟨rfl, fun _ => ⟨rfl, hu₁⟩⟩ henough).bind ?_ fun e s' hx => by
      obtain ⟨g', hx, -⟩ := hx
      cases hx
  rintro turns s₂ - ⟨g', hx, hdone, hsettled⟩
  cases hx
  rw [hwindow] at hdone hsettled
  have hview := hdone.view
  rw [hwindow, List.take_length] at hview
  have hcount := hsettled.counted
  have hend : ((o.transactionEnd (.ok ()) : Command μ Unit)).Secures (prune env) (fun _ _ => True)
      (fun _ => True) (fun x s' => x = .ok () ∧ s'.messages.durable = s₂.view) s₂ := by
    simp only [Settings.transactionEnd]
    split
    · refine .tried trivial fun _ => ⟨trivial, rfl, ?_⟩
      obtain ⟨-, hsame, hu'⟩ := prune_end hq hdone.outside
      rw [← hsame, Pruned.view_settled hu']
    · next hone =>
      obtain ⟨-, hu'⟩ := hsettled.single (by simp only; omega)
      exact ⟨trivial, rfl, (Pruned.view_settled hu').symm⟩
  refine hend.bind ?_ fun e s' hx => by cases hx.1
  rintro u' s₃ - ⟨-, hdurable⟩
  refine ⟨trivial, ?_, hdurable.trans hview⟩
  have htotal : o.endCount (.ok ()) g' = (o.window env s.view).length := by
    rw [Settings.endCount]
    split
    · exact hcount.symm
    · next hone =>
      have hzero := (hsettled.single (by simp only; omega)).1
      omega
  rw [← htotal]
  rfl

lemma counts_of_quiet (hq : env.Quiet) (hE0 : 0 < o.eventsPerTransaction) (r : Api μ)
    (s : Databases μ) : Counts env o r s := by
  cases r with
  | insertMessage m => exact fun hz => absurd hz (by omega)
  | transactionEnd => exact fun _ _ => (hq s.clock).1
  | transactionStart => exact fun _ _ => (hq s.clock).1
  | deleteMessageFromList idents => exact (hq s.clock).1
  | getMessageIdents | resultIdentsGet | getMessage | transactionAbort | stopProcessing => trivial

lemma copyMove_quiet {s : Databases μ} (hq : env.Quiet) (hE0 : 0 < o.eventsPerTransaction)
    (hE : o.eventsPerTransaction < 2 ^ 31) (h0 : 0 ≤ o.offset)
    (hsmall : o.offset + (o.window env s.source).length < 2 ^ 31)
    (hnd : o.deleteCopied = true → s.source.Nodup) (ht : s.transaction = false)
    (hu : s.uncommitted = []) (fuel : ℕ) (henough : (o.window env s.source).length < fuel) :
    ((o.copyMove fuel).run (handle env) s).2.destination.durable = s.destination.durable ++
        (o.window env s.source).map env.content ∧
      ((o.copyMove fuel).run (handle env) s).1 =
        .ok (some (.ok (), (o.window env s.source).length)) ∧
      ((o.copyMove fuel).run (handle env) s).2.source =
        s.source.filter fun i => !o.deleteCopied || !(o.window env s.source).contains i := by
  have hend := (copyMove_moved hE h0 hsmall hnd ht hu fuel).ends
    (Program.along_of_forall (counts_of_quiet hq hE0) _ _)
  rcases hend with ⟨-, hfew⟩ | ⟨ret, count, ids', hx, hp, hres, hall⟩
  · exact absurd ⟨hq, hE0, henough⟩ hfew
  · obtain ⟨rfl, rfl, hsource⟩ := hall hq ⟨hE0, henough⟩
    have hwithin := hres.within
    rw [List.length_map] at hwithin
    have hids : ids' = o.window env s.source := hp.eq_of_length_le hwithin
    refine ⟨?_, hx, hsource⟩
    rw [hres.durable, hids, List.filter_true, List.take_of_length_le (by rw [List.length_map])]

/-- A copy, a move and a delete in which nothing fails come to an end and process each message of
their window once. -/
theorem pages_process_window (env : Environment μ) (hq : env.Quiet) (o : Settings)
    (hE0 : 1 ≤ o.eventsPerTransaction) (hE : o.eventsPerTransaction < 2 ^ 31) (h0 : 0 ≤ o.offset)
    (source : List ℕ) (hnd : source.Nodup)
    (hsmall : o.offset + (o.window env source).length < 2 ^ 31) :
    ∃ enough, ∀ fuel ≥ enough,
      (∀ s : Databases μ, s.source = source → s.transaction = false → s.uncommitted = [] →
        ∃ s', ((({ o with deleteCopied := false } : Settings).copyMove fuel).run (handle env) s) =
            (.ok (some (.ok (), (o.window env source).length)), s') ∧
          s'.destination.durable = s.destination.durable ++
            (o.window env source).map env.content ∧
          s'.source = source) ∧
      (∀ s : Databases μ, s.source = source → s.transaction = false → s.uncommitted = [] →
        ∃ s', ((({ o with deleteCopied := true } : Settings).copyMove fuel).run (handle env) s) =
            (.ok (some (.ok (), (o.window env source).length)), s') ∧
          s'.destination.durable = s.destination.durable ++
            (o.window env source).map env.content ∧
          s'.source = source.filter fun i => !(o.window env source).contains i) ∧
      (∀ s : Pruned, s.view = source → s.transaction = false → s.uncommitted = [] →
        ∃ s', (o.cmdDelete fuel).run (prune env) s =
            (.ok (some (.ok (), (o.window env source).length)), s') ∧
          s'.messages.durable = source.filter fun i => !(o.window env source).contains i) := by
  refine ⟨(o.window env source).length + 1, fun fuel hfuel => ⟨?_, ?_, ?_⟩⟩
  · rintro s rfl ht hu
    obtain ⟨hdurable, hrun, hsource⟩ := copyMove_quiet (o := { o with deleteCopied := false }) hq hE0
      hE h0 hsmall (fun _ => hnd) ht hu fuel hfuel
    refine ⟨_, Prod.ext hrun rfl, hdurable, hsource.trans ?_⟩
    exact List.filter_eq_self.mpr fun i _ => rfl
  · rintro s rfl ht hu
    obtain ⟨hdurable, hrun, hsource⟩ := copyMove_quiet (o := { o with deleteCopied := true }) hq hE0
      hE h0 hsmall (fun _ => hnd) ht hu fuel hfuel
    exact ⟨_, Prod.ext hrun rfl, hdurable, hsource⟩
  · rintro s rfl ht hu
    have hend := (cmdDelete_prunes hq hE0 hE h0 (by omega) hnd ht hu fuel hfuel).ends
      (Program.along_of_forall (fun _ _ => trivial) _ _)
    exact ⟨_, Prod.ext hend.1 rfl, hend.2⟩

end

/-- Three messages behind the first, in pages of two. -/
theorem pages_process_three : ∃ enough, ∀ fuel ≥ enough, ∃ s',
    ((⟨2, 3, 1, false⟩ : Settings).cmdDelete fuel).run (prune (calm 0))
        ⟨⟨[4, 5, 6, 7, 8], none⟩, false, 0⟩ = (.ok (some (.ok (), 3)), s') ∧
      s'.messages.durable = [4, 8] := by
  obtain ⟨enough, h⟩ := pages_process_window (calm 0) (fun _ => ⟨rfl, rfl⟩) ⟨2, 3, 1, false⟩
    (by decide) (by decide) (by decide) [4, 5, 6, 7, 8] (by decide) (by decide)
  exact ⟨enough, fun fuel hfuel => (h fuel hfuel).2.2 _ rfl rfl rfl⟩

end Preludedb.Admin
