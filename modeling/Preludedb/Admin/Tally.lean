import Preludedb.Admin.Load
import Preludedb.Admin.Lossless

/-! The tally a command keeps of the events it has inserted: what the counter says of the destination
as long as the ends and the beginnings of its transactions succeed. -/

namespace Preludedb.Admin

open Foundations Sql

variable {μ : Type} {env : Environment μ} {o : Settings} {s s' : Databases μ} {g : Progress}
  {criteria : μ → Bool} {before done : List μ} {n : ℕ}

/-- What is asked of a run: the end of a transaction with something to commit succeeds, a transaction
of many events is begun when it should be, no insertion succeeds without being counted, and no
deletion from the source fails. -/
def Counts (env : Environment μ) (o : Settings) : Api μ → Databases μ → Prop
  | .transactionEnd, s => s.transaction = true → s.uncommitted ≠ [] → env.fault s.clock = .none
  | .transactionStart, s => 1 < o.eventsPerTransaction → s.transaction = false →
      env.fault s.clock = .none
  | .insertMessage _, s => o.eventsPerTransaction = 0 → env.fault s.clock ≠ .none
  | .deleteMessageFromList _, s => env.fault s.clock = .none
  | _, _ => True

instance decidableCounts (env : Environment μ) (o : Settings) [DecidableEq μ] :
    ∀ (r : Api μ) (s : Databases μ), Decidable (Counts env o r s)
  | .transactionEnd, s => inferInstanceAs
      (Decidable (s.transaction = true → s.uncommitted ≠ [] → env.fault s.clock = .none))
  | .transactionStart, s => inferInstanceAs (Decidable (1 < o.eventsPerTransaction →
      s.transaction = false → env.fault s.clock = .none))
  | .insertMessage _, s => inferInstanceAs
      (Decidable (o.eventsPerTransaction = 0 → env.fault s.clock ≠ .none))
  | .deleteMessageFromList _, s => inferInstanceAs (Decidable (env.fault s.clock = .none))
  | .getMessageIdents _ _, _ | .resultIdentsGet, _ | .getMessage _, _ | .transactionAbort, _
  | .stopProcessing, _ => .isTrue trivial

/-- The destination after the events `done`, of which the last `n` are not yet entered in the
variables of the run. -/
structure Tallied (o : Settings) (criteria : μ → Bool) (before done : List μ) (n : ℕ) (g : Progress)
    (s : Databases μ) : Prop where
  view : s.view = before ++ done.filter criteria
  durable : n = 0 ∨ o.eventsPerTransaction ≠ 1 →
    s.destination.durable = before ++ (done.take g.curCount).filter criteria
  counted : o.eventsPerTransaction ≠ 0 → done.length = g.curCount + g.dstEventNo + n
  still : o.eventsPerTransaction = 0 → g.curCount = 0 ∧ done.filter criteria = []
  outside : s.transaction = false → s.uncommitted = []
  inside : 1 < o.eventsPerTransaction → s.transaction = true
  opened : s.transaction = true → s.destination.pending.isSome
  room : g.dstEventNo = 0 ∨ g.dstEventNo < o.eventsPerTransaction

lemma end_leaves (env : Environment μ) (s : Databases μ) :
    (handle env .transactionEnd s).2.transaction = false := by
  rw [handle]
  split
  · rw [answer]
    split <;> rfl
  · next ht => exact Bool.eq_false_iff.mpr ht

lemma start_opens (hg : env.fault s.clock = .none) (ht : s.transaction = false) :
    (handle env .transactionStart s).2.transaction = true := by
  rw [handle, ht, if_neg Bool.false_ne_true, answer, hg]
  rfl

lemma start_pending (ht : s.transaction = false)
    (h : (handle env .transactionStart s).2.transaction = true) :
    (handle env .transactionStart s).2.destination.pending.isSome := by
  rw [handle, ht, if_neg Bool.false_ne_true, answer] at h ⊢
  split
  · rfl
  · next he =>
    rw [he] at h
    cases ht.symm.trans h
  · next he =>
    rw [he] at h
    cases ht.symm.trans h

/-- The end of a transaction and the beginning of the next make durable what has been inserted. -/
lemma renewal_settles (houtside : s.transaction = false → s.uncommitted = [])
    (hend : Counts env o .transactionEnd s)
    (hstart : Counts env o .transactionStart (handle env .transactionEnd s).2) :
    let s' := (handle env .transactionStart (handle env .transactionEnd s).2).2
    s'.source = s.source ∧ s'.destination.durable = s.view ∧ s'.uncommitted = [] ∧
      (1 < o.eventsPerTransaction → s'.transaction = true) ∧
      (s'.transaction = true → s'.destination.pending.isSome) := by
  obtain ⟨hs₁, hd₁, hu₁⟩ := end_settles houtside hend
  obtain ⟨hs₂, hd₂, hu₂⟩ := start_settles env hu₁
  have hleft := end_leaves env s
  exact ⟨hs₂.trans hs₁, hd₂.trans hd₁, hu₂, fun hE => start_opens (hstart hE hleft) hleft,
    start_pending hleft⟩

lemma Tallied.of_durable (hview : s.view = before ++ done.filter criteria)
    (hd : s'.destination.durable = s.view) (hu : s'.uncommitted = [])
    (hin : 1 < o.eventsPerTransaction → s'.transaction = true)
    (hopen : s'.transaction = true → s'.destination.pending.isSome) (hE : o.eventsPerTransaction ≠ 0)
    (hcount : g.curCount = done.length) (hzero : g.dstEventNo = 0) :
    Tallied o criteria before done 0 g s' := by
  refine ⟨?_, fun _ => ?_, fun _ => ?_, fun h => absurd h hE, fun _ => hu, hin, hopen, .inl hzero⟩
  · rw [Databases.view_settled hu, hd, hview]
  · rw [hd, hview, hcount, List.take_length]
  · rw [hcount, hzero]
    rfl

lemma flush_tallies (h : Tallied o criteria before done n g s) :
    (o.flushTransactionIfNeeded n g).Secures (handle env) (Counts env o) (fun _ => True)
      (fun x s' => ∃ g', x = .ok g' ∧ Tallied o criteria before done 0 g' s' ∧
        (n = 0 → g'.dstEventNo = 0) ∧ s'.source = s.source ∧ g'.deleteTbl = g.deleteTbl ∧
        g'.limitCopy = g.limitCopy) s := by
  have hroom := h.room
  rw [Settings.flushTransactionIfNeeded]
  split
  · next hz =>
    refine ⟨trivial, g, rfl, ⟨h.view, fun _ => h.durable (.inr ?_), fun h => absurd hz h, h.still,
      h.outside, h.inside, h.opened, h.room⟩, fun _ => ?_, rfl, rfl, rfl⟩
    · omega
    · omega
  · next hz =>
    split
    · refine .tried trivial fun hend => .tried trivial fun hstart => ?_
      obtain ⟨hs, hd, hu, hin, hopen⟩ := renewal_settles h.outside hend hstart
      refine ⟨trivial, _, rfl, ?_, fun _ => rfl, hs, rfl, rfl⟩
      refine .of_durable h.view hd hu hin hopen hz ?_ rfl
      have hc := h.counted hz
      simp only [hc]
      omega
    · next hc =>
      push Not at hc
      obtain ⟨hfew, hsome⟩ := hc
      refine ⟨trivial, _, rfl, ⟨h.view, fun _ => ?_, fun _ => ?_, fun h => absurd h hz, h.outside,
        h.inside, h.opened, .inr hfew⟩, fun hn => ?_, rfl, rfl, rfl⟩
      · apply h.durable
        omega
      · have hc := h.counted hz
        simp only [hc]
        omega
      · subst hn
        exact hsome rfl

/-- The durable events are the first `count` of the range. -/
structure Resumable (criteria : μ → Bool) (before range : List μ) (count : ℕ) (s : Databases μ) :
    Prop where
  durable : s.destination.durable = before ++ (range.take count).filter criteria
  within : count ≤ range.length

lemma Tallied.resumable (h : Tallied o criteria before done 0 g s) :
    Resumable criteria before done g.curCount s := by
  refine ⟨h.durable (.inl rfl), ?_⟩
  by_cases hE : o.eventsPerTransaction = 0
  · rw [(h.still hE).1]
    exact Nat.zero_le _
  · have hc := h.counted hE
    omega

lemma Resumable.extend {range : List μ} {count : ℕ} (h : Resumable criteria before done count s)
    (hp : done <+: range) : Resumable criteria before range count s := by
  obtain ⟨rest, rfl⟩ := hp
  refine ⟨?_, ?_⟩
  · rw [h.durable, List.take_append_of_le_length h.within]
  · rw [List.length_append]
    exact h.within.trans (Nat.le_add_right _ _)

lemma Resumable.of_durable {count : ℕ} (h : Resumable criteria before done count s)
    (hd : s'.destination.durable = s.destination.durable) :
    Resumable criteria before done count s' :=
  ⟨hd.trans h.durable, h.within⟩

lemma insert_failed (m : μ) {e : SqlError} (h : (handle env (.insertMessage m) s).1 = .error e) :
    (handle env (.insertMessage m) s).2.destination.durable = s.destination.durable := by
  rw [handle, answer] at h ⊢
  split <;> simp_all [Databases.next, Databases.lose]

lemma insert_inside (m : μ) (ht : s.transaction = true) (hp : s.destination.pending.isSome) :
    (s.insert m).destination.durable = s.destination.durable ∧
      (s.insert m).destination.pending.isSome := by
  obtain ⟨ps, hps⟩ := Option.isSome_iff_exists.mp hp
  rw [Databases.insert, ht, if_pos rfl, Store.write_open append s.destination hps]
  exact ⟨rfl, rfl⟩

/-- An event the criteria do not select changes nothing in the destination. -/
lemma Tallied.pass {m : μ} (h : Tallied o criteria before done 0 g s) (hm : criteria m = false) :
    Tallied o criteria before (done ++ [m]) 1 g s := by
  have hnone : (done ++ [m]).filter criteria = done.filter criteria := by
    rw [List.filter_append, List.filter_cons_of_neg (by rw [hm]; exact Bool.false_ne_true),
      List.filter_nil, List.append_nil]
  have hwithin := h.resumable.within
  refine ⟨?_, fun _ => ?_, fun hE => ?_, fun hE => ?_, h.outside, h.inside, h.opened, h.room⟩
  · rw [hnone, h.view]
  · rw [List.take_append_of_le_length hwithin]
    exact h.durable (.inl rfl)
  · rw [List.length_append, h.counted hE]
    rfl
  · rw [hnone]
    exact h.still hE

lemma Tallied.insert {m : μ} (h : Tallied o criteria before done 0 g s) (hm : criteria m = true)
    (hE : o.eventsPerTransaction ≠ 0) :
    Tallied o criteria before (done ++ [m]) 1 g (s.insert m).next := by
  have hwithin := h.resumable.within
  have hview : (s.insert m).next.view = s.view ++ [m] := s.insert_view m
  have htran : (s.insert m).next.transaction = s.transaction := insert_transaction m
  refine ⟨?_, fun hone => ?_, fun _ => ?_, fun h => absurd h hE, fun ht => ?_, fun h1 => ?_,
    fun ht => ?_, h.room⟩
  · rw [hview, h.view, List.filter_append, List.filter_cons_of_pos hm, List.filter_nil,
      List.append_assoc]
  · have hin : s.transaction = true := h.inside (by omega)
    have hd : (s.insert m).next.destination.durable = s.destination.durable :=
      (insert_inside m hin (h.opened hin)).1
    rw [hd, List.take_append_of_le_length hwithin]
    exact h.durable (.inl rfl)
  · rw [List.length_append, h.counted hE]
    rfl
  · exact (s.insert_outside m (htran.symm.trans ht)).1
  · rw [htran]
    exact h.inside h1
  · have hin : s.transaction = true := htran.symm.trans ht
    exact (insert_inside m hin (h.opened hin)).2

lemma Tallied.next (h : Tallied o criteria before done n g s) :
    Tallied o criteria before done n g s.next :=
  ⟨h.view, h.durable, h.counted, h.still, h.outside, h.inside, h.opened, h.room⟩

lemma insert_faultless (m : μ) (h : (handle env (.insertMessage m) s).1 = .ok ()) :
    env.fault s.clock = .none := by
  rw [handle, answer] at h
  split at h
  · assumption
  · cases h
  · cases h

lemma stop_secures {β : Type} {f : Bool → Command μ β} {G : Api μ → Databases μ → Prop}
    {I : Databases μ → Prop} {post : Except SqlError β → Databases μ → Prop} (hs : I s)
    (h : (f (env.stop s.clock)).Secures (handle env) G I post s.next) :
    (stopProcessing >>= f).Secures (handle env) G I post s :=
  ⟨hs, fun _ => h⟩

/-- The source of a move keeps what has not been inserted and what waits in the table. -/
def Remains (o : Settings) (start ids : List ℕ) (g : Progress) (s : Databases μ) : Prop :=
  s.source = start.filter fun i =>
    !o.deleteCopied || !ids.contains i || g.deleteTbl.contains i

variable {start ids : List ℕ}

lemma Tallied.of_destination (h : Tallied o criteria before done n g s)
    (hd : s'.destination = s.destination) (ht : s'.transaction = s.transaction) :
    Tallied o criteria before done n g s' := by
  have hv : s'.view = s.view := congrArg (Store.view append) hd
  have hu : s'.uncommitted = s.uncommitted := by rw [Databases.uncommitted, hd, Databases.uncommitted]
  refine ⟨hv.trans h.view, ?_, h.counted, h.still, ?_, ?_, ?_, h.room⟩
  · rw [hd]
    exact h.durable
  · rw [ht, hu]
    exact h.outside
  · rw [ht]
    exact h.inside
  · rw [ht, hd]
    exact h.opened

lemma Tallied.of_table (h : Tallied o criteria before done n g s) {g' : Progress}
    (hc : g'.curCount = g.curCount) (he : g'.dstEventNo = g.dstEventNo) :
    Tallied o criteria before done n g' s := by
  refine ⟨h.view, ?_, ?_, ?_, h.outside, h.inside, h.opened, ?_⟩
  · rw [hc]
    exact h.durable
  · rw [hc, he]
    exact h.counted
  · rw [hc]
    exact h.still
  · rw [he]
    exact h.room

/-- A deletion that succeeds takes from the source what waits in the table. -/
lemma delete_remains (hg : env.fault s.clock = .none) (hr : Remains o start ids g s)
    (hmove : o.deleteCopied = true) (hsub : g.deleteTbl ⊆ ids) :
    (handle env (.deleteMessageFromList g.deleteTbl) s).1 = .ok () ∧
      (handle env (.deleteMessageFromList g.deleteTbl) s).2.destination = s.destination ∧
      (handle env (.deleteMessageFromList g.deleteTbl) s).2.transaction = s.transaction ∧
      Remains o start ids { g with deleteTbl := [] }
        (handle env (.deleteMessageFromList g.deleteTbl) s).2 := by
  rw [handle, answer, hg]
  refine ⟨rfl, rfl, rfl, ?_⟩
  have hs : (s.delete g.deleteTbl).next.source =
      s.source.filter fun i => !g.deleteTbl.contains i := rfl
  rw [Remains] at hr ⊢
  rw [hs, hr, List.filter_filter]
  refine List.filter_congr fun i hi => ?_
  rw [hmove]
  cases hm : g.deleteTbl.contains i with
  | false => simp
  | true =>
    have hin : ids.contains i = true := by
      rw [List.contains_iff_mem] at hm ⊢
      exact hsub hm
    rw [hin]
    rfl

/-- What becomes of a batch: some of its idents are inserted, all of them when it ends well. -/
def Iterated (env : Environment μ) (o : Settings) (before : List μ) (start ids idents : List ℕ)
    (limitCopy : Int) (x : Except SqlError (Except SqlError Unit × Progress)) (s : Databases μ) :
    Prop :=
  ∃ ret g ids', x = .ok (ret, g) ∧ ids' <+: ids ++ idents ∧
    Resumable (fun _ => true) before (ids'.map env.content) g.curCount s ∧
    (env.Quiet → ret = .ok ()) ∧ (ret = .ok () → ids' = ids ++ idents ∧ g.dstEventNo = 0 ∧
      g.limitCopy = limitCopy ∧ Tallied o (fun _ => true) before (ids'.map env.content) 0 g s ∧
      Remains o start ids' { g with deleteTbl := [] } s)

lemma finish_tallies (ret : Except SqlError Unit) (idents : List ℕ)
    (h : Tallied o (fun _ => true) before (ids.map env.content) 0 g s)
    (hr : Remains o start ids g s) (hsub : g.deleteTbl ⊆ ids)
    (htbl : o.deleteCopied = false → g.deleteTbl = []) (hret : env.Quiet → ret = .ok ())
    (hids : ret = .ok () → idents = []) :
    (o.finish ret g).Secures (handle env) (Counts env o) (fun _ => True)
      (Iterated env o before start ids idents g.limitCopy) s := by
  refine (flush_tallies h).bind ?_ fun e s hx => by obtain ⟨g', hx, -⟩ := hx; cases hx
  rintro g₁ s₁ - ⟨g', hx, h₁, hzero, hsource, htable, hlimit⟩
  cases hx
  have hr₁ : Remains o start ids g₁ s₁ := by
    rw [Remains, hsource, htable]
    exact hr
  have hp : ids <+: ids ++ idents := List.prefix_append _ _
  split
  · next hne =>
    refine .tried trivial fun hg => ?_
    have hmove : o.deleteCopied = true := by
      by_contra hc
      rw [htable, htbl (Bool.eq_false_iff.mpr hc)] at hne
      exact hne rfl
    have hsub₁ : g₁.deleteTbl ⊆ ids := by
      rw [htable]
      exact hsub
    obtain ⟨hok, hd, ht, hr₂⟩ := delete_remains hg hr₁ hmove hsub₁
    have h₂ := h₁.of_destination hd ht
    rw [hok]
    refine ⟨trivial, _, _, ids, rfl, hp, h₂.resumable, hret, fun hend => ?_⟩
    rw [hids hend, List.append_nil]
    exact ⟨rfl, hzero rfl, hlimit, h₂, hr₂⟩
  · next hne =>
    refine ⟨trivial, _, _, ids, rfl, hp, h₁.resumable, hret, fun hend => ?_⟩
    rw [hids hend, List.append_nil]
    refine ⟨rfl, hzero rfl, hlimit, h₁, ?_⟩
    rw [Remains, hr₁, Decidable.not_not.mp hne]

lemma insert_source (m : μ) : (s.insert m).source = s.source := by
  rw [Databases.insert]
  split <;> rfl

/-- An ident that has been inserted waits in the table, so the source still holds it. -/
lemma Remains.insert {ident : ℕ} (hr : Remains o start ids g s)
    (hnew : o.deleteCopied = true → ident ∉ ids) {g' : Progress}
    (hg : g'.deleteTbl = if o.deleteCopied then g.deleteTbl ++ [ident] else g.deleteTbl)
    (hs : s'.source = s.source) : Remains o start (ids ++ [ident]) g' s' := by
  rw [Remains] at hr ⊢
  rw [hs, hr, hg]
  refine List.filter_congr fun i _ => ?_
  cases hd : o.deleteCopied with
  | false => rfl
  | true =>
    by_cases hi : i = ident
    · subst hi
      have hout : i ∉ ids := hnew hd
      simp [hout]
    · simp [hi]

lemma collect_tallies (ident : ℕ)
    (h : Tallied o (fun _ => true) before ((ids ++ [ident]).map env.content) 1 g s)
    (hr : Remains o start ids g s) (hnew : o.deleteCopied = true → ident ∉ ids)
    (hsub : g.deleteTbl ⊆ ids) (htbl : o.deleteCopied = false → g.deleteTbl = []) :
    (o.collect ident g).Secures (handle env) (Counts env o) (fun _ => True)
      (fun x s' => ∃ g', x = .ok (true, g') ∧
        Tallied o (fun _ => true) before ((ids ++ [ident]).map env.content) 1 g' s' ∧
        Remains o start (ids ++ [ident]) g' s' ∧ g'.deleteTbl ⊆ ids ++ [ident] ∧
        (o.deleteCopied = false → g'.deleteTbl = []) ∧ g'.limitCopy = g.limitCopy) s := by
  rw [Settings.collect]
  cases hmove : o.deleteCopied with
  | false =>
    rw [if_neg Bool.false_ne_true]
    refine ⟨trivial, g, rfl, h, ?_, ?_, fun _ => htbl hmove, rfl⟩
    · refine hr.insert hnew ?_ rfl
      rw [hmove, if_neg Bool.false_ne_true]
    · rw [htbl hmove]
      exact List.nil_subset _
  | true =>
    have hr' : Remains o start (ids ++ [ident]) { g with deleteTbl := g.deleteTbl ++ [ident] } s := by
      refine hr.insert hnew ?_ rfl
      rw [hmove, if_pos rfl]
    have hsub' : g.deleteTbl ++ [ident] ⊆ ids ++ [ident] :=
      List.append_subset.mpr ⟨fun i hi => List.mem_append_left _ (hsub hi),
        List.subset_append_right _ _⟩
    have h' : Tallied o (fun _ => true) before ((ids ++ [ident]).map env.content) 1
        { g with deleteTbl := g.deleteTbl ++ [ident] } s := h.of_table rfl rfl
    simp only [if_true]
    split
    · refine .tried trivial fun hg => ?_
      obtain ⟨hok, hd, ht, hr₂⟩ := delete_remains hg hr' hmove hsub'
      rw [hok]
      exact ⟨trivial, _, rfl, (h'.of_destination hd ht).of_table rfl rfl, hr₂, List.nil_subset _,
        fun _ => rfl, rfl⟩
    · exact ⟨trivial, _, rfl, h', hr', hsub', fun h => (by cases h), rfl⟩

lemma answer_quiet {ρ : Type} {b : Bool} {failed : Databases μ} {ok : ρ × Databases μ}
    (hq : env.Quiet) : (answer env b s failed ok).1 = .ok ok.1 := by
  rw [answer, (hq s.clock).1]

lemma Iterated.failed {idents : List ℕ} {limitCopy : Int} {e : SqlError}
    (h : Resumable (fun _ => true) before (ids.map env.content) g.curCount s) (hq : ¬ env.Quiet) :
    Iterated env o before start ids idents limitCopy (.ok (.error e, g)) s :=
  ⟨_, _, ids, rfl, List.prefix_append _ _, h, fun h => absurd h hq, fun h => by cases h⟩

/-- One turn of the loop over the idents for each ident of the batch. -/
lemma copyIterate_tallies {idents : List ℕ}
    (h : Tallied o (fun _ => true) before (ids.map env.content) 0 g s)
    (hr : Remains o start ids g s) (hsub : g.deleteTbl ⊆ ids)
    (htbl : o.deleteCopied = false → g.deleteTbl = [])
    (hnew : o.deleteCopied = true → (ids ++ idents).Nodup) :
    (o.copyIterate idents g).Secures (handle env) (Counts env o) (fun _ => True)
      (Iterated env o before start ids idents g.limitCopy) s := by
  induction idents generalizing g s ids with
  | nil =>
    rw [Settings.copyIterate]
    refine .tried trivial fun _ => ?_
    have hnext : (handle env .resultIdentsGet s).2 = s.next := answer_source ()
    rw [hnext]
    split
    · next e he =>
      refine finish_tallies _ [] h.next hr hsub htbl (fun hq => ?_) fun _ => rfl
      cases he.symm.trans (answer_quiet hq)
    · exact finish_tallies _ [] h.next hr hsub htbl (fun _ => rfl) fun _ => rfl
  | cons ident rest ih =>
    rw [Settings.copyIterate]
    refine .tried trivial fun _ => ?_
    have hnext : (handle env .resultIdentsGet s).2 = s.next := answer_source ()
    rw [hnext]
    split
    · next e he =>
      refine finish_tallies _ _ h.next hr hsub htbl (fun hq => ?_) fun h => by cases h
      cases he.symm.trans (answer_quiet hq)
    · refine .tried trivial fun _ => ?_
      have hread : (handle env (.getMessage ident) s.next).2 = s.next.next :=
        answer_source (env.content ident)
      rw [hread]
      split
      · next e he =>
        refine ⟨trivial, .failed h.next.next.resumable fun hq => ?_⟩
        cases he.symm.trans (answer_quiet hq)
      · next message hm =>
        have hmessage : message = env.content ident := by
          rw [handle, answer] at hm
          split at hm
          · exact (Except.ok.inj hm).symm
          · cases hm
          · cases hm
        subst hmessage
        refine .tried trivial fun hg => ?_
        rcases insert_cases env s.next.next (env.content ident) with ⟨e, he⟩ | ⟨hok, hs⟩
        · have hd := insert_failed (env.content ident) he
          rw [he]
          refine ⟨trivial, .failed (h.next.next.resumable.of_durable hd) fun hq => ?_⟩
          cases he.symm.trans (answer_quiet hq)
        · have hE : o.eventsPerTransaction ≠ 0 := fun hz => hg hz (insert_faultless _ hok)
          have h₁ : Tallied o (fun _ => true) before ((ids ++ [ident]).map env.content) 1 g
              (s.next.next.insert (env.content ident)).next := by
            rw [List.map_append]
            exact h.next.next.insert rfl hE
          have hr₁ : Remains o start ids g (s.next.next.insert (env.content ident)).next :=
            Eq.trans (insert_source _) hr
          rw [hok, hs]
          refine (collect_tallies ident h₁ hr₁ ?_ hsub htbl).bind ?_
            fun e s hx => by obtain ⟨g', hx, -⟩ := hx; cases hx
          · intro hmove
            have hnd := hnew hmove
            rw [List.nodup_append] at hnd
            exact fun hi => hnd.2.2 ident hi ident List.mem_cons_self rfl
          rintro x s₂ - ⟨g₂, hx, h₂, hr₂, hsub₂, htbl₂, hlimit₂⟩
          cases hx
          simp only [if_true]
          refine (flush_tallies h₂).bind ?_ fun e s hx => by obtain ⟨g', hx, -⟩ := hx; cases hx
          rintro g₃ s₃ - ⟨g', hx, h₃, -, hsource, htable, hlimit⟩
          cases hx
          have hr₃ : Remains o start (ids ++ [ident]) g₃ s₃ := by
            rw [Remains, hsource, htable]
            exact hr₂
          have hrest := ih h₃ hr₃ (by rw [htable]; exact hsub₂) (by rw [htable]; exact htbl₂)
            (by rw [List.append_assoc]; exact hnew)
          refine hrest.mono ?_
          rintro x s' ⟨ret, g', ids', hx, hp, hres, hq, hend⟩
          rw [List.append_assoc] at hp hend
          rw [hlimit, hlimit₂] at hend
          exact ⟨ret, g', ids', hx, hp, hres, hq, hend⟩

lemma transactionStart_tallies (criteria : μ → Bool) (ht : s.transaction = false) (hu : s.uncommitted = []) :
    (o.transactionStart).Secures (handle env) (Counts env o) (fun _ => True)
      (fun x s' => x = .ok () ∧ s'.source = s.source ∧
        Tallied o criteria s.destination.durable [] 0 ⟨0, o.limit, 0, []⟩ s') s := by
  have hview := Databases.view_settled hu
  rw [Settings.transactionStart]
  split
  · next hE =>
    refine .tried trivial fun hg => ⟨trivial, rfl, ?_⟩
    have hopens := start_opens (hg hE ht) ht
    obtain ⟨hs, hd, hu'⟩ := start_settles env hu
    refine ⟨hs, ?_, fun _ => ?_, fun _ => rfl, fun _ => ⟨rfl, rfl⟩, fun _ => hu', fun _ => hopens,
      start_pending ht, .inl rfl⟩
    · rw [Databases.view_settled hu', hd]
      exact (List.append_nil _).symm
    · rw [hd]
      exact (List.append_nil _).symm
  · next hE =>
    refine ⟨trivial, rfl, rfl, ?_, fun _ => (List.append_nil _).symm, fun _ => rfl,
      fun _ => ⟨rfl, rfl⟩, fun _ => hu, fun h => absurd h hE, fun h => (by cases ht.symm.trans h),
      .inl rfl⟩
    rw [hview]
    exact (List.append_nil _).symm

lemma abort_keeps (env : Environment μ) (s : Databases μ) :
    (handle env .transactionAbort s).2.destination.durable = s.destination.durable ∧
      (handle env .transactionAbort s).2.source = s.source := by
  rw [handle]
  split
  · rw [answer]
    split <;> exact ⟨rfl, rfl⟩
  · exact ⟨rfl, rfl⟩

lemma transactionEnd_ok (ret : Except SqlError Unit) {G : Api μ → Databases μ → Prop} :
    (o.transactionEnd ret).Secures (handle env) G (fun _ => True) (fun x _ => x = .ok ()) s := by
  cases ret with
  | error e | ok u =>
    simp only [Settings.transactionEnd]
    split
    · exact .tried trivial fun _ => ⟨trivial, rfl⟩
    · exact ⟨trivial, rfl⟩

/-- The end of the command's transaction makes durable what its counter says. -/
lemma transactionEnd_resumable (ret : Except SqlError Unit)
    (hres : Resumable criteria before done g.curCount s)
    (hend : ret = .ok () → Tallied o criteria before done 0 g s) :
    (o.transactionEnd ret).Secures (handle env) (Counts env o) (fun _ => True)
      (fun x s' => x = .ok () ∧ s'.source = s.source ∧
        Resumable criteria before done (o.endCount ret g) s') s := by
  cases ret with
  | error e =>
    simp only [Settings.transactionEnd, Settings.endCount]
    split
    · refine .tried trivial fun _ => ⟨trivial, rfl, ?_⟩
      obtain ⟨hd, hs⟩ := abort_keeps env s
      exact ⟨hs, hres.of_durable hd⟩
    · exact ⟨trivial, rfl, rfl, hres⟩
  | ok u =>
    have ht := hend rfl
    simp only [Settings.transactionEnd, Settings.endCount]
    split
    · next hE =>
      refine .tried trivial fun hg => ⟨trivial, rfl, ?_⟩
      obtain ⟨hs, hd, hu⟩ := end_settles ht.outside hg
      have hcount := ht.counted (by omega)
      refine ⟨hs, ?_, by omega⟩
      rw [hd, ht.view, List.take_of_length_le (by omega)]
    · exact ⟨trivial, rfl, rfl, hres⟩

end Preludedb.Admin
