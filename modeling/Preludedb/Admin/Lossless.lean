import Preludedb.Admin.Move

/-! When a move loses nothing: what is deleted from the source is in the destination's durable
messages as long as no COMMIT of a full transaction fails and no batch fills the table of idents. -/

namespace Preludedb.Admin

open Foundations Sql

variable {μ : Type} {env : Environment μ} {o : Settings} {start : List ℕ} {s s' : Databases μ}
  {g : Progress}

/-- Every message of the source at the start is still there or has been committed. -/
def Safe (env : Environment μ) (start : List ℕ) (s : Databases μ) : Prop :=
  ∀ i ∈ start, i ∈ s.source ∨ env.content i ∈ s.destination.durable

namespace Databases

def uncommitted (s : Databases μ) : List μ := s.destination.pending.getD []

lemma foldl_append (ds ms : List μ) : ms.foldl append ds = ds ++ ms := by
  induction ms generalizing ds with
  | nil => simp
  | cons m ms ih => simp [append, ih]

lemma view_eq : s.view = s.destination.durable ++ s.uncommitted := by
  rw [view, Store.view, foldl_append]
  rfl

lemma view_settled (h : s.uncommitted = []) : s.view = s.destination.durable := by
  rw [view_eq, h, List.append_nil]

lemma insert_view (m : μ) : (s.insert m).view = s.view ++ [m] := by
  rw [insert]
  split
  · exact Store.write_view append s.destination [m]
  · simp only [view, Store.commit_view]
    exact Store.write_view append _ [m]

lemma insert_outside (m : μ) (h : s.transaction = false) :
    (s.insert m).uncommitted = [] ∧ (s.insert m).destination.durable = s.view ++ [m] := by
  have hv := s.insert_view m
  have hu : (s.insert m).uncommitted = [] := by
    rw [insert, h, if_neg Bool.false_ne_true]
    rfl
  rw [view_settled hu] at hv
  exact ⟨hu, hv⟩

end Databases

/-- The states that keep the source and lose nothing durable. -/
structure Keeps (s s' : Databases μ) : Prop where
  source : s'.source = s.source
  durable : ∀ m ∈ s.destination.durable, m ∈ s'.destination.durable

lemma Keeps.safe (h : Keeps s s') (hs : Safe env start s) : Safe env start s' := by
  intro i hi
  rw [h.source]
  exact (hs i hi).imp_right (h.durable _)

lemma Keeps.refl (s : Databases μ) : Keeps s s := ⟨rfl, fun _ h => h⟩

lemma Keeps.of_view (hs : s'.source = s.source) (hd : s'.destination.durable = s.view) :
    Keeps s s' := by
  refine ⟨hs, fun m hm => ?_⟩
  rw [hd, Databases.view_eq]
  exact List.mem_append_left _ hm

lemma insert_keeps (m : μ) : Keeps s (s.insert m) := by
  cases ht : s.transaction with
  | false =>
    refine ⟨?_, fun m' hm => ?_⟩
    · rw [Databases.insert]
      split <;> rfl
    · rw [(s.insert_outside m ht).2, Databases.view_eq, List.append_assoc]
      exact List.mem_append_left _ hm
  | true =>
    rw [Databases.insert, ht, if_pos rfl]
    refine ⟨rfl, fun m' hm => ?_⟩
    rw [Store.write]
    split
    · exact List.mem_append_left _ hm
    · exact hm

lemma answer_keeps {ρ : Type} {b : Bool} {failed : Databases μ} {ok : ρ × Databases μ}
    (hf : Keeps s failed) (ho : Keeps s ok.2) : Keeps s (answer env b s failed ok).2 := by
  rw [answer]
  split
  · exact ⟨ho.source, ho.durable⟩
  · exact ⟨hf.source, hf.durable⟩
  · cases b
    · exact ⟨hf.source, hf.durable⟩
    · exact ⟨hf.source, hf.durable⟩

/-- Only a deletion can lose a message, and no other call touches the source. -/
lemma handle_keeps {r : Api μ} (hr : ∀ idents, r ≠ .deleteMessageFromList idents) :
    Keeps s (handle env r s).2 := by
  have hnext : Keeps s s.next := ⟨rfl, fun _ h => h⟩
  cases r with
  | getMessageIdents | resultIdentsGet | getMessage => exact answer_keeps (.refl s) (.refl s)
  | insertMessage m => exact answer_keeps (.refl s) (insert_keeps m)
  | deleteMessageFromList idents => exact absurd rfl (hr idents)
  | transactionStart =>
    rw [handle]
    split
    · exact hnext
    · exact answer_keeps (.refl s) (.of_view rfl rfl)
  | transactionEnd =>
    rw [handle]
    split
    · exact answer_keeps ⟨rfl, fun _ h => h⟩ (.of_view rfl rfl)
    · exact hnext
  | transactionAbort =>
    rw [handle]
    split
    · exact answer_keeps ⟨rfl, fun _ h => h⟩ ⟨rfl, fun _ h => h⟩
    · exact hnext
  | stopProcessing => exact hnext

/-- What is asked of a run: a batch does not fill the table of the idents, and the end of a
transaction with something to commit succeeds. -/
def Sound (env : Environment μ) : Api μ → Databases μ → Prop
  | .getMessageIdents limit offset, s => (s.matching env limit offset).length < deleteTblSize
  | .transactionEnd, s => s.transaction = true → s.uncommitted ≠ [] → env.fault s.clock = .none
  | _, _ => True

instance decidableSound (env : Environment μ) [DecidableEq μ] :
    ∀ (r : Api μ) (s : Databases μ), Decidable (Sound env r s)
  | .getMessageIdents _ _, _ => inferInstanceAs (Decidable (_ < _))
  | .transactionEnd, s => inferInstanceAs
      (Decidable (s.transaction = true → s.uncommitted ≠ [] → env.fault s.clock = .none))
  | .resultIdentsGet, _ | .getMessage _, _ | .insertMessage _, _ | .deleteMessageFromList _, _
  | .transactionStart, _ | .transactionAbort, _ | .stopProcessing, _ => .isTrue trivial

/-- The destination in the loop over the idents, with `n` events inserted and not counted: what is in
the table has been inserted, and it has been committed when no event is open. -/
structure Ready (env : Environment μ) (o : Settings) (start : List ℕ) (n : ℕ) (g : Progress)
    (s : Databases μ) : Prop where
  safe : Safe env start s
  inserted : ∀ i ∈ g.deleteTbl, env.content i ∈ s.view
  committed : g.dstEventNo + n = 0 → ∀ i ∈ g.deleteTbl, env.content i ∈ s.destination.durable
  outside : s.transaction = false → s.uncommitted = []
  automatic : o.eventsPerTransaction = 0 → s.transaction = false
  room : g.dstEventNo = 0 ∨ g.dstEventNo < o.eventsPerTransaction

/-- The end of a transaction commits what has been inserted. -/
lemma end_settles (h : s.transaction = false → s.uncommitted = [])
    (hg : Sound env .transactionEnd s) :
    (handle env .transactionEnd s).2.source = s.source ∧
      (handle env .transactionEnd s).2.destination.durable = s.view ∧
      (handle env .transactionEnd s).2.uncommitted = [] := by
  rw [handle]
  split
  · next ht =>
    rw [answer]
    split
    · exact ⟨rfl, rfl, rfl⟩
    · next e he =>
      have hu : s.uncommitted = [] := by
        by_contra hne
        rw [hg ht hne] at he
        cases he
      exact ⟨rfl, (Databases.view_settled hu).symm, hu⟩
    · next e he =>
      have hu : s.uncommitted = [] := by
        by_contra hne
        rw [hg ht hne] at he
        cases he
      exact ⟨rfl, (Databases.view_settled hu).symm, rfl⟩
  · next ht =>
    have hu := h (Bool.eq_false_iff.mpr ht)
    exact ⟨rfl, (Databases.view_settled hu).symm, hu⟩

lemma start_settles (env : Environment μ) (hu : s.uncommitted = []) :
    (handle env .transactionStart s).2.source = s.source ∧
      (handle env .transactionStart s).2.destination.durable = s.destination.durable ∧
      (handle env .transactionStart s).2.uncommitted = [] := by
  rw [handle]
  split
  · exact ⟨rfl, rfl, hu⟩
  · rw [answer]
    split
    · exact ⟨rfl, Databases.view_settled hu, rfl⟩
    · exact ⟨rfl, rfl, hu⟩
    · exact ⟨rfl, rfl, rfl⟩

lemma Ready.settled {n : ℕ} (h : Ready env o start n g s) (hu : s.uncommitted = []) :
    ∀ i ∈ g.deleteTbl, env.content i ∈ s.destination.durable := by
  intro i hi
  rw [← Databases.view_settled hu]
  exact h.inserted i hi

lemma flush_secures {n : ℕ} (h : Ready env o start n g s) :
    (o.flushTransactionIfNeeded n g).Secures (handle env) (Sound env) (Safe env start)
      (fun x s' => ∃ g', x = .ok g' ∧ g'.deleteTbl = g.deleteTbl ∧ (n = 0 → g'.dstEventNo = 0) ∧
        Ready env o start 0 g' s') s := by
  rw [Settings.flushTransactionIfNeeded]
  split
  · next hz =>
    refine ⟨h.safe, g, rfl, rfl, ?_, h.safe, h.inserted, ?_, h.outside, h.automatic, h.room⟩
    · have hroom := h.room
      omega
    · exact fun _ => h.settled (h.outside (h.automatic hz))
  · next hz =>
    split
    · refine .tried h.safe fun hg => ?_
      obtain ⟨hs₁, hd₁, hu₁⟩ := end_settles h.outside hg
      have hk₁ : Keeps s (handle env .transactionEnd s).2 := handle_keeps fun _ h => by cases h
      refine .tried (hk₁.safe h.safe) fun _ => ?_
      obtain ⟨hs₂, hd₂, hu₂⟩ := start_settles env hu₁
      have hk₂ : Keeps _ (handle env .transactionStart (handle env .transactionEnd s).2).2 :=
        handle_keeps fun _ h => by cases h
      have hsafe := hk₂.safe (hk₁.safe h.safe)
      have hview := Databases.view_settled hu₂
      refine ⟨hsafe, _, rfl, rfl, fun _ => rfl, hsafe, ?_, ?_, fun _ => hu₂,
        fun h' => absurd h' hz, .inl rfl⟩
      · rw [hview, hd₂, hd₁]
        exact h.inserted
      · intro _
        rw [hd₂, hd₁]
        exact h.inserted
    · next hc =>
      push Not at hc
      refine ⟨h.safe, _, rfl, rfl, fun hn => ?_, h.safe, h.inserted, fun h' => h.committed h',
        h.outside, h.automatic, .inr hc.1⟩
      subst hn
      exact hc.2 rfl

/-- The table of a batch starts empty. -/
lemma Ready.cleared {n : ℕ} (h : Ready env o start n g s) :
    Ready env o start 0 { g with deleteTbl := [] } s :=
  ⟨h.safe, fun _ hi => (by cases hi), fun _ _ hi => (by cases hi), h.outside, h.automatic, h.room⟩

/-- The calls on the source that do not delete leave everything as it was. -/
lemma Ready.next {n : ℕ} (h : Ready env o start n g s) : Ready env o start n g s.next :=
  ⟨h.safe, h.inserted, h.committed, h.outside, h.automatic, h.room⟩

lemma answer_source {ρ : Type} (x : ρ) : (answer env false s s (x, s)).2 = s.next := by
  rw [answer]
  split <;> rfl

lemma delete_safe {idents : List ℕ} (hs : Safe env start s)
    (h : ∀ i ∈ idents, env.content i ∈ s.destination.durable) :
    Safe env start (handle env (.deleteMessageFromList idents) s).2 := by
  rw [handle, answer]
  split
  · intro i hi
    rcases hs i hi with hsrc | hdur
    · by_cases hm : i ∈ idents
      · exact .inr (h i hm)
      · refine .inl (List.mem_filter.mpr ⟨hsrc, ?_⟩)
        simpa using hm
    · exact .inr hdur
  · exact hs
  · exact hs

lemma delete_ready {idents : List ℕ} (h : Ready env o start 0 g s)
    (hd : ∀ i ∈ idents, env.content i ∈ s.destination.durable) :
    Ready env o start 0 g (handle env (.deleteMessageFromList idents) s).2 := by
  have hdest : (handle env (.deleteMessageFromList idents) s).2.destination = s.destination ∧
      (handle env (.deleteMessageFromList idents) s).2.transaction = s.transaction := by
    rw [handle, answer]
    split <;> exact ⟨rfl, rfl⟩
  obtain ⟨hdest, htran⟩ := hdest
  have hview : (handle env (.deleteMessageFromList idents) s).2.view = s.view := by
    rw [Databases.view, hdest]
    rfl
  refine ⟨delete_safe h.safe hd, ?_, ?_, ?_, ?_, h.room⟩
  · rw [hview]
    exact h.inserted
  · rw [hdest]
    exact h.committed
  · rw [htran, Databases.uncommitted, hdest]
    exact h.outside
  · rw [htran]
    exact h.automatic

def Ended (env : Environment μ) (o : Settings) (start : List ℕ)
    (x : Except SqlError (Except SqlError Unit × Progress)) (s : Databases μ) : Prop :=
  ∃ ret g, x = .ok (ret, g) ∧ (ret = .ok () → Ready env o start 0 { g with deleteTbl := [] } s)

lemma finish_secures (ret : Except SqlError Unit) (h : Ready env o start 0 g s) :
    (o.finish ret g).Secures (handle env) (Sound env) (Safe env start) (Ended env o start) s := by
  refine (flush_secures h).bind ?_ fun e s hx => by obtain ⟨g', hx, -⟩ := hx; cases hx
  rintro g₁ s₁ - ⟨g', hx, htbl, hzero, hready⟩
  cases hx
  have hcommitted := hready.committed (hzero rfl)
  split
  · refine .tried hready.safe fun _ => ?_
    have hend := delete_ready hready hcommitted
    rcases (handle env (.deleteMessageFromList g₁.deleteTbl) s₁).1 with e | u
    · exact ⟨hend.safe, _, _, rfl, fun h => by cases h⟩
    · exact ⟨hend.safe, _, _, rfl, fun _ => hend.cleared⟩
  · exact ⟨hready.safe, _, _, rfl, fun _ => hready.cleared⟩

lemma collect_room (ident : ℕ) (h : Ready env o start 0 g s)
    (hlen : g.deleteTbl.length + 1 < deleteTblSize) : o.collect ident g =
      (pure (true, if o.deleteCopied then { g with deleteTbl := g.deleteTbl ++ [ident] } else g) :
        Command μ (Bool × Progress)) := by
  rw [Settings.collect]
  have hroom := h.room
  cases o.deleteCopied with
  | false => rfl
  | true =>
    have hfull : ¬ ((o.eventsPerTransaction ≠ 0 ∧ o.eventsPerTransaction ≤ g.dstEventNo) ∨
        deleteTblSize ≤ (g.deleteTbl ++ [ident]).length) := by
      rw [List.length_append, List.length_singleton]
      omega
    simp only [if_true]
    rw [if_neg hfull]

lemma insert_transaction (m : μ) : (s.insert m).transaction = s.transaction := by
  rw [Databases.insert]
  split <;> rfl

lemma insert_ready (ident : ℕ) (h : Ready env o start 0 g s) :
    Ready env o start 1 (if o.deleteCopied then { g with deleteTbl := g.deleteTbl ++ [ident] } else g)
      (s.insert (env.content ident)).next := by
  have hsafe : Safe env start (s.insert (env.content ident)).next :=
    (insert_keeps (env.content ident)).safe h.safe
  have hview : (s.insert (env.content ident)).next.view = s.view ++ [env.content ident] :=
    s.insert_view (env.content ident)
  have houtside : (s.insert (env.content ident)).next.transaction = false →
      (s.insert (env.content ident)).next.uncommitted = [] := fun ht =>
    (s.insert_outside _ ((insert_transaction _).symm.trans ht)).1
  have hauto : o.eventsPerTransaction = 0 → (s.insert (env.content ident)).next.transaction = false :=
    fun hz => (insert_transaction _).trans (h.automatic hz)
  split
  · refine ⟨hsafe, fun i hi => ?_, fun hz => by simp at hz, houtside, hauto, h.room⟩
    rw [hview]
    rcases List.mem_append.mp hi with hi | hi
    · exact List.mem_append_left _ (h.inserted i hi)
    · rw [List.mem_singleton.mp hi]
      exact List.mem_append_right _ List.mem_cons_self
  · refine ⟨hsafe, fun i hi => ?_, fun hz => by omega, houtside, hauto, h.room⟩
    rw [hview]
    exact List.mem_append_left _ (h.inserted i hi)

lemma turn_length (o : Settings) (g : Progress) (ident : ℕ) :
    (if o.deleteCopied then { g with deleteTbl := g.deleteTbl ++ [ident] } else g).deleteTbl.length ≤
      g.deleteTbl.length + 1 := by
  split <;> simp

lemma insert_cases (env : Environment μ) (s : Databases μ) (m : μ) : (∃ e, (handle env (.insertMessage m) s).1 = .error e) ∨
    (handle env (.insertMessage m) s).1 = .ok () ∧
      (handle env (.insertMessage m) s).2 = (s.insert m).next := by
  rw [handle, answer]
  split
  · exact .inr ⟨rfl, rfl⟩
  · exact .inl ⟨_, rfl⟩
  · exact .inl ⟨_, rfl⟩

/-- One turn of the loop over the idents for each ident of the batch. -/
lemma copyIterate_secures {idents : List ℕ} (h : Ready env o start 0 g s)
    (hlen : g.deleteTbl.length + idents.length < deleteTblSize) :
    (o.copyIterate idents g).Secures (handle env) (Sound env) (Safe env start)
      (Ended env o start) s := by
  have stopped {e : SqlError} {g : Progress} {s : Databases μ} (hs : Safe env start s) :
      (pure (.error e, g) : Command μ (Except SqlError Unit × Progress)).Secures (handle env)
        (Sound env) (Safe env start) (Ended env o start) s :=
    ⟨hs, _, _, rfl, fun h => by cases h⟩
  induction idents generalizing g s with
  | nil =>
    rw [Settings.copyIterate]
    refine .tried h.safe fun _ => ?_
    have hnext : (handle env .resultIdentsGet s).2 = s.next := answer_source ()
    rw [hnext]
    split
    · exact finish_secures _ h.next
    · exact finish_secures _ h.next
  | cons ident rest ih =>
    rw [Settings.copyIterate]
    refine .tried h.safe fun _ => ?_
    have hnext : (handle env .resultIdentsGet s).2 = s.next := answer_source ()
    rw [hnext]
    split
    · exact finish_secures _ h.next
    · refine .tried h.next.safe fun _ => ?_
      have hread : (handle env (.getMessage ident) s.next).2 = s.next.next :=
        answer_source (env.content ident)
      rw [hread]
      split
      · exact stopped h.next.next.safe
      · next message hm =>
        have hmessage : message = env.content ident := by
          rw [handle, answer] at hm
          split at hm
          · exact (Except.ok.inj hm).symm
          · cases hm
          · cases hm
        subst hmessage
        refine .tried h.next.next.safe fun _ => ?_
        have hready := insert_ready ident h.next.next
        rcases insert_cases env s.next.next (env.content ident) with
          ⟨e, he⟩ | ⟨hok, hs⟩
        · have hkeeps : Keeps s.next.next
              (handle env (.insertMessage (env.content ident)) s.next.next).2 :=
            handle_keeps fun _ h => by cases h
          rw [he]
          exact stopped (hkeeps.safe h.next.next.safe)
        · have hroom : g.deleteTbl.length + 1 < deleteTblSize := by
            rw [List.length_cons] at hlen
            omega
          rw [hok, hs]
          simp only [collect_room ident h hroom]
          refine (flush_secures hready).bind ?_ fun e s hx => by obtain ⟨g', hx, -⟩ := hx; cases hx
          rintro g₁ s₁ - ⟨g', hx, htbl, -, hnext⟩
          cases hx
          refine ih hnext ?_
          have hturn := turn_length o g ident
          rw [List.length_cons] at hlen
          rw [htbl]
          omega

lemma fetch_secures (h : Ready env o start 0 { g with deleteTbl := [] } s) :
    (o.fetchMessageIdentsLimited g).Secures (handle env) (Sound env) (Safe env start)
      (fun x s' => ∀ idents g', x = .ok (idents, g') → idents.length < deleteTblSize ∧
        Ready env o start 0 { g' with deleteTbl := [] } s') s := by
  have hget (limit offset : Int) : (getMessageIdents limit offset).Secures (handle env) (Sound env)
      (Safe env start) (fun x s' => s' = s.next ∧ ∀ idents, x = .ok idents →
        idents.length < deleteTblSize) s := by
    refine .call h.safe fun hg => ?_
    have hnext : (handle env (.getMessageIdents limit offset) s).2 = s.next := answer_source _
    rw [hnext]
    refine ⟨h.next.safe, rfl, fun idents hx => ?_⟩
    rw [handle, answer] at hx
    split at hx
    · rw [← Except.ok.inj hx]
      exact hg
    · cases hx
    · cases hx
  refine (hget _ _).bind ?_ ?_
  · rintro idents s₁ - ⟨rfl, hlen⟩
    have hnext := h.next.cleared
    refine ⟨hnext.safe, fun idents' g' hx => ?_⟩
    cases hx
    refine ⟨hlen idents rfl, ?_⟩
    split
    · exact ⟨hnext.safe, hnext.inserted, hnext.committed, hnext.outside, hnext.automatic, hnext.room⟩
    · exact hnext
  · rintro e s₁ - idents g' hx
    cases hx

lemma loop_secures (fuel : ℕ) (h : Ready env o start 0 { g with deleteTbl := [] } s) :
    (o.copyMoveLoop fuel g).Secures (handle env) (Sound env) (Safe env start)
      (fun x _ => ∃ ret, x = .ok ret) s := by
  induction fuel generalizing g s with
  | zero => exact ⟨h.safe, _, rfl⟩
  | succ fuel ih =>
    have hfetch : (o.fetchMessageIdentsLimited g).attempt.Secures (handle env) (Sound env)
        (Safe env start) (fun y s' => ∃ x, y = .ok x ∧ ∀ idents g', x = .ok (idents, g') →
          idents.length < deleteTblSize ∧ Ready env o start 0 { g' with deleteTbl := [] } s') s :=
      .attempt ((fetch_secures h).mono fun x s' hx => ⟨x, rfl, hx⟩)
    rw [Settings.copyMoveLoop]
    refine hfetch.bind ?_ ?_
    · rintro x s₁ hsafe ⟨x', hx, hready⟩
      cases hx
      split
      · exact ⟨hsafe, _, rfl⟩
      · exact ⟨hsafe, _, rfl⟩
      · next idents g' _ =>
        obtain ⟨hlen, hready⟩ := hready idents g' rfl
        refine (copyIterate_secures hready (by simpa using hlen)).bind ?_ ?_
        · rintro ⟨ret, g₁⟩ s₂ hsafe ⟨ret', g₂, hx, hend⟩
          cases hx
          cases ret with
          | error e => exact ⟨hsafe, _, rfl⟩
          | ok u =>
            refine ⟨hsafe, fun _ => ?_⟩
            have hturn : (if env.stop s₂.clock then pure (.ok ()) else
                o.copyMoveLoop fuel g₁ : Command μ (Except SqlError Unit)).Secures (handle env)
                (Sound env) (Safe env start) (fun x _ => ∃ ret, x = .ok ret) s₂.next := by
              split
              · exact ⟨hsafe, _, rfl⟩
              · exact ih (hend rfl).next
            exact hturn
        · rintro e s₂ ⟨ret, g₂, hx, -⟩
          cases hx
    · rintro e s₁ ⟨x, hx, -⟩
      cases hx

/-- What the command does with its transaction at the ends of a run loses nothing. -/
lemma tried_secures {r : Api μ} {post : Except SqlError Unit → Databases μ → Prop}
    (hr : ∀ idents, r ≠ .deleteMessageFromList idents) (hs : Safe env start s)
    (hpost : post (.ok ()) (handle env r s).2) :
    (do let _ ← (Program.call r).attempt; pure () : Command μ Unit).Secures (handle env) (Sound env)
      (Safe env start) post s :=
  .tried hs fun _ => ⟨(handle_keeps hr).safe hs, hpost⟩

lemma transactionEnd_secures (ret : Except SqlError Unit) (hs : Safe env start s) :
    (o.transactionEnd ret).Secures (handle env) (Sound env) (Safe env start)
      (fun _ _ => True) s := by
  cases ret with
  | error e =>
    simp only [Settings.transactionEnd]
    split
    · exact tried_secures (fun _ h => by cases h) hs trivial
    · exact ⟨hs, trivial⟩
  | ok u =>
    simp only [Settings.transactionEnd]
    split
    · exact tried_secures (fun _ h => by cases h) hs trivial
    · exact ⟨hs, trivial⟩

lemma transactionStart_secures (ht : s.transaction = false) (hu : s.uncommitted = [])
    (hs : Safe env start s) :
    (o.transactionStart).Secures (handle env) (Sound env) (Safe env start)
      (fun x s' => x = .ok () ∧ Ready env o start 0 ⟨0, o.limit, 0, []⟩ s') s := by
  rw [Settings.transactionStart]
  split
  · next hn =>
    have hu' := (start_settles env hu).2.2
    have hkeeps : Keeps s (handle env .transactionStart s).2 := handle_keeps fun _ h => by cases h
    exact tried_secures (fun _ h => by cases h) hs ⟨rfl, hkeeps.safe hs, fun _ hi => (by cases hi),
      fun _ _ hi => (by cases hi), fun _ => hu', fun hz => by omega, .inl rfl⟩
  · exact ⟨hs, rfl, hs, fun _ hi => (by cases hi), fun _ _ hi => (by cases hi), fun _ => hu,
      fun _ => ht, .inl rfl⟩

/-- The call at one point of the run loses its session, and no other call fails. -/
def lossAt (n : ℕ) : Environment ℕ where
  fault k := if k = n then .lost (preludedbError .connection) else .none
  stop _ := false
  content i := i
  selected _ := true

def defaultMove : Settings := ⟨1000, -1, 0, true⟩

def twoMessages : Databases ℕ := ⟨[1, 2], ⟨[], none⟩, false, 0⟩

end Preludedb.Admin
