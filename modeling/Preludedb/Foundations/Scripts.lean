import Preludedb.Foundations.Programs

/-! Straight-line programs: one request after the other. The failure of a request ends the program
with an error, or is passed over, possibly after some other requests. -/

namespace Foundations

inductive Step (Req ε : Type)
  | must (r : Req) (err : ε → ε)
  | may (r : Req) (fallback : List Req)
  | stop (e : ε)

variable {Req ε : Type} {Res : Req → Type} {σ : Type}

namespace Program

def calls : List Req → Program Req ε Res Unit
  | [] => .done ()
  | r :: rs => call r >>= fun _ => calls rs

def ofStep : Step Req ε → Program Req ε Res Unit
  | .must r err => (call r).mapError err >>= fun _ => .done ()
  | .may r fallback => (call r).attempt >>= fun
    | .ok _ => .done ()
    | .error _ => calls fallback
  | .stop e => .fail e

def script : List (Step Req ε) → Program Req ε Res Unit
  | [] => .done ()
  | s :: ss => ofStep s >>= fun _ => script ss

end Program

namespace Step

/-- The requests a step can issue. -/
def requests : Step Req ε → List Req
  | .must r _ => [r]
  | .may r fallback => r :: fallback
  | .stop _ => []

/-- The requests a step issues when none fails. -/
def plain : Step Req ε → List Req
  | .must r _ => [r]
  | .may r _ => [r]
  | .stop _ => []

def passedOver : Step Req ε → Option Req
  | .may r _ => some r
  | _ => none

/-- The step goes through when the requests in `P` are answered. -/
def Survives (P : Req → Prop) : Step Req ε → Prop
  | .must r _ => P r
  | .may _ fallback => ∀ r ∈ fallback, P r
  | .stop _ => False

end Step

namespace Program

variable {ss ts : List (Step Req ε)}

@[simp] lemma script_nil : (script [] : Program Req ε Res Unit) = .done () := rfl
@[simp] lemma script_cons (s : Step Req ε) (ss : List (Step Req ε)) :
    (script (s :: ss) : Program Req ε Res Unit) = ofStep s >>= fun _ => script ss := rfl

lemma script_append : (script (ss ++ ts) : Program Req ε Res Unit) =
    script ss >>= fun _ => script ts := by
  induction ss with
  | nil => rfl
  | cons s ss ih => rw [List.cons_append, script_cons, script_cons, ih, bind_assoc]

lemma calls_requests {Q : Req → Prop} {rs : List Req} (h : ∀ r ∈ rs, Q r) :
    (calls rs : Program Req ε Res Unit).Requests Q := by
  induction rs with
  | nil => trivial
  | cons r rs ih =>
    exact .bind (.call (h r (by simp))) fun _ => ih fun r' hr' => h r' (by simp [hr'])

lemma ofStep_requests {Q : Req → Prop} {s : Step Req ε} (h : ∀ r ∈ s.requests, Q r) :
    (ofStep s : Program Req ε Res Unit).Requests Q := by
  cases s with
  | must r err => exact ⟨h r (by simp [Step.requests]), fun x => by cases x <;> trivial⟩
  | may r fallback =>
    refine ⟨h r (by simp [Step.requests]), fun x => ?_⟩
    cases x with
    | ok a => trivial
    | error e => exact calls_requests fun r' hr' => h r' (by simp [Step.requests, hr'])
  | stop e => trivial

lemma script_requests {Q : Req → Prop} (h : ∀ s ∈ ss, ∀ r ∈ s.requests, Q r) :
    (script ss : Program Req ε Res Unit).Requests Q := by
  induction ss with
  | nil => trivial
  | cons s ss ih =>
    exact .bind (ofStep_requests (h s (by simp))) fun _ => ih fun s' hs' => h s' (by simp [hs'])

lemma calls_failStop (C : Req → Prop) (rs : List Req) :
    (calls rs : Program Req ε Res Unit).FailStop C := by
  induction rs with
  | nil => trivial
  | cons r rs ih => exact .bind (.call C r) fun _ => ih

lemma ofStep_failStop {C : Req → Prop} {s : Step Req ε} (h : ∀ r ∈ s.passedOver, ¬ C r) :
    (ofStep s : Program Req ε Res Unit).FailStop C := by
  cases s with
  | must r err => exact ⟨fun _ e => ⟨err e, rfl⟩, fun x => by cases x <;> trivial⟩
  | may r fallback =>
    refine ⟨fun hr => absurd hr (h r rfl), fun x => ?_⟩
    cases x with
    | ok a => trivial
    | error e => exact calls_failStop C fallback
  | stop e => trivial

lemma script_failStop {C : Req → Prop} (h : ∀ s ∈ ss, ∀ r ∈ s.passedOver, ¬ C r) :
    (script ss : Program Req ε Res Unit).FailStop C := by
  induction ss with
  | nil => trivial
  | cons s ss ih =>
    exact .bind (ofStep_failStop (h s (by simp))) fun _ => ih fun s' hs' => h s' (by simp [hs'])

lemma script_stop {e : ε} (h : .stop e ∈ ss) {handle : (r : Req) → σ → Except ε (Res r) × σ} {s : σ}
    (a : Unit) : ((script ss).run handle s).1 ≠ .ok a := by
  induction ss generalizing s with
  | nil => cases h
  | cons st ss ih =>
    rw [script_cons, run_bind]
    rcases List.mem_cons.mp h with rfl | h
    · exact fun h => by cases h
    · rcases hr : (ofStep st).run handle s with ⟨e' | u, s'⟩
      · exact fun h => by cases h
      · exact ih h

section Answered

variable {handle : (r : Req) → σ → Except ε (Res r) × σ} {s : σ}

lemma calls_answered (h : ∀ r s, ∃ x, (handle r s).1 = .ok x) (rs : List Req) :
    (calls rs).run handle s = (.ok (), rs.foldl (fun s r => (handle r s).2) s) := by
  induction rs generalizing s with
  | nil => rfl
  | cons r rs ih =>
    obtain ⟨x, hx⟩ := h r s
    simp only [calls, call, request_bind, run_request, hx, done_bind]
    exact ih

/-- What a script does when every request is answered. -/
lemma script_answered (h : ∀ r s, ∃ x, (handle r s).1 = .ok x) {u : Unit}
    (hok : ((script ss).run handle s).1 = .ok u) : ((script ss).run handle s).2 =
      (ss.flatMap Step.plain).foldl (fun s r => (handle r s).2) s := by
  induction ss generalizing s with
  | nil => rfl
  | cons st ss ih =>
    have hstep : ∀ r : Req, (ofStep st).run handle s = (.ok (), (handle r s).2) →
        st.plain = [r] → ((script (st :: ss)).run handle s).2 =
          ((st :: ss).flatMap Step.plain).foldl (fun s r => (handle r s).2) s := by
      intro r hr hp
      rw [script_cons, run_bind, hr] at hok ⊢
      rw [List.flatMap_cons, hp]
      exact ih hok
    cases st with
    | must r err =>
      obtain ⟨x, hx⟩ := h r s
      exact hstep r (by simp [ofStep, call, mapError, hx]) rfl
    | may r fallback =>
      obtain ⟨x, hx⟩ := h r s
      exact hstep r (by simp [ofStep, call, attempt, hx]) rfl
    | stop e =>
      rw [script_cons, run_bind] at hok
      cases hok

end Answered

section Steady

variable {handle : (r : Req) → σ → Except ε (Res r) × σ} {I : σ → Prop} {P Q C : Req → Prop} {s : σ}

lemma calls_run (hP : ∀ r s, P r → I s → ∃ x, (handle r s).1 = .ok x)
    (hI : ∀ r s, P r → I s → I (handle r s).2) {rs : List Req} (h : ∀ r ∈ rs, P r) (hs : I s) :
    ((calls rs).run handle s).1 = .ok () ∧ I ((calls rs).run handle s).2 := by
  induction rs generalizing s with
  | nil => exact ⟨rfl, hs⟩
  | cons r rs ih =>
    obtain ⟨x, hx⟩ := hP r s (h r (by simp)) hs
    have hi := hI r s (h r (by simp)) hs
    simp only [calls, call, request_bind, run_request, hx, done_bind]
    exact ih (fun r' hr' => h r' (by simp [hr'])) hi

lemma ofStep_run (hP : ∀ r s, P r → I s → ∃ x, (handle r s).1 = .ok x)
    (hI : ∀ r s, Q r → I s → I (handle r s).2) (hPQ : ∀ r, P r → Q r) {st : Step Req ε}
    (hst : st.Survives P) (hq : ∀ r ∈ st.passedOver, Q r) (hs : I s) :
    ((ofStep st).run handle s).1 = .ok () ∧ I ((ofStep st).run handle s).2 := by
  cases st with
  | must r err =>
    obtain ⟨x, hx⟩ := hP r s hst hs
    have hi := hI r s (hPQ r hst) hs
    simpa only [ofStep, call, mapError, request_bind, run_request, hx, done_bind, run_done, true_and]
      using hi
  | may r fallback =>
    have hi := hI r s (hq r rfl) hs
    simp only [ofStep, call, attempt, request_bind, run_request]
    cases hx : (handle r s).1 with
    | ok x => exact ⟨rfl, hi⟩
    | error e => exact calls_run hP (fun r s hr => hI r s (hPQ r hr)) hst hi
  | stop e => exact hst.elim

/-- A script whose needed requests are answered comes to its end. -/
lemma script_run (hP : ∀ r s, P r → I s → ∃ x, (handle r s).1 = .ok x)
    (hI : ∀ r s, Q r → I s → I (handle r s).2) (hPQ : ∀ r, P r → Q r)
    (hst : ∀ st ∈ ss, st.Survives P) (hq : ∀ st ∈ ss, ∀ r ∈ st.passedOver, Q r) (hs : I s) :
    ((script ss).run handle s).1 = .ok () ∧ I ((script ss).run handle s).2 := by
  induction ss generalizing s with
  | nil => exact ⟨rfl, hs⟩
  | cons st ss ih =>
    obtain ⟨ho, hi⟩ := ofStep_run hP hI hPQ (hst st (by simp)) (hq st (by simp)) hs
    rcases hr : (ofStep st).run handle s with ⟨e | u, s'⟩
    · simp [hr] at ho
    · rw [hr] at hi
      rw [script_cons, run_bind, hr]
      exact ih (fun st' h' => hst st' (by simp [h'])) (fun st' h' => hq st' (by simp [h'])) hi

/-- It does so although a request that is passed over fails. -/
lemma script_not_succeeds (hP : ∀ r s, P r → I s → ∃ x, (handle r s).1 = .ok x)
    (hI : ∀ r s, Q r → I s → I (handle r s).2) (hPQ : ∀ r, P r → Q r)
    (hst : ∀ st ∈ ss, st.Survives P) (hq : ∀ st ∈ ss, ∀ r ∈ st.passedOver, Q r) (hs : I s)
    {st : Step Req ε} {r : Req} (hmem : st ∈ ss) (hr : st.passedOver = some r) (hc : C r)
    (hbad : ∀ s, I s → ∃ e, (handle r s).1 = .error e) : ¬ (script ss).Succeeds handle C s := by
  induction ss generalizing s with
  | nil => cases hmem
  | cons st' ss ih =>
    intro h
    rw [script_cons, succeeds_bind] at h
    obtain ⟨hfirst, hrest⟩ := h
    obtain ⟨ho, hi⟩ := ofStep_run hP hI hPQ (hst st' (by simp)) (hq st' (by simp)) hs
    rcases List.mem_cons.mp hmem with rfl | hmem
    · obtain ⟨e, he⟩ := hbad s hs
      cases st with
      | must r' err => cases hr
      | stop e' => cases hr
      | may r' fallback =>
        cases hr
        exact hfirst.1 hc e he
    · exact ih (fun st' h' => hst st' (by simp [h'])) (fun st' h' => hq st' (by simp [h'])) hi hmem
        (hrest () ho)

end Steady

section Fresh

variable {handle handle' : (r : Req) → σ → Except ε (Res r) × σ} {J : List Req → σ → Prop}
  {all past : List Req} {s : σ}

/-- Every request of `all` is answered alike when those before it, and no other, have been made. -/
structure Agrees (handle handle' : (r : Req) → σ → Except ε (Res r) × σ)
    (J : List Req → σ → Prop) (all : List Req) : Prop where
  answer : ∀ past r rest s, all = past ++ r :: rest → J past s → handle r s = handle' r s
  made : ∀ past r rest s, all = past ++ r :: rest → J past s → J (past ++ [r]) (handle r s).2
  skipped : ∀ past rs s, J past s → J (past ++ rs) s

lemma calls_agree (h : Agrees handle handle' J all) {rs rest : List Req}
    (hall : all = past ++ (rs ++ rest)) (hs : J past s) :
    (calls rs).run handle s = (calls rs).run handle' s ∧
      J (past ++ rs) ((calls rs).run handle s).2 := by
  induction rs generalizing past s with
  | nil => exact ⟨rfl, by simpa [calls] using hs⟩
  | cons r rs ih =>
    have hnext : all = past ++ r :: (rs ++ rest) := by simpa using hall
    have hanswer := h.answer past r (rs ++ rest) s hnext hs
    have hmade := h.made past r (rs ++ rest) s hnext hs
    simp only [calls, call, request_bind, run_request, ← hanswer]
    cases hr : (handle r s).1 with
    | error e =>
      refine ⟨rfl, ?_⟩
      simpa using h.skipped _ rs _ hmade
    | ok x =>
      obtain ⟨hrun, hj⟩ := ih (by simpa using hall) hmade
      exact ⟨hrun, by simpa using hj⟩

lemma ofStep_agree (h : Agrees handle handle' J all) {st : Step Req ε} {rest : List Req}
    (hall : all = past ++ (st.requests ++ rest)) (hs : J past s) :
    (ofStep st).run handle s = (ofStep st).run handle' s ∧
      J (past ++ st.requests) ((ofStep st).run handle s).2 := by
  cases st with
  | must r err =>
    have hnext : all = past ++ r :: rest := by simpa [Step.requests] using hall
    have hanswer := h.answer past r rest s hnext hs
    have hmade := h.made past r rest s hnext hs
    simp only [ofStep, call, mapError, request_bind, run_request, ← hanswer, Step.requests]
    cases (handle r s).1 <;> exact ⟨rfl, hmade⟩
  | may r fallback =>
    have hnext : all = past ++ r :: (fallback ++ rest) := by simpa [Step.requests] using hall
    have hanswer := h.answer past r (fallback ++ rest) s hnext hs
    have hmade := h.made past r (fallback ++ rest) s hnext hs
    simp only [ofStep, call, attempt, request_bind, run_request, ← hanswer, Step.requests]
    cases (handle r s).1 with
    | ok x =>
      have hskipped := h.skipped _ fallback _ hmade
      rw [List.append_assoc] at hskipped
      exact ⟨rfl, hskipped⟩
    | error e =>
      obtain ⟨hrun, hj⟩ := calls_agree h
        (by simpa [Step.requests] using hall) hmade
      rw [List.append_assoc] at hj
      exact ⟨hrun, hj⟩
  | stop e => exact ⟨rfl, by simpa [Step.requests, ofStep] using hs⟩

/-- The environments then run a script alike. -/
lemma script_agree (h : Agrees handle handle' J all) (hall : all = past ++ ss.flatMap Step.requests)
    (hs : J past s) : (script ss).run handle s = (script ss).run handle' s := by
  induction ss generalizing past s with
  | nil => rfl
  | cons st ss ih =>
    obtain ⟨hrun, hj⟩ := ofStep_agree h hall hs
    rw [script_cons, run_bind, run_bind, ← hrun]
    rcases hr : (ofStep st).run handle s with ⟨e | u, s'⟩
    · rfl
    · rw [hr] at hj
      exact ih (by simpa using hall) hj

end Fresh

end Program

end Foundations
