import Mathlib.Tactic

/-! Programs that issue requests to an environment, may be answered by an error, and may end in
one. A handler interprets the requests; a script is a straight-line program. -/

namespace Foundations

inductive Program (Req ε : Type) (Res : Req → Type) (α : Type) : Type
  | done (a : α)
  | fail (e : ε)
  | request (r : Req) (k : Except ε (Res r) → Program Req ε Res α)

namespace Program

variable {Req ε : Type} {Res : Req → Type} {α β γ : Type}

def bind : Program Req ε Res α → (α → Program Req ε Res β) → Program Req ε Res β
  | .done a, f => f a
  | .fail e, _ => .fail e
  | .request r k, f => .request r (fun x => (k x).bind f)

instance : Monad (Program Req ε Res) where
  pure := .done
  bind := bind

@[simp] lemma pure_eq (a : α) : (pure a : Program Req ε Res α) = .done a := rfl
@[simp] lemma done_bind (a : α) (f : α → Program Req ε Res β) : (.done a >>= f) = f a := rfl
@[simp] lemma fail_bind (e : ε) (f : α → Program Req ε Res β) : (.fail e >>= f) = .fail e := rfl
@[simp] lemma request_bind (r : Req) (k : Except ε (Res r) → Program Req ε Res α)
    (f : α → Program Req ε Res β) : (.request r k >>= f) = .request r (fun x => k x >>= f) := rfl

lemma bind_done (p : Program Req ε Res α) : (p >>= .done) = p := by
  induction p with
  | done a | fail e => rfl
  | request r k ih => exact congrArg (Program.request r) (funext ih)

lemma bind_assoc' (p : Program Req ε Res α) (f : α → Program Req ε Res β)
    (g : β → Program Req ε Res γ) : (p >>= f) >>= g = p >>= fun a => f a >>= g := by
  induction p with
  | done a | fail e => rfl
  | request r k ih => exact congrArg (Program.request r) (funext ih)

instance : LawfulMonad (Program Req ε Res) :=
  LawfulMonad.mk' (Program Req ε Res) bind_done (fun _ _ => rfl) bind_assoc'

def call (r : Req) : Program Req ε Res (Res r) :=
  .request r (fun
    | .ok a => .done a
    | .error e => .fail e)

def ofExcept : Except ε α → Program Req ε Res α
  | .ok a => .done a
  | .error e => .fail e

def attempt : Program Req ε Res α → Program Req ε Res (Except ε α)
  | .done a => .done (.ok a)
  | .fail e => .done (.error e)
  | .request r k => .request r (fun x => (k x).attempt)

def mapError (f : ε → ε) : Program Req ε Res α → Program Req ε Res α
  | .done a => .done a
  | .fail e => .fail (f e)
  | .request r k => .request r (fun x => (k x).mapError f)

variable {σ τ : Type}

def run (handle : (r : Req) → σ → Except ε (Res r) × σ) : Program Req ε Res α → σ → Except ε α × σ
  | .done a, s => (.ok a, s)
  | .fail e, s => (.error e, s)
  | .request r k, s => (k (handle r s).1).run handle (handle r s).2

@[simp] lemma run_done (handle : (r : Req) → σ → Except ε (Res r) × σ) (a : α) (s : σ) :
    (.done a : Program Req ε Res α).run handle s = (.ok a, s) := rfl
@[simp] lemma run_fail (handle : (r : Req) → σ → Except ε (Res r) × σ) (e : ε) (s : σ) :
    (.fail e : Program Req ε Res α).run handle s = (.error e, s) := rfl
@[simp] lemma run_request (handle : (r : Req) → σ → Except ε (Res r) × σ) (r : Req)
    (k : Except ε (Res r) → Program Req ε Res α) (s : σ) :
    (Program.request r k).run handle s = (k (handle r s).1).run handle (handle r s).2 := rfl

lemma run_call (handle : (r : Req) → σ → Except ε (Res r) × σ) (r : Req) (s : σ) :
    (call r).run handle s = handle r s := by
  rcases h : handle r s with ⟨e | a, s'⟩ <;> simp [call, h]

lemma run_bind (handle : (r : Req) → σ → Except ε (Res r) × σ) (p : Program Req ε Res α)
    (f : α → Program Req ε Res β) (s : σ) :
    (p >>= f).run handle s = match p.run handle s with
      | (.ok a, s) => (f a).run handle s
      | (.error e, s) => (.error e, s) := by
  induction p generalizing s with
  | done a | fail e => rfl
  | request r k ih => exact ih _ _

lemma run_bind_ok {handle : (r : Req) → σ → Except ε (Res r) × σ} {p : Program Req ε Res α}
    {f : α → Program Req ε Res β} {s : σ} {b : β} :
    ((p >>= f).run handle s).1 = .ok b ↔
      ∃ a, (p.run handle s).1 = .ok a ∧ ((f a).run handle (p.run handle s).2).1 = .ok b := by
  rw [run_bind]
  rcases p.run handle s with ⟨e | a, s'⟩ <;> simp

lemma run_bind_error {handle : (r : Req) → σ → Except ε (Res r) × σ} {p : Program Req ε Res α}
    {f : α → Program Req ε Res β} {s s' : σ} {e : ε} (h : p.run handle s = (.error e, s')) :
    (p >>= f).run handle s = (.error e, s') := by
  rw [run_bind, h]

lemma run_attempt (handle : (r : Req) → σ → Except ε (Res r) × σ) (p : Program Req ε Res α) (s : σ) :
    p.attempt.run handle s = (.ok (p.run handle s).1, (p.run handle s).2) := by
  induction p generalizing s with
  | done a | fail e => rfl
  | request r k ih => exact ih _ _

lemma run_try (handle : (r : Req) → σ → Except ε (Res r) × σ) (r : Req)
    (f : Except ε (Res r) → Program Req ε Res β) (s : σ) :
    ((call r).attempt >>= f).run handle s = (f (handle r s).1).run handle (handle r s).2 := by
  rw [run_bind, run_attempt, run_call]

def Requests (Q : Req → Prop) : Program Req ε Res α → Prop
  | .done _ => True
  | .fail _ => True
  | .request r k => Q r ∧ ∀ x, (k x).Requests Q

lemma Requests.bind {Q : Req → Prop} {p : Program Req ε Res α} {f : α → Program Req ε Res β}
    (hp : p.Requests Q) (hf : ∀ a, (f a).Requests Q) : (p >>= f).Requests Q := by
  induction p with
  | done a => exact hf a
  | fail e => trivial
  | request r k ih => exact ⟨hp.1, fun x => ih x (hp.2 x)⟩

lemma Requests.call {Q : Req → Prop} {r : Req} (h : Q r) :
    (Program.call r : Program Req ε Res (Res r)).Requests Q :=
  ⟨h, fun x => by cases x <;> trivial⟩

lemma Requests.ofExcept {Q : Req → Prop} (x : Except ε α) :
    (Program.ofExcept x : Program Req ε Res α).Requests Q := by
  cases x <;> trivial

lemma Requests.attempt {Q : Req → Prop} {p : Program Req ε Res α} (hp : p.Requests Q) :
    p.attempt.Requests Q := by
  induction p with
  | done a | fail e => trivial
  | request r k ih => exact ⟨hp.1, fun x => ih x (hp.2 x)⟩

lemma Requests.mono {Q Q' : Req → Prop} (hQ : ∀ r, Q r → Q' r) {p : Program Req ε Res α}
    (hp : p.Requests Q) : p.Requests Q' := by
  induction p with
  | done a | fail e => trivial
  | request r k ih => exact ⟨hQ r hp.1, fun x => ih x (hp.2 x)⟩

lemma Requests.run_preserves (handle : (r : Req) → σ → Except ε (Res r) × σ) {Q : Req → Prop}
    {I : σ → Prop} (hI : ∀ r s, Q r → I s → I (handle r s).2) {p : Program Req ε Res α}
    (hp : p.Requests Q) {s : σ} (hs : I s) : I (p.run handle s).2 := by
  induction p generalizing s with
  | done a | fail e => exact hs
  | request r k ih => exact ih _ (hp.2 _) (hI r s hp.1 hs)

lemma Requests.run_related (handle : (r : Req) → σ → Except ε (Res r) × σ)
    (handle' : (r : Req) → τ → Except ε (Res r) × τ) {Q : Req → Prop} {R : σ → τ → Prop}
    (hR : ∀ r s t, Q r → R s t → (handle r s).1 = (handle' r t).1 ∧ R (handle r s).2 (handle' r t).2)
    {p : Program Req ε Res α} (hp : p.Requests Q) {s : σ} {t : τ} (hst : R s t) :
    (p.run handle s).1 = (p.run handle' t).1 ∧ R (p.run handle s).2 (p.run handle' t).2 := by
  induction p generalizing s t with
  | done a | fail e => exact ⟨rfl, hst⟩
  | request r k ih =>
    obtain ⟨he, hr⟩ := hR r s t hp.1 hst
    simp only [run_request, he]
    exact ih _ (hp.2 _) hr

/-- An error that answers a request in `C` ends the program with an error at once. -/
def FailStop (C : Req → Prop) : Program Req ε Res α → Prop
  | .done _ => True
  | .fail _ => True
  | .request r k => (C r → ∀ e, ∃ e', k (.error e) = .fail e') ∧ ∀ x, (k x).FailStop C

lemma FailStop.bind {C : Req → Prop} {p : Program Req ε Res α} {f : α → Program Req ε Res β}
    (hp : p.FailStop C) (hf : ∀ a, (f a).FailStop C) : (p >>= f).FailStop C := by
  induction p with
  | done a => exact hf a
  | fail e => trivial
  | request r k ih =>
    refine ⟨fun hr e => ?_, fun x => ih x (hp.2 x)⟩
    obtain ⟨e', he⟩ := hp.1 hr e
    exact ⟨e', congrArg (fun p => Program.bind p f) he⟩

lemma FailStop.call (C : Req → Prop) (r : Req) :
    (Program.call r : Program Req ε Res (Res r)).FailStop C :=
  ⟨fun _ e => ⟨e, rfl⟩, fun x => by cases x <;> trivial⟩

/-- `I` holds while no request in `C` has failed; `J` is what such a failure leaves. -/
lemma FailStop.run_cases (handle : (r : Req) → σ → Except ε (Res r) × σ) {C Q : Req → Prop}
    {I J : σ → Prop} (hIJ : ∀ s, I s → J s)
    (hI : ∀ r s, Q r → I s → (∀ e, C r → (handle r s).1 ≠ .error e) → I (handle r s).2)
    (hJ : ∀ r s e, Q r → I s → (handle r s).1 = .error e → J (handle r s).2)
    {p : Program Req ε Res α} (hp : p.FailStop C) (hq : p.Requests Q) {s : σ} (hs : I s) :
    (∀ a, (p.run handle s).1 = .ok a → I (p.run handle s).2) ∧ J (p.run handle s).2 := by
  induction p generalizing s with
  | done a => exact ⟨fun _ _ => hs, hIJ s hs⟩
  | fail e => exact ⟨fun _ h => (by cases h), hIJ s hs⟩
  | request r k ih =>
    by_cases hc : ∀ e, C r → (handle r s).1 ≠ .error e
    · exact ih _ (hp.2 _) (hq.2 _) (hI r s hq.1 hs hc)
    · push Not at hc
      obtain ⟨e, hr, he⟩ := hc
      obtain ⟨e', hk⟩ := hp.1 hr e
      simp only [run_request, he, hk, run_fail]
      exact ⟨fun _ h => (by cases h), hJ r s e hq.1 hs he⟩

/-- No request in `C` is answered by an error. -/
def Succeeds (handle : (r : Req) → σ → Except ε (Res r) × σ) (C : Req → Prop) :
    Program Req ε Res α → σ → Prop
  | .done _, _ => True
  | .fail _, _ => True
  | .request r k, s => (C r → ∀ e, (handle r s).1 ≠ .error e) ∧
      (k (handle r s).1).Succeeds handle C (handle r s).2

variable {handle : (r : Req) → σ → Except ε (Res r) × σ} {C : Req → Prop}

lemma succeeds_bind {p : Program Req ε Res α} {f : α → Program Req ε Res β} {s : σ} :
    (p >>= f).Succeeds handle C s ↔ p.Succeeds handle C s ∧
      ∀ a, (p.run handle s).1 = .ok a → (f a).Succeeds handle C (p.run handle s).2 := by
  induction p generalizing s with
  | done a => simp [Succeeds]
  | fail e => simp [Succeeds]
  | request r k ih => simp only [request_bind, Succeeds, ih, and_assoc, run_request]

lemma succeeds_call {r : Req} {s : σ} :
    (call r : Program Req ε Res (Res r)).Succeeds handle C s ↔
      (C r → ∀ e, (handle r s).1 ≠ .error e) := by
  refine and_iff_left ?_
  cases (handle r s).1 <;> trivial

lemma succeeds_attempt {p : Program Req ε Res α} {s : σ} :
    p.attempt.Succeeds handle C s ↔ p.Succeeds handle C s := by
  induction p generalizing s with
  | done a | fail e => rfl
  | request r k ih => exact and_congr_right fun _ => ih _

lemma Requests.succeeds {Q : Req → Prop} {I : σ → Prop}
    (hQ : ∀ r s, Q r → I s → ∃ x, (handle r s).1 = .ok x)
    (hI : ∀ r s, Q r → I s → I (handle r s).2) {p : Program Req ε Res α} (hq : p.Requests Q) {s : σ}
    (hs : I s) : p.Succeeds handle C s := by
  induction p generalizing s with
  | done a | fail e => trivial
  | request r k ih =>
    refine ⟨fun _ e he => ?_, ih _ (hq.2 _) (hI r s hq.1 hs)⟩
    obtain ⟨x, hx⟩ := hQ r s hq.1 hs
    cases hx.symm.trans he

/-- No failure is lost when the requests outside `C` cannot fail. -/
lemma FailStop.succeeds_all {D Q : Req → Prop} {p : Program Req ε Res α} (hp : p.FailStop C)
    (hq : p.Requests Q) (h : ∀ r s, Q r → D r → ¬ C r → ∀ e, (handle r s).1 ≠ .error e) {s : σ} {a : α}
    (ha : (p.run handle s).1 = .ok a) : p.Succeeds handle D s := by
  induction p generalizing s with
  | done a | fail e => trivial
  | request r k ih =>
    refine ⟨fun hr e he => ?_, ih _ (hp.2 _) (hq.2 _) ha⟩
    by_cases hc : C r
    · obtain ⟨e', hk⟩ := hp.1 hc e
      simp [he, hk] at ha
    · exact h r s hq.1 hr hc e he

/-- A run in which no request fails is a run in any environment that gives the same answers. -/
lemma Requests.run_answered (serve : (r : Req) → τ → Except ε (Res r) × τ) {Q : Req → Prop}
    {R : σ → τ → Prop}
    (hR : ∀ r s t, Q r → R s t → (∀ e, (handle r s).1 ≠ .error e) →
      (handle r s).1 = (serve r t).1 ∧ R (handle r s).2 (serve r t).2)
    {p : Program Req ε Res α} (hq : p.Requests Q) {s : σ} {t : τ} (hst : R s t)
    (hs : p.Succeeds handle (fun _ => True) s) :
    (p.run handle s).1 = (p.run serve t).1 ∧ R (p.run handle s).2 (p.run serve t).2 := by
  induction p generalizing s t with
  | done a | fail e => exact ⟨rfl, hst⟩
  | request r k ih =>
    obtain ⟨he, hr⟩ := hR r s t hq.1 hst (hs.1 trivial)
    have hrest := hs.2
    simp only [run_request]
    rw [he] at hrest ⊢
    exact ih _ (hq.2 _) hr hrest

lemma FailStop.mono {C' : Req → Prop} (hC : ∀ r, C' r → C r) {p : Program Req ε Res α}
    (hp : p.FailStop C) : p.FailStop C' := by
  induction p with
  | done a | fail e => trivial
  | request r k ih => exact ⟨fun hr => hp.1 (hC r hr), fun x => ih x (hp.2 x)⟩

lemma mapError_bind (g : ε → ε) (p : Program Req ε Res α) (f : α → Program Req ε Res β) :
    (p >>= f).mapError g = p.mapError g >>= fun a => (f a).mapError g := by
  induction p with
  | done a | fail e => rfl
  | request r k ih => exact congrArg (Program.request r) (funext ih)

end Program

end Foundations
