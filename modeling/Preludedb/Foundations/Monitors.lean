import Preludedb.Foundations.Programs

/-! A monitor follows the requests of a run and spares some of them. A heedful program ends at once
with an error when a request that is not spared is answered by one. -/

namespace Foundations

structure Monitor (Req φ : Type) where
  next : φ → Req → φ
  Spares : φ → Req → Prop

namespace Program

variable {Req ε σ φ α β : Type} {Res : Req → Type} {M : Monitor Req φ}
  {handle : (r : Req) → σ → Except ε (Res r) × σ}

/-- `post` holds of the state of the monitor at the end. -/
def Heeds (M : Monitor Req φ) (post : φ → Prop) : φ → Program Req ε Res α → Prop
  | c, .done _ => post c
  | _, .fail _ => True
  | c, .request r k => (¬ M.Spares c r → ∀ e, ∃ e', k (.error e) = .fail e') ∧
      ∀ x, (k x).Heeds M post (M.next c r)

/-- The requests that are spared succeed. -/
def SparedSucceed (M : Monitor Req φ) (handle : (r : Req) → σ → Except ε (Res r) × σ) :
    φ → Program Req ε Res α → σ → Prop
  | _, .done _, _ => True
  | _, .fail _, _ => True
  | c, .request r k, s => (M.Spares c r → ∀ e, (handle r s).1 ≠ .error e) ∧
      (k (handle r s).1).SparedSucceed M handle (M.next c r) (handle r s).2

variable {post post' : φ → Prop} {c : φ} {p : Program Req ε Res α} {f : α → Program Req ε Res β}

lemma Heeds.bind (hp : p.Heeds M post c) (hf : ∀ a c, post c → (f a).Heeds M post' c) :
    (p >>= f).Heeds M post' c := by
  induction p generalizing c with
  | done a => exact hf a c hp
  | fail e => trivial
  | request r k ih =>
    refine ⟨fun hr e => ?_, fun x => ih x (hp.2 x)⟩
    obtain ⟨e', he⟩ := hp.1 hr e
    exact ⟨e', congrArg (fun p => Program.bind p f) he⟩

lemma Heeds.mono (hp : p.Heeds M post c) (h : ∀ c, post c → post' c) : p.Heeds M post' c := by
  induction p generalizing c with
  | done a => exact h c hp
  | fail e => trivial
  | request r k ih => exact ⟨hp.1, fun x => ih x (hp.2 x)⟩

/-- A program that stops at every error heeds them all. -/
lemma FailStop.heeds (hp : p.FailStop fun _ => True) (c : φ) : p.Heeds M (fun _ => True) c := by
  induction p generalizing c with
  | done a | fail e => trivial
  | request r k ih => exact ⟨fun _ => hp.1 trivial, fun x => ih x (hp.2 x) _⟩

lemma FailStop.heeds_same {Q : Req → Prop} (hp : p.FailStop fun _ => True) (hq : p.Requests Q)
    (h : ∀ r, Q r → M.next c r = c) : p.Heeds M (· = c) c := by
  induction p with
  | done a => rfl
  | fail e => trivial
  | request r k ih =>
    refine ⟨fun _ => hp.1 trivial, fun x => ?_⟩
    rw [h r hq.1]
    exact ih x (hp.2 x) (hq.2 x)

/-- A run without an error in which the spared requests succeed is one in which all of them do. -/
lemma Heeds.succeeds {s : σ} {a : α} (hp : p.Heeds M post c) (ha : (p.run handle s).1 = .ok a)
    (hs : p.SparedSucceed M handle c s) : p.Succeeds handle (fun _ => True) s := by
  induction p generalizing c s with
  | done b | fail e => trivial
  | request r k ih =>
    refine ⟨fun _ e he => ?_, ih _ (hp.2 _) ha hs.2⟩
    by_cases hr : M.Spares c r
    · exact hs.1 hr e he
    · obtain ⟨e', hk⟩ := hp.1 hr e
      rw [run_request, he, hk] at ha
      cases ha

lemma Succeeds.mono {D D' : Req → Prop} {s : σ} (h : p.Succeeds handle D s) (hD : ∀ r, D' r → D r) :
    p.Succeeds handle D' s := by
  induction p generalizing s with
  | done b | fail e => trivial
  | request r k ih => exact ⟨fun hr => h.1 (hD r hr), ih _ h.2⟩

lemma Succeeds.spared {D : Req → Prop} {s : σ} (h : p.Succeeds handle D s)
    (hD : ∀ c r, M.Spares c r → D r) : p.SparedSucceed M handle c s := by
  induction p generalizing c s with
  | done b | fail e => trivial
  | request r k ih => exact ⟨fun hr => h.1 (hD c r hr), ih _ h.2⟩

lemma isOk_iff (x : Except ε α) : x.isOk = true ↔ ∀ e, x ≠ .error e := by
  cases x <;> simp [Except.isOk, Except.toBool]

instance decidableSucceeds {D : Req → Prop} [DecidablePred D] :
    ∀ (p : Program Req ε Res α) (s : σ), Decidable (p.Succeeds handle D s)
  | .done _, _ => .isTrue trivial
  | .fail _, _ => .isTrue trivial
  | .request r k, s =>
    have := decidableSucceeds (D := D) (k (handle r s).1) (handle r s).2
    decidable_of_iff ((D r → (handle r s).1.isOk = true) ∧ (k (handle r s).1).Succeeds handle D (handle r s).2)
      (and_congr_left fun _ => imp_congr_right fun _ => isOk_iff (handle r s).1)

end Program

end Foundations
