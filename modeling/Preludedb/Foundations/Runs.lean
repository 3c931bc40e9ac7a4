import Mathlib.Tactic

/-! Runs of a deterministic labelled system, and properties of every state along a run. -/

namespace Foundations.Runs

variable {σ ℓ : Type} (step : σ → ℓ → σ)

def Throughout (P : σ → Prop) : σ → List ℓ → Prop
  | s, [] => P s
  | s, l :: ls => P s ∧ Throughout P (step s l) ls

def Guarded (G : σ → ℓ → Prop) : σ → List ℓ → Prop
  | _, [] => True
  | s, l :: ls => G s l ∧ Guarded G (step s l) ls

instance decidableGuarded {G : σ → ℓ → Prop} [D : ∀ s l, Decidable (G s l)] :
    ∀ s ls, Decidable (Guarded step G s ls)
  | _, [] => .isTrue trivial
  | s, l :: ls => @instDecidableAnd _ _ (D s l) (decidableGuarded (step s l) ls)

variable {step} {P : σ → Prop} {G : σ → ℓ → Prop}

lemma Throughout.head {s : σ} {ls : List ℓ} (h : Throughout step P s ls) : P s := by
  cases ls with
  | nil => exact h
  | cons l ls => exact h.1

lemma Throughout.mono {Q : σ → Prop} (hPQ : ∀ s, P s → Q s) {s : σ} {ls : List ℓ}
    (h : Throughout step P s ls) : Throughout step Q s ls := by
  induction ls generalizing s with
  | nil => exact hPQ s h
  | cons l ls ih => exact ⟨hPQ s h.1, ih h.2⟩

lemma throughout_of_guarded (hstep : ∀ s l, P s → G s l → P (step s l)) {s : σ} {ls : List ℓ}
    (hs : P s) (hg : Guarded step G s ls) : Throughout step P s ls := by
  induction ls generalizing s with
  | nil => exact hs
  | cons l ls ih => exact ⟨hs, ih (hstep s l hs hg.1) hg.2⟩

lemma guarded_of_throughout (hbreak : ∀ s l, P s → P (step s l) → G s l) {s : σ} {ls : List ℓ}
    (h : Throughout step P s ls) : Guarded step G s ls := by
  induction ls generalizing s with
  | nil => trivial
  | cons l ls ih => exact ⟨hbreak s l h.1 h.2.head, ih h.2⟩

/-- A guard that is exactly what one step needs is exactly what a run needs. -/
lemma throughout_iff_guarded (hstep : ∀ s l, P s → (P (step s l) ↔ G s l)) {s : σ} {ls : List ℓ}
    (hs : P s) : Throughout step P s ls ↔ Guarded step G s ls :=
  ⟨guarded_of_throughout (fun s l h => (hstep s l h).mp),
    throughout_of_guarded (fun s l h => (hstep s l h).mpr) hs⟩

/-- The same for the runs along a condition on the calls, with an invariant that holds beside the
property. -/
lemma throughout_iff_guarded_along {M : σ → ℓ → Prop} {I : σ → Prop}
    (hstep : ∀ s l, I s → M s l → (P (step s l) ↔ G s l) ∧ (P (step s l) → I (step s l)))
    {s : σ} {ls : List ℓ} (hs : P s) (hi : I s) (hm : Guarded step M s ls) :
    Throughout step P s ls ↔ Guarded step G s ls := by
  induction ls generalizing s with
  | nil => exact iff_of_true hs trivial
  | cons l ls ih =>
    obtain ⟨hPG, hkeep⟩ := hstep s l hi hm.1
    constructor
    · intro h
      have hnext := h.2.head
      exact ⟨hPG.mp hnext, (ih hnext (hkeep hnext) hm.2).mp h.2⟩
    · intro h
      have hnext := hPG.mpr h.1
      exact ⟨hs, (ih hnext (hkeep hnext) hm.2).mpr h.2⟩

lemma throughout_of_invariant (hstep : ∀ s l, P s → P (step s l)) {s : σ} (ls : List ℓ) (hs : P s) :
    Throughout step P s ls := by
  induction ls generalizing s with
  | nil => exact hs
  | cons l ls ih => exact ⟨hs, ih (hstep s l hs)⟩

lemma Throughout.and {Q : σ → Prop} {s : σ} {ls : List ℓ} (hP : Throughout step P s ls)
    (hQ : Throughout step Q s ls) : Throughout step (fun s => P s ∧ Q s) s ls := by
  induction ls generalizing s with
  | nil => exact ⟨hP, hQ⟩
  | cons l ls ih => exact ⟨⟨hP.1, hQ.1⟩, ih hP.2 hQ.2⟩

lemma Throughout.foldl {s : σ} {ls : List ℓ} (h : Throughout step P s ls) : P (ls.foldl step s) := by
  induction ls generalizing s with
  | nil => exact h
  | cons l ls ih => exact ih h.2

end Foundations.Runs
