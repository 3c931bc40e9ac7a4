import Mathlib.Tactic

/-! Runs of a system that answers calls, or gives out: what holds of every answered call of a run. -/

namespace Foundations.Answers

variable {σ ℓ α : Type} (step : σ → ℓ → Option (α × σ))

/-- The property holds of every call of a run with what was answered before, the states around the
call and its answer. -/
def Each (P : List α → σ → ℓ → α → σ → Prop) : List α → σ → List ℓ → Prop
  | _, _, [] => True
  | past, s, l :: ls =>
    ∀ a s', step s l = some (a, s') → P past s l a s' ∧ Each P (past ++ [a]) s' ls

/-- Every call of the run is answered. -/
def Defined : σ → List ℓ → Prop
  | _, [] => True
  | s, l :: ls => ∃ a s', step s l = some (a, s') ∧ Defined s' ls

/-- The state behind the calls. -/
def after : σ → List ℓ → Option σ
  | s, [] => some s
  | s, l :: ls => (step s l).bind fun x => after x.2 ls

/-- What the calls of a run return, up to one that gives out. -/
def replies : σ → List ℓ → List (Option α)
  | _, [] => []
  | s, l :: ls =>
    match step s l with
    | none => [none]
    | some (a, s') => some a :: replies s' ls

variable {step} {I : List α → σ → Prop} {P Q : List α → σ → ℓ → α → σ → Prop} {past : List α} {s : σ}

lemma each_of_invariant (hstep : ∀ past s l a s', I past s → step s l = some (a, s') →
    P past s l a s' ∧ I (past ++ [a]) s') (ls : List ℓ) (hs : I past s) : Each step P past s ls := by
  induction ls generalizing past s with
  | nil => trivial
  | cons l ls ih =>
    intro a s' h
    obtain ⟨hP, hI⟩ := hstep past s l a s' hs h
    exact ⟨hP, ih hI⟩

/-- Two properties that are the same of a call wherever the invariant holds are the same of a run. -/
lemma each_congr (hstep : ∀ past s l a s', I past s → step s l = some (a, s') → I (past ++ [a]) s')
    (hPQ : ∀ past s l a s', I past s → step s l = some (a, s') → (P past s l a s' ↔ Q past s l a s'))
    (ls : List ℓ) (hs : I past s) : Each step P past s ls ↔ Each step Q past s ls := by
  induction ls generalizing past s with
  | nil => exact Iff.rfl
  | cons l ls ih =>
    refine forall₃_congr fun a s' h => ?_
    rw [hPQ past s l a s' hs h, ih (hstep past s l a s' hs h)]

lemma defined_of_invariant {J : σ → Prop} (hstep : ∀ s l, J s → ∃ a s', step s l = some (a, s') ∧ J s')
    (ls : List ℓ) (hs : J s) : Defined step s ls := by
  induction ls generalizing s with
  | nil => trivial
  | cons l ls ih =>
    obtain ⟨a, s', h, hJ⟩ := hstep s l hs
    exact ⟨a, s', h, ih hJ⟩

lemma after_of_invariant {J : σ → Prop} (hstep : ∀ s l a s', J s → step s l = some (a, s') → J s') {ls : List ℓ}
    {s' : σ} (hs : J s) (h : after step s ls = some s') : J s' := by
  induction ls generalizing s with
  | nil =>
    cases h
    exact hs
  | cons l ls ih =>
    obtain ⟨⟨a, u⟩, hl, hrest⟩ := Option.bind_eq_some_iff.mp h
    exact ih (hstep s l a u hs hl) hrest

lemma replies_nil : replies step s [] = [] := rfl

lemma replies_cons {l : ℓ} {a : α} {s' : σ} (h : step s l = some (a, s')) (ls : List ℓ) :
    replies step s (l :: ls) = some a :: replies step s' ls := by
  rw [replies, h]

/-- What a part of the state that no call looks at is. -/
lemma replies_frame {f : σ → σ} (hf : ∀ s l, step (f s) l = (step s l).map (Prod.map id f)) (ls : List ℓ) :
    replies step (f s) ls = replies step s ls := by
  induction ls generalizing s with
  | nil => rfl
  | cons l ls ih =>
    rw [replies, replies, hf]
    rcases step s l with _ | ⟨a, s'⟩
    · rfl
    · exact congrArg _ ih

end Foundations.Answers
