import Mathlib.Tactic

/-! Loops over memory, turn by turn: a turn goes on, ends the loop, or touches what is outside of the
memory. -/

namespace Foundations

/-- A loop that is still running, has gone outside of the memory, or has ended. -/
inductive Looping (α : Type)
  | running
  | outside
  | ended (a : α)

namespace Looping

variable {σ α β : Type}

def bind : Looping α → (α → Looping β) → Looping β
  | running, _ => running
  | outside, _ => outside
  | ended a, f => f a

def map (f : α → β) (x : Looping α) : Looping β := x.bind fun a => ended (f a)

/-- What is not there is outside. -/
def ofOption : Option α → Looping α
  | none => outside
  | some a => ended a

/-- At most `fuel` turns. -/
def loop (turn : σ → Option (σ ⊕ α)) : ℕ → σ → Looping α
  | 0, _ => running
  | fuel + 1, s =>
    match turn s with
    | none => outside
    | some (.inl s') => loop turn fuel s'
    | some (.inr a) => ended a

@[simp] lemma ended_bind (a : α) (f : α → Looping β) : (ended a).bind f = f a := rfl
@[simp] lemma outside_bind (f : α → Looping β) : (outside : Looping α).bind f = outside := rfl
@[simp] lemma running_bind (f : α → Looping β) : (running : Looping α).bind f = running := rfl
@[simp] lemma ofOption_none : ofOption (none : Option α) = outside := rfl
@[simp] lemma ofOption_some (a : α) : ofOption (some a) = ended a := rfl

lemma map_eq_ended {f : α → β} {x : Looping α} {b : β} : x.map f = ended b ↔ ∃ a, x = ended a ∧ f a = b := by
  cases x <;> simp [map]

variable {turn : σ → Option (σ ⊕ α)} {s s' : σ} {a : α}

lemma loop_next (h : turn s = some (.inl s')) (fuel : ℕ) : loop turn (fuel + 1) s = loop turn fuel s' := by
  rw [loop, h]

lemma loop_end (h : turn s = some (.inr a)) (fuel : ℕ) : loop turn (fuel + 1) s = ended a := by
  rw [loop, h]

lemma loop_outside (h : turn s = none) (fuel : ℕ) : loop turn (fuel + 1) s = outside := by
  rw [loop, h]

end Looping

end Foundations
