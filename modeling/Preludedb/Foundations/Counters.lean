import Mathlib.Tactic

/-! A counter that goes up by one at each turn and is set back to zero by some of them. -/

namespace Foundations.Counters

/-- The values before the turns; `true` is a turn that sets the counter back. -/
def countsFrom (d : ℕ) : List Bool → List ℕ
  | [] => []
  | reset :: resets => d :: countsFrom (if reset then 0 else d + 1) resets

/-- Among any `n` turns in a row that another turn follows, one sets the counter back, when `d` turns
that do not went before. -/
def ResetWithin (n d : ℕ) (resets : List Bool) : Prop :=
  ∀ i, i + n < d + resets.length → ∃ j, i ≤ j ∧ j < i + n ∧ d ≤ j ∧ resets[j - d]? = some true

variable {n d : ℕ} {resets : List Bool}

/-- The turns before a turn that sets back are at most as many as the counter may hold. -/
lemma resetWithin_true : ResetWithin n d (true :: resets) ↔ d < n ∧ ResetWithin n 0 resets := by
  constructor
  · intro h
    refine ⟨?_, fun i hi => ?_⟩
    · by_contra hd
      obtain ⟨j, -, hjn, hdj, -⟩ := h 0 (by rw [List.length_cons]; omega)
      omega
    · obtain ⟨j, hij, hjn, hdj, hj⟩ := h (i + d + 1) (by rw [List.length_cons]; omega)
      have hindex : j - d = (j - d - 1) + 1 := by omega
      rw [hindex, List.getElem?_cons_succ] at hj
      exact ⟨j - d - 1, by omega, by omega, Nat.zero_le _, hj⟩
  · rintro ⟨hd, h⟩ i hi
    rw [List.length_cons] at hi
    by_cases hid : i ≤ d
    · refine ⟨d, hid, by omega, le_rfl, ?_⟩
      rw [Nat.sub_self]
      rfl
    · obtain ⟨j, hij, hjn, -, hj⟩ := h (i - d - 1) (by omega)
      have hindex : j + d + 1 - d = j - 0 + 1 := by omega
      exact ⟨j + d + 1, by omega, by omega, by omega, by rw [hindex, List.getElem?_cons_succ, hj]⟩

lemma resetWithin_false : ResetWithin n d (false :: resets) ↔ d < n ∧ ResetWithin n (d + 1) resets := by
  constructor
  · intro h
    refine ⟨?_, fun i hi => ?_⟩
    · by_contra hd
      obtain ⟨j, -, hjn, hdj, -⟩ := h 0 (by rw [List.length_cons]; omega)
      omega
    · obtain ⟨j, hij, hjn, hdj, hj⟩ := h i (by rw [List.length_cons]; omega)
      have hne : j ≠ d := by
        rintro rfl
        rw [Nat.sub_self] at hj
        cases hj
      have hindex : j - d = (j - (d + 1)) + 1 := by omega
      rw [hindex, List.getElem?_cons_succ] at hj
      exact ⟨j, hij, hjn, by omega, hj⟩
  · rintro ⟨-, h⟩ i hi
    rw [List.length_cons] at hi
    obtain ⟨j, hij, hjn, hdj, hj⟩ := h i (by omega)
    have hindex : j - d = (j - (d + 1)) + 1 := by omega
    exact ⟨j, hij, hjn, by omega, by rw [hindex, List.getElem?_cons_succ, hj]⟩

/-- The counter stays below a bound when it is set back in time. -/
lemma countsFrom_lt_iff (hd : d ≤ n) : (∀ i ∈ countsFrom d resets, i < n) ↔ ResetWithin n d resets := by
  induction resets generalizing d with
  | nil => exact iff_of_true (by simp [countsFrom]) fun i hi => by simp at hi; omega
  | cons reset resets ih =>
    rw [countsFrom, List.forall_mem_cons]
    cases reset with
    | true => rw [if_pos rfl, ih (Nat.zero_le n), resetWithin_true]
    | false =>
      rw [if_neg Bool.false_ne_true, resetWithin_false]
      exact and_congr_right fun hlt => ih hlt

end Foundations.Counters
