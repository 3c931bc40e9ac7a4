import Mathlib.Data.List.Basic
import Mathlib.Tactic.Common

/-! Memory of a fixed size, written one cell at a time: a write outside of it has no result, and
neither has the reading of a text that runs into a cell never written or past the last one. -/

namespace Foundations.Buffers

variable {α : Type*}

/-- The cells of a block of memory; `none` is a cell that was never written. -/
abbrev Buffer (α : Type*) := List (Option α)

def allocate (α : Type*) (size : ℕ) : Buffer α := List.replicate size none

def put (cells : Buffer α) (i : ℕ) (x : α) : Option (Buffer α) :=
  if i < cells.length then some (cells.set i (some x)) else none

/-- Consecutive writes from a position on. -/
def puts (cells : Buffer α) (i : ℕ) : List α → Option (Buffer α)
  | [] => some cells
  | x :: xs => (put cells i x).bind fun cells => puts cells (i + 1) xs

/-- The first cells hold the values, and the others are as allocated. -/
def filled (size : ℕ) (xs : List α) : Buffer α := xs.map some ++ allocate α (size - xs.length)

/-- The text that ends before the first zero. -/
def cString [Zero α] [DecidableEq α] : Buffer α → Option (List α)
  | some x :: cells => if x = 0 then some [] else (cString cells).map (x :: ·)
  | _ => none

lemma filled_nil (size : ℕ) : filled size ([] : List α) = allocate α size := rfl

lemma filled_length {size : ℕ} {xs : List α} (h : xs.length ≤ size) :
    (filled size xs).length = size := by
  simp [filled, allocate]
  omega

lemma filled_full (xs : List α) : filled xs.length xs = xs.map some := by
  simp [filled, allocate]

/-- The next cell is written. -/
lemma put_filled {size : ℕ} (xs : List α) (x : α) (h : xs.length < size) :
    put (filled size xs) xs.length x = some (filled size (xs ++ [x])) := by
  have hrest : size - xs.length = (size - (xs.length + 1)) + 1 := by omega
  rw [put, if_pos (by rw [filled_length (Nat.le_of_lt h)]; exact h), filled, List.set_append_right _ _ (by simp),
    List.length_map, Nat.sub_self, hrest, allocate, List.replicate_succ, List.set_cons_zero]
  simp [filled, allocate]

/-- The last cell written is written again. -/
lemma put_last {size : ℕ} (xs : List α) (y x : α) (h : xs.length < size) :
    put (filled size (xs ++ [y])) xs.length x = some (filled size (xs ++ [x])) := by
  rw [put, if_pos (by rw [filled_length (by simp; omega)]; exact h), filled,
    List.set_append_left _ _ (by simp), List.map_append, List.set_append_right _ _ (by simp)]
  simp [filled]

lemma puts_filled {size : ℕ} (xs ys : List α) (h : xs.length + ys.length ≤ size) :
    puts (filled size xs) xs.length ys = some (filled size (xs ++ ys)) := by
  induction ys generalizing xs with
  | nil => simp [puts]
  | cons y ys ih =>
    rw [List.length_cons] at h
    have hnext := ih (xs ++ [y]) (by simp; omega)
    rw [List.length_append, List.length_singleton, List.append_assoc, List.singleton_append] at hnext
    rw [puts, put_filled xs y (by omega), Option.bind_some, hnext]

/-- A write that has a result was inside of the memory. -/
lemma put_inside {cells written : Buffer α} {i : ℕ} {x : α} (h : put cells i x = some written) :
    i < cells.length ∧ written.length = cells.length := by
  rw [put] at h
  split_ifs at h with hi
  cases h
  exact ⟨hi, List.length_set⟩

lemma puts_length {cells written : Buffer α} {i : ℕ} (ys : List α) (h : puts cells i ys = some written) :
    written.length = cells.length := by
  induction ys generalizing cells i with
  | nil =>
    cases h
    rfl
  | cons y ys ih =>
    obtain ⟨next, hnext, hrest⟩ := Option.bind_eq_some_iff.mp h
    exact (ih hrest).trans (put_inside hnext).2

section Text

variable [Zero α] [DecidableEq α]

/-- A text without zeros is read up to the zero after it. -/
lemma cString_append (cells : Buffer α) {text : List α} (h : 0 ∉ text) :
    cString (text.map some ++ some 0 :: cells) = some text := by
  induction text with
  | nil => simp [cString]
  | cons x text ih =>
    have hx : x ≠ 0 := fun hx => h (by simp [hx])
    rw [List.map_cons, List.cons_append, cString, if_neg hx, ih (fun hm => h (by simp [hm])), Option.map_some]

lemma cString_filled {size : ℕ} {text : List α} (h : 0 ∉ text) :
    cString (filled size (text ++ [0])) = some text := by
  rw [filled, List.map_append, List.append_assoc]
  exact cString_append _ h

/-- The text of values that were all written is what stands before the first zero. -/
lemma cString_map (xs : List α) :
    cString (xs.map some) = if 0 ∈ xs then some (xs.takeWhile (· ≠ 0)) else none := by
  induction xs with
  | nil => simp [cString]
  | cons x xs ih =>
    rw [List.map_cons, cString, ih]
    by_cases hx : x = 0
    · simp [hx]
    · have hne : (0 : α) ≠ x := fun h => hx h.symm
      by_cases hm : 0 ∈ xs
      · simp [hx, hm]
      · simp [hx, hne, hm]

end Text

section Cleared

variable [Zero α]

/-- Memory that was allocated with zeros in it, and whose first cells hold the values. -/
def cleared (size : ℕ) (xs : List α) : Buffer α := (xs ++ List.replicate (size - xs.length) 0).map some

lemma put_cleared {size : ℕ} {xs : List α} (x : α) (h : xs.length < size) :
    put (cleared size xs) xs.length x = some (cleared size (xs ++ [x])) := by
  have hrest : size - xs.length = (size - (xs.length + 1)) + 1 := by omega
  rw [put, if_pos (by simp [cleared]; omega), cleared, List.map_append, List.set_append_right _ _ (by simp),
    List.length_map, Nat.sub_self, hrest, List.replicate_succ, List.map_cons, List.set_cons_zero]
  simp [cleared]

/-- A zero is left behind the values. -/
lemma cString_cleared [DecidableEq α] {size : ℕ} {xs : List α} (h : 0 ∉ xs) (hlt : xs.length < size) :
    cString (cleared size xs) = some xs := by
  have hrest : size - xs.length = (size - (xs.length + 1)) + 1 := by omega
  rw [cleared, List.map_append, hrest, List.replicate_succ, List.map_cons]
  exact cString_append _ h

end Cleared

end Foundations.Buffers
