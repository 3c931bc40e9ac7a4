import Mathlib.Data.UInt
import Mathlib.Data.List.DropRight
import Preludedb.Foundations.Buffers
import Preludedb.Foundations.Loops
import Preludedb.Sql.Error

/-! The error messages of the client library of PostgreSQL, and the loop that takes the newlines off
their end. A `size_t` has `w` bits, and below zero it wraps around. -/

namespace Preludedb.Sql

open Foundations Foundations.Buffers

/-- `'\n'` and `' '`. -/
def isTrimmed (c : UInt8) : Bool := c == 10 || c == 32

def sizePred (w len : ℕ) : ℕ := (len + 2 ^ w - 1) % 2 ^ w

/-- A turn of the loop: a character at the end of the text is overwritten. -/
def trimTurn (w : ℕ) (s : Buffer UInt8 × ℕ) : Option ((Buffer UInt8 × ℕ) ⊕ Buffer UInt8) :=
  (s.1[s.2]?).join.map fun c =>
    if isTrimmed c then .inl (s.1.set s.2 (some 0), sizePred w s.2) else .inr s.1

def trimLoop (w fuel : ℕ) (tmp : Buffer UInt8) (len : ℕ) : Looping (Buffer UInt8) :=
  Looping.loop (trimTurn w) fuel (tmp, len)

def messageText (bytes : List UInt8) : String := String.ofList (bytes.map fun b => Char.ofNat b.toNat)

/-- `bad` is the status of the connection, and `error` its message, if it has one. -/
def handleError (w fuel : ℕ) (code : ErrorCode) (bad : Bool) (error : Option (List UInt8)) : Looping SqlError :=
  let code := if bad then .connection else code
  match error with
  | none => .ended (preludedbError code)
  | some error =>
    (trimLoop w fuel ((error ++ [0]).map some) (sizePred w error.length)).map fun tmp =>
      preludedbErrorVerbose code (((cString tmp).map messageText).getD "")

section Turns

variable {w : ℕ} {text : List UInt8} {k : ℕ}

/-- The text with the zeros that were put in the place of what followed it. -/
def zeroed (text : List UInt8) (k : ℕ) : Buffer UInt8 := (text ++ List.replicate (k + 1) 0).map some

lemma sizePred_zero (w : ℕ) : sizePred w 0 = 2 ^ w - 1 := by
  have hpos := Nat.two_pow_pos w
  rw [sizePred, Nat.mod_eq_of_lt] <;> omega

lemma sizePred_succ {n : ℕ} (h : n + 1 < 2 ^ w) : sizePred w (n + 1) = n := by
  have hsub : n + 1 + 2 ^ w - 1 = n + 2 ^ w := by omega
  rw [sizePred, hsub, Nat.add_mod_right, Nat.mod_eq_of_lt (by omega)]

lemma cString_zeroed (h : 0 ∉ text) : cString (zeroed text k) = some text := by
  rw [zeroed, List.replicate_succ, List.map_append, List.map_cons]
  exact cString_append _ h

/-- The index is before the text, at the end of the address space. -/
lemma trimLoop_nil (hsize : k + 1 < 2 ^ w) (fuel : ℕ) :
    trimLoop w (fuel + 1) (zeroed [] k) (sizePred w 0) = .outside := by
  have hbeyond : (zeroed [] k)[sizePred w 0]? = none := by
    rw [List.getElem?_eq_none_iff, sizePred_zero]
    simp only [zeroed, List.nil_append, List.length_map, List.length_replicate]
    omega
  exact Looping.loop_outside (by rw [trimTurn, hbeyond]; rfl) fuel

lemma trimLoop_concat {c : UInt8} (hsize : text.length + 1 + k + 1 < 2 ^ w) (fuel : ℕ) :
    trimLoop w (fuel + 1) (zeroed (text ++ [c]) k) (sizePred w (text ++ [c]).length) =
      if isTrimmed c then trimLoop w fuel (zeroed text (k + 1)) (sizePred w text.length)
      else .ended (zeroed (text ++ [c]) k) := by
  have hindex : sizePred w (text ++ [c]).length = text.length := by
    rw [List.length_append, List.length_singleton, sizePred_succ (by omega)]
  have hread : (zeroed (text ++ [c]) k)[text.length]? = some (some c) := by
    simp [zeroed]
  have hset : (zeroed (text ++ [c]) k).set text.length (some 0) = zeroed text (k + 1) := by
    simp [zeroed, List.replicate_succ]
  rw [trimLoop, hindex]
  split_ifs with hc
  · exact Looping.loop_next (by rw [trimTurn, hread, hset]; simp [hc]) fuel
  · exact Looping.loop_end (by rw [trimTurn, hread]; simp [hc]) fuel

/-- Each turn takes off the last character, which is looked at before the zeros after it. -/
lemma trimLoop_ended (h : 0 ∉ text) (hsize : text.length + k + 1 < 2 ^ w) {fuel : ℕ} {tmp : Buffer UInt8}
    (hend : trimLoop w fuel (zeroed text k) (sizePred w text.length) = .ended tmp) :
    (∃ c ∈ text, isTrimmed c = false) ∧ cString tmp = some (text.rdropWhile isTrimmed) := by
  induction text using List.reverseRecOn generalizing k fuel with
  | nil =>
    cases fuel with
    | zero => cases hend
    | succ fuel =>
      rw [List.length_nil, trimLoop_nil (by simpa using hsize)] at hend
      cases hend
  | append_singleton text c ih =>
    rw [List.length_append, List.length_singleton] at hsize
    cases fuel with
    | zero => cases hend
    | succ fuel =>
      rw [trimLoop_concat hsize] at hend
      split_ifs at hend with hc
      · have hrest : 0 ∉ text := fun hmem => h (List.mem_append_left _ hmem)
        obtain ⟨⟨c', hmem, hc'⟩, htext⟩ := ih hrest (by omega) hend
        exact ⟨⟨c', List.mem_append_left _ hmem, hc'⟩, by rw [List.rdropWhile_concat_pos _ _ _ hc, htext]⟩
      · cases hend
        exact ⟨⟨c, by simp, by simpa using hc⟩, by rw [cString_zeroed h, List.rdropWhile_concat_neg _ _ _ hc]⟩

lemma trimLoop_ends (hsize : text.length + k + 1 < 2 ^ w) (hother : ∃ c ∈ text, isTrimmed c = false) :
    ∃ fuel tmp, trimLoop w fuel (zeroed text k) (sizePred w text.length) = .ended tmp := by
  induction text using List.reverseRecOn generalizing k with
  | nil => simp at hother
  | append_singleton text c ih =>
    rw [List.length_append, List.length_singleton] at hsize
    by_cases hc : isTrimmed c = true
    · obtain ⟨c', hmem, hc'⟩ := hother
      have hrest : c' ∈ text := by
        rcases List.mem_append.mp hmem with hmem | hmem
        · exact hmem
        · rw [List.mem_singleton.mp hmem, hc] at hc'
          cases hc'
      obtain ⟨fuel, tmp, hend⟩ := ih (k := k + 1) (by omega) ⟨c', hrest, hc'⟩
      exact ⟨fuel + 1, tmp, by rw [trimLoop_concat hsize, if_pos hc, hend]⟩
    · exact ⟨1, _, by rw [trimLoop_concat hsize, if_neg hc]⟩

end Turns

/-- The message of an error is trimmed when there is a character to stop at. -/
theorem handleError_trims_iff (w : ℕ) (code : ErrorCode) (bad : Bool) (error : List UInt8) (h : 0 ∉ error)
    (hsize : error.length + 1 < 2 ^ w) :
    (∃ fuel, handleError w fuel code bad (some error) =
        .ended (preludedbErrorVerbose (if bad then .connection else code) (messageText (error.rdropWhile isTrimmed)))) ↔
      ∃ c ∈ error, isTrimmed c = false := by
  have hcells : (error ++ [0]).map some = zeroed error 0 := rfl
  simp only [handleError, hcells, Looping.map_eq_ended]
  constructor
  · rintro ⟨fuel, tmp, hend, -⟩
    exact (trimLoop_ended h hsize hend).1
  · intro hother
    obtain ⟨fuel, tmp, hend⟩ := trimLoop_ends (k := 0) hsize hother
    refine ⟨fuel, tmp, hend, ?_⟩
    rw [(trimLoop_ended h hsize hend).2]
    rfl

theorem handleError_trims_newline : (∃ fuel, handleError 64 fuel .query false (some [110, 111, 10]) =
      .ended (preludedbErrorVerbose .query (messageText ([110, 111, 10].rdropWhile isTrimmed)))) ↔
    ∃ c ∈ [110, 111, 10], isTrimmed c = false :=
  handleError_trims_iff 64 .query false [110, 111, 10] (by decide) (by decide)

/-- The message is empty, and the byte before it is read. -/
theorem handleError_reads_before : handleError 64 1 .query false (some []) = .outside := by
  have hread := trimLoop_nil (w := 64) (k := 0) (by norm_num) 0
  have hcells : ([] ++ [0] : List UInt8).map some = zeroed [] 0 := rfl
  simp only [handleError, hcells]
  exact congrArg (Looping.map _) hread

end Preludedb.Sql
