import Mathlib.Data.UInt
import Preludedb.Foundations.Buffers
import Preludedb.Sql.Binary

/-! The escape and the unescape of binary values for a plugin that has none of its own: the memory
they allocate, and the writes that fill it. A `size_t` has `w` bits. -/

namespace Preludedb.Sql

open Foundations.Buffers

/-- The loop of `bin2hex`. A byte is read at `in_`, and its digits are written at `out`. -/
def bin2hexLoop (input : List UInt8) : ℕ → ℕ → Buffer UInt8 → ℕ → Option (Buffer UInt8)
  | 0, _, output, _ => some output
  | inlen + 1, in_, output, out => do
    let byte ← input[in_]?
    let output ← put output out (hex.getD (byte >>> 4).toNat 0)
    let output ← put output (out + 1) (hex.getD (byte &&& 0x0f).toNat 0)
    bin2hexLoop input inlen (in_ + 1) output (out + 2)

/-- A write outside of the memory, or a read past the input, has no result. -/
def escapeBinary (w : ℕ) (input : List UInt8) (inputSize : ℕ) : Option (Except SqlError (Buffer UInt8)) :=
  let outsize := (inputSize * 2 + 4) % 2 ^ w
  if outsize ≤ inputSize then some (.error (preludedbError .generic))
  else do
    let output ← put (allocate UInt8 outsize) 0 88
    let output ← put output 1 39
    let output ← bin2hexLoop input inputSize 0 output 2
    let output ← put output (outsize - 2) 39
    let output ← put output (outsize - 1) 0
    pure (.ok output)

/-- `memcpy` of the whole input, and the size. -/
def unescapeBinary (input : List UInt8) (inputSize : ℕ) : Option (Buffer UInt8 × ℕ) :=
  if input.length < inputSize then none
  else (puts (allocate UInt8 inputSize) 0 (input.take inputSize)).map (·, inputSize)

lemma bin2hex_length (bytes : List UInt8) : (bin2hex bytes).length = 2 * bytes.length := by
  induction bytes with
  | nil => rfl
  | cons b bytes ih =>
    simp only [bin2hex, List.length_cons, ih]
    omega

lemma hex_getD_mem {n : ℕ} (hn : n < 16) : hex.getD n 0 ∈ hex := by
  interval_cases n <;> decide

lemma mem_bin2hex {digit : UInt8} {bytes : List UInt8} (h : digit ∈ bin2hex bytes) : digit ∈ hex := by
  induction bytes with
  | nil => simp [bin2hex] at h
  | cons b bytes ih =>
    have hb := b.toNat_lt
    have hhigh : (b >>> 4).toNat < 16 := by
      simp [UInt8.toNat_shiftRight, Nat.shiftRight_eq_div_pow]
      omega
    have hlow : (b &&& 0x0f).toNat < 16 := by
      rw [UInt8.toNat_and]
      exact Nat.and_lt_two_pow _ (by decide : (0x0f : UInt8).toNat < 2 ^ 4)
    rw [bin2hex, List.mem_cons, List.mem_cons] at h
    obtain rfl | rfl | h := h
    · exact hex_getD_mem hhigh
    · exact hex_getD_mem hlow
    · exact ih h

/-- Each round appends the two digits of the next byte to what was written. -/
lemma bin2hexLoop_filled {input : List UInt8} (size inlen in_ : ℕ) (before : List UInt8)
    (hread : in_ + inlen ≤ input.length) (hroom : before.length + 2 * inlen ≤ size) :
    bin2hexLoop input inlen in_ (filled size before) before.length =
      some (filled size (before ++ bin2hex ((input.drop in_).take inlen))) := by
  induction inlen generalizing in_ before with
  | zero => simp [bin2hexLoop, bin2hex]
  | succ inlen ih =>
    obtain ⟨b, hb⟩ : ∃ b, input[in_]? = some b :=
      ⟨_, List.getElem?_eq_getElem (show in_ < input.length by omega)⟩
    have hdrop : (input.drop in_).take (inlen + 1) = b :: (input.drop (in_ + 1)).take inlen := by
      rw [List.getElem?_eq_some_iff] at hb
      obtain ⟨hlt, rfl⟩ := hb
      rw [List.drop_eq_getElem_cons hlt, List.take_succ_cons]
    have hfirst := put_filled before (hex.getD (b >>> 4).toNat 0) (show before.length < size by omega)
    have hsecond : put (filled size (before ++ [hex.getD (b >>> 4).toNat 0])) _ (hex.getD (b &&& 0x0f).toNat 0) = _ :=
      put_filled (before ++ [hex.getD (b >>> 4).toNat 0]) _ (by simp; omega)
    have hrest := ih (in_ + 1) (before ++ [hex.getD (b >>> 4).toNat 0] ++ [hex.getD (b &&& 0x0f).toNat 0])
      (by omega) (by simp; omega)
    simp only [List.length_append, List.length_singleton] at hsecond hrest
    simp only [bin2hexLoop, hb, hfirst, Option.bind_eq_bind, Option.bind_some]
    rw [hsecond, Option.bind_some, hrest, hdrop, bin2hex, List.append_assoc, List.append_assoc]
    rfl

/-- The bytes of the literal, its end included. -/
def blobText (bytes : List UInt8) : List UInt8 := 88 :: quoted (bin2hex bytes) ++ [0]

lemma blobText_length (bytes : List UInt8) : (blobText bytes).length = bytes.length * 2 + 4 := by
  simp [blobText, quoted, bin2hex_length]
  omega

/-- The literal fills the memory it is written to. -/
lemma escapeBinary_eq {w : ℕ} {input : List UInt8} {inputSize : ℕ} (hsize : inputSize ≤ input.length)
    (hw : inputSize * 2 + 4 < 2 ^ w) :
    escapeBinary w input inputSize = some (.ok ((blobText (input.take inputSize)).map some)) := by
  have htake : (input.take inputSize).length = inputSize := by simp [hsize]
  have hfirst : put (filled (inputSize * 2 + 4) []) 0 (88 : UInt8) = _ := put_filled [] 88 (by simp)
  have hsecond : put (filled (inputSize * 2 + 4) [88]) 1 (39 : UInt8) = _ := put_filled [88] 39 (by simp)
  have hloop := bin2hexLoop_filled (inputSize * 2 + 4) inputSize 0 [88, 39]
    (show 0 + inputSize ≤ input.length by omega) (by simp; omega)
  rw [List.drop_zero] at hloop
  have hend : put (filled (inputSize * 2 + 4) ([88, 39] ++ bin2hex (input.take inputSize))) _ (39 : UInt8) = _ :=
    put_filled ([88, 39] ++ bin2hex (input.take inputSize)) 39 (by simp [bin2hex_length, htake]; omega)
  have hzero : put (filled (inputSize * 2 + 4) ([88, 39] ++ bin2hex (input.take inputSize) ++ [39])) _ (0 : UInt8) = _ :=
    put_filled ([88, 39] ++ bin2hex (input.take inputSize) ++ [39]) 0 (by simp [bin2hex_length, htake]; omega)
  have htwo : ([88, 39] ++ bin2hex (input.take inputSize)).length = inputSize * 2 + 4 - 2 := by
    simp [bin2hex_length, htake]
    omega
  have hthree : ([88, 39] ++ bin2hex (input.take inputSize) ++ [39]).length = inputSize * 2 + 4 - 1 := by
    simp [bin2hex_length, htake]
    omega
  have hall : [88, 39] ++ bin2hex (input.take inputSize) ++ [39] ++ [0] = blobText (input.take inputSize) := by
    simp [blobText, quoted]
  have hfull := filled_full (blobText (input.take inputSize))
  rw [blobText_length, htake] at hfull
  rw [htwo] at hend
  rw [hthree, hall, hfull] at hzero
  rw [List.nil_append] at hfirst
  rw [List.singleton_append] at hsecond
  simp only [List.length_cons, List.length_nil, Nat.zero_add, Nat.reduceAdd] at hloop
  rw [escapeBinary, Nat.mod_eq_of_lt hw]
  rw [if_neg (by omega), ← filled_nil, hfirst]
  simp only [Option.bind_eq_bind, Option.bind_some]
  rw [hsecond, Option.bind_some, hloop, Option.bind_some, hend, Option.bind_some, hzero]
  rfl

lemma zero_notMem_blob (bytes : List UInt8) : 0 ∉ 88 :: quoted (bin2hex bytes) := by
  intro h
  have hdigit : (0 : UInt8) ∈ bin2hex bytes := by simpa [quoted] using h
  exact absurd (mem_bin2hex hdigit) (by decide)

/-- The text written is the one that the literal was modelled by. -/
lemma cString_escapeBinary {w : ℕ} {c : Client} {input : List UInt8} (hw : input.length * 2 + 4 < 2 ^ w) :
    (escapeBinary w input input.length).map (fun x => x.toOption.bind cString) =
      some (some (pluginEscapeBinary c .sqlite3 input)) := by
  have htext := cString_append [] (zero_notMem_blob input)
  rw [escapeBinary_eq (Nat.le_refl _) hw, List.take_length, blobText, List.map_append]
  exact congrArg some htext

lemma unescapeBinary_eq (stored : List UInt8) :
    unescapeBinary stored stored.length = some (stored.map some, stored.length) := by
  have hfill := puts_filled [] stored (show [].length + stored.length ≤ stored.length by simp)
  rw [List.nil_append, filled_full, List.length_nil] at hfill
  rw [unescapeBinary, if_neg (by omega), List.take_length, ← filled_nil, hfill, Option.map_some]

/-- The escape fills exactly what it allocates with `X`, a quote, two digits for each byte, a quote
and the end of the text. The literal is the one that stands for the bytes, and the bytes that are
stored for it are copied with their size. -/
theorem escapeBinary_roundtrip (w : ℕ) (input : List UInt8) (hw : 2 * input.length + 4 < 2 ^ w) :
    ∃ digits : List UInt8, digits.length = 2 * input.length ∧ (∀ digit ∈ digits, digit ∈ hex) ∧
      escapeBinary w input input.length =
        some (.ok ((88 :: 39 :: digits ++ [39, 0]).map some)) ∧
      (88 :: 39 :: digits ++ [39, 0]).length = 2 * input.length + 4 ∧
      blobLiteral (88 :: 39 :: digits ++ [39]) = some input ∧
      unescapeBinary input input.length = some (input.map some, input.length) := by
  have hescape := escapeBinary_eq (Nat.le_refl input.length) (show input.length * 2 + 4 < 2 ^ w by omega)
  rw [List.take_length] at hescape
  refine ⟨bin2hex input, bin2hex_length input, fun digit => mem_bin2hex, ?_, ?_, hexBytes_bin2hex input,
    unescapeBinary_eq input⟩
  · rw [hescape]
    simp [blobText, quoted]
  · simp [bin2hex_length]

theorem escapeBinary_roundtrip_bytes : 2 * [0, 39, 255].length + 4 < 2 ^ 64 ∧
    ∃ digits : List UInt8, digits.length = 2 * [0, 39, 255].length ∧ (∀ digit ∈ digits, digit ∈ hex) ∧
      escapeBinary 64 [0, 39, 255] [0, 39, 255].length =
        some (.ok ((88 :: 39 :: digits ++ [39, 0]).map some)) ∧
      (88 :: 39 :: digits ++ [39, 0]).length = 2 * [0, 39, 255].length + 4 ∧
      blobLiteral (88 :: 39 :: digits ++ [39]) = some [0, 39, 255] ∧
      unescapeBinary [0, 39, 255] [0, 39, 255].length = some ([0, 39, 255].map some, [0, 39, 255].length) :=
  ⟨by decide, escapeBinary_roundtrip 64 [0, 39, 255] (by decide)⟩

end Preludedb.Sql
