import Mathlib.Data.List.TakeWhile
import Preludedb.Classic.Get

/-! Numbers and dates that were printed are scanned back: the digits up to the next character give
the number, and the separators of a date end each of its numbers. -/

namespace Preludedb.Classic

open Foundations Sql Idmef

section Numbers

variable {digits rest : List Char} {n : ℕ}

/-- The decimal digits of a number, leading zeros included. -/
structure Digits (digits : List Char) (n : ℕ) : Prop where
  nonempty : digits ≠ []
  all : ∀ c ∈ digits, c.isDigit
  value : Nat.ofDigitChars 10 digits 0 = n

/-- A number ends before the text. -/
def Ends (rest : List Char) : Prop := ∀ c ∈ rest.head?, c.isDigit = false

lemma ends_nil : Ends [] := fun _ h => by cases h

lemma ends_cons {c : Char} (h : c.isDigit = false) : Ends (c :: rest) := fun c' hc => by
  obtain rfl := Option.some.inj hc
  exact h

lemma toDigits_digits (n : ℕ) : Digits (Nat.toDigits 10 n) n where
  nonempty := Nat.toDigits_ne_nil
  all _ hc := Nat.isDigit_of_mem_toDigits (by decide) le_rfl hc
  value := Nat.ofDigitChars_ten_toDigits

lemma Digits.zero (h : Digits digits n) : Digits ('0' :: digits) n where
  nonempty := List.cons_ne_nil _ _
  all c hc := by
    rcases List.mem_cons.mp hc with rfl | hc
    · rfl
    · exact h.all c hc
  value := by
    rw [Nat.ofDigitChars_cons]
    exact h.value

lemma Digits.scan (h : Digits digits n) (hrest : Ends rest) :
    scanNatural (digits ++ rest) = some (n, rest) := by
  have hend : rest.takeWhile Char.isDigit = [] ∧ rest.dropWhile Char.isDigit = rest := by
    cases rest with
    | nil => exact ⟨rfl, rfl⟩
    | cons c rest =>
      have hc : c.isDigit = false := hrest c rfl
      rw [List.takeWhile_cons, List.dropWhile_cons, hc]
      exact ⟨rfl, rfl⟩
  have htake : (digits ++ rest).takeWhile Char.isDigit = digits := by
    rw [List.takeWhile_append_of_pos h.all, hend.1, List.append_nil]
  have hdrop : (digits ++ rest).dropWhile Char.isDigit = rest := by
    rw [List.dropWhile_append_of_pos h.all, hend.2]
  rw [scanNatural, htake, hdrop]
  cases digits with
  | nil => exact absurd rfl h.nonempty
  | cons c digits =>
    simp only
    rw [← Nat.ofDigitChars_eq_foldl, h.value]

lemma digit_bounds {c : Char} (h : c.isDigit) : 48 ≤ c.toNat ∧ c.toNat ≤ 57 := by
  simpa [Char.isDigit, UInt32.le_iff_toNat_le] using h

lemma digit_not_space {c : Char} (h : c.isDigit) : c.isWhitespace = false := by
  have hc := digit_bounds h
  have hne : ∀ c' : Char, c'.toNat < 48 → c ≠ c' := fun c' hlt he => by
    rw [he] at hc
    omega
  simp [Char.isWhitespace, hne]

/-- A number is scanned from its digits on, and blanks before it are passed over. -/
lemma Digits.scanInteger (h : Digits digits n) (hrest : Ends rest) :
    Classic.scanInteger (digits ++ rest) = some ((n : Int), rest) ∧
      Classic.scanInteger (' ' :: (digits ++ rest)) = some ((n : Int), rest) := by
  have hscan := h.scan hrest
  have hblank : Classic.scanInteger (' ' :: (digits ++ rest)) = Classic.scanInteger (digits ++ rest) := rfl
  rw [hblank, and_self]
  cases digits with
  | nil => exact absurd rfl h.nonempty
  | cons c digits =>
    have hdigit := h.all c List.mem_cons_self
    have hbounds := digit_bounds hdigit
    have hstart : ((c :: digits) ++ rest).dropWhile Char.isWhitespace = (c :: digits) ++ rest := by
      rw [List.cons_append, List.dropWhile_cons, digit_not_space hdigit]
      rfl
    rw [Classic.scanInteger, hstart]
    split
    next hminus =>
      have hc : c = '-' := (List.cons.inj hminus).1
      rw [hc] at hbounds
      exact absurd hbounds.1 (by decide)
    next hplus =>
      have hc : c = '+' := (List.cons.inj hplus).1
      rw [hc] at hbounds
      exact absurd hbounds.1 (by decide)
    next => rw [hscan, Option.map_some]

lemma Digits.scanInteger_neg (h : Digits digits n) (hrest : Ends rest) :
    Classic.scanInteger ('-' :: (digits ++ rest)) = some (-(n : Int), rest) := by
  have hminus : Classic.scanInteger ('-' :: (digits ++ rest)) =
      (scanNatural (digits ++ rest)).map fun x => (-(x.1 : Int), x.2) := rfl
  rw [hminus, h.scan hrest, Option.map_some]

end Numbers

section Dates

lemma toString_digits {n : Int} (h : 0 ≤ n) : Digits (toString n).toList n.toNat := by
  obtain ⟨k, rfl⟩ := Int.eq_ofNat_of_zero_le h
  have htext : (toString (k : Int)).toList = Nat.toDigits 10 k := Nat.toList_repr
  rw [htext]
  exact toDigits_digits k

lemma twoDigits_digits {n : Int} (h : 0 ≤ n) : Digits (twoDigits n).toList n.toNat := by
  have habs : n.natAbs = n.toNat := by omega
  have htext : (toString n.toNat).toList = Nat.toDigits 10 n.toNat := Nat.toList_repr
  rw [twoDigits, if_neg (not_lt.mpr h), habs]
  by_cases hlt : n.toNat < 10
  · rw [if_pos hlt, String.toList_append, String.toList_append, htext]
    exact (toDigits_digits _).zero
  · rw [if_neg hlt, String.toList_append, String.toList_append, htext]
    exact toDigits_digits _

/-- The fields of a date are printed without a sign. -/
structure Unsigned (t : Tm) : Prop where
  year : 0 ≤ t.year + 1900
  mon : 0 ≤ t.mon + 1
  mday : 0 ≤ t.mday
  hour : 0 ≤ t.hour
  min : 0 ≤ t.min
  sec : 0 ≤ t.sec

/-- A printed date is scanned back. -/
lemma scanTimestamp_build {t : Tm} (h : Unsigned t) : scanTimestamp (buildTimestampString t) = some t := by
  have hdash : ∀ rest, Ends ('-' :: rest) := fun _ => ends_cons rfl
  have hblank : ∀ rest, Ends (' ' :: rest) := fun _ => ends_cons rfl
  have hcolon : ∀ rest, Ends (':' :: rest) := fun _ => ends_cons rfl
  have htext : (buildTimestampString t).toList = (toString (t.year + 1900)).toList ++
      '-' :: ((twoDigits (t.mon + 1)).toList ++ '-' :: ((twoDigits t.mday).toList ++
      ' ' :: ((twoDigits t.hour).toList ++ ':' :: ((twoDigits t.min).toList ++
      ':' :: ((twoDigits t.sec).toList ++ []))))) := by
    simp [buildTimestampString]
  have hscan : ∀ {digits rest : List Char} {n : Int}, Digits digits n.toNat → 0 ≤ n → Ends rest →
      scanInteger (digits ++ rest) = some (n, rest) ∧
        scanInteger (' ' :: (digits ++ rest)) = some (n, rest) := fun hd hn hr => by
    have hboth := hd.scanInteger hr
    rwa [Int.toNat_of_nonneg hn] at hboth
  rw [scanTimestamp, htext,
    (hscan (toString_digits h.year) h.year (hdash _)).1]
  simp only [Option.bind_eq_bind, Option.bind_some, scanChar, if_true,
    (hscan (twoDigits_digits h.mon) h.mon (hdash _)).1,
    (hscan (twoDigits_digits h.mday) h.mday (hblank _)).1,
    (hscan (twoDigits_digits h.hour) h.hour (hcolon _)).2,
    (hscan (twoDigits_digits h.min) h.min (hcolon _)).1,
    (hscan (twoDigits_digits h.sec) h.sec ends_nil).1]
  simp

end Dates

section Bytes

lemma toList_loop (bytes : ByteArray) (i : ℕ) (r : List UInt8) :
    ByteArray.toList.loop bytes i r = r.reverse ++ bytes.data.toList.drop i := by
  fun_induction ByteArray.toList.loop bytes i r with
  | case1 i r hi ih =>
    have hlt : i < bytes.data.toList.length := hi
    have hget : bytes.get! i = bytes.data.toList[i] := by
      simp [ByteArray.get!, getElem!_pos, hi]
    rw [ih, List.drop_eq_getElem_cons hlt, List.reverse_cons, List.append_assoc, hget]
    rfl
  | case2 i r hi =>
    have hle : bytes.data.toList.length ≤ i := not_lt.mp hi
    rw [List.drop_eq_nil_of_le hle, List.append_nil]

/-- The bytes of a text. -/
lemma text_bytes (s : String) : s.toUTF8.toList = s.toList.flatMap String.utf8EncodeChar := by
  have htext : s.toUTF8 = (s.toList.flatMap String.utf8EncodeChar).toByteArray :=
    String.utf8Encode_toList.symm
  rw [htext, ByteArray.toList, toList_loop]
  exact List.toList_data_toByteArray

/-- A text of the 7-bit code without a zero is read from its bytes. -/
lemma cString_text {s : String} (h : ∀ c ∈ s.toList, 0 < c.toNat ∧ c.toNat < 128) :
    cString s.toUTF8.toList = s.toList := by
  have hbytes : s.toUTF8.toList = s.toList.map fun c => UInt8.ofNat c.toNat := by
    rw [text_bytes, List.map_eq_flatMap]
    refine List.flatMap_congr fun c hc => ?_
    have hlt := (h c hc).2
    rw [String.utf8EncodeChar]
    exact if_pos (by simpa using Nat.le_of_lt_succ hlt)
  have hnat : ∀ c ∈ s.toList, (UInt8.ofNat c.toNat).toNat = c.toNat := fun c hc => by
    have hlt := (h c hc).2
    rw [UInt8.toNat_ofNat', Nat.mod_eq_of_lt (by omega)]
  have hall : (s.toList.map fun c => UInt8.ofNat c.toNat).takeWhile (· ≠ 0) =
      s.toList.map fun c => UInt8.ofNat c.toNat := by
    refine List.takeWhile_eq_self_iff.mpr fun b hb => ?_
    obtain ⟨c, hc, rfl⟩ := List.mem_map.mp hb
    refine decide_eq_true fun hzero => ?_
    have hpos := (h c hc).1
    rw [← hnat c hc, hzero] at hpos
    exact absurd hpos (by decide)
  rw [cString, hbytes, hall, List.map_map]
  refine (List.map_congr_left fun c hc => ?_).trans (List.map_id _)
  rw [Function.comp_apply, hnat c hc, Char.ofNat_toNat]
  rfl

lemma digits_ascii {digits : List Char} {n : ℕ} (h : Digits digits n) :
    ∀ c ∈ digits, 0 < c.toNat ∧ c.toNat < 128 := fun c hc => by
  have hbounds := digit_bounds (h.all c hc)
  omega

/-- A decimal text is scanned back to its number. -/
lemma scanNumber_text (n : Int) : scanNumber (toString n).toUTF8.toList = .ok (some n) := by
  obtain ⟨digits, k, hdigits, htext, hscan⟩ : ∃ digits k, Digits digits k ∧
      ((toString n).toList = digits ∨ (toString n).toList = '-' :: digits) ∧
      scanInteger (toString n).toList = some (n, []) := by
    cases n with
    | ofNat k =>
      have hdigits := toDigits_digits k
      have htext : (toString (Int.ofNat k)).toList = Nat.toDigits 10 k := Nat.toList_repr
      have hscan := (hdigits.scanInteger ends_nil).1
      rw [List.append_nil] at hscan
      exact ⟨_, k, hdigits, .inl htext, htext ▸ hscan⟩
    | negSucc k =>
      have hdigits := toDigits_digits (k + 1)
      have htext : (toString (Int.negSucc k)).toList = '-' :: Nat.toDigits 10 (k + 1) := by
        rw [← Nat.toList_repr]
        exact String.toList_append
      have hscan := hdigits.scanInteger_neg ends_nil
      rw [List.append_nil] at hscan
      exact ⟨_, k + 1, hdigits, .inr htext, htext ▸ hscan⟩
  have hascii : ∀ c ∈ (toString n).toList, 0 < c.toNat ∧ c.toNat < 128 := by
    intro c hc
    rcases htext with htext | htext
    · exact digits_ascii hdigits c (htext ▸ hc)
    · rw [htext] at hc
      rcases List.mem_cons.mp hc with rfl | hc
      · decide
      · exact digits_ascii hdigits c hc
  have hblank : (toString n).toList.all Char.isWhitespace = false := by
    obtain ⟨c, hc⟩ := List.exists_mem_of_ne_nil _ hdigits.nonempty
    refine List.all_eq_false.mpr ⟨c, ?_, ?_⟩
    · rcases htext with htext | htext
      · exact htext ▸ hc
      · exact htext ▸ List.mem_cons_of_mem _ hc
    · rw [digit_not_space (hdigits.all c hc)]
      exact Bool.false_ne_true
  rw [scanNumber, cString_text hascii, hblank, hscan]
  rfl

end Bytes

end Preludedb.Classic
