import Preludedb.Classic.Scanning
import Preludedb.Sql.Settings

/-! The texts that are converted to integers: what the conversions of the C library read, and which
texts a field of each integer type takes. A text stands for the characters before its end. -/

namespace Preludedb.Sql

open Foundations Classic Idmef

section Library

-- the sign, the digits, and what follows them
def numeral : List Char → Option (Bool × ℕ × List Char)
  | '-' :: s => (scanNatural s).map fun x => (true, x.1, x.2)
  | '+' :: s => (scanNatural s).map fun x => (false, x.1, x.2)
  | s => (scanNatural s).map fun x => (false, x.1, x.2)

def signed (negative : Bool) (n : ℕ) : Int := if negative then -n else n

/-- The value of a text that is a sign, if any, and digits. -/
def decimalValue (s : List Char) : Option Int :=
  match numeral s with
  | some (negative, n, []) => some (signed negative n)
  | _ => none

structure Conversion where
  value : Int
  rest : List Char
  erange : Bool
  deriving DecidableEq, Repr

/-- `strtol` and `strtoll` for base 10 and a type of `w` bits. -/
def strtoSigned (w : ℕ) (s : List Char) : Conversion :=
  match numeral (skipSpaces s) with
  | none => ⟨0, s, false⟩
  | some (negative, n, rest) =>
    if signed negative n < -2 ^ (w - 1) then ⟨-2 ^ (w - 1), rest, true⟩
    else if 2 ^ (w - 1) ≤ signed negative n then ⟨2 ^ (w - 1) - 1, rest, true⟩
    else ⟨signed negative n, rest, false⟩

/-- `strtoul` and `strtoull`, which negate in the unsigned type. -/
def strtoUnsigned (w : ℕ) (s : List Char) : Conversion :=
  match numeral (skipSpaces s) with
  | none => ⟨0, s, false⟩
  | some (negative, n, rest) =>
    if 2 ^ w ≤ n then ⟨2 ^ w - 1, rest, true⟩ else ⟨signed negative n % 2 ^ w, rest, false⟩

inductive LongSize
  | ilp32
  | lp64
  deriving DecidableEq, Repr

def LongSize.bits : LongSize → ℕ
  | .ilp32 => 32
  | .lp64 => 64

end Library

inductive IntegerType
  | int8
  | uint8
  | int16
  | uint16
  | int32
  | uint32
  | int64
  | uint64
  deriving DecidableEq, Repr

namespace IntegerType

def min : IntegerType → Int
  | int8 => -0x80
  | int16 => -0x8000
  | int32 => -0x80000000
  | int64 => -0x8000000000000000
  | uint8 | uint16 | uint32 | uint64 => 0

def max : IntegerType → Int
  | int8 => 0x7f
  | uint8 => 0xff
  | int16 => 0x7fff
  | uint16 => 0xffff
  | int32 => 0x7fffffff
  | uint32 => 0xffffffff
  | int64 => 0x7fffffffffffffff
  | uint64 => 0xffffffffffffffff

-- the width of the type the conversion returns
def bits (long : LongSize) : IntegerType → ℕ
  | int64 | uint64 => 64
  | _ => long.bits

def func (long : LongSize) (type : IntegerType) : List Char → Conversion :=
  match type with
  | int8 | int16 | int32 | int64 => strtoSigned (type.bits long)
  | uint8 | uint16 | uint32 | uint64 => strtoUnsigned (type.bits long)

end IntegerType

/-- `preludedb_sql_field_to_int8` and its siblings. -/
def sqlFieldTo (long : LongSize) (type : IntegerType) (text : List Char) : Except SqlError Int :=
  if 0 ≤ type.min ∧ text.head? = some '-' then .error (preludedbError .invalidValue)
  else
    let tmp := type.func long text
    if tmp.value < type.min ∨ type.max < tmp.value ∨ tmp.rest ≠ [] ∨ tmp.erange = true then
      .error (preludedbError .invalidValue)
    else .ok tmp.value

section Values

variable {long : LongSize} {type : IntegerType} {text s : List Char} {v x : Int} {w : ℕ}

/-- What a numeral of the value is taken for: negative ones wrap in an unsigned type. -/
def IntegerType.stored (long : LongSize) (type : IntegerType) (x : Int) : Option Int :=
  if type.min < 0 then some x
  else if x.natAbs < 2 ^ type.bits long then some (x % 2 ^ type.bits long) else none

def IntegerType.Holds (type : IntegerType) (v : Int) : Prop := type.min ≤ v ∧ v ≤ type.max

lemma numeral_nil : numeral [] = none := rfl

lemma IntegerType.holds_zero (type : IntegerType) : type.Holds 0 := by
  cases type <;> exact ⟨by decide, by decide⟩

lemma Conversion.accepted_iff {c : Conversion} :
    (if c.value < type.min ∨ type.max < c.value ∨ c.rest ≠ [] ∨ c.erange = true then
      (.error (preludedbError .invalidValue) : Except SqlError Int) else .ok c.value) = .ok v ↔
      c.rest = [] ∧ c.erange = false ∧ c.value = v ∧ type.Holds v := by
  split
  case isTrue h =>
    refine iff_of_false (by simp) ?_
    rintro ⟨hrest, herange, hv, hmin, hmax⟩
    rcases h with h | h | h | h
    · omega
    · omega
    · exact h hrest
    · rw [herange] at h
      cases h
  case isFalse h =>
    push Not at h
    rw [Except.ok.injEq]
    constructor
    · intro hv
      refine ⟨h.2.2.1, by simpa using h.2.2.2, hv, ?_⟩
      rw [IntegerType.Holds]
      omega
    · exact fun hv => hv.2.2.1

lemma decimalValue_of_numeral {negative : Bool} {n : ℕ} {rest : List Char}
    (h : numeral s = some (negative, n, rest)) :
    decimalValue s = if rest = [] then some (signed negative n) else none := by
  rw [decimalValue, h]
  cases rest <;> rfl

lemma decimalValue_of_none (h : numeral s = none) : decimalValue s = none := by
  rw [decimalValue, h]

lemma ne_nil_of_numeral {x : Bool × ℕ × List Char} (h : numeral (skipSpaces s) = some x) : s ≠ [] := by
  rintro rfl
  cases h

def Conversion.Accepted (c : Conversion) (type : IntegerType) (v : Int) : Prop :=
  c.rest = [] ∧ c.erange = false ∧ c.value = v ∧ type.Holds v

lemma strtoSigned_accepted (hlow : -2 ^ (w - 1) ≤ type.min) (hhigh : type.max < 2 ^ (w - 1)) :
    (strtoSigned w s).Accepted type v ↔
      s = [] ∧ v = 0 ∨ decimalValue (skipSpaces s) = some v ∧ type.Holds v := by
  rw [strtoSigned, Conversion.Accepted]
  rcases hnum : numeral (skipSpaces s) with _ | ⟨negative, n, rest⟩
  · rw [decimalValue_of_none hnum]
    constructor
    · rintro ⟨hs, -, hv, -⟩
      exact .inl ⟨hs, hv.symm⟩
    · rintro (⟨hs, rfl⟩ | ⟨h, -⟩)
      · exact ⟨hs, rfl, rfl, type.holds_zero⟩
      · cases h
  · have hs := ne_nil_of_numeral hnum
    rw [decimalValue_of_numeral hnum]
    simp only [IntegerType.Holds, hs, false_and, false_or]
    generalize signed negative n = x
    split
    · refine iff_of_false (by simp) ?_
      rintro ⟨h, hv⟩
      split at h
      · cases h
        omega
      · cases h
    · split
      · refine iff_of_false (by simp) ?_
        rintro ⟨h, hv⟩
        split at h
        · cases h
          omega
        · cases h
      · by_cases hrest : rest = [] <;> simp [hrest]

lemma signed_natAbs (negative : Bool) (n : ℕ) : (signed negative n).natAbs = n := by
  cases negative <;> simp [signed]

lemma strtoUnsigned_accepted :
    (strtoUnsigned w s).Accepted type v ↔ s = [] ∧ v = 0 ∨ ∃ x, decimalValue (skipSpaces s) = some x ∧
      (if x.natAbs < 2 ^ w then some (x % 2 ^ w) else none) = some v ∧ type.Holds v := by
  rw [strtoUnsigned, Conversion.Accepted]
  rcases hnum : numeral (skipSpaces s) with _ | ⟨negative, n, rest⟩
  · rw [decimalValue_of_none hnum]
    constructor
    · rintro ⟨hs, -, hv, -⟩
      exact .inl ⟨hs, hv.symm⟩
    · rintro (⟨hs, rfl⟩ | ⟨x, h, -⟩)
      · exact ⟨hs, rfl, rfl, type.holds_zero⟩
      · cases h
  · have hs := ne_nil_of_numeral hnum
    have hn := signed_natAbs negative n
    rw [decimalValue_of_numeral hnum]
    simp only [hs, false_and, false_or]
    split
    case isTrue hlarge =>
      refine iff_of_false (by simp) ?_
      rintro ⟨x, h, hx, -⟩
      split at h
      · cases h
        rw [hn, if_neg (not_lt.mpr hlarge)] at hx
        cases hx
      · cases h
    case isFalse hsmall =>
      by_cases hrest : rest = []
      · simp [hrest, hn, not_le.mp hsmall]
      · simp [hrest]

lemma func_accepted : (type.func long text).Accepted type v ↔ text = [] ∧ v = 0 ∨
    ∃ x, decimalValue (skipSpaces text) = some x ∧ type.stored long x = some v ∧ type.Holds v := by
  have hsigned : ∀ {type : IntegerType}, type.min < 0 → -2 ^ (type.bits long - 1) ≤ type.min →
      type.max < 2 ^ (type.bits long - 1) → ((strtoSigned (type.bits long) text).Accepted type v ↔
        text = [] ∧ v = 0 ∨ ∃ x, decimalValue (skipSpaces text) = some x ∧
          type.stored long x = some v ∧ type.Holds v) := by
    intro type hmin hlow hhigh
    rw [strtoSigned_accepted hlow hhigh]
    simp [IntegerType.stored, hmin]
  have hunsigned : ∀ {type : IntegerType}, ¬ type.min < 0 →
      ((strtoUnsigned (type.bits long) text).Accepted type v ↔
        text = [] ∧ v = 0 ∨ ∃ x, decimalValue (skipSpaces text) = some x ∧
          type.stored long x = some v ∧ type.Holds v) := by
    intro type hmin
    rw [strtoUnsigned_accepted]
    simp [IntegerType.stored, hmin]
  cases type
  case int8 | int16 | int32 | int64 =>
    apply hsigned
    · decide
    · cases long <;> decide
    · cases long <;> decide
  all_goals exact hunsigned (by decide)

lemma sqlFieldTo_ok : sqlFieldTo long type text = .ok v ↔
    ¬ (0 ≤ type.min ∧ text.head? = some '-') ∧ (text = [] ∧ v = 0 ∨ ∃ x,
      decimalValue (skipSpaces text) = some x ∧ type.stored long x = some v ∧ type.Holds v) := by
  rw [sqlFieldTo, ← func_accepted]
  split
  case isTrue h => simp [h]
  case isFalse h =>
    rw [Conversion.accepted_iff, Conversion.Accepted]
    simp [h]

end Values

section Exactness

variable {long : LongSize} {type : IntegerType} {text s : List Char} {v x : Int} {c : Char}

/-- The text is converted if and only if it denotes a value of the type, and then to this value. -/
def ConvertsExactly (long : LongSize) (type : IntegerType) (text : List Char) : Prop :=
  ∀ v, sqlFieldTo long type text = .ok v ↔ decimalValue text = some v ∧ type.Holds v

lemma decimalValue_minus (h : decimalValue ('-' :: s) = some x) : x ≤ 0 := by
  rw [decimalValue, numeral] at h
  cases hs : scanNatural s with
  | none =>
    rw [hs] at h
    cases h
  | some y =>
    obtain ⟨n, rest⟩ := y
    rw [hs, Option.map_some] at h
    cases rest with
    | nil =>
      cases h
      simp [signed]
    | cons d rest => cases h

lemma numeral_plain (hc : c ≠ '-') :
    ∃ s', numeral (c :: s) = (scanNatural s').map fun x => (false, x.1, x.2) := by
  rw [numeral.eq_def]
  split
  case h_1 heq => exact absurd (List.cons.inj heq).1 hc
  case h_2 s' _ => exact ⟨s', rfl⟩
  case h_3 => exact ⟨c :: s, rfl⟩

lemma decimalValue_plain (hc : c ≠ '-') (h : decimalValue (c :: s) = some x) : 0 ≤ x := by
  obtain ⟨s', hs'⟩ := numeral_plain (s := s) hc
  rw [decimalValue, hs'] at h
  cases hs : scanNatural s' with
  | none =>
    rw [hs] at h
    cases h
  | some y =>
    obtain ⟨n, rest⟩ := y
    rw [hs, Option.map_some] at h
    cases rest with
    | nil =>
      cases h
      simp [signed]
    | cons d rest => cases h

lemma decimalValue_blank (hc : isspace c = true) : decimalValue (c :: s) = none := by
  have hdigit : c.isDigit = false := by
    simp only [isspace, List.mem_cons, List.not_mem_nil, or_false, decide_eq_true_eq] at hc
    rcases hc with rfl | rfl | rfl | rfl | rfl | rfl <;> rfl
  have hscan : scanNatural (c :: s) = none := by
    rw [scanNatural, List.takeWhile_cons, hdigit]
    rfl
  apply decimalValue_of_none
  rw [numeral.eq_def]
  split
  case h_1 heq =>
    rw [(List.cons.inj heq).1] at hc
    cases hc
  case h_2 heq =>
    rw [(List.cons.inj heq).1] at hc
    cases hc
  case h_3 => rw [hscan, Option.map_none]

lemma IntegerType.max_lt (long : LongSize) (h : ¬ type.min < 0) : type.max < 2 ^ type.bits long := by
  cases type <;> cases long <;> first
    | exact absurd (by decide) h
    | decide

lemma IntegerType.stored_nonneg (hx : 0 ≤ x) (hv : type.Holds v) :
    type.stored long x = some v ↔ x = v := by
  unfold IntegerType.stored
  split
  · simp
  case isFalse h =>
    have hmax := type.max_lt long h
    obtain ⟨-, hle⟩ := hv
    split
    case isTrue hsmall =>
      rw [Option.some.injEq, Int.emod_eq_of_lt hx]
      have hcast : (x.natAbs : Int) < ((2 ^ type.bits long : ℕ) : Int) := by exact_mod_cast hsmall
      rw [Int.natAbs_of_nonneg hx] at hcast
      exact_mod_cast hcast
    case isFalse hlarge =>
      refine iff_of_false (by simp) ?_
      rintro rfl
      apply hlarge
      have hcast : (x.natAbs : Int) < ((2 ^ type.bits long : ℕ) : Int) := by
        rw [Int.natAbs_of_nonneg hx]
        push_cast
        omega
      exact_mod_cast hcast

lemma convertsExactly_nil : ¬ ConvertsExactly long type [] := by
  intro h
  have hzero := (h 0).mp (sqlFieldTo_ok.mpr ⟨by simp, .inl ⟨rfl, rfl⟩⟩)
  cases hzero.1

lemma convertsExactly_blank (hc : isspace c = true) : ConvertsExactly long type (c :: s) ↔
    ∀ x v, decimalValue (skipSpaces (c :: s)) = some x → type.stored long x = some v →
      ¬ type.Holds v := by
  have hminus : c ≠ '-' := by
    rintro rfl
    cases hc
  rw [ConvertsExactly, decimalValue_blank hc]
  constructor
  · intro h x v hx hv hholds
    have hnone := (h v).mp (sqlFieldTo_ok.mpr ⟨by simp [hminus], .inr ⟨x, hx, hv, hholds⟩⟩)
    cases hnone.1
  · intro h v
    refine iff_of_false (fun hok => ?_) (by simp)
    obtain ⟨-, hok⟩ := sqlFieldTo_ok.mp hok
    rcases hok with ⟨hnil, -⟩ | ⟨x, hx, hv, hholds⟩
    · cases hnil
    · exact h x v hx hv hholds

lemma convertsExactly_minus (hmin : 0 ≤ type.min) :
    ConvertsExactly long type ('-' :: s) ↔ decimalValue ('-' :: s) ≠ some 0 := by
  have hnever : ∀ v, sqlFieldTo long type ('-' :: s) ≠ .ok v := by
    intro v hv
    exact (sqlFieldTo_ok.mp hv).1 ⟨hmin, rfl⟩
  constructor
  · intro h hzero
    exact hnever 0 ((h 0).mpr ⟨hzero, type.holds_zero⟩)
  · intro h v
    refine iff_of_false (hnever v) ?_
    rintro ⟨hv, hlow, -⟩
    have hle := decimalValue_minus hv
    apply h
    rw [hv]
    congr 1
    omega

lemma convertsExactly_plain (hc : isspace c = false) (hminus : 0 ≤ type.min → c ≠ '-') :
    ConvertsExactly long type (c :: s) := by
  have hstart : skipSpaces (c :: s) = c :: s := by
    rw [skipSpaces, List.dropWhile_cons, hc]
    rfl
  intro v
  rw [sqlFieldTo_ok, hstart]
  have hstored : ∀ x, decimalValue (c :: s) = some x → type.Holds v →
      (type.stored long x = some v ↔ x = v) := by
    intro x hx hv
    by_cases hmin : type.min < 0
    · simp [IntegerType.stored, hmin]
    · exact IntegerType.stored_nonneg (decimalValue_plain (hminus (not_lt.mp hmin)) hx) hv
  constructor
  · rintro ⟨-, ⟨hnil, -⟩ | ⟨x, hx, hv, hholds⟩⟩
    · cases hnil
    · rw [(hstored x hx hholds).mp hv] at hx
      exact ⟨hx, hholds⟩
  · rintro ⟨hv, hholds⟩
    refine ⟨?_, .inr ⟨v, hv, (hstored v hv hholds).mpr rfl, hholds⟩⟩
    rintro ⟨hmin, hhead⟩
    exact hminus hmin (by simpa using hhead)

theorem fieldTo_exact_iff (long : LongSize) (type : IntegerType) (text : List Char) :
    ConvertsExactly long type text ↔ text ≠ [] ∧
      ((∃ c ∈ text.head?, isspace c = true) → ∀ x v, decimalValue (skipSpaces text) = some x →
        type.stored long x = some v → ¬ type.Holds v) ∧
      (0 ≤ type.min → text.head? = some '-' → decimalValue text ≠ some 0) := by
  cases text with
  | nil => exact iff_of_false convertsExactly_nil (by simp)
  | cons c s =>
    cases hc : isspace c with
    | true =>
      have hminus : c ≠ '-' := by
        rintro rfl
        cases hc
      rw [convertsExactly_blank hc]
      simp [hc, hminus]
    | false =>
      by_cases hminus : 0 ≤ type.min ∧ c = '-'
      · obtain ⟨hmin, rfl⟩ := hminus
        rw [convertsExactly_minus hmin]
        simp [hc, hmin]
      · have hplain : 0 ≤ type.min → c ≠ '-' := fun hmin h => hminus ⟨hmin, h⟩
        apply iff_of_true (convertsExactly_plain hc hplain)
        refine ⟨by simp, by simp [hc], fun hmin hhead => ?_⟩
        exact absurd (Option.some.inj hhead) (hplain hmin)

theorem fieldTo_empty : ¬ ConvertsExactly .lp64 .uint32 "".toList := convertsExactly_nil

end Exactness

section Printing

variable {long : LongSize} {type : IntegerType} {v : Int} {n : ℕ} {digits : List Char}

/-- What the C library prints for an integer. -/
def printed (v : Int) : List Char := (toString v).toList

lemma printed_nonneg (h : 0 ≤ v) : printed v = Nat.toDigits 10 v.toNat := by
  obtain ⟨n, rfl⟩ := Int.eq_ofNat_of_zero_le h
  exact Nat.toList_repr

lemma printed_neg (h : v < 0) : printed v = '-' :: Nat.toDigits 10 (-v).toNat := by
  have htext : toString v = "-" ++ (-v).toNat.repr := by
    rw [Int.toString_eq_repr, Int.repr_eq_if, if_neg (not_le.mpr h)]
  rw [printed, htext, String.toList_append, Nat.toList_repr]
  rfl

lemma digit_plain {c : Char} (h : c.isDigit = true) : c ≠ '-' ∧ c ≠ '+' ∧ isspace c = false := by
  refine ⟨?_, ?_, ?_⟩
  · rintro rfl
    cases h
  · rintro rfl
    cases h
  · rw [isspace, decide_eq_false_iff_not]
    intro hc
    simp only [List.mem_cons, List.not_mem_nil, or_false] at hc
    rcases hc with rfl | rfl | rfl | rfl | rfl | rfl <;> cases h

lemma exists_digit (h : Digits digits n) : ∃ c rest, digits = c :: rest ∧ c.isDigit = true := by
  cases digits with
  | nil => exact absurd rfl h.nonempty
  | cons c rest => exact ⟨c, rest, rfl, h.all c List.mem_cons_self⟩

lemma decimalValue_digits (h : Digits digits n) : decimalValue digits = some (n : Int) := by
  have hscan := h.scan ends_nil
  rw [List.append_nil] at hscan
  obtain ⟨c, rest, hdigits, hc⟩ := exists_digit h
  obtain ⟨hminus, hplus, -⟩ := digit_plain hc
  have hnum : numeral digits = some (false, n, []) := by
    rw [numeral.eq_def]
    split
    case h_1 => exact absurd (List.cons.inj hdigits).1.symm hminus
    case h_2 => exact absurd (List.cons.inj hdigits).1.symm hplus
    case h_3 => rw [hscan, Option.map_some]
  rw [decimalValue_of_numeral hnum]
  rfl

lemma decimalValue_minus_digits (h : Digits digits n) : decimalValue ('-' :: digits) = some (-(n : Int)) := by
  have hscan := h.scan ends_nil
  rw [List.append_nil] at hscan
  have hnum : numeral ('-' :: digits) = some (true, n, []) := by
    rw [numeral, hscan, Option.map_some]
  rw [decimalValue_of_numeral hnum]
  rfl

lemma decimalValue_printed (v : Int) : decimalValue (printed v) = some v := by
  rcases lt_or_ge v 0 with h | h
  · rw [printed_neg h, decimalValue_minus_digits (toDigits_digits _)]
    congr 1
    omega
  · rw [printed_nonneg h, decimalValue_digits (toDigits_digits _), Int.toNat_of_nonneg h]

/-- A printed integer is converted by the type it is in, and refused by the others. -/
lemma printed_convertsExactly (v : Int) : ConvertsExactly long type (printed v) := by
  rcases lt_or_ge v 0 with h | h
  · have hvalue := decimalValue_printed v
    rw [printed_neg h] at hvalue ⊢
    by_cases hmin : 0 ≤ type.min
    · rw [convertsExactly_minus hmin, hvalue]
      intro hzero
      cases hzero
      omega
    · exact convertsExactly_plain (by decide) fun h => absurd h hmin
  · obtain ⟨c, rest, hdigits, hc⟩ := exists_digit (toDigits_digits v.toNat)
    obtain ⟨hminus, -, hspace⟩ := digit_plain hc
    rw [printed_nonneg h, hdigits]
    exact convertsExactly_plain hspace fun _ => hminus

lemma sqlFieldTo_printed (h : type.Holds v) : sqlFieldTo long type (printed v) = .ok v :=
  (printed_convertsExactly v v).mpr ⟨decimalValue_printed v, h⟩

lemma sqlFieldTo_error {text : List Char} (h : ∀ v, sqlFieldTo long type text ≠ .ok v) :
    sqlFieldTo long type text = .error (preludedbError .invalidValue) := by
  rw [sqlFieldTo] at h ⊢
  split
  · rfl
  case isFalse hminus =>
    rw [if_neg hminus] at h
    simp only at h ⊢
    split
    · rfl
    case isFalse hrange =>
      rw [if_neg hrange] at h
      exact absurd rfl (h _)

lemma sqlFieldTo_printed_error (h : ¬ type.Holds v) :
    sqlFieldTo long type (printed v) = .error (preludedbError .invalidValue) := by
  apply sqlFieldTo_error
  intro x hx
  obtain ⟨hvalue, hholds⟩ := (printed_convertsExactly v x).mp hx
  rw [decimalValue_printed] at hvalue
  cases hvalue
  exact h hholds

/-- The conversion of a number column is that of its text. -/
lemma fieldToInteger_text (v : Int) : fieldToInteger type.min type.max (.number v) =
    sqlFieldTo long type (Cell.value (.number v)).toList := by
  change _ = sqlFieldTo long type (printed v)
  by_cases h : type.Holds v
  · rw [sqlFieldTo_printed h, fieldToInteger]
    exact if_pos h
  · rw [sqlFieldTo_printed_error h, fieldToInteger]
    exact if_neg h

end Printing

end Preludedb.Sql
