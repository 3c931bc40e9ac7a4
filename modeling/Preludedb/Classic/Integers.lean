import Preludedb.Sql.Numerals

/-! The optional integers of a message: the text in the buffer of the insert functions, the column
it becomes, and the conversion of the get functions. -/

namespace Preludedb.Classic

open Foundations Sql Idmef

inductive IntegerAttribute
  | vlanNum
  | userIdNumber
  | processPid
  | messageProcessingModel
  | securityModel
  | securityLevel
  | ipVersion
  | port
  | ianaProtocolNumber
  | inodeNumber
  | majorDevice
  | minorDevice
  | cMajorDevice
  | cMinorDevice
  | dataSize
  | diskSize
  | overflowSize
  | heartbeatInterval
  deriving DecidableEq, Repr

namespace IntegerAttribute

-- the type in the message, which is also that of the writer
def type : IntegerAttribute → IntegerType
  | vlanNum => .int32
  | ipVersion | ianaProtocolNumber => .uint8
  | port => .uint16
  | dataSize | diskSize => .uint64
  | _ => .uint32

-- the size of the buffer of the writer
def size : IntegerAttribute → ℕ
  | messageProcessingModel | securityModel | securityLevel => 12
  | ipVersion | port | ianaProtocolNumber => 8
  | dataSize | diskSize => 32
  | _ => 16

def reader : IntegerAttribute → IntegerType
  | ipVersion | ianaProtocolNumber => .uint8
  | port => .uint16
  | _ => .uint32

/-- A value of the attribute's type. -/
def Value (a : IntegerAttribute) : Type := { v : Int // a.type.Holds v }

end IntegerAttribute

/-- What `get_optional_uint8` and its siblings print. -/
def optionalText : Option Int → List Char
  | none => "NULL".toList
  | some v => printed v

/-- What `snprintf` leaves of a text in a buffer of this size. -/
def buffered (size : ℕ) (text : List Char) : List Char := text.take (size - 1)

-- the column a text is stored in, where the server takes it for a value
def columnOf (text : List Char) : Option Cell :=
  if text = "NULL".toList then some .null else (decimalValue text).map .number

/-- `_get_uint8` and its siblings on one column: NULL leaves the attribute absent. -/
def optionalOf (long : LongSize) (type : IntegerType) : Cell → Except SqlError (Option Int)
  | .null => .ok none
  | c => (sqlFieldTo long type c.value.toList).map some

section RoundTrip

variable {long : LongSize} {a : IntegerAttribute} {x : Option a.Value} {v : Int} {n k : ℕ}

def written (a : IntegerAttribute) (x : Option a.Value) : List Char := optionalText (x.map (·.1))

structure RoundTrips (long : LongSize) (a : IntegerAttribute) (x : Option a.Value) : Prop where
  fits : (written a x).length < a.size
  denotes : columnOf (buffered a.size (written a x)) = some ((x.map (·.1)).elim .null .number)
  readBack : (columnOf (buffered a.size (written a x))).map (optionalOf long a.reader) =
    some (.ok (x.map (·.1)))

lemma printed_length (hlow : -10 ^ k < v) (hhigh : v < 10 ^ k) (hk : 0 < k) :
    (printed v).length ≤ k + 1 := by
  rcases lt_or_ge v 0 with h | h
  · rw [printed_neg h, List.length_cons, Nat.add_le_add_iff_right,
      Nat.length_toDigits_le_iff (by decide) hk]
    zify
    omega
  · rw [printed_nonneg h]
    have hlength : (Nat.toDigits 10 v.toNat).length ≤ k := by
      rw [Nat.length_toDigits_le_iff (by decide) hk]
      zify
      omega
    omega

lemma written_length (a : IntegerAttribute) (x : Option a.Value) : (written a x).length < a.size := by
  have hsize : 8 ≤ a.size := by cases a <;> decide
  cases x with
  | none =>
    have hnull : (written a none).length = 4 := rfl
    omega
  | some v =>
    have hbounds : -10 ^ (a.size - 2) < a.type.min ∧ a.type.max < 10 ^ (a.size - 2) := by
      cases a <;> decide
    obtain ⟨hmin, hmax⟩ := v.2
    have hlength := printed_length (v := v.1) (k := a.size - 2) (by omega) (by omega) (by omega)
    change (printed v.1).length < a.size
    omega

lemma printed_ne_null (v : Int) : printed v ≠ "NULL".toList := by
  intro h
  have hvalue := decimalValue_printed v
  have hnone : decimalValue "NULL".toList = none := by decide
  rw [h, hnone] at hvalue
  cases hvalue

lemma columnOf_printed (v : Int) : columnOf (printed v) = some (.number v) := by
  rw [columnOf, if_neg (printed_ne_null v), decimalValue_printed, Option.map_some]

/-- The cell of an inserted row is the column its text is stored in. -/
lemma getOptionalInteger_column {α : Type} (toInt : α → Int) (x : Option α) :
    columnOf (optionalText (x.map toInt)) = some (getOptionalInteger toInt x) := by
  cases x with
  | none => rfl
  | some n => exact columnOf_printed (toInt n)

/-- The conversion of a get function on a column is that of its text. -/
lemma optionalOf_column (long : LongSize) (type : IntegerType) (x : Option Int) :
    optionalOf long type (getOptionalInteger id x) =
      x.elim (.ok none) fun v => (fieldToInteger type.min type.max (.number v)).map some := by
  cases x with
  | none => rfl
  | some v =>
    rw [Option.elim_some, fieldToInteger_text v]
    rfl

lemma columnOf_written (a : IntegerAttribute) (x : Option a.Value) :
    columnOf (buffered a.size (written a x)) = some ((x.map (·.1)).elim .null .number) := by
  have hlength := written_length a x
  rw [buffered, List.take_of_length_le (by omega)]
  cases x with
  | none => rfl
  | some v => exact columnOf_printed v.1

/-- An attribute is read back exactly where its value is one of the type that is read. -/
lemma roundTrips_iff_holds : RoundTrips long a x ↔ ∀ v ∈ x, a.reader.Holds v.1 := by
  have hcolumn := columnOf_written a x
  cases x with
  | none =>
    refine iff_of_true ⟨written_length a none, hcolumn, ?_⟩ (by simp)
    rw [hcolumn]
    rfl
  | some v =>
    have hread : (columnOf (buffered a.size (written a (some v)))).map (optionalOf long a.reader) =
        some ((sqlFieldTo long a.reader (printed v.1)).map some) := by
      rw [hcolumn]
      rfl
    constructor
    · intro h w hw
      cases hw
      by_contra hnot
      have hback := h.readBack
      rw [hread, sqlFieldTo_printed_error hnot] at hback
      cases hback
    · intro h
      refine ⟨written_length a _, hcolumn, ?_⟩
      rw [hread, sqlFieldTo_printed (h v rfl)]
      rfl

theorem optional_integer_iff (long : LongSize) (a : IntegerAttribute) (x : Option a.Value) :
    RoundTrips long a x ↔ ∀ v ∈ x, (a = .vlanNum → 0 ≤ v.1) ∧
      (a = .dataSize ∨ a = .diskSize → v.1 < 2 ^ 32) := by
  rw [roundTrips_iff_holds]
  refine forall₂_congr fun v _ => ?_
  obtain ⟨hmin, hmax⟩ := v.2
  generalize v.1 = w at *
  unfold IntegerType.Holds
  cases a <;> simp only [IntegerAttribute.reader, IntegerAttribute.type, IntegerType.min,
    IntegerType.max, reduceCtorEq, or_self, false_implies, true_implies, or_false, false_or, true_and,
    and_true, iff_true] at hmin hmax ⊢ <;> omega

theorem vlan_num_negative : ¬ RoundTrips .lp64 .vlanNum (some ⟨-1, by decide, by decide⟩) := by
  rw [optional_integer_iff]
  intro h
  exact absurd ((h _ rfl).1 rfl) (by decide)

end RoundTrip

end Preludedb.Classic
