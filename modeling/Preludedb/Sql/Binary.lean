import Preludedb.Classic.Database

/-! The literals of binary values: how each plugin escapes the bytes for a statement and unescapes
the column that the server returns. -/

namespace Preludedb.Sql

open Classic

/-- The functions of the client libraries, and what the servers read and return: the value of a
quoted text, and the text of a `bytea` column. -/
structure Client where
  mysqlRealEscapeString : List UInt8 → List UInt8
  mysqlLiteral : List UInt8 → Option (List UInt8)
  pqEscapeByteaConn : List UInt8 → List UInt8
  byteaLiteral : List UInt8 → Option (List UInt8)
  byteaOutput : List UInt8 → List UInt8
  pqUnescapeBytea : List UInt8 → List UInt8

def quoted (text : List UInt8) : List UInt8 := 39 :: (text ++ [39])

/-- An escaped text denotes the bytes it was made from, and a column is unescaped to its value. -/
structure Client.Lawful (c : Client) : Prop where
  mysql (input : List UInt8) : c.mysqlLiteral (quoted (c.mysqlRealEscapeString input)) = some input
  bytea (input : List UInt8) : c.byteaLiteral (quoted (c.pqEscapeByteaConn input)) = some input
  output (value : List UInt8) : c.pqUnescapeBytea (c.byteaOutput value) = value

/-- The digits `0` to `9` and `A` to `F`. -/
def hex : List UInt8 := [48, 49, 50, 51, 52, 53, 54, 55, 56, 57, 65, 66, 67, 68, 69, 70]

def bin2hex : List UInt8 → List UInt8
  | [] => []
  | b :: bytes => hex.getD (b >>> 4).toNat 0 :: hex.getD (b &&& 0x0f).toNat 0 :: bin2hex bytes

/-- Without a function of the plugin, `X'...'`. -/
def pluginEscapeBinary (c : Client) : Backend → List UInt8 → List UInt8
  | .mysql, input => quoted (c.mysqlRealEscapeString input)
  | .pgsql, input => quoted (c.pqEscapeByteaConn input)
  | .sqlite3, input => 88 :: quoted (bin2hex input)

/-- Without a function of the plugin, a copy. -/
def pluginUnescapeBinary (c : Client) : Backend → List UInt8 → List UInt8
  | .pgsql, input => c.pqUnescapeBytea input
  | _, input => input

section Server

/-- The value of a hexadecimal digit of a blob literal. -/
def hexValue (digit : UInt8) : Option ℕ :=
  if 48 ≤ digit ∧ digit ≤ 57 then some (digit.toNat - 48)
  else if 65 ≤ digit ∧ digit ≤ 70 then some (digit.toNat - 55)
  else if 97 ≤ digit ∧ digit ≤ 102 then some (digit.toNat - 87)
  else none

def hexBytes : List UInt8 → Option (List UInt8)
  | [39] => some []
  | high :: low :: rest => do
    let x ← hexValue high
    let y ← hexValue low
    let bytes ← hexBytes rest
    pure (UInt8.ofNat (16 * x + y) :: bytes)
  | _ => none

/-- The value of a literal `X'...'`. -/
def blobLiteral : List UInt8 → Option (List UInt8)
  | 88 :: 39 :: rest => hexBytes rest
  | _ => none

/-- The value that the server stores for a literal. -/
def serverValue (c : Client) : Backend → List UInt8 → Option (List UInt8)
  | .mysql, text => c.mysqlLiteral text
  | .pgsql, text => c.byteaLiteral text
  | .sqlite3, text => blobLiteral text

/-- The bytes of the column that the server returns for a value. -/
def serverColumn (c : Client) : Backend → List UInt8 → List UInt8
  | .pgsql, value => c.byteaOutput value
  | _, value => value

end Server

/-- A client for texts without quotes and backslashes. -/
def plainClient : Client where
  mysqlRealEscapeString := id
  mysqlLiteral text := if text.head? = some 39 ∧ text.getLast? = some 39 then some text.tail.dropLast else none
  pqEscapeByteaConn := id
  byteaLiteral text := if text.head? = some 39 ∧ text.getLast? = some 39 then some text.tail.dropLast else none
  byteaOutput := id
  pqUnescapeBytea := id

lemma plainClient_lawful : plainClient.Lawful := by
  have hread : ∀ input, plainClient.mysqlLiteral (quoted input) = some input := fun input => by
    simp [plainClient, quoted, List.getLast?_cons]
  exact ⟨hread, hread, fun _ => rfl⟩

lemma hexValue_hex {n : ℕ} (hn : n < 16) : hexValue (hex.getD n 0) = some n := by
  interval_cases n <;> decide

lemma hexBytes_bin2hex (bytes : List UInt8) : hexBytes (bin2hex bytes ++ [39]) = some bytes := by
  induction bytes with
  | nil => rfl
  | cons b bytes ih =>
    have hb := b.toNat_lt
    have hhigh : (b >>> 4).toNat = b.toNat / 16 := by
      simp [UInt8.toNat_shiftRight, Nat.shiftRight_eq_div_pow]
    have hlow : (b &&& 0x0f).toNat = b.toNat % 16 := by
      rw [UInt8.toNat_and]
      exact Nat.and_two_pow_sub_one_eq_mod b.toNat 4
    have hvalue : UInt8.ofNat (16 * (b.toNat / 16) + b.toNat % 16) = b := by
      rw [Nat.div_add_mod, UInt8.ofNat_toNat]
    rw [bin2hex, List.cons_append, List.cons_append, hexBytes, hhigh, hlow,
      hexValue_hex (by omega), hexValue_hex (by omega), ih]
    exact congrArg (fun x => some (x :: bytes)) hvalue

/-- What a plugin escapes is what it unescapes from the column that the server returns. -/
lemma pluginUnescapeBinary_escape {c : Client} (hc : c.Lawful) (b : Backend) (input : List UInt8) :
    (serverValue c b (pluginEscapeBinary c b input)).map
      (fun value => pluginUnescapeBinary c b (serverColumn c b value)) = some input := by
  cases b with
  | mysql => exact congrArg (Option.map _) (hc.mysql input)
  | pgsql =>
    have hvalue := congrArg (Option.map fun value => c.pqUnescapeBytea (c.byteaOutput value)) (hc.bytea input)
    rw [Option.map_some, hc.output] at hvalue
    exact hvalue
  | sqlite3 => exact congrArg (Option.map _) (hexBytes_bin2hex input)

end Preludedb.Sql
