import Preludedb.Classic.Insert

/-! The columns of a result row as the readers take them. A null column leaves the attribute of a
new object as it is. -/

namespace Preludedb.Classic

open Foundations Sql Idmef

/-- The text of a field that is not null. -/
def Cell.value : Cell → String
  | .null => ""
  | .number n => toString n
  | .decimal digits => digits
  | .text s => s
  | .blob bytes => String.ofList (bytes.map fun b => Char.ofNat b.toNat)

def Cell.bytes : Cell → List UInt8
  | .blob bytes => bytes
  | c => c.value.toUTF8.toList

section Integers

/-- The columns of an integer type hold numbers. -/
def fieldToInteger (min max : Int) : Cell → Except SqlError Int
  | .number n => if min ≤ n ∧ n ≤ max then .ok n else .error (preludedbError .invalidValue)
  | _ => .error (preludedbError .invalidValue)

def fieldToUint8 (c : Cell) : Except SqlError UInt8 :=
  (fieldToInteger 0 0xff c).map fun n => UInt8.ofNat n.toNat

def fieldToUint16 (c : Cell) : Except SqlError UInt16 :=
  (fieldToInteger 0 0xffff c).map fun n => UInt16.ofNat n.toNat

def fieldToUint32 (c : Cell) : Except SqlError UInt32 :=
  (fieldToInteger 0 0xffffffff c).map fun n => UInt32.ofNat n.toNat

def fieldToInt32 (c : Cell) : Except SqlError Int32 :=
  (fieldToInteger (-0x80000000) 0x7fffffff c).map Int32.ofInt

end Integers

section Scanning

/-- `%u` and `%d` of the C library without a bound: what the text starts with, and what follows. -/
def scanNatural (s : List Char) : Option (ℕ × List Char) :=
  match s.takeWhile Char.isDigit with
  | [] => none
  | digits => some (digits.foldl (fun n c => 10 * n + (c.toNat - '0'.toNat)) 0,
      s.dropWhile Char.isDigit)

def scanInteger (s : List Char) : Option (Int × List Char) :=
  match s.dropWhile Char.isWhitespace with
  | '-' :: rest => (scanNatural rest).map fun x => (-x.1, x.2)
  | '+' :: rest => (scanNatural rest).map fun x => (x.1, x.2)
  | rest => (scanNatural rest).map fun x => (x.1, x.2)

def scanChar (c : Char) : List Char → Option (List Char)
  | [] => none
  | c' :: rest => if c' = c then some rest else none

/-- `%d-%d-%d %d:%d:%d`. -/
def scanTimestamp (s : String) : Option Tm := do
  let (year, s) ← scanInteger s.toList
  let (mon, s) ← scanInteger (← scanChar '-' s)
  let (mday, s) ← scanInteger (← scanChar '-' s)
  let (hour, s) ← scanInteger s
  let (min, s) ← scanInteger (← scanChar ':' s)
  let (sec, _) ← scanInteger (← scanChar ':' s)
  pure ⟨sec, min, hour, mday, mon - 1, year - 1900⟩

example : scanTimestamp "2012-08-05 09:07:30" = some ⟨30, 7, 9, 5, 7, 112⟩ := by decide +kernel

end Scanning

/-- The plugin is asked for a field; `none` is a null one. -/
def rowGetField (row : List Cell) (index : ℕ) : Action (Option Cell) := do
  let _ ← Program.call .fetchField
  match row.getD index .null with
  | .null => pure none
  | field => pure (some field)

def getString (row : List Cell) (index : ℕ) : Action (Option String) := do
  let field ← rowGetField row index
  pure (field.map Cell.value)

def getInteger {α : Type} (fieldTo : Cell → Except SqlError α) (row : List Cell) (index : ℕ) :
    Action (Option α) := do
  match ← rowGetField row index with
  | none => pure none
  | some field => do
    let value ← Program.ofExcept (fieldTo field)
    pure (some value)

def getUint8 : List Cell → ℕ → Action (Option UInt8) := getInteger fieldToUint8
def getUint16 : List Cell → ℕ → Action (Option UInt16) := getInteger fieldToUint16
def getUint32 : List Cell → ℕ → Action (Option UInt32) := getInteger fieldToUint32

/-- A column that has to be there when the time is. -/
def getNeeded {α : Type} (fieldTo : Cell → Except SqlError α) (row : List Cell) (index : ℕ) :
    Action α := do
  match ← getInteger fieldTo row index with
  | none => .fail (bareError (-1))
  | some value => pure value

section

variable [L : Libprelude]

def fieldToFloat (c : Cell) : Except SqlError UInt32 :=
  match L.parseFloat c.value with
  | none => .error (preludedbError .invalidValue)
  | some bits => .ok bits

def getFloat : List Cell → ℕ → Action (Option UInt32) := getInteger fieldToFloat

def getEnum (e : Enumeration) (row : List Cell) (index : ℕ) : Action (Option EnumValue) := do
  let field ← rowGetField row index
  pure (field.map fun c => L.enumToNumeric e c.value)

def timeFromTimestamp (timeBuf : String) (gmtoff : Int32) (usec : UInt32) : Except SqlError Time :=
  match scanTimestamp timeBuf with
  | none => .error (preludedbErrorVerbose .generic
      ("Database returned an unknown time format: '" ++ timeBuf ++ "'"))
  | some tm => .ok ⟨L.timegm tm, usec, gmtoff⟩

/-- The microseconds of a time without a column for them are zero. -/
def getTimestamp (row : List Cell) (time gmtoff : ℕ) (usec : Option ℕ) : Action (Option Time) := do
  match ← rowGetField row time with
  | none => pure none
  | some field => do
    let gmtoffField ← getNeeded .ok row gmtoff
    let usec ← match usec with
      | none => pure 0
      | some index => getNeeded fieldToUint32 row index
    let gmtoff ← Program.ofExcept (fieldToInt32 gmtoffField)
    let time ← Program.ofExcept (timeFromTimestamp field.value gmtoff usec)
    pure (some time)

end

section Rows

def select (t : Table) (columns : List String) (w : Where) : Action (Option Result) :=
  Program.call (Call.query (.data (.select t columns w false)))

def selectOrdered (t : Table) (columns : List String) (w : Where) : Action (Option Result) :=
  Program.call (Call.query (.data (.select t columns { w with index := .ne (-1) } true)))

/-- A reader of the only row of a result; no result and no row are the same. -/
def firstRow {α : Type} (f : List Cell → Action α) : Option Result → Action (Option α)
  | none => pure none
  | some rows => do
    let _ ← Program.call .fetchRow
    match rows with
    | [] => pure none
    | row :: _ => do
      let value ← f row
      pure (some value)

/-- The loop over the rows of a result, with a running index. -/
def forRows {α : Type} (f : Int → List Cell → Action α) : Int → Result → Action (List α)
  | _, [] => do
    let _ ← Program.call .fetchRow
    pure []
  | index, row :: rows => do
    let _ ← Program.call .fetchRow
    let value ← f index row
    let values ← forRows f (index + 1) rows
    pure (value :: values)

def allRows {α : Type} (f : Int → List Cell → Action α) : Option Result → Action (List α)
  | none => pure []
  | some rows => forRows f 0 rows

/-- A fetch that ends the loop when it fails, as it does after the last row. -/
def fetchOrEnd {α : Type} (next : Action (List α)) : Action (List α) := do
  match ← (Program.call Call.fetchRow).attempt with
  | .error _ => pure []
  | .ok _ => next

def restRows {α : Type} (f : Int → List Cell → Action α) : Int → Result → Action (List α)
  | _, [] => fetchOrEnd (pure [])
  | index, row :: rows => fetchOrEnd (do
    let value ← f index row
    let values ← restRows f (index + 1) rows
    pure (value :: values))

/-- The first loop of a reader that goes over its objects once more. The code that the second loop
returns replaces that of the last fetch, unless there are no objects. -/
def objectRows {α : Type} (f : Int → List Cell → Action α) : Option Result → Action (List α)
  | none => pure []
  | some [] => do
    let _ ← Program.call .fetchRow
    pure []
  | some (row :: rows) => do
    let _ ← Program.call .fetchRow
    let value ← f 0 row
    let values ← restRows f 1 rows
    pure (value :: values)

/-- The loop that fills the same object from each row. -/
def foldRows {α : Type} (f : α → List Cell → Action α) (value : α) : Result → Action α
  | [] => do
    let _ ← Program.call .fetchRow
    pure value
  | row :: rows => do
    let _ ← Program.call .fetchRow
    let value ← f value row
    foldRows f value rows

/-- The second loop of a reader, over the objects that the first one made. -/
def forIndexed {α β : Type} (f : Int → α → Action β) : Int → List α → Action (List β)
  | _, [] => pure []
  | index, x :: xs => do
    let y ← f index x
    let ys ← forIndexed f (index + 1) xs
    pure (y :: ys)

end Rows

end Preludedb.Classic
