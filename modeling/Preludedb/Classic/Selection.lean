import Preludedb.Sql.Builders
import Preludedb.Classic.PathResolve

/-! Path selections: the objects that are selected, the columns that are counted for each, and the
SELECT clause that is written for all of them. -/

namespace Preludedb.Classic

open Foundations Sql Idmef

section Objects

inductive OneArgFunction
  | min
  | max
  | count
  | avg
  deriving DecidableEq, Repr

inductive SelectedObject
  | idmefPath (p : Path)
  | string (s : String)
  | int (n : Int)
  | oneArg (f : OneArgFunction) (arg : SelectedObject)
  | extract (arg : SelectedObject) (type : TimeConstraint)
  | interval (arg value : SelectedObject) (unit : IntervalUnit)
  | timezone (arg : SelectedObject) (tzvalue : String)

namespace SelectedObject

def isFunction : SelectedObject → Bool
  | idmefPath _ | string _ | int _ => false
  | _ => true

def getValueType : SelectedObject → Option ValueType
  | idmefPath p => p.getValueType
  | string _ | int _ | extract _ _ | oneArg .count _ => some .other
  | oneArg _ arg => arg.getValueType
  | interval _ _ _ | timezone _ _ => some .time

end SelectedObject

structure SelectedPathFlags where
  orderAsc : Bool
  orderDesc : Bool
  groupBy : Bool
  deriving DecidableEq, Repr

structure SelectedPath where
  object : SelectedObject
  flags : SelectedPathFlags
  columnCount : ℕ
  position : ℕ

def SelectedPath.new (object : SelectedObject) (flags : SelectedPathFlags) : SelectedPath :=
  ⟨object, flags, 1, 0⟩

/-- The count is that of the path alone, of whatever plugin. -/
def classicGetPathColumnCount (selected : SelectedPath) : ℕ :=
  match selected.object with
  | .idmefPath p =>
    if selected.flags.groupBy then 1
    else if parentClass p = some .additionalData ∧ p.getValueType = some .data then 2
    else if p.getValueType = some .time then if p.depth = 2 then 3 else 2
    else 1
  -- anything that is not an IDMEF path is one field
  | _ => 1

structure PathSelection where
  selecteds : List SelectedPath
  numpos : ℕ

def PathSelection.new : PathSelection := ⟨[], 0⟩

def PathSelection.add (selection : PathSelection) (selected : SelectedPath) : PathSelection :=
  let count := if selected.columnCount = 1 then classicGetPathColumnCount selected
    else selected.columnCount
  ⟨selection.selecteds ++ [{ selected with columnCount := count, position := selection.numpos }],
    selection.numpos + count⟩

end Objects

section Writing

def OneArgFunction.toString : OneArgFunction → String
  | min => "MIN"
  | max => "MAX"
  | count => "COUNT"
  | avg => "AVG"

/-- `top_table.name` or `tN.name` -/
def Column.toText (c : Column) : SqlText :=
  words [match c.table with
    | none => s!"top_table.{c.name}"
    | some n => s!"t{n}.{c.name}"]

def columnsText : List Column → SqlText
  | [] => []
  | [c] => c.toText
  | c :: cs => c.toText ++ comma ++ columnsText cs

def getFieldContext (selected : SelectedPath) : FieldContext :=
  if selected.object.isFunction || selected.flags.groupBy then .function else .select

def classicPathResolve (selected : SelectedPath) (p : Path) (join : Join) :
    Except SqlError (SqlText × Join) := do
  let (columns, join) ← pathResolve p (getFieldContext selected) join
  pure (columnsText columns, join)

variable [R : Rendering]

def selectedObjectToString (b : Backend) (selected : SelectedPath) :
    SelectedObject → Join → Except SqlError (SqlText × Join)
  | .string s, join => .ok (R.readText s, join)
  | .int n, join => .ok (number n, join)
  | .idmefPath p, join => classicPathResolve selected p join
  | .extract arg type, join => do
    let (field, join) ← selectedObjectToString b selected arg join
    pure (← buildTimeExtractString b field type 0, join)
  | .interval arg value unit, join => do
    let (field, join) ← selectedObjectToString b selected arg join
    let (value, join) ← selectedObjectToString b selected value join
    pure (← buildTimeIntervalString b field value unit, join)
  | .timezone arg tzvalue, join => do
    let (field, join) ← selectedObjectToString b selected arg join
    pure (← buildTimeTimezoneString b field tzvalue, join)
  | .oneArg f arg, join => do
    let (field, join) ← selectedObjectToString b selected arg join
    pure (call f.toString field, join)

/-- The columns of the ORDER BY clause are ascending or not. -/
structure Select where
  fields : SqlText
  orderBy : List (ℕ × Bool)
  groupBy : List ℕ
  fieldCount : ℕ

def Select.new : Select := ⟨[], [], [], 0⟩

def Select.separated (select : Select) : SqlText :=
  if select.fields = [] then [] else select.fields ++ comma

def Select.addField (select : Select) (text : SqlText) : Select :=
  { select with fields := select.separated ++ text, fieldCount := select.fieldCount + 1 }

/-- The options of a field hold of every column that is counted for it. -/
def Select.addOptions (select : Select) (numField : ℕ) (flags : SelectedPathFlags) : Select :=
  let fields := (List.range numField).map fun i => select.fieldCount + 1 + i
  { select with
    groupBy := if flags.groupBy then select.groupBy ++ fields else select.groupBy
    orderBy := if flags.orderAsc || flags.orderDesc then
        select.orderBy ++ fields.map fun i => (i, flags.orderAsc)
      else select.orderBy
    fieldCount := select.fieldCount + numField }

def Select.addSelected (b : Backend) (select : Select) (selected : SelectedPath) (join : Join) :
    Except SqlError (Select × Join) := do
  let (text, join) ← selectedObjectToString b selected selected.object join
  pure (({ select with fields := select.separated ++ text }).addOptions selected.columnCount
    selected.flags, join)

def Select.addSelection (b : Backend) : Select → List SelectedPath → Join →
    Except SqlError (Select × Join)
  | select, [], join => .ok (select, join)
  | select, selected :: selecteds, join => do
    let (select, join) ← select.addSelected b selected join
    select.addSelection b selecteds join

end Writing

section Reading

namespace SelectedPath

/-- The columns that follow the first of a time. -/
def getValueTime (selected : SelectedPath) (cnt : ℕ) : List ℕ :=
  (if 1 < classicGetPathColumnCount selected then [cnt + 1] else []) ++
    if 2 < classicGetPathColumnCount selected then [cnt + 2] else []

def getData (selected : SelectedPath) (cnt : ℕ) : List ℕ :=
  if classicGetPathColumnCount selected = 2 then [cnt + 1] else []

/-- The columns of a row that are read for a value, when no conversion of one fails before. -/
def getValue (row : ℕ → Option String) (selected : SelectedPath) : List ℕ :=
  selected.position :: match row selected.position with
    | none => []
    | some _ => match selected.object.getValueType with
      | some .data => getData selected selected.position
      | some .time => getValueTime selected selected.position
      | _ => []

end SelectedPath

end Reading

end Preludedb.Classic
