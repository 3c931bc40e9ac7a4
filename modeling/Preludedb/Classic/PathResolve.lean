import Preludedb.Idmef.Path
import Preludedb.Classic.Insert

/-! The joins a query is given for the paths it mentions: the table a path is found in, the
conditions that select its row, and the columns that hold its value. -/

namespace Preludedb.Classic

open Sql Idmef

def parentClass (p : Path) : Option Idmef.Class := p.getClass (p.depth - 2)

def childName (p : Path) : String := p.getName (p.depth - 1)

section Tables

/-- `web_service` becomes `WebService`. -/
def capitalize : Bool → List Char → List Char
  | _, [] => []
  | nextIsMaj, c :: cs =>
    if c = '_' then capitalize true cs
    else if nextIsMaj then Char.ofNat (c.toNat + 'A'.toNat - 'a'.toNat) :: capitalize false cs
    else c :: capitalize false cs

def defaultTableName (p : Path) : String :=
  "Prelude_" ++ String.ofList (capitalize true (((parentClass p).map Class.name).getD "").toList)

def messageTableName (p : Path) : String :=
  if childName p = "create_time" then "Prelude_CreateTime"
  else if childName p = "detect_time" then "Prelude_DetectTime"
  else if childName p = "analyzer_time" then "Prelude_AnalyzerTime"
  else defaultTableName p

def processTableName (p : Path) : String :=
  if childName p = "arg" then "Prelude_ProcessArg"
  else if childName p = "env" then "Prelude_ProcessEnv"
  else "Prelude_Process"

def fileAccessTableName (p : Path) : String :=
  if childName p = "permission" then "Prelude_FileAccess_Permission" else "Prelude_FileAccess"

def webServiceTableName (p : Path) : String :=
  if childName p = "arg" then "Prelude_WebServiceArg" else "Prelude_WebService"

end Tables

inductive FieldContext
  | where
  | select
  | function
  deriving DecidableEq, Repr

section Fields

/-! The columns of the joined table, in the order in which they are emitted. -/

def defaultFieldName (p : Path) (_ : FieldContext) : List String := [childName p]

def timeWithUsecFieldName (_ : Path) : FieldContext → List String
  | .select => ["time", "gmtoff", "usec"]
  | _ => ["time"]

def timeWithoutUsecFieldName (p : Path) : FieldContext → List String
  | .select => [childName p, childName p ++ "_gmtoff"]
  | _ => [childName p]

def messageFieldName (p : Path) (context : FieldContext) : List String :=
  if childName p = "create_time" ∨ childName p = "detect_time" ∨ childName p = "analyzer_time" then
    timeWithUsecFieldName p context
  else defaultFieldName p context

def snmpFieldName (p : Path) (_ : FieldContext) : List String :=
  [if childName p = "oid" then "snmp_oid" else childName p]

def checksumFieldName (p : Path) (_ : FieldContext) : List String :=
  [if childName p = "key" then "checksum_key" else childName p]

def fileFieldName (p : Path) (context : FieldContext) : List String :=
  if childName p = "create_time" ∨ childName p = "modify_time" ∨ childName p = "access_time" then
    timeWithoutUsecFieldName p context
  else [childName p]

def addataFieldName (p : Path) (context : FieldContext) : List String :=
  if context = .select ∧ childName p = "data" then [childName p, "type"] else [childName p]

end Fields

structure IdmefClass where
  resolveTableName : Path → String
  resolveFieldName : Path → FieldContext → List String

def classes : List (Idmef.Class × IdmefClass) :=
  [(.alert, ⟨messageTableName, messageFieldName⟩),
    (.heartbeat, ⟨messageTableName, messageFieldName⟩),
    (.process, ⟨processTableName, defaultFieldName⟩),
    (.snmpService, ⟨defaultTableName, snmpFieldName⟩),
    (.webService, ⟨webServiceTableName, defaultFieldName⟩),
    (.checksum, ⟨defaultTableName, checksumFieldName⟩),
    (.file, ⟨defaultTableName, fileFieldName⟩),
    (.fileAccess, ⟨fileAccessTableName, defaultFieldName⟩),
    (.additionalData, ⟨defaultTableName, addataFieldName⟩)]

def defaultClass : IdmefClass := ⟨defaultTableName, defaultFieldName⟩

def searchPath (p : Path) : IdmefClass :=
  ((classes.find? fun c => parentClass p = some c.1).map Prod.snd).getD defaultClass

def tableName (p : Path) : String := (searchPath p).resolveTableName p

def fieldName (p : Path) (context : FieldContext) : List String :=
  (searchPath p).resolveFieldName p context

section Constraints

def resolveFileParentType (p : Path) : Option Char :=
  if p.getClass 3 = some .fileAccess ∧ p.getClass 4 = some .userId then some 'F' else none

def resolveTargetParentType (p : Path) : Option Char :=
  if p.depth = 3 then none
  else if p.getClass 2 = some .file then resolveFileParentType p
  else some 'T'

def resolveSourceParentType (p : Path) : Option Char := if 3 < p.depth then some 'S' else none

def resolveToolAlertParentType (p : Path) : Option Char :=
  if p.getClass 2 = some .alertident then some 'T' else none

def resolveCorrelationAlertParentType (p : Path) : Option Char :=
  if p.getClass 2 = some .alertident then some 'C' else none

def resolveAlertParentType (p : Path) : Option Char :=
  match p.getClass 1 with
  | some .classification | some .assessment | some .overflowAlert => none
  | some .toolAlert => resolveToolAlertParentType p
  | some .correlationAlert => resolveCorrelationAlertParentType p
  | some .source => resolveSourceParentType p
  | some .target => resolveTargetParentType p
  | _ => if childName p = "detect_time" then none else some 'A'

def resolveParentType (p : Path) : Option Char :=
  if p.getClass 0 = some .heartbeat then some 'H' else resolveAlertParentType p

/-- A condition on `_parentN_index`, or on `_index`, for which there is no level. -/
structure IndexConstraint where
  level : Option ℕ
  equal : Bool
  value : Int
  deriving DecidableEq, Repr

def addIndexConstraint (level : Option ℕ) : Index → IndexConstraint
  | .nth n => ⟨level, true, n⟩
  | .last => ⟨level, true, -1⟩
  -- the index is undefined
  | _ => ⟨level, false, -1⟩

/-- The loop over the elements between the message and the parent of the last one. -/
def parentConstraints : ℕ → List PathElement → List IndexConstraint
  | _, [] => []
  | level, n :: ns =>
    if n.index = .forbidden then parentConstraints level ns
    else addIndexConstraint (some level) n.index :: parentConstraints (level + 1) ns

def ownConstraint (index1 index2 : Index) : List IndexConstraint :=
  if index1 ≠ .forbidden then [addIndexConstraint none index1]
  else if index2 ≠ .forbidden then [addIndexConstraint none index2]
  else []

def resolveIndexes (p : Path) : List IndexConstraint :=
  parentConstraints 0 (p.below.take (p.depth - 3)) ++
    ownConstraint (p.getIndex (p.depth - 1)) (p.getIndex (p.depth - 2))

end Constraints

structure JoinedTable where
  path : Path
  tableName : String
  aliasedTableName : ℕ
  parentType : Option Char
  indexConstraints : List IndexConstraint

structure Join where
  topClass : Option Idmef.Class
  tables : List JoinedTable
  nextId : ℕ

def Join.new : Join := ⟨none, [], 0⟩

def Join.setTopClass (join : Join) (c : Idmef.Class) : Join := { join with topClass := some c }

def lastElementIsListed (p : Path) : Bool := decide (p.getIndex (p.depth - 1) ≠ .forbidden)

/-- The value of the path has a row of its own. -/
def comparesWhole (p : Path) : Bool :=
  lastElementIsListed p || (decide (p.getValueType = some .time) && decide (parentClass p ≠ some .file))

def Join.lookupTable (join : Join) (p : Path) : Option JoinedTable :=
  join.tables.find? fun table => decide (p.depth = table.path.depth) &&
    (if comparesWhole p then p.compare table.path else p.ncompare table.path (p.depth - 1))

/-- The table that is joined for a path. -/
def JoinedTable.of (p : Path) (tableName : String) (id : ℕ) : JoinedTable :=
  ⟨p, tableName, id, resolveParentType p, resolveIndexes p⟩

def Join.newTable (join : Join) (p : Path) (tableName : String) :
    Except SqlError (JoinedTable × Join) :=
  let added := (.of p tableName join.nextId,
    ⟨some p.top, join.tables ++ [.of p tableName join.nextId], join.nextId + 1⟩)
  match join.topClass with
  | none => .ok added
  -- conflicting top tables
  | some c => if p.top ≠ c then .error (bareError (-1)) else .ok added

/-- A column of a joined table, or of the top table. -/
structure Column where
  table : Option ℕ
  name : String
  deriving DecidableEq, Repr

def pathResolve (p : Path) (context : FieldContext) (join : Join) :
    Except SqlError (List Column × Join) :=
  if p.depth = 2 ∧ p.getValueType ≠ some .time then
    .ok ((defaultFieldName p context).map (Column.mk none), join)
  else match join.lookupTable p with
    | some table =>
      .ok ((fieldName p context).map (Column.mk (some table.aliasedTableName)), join)
    | none => do
      let (table, join) ← join.newTable p (tableName p)
      pure ((fieldName p context).map (Column.mk (some table.aliasedTableName)), join)

end Preludedb.Classic
