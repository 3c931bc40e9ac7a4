import Preludedb.Foundations.Tables
import Preludedb.Foundations.Programs
import Preludedb.Sql.Connection

/-! The tables of the classic schema, the statements the storage format sends to them, and the
connection with a replied-to history as the environment of its programs. A row keeps apart the
columns that say which element it describes and the columns that describe it. -/

namespace Preludedb.Classic

open Foundations Sql

inductive Table
  | alert
  | alertident
  | toolAlert
  | correlationAlert
  | overflowAlert
  | heartbeat
  | analyzer
  | classification
  | reference
  | source
  | target
  | file
  | fileAccess
  | fileAccessPermission
  | linkage
  | inode
  | checksum
  | impact
  | action
  | confidence
  | assessment
  | additionalData
  | createTime
  | detectTime
  | analyzerTime
  | node
  | address
  | user
  | userId
  | process
  | processArg
  | processEnv
  | service
  | webService
  | webServiceArg
  | snmpService
  deriving DecidableEq, Repr

def Table.name : Table → String
  | alert => "Prelude_Alert"
  | alertident => "Prelude_Alertident"
  | toolAlert => "Prelude_ToolAlert"
  | correlationAlert => "Prelude_CorrelationAlert"
  | overflowAlert => "Prelude_OverflowAlert"
  | heartbeat => "Prelude_Heartbeat"
  | analyzer => "Prelude_Analyzer"
  | classification => "Prelude_Classification"
  | reference => "Prelude_Reference"
  | source => "Prelude_Source"
  | target => "Prelude_Target"
  | file => "Prelude_File"
  | fileAccess => "Prelude_FileAccess"
  | fileAccessPermission => "Prelude_FileAccess_Permission"
  | linkage => "Prelude_Linkage"
  | inode => "Prelude_Inode"
  | checksum => "Prelude_Checksum"
  | impact => "Prelude_Impact"
  | action => "Prelude_Action"
  | confidence => "Prelude_Confidence"
  | assessment => "Prelude_Assessment"
  | additionalData => "Prelude_AdditionalData"
  | createTime => "Prelude_CreateTime"
  | detectTime => "Prelude_DetectTime"
  | analyzerTime => "Prelude_AnalyzerTime"
  | node => "Prelude_Node"
  | address => "Prelude_Address"
  | user => "Prelude_User"
  | userId => "Prelude_UserId"
  | process => "Prelude_Process"
  | processArg => "Prelude_ProcessArg"
  | processEnv => "Prelude_ProcessEnv"
  | service => "Prelude_Service"
  | webService => "Prelude_WebService"
  | webServiceArg => "Prelude_WebServiceArg"
  | snmpService => "Prelude_SnmpService"

inductive Kind
  | alert
  | heartbeat
  deriving DecidableEq, Repr

def Kind.table : Kind → Table
  | .alert => .alert
  | .heartbeat => .heartbeat

/-- The denotation of a literal; `decimal` is an unquoted number with a fraction. -/
inductive Cell
  | null
  | number (n : Int)
  | decimal (text : String)
  | text (s : String)
  | blob (bytes : List UInt8)
  deriving DecidableEq, Repr

/-- `messageIdent` is `_ident` in the two top tables and `_message_ident` in the others;
`parents` are `_parent0_index`, `_parent1_index` and `_parent2_index`. -/
structure Row where
  messageIdent : ℕ
  parentType : Option Char
  parents : List Int
  index : Option Int
  fields : List (String × Cell)
  deriving DecidableEq, Repr

def Row.column (r : Row) : String → Cell
  | "_ident" => .number r.messageIdent
  | "_message_ident" => .number r.messageIdent
  | "_index" => (r.index.map Cell.number).getD .null
  | name => (r.fields.lookup name).getD .null

inductive TypeTest
  | any
  | eq (c : Char)
  | ne (c : Char)
  deriving DecidableEq, Repr

def TypeTest.holds : TypeTest → Option Char → Bool
  | .any, _ => true
  | .eq c, t => t == some c
  | .ne c, t => t.isSome && t != some c

inductive IndexTest
  | any
  | eq (i : Int)
  | ne (i : Int)
  deriving DecidableEq, Repr

def IndexTest.holds : IndexTest → Option Int → Bool
  | .any, _ => true
  | .eq i, t => t == some i
  | .ne i, t => t.isSome && t != some i

/-- A WHERE condition: `parents` are the values asked for in the first index columns. -/
structure Where where
  idents : List ℕ
  parentType : TypeTest
  parents : List Int
  index : IndexTest
  deriving DecidableEq, Repr

def Where.holds (w : Where) (r : Row) : Bool :=
  w.idents.contains r.messageIdent && w.parentType.holds r.parentType &&
    w.parents.isPrefixOf r.parents && w.index.holds r.index

inductive Stmt
  | insertMessage (kind : Kind) (fields : List (String × Cell))
  | insert (t : Table) (r : Row)
  | selectMaxIdent (kind : Kind)
  | select (t : Table) (columns : List String) (w : Where) (ordered : Bool)
  | count (t : Table) (w : Where)
  | delete (t : Table) (w : Where)
  deriving DecidableEq, Repr

/-- The counters are above every ident in use. -/
structure Database where
  tables : Table → List Row
  counter : Kind → ℕ
  fresh : ∀ k, ∀ r ∈ tables (Kind.table k), r.messageIdent < counter k

/-- The rows of a result. -/
abbrev Result := List (List Cell)

abbrev Write := TableWrite Table Row

namespace Database

def bump (k : Kind) : Write → ℕ → ℕ
  | .insert t r, n => if t = k.table then max n (r.messageIdent + 1) else n
  | .delete _ _, n => n

lemma bump_le (k : Kind) (w : Write) (n : ℕ) : n ≤ bump k w n := by
  cases w with
  | insert t r =>
    simp only [bump]
    split <;> omega
  | delete t p => exact le_rfl

def write (d : Database) (w : Write) : Database where
  tables := w.apply d.tables
  counter k := bump k w (d.counter k)
  fresh := by
    intro k r hr
    have hold : ∀ r ∈ d.tables k.table, r.messageIdent < bump k w (d.counter k) := fun r hr =>
      (d.fresh k r hr).trans_le (bump_le k w _)
    cases w with
    | insert t r' =>
      by_cases ht : k.table = t
      · subst ht
        simp only [TableWrite.apply, Function.update_self, List.mem_append, List.mem_singleton] at hr
        rcases hr with hr | rfl
        · exact hold r hr
        · simp only [bump, if_true]
          omega
      · rw [TableWrite.apply, Function.update_of_ne ht] at hr
        exact hold r hr
    | delete t p =>
      by_cases ht : k.table = t
      · subst ht
        simp only [TableWrite.apply, Function.update_self, List.mem_filter] at hr
        exact hold r hr.1
      · rw [TableWrite.apply, Function.update_of_ne ht] at hr
        exact hold r hr

@[simp] lemma write_tables (d : Database) (w : Write) : (d.write w).tables = w.apply d.tables := rfl

lemma foldl_write_tables (ws : List Write) (d : Database) :
    (ws.foldl write d).tables = ws.foldl TableWrite.apply d.tables := by
  induction ws generalizing d with
  | nil => rfl
  | cons w ws ih => exact ih (d.write w)

def empty : Database := ⟨fun _ => [], fun _ => 1, fun _ _ h => by cases h⟩

def maxIdent (d : Database) (k : Kind) : Cell :=
  match (d.tables k.table).map Row.messageIdent with
  | [] => .null
  | i :: is => .number (is.foldl max i : ℕ)

end Database

/-- The three SQL plugins; `sqlite3` alone returns a result for a SELECT that finds no row. -/
inductive Backend
  | mysql
  | pgsql
  | sqlite3
  deriving DecidableEq, Repr

def Backend.result (b : Backend) (rows : Result) : Option Result :=
  if rows.isEmpty ∧ b ≠ .sqlite3 then none else some rows

/-- The fields of `sqlite3` are copied by their length, and one without bytes is null. -/
def Backend.field : Backend → Cell → Cell
  | .sqlite3, .text "" => .null
  | .sqlite3, .blob [] => .null
  | _, c => c

def project (b : Backend) (columns : List String) (r : Row) : List Cell :=
  columns.map fun name => b.field (r.column name)

def byIndex (r r' : Row) : Bool := decide (r.index.getD 0 ≤ r'.index.getD 0)

def Database.select (d : Database) (t : Table) (w : Where) (ordered : Bool) : List Row :=
  if ordered then ((d.tables t).filter w.holds).mergeSort byIndex else (d.tables t).filter w.holds

def exec (b : Backend) (d : Database) : Stmt → Option Result × List Write
  | .insertMessage k fields =>
    (none, [.insert k.table ⟨d.counter k, none, [], none, fields⟩])
  | .insert t r => (none, [.insert t r])
  | .selectMaxIdent k => (some [[d.maxIdent k]], [])
  | .select t columns w ordered => (b.result ((d.select t w ordered).map (project b columns)), [])
  | .count t w => (some [[.number ((d.tables t).countP w.holds : ℕ)]], [])
  | .delete t w => (none, [.delete t w.holds])

def engine (b : Backend) : Engine Stmt Result Database Write := ⟨Database.write, exec b⟩

abbrev Session := Connection Stmt Database Write

abbrev Request := Call Stmt

/-- Programs of the storage format. -/
abbrev Action := Program Request SqlError (Call.Reply Result)

/-- The replies the environment may give: what the plugin answers to the n-th call. -/
abbrev Pattern := ℕ → Request → Outcome

/-- A connection and the number of calls made on it. -/
structure World where
  session : Session
  clock : ℕ

def handle (b : Backend) (p : Pattern) (r : Request) (w : World) :
    Except SqlError (r.Reply Result) × World :=
  ((r.perform (engine b) (p w.clock r) w.session).1,
    ⟨(r.perform (engine b) (p w.clock r) w.session).2, w.clock + 1⟩)

def run {α : Type} (b : Backend) (p : Pattern) (a : Action α) (w : World) : Except SqlError α × World :=
  a.run (handle b p) w

end Preludedb.Classic
