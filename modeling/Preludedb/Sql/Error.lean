import Mathlib.Tactic

/-! Error values, their codes and the texts `preludedb_strerror` gives them. `foreign` codes are
those of other libraries and bare negative numbers; the text is that of a verbose error. `undefined`
is no code of the library: the program reads through a pointer that points nowhere. -/

namespace Preludedb.Sql

inductive ErrorCode
  | generic
  | invalidSettingsString
  | connection
  | query
  | invalidColumnNum
  | invalidColumnName
  | invalidValue
  | invalidValueType
  | unknownSqlPlugin
  | unknownFormatPlugin
  | alreadyInTransaction
  | notInTransaction
  | invalidMessageIdent
  | invalidSelectedObjectString
  | invalidObjectSelection
  | schemaVersionTooOld
  | schemaVersionTooRecent
  | schemaVersionInvalid
  | cannotLoadSqlPlugin
  | cannotLoadFormatPlugin
  | index
  | undefined
  | foreign (value : Int)
  deriving DecidableEq, Repr

structure SqlError where
  code : ErrorCode
  text : Option String
  deriving DecidableEq, Repr

def preludedbError (code : ErrorCode) : SqlError := ⟨code, none⟩

def preludedbErrorVerbose (code : ErrorCode) (text : String) : SqlError := ⟨code, some text⟩

def preludedbErrorCheck (e : SqlError) (code : ErrorCode) : Bool := e.code == code

def ErrorCode.string : ErrorCode → String
  | generic => "Unknown generic error"
  | invalidSettingsString => "Invalid SQL settings string"
  | connection => "Connection error"
  | query => "Query error"
  | invalidColumnNum => "Invalid column num"
  | invalidColumnName => "Invalid column name"
  | invalidValue => "Invalid value"
  | invalidValueType => "Invalid value type"
  | unknownSqlPlugin => "Unknown sql plugin"
  | unknownFormatPlugin => "Unknown format plugin"
  | alreadyInTransaction => "Already in transaction"
  | notInTransaction => "Not in transaction"
  | invalidMessageIdent => "Invalid message ident"
  | invalidSelectedObjectString => "Invalid selected path string"
  | invalidObjectSelection => "Invalid path selection"
  | schemaVersionTooOld => "Database schema version too old"
  | schemaVersionTooRecent => "Database schema version too recent"
  | schemaVersionInvalid => "Database schema version invalid"
  | cannotLoadSqlPlugin => "Cannot load sql plugin"
  | cannotLoadFormatPlugin => "Cannot load format plugin"
  | index => "Invalid index"
  | undefined | foreign _ => "Unknown error code"

def strerror (e : SqlError) : String := e.text.getD e.code.string

end Preludedb.Sql
