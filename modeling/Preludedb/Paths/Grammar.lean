import Preludedb.Classic.Selection
import Preludedb.Paths.Lexer

/-! The grammar of a selected path with what its actions build, and the parser that reads it from the
left. -/

namespace Preludedb.Paths

open Foundations Idmef Sql Classic

section Objects

/-- The functions among the types of an object. -/
inductive FunctionType
  | min
  | max
  | avg
  | count
  | interval
  | extract
  | timezone
  deriving DecidableEq, Repr

/-- An object of any type, with any number of arguments. -/
inductive SelectedNode
  | idmefPath (p : Path)
  | string (s : String)
  | int (n : Int)
  | function (type : FunctionType) (args : List SelectedNode)

def timeConstraintCode : TimeConstraint → Int
  | .year => 8
  | .month => 1
  | .yday => 2
  | .mday => 3
  | .wday => 4
  | .hour => 5
  | .min => 6
  | .sec => 7
  | .msec => 9
  | .usec => 10
  | .quarter => 11

def intervalUnitCode : IntervalUnit → Int
  | .year => 1
  | .quarter => 2
  | .month => 3
  | .day => 5
  | .hour => 6
  | .min => 7
  | .sec => 8

end Objects

section Actions

def getFilter (table : List (String × Int)) (str : String) : Except SqlError Int :=
  match table.find? fun e => e.1 == str with
  | some e => .ok e.2
  | none => .error (preludedbErrorVerbose .generic s!"Invalid time filter '{str}'")

def extractFilterTable : List (String × Int) :=
  [("year", timeConstraintCode .year), ("month", timeConstraintCode .month),
    ("yday", timeConstraintCode .yday), ("mday", timeConstraintCode .mday),
    ("wday", timeConstraintCode .wday), ("hour", timeConstraintCode .hour),
    ("min", timeConstraintCode .min), ("sec", timeConstraintCode .sec),
    ("msec", timeConstraintCode .msec), ("usec", timeConstraintCode .usec),
    ("quarter", timeConstraintCode .quarter)]

def intervalFilterTable : List (String × Int) :=
  [("year", intervalUnitCode .year), ("month", intervalUnitCode .month),
    ("day", intervalUnitCode .day), ("hour", intervalUnitCode .hour),
    ("min", intervalUnitCode .min), ("sec", intervalUnitCode .sec)]

def getExtractFilter (str : String) : Except SqlError Int := getFilter extractFilterTable str

def getIntervalFilter (str : String) : Except SqlError Int := getFilter intervalFilterTable str

def modifier : Keyword → Option Int
  | .year => some (timeConstraintCode .year)
  | .month => some (timeConstraintCode .month)
  | .yday => some (timeConstraintCode .yday)
  | .mday => some (timeConstraintCode .mday)
  | .wday => some (timeConstraintCode .wday)
  | .hour => some (timeConstraintCode .hour)
  | .min => some (timeConstraintCode .min)
  | .sec => some (timeConstraintCode .sec)
  | _ => none

def oneargfunc : Keyword → Option FunctionType
  | .min => some .min
  | .max => some .max
  | .count => some .count
  | .avg => some .avg
  | _ => none

def unflagged : SelectedPathFlags := ⟨false, false, false⟩

def option : Keyword → Option SelectedPathFlags
  | .orderAsc => some { unflagged with orderAsc := true }
  | .orderDesc => some { unflagged with orderDesc := true }
  | .groupBy => some { unflagged with groupBy := true }
  | _ => none

/-- `f|g` -/
def orFlags (f g : SelectedPathFlags) : SelectedPathFlags :=
  ⟨f.orderAsc || g.orderAsc, f.orderDesc || g.orderDesc, f.groupBy || g.groupBy⟩

end Actions

section Grammar

inductive Nonterminal
  | valuetype
  | value
  deriving DecidableEq, Repr

open Punctuation in
/-- The tokens of a nonterminal, and the object its actions build. -/
inductive Derives : Nonterminal → List Terminal → SelectedNode → Prop
  | idmef {p : Path} : Derives .valuetype [.idmef p] (.idmefPath p)
  | string {s : String} : Derives .valuetype [.string s] (.string s)
  | number {n : Int} : Derives .valuetype [.number n] (.int n)
  | onearg {k : Keyword} {type : FunctionType} {ts : List Terminal} {v : SelectedNode} (hk : oneargfunc k = some type)
      (h : Derives .value ts v) : Derives .valuetype
        (.keyword k :: .punctuation lparen :: (ts ++ [.punctuation rparen])) (.function type [v])
  | extractfunc {ts : List Terminal} {v : SelectedNode} {s : String} {tf : Int} (h : Derives .value ts v)
      (hs : getExtractFilter s = .ok tf) : Derives .valuetype
        (.keyword .extract :: .punctuation lparen ::
          (ts ++ [.punctuation comma, .string s, .punctuation rparen])) (.function .extract [v, .int tf])
  | intervalfunc {ts us : List Terminal} {v u : SelectedNode} {s : String} {tf : Int} (h : Derives .value ts v)
      (h' : Derives .value us u) (hs : getIntervalFilter s = .ok tf) : Derives .valuetype
        (.keyword .interval :: .punctuation lparen :: (ts ++ .punctuation comma ::
          (us ++ [.punctuation comma, .string s, .punctuation rparen]))) (.function .interval [v, u, .int tf])
  | timezonefunc {ts : List Terminal} {v : SelectedNode} {s : String} (h : Derives .value ts v) : Derives .valuetype
        (.keyword .timezone :: .punctuation lparen ::
          (ts ++ [.punctuation comma, .string s, .punctuation rparen])) (.function .timezone [v, .string s])
  | plain {ts : List Terminal} {v : SelectedNode} (h : Derives .valuetype ts v) : Derives .value ts v
  | modified {ts : List Terminal} {v : SelectedNode} {k : Keyword} {code : Int} (h : Derives .valuetype ts v)
      (hk : modifier k = some code) : Derives .value (ts ++ [.punctuation colon, .keyword k])
        (.function .extract [v, .int code])

/-- The options are ored from the left. -/
inductive Options : List Terminal → SelectedPathFlags → Prop
  | one {k : Keyword} {f : SelectedPathFlags} (hk : option k = some f) : Options [.keyword k] f
  | more {ts : List Terminal} {k : Keyword} {f g : SelectedPathFlags} (h : Options ts f) (hk : option k = some g) :
      Options (ts ++ [.punctuation .comma, .keyword k]) (orFlags f g)

inductive Expressions : List Terminal → SelectedNode → SelectedPathFlags → Prop
  | value {ts : List Terminal} {v : SelectedNode} (h : Derives .value ts v) : Expressions ts v unflagged
  | flags {ts us : List Terminal} {v : SelectedNode} {f : SelectedPathFlags} (h : Derives .value ts v) (hf : Options us f) :
      Expressions (ts ++ .punctuation .slash :: us) v f

end Grammar

section Parser

/-- What the parser met and what it expected are left out of the text. -/
def yyerror : SqlError := preludedbErrorVerbose .generic "parser error 'syntax error'"

def expect (p : Punctuation) : List Terminal → Except SqlError (List Terminal)
  | .punctuation q :: ts => if q = p then .ok ts else .error yyerror
  | _ => .error yyerror

def expectString : List Terminal → Except SqlError (String × List Terminal)
  | .string s :: ts => .ok (s, ts)
  | _ => .error yyerror

/-- `tCOMMA tSTRING tRPAREN` -/
def expectLast (ts : List Terminal) : Except SqlError (String × List Terminal) := do
  let (s, ts) ← expectString (← expect .comma ts)
  pure (s, ← expect .rparen ts)

section Values

variable (parseValue : List Terminal → Except SqlError (SelectedNode × List Terminal))

def parseOnearg (type : FunctionType) (ts : List Terminal) : Except SqlError (SelectedNode × List Terminal) := do
  let (v, ts) ← parseValue (← expect .lparen ts)
  pure (.function type [v], ← expect .rparen ts)

def parseExtractfunc (ts : List Terminal) : Except SqlError (SelectedNode × List Terminal) := do
  let (v, ts) ← parseValue (← expect .lparen ts)
  let (s, ts) ← expectLast ts
  pure (.function .extract [v, .int (← getExtractFilter s)], ts)

def parseIntervalfunc (ts : List Terminal) : Except SqlError (SelectedNode × List Terminal) := do
  let (v, ts) ← parseValue (← expect .lparen ts)
  let (u, ts) ← parseValue (← expect .comma ts)
  let (s, ts) ← expectLast ts
  pure (.function .interval [v, u, .int (← getIntervalFilter s)], ts)

def parseTimezonefunc (ts : List Terminal) : Except SqlError (SelectedNode × List Terminal) := do
  let (v, ts) ← parseValue (← expect .lparen ts)
  let (s, ts) ← expectLast ts
  pure (.function .timezone [v, .string s], ts)

def parseFunc (k : Keyword) (ts : List Terminal) : Except SqlError (SelectedNode × List Terminal) :=
  match oneargfunc k with
  | some type => parseOnearg parseValue type ts
  | none => match k with
    | .extract => parseExtractfunc parseValue ts
    | .interval => parseIntervalfunc parseValue ts
    | .timezone => parseTimezonefunc parseValue ts
    | _ => .error yyerror

/-- The error of a path is that of the parser. -/
def parseValuetype : List Terminal → Except SqlError (SelectedNode × List Terminal)
  | .idmef p :: ts => .ok (.idmefPath p, ts)
  | .string s :: ts => .ok (.string s, ts)
  | .number n :: ts => .ok (.int n, ts)
  | .keyword k :: ts => parseFunc parseValue k ts
  | .error e :: _ => .error e
  | _ => .error yyerror

end Values

def parseModifier (v : SelectedNode) : List Terminal → Except SqlError (SelectedNode × List Terminal)
  | .punctuation .colon :: .keyword k :: ts => match modifier k with
    | some code => .ok (.function .extract [v, .int code], ts)
    | none => .error yyerror
  | .punctuation .colon :: _ => .error yyerror
  | ts => .ok (v, ts)

@[simp] def parseValue : ℕ → List Terminal → Except SqlError (SelectedNode × List Terminal)
  | 0, _ => .error yyerror
  | fuel + 1, ts => do
    let (v, ts) ← parseValuetype (parseValue fuel) ts
    parseModifier v ts

@[simp] def parseOptions (f : SelectedPathFlags) : List Terminal → Except SqlError SelectedPathFlags
  | [] => .ok f
  | .punctuation .comma :: .keyword k :: ts => match option k with
    | some g => parseOptions (orFlags f g) ts
    | none => .error yyerror
  | _ => .error yyerror

def parseExpressionOption : List Terminal → Except SqlError SelectedPathFlags
  | .keyword k :: ts => match option k with
    | some f => parseOptions f ts
    | none => .error yyerror
  | _ => .error yyerror

def parseExpressions (ts : List Terminal) : Except SqlError (SelectedNode × SelectedPathFlags) := do
  let (v, ts) ← parseValue ts.length ts
  match ts with
  | [] => pure (v, unflagged)
  | .punctuation .slash :: ts => pure (v, ← parseExpressionOption ts)
  | _ => .error yyerror

/-- `preludedb_path_selection_parse` -/
def pathSelectionParse [PathReader] (long : LongSize) (str : String) :
    Except SqlError (SelectedNode × SelectedPathFlags) :=
  parseExpressions (yylex long str.toList)

end Parser

end Preludedb.Paths
