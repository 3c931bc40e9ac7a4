import Preludedb.Foundations.Conditions
import Preludedb.Classic.Insert

/-! The texts the SQL plugins build for fields, operators and values, as the tokens a server reads:
an escaped value is one literal. -/

namespace Preludedb.Sql

open Foundations Classic Idmef

inductive Lexeme
  | word (s : String)
  | literal (s : String)
  | number (n : Int)
  | comma
  deriving DecidableEq, Repr

abbrev SqlText := List (Token Lexeme)

/-- What the texts take from elsewhere: the escaping of the server's library, the values of the
message library, and the server's reading of texts that are copied as they are. `fits` holds of the
texts that are shorter than the buffer of a field. -/
class Rendering where
  escape : String → Except SqlError String
  valueToString : Data → Except SqlError String
  timestamp : Time → Except SqlError String
  readText : String → SqlText
  fits : SqlText → Bool

/-- A rendering in which a raw text is one word, and no text is too long. -/
@[reducible] def plainRendering : Rendering where
  escape s := .ok s!"'{s}'"
  valueToString _ := .error (preludedbError .generic)
  timestamp _ := .error (preludedbError .generic)
  readText s := [.atom (.word s)]
  fits _ := true

section Texts

def words (ws : List String) : SqlText := ws.map fun w => .atom (.word w)

def literal (s : String) : SqlText := [.atom (.literal s)]

def number (n : Int) : SqlText := [.atom (.number n)]

def comma : SqlText := [.atom .comma]

def paren (t : SqlText) : SqlText := .open :: (t ++ [.close])

/-- `name(arguments)` -/
def call (name : String) (arguments : SqlText) : SqlText := words [name] ++ paren arguments

end Texts

section Operators

inductive CriterionOperator
  | equal
  | equalNocase
  | notEqual
  | notEqualNocase
  | greater
  | greaterOrEqual
  | lesser
  | lesserOrEqual
  | substr
  | substrNocase
  | notSubstr
  | notSubstrNocase
  | regex
  | regexNocase
  | notRegex
  | notRegexNocase
  | null
  | notNull
  deriving DecidableEq, Repr

namespace CriterionOperator

def isNot : CriterionOperator → Bool
  | notEqual | notEqualNocase | notSubstr | notSubstrNocase | notRegex | notRegexNocase
  | notNull => true
  | _ => false

def isNocase : CriterionOperator → Bool
  | equalNocase | notEqualNocase | substrNocase | notSubstrNocase | regexNocase
  | notRegexNocase => true
  | _ => false

def isSubstr : CriterionOperator → Bool
  | substr | substrNocase | notSubstr | notSubstrNocase => true
  | _ => false

end CriterionOperator

open CriterionOperator in
def getOperatorString : Backend → CriterionOperator → Option (List String)
  | .mysql, op => match op with
    | equal => some ["=", "BINARY"]
    | equalNocase => some ["="]
    | notEqual => some ["!=", "BINARY"]
    | notEqualNocase => some ["!="]
    | greater => some [">"]
    | greaterOrEqual => some [">="]
    | lesser => some ["<"]
    | lesserOrEqual => some ["<="]
    | substr => some ["LIKE", "BINARY"]
    | substrNocase => some ["LIKE"]
    | notSubstr => some ["NOT", "LIKE", "BINARY"]
    | notSubstrNocase => some ["NOT", "LIKE"]
    | regex => some ["REGEXP", "BINARY"]
    | regexNocase => some ["REGEXP"]
    | notRegex => some ["NOT", "REGEXP"]
    | notRegexNocase => some ["NOT", "REGEXP", "BINARY"]
    | null => some ["IS", "NULL"]
    | notNull => some ["IS", "NOT", "NULL"]
  | .pgsql, op => match op with
    | equal => some ["="]
    | notEqual => some ["!="]
    | greater => some [">"]
    | greaterOrEqual => some [">="]
    | lesser => some ["<"]
    | lesserOrEqual => some ["<="]
    | substr => some ["LIKE"]
    | substrNocase => some ["ILIKE"]
    | notSubstr => some ["NOT", "LIKE"]
    | notSubstrNocase => some ["NOT", "ILIKE"]
    | regex => some ["~"]
    | regexNocase => some ["~*"]
    | notRegex => some ["!~"]
    | notRegexNocase => some ["!~*"]
    | null => some ["IS", "NULL"]
    | notNull => some ["IS", "NOT", "NULL"]
    | equalNocase | notEqualNocase => none
  | .sqlite3, op => match op with
    | equal | equalNocase => some ["="]
    | notEqual | notEqualNocase => some ["!="]
    | greater => some [">"]
    | greaterOrEqual => some [">="]
    | lesser => some ["<"]
    | lesserOrEqual => some ["<="]
    | substr | substrNocase => some ["LIKE"]
    | notSubstr | notSubstrNocase => some ["NOT", "LIKE"]
    | regex | regexNocase => some ["REGEXP"]
    | notRegex | notRegexNocase => some ["NOT", "REGEXP"]
    | null => some ["IS", "NULL"]
    | notNull => some ["IS", "NOT", "NULL"]

/-- `%s %s %s`, or both sides in lower case. -/
def buildConstraintString (b : Backend) (field : SqlText) (op : CriterionOperator) (value : SqlText) :
    Except SqlError SqlText :=
  match b, getOperatorString b op with
  | .mysql, some name => .ok (field ++ words name ++ value)
  | .mysql, none => .error (bareError (-1))
  | .pgsql, some name => .ok (field ++ words name ++ value)
  | .pgsql, none =>
    if op = .equalNocase then .ok (call "lower" field ++ words ["="] ++ call "lower" value)
    else if op = .notEqualNocase then
      .ok (call "lower" field ++ words ["!="] ++ call "lower" value)
    else .error (bareError (-1))
  | .sqlite3, some name =>
    if op.isNocase then .ok (call "lower" field ++ words name ++ call "lower" value)
    else .ok (field ++ words name ++ value)
  | .sqlite3, none => .error (bareError (-1))

end Operators

section Times

inductive TimeConstraint
  | year
  | quarter
  | month
  | yday
  | mday
  | wday
  | hour
  | min
  | sec
  | msec
  | usec
  deriving DecidableEq, Repr

inductive IntervalUnit
  | year
  | quarter
  | month
  | day
  | hour
  | min
  | sec
  deriving DecidableEq, Repr

variable [R : Rendering]

/-- The field, moved by whole hours. -/
def atOffset (b : Backend) (field : SqlText) (gmtOffset : Int) : SqlText :=
  if gmtOffset = 0 then field
  else match b with
    | .mysql => call "DATE_ADD"
        (field ++ comma ++ words ["INTERVAL"] ++ number (gmtOffset.tdiv 3600) ++ words ["HOUR"])
    | .pgsql => field ++ words ["+", "INTERVAL"] ++ literal s!"{gmtOffset.tdiv 3600} HOUR"
    | .sqlite3 => call "DATETIME" (field ++ comma ++ literal s!"{gmtOffset.tdiv 3600} hours")

/-- `EXTRACT(part FROM field)` -/
def extractPart (part : String) (field : SqlText) : SqlText :=
  call "EXTRACT" (words [part, "FROM"] ++ field)

/-- `STRFTIME('format', field)` -/
def strftime (format : String) (field : SqlText) : SqlText :=
  call "STRFTIME" (literal format ++ comma ++ field)

def extractText (b : Backend) (type : TimeConstraint) (field : SqlText) : Option SqlText :=
  match b, type with
  | .mysql, .quarter => some (call "QUARTER" field)
  | .mysql, .year => some (extractPart "YEAR" field)
  | .mysql, .month => some (extractPart "MONTH" field)
  | .mysql, .yday => some (call "DAYOFYEAR" field)
  | .mysql, .mday => some (call "DAYOFMONTH" field)
  | .mysql, .wday => some (call "WEEKDAY" field)
  | .mysql, .hour => some (extractPart "HOUR" field)
  | .mysql, .min => some (extractPart "MINUTE" field)
  | .mysql, .sec => some (extractPart "SECOND" field)
  | .mysql, .msec => some (paren (extractPart "MICROSECOND" field ++ words ["/"] ++ number 1000))
  | .mysql, .usec => some (extractPart "MICROSECOND" field)
  | .pgsql, .year => some (extractPart "YEAR" field)
  | .pgsql, .quarter => some (extractPart "QUARTER" field)
  | .pgsql, .month => some (extractPart "MONTH" field)
  | .pgsql, .yday => some (extractPart "DOY" field)
  | .pgsql, .mday => some (extractPart "DAY" field)
  | .pgsql, .wday => some (paren (extractPart "ISODOW" field ++ words ["-"] ++ number 1))
  | .pgsql, .hour => some (extractPart "HOUR" field)
  | .pgsql, .min => some (extractPart "MINUTE" field)
  | .pgsql, .sec => some (extractPart "SECOND" field)
  | .pgsql, .msec => some (extractPart "MILLISECOND" field)
  | .pgsql, .usec => some (extractPart "MICROSECOND" field)
  | .sqlite3, .year => some (strftime "%Y" field ++ words ["+"] ++ number 0)
  | .sqlite3, .quarter => some (paren
      (paren (strftime "%m" field ++ words ["+"] ++ number 2) ++ words ["/"] ++ number 3))
  | .sqlite3, .month => some (strftime "%m" field ++ words ["+"] ++ number 0)
  | .sqlite3, .yday => some (strftime "%j" field ++ words ["+"] ++ number 0)
  | .sqlite3, .mday => some (strftime "%d" field ++ words ["+"] ++ number 0)
  | .sqlite3, .wday => some (paren
      (paren (strftime "%w" field ++ words ["+"] ++ number 6) ++ words ["%"] ++ number 7))
  | .sqlite3, .hour => some (strftime "%H" field ++ words ["+"] ++ number 0)
  | .sqlite3, .min => some (strftime "%M" field ++ words ["+"] ++ number 0)
  | .sqlite3, .sec => some (strftime "%S" field ++ words ["+"] ++ number 0)
  | .sqlite3, .msec => some (paren (strftime "%f" field ++ words ["-"] ++ strftime "%S" field) ++
      words ["*"] ++ number 1000)
  | .sqlite3, .usec => none

def buildTimeExtractString (b : Backend) (field : SqlText) (type : TimeConstraint)
    (gmtOffset : Int) : Except SqlError SqlText :=
  if R.fits (atOffset b field gmtOffset) then
    match extractText b type (atOffset b field gmtOffset) with
    | some text => .ok text
    | none => .error (preludedbError .generic)
  else .error (preludedbError .generic)

def buildTimeConstraintString (b : Backend) (field : SqlText) (type : TimeConstraint)
    (op : CriterionOperator) (value : Int) (gmtOffset : Int) : Except SqlError SqlText := do
  let extracted ← buildTimeExtractString b field type gmtOffset
  match getOperatorString b op with
  | none => .error (preludedbError .generic)
  | some name =>
    let wday := if b = .sqlite3 then value.tmod 7 else value.tmod 7 + 1
    let value := if type = .wday then wday else value
    .ok (extracted ++ words name ++ if b = .mysql then literal (toString value) else number value)

def unitWord : Backend → IntervalUnit → Option String
  | .sqlite3, .year => some "years"
  | .sqlite3, .month => some "months"
  | .sqlite3, .day => some "days"
  | .sqlite3, .hour => some "hours"
  | .sqlite3, .min => some "minutes"
  | .sqlite3, .sec => some "seconds"
  | .sqlite3, .quarter => none
  | _, .year => some "YEAR"
  | _, .quarter => some "QUARTER"
  | _, .month => some "MONTH"
  | _, .day => some "DAY"
  | _, .hour => some "HOUR"
  | _, .min => some "MINUTE"
  | _, .sec => some "SECOND"

def buildTimeIntervalString (b : Backend) (field value : SqlText) (unit : IntervalUnit) :
    Except SqlError SqlText :=
  match unitWord b unit with
  | none => .error (preludedbError .generic)
  | some name => match b with
    | .mysql => .ok (paren (field ++ words ["+", "INTERVAL"] ++ value ++ words [name]))
    -- the end pointer of `strtol` is never null
    | .pgsql => .ok (paren (field ++ words ["+"] ++
        paren (value ++ words ["*", "INTERVAL"] ++ literal s!"1 {name}")))
    | .sqlite3 => .ok (call "datetime"
        (field ++ comma ++ value ++ words ["||"] ++ literal s!" {name}"))

/-- The code is that of `ENOSYS`. -/
def notSupported (operation : String) : SqlError :=
  preludedbErrorVerbose (.foreign 38) s!"Database backend does not support '{operation}' operation"

/-- The time zone is put between quotes as it is. -/
def buildTimeTimezoneString (b : Backend) (field : SqlText) (tzvalue : String) :
    Except SqlError SqlText :=
  match b with
  | .mysql => .ok (call "CONVERT_TZ"
      (field ++ comma ++ literal "GMT" ++ comma ++ R.readText s!"'{tzvalue}'"))
  | .pgsql => .ok (call "timezone"
      (R.readText s!"'{tzvalue}'" ++ comma ++ call "timezone" (literal "UTC" ++ comma ++ field)))
  -- the plugin sets no such function
  | .sqlite3 => .error (notSupported "build_time_timezone_string")

end Times

lemma ok_of_bind {α β : Type} {x : Except SqlError α} {f : α → Except SqlError β} {y : β}
    (h : (x >>= f) = .ok y) : ∃ a, x = .ok a ∧ f a = .ok y := by
  cases x with
  | error e => cases h
  | ok a => exact ⟨a, rfl, h⟩

section Shapes

open Form

/-- The lexemes that neither separate items nor join conditions. -/
def Lexeme.ordinary : Lexeme → Bool
  | .word s => s ≠ "AND" && s ≠ "OR"
  | .literal _ | .number _ => true
  | .comma => false

def Ordinary (t : SqlText) : Prop := Made (fun l => l.ordinary = true) t

variable {b : Backend} {field value text : SqlText} {ws : List String}

lemma words_ordinary (hne : ws ≠ []) (h : ∀ w ∈ ws, (Lexeme.word w).ordinary = true) :
    Ordinary (words ws) := by
  have hmap : words ws = (ws.map Lexeme.word).map Token.atom := by
    rw [List.map_map]
    rfl
  rw [Ordinary, hmap]
  refine Made.of_atoms (by simpa using hne) fun l hl => ?_
  obtain ⟨w, hw, rfl⟩ := List.mem_map.mp hl
  exact h w hw

lemma words_whole (ws : List String) : Whole (words ws) := by
  cases ws with
  | nil => exact ⟨[], rfl⟩
  | cons w ws =>
    have hmap : words (w :: ws) = ((w :: ws).map Lexeme.word).map Token.atom := by
      rw [List.map_map]
      rfl
    rw [hmap]
    exact (Made.of_atoms (P := fun _ => True) (by simp) fun _ _ => trivial).whole

lemma word_ordinary {w : String} (h : (Lexeme.word w).ordinary = true) : Ordinary (words [w]) :=
  Made.atom h

lemma literal_ordinary (s : String) : Ordinary (literal s) :=
  Made.atom rfl

lemma number_ordinary (n : Int) : Ordinary (number n) :=
  Made.atom rfl

lemma comma_whole : Whole comma := ⟨[.atom .comma], rfl⟩

/-- An ordinary text that does not begin with a negation. -/
def Leading (t : SqlText) : Prop :=
  ∃ f fs, t = tokensAll (f :: fs) ∧ (∀ a, Form.atom a ∈ f :: fs → a.ordinary = true) ∧
    ∀ a, f = Form.atom a → a ≠ .word "NOT"

lemma Leading.ordinary (h : Leading text) : Ordinary text := by
  obtain ⟨f, fs, rfl, hfs, -⟩ := h
  exact ⟨f :: fs, rfl, List.cons_ne_nil _ _, hfs⟩

lemma Leading.whole (h : Leading text) : Whole text := h.ordinary.whole

lemma Leading.append (h : Leading text) (h' : Ordinary value) : Leading (text ++ value) := by
  obtain ⟨f, fs, rfl, hfs, hf⟩ := h
  obtain ⟨gs, rfl, -, hgs⟩ := h'
  refine ⟨f, fs ++ gs, by simp, fun a ha => ?_, hf⟩
  rw [← List.cons_append] at ha
  rcases List.mem_append.mp ha with ha | ha
  · exact hfs a ha
  · exact hgs a ha

lemma paren_leading (h : Whole field) : Leading (paren field) := by
  obtain ⟨fs, rfl⟩ := h
  refine ⟨.group fs, [], by simp [paren, tokens], fun a ha => ?_, nofun⟩
  cases List.mem_singleton.mp ha

lemma word_leading {w : String} (h : (Lexeme.word w).ordinary = true) (hn : w ≠ "NOT") :
    Leading (words [w]) := by
  refine ⟨.atom (.word w), [], rfl, fun a ha => ?_, fun a ha => ?_⟩
  · cases List.mem_singleton.mp ha
    exact h
  · cases ha
    exact fun hw => hn (by cases hw; rfl)

lemma call_leading {name : String} (hname : (Lexeme.word name).ordinary = true) (hn : name ≠ "NOT")
    (h : Whole field) : Leading (call name field) :=
  (word_leading hname hn).append (paren_leading h).ordinary

lemma extractPart_leading (part : String) (h : Whole field) : Leading (extractPart part field) :=
  call_leading (by decide) (by decide) ((words_whole _).append h)

lemma strftime_leading (format : String) (h : Whole field) : Leading (strftime format field) :=
  call_leading (by decide) (by decide) (((literal_ordinary format).whole.append comma_whole).append h)

/-- `text operator number` -/
lemma calculated_leading {w : String} (hw : (Lexeme.word w).ordinary = true) (n : Int)
    (h : Leading field) : Leading (field ++ words [w] ++ number n) :=
  (h.append (word_ordinary hw)).append (number_ordinary n)

lemma extractText_leading {type : TimeConstraint} (hf : Whole field)
    (h : extractText b type field = some text) : Leading text := by
  have hpart : ∀ part, Leading (extractPart part field) := fun part => extractPart_leading part hf
  have hcall : ∀ name, (Lexeme.word name).ordinary = true → name ≠ "NOT" →
      Leading (call name field) := fun name hname hn => call_leading hname hn hf
  have htime : ∀ format w n, (Lexeme.word w).ordinary = true →
      Leading (strftime format field ++ words [w] ++ number n) := fun format w n hw =>
    calculated_leading hw n (strftime_leading format hf)
  cases b with
  | mysql =>
    cases type <;> cases h <;> first
      | exact hpart _
      | exact hcall _ (by decide) (by decide)
      | exact paren_leading (calculated_leading (by decide) _ (hpart _)).whole
  | pgsql =>
    cases type <;> cases h <;> first
      | exact hpart _
      | exact paren_leading (calculated_leading (by decide) _ (hpart _)).whole
  | sqlite3 =>
    have hminus : Whole (strftime "%f" field ++ words ["-"] ++ strftime "%S" field) :=
      (((strftime_leading "%f" hf).append (word_ordinary (by decide))).append
        (strftime_leading "%S" hf).ordinary).whole
    cases type <;> cases h <;> first
      | exact htime _ _ _ (by decide)
      | exact paren_leading
          (calculated_leading (by decide) _ (paren_leading (htime _ _ _ (by decide)).whole)).whole
      | exact calculated_leading (by decide) _ (paren_leading hminus)

lemma atOffset_whole {gmtOffset : Int} (h : Whole field) : Whole (atOffset b field gmtOffset) := by
  unfold atOffset
  split
  · exact h
  · cases b with
    | mysql => exact (call_leading (by decide) (by decide) ((((h.append comma_whole).append
        (word_ordinary (by decide)).whole).append (number_ordinary _).whole).append
          (word_ordinary (by decide)).whole)).whole
    | pgsql =>
      exact (h.append (words_ordinary (List.cons_ne_nil _ _) (by decide)).whole).append
        (literal_ordinary _).whole
    | sqlite3 =>
      exact (call_leading (by decide) (by decide)
        ((h.append comma_whole).append (literal_ordinary _).whole)).whole

variable [R : Rendering]

lemma buildTimeExtractString_leading {type : TimeConstraint} {gmtOffset : Int} (hf : Whole field)
    (h : buildTimeExtractString b field type gmtOffset = .ok text) : Leading text := by
  unfold buildTimeExtractString at h
  split at h
  · split at h
    case h_1 hextract =>
      cases h
      exact extractText_leading (atOffset_whole hf) hextract
    case h_2 => cases h
  · cases h

omit R in
lemma buildTimeIntervalString_leading {unit : IntervalUnit} (hf : Whole field) (hv : Whole value)
    (h : buildTimeIntervalString b field value unit = .ok text) : Leading text := by
  unfold buildTimeIntervalString at h
  split at h
  · cases h
  · cases b <;> cases h
    · exact paren_leading (((hf.append (words_whole _)).append hv).append (words_whole _))
    · exact paren_leading ((hf.append (words_whole _)).append
        (paren_leading ((hv.append (words_whole _)).append (literal_ordinary _).whole)).whole)
    · exact call_leading (by decide) (by decide) ((((hf.append comma_whole).append hv).append
        (words_whole _)).append (literal_ordinary _).whole)

lemma buildTimeTimezoneString_leading {tzvalue : String} (hf : Whole field)
    (hz : Whole (R.readText s!"'{tzvalue}'"))
    (h : buildTimeTimezoneString b field tzvalue = .ok text) : Leading text := by
  cases b <;> cases h
  · exact call_leading (by decide) (by decide)
      ((((hf.append comma_whole).append (literal_ordinary _).whole).append comma_whole).append hz)
  · exact call_leading (by decide) (by decide) ((hz.append comma_whole).append (call_leading (by decide) (by decide)
      (((literal_ordinary _).whole.append comma_whole).append hf)).whole)

end Shapes

end Preludedb.Sql
