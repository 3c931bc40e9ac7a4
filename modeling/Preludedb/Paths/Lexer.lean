import Preludedb.Foundations.Scanners
import Preludedb.Idmef.Path
import Preludedb.Sql.Numerals

/-! The tokens of a selected path: the rules they are cut out by, and the values they carry. A text
stands for the characters before its end. -/

namespace Preludedb.Paths

open Foundations Regular Idmef Sql

/-- `idmef_path_new_fast`, of the message library. -/
class PathReader where
  pathNewFast : String → Except SqlError Path

inductive Keyword
  | max
  | count
  | sum
  | avg
  | interval
  | extract
  | timezone
  | year
  | quarter
  | month
  | week
  | yday
  | mday
  | wday
  | hour
  | min
  | sec
  | msec
  | usec
  | orderAsc
  | orderDesc
  | groupBy
  deriving DecidableEq, Repr

namespace Keyword

def text : Keyword → String
  | max => "max"
  | count => "count"
  | sum => "sum"
  | avg => "avg"
  | interval => "interval"
  | extract => "extract"
  | timezone => "timezone"
  | year => "year"
  | quarter => "quarter"
  | month => "month"
  | week => "week"
  | yday => "yday"
  | mday => "mday"
  | wday => "wday"
  | hour => "hour"
  | min => "min"
  | sec => "sec"
  | msec => "msec"
  | usec => "usec"
  | orderAsc => "order_asc"
  | orderDesc => "order_desc"
  | groupBy => "group_by"

/-- In the order of their rules. -/
def all : List Keyword :=
  [max, count, sum, avg, interval, extract, timezone, year, quarter, month, week, yday, mday, wday,
    hour, min, sec, msec, usec, orderAsc, orderDesc, groupBy]

end Keyword

inductive Punctuation
  | lparen
  | rparen
  | comma
  | colon
  | slash
  deriving DecidableEq, Repr

namespace Punctuation

def char : Punctuation → Char
  | lparen => '('
  | rparen => ')'
  | comma => ','
  | colon => ':'
  | slash => '/'

def all : List Punctuation := [lparen, rparen, comma, colon, slash]

end Punctuation

inductive Terminal
  | string (s : String)
  | idmef (p : Path)
  | number (n : Int)
  | error (e : SqlError)
  | punctuation (p : Punctuation)
  | keyword (k : Keyword)

section Expressions

open Regex

def char (c : Char) : Regex Char := .sat fun d => d == c

def text (s : String) : Regex Char := .word s.toList

/-- `.`, which does not match the end of a line. -/
def anyChar : Regex Char := .sat fun c => c != '\n'

def digit : Regex Char := .sat Char.isDigit

/-- `([^q]|\\.)*` -/
def quotedBody (q : Char) : Regex Char := .star (.alt (.sat fun c => c != q) (.seq (char '\\') anyChar))

def quoted (q : Char) : Regex Char := .seq (char q) (.seq (quotedBody q) (char q))

/-- `-?([0-9]+|[0-9]*\.[0-9]+([eE][-+]?[0-9]+)?)` -/
def numberText : Regex Char :=
  .seq (opt (char '-')) (.alt (plus digit) (.seq (.star digit) (.seq (char '.') (.seq (plus digit)
    (opt (.seq (.alt (char 'e') (char 'E')) (.seq (opt (.alt (char '-') (char '+'))) (plus digit))))))))

/-- `[a-zA-Z0-9_\-]+` -/
def nameText : Regex Char := plus (.sat fun c => isalnum c || c == '_' || c == '-')

/-- `(\-?[0-9\*]+)|(\"[^"]+\")|(\'[^']+')` -/
def indexBody : Regex Char :=
  .alt (.seq (opt (char '-')) (plus (.sat fun c => c.isDigit || c == '*')))
    (.alt (.seq (char '"') (.seq (plus (.sat fun c => c != '"')) (char '"')))
      (.seq (char '\'') (.seq (plus (.sat fun c => c != '\'')) (char '\''))))

def indexText : Regex Char := .seq (char '(') (.seq indexBody (char ')'))

def pathText : Regex Char :=
  .seq (.alt (text "alert") (text "heartbeat")) (.seq (char '.')
    (plus (.seq nameText (.seq (opt indexText) (opt (char '.'))))))

def spaces : Regex Char := plus (.sat isspace)

end Expressions

section Rules

variable (long : LongSize)

/-- The quotes are left out, and the backslashes stay. -/
def unquoted (yytext : List Char) : String := String.ofList yytext.tail.dropLast

/-- `(int) strtol(yytext, NULL, 10)` -/
def atoi (yytext : List Char) : Int := Int.bmod (strtoSigned long.bits yytext).value 0x100000000

def stringRule (q : Char) : Rule Char Terminal := ⟨quoted q, fun yytext => some (.string (unquoted yytext))⟩

def numberRule : Rule Char Terminal := ⟨numberText, fun yytext => some (.number (atoi long yytext))⟩

def keywordRule (k : Keyword) : Rule Char Terminal := ⟨text k.text, fun _ => some (.keyword k)⟩

def pathRule [R : PathReader] : Rule Char Terminal where
  regex := pathText
  action yytext := match R.pathNewFast (String.ofList yytext) with
    | .ok p => some (.idmef p)
    | .error e => some (.error e)

def punctuationRule (p : Punctuation) : Rule Char Terminal := ⟨char p.char, fun _ => some (.punctuation p)⟩

def spaceRule : Rule Char Terminal := ⟨spaces, fun _ => none⟩

/-- An unknown character is reported and passed over. -/
def unknownRule : Rule Char Terminal := ⟨anyChar, fun _ => none⟩

variable [R : PathReader]

def rules : List (Rule Char Terminal) :=
  stringRule '"' :: stringRule '\'' :: numberRule long :: (Keyword.all.map keywordRule ++
    pathRule :: (Punctuation.all.map punctuationRule ++ [spaceRule, unknownRule]))

/-- The tokens that `yylex` returns, up to the end of the text. -/
def yylex (str : List Char) : List Terminal := scan (rules long) str

end Rules

end Preludedb.Paths
