import Mathlib.Data.List.TakeWhile
import Preludedb.Foundations.Literals
import Preludedb.Sql.Blobs

/-! The escape of a buffer by each plugin, and the literals of the servers. A `size_t` has `w` bits. -/

namespace Preludedb.Sql

open Foundations Foundations.Buffers Classic

/-- The escape functions of the client libraries. The first two take the bytes of a buffer up to a
length, the second with the flag of its `error` argument; the last one is `%q`, which takes a text. -/
structure EscapeFunctions where
  mysqlRealEscapeString : List UInt8 → List UInt8
  pqEscapeStringConn : List UInt8 → List UInt8 × Bool
  /-- The bytes are characters of the encoding of the connection. -/
  wellEncoded : List UInt8 → Bool
  pqErrorMessage : String
  sqlite3Q : List UInt8 → List UInt8

section Documented

/-- `\0`, `\n`, `\r`, `\\`, `\'`, `\"` and `\Z`. -/
def backslashed (b : UInt8) : List UInt8 :=
  if b = 0 then [92, 48]
  else if b = 10 then [92, 110]
  else if b = 13 then [92, 114]
  else if b = 26 then [92, 90]
  else if b = 92 ∨ b = 39 ∨ b = 34 then [92, b]
  else [b]

def doubled (b : UInt8) : List UInt8 := if b = 39 then [39, 39] else [b]

def beforeZero (bytes : List UInt8) : List UInt8 := bytes.takeWhile (· ≠ 0)

/-- `PQescapeStringConn` stops at a zero byte, and reports what is no text of the encoding. -/
structure EscapeFunctions.Documented (F : EscapeFunctions) : Prop where
  mysql (bytes : List UInt8) : F.mysqlRealEscapeString bytes = bytes.flatMap backslashed
  pgsql (bytes : List UInt8) :
    F.pqEscapeStringConn bytes = ((beforeZero bytes).flatMap doubled, !F.wellEncoded (beforeZero bytes))
  sqlite3 (text : List UInt8) : F.sqlite3Q text = text.flatMap doubled

end Documented

/-- `rsize` is what the escape function returned. -/
def closeLiteral (output : Buffer UInt8) (rsize : ℕ) : Option (Except SqlError (Buffer UInt8)) :=
  ((put output (rsize + 1) 39).bind (put · (rsize + 2) 0)).map .ok

/-- The body that the escape functions of two plugins share: the bytes are escaped after the first
quote, and the text that the library ended with a zero gets its last quote. -/
def escapeInto (w : ℕ) (tooLong : SqlError) (escapeString : List UInt8 → List UInt8 × Option SqlError)
    (input : List UInt8) (inputSize : ℕ) : Option (Except SqlError (Buffer UInt8)) :=
  let rsize := (inputSize * 2 + 3) % 2 ^ w
  if rsize ≤ inputSize then some (.error tooLong)
  else if input.length < inputSize then none
  else do
    let escaped := escapeString (input.take inputSize)
    let output ← put (allocate UInt8 rsize) 0 39
    let output ← puts output 1 (escaped.1 ++ [0])
    escaped.2.elim (closeLiteral output escaped.1.length) fun error => some (.error error)

def mysqlSqlEscapeBinary (F : EscapeFunctions) (w : ℕ) :
    List UInt8 → ℕ → Option (Except SqlError (Buffer UInt8)) :=
  escapeInto w (preludedbError (.foreign (-1))) fun bytes => (F.mysqlRealEscapeString bytes, none)

def pgsqlSqlEscape (F : EscapeFunctions) (w : ℕ) :
    List UInt8 → ℕ → Option (Except SqlError (Buffer UInt8)) :=
  escapeInto w (preludedbError .generic) fun bytes =>
    ((F.pqEscapeStringConn bytes).1, if (F.pqEscapeStringConn bytes).2
      then some (preludedbErrorVerbose .generic F.pqErrorMessage) else none)

/-- The size is not looked at: the argument of `%q` is a text. -/
def sqlite3SqlEscape (F : EscapeFunctions) (input : List UInt8) (_inputSize : ℕ) :
    Option (Except SqlError (Buffer UInt8)) := do
  let text ← cString (input.map some)
  pure (.ok ((quoted (F.sqlite3Q text) ++ [0]).map some))

/-- MySQL has no function for texts, and the one for binary values is called instead. -/
def pluginSqlEscape (F : EscapeFunctions) (w : ℕ) :
    Backend → List UInt8 → ℕ → Option (Except SqlError (Buffer UInt8))
  | .mysql => mysqlSqlEscapeBinary F w
  | .pgsql => pgsqlSqlEscape F w
  | .sqlite3 => sqlite3SqlEscape F

def escapeFast (F : EscapeFunctions) (w : ℕ) (b : Backend) (input : Option (List UInt8)) (inputSize : ℕ) :
    Option (Except SqlError (Buffer UInt8)) :=
  input.elim (some (.ok ([78, 85, 76, 76, 0].map some))) fun input => pluginSqlEscape F w b input inputSize

section Server

def mysqlUnescape (b : UInt8) : UInt8 :=
  if b = 48 then 0
  else if b = 98 then 8
  else if b = 116 then 9
  else if b = 110 then 10
  else if b = 114 then 13
  else if b = 90 then 26
  else b

/-- The literals of a server; with `standard_conforming_strings` a backslash is a character like
any other. -/
def quoting : Backend → Quoting UInt8
  | .mysql => ⟨39, some 92, mysqlUnescape⟩
  | _ => ⟨39, none, id⟩

/-- The text in a block of memory is one literal, and it stands for the bytes. -/
def Denotes (b : Backend) (cells : Buffer UInt8) (bytes : List UInt8) : Prop :=
  (cString cells).bind (quoting b).literal = some bytes

end Server
lemma backslashed_encodes (b : UInt8) : (quoting .mysql).Encodes b (backslashed b) := by
  rw [backslashed]
  split_ifs with hzero hnewline hreturn hcontrol hself
  · rw [hzero]
    exact Quoting.Encodes.escaped 92 48 rfl
  · rw [hnewline]
    exact Quoting.Encodes.escaped 92 110 rfl
  · rw [hreturn]
    exact Quoting.Encodes.escaped 92 114 rfl
  · rw [hcontrol]
    exact Quoting.Encodes.escaped 92 90 rfl
  · have hread := Quoting.Encodes.escaped (k := quoting .mysql) 92 b rfl
    have hb : (quoting .mysql).unescape b = b := by
      obtain rfl | rfl | rfl := hself <;> rfl
    rwa [hb] at hread
  · push Not at hself
    exact Quoting.Encodes.plain b hself.2.1 (fun h => hself.1 (Option.some.inj h))

lemma doubled_encodes {s : Backend} (hs : s ≠ .mysql) (b : UInt8) : (quoting s).Encodes b (doubled b) := by
  have hquoting : quoting s = ⟨39, none, id⟩ := by
    cases s <;> simp [quoting] at hs ⊢
  rw [hquoting, doubled]
  split_ifs with hquote
  · rw [hquote]
    exact Quoting.Encodes.doubled
  · exact Quoting.Encodes.plain b hquote (by simp)

lemma zero_notMem_backslashed (bytes : List UInt8) : 0 ∉ bytes.flatMap backslashed := by
  intro h
  obtain ⟨b, -, hb⟩ := List.mem_flatMap.mp h
  rw [backslashed] at hb
  split_ifs at hb with hzero hnewline hreturn hcontrol
  · simp at hb
  · simp at hb
  · simp at hb
  · simp at hb
  · simp at hb
    exact hzero hb.symm
  · simp at hb
    exact hzero hb.symm

lemma zero_notMem_doubled {bytes : List UInt8} (h : 0 ∉ bytes) : 0 ∉ bytes.flatMap doubled := by
  intro hmem
  obtain ⟨b, hb, hzero⟩ := List.mem_flatMap.mp hmem
  rw [doubled] at hzero
  split_ifs at hzero with hquote
  · simp at hzero
  · simp at hzero
    exact h (hzero ▸ hb)

lemma zero_notMem_beforeZero (bytes : List UInt8) : 0 ∉ beforeZero bytes := by
  intro h
  have hne := List.mem_takeWhile_imp h
  exact absurd hne (by decide)

lemma beforeZero_eq_self {bytes : List UInt8} (h : 0 ∉ bytes) : beforeZero bytes = bytes :=
  List.takeWhile_eq_self_iff.mpr fun b hb => by simpa using fun hzero : b = 0 => h (hzero ▸ hb)

lemma beforeZero_eq_self_iff (bytes : List UInt8) : beforeZero bytes = bytes ↔ 0 ∉ bytes :=
  ⟨fun h => h ▸ zero_notMem_beforeZero bytes, beforeZero_eq_self⟩

lemma quoting_ne (s : Backend) : some (quoting s).quote ≠ (quoting s).escape := by
  cases s <;> simp [quoting]

lemma quoting_quote (s : Backend) : (quoting s).quote = 39 := by
  cases s <;> rfl

/-- A quoted text made of the texts of the bytes denotes the bytes. -/
lemma denotes_quoted {s : Backend} {encode : UInt8 → List UInt8} (hencode : ∀ b, (quoting s).Encodes b (encode b))
    {bytes : List UInt8} {cells : Buffer UInt8} (hcells : cString cells = some (quoted (bytes.flatMap encode))) (value : List UInt8) :
    Denotes s cells value ↔ bytes = value := by
  have hread := Quoting.literal_flatMap (quoting_ne s) fun b (_ : b ∈ bytes) => hencode b
  rw [quoting_quote] at hread
  rw [Denotes, hcells, Option.bind_some, quoted, hread, Option.some_inj]

lemma zero_notMem_quoted {text : List UInt8} (h : 0 ∉ text) : 0 ∉ quoted text := by
  simpa [quoted] using h

/-- The size that is computed does not hold a text as long as the input when it wrapped around. -/
lemma size_of_room {w n : ℕ} (hroom : n + 2 < (n * 2 + 3) % 2 ^ w) : 2 * n + 3 < 2 ^ w := by
  by_contra hwrap
  have hmod := Nat.mod_eq_sub_mod (show 2 ^ w ≤ n * 2 + 3 by omega)
  have hle := Nat.mod_le (n * 2 + 3 - 2 ^ w) (2 ^ w)
  omega

/-- The text ends where the first zero of the buffer is. -/
lemma beforeZero_eq_take_iff {bytes : List UInt8} {n : ℕ} (hmem : 0 ∈ bytes) (hn : n ≤ bytes.length) :
    beforeZero bytes = bytes.take n ↔ 0 ∉ bytes.take n ∧ bytes[n]? = some 0 := by
  induction bytes generalizing n with
  | nil => simp at hmem
  | cons b bytes ih =>
    by_cases hb : b = 0
    · cases n with
      | zero => simp [beforeZero, hb]
      | succ n => simp [beforeZero, hb]
    · cases n with
      | zero => simp [beforeZero, hb]
      | succ n =>
        have hrest : 0 ∈ bytes := by
          obtain h | h := List.mem_cons.mp hmem
          · exact absurd h.symm hb
          · exact h
        have hne : ¬(0 : UInt8) = b := fun h => hb h.symm
        have hrec := ih (n := n) hrest (by simpa using hn)
        simp only [beforeZero, ne_eq, decide_not] at hrec
        simp [beforeZero, hb, hne, hrec]

section Into

variable {w : ℕ} {tooLong : SqlError} {escapeString : List UInt8 → List UInt8 × Option SqlError}
  {input : List UInt8} {inputSize : ℕ}

lemma closeLiteral_filled {size : ℕ} {text : List UInt8} (h : text.length + 3 ≤ size) :
    closeLiteral (filled size (39 :: text ++ [0])) text.length =
      some (.ok (filled size (quoted text ++ [0]))) := by
  have hquote : put (filled size (39 :: text ++ [0])) _ (39 : UInt8) = _ :=
    put_last (39 :: text) 0 39 (by simp; omega)
  have hend : put (filled size (39 :: text ++ [39])) _ (0 : UInt8) = _ :=
    put_filled (39 :: text ++ [39]) 0 (by simp; omega)
  rw [List.length_cons] at hquote
  rw [List.length_append, List.length_cons, List.length_singleton] at hend
  rw [closeLiteral, hquote, Option.bind_some, hend]
  rfl

/-- A text that fits is written between the quotes. -/
lemma escapeInto_eq (hsize : inputSize ≤ input.length) (hlong : inputSize < (inputSize * 2 + 3) % 2 ^ w)
    (hroom : (escapeString (input.take inputSize)).1.length + 2 < (inputSize * 2 + 3) % 2 ^ w)
    (herror : (escapeString (input.take inputSize)).2 = none) :
    escapeInto w tooLong escapeString input inputSize =
      some (.ok (filled ((inputSize * 2 + 3) % 2 ^ w)
        (quoted (escapeString (input.take inputSize)).1 ++ [0]))) := by
  have hfirst : put (filled ((inputSize * 2 + 3) % 2 ^ w) []) _ (39 : UInt8) = _ :=
    put_filled [] 39 (by rw [List.length_nil]; omega)
  have hputs : puts (filled ((inputSize * 2 + 3) % 2 ^ w) [39]) _ ((escapeString (input.take inputSize)).1 ++ [0]) = _ :=
    puts_filled [39] _ (by rw [List.length_append, List.length_singleton, List.length_singleton]; omega)
  rw [List.nil_append, List.length_nil, filled_nil] at hfirst
  rw [List.length_singleton, List.singleton_append, ← List.cons_append] at hputs
  rw [escapeInto, if_neg (by omega), if_neg (by omega)]
  simp only [hfirst, hputs, herror, Option.bind_eq_bind, Option.bind_some, Option.elim_none]
  exact closeLiteral_filled (by omega)

/-- A buffer that is returned had room for the text, and the function reported nothing. -/
lemma escapeInto_room {cells : Buffer UInt8}
    (h : escapeInto w tooLong escapeString input inputSize = some (.ok cells)) :
    inputSize < (inputSize * 2 + 3) % 2 ^ w ∧
      (escapeString (input.take inputSize)).1.length + 2 < (inputSize * 2 + 3) % 2 ^ w ∧
      (escapeString (input.take inputSize)).2 = none := by
  rw [escapeInto] at h
  split_ifs at h with hlong hread
  · cases Option.some.inj h
  · obtain ⟨first, hfirst, h⟩ := Option.bind_eq_some_iff.mp h
    obtain ⟨second, hsecond, h⟩ := Option.bind_eq_some_iff.mp h
    cases herror : (escapeString (input.take inputSize)).2 with
    | some error =>
      rw [herror] at h
      cases Option.some.inj h
    | none =>
      rw [herror] at h
      obtain ⟨closed, hclosed, -⟩ := Option.map_eq_some_iff.mp h
      obtain ⟨third, hthird, hlast⟩ := Option.bind_eq_some_iff.mp hclosed
      have hroom := (put_inside hlast).1
      rw [(put_inside hthird).2, puts_length _ hsecond, (put_inside hfirst).2, allocate,
        List.length_replicate] at hroom
      exact ⟨by omega, hroom, rfl⟩

end Into

/-- The sizes and contents for which a plugin writes the literal of the buffer. -/
def EscapesWhole (F : EscapeFunctions) (w : ℕ) : Backend → List UInt8 → ℕ → Prop
  | .mysql, _, inputSize => 2 * inputSize + 3 < 2 ^ w
  | .pgsql, input, inputSize =>
    2 * inputSize + 3 < 2 ^ w ∧ 0 ∉ input.take inputSize ∧ F.wellEncoded (input.take inputSize) = true
  | .sqlite3, input, inputSize => 0 ∉ input.take inputSize ∧ input[inputSize]? = some 0

section Plugins

variable {F : EscapeFunctions} (hF : F.Documented) {w : ℕ} {input : List UInt8} {inputSize : ℕ}
  (hsize : inputSize ≤ input.length)

include hF

lemma mysql_bounds (bytes : List UInt8) :
    bytes.length ≤ (F.mysqlRealEscapeString bytes).length ∧
      (F.mysqlRealEscapeString bytes).length ≤ 2 * bytes.length := by
  rw [hF.mysql]
  exact Quoting.flatMap_length fun b _ => backslashed_encodes b

lemma pgsql_bounds (bytes : List UInt8) :
    (beforeZero bytes).length ≤ (F.pqEscapeStringConn bytes).1.length ∧
      (F.pqEscapeStringConn bytes).1.length ≤ 2 * (beforeZero bytes).length := by
  rw [hF.pgsql]
  exact Quoting.flatMap_length fun b _ => doubled_encodes (s := .pgsql) (by simp) b

include hsize

lemma mysqlSqlEscapeBinary_denotes_iff :
    (∃ cells, mysqlSqlEscapeBinary F w input inputSize = some (.ok cells) ∧
      Denotes .mysql cells (input.take inputSize)) ↔ 2 * inputSize + 3 < 2 ^ w := by
  have hbounds := mysql_bounds hF (input.take inputSize)
  rw [List.length_take, Nat.min_eq_left hsize] at hbounds
  constructor
  · rintro ⟨cells, hcells, -⟩
    obtain ⟨-, hroom, -⟩ := escapeInto_room hcells
    exact size_of_room (Nat.lt_of_le_of_lt (Nat.add_le_add_right hbounds.1 2) hroom)
  · intro hfits
    have hmod := Nat.mod_eq_of_lt (show inputSize * 2 + 3 < 2 ^ w by omega)
    refine ⟨_, escapeInto_eq hsize (by omega) (by simp only []; omega) rfl, ?_⟩
    have hzero := zero_notMem_backslashed (input.take inputSize)
    rw [hF.mysql]
    exact (denotes_quoted backslashed_encodes (cString_filled (zero_notMem_quoted hzero)) _).mpr rfl

lemma pgsqlSqlEscape_denotes_iff :
    (∃ cells, pgsqlSqlEscape F w input inputSize = some (.ok cells) ∧
      Denotes .pgsql cells (input.take inputSize)) ↔
      2 * inputSize + 3 < 2 ^ w ∧ 0 ∉ input.take inputSize ∧ F.wellEncoded (input.take inputSize) = true := by
  have hbounds := pgsql_bounds hF (input.take inputSize)
  have hbefore : (beforeZero (input.take inputSize)).length ≤ inputSize :=
    (List.takeWhile_prefix _).length_le.trans (by simp)
  have hzero := zero_notMem_doubled (zero_notMem_beforeZero (input.take inputSize))
  have hdenotes : ∀ {size : ℕ}, Denotes .pgsql (filled size
      (quoted (F.pqEscapeStringConn (input.take inputSize)).1 ++ [0])) (input.take inputSize) ↔
        0 ∉ input.take inputSize := by
    intro size
    rw [hF.pgsql, denotes_quoted (doubled_encodes (s := .pgsql) (by simp))
      (cString_filled (zero_notMem_quoted hzero)), beforeZero_eq_self_iff]
  have herror : (if (F.pqEscapeStringConn (input.take inputSize)).2
      then some (preludedbErrorVerbose .generic F.pqErrorMessage) else none) = none ↔
        F.wellEncoded (beforeZero (input.take inputSize)) = true := by
    rw [hF.pgsql]
    simp
  constructor
  · rintro ⟨cells, hcells, hvalue⟩
    obtain ⟨hlong, hroom, hnone⟩ := escapeInto_room hcells
    have heq := hcells.symm.trans (escapeInto_eq hsize hlong hroom hnone)
    rw [Except.ok.inj (Option.some.inj heq), hdenotes] at hvalue
    have hencoded := herror.mp hnone
    rw [beforeZero_eq_self hvalue] at hencoded hbounds
    rw [List.length_take, Nat.min_eq_left hsize] at hbounds
    exact ⟨size_of_room (Nat.lt_of_le_of_lt (Nat.add_le_add_right hbounds.1 2) hroom), hvalue, hencoded⟩
  · rintro ⟨hfits, hnozero, hencoded⟩
    have hmod := Nat.mod_eq_of_lt (show inputSize * 2 + 3 < 2 ^ w by omega)
    rw [← beforeZero_eq_self hnozero] at hencoded
    exact ⟨_, escapeInto_eq hsize (by omega) (by simp only []; omega) (herror.mpr hencoded),
      hdenotes.mpr hnozero⟩

lemma sqlite3SqlEscape_denotes_iff :
    (∃ cells, sqlite3SqlEscape F input inputSize = some (.ok cells) ∧
      Denotes .sqlite3 cells (input.take inputSize)) ↔
      0 ∉ input.take inputSize ∧ input[inputSize]? = some 0 := by
  have hzero := zero_notMem_doubled (zero_notMem_beforeZero input)
  have hdenotes : Denotes .sqlite3 ((quoted (F.sqlite3Q (beforeZero input)) ++ [0]).map some)
      (input.take inputSize) ↔ beforeZero input = input.take inputSize := by
    rw [hF.sqlite3, List.map_append]
    exact denotes_quoted (doubled_encodes (s := .sqlite3) (by simp))
      (cString_append [] (zero_notMem_quoted hzero)) _
  rw [sqlite3SqlEscape, cString_map]
  by_cases hmem : 0 ∈ input
  · rw [if_pos hmem, ← beforeZero_eq_take_iff hmem hsize, ← hdenotes]
    constructor
    · rintro ⟨cells, hcells, hvalue⟩
      rwa [← Except.ok.inj (Option.some.inj hcells)] at hvalue
    · exact fun hvalue => ⟨_, rfl, hvalue⟩
  · rw [if_neg hmem]
    constructor
    · rintro ⟨cells, hcells, -⟩
      cases hcells
    · exact fun h => absurd (List.mem_of_getElem? h.2) hmem

end Plugins

/-- The literal stands for the bytes up to the size when the size that is allocated does not wrap
around, and for the other plugins when the library finds no earlier end of the text. -/
theorem escapeFast_denotes_iff {F : EscapeFunctions} (hF : F.Documented) (w : ℕ) (b : Backend)
    {input : List UInt8} {inputSize : ℕ} (hsize : inputSize ≤ input.length) :
    (∃ cells, escapeFast F w b (some input) inputSize = some (.ok cells) ∧
      Denotes b cells (input.take inputSize)) ↔ EscapesWhole F w b input inputSize := by
  cases b with
  | mysql => exact mysqlSqlEscapeBinary_denotes_iff hF hsize
  | pgsql => exact pgsqlSqlEscape_denotes_iff hF hsize
  | sqlite3 => exact sqlite3SqlEscape_denotes_iff hF hsize

/-- The functions for a connection whose texts are ASCII. -/
def asciiFunctions : EscapeFunctions where
  mysqlRealEscapeString bytes := bytes.flatMap backslashed
  pqEscapeStringConn bytes :=
    ((beforeZero bytes).flatMap doubled, !(beforeZero bytes).all fun b => decide (b < 128))
  wellEncoded bytes := bytes.all fun b => decide (b < 128)
  pqErrorMessage := "incomplete multibyte character"
  sqlite3Q text := text.flatMap doubled

lemma asciiFunctions_documented : asciiFunctions.Documented :=
  ⟨fun _ => rfl, fun _ => rfl, fun _ => rfl⟩

theorem escapeFast_denotes_abc :
    (∃ cells, escapeFast asciiFunctions 64 .pgsql (some [97, 98, 99, 0]) 2 = some (.ok cells) ∧
      Denotes .pgsql cells ([97, 98, 99, 0].take 2)) ↔ EscapesWhole asciiFunctions 64 .pgsql [97, 98, 99, 0] 2 :=
  escapeFast_denotes_iff asciiFunctions_documented 64 .pgsql (by decide)

/-- The first byte of a text of three is asked for. -/
theorem sqlite3_escapes_past_size : ¬ ∀ (F : EscapeFunctions), F.Documented → ∀ (b : Backend)
    (input : List UInt8) (inputSize : ℕ), inputSize ≤ input.length →
      ∃ cells, escapeFast F 64 b (some input) inputSize = some (.ok cells) ∧
        Denotes b cells (input.take inputSize) := by
  intro h
  obtain ⟨cells, hcells, hvalue⟩ := h asciiFunctions asciiFunctions_documented .sqlite3 [97, 98, 99, 0] 1 (by decide)
  have hwritten : escapeFast asciiFunctions 64 .sqlite3 (some [97, 98, 99, 0]) 1 =
      some (.ok ([39, 97, 98, 99, 39, 0].map some)) := rfl
  rw [← Except.ok.inj (Option.some.inj (hwritten.symm.trans hcells))] at hvalue
  exact absurd hvalue (by simp [Denotes]; decide)

end Preludedb.Sql
