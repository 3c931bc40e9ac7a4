import Preludedb.Foundations.Loops
import Preludedb.Foundations.Buffers
import Preludedb.Sql.Settings

/-! The reading of a settings string as the code does it, over the memory of the string and of the
values: a cursor is an index into the string, the NUL is behind its last character, and the count of
the characters of a value is an `int`. -/

namespace Preludedb.Sql

open Foundations Foundations.Buffers

local instance zeroOfChar : Zero Char := ⟨'\x00'⟩

section Code

/-- The character at a cursor; there is none behind the NUL. -/
def charAt (text : List Char) (i : ℕ) : Option Char := (text ++ [0])[i]?

/-- A turn of a loop that goes on while the characters are of a kind. -/
def scanTurn (kind : Char → Bool) (text : List Char) (i : ℕ) : Option (ℕ ⊕ ℕ) :=
  (charAt text i).map fun c => if kind c then .inl (i + 1) else .inr i

def skipSpacesAt (fuel : ℕ) (text : List Char) (str : ℕ) : Looping ℕ :=
  Looping.loop (scanTurn isspace text) fuel str

/-- The name that was found, and the cursor behind it. -/
def getNameAt (fuel : ℕ) (text : List Char) (str : ℕ) : Looping (Except SqlError (Option (List Char × ℕ))) :=
  (skipSpacesAt fuel text str).bind fun start =>
    (Looping.ofOption (charAt text start)).bind fun c =>
      if c = 0 then .ended (.ok none)
      else (Looping.loop (scanTurn isNameChar text) fuel start).bind fun str =>
        (Looping.ofOption (charAt text str)).map fun c =>
          if c ≠ '=' ∨ str = start then .error (preludedbError .invalidSettingsString)
          else .ok (some ((text.drop start).take (str - start), str + 1))

structure ValueState where
  escaped : Bool
  cnt : ℕ
  value : Buffer Char
  str : ℕ

/-- `(*value)[cnt++] = **str`: the count may not grow beyond an `int`. -/
def storeChar (c : Char) (s : ValueState) : Option ValueState :=
  (put s.value s.cnt c).bind fun value =>
    if s.cnt + 1 < 2 ^ 31 then some { s with value := value, cnt := s.cnt + 1 } else none

def valueTurn (endOfString : Char) (text : List Char) (s : ValueState) : Option (ValueState ⊕ ValueState) :=
  (charAt text s.str).bind fun c =>
    if c = 0 then some (.inr s)
    else if s.escaped then (storeChar c s).map fun s => .inl { s with escaped := false, str := s.str + 1 }
    else if c = '\\' then some (.inl { s with escaped := true, str := s.str + 1 })
    else if c = endOfString then some (.inr { s with str := s.str + 1 })
    else (storeChar c s).map fun s => .inl { s with str := s.str + 1 }

/-- The text that the value holds afterwards, and the cursor behind it. -/
def getValueAt (fuel : ℕ) (text : List Char) (str : ℕ) : Looping (Except SqlError (List Char × ℕ)) :=
  (Looping.ofOption (charAt text str)).bind fun c =>
    let value := cleared (text.length - str + 1) []
    let quote := isQuote c
    (Looping.loop (valueTurn (if quote then c else ' ') text) fuel
      ⟨false, 0, value, if quote then str + 1 else str⟩).bind fun s =>
      (Looping.ofOption (charAt text s.str)).bind fun c =>
        if c = 0 ∧ quote then .ended (.error (preludedbError .invalidSettingsString))
        else (Looping.ofOption (cString s.value)).map fun value => .ok (value, s.str)

/-- What `get_name` returns, an `int`. -/
def nameRet (name : List Char) : Int := (name.length : Int).bmod (2 ^ 32)

/-- At most `fuel` turns of each loop. -/
def setFromStringAt (n : ℕ) (text : List Char) : ℕ → ℕ → Settings → Looping (Except SqlError Unit × Settings)
  | 0, _, _ => .running
  | fuel + 1, str, settings =>
    (getNameAt n text str).bind fun
      | .error e => .ended (.error e, settings)
      | .ok none => .ended (.ok (), settings)
      | .ok (some (name, str)) =>
        if nameRet name = 0 then .ended (.ok (), settings)
        else if nameRet name < 0 then .ended (.error (preludedbError (.foreign (nameRet name))), settings)
        else (getValueAt n text str).bind fun
          | .error e => .ended (.error e, settings)
          | .ok (value, str) => setFromStringAt n text fuel str (Settings.set settings name value)

end Code

section Scans

variable {before rest : List Char} {fuel : ℕ}

lemma charAt_append (before rest : List Char) : charAt (before ++ rest) before.length = some (rest.headD 0) := by
  rw [charAt, List.append_assoc, List.getElem?_append_right le_rfl, Nat.sub_self]
  cases rest <;> rfl

lemma head_ne_zero {c : Char} (h : 0 ∉ c :: rest) : c ≠ 0 := fun hc => h (by rw [hc]; exact List.mem_cons_self)

lemma scanLoop_eq {kind : Char → Bool} (hkind : kind 0 = false) (before : List Char) (fuel : ℕ)
    (hfuel : rest.length < fuel) :
    Looping.loop (scanTurn kind (before ++ rest)) fuel before.length =
      .ended (before ++ rest.takeWhile kind).length := by
  induction rest generalizing before fuel with
  | nil =>
    obtain ⟨fuel, rfl⟩ := Nat.exists_eq_add_of_lt hfuel
    have hstop : scanTurn kind (before ++ []) before.length = some (.inr before.length) := by
      rw [scanTurn, charAt_append]
      simp [hkind]
    rw [List.takeWhile_nil, List.append_nil] at *
    exact Looping.loop_end hstop _
  | cons c rest ih =>
    rw [List.length_cons] at hfuel
    obtain ⟨fuel, rfl⟩ : ∃ n, fuel = n + 1 := ⟨fuel - 1, by omega⟩
    cases hc : kind c with
    | false =>
      have hstop : scanTurn kind (before ++ c :: rest) before.length = some (.inr before.length) := by
        rw [scanTurn, charAt_append]
        simp [hc]
      rw [Looping.loop_end hstop, List.takeWhile_cons_of_neg (by simp [hc]), List.append_nil]
    | true =>
      have hgo : scanTurn kind (before ++ c :: rest) before.length = some (.inl (before.length + 1)) := by
        rw [scanTurn, charAt_append]
        simp [hc]
      have hrest := ih (before ++ [c]) fuel (by omega)
      rw [List.append_assoc, List.singleton_append, List.length_append, List.length_singleton] at hrest
      rw [Looping.loop_next hgo, hrest, List.takeWhile_cons_of_pos hc, List.append_assoc, List.singleton_append]

/-- The name is the one of the scanner of characters, and the cursor stands before what that leaves. -/
lemma getNameAt_eq (h : 0 ∉ rest) (hfuel : rest.length < fuel) :
    getNameAt fuel (before ++ rest) before.length =
      .ended ((getName rest).map (Option.map (Prod.map id fun left => (before ++ rest).length - left.length))) := by
  have hskip : rest.takeWhile isspace ++ skipSpaces rest = rest := List.takeWhile_append_dropWhile
  have hshort : (skipSpaces rest).length ≤ rest.length := (List.dropWhile_sublist _).length_le
  have hzero : 0 ∉ skipSpaces rest := fun hmem => h ((List.dropWhile_sublist _).mem hmem)
  have hname : (skipSpaces rest).takeWhile isNameChar ++ (skipSpaces rest).dropWhile isNameChar = skipSpaces rest :=
    List.takeWhile_append_dropWhile
  have htext : before ++ rest = (before ++ rest.takeWhile isspace) ++ skipSpaces rest := by
    rw [List.append_assoc, hskip]
  have hstart := charAt_append (before ++ rest.takeWhile isspace) (skipSpaces rest)
  rw [← htext] at hstart
  rw [getNameAt, skipSpacesAt, scanLoop_eq (by decide) _ _ hfuel, Looping.ended_bind, hstart, Looping.ofOption_some,
    Looping.ended_bind]
  generalize hstartText : before ++ rest.takeWhile isspace = front at *
  generalize hrest : skipSpaces rest = start at *
  cases start with
  | nil =>
    have hnone : getName rest = .ok none := by simp [getName, hrest]
    rw [hnone]
    rfl
  | cons c start =>
    have hc : (c :: start).headD 0 = c := rfl
    rw [hc, if_neg (head_ne_zero hzero), htext, scanLoop_eq (by decide) _ _ (by omega), Looping.ended_bind]
    generalize hkept : (c :: start).takeWhile isNameChar = name at *
    generalize hleft : (c :: start).dropWhile isNameChar = left at *
    have hend := charAt_append (front ++ name) left
    rw [List.append_assoc, hname] at hend
    rw [hend, Looping.ofOption_some, Looping.map, Looping.ended_bind]
    have hsame : ((front ++ name).length = front.length) ↔ name = [] := by
      rw [List.length_append, Nat.add_eq_left, List.length_eq_zero_iff]
    have hcut : ((front ++ c :: start).drop front.length).take ((front ++ name).length - front.length) = name := by
      rw [List.drop_left, List.length_append, Nat.add_sub_cancel_left, ← hname, List.take_left]
    rw [hcut]
    have hne : skipSpaces rest ≠ [] := by simp [hrest]
    by_cases hequals : left.headD 0 = '='
    · obtain ⟨left, rfl⟩ : ∃ left', left = '=' :: left' := by
        cases left with
        | nil => cases hequals
        | cons c' left =>
          obtain rfl : c' = '=' := hequals
          exact ⟨left, rfl⟩
      have hget : getName rest =
          if name = [] then .error (preludedbError .invalidSettingsString) else .ok (some (name, left)) := by
        simp only [getName, hrest, hleft, hkept]
        simp
      have hlength : (front ++ name).length + 1 = (front ++ c :: start).length - left.length := by
        rw [← hname]
        simp only [List.length_append, List.length_cons]
        omega
      rw [hget]
      by_cases hempty : name = []
      · rw [if_pos (.inr (hsame.mpr hempty)), if_pos hempty]
        rfl
      · rw [if_neg (by rw [hsame]; simp [hempty]), if_neg hempty, hlength]
        rfl
    · have hget : getName rest = .error (preludedbError .invalidSettingsString) := by
        simp only [getName, hrest, hleft, hkept]
        cases left with
        | nil => simp
        | cons c' left =>
          have hc' : c' ≠ '=' := hequals
          simp [hc']
      rw [hget, if_pos (.inl hequals)]
      rfl

end Scans

section Values

variable {before rest xs : List Char} {fuel size : ℕ} {e : Char}

lemma storeChar_eq {c : Char} {escaped : Bool} {str : ℕ} (hroom : xs.length < size) :
    storeChar c ⟨escaped, xs.length, cleared size xs, str⟩ = if xs.length + 1 < 2 ^ 31 then
      some ⟨escaped, (xs ++ [c]).length, cleared size (xs ++ [c]), str⟩ else none := by
  rw [storeChar, put_cleared c hroom, Option.bind_some, List.length_append, List.length_singleton]

/-- The loop of a value against the scanner of characters. -/
def Scanned (size : ℕ) (text xs : List Char) (scanned : List Char × List Char) (loop : Looping ValueState) : Prop :=
  if xs.length + scanned.1.length < 2 ^ 31 then
    ∃ escaped, loop = .ended ⟨escaped, (xs ++ scanned.1).length, cleared size (xs ++ scanned.1), text.length - scanned.2.length⟩
  else loop = .outside

lemma scanned_end {text : List Char} {escaped : Bool} {str : ℕ} (hcount : xs.length < 2 ^ 31)
    (hstr : str = text.length - rest.length) :
    Scanned size text xs ([], rest) (.ended ⟨escaped, xs.length, cleared size xs, str⟩) := by
  have hsame : xs ++ [] = xs := List.append_nil xs
  rw [Scanned, hsame, hstr]
  exact (if_pos (show xs.length + 0 < 2 ^ 31 from hcount)).mpr ⟨escaped, rfl⟩

/-- A character is stored, or the count has become too large. -/
lemma scanned_store {c : Char} {text : List Char} {scanned : List Char × List Char} {loop loop' : Looping ValueState}
    (hnext : xs.length + 1 < 2 ^ 31 → loop = loop') (hlast : ¬ xs.length + 1 < 2 ^ 31 → loop = .outside)
    (h : xs.length + 1 < 2 ^ 31 → Scanned size text (xs ++ [c]) scanned loop') :
    Scanned size text xs (scanned.map (c :: ·) id) loop := by
  by_cases hlt : xs.length + 1 < 2 ^ 31
  · have hrest := h hlt
    rw [Scanned, List.length_append, List.length_singleton, ← hnext hlt] at hrest
    rw [Scanned]
    have hsum : xs.length + (Prod.map (c :: ·) id scanned).1.length = xs.length + 1 + scanned.1.length := by
      simp only [Prod.map_fst, List.length_cons]
      omega
    rw [hsum]
    simpa using hrest
  · rw [Scanned, if_neg (by simp only [Prod.map_fst, List.length_cons]; omega)]
    exact hlast hlt

lemma valueTurn_store (before rest : List Char) {c : Char} {escaped : Bool} (hc : c ≠ 0) (hroom : xs.length < size)
    (hstore : escaped = true ∨ c ≠ '\\' ∧ c ≠ e) :
    valueTurn e (before ++ c :: rest) ⟨escaped, xs.length, cleared size xs, before.length⟩ =
      if xs.length + 1 < 2 ^ 31 then
        some (.inl ⟨false, (xs ++ [c]).length, cleared size (xs ++ [c]), before.length + 1⟩) else none := by
  have hread : charAt (before ++ c :: rest) before.length = some c := charAt_append _ _
  rw [valueTurn, hread, Option.bind_some, if_neg hc]
  cases escaped with
  | true =>
    rw [if_pos rfl, storeChar_eq hroom]
    split_ifs <;> rfl
  | false =>
    obtain ⟨hslash, hend⟩ := hstore.resolve_left Bool.false_ne_true
    rw [if_neg Bool.false_ne_true, if_neg hslash, if_neg hend, storeChar_eq hroom]
    split_ifs <;> rfl

/-- The induction is on what is left of the text, and follows the scanner. -/
lemma valueLoop_scanned (before xs : List Char) (fuel : ℕ) (escaped : Bool) (h : 0 ∉ rest) (hroom : xs.length + rest.length < size)
    (hcount : xs.length < 2 ^ 31) (hfuel : rest.length < fuel) :
    Scanned size (before ++ rest) xs (scanValue e escaped rest) (Looping.loop (valueTurn e (before ++ rest)) fuel
      ⟨escaped, xs.length, cleared size xs, before.length⟩) := by
  induction rest generalizing before xs fuel escaped with
  | nil =>
    obtain ⟨fuel, rfl⟩ : ∃ n, fuel = n + 1 := ⟨fuel - 1, by rw [List.length_nil] at hfuel; omega⟩
    have hread : charAt (before ++ []) before.length = some 0 := charAt_append _ _
    have hscan : scanValue e escaped [] = ([], []) := by cases escaped <;> rfl
    have hstop : valueTurn e (before ++ []) ⟨escaped, xs.length, cleared size xs, before.length⟩ =
        some (.inr ⟨escaped, xs.length, cleared size xs, before.length⟩) := by
      rw [valueTurn, hread, Option.bind_some, if_pos rfl]
    rw [Looping.loop_end hstop, hscan]
    exact scanned_end hcount (by simp)
  | cons c rest ih =>
    rw [List.length_cons] at hroom hfuel
    obtain ⟨fuel, rfl⟩ : ∃ n, fuel = n + 1 := ⟨fuel - 1, by omega⟩
    have hc := head_ne_zero h
    have hrest : 0 ∉ rest := fun hmem => h (List.mem_cons_of_mem _ hmem)
    have htext : before ++ c :: rest = (before ++ [c]) ++ rest := by simp
    have hlength : (before ++ [c]).length = before.length + 1 := by simp
    have hread : charAt (before ++ c :: rest) before.length = some c := charAt_append _ _
    have hstored : ∀ {escaped : Bool}, escaped = true ∨ c ≠ '\\' ∧ c ≠ e →
        Scanned size (before ++ c :: rest) xs ((scanValue e false rest).map (c :: ·) id)
          (Looping.loop (valueTurn e (before ++ c :: rest)) (fuel + 1)
            ⟨escaped, xs.length, cleared size xs, before.length⟩) := by
      intro escaped hstore
      have hturn := valueTurn_store (e := e) before rest hc (show xs.length < size by omega) hstore
      refine scanned_store (fun hlt => Looping.loop_next (by rw [hturn, if_pos hlt]) fuel)
        (fun hge => Looping.loop_outside (by rw [hturn, if_neg hge]) fuel) fun hlt => ?_
      have hnext := ih (before ++ [c]) (xs ++ [c]) fuel false hrest
        (by simp; omega) (by simpa using hlt) (by omega)
      rwa [← htext, hlength] at hnext
    cases escaped with
    | true => exact hstored (.inl rfl)
    | false =>
      by_cases hslash : c = '\\'
      · have hturn : valueTurn e (before ++ c :: rest) ⟨false, xs.length, cleared size xs, before.length⟩ =
            some (.inl ⟨true, xs.length, cleared size xs, before.length + 1⟩) := by
          rw [valueTurn, hread, Option.bind_some, if_neg hc, if_neg Bool.false_ne_true, if_pos hslash]
        have hscan : scanValue e false (c :: rest) = scanValue e true rest := by rw [scanValue, if_pos hslash]
        have hnext := ih (before ++ [c]) xs fuel true hrest (by omega) hcount (by omega)
        rw [Looping.loop_next hturn, hscan]
        rwa [← htext, hlength] at hnext
      · by_cases hend : c = e
        · have hturn : valueTurn e (before ++ c :: rest) ⟨false, xs.length, cleared size xs, before.length⟩ =
              some (.inr ⟨false, xs.length, cleared size xs, before.length + 1⟩) := by
            rw [valueTurn, hread, Option.bind_some, if_neg hc, if_neg Bool.false_ne_true, if_neg hslash, if_pos hend]
          have hscan : scanValue e false (c :: rest) = ([], rest) := by
            rw [scanValue, if_neg hslash, if_pos hend]
          rw [Looping.loop_end hturn, hscan]
          refine scanned_end hcount ?_
          simp only [List.length_append, List.length_cons]
          omega
        · have hscan : scanValue e false (c :: rest) = (scanValue e false rest).map (c :: ·) id := by
            rw [scanValue, if_neg hslash, if_neg hend]
          rw [hscan]
          exact hstored (.inr ⟨hslash, hend⟩)

/-- The value that stands at the start of a text, and what is behind it. -/
def valueOf (str : List Char) : List Char × List Char :=
  if isQuote (str.headD 0) then scanValue (str.headD 0) false str.tail else scanValue ' ' false str

lemma getValue_eq (str : List Char) : getValue str =
    if isQuote (str.headD 0) ∧ (valueOf str).2 = [] then .error (preludedbError .invalidSettingsString)
    else .ok (valueOf str) := by
  cases str with
  | nil => rfl
  | cons c str =>
    rw [getValue, valueOf]
    cases hq : isQuote c <;> simp [hq]

lemma scanValue_sublist (e : Char) (escaped : Bool) (str : List Char) :
    (scanValue e escaped str).1.Sublist str ∧ (scanValue e escaped str).2 <:+ str := by
  fun_induction scanValue e escaped str with
  | case1 => exact ⟨List.nil_sublist _, List.suffix_rfl⟩
  | case2 c str ih => exact ⟨ih.1.cons_cons c, ih.2.trans (List.suffix_cons c str)⟩
  | case3 str ih => exact ⟨ih.1.cons _, ih.2.trans (List.suffix_cons _ str)⟩
  | case4 str => exact ⟨List.nil_sublist _, List.suffix_cons _ str⟩
  | case5 c str _ _ ih => exact ⟨ih.1.cons_cons c, ih.2.trans (List.suffix_cons c str)⟩

lemma valueOf_sublist (str : List Char) : (valueOf str).1.Sublist str ∧ (valueOf str).2 <:+ str := by
  rw [valueOf]
  split_ifs with hq
  · obtain ⟨hvalue, hleft⟩ := scanValue_sublist (str.headD 0) false str.tail
    exact ⟨hvalue.trans (List.tail_sublist str), hleft.trans (List.tail_suffix str)⟩
  · exact scanValue_sublist _ _ _

/-- The loop of `getValueAt` reads the value that stands before the cursor. -/
lemma valueLoop_valueOf (before : List Char) (fuel : ℕ) (h : 0 ∉ rest) (hfuel : rest.length < fuel) :
    Scanned (rest.length + 1) (before ++ rest) [] (valueOf rest)
      (Looping.loop (valueTurn (if isQuote (rest.headD 0) then rest.headD 0 else ' ') (before ++ rest)) fuel
        ⟨false, 0, cleared (rest.length + 1) [],
          if isQuote (rest.headD 0) then before.length + 1 else before.length⟩) := by
  rw [valueOf]
  split_ifs with hq
  · cases rest with
    | nil => exact absurd hq (by decide)
    | cons c rest =>
      have htext : before ++ c :: rest = (before ++ [c]) ++ rest := by simp
      have hlength : (before ++ [c]).length = before.length + 1 := by simp
      rw [List.length_cons] at hfuel
      have hloop := @valueLoop_scanned _ ((c :: rest).length + 1) c (before ++ [c]) [] fuel false
        (fun hmem => h (List.mem_cons_of_mem _ hmem)) (by simp) (by simp) (by omega)
      rwa [← htext, hlength] at hloop
  · exact valueLoop_scanned before [] fuel false h (by simp) (by simp) hfuel

lemma charAt_left {left : List Char} (hleft : left <:+ rest) (before : List Char) :
    charAt (before ++ rest) ((before ++ rest).length - left.length) = some (left.headD 0) := by
  obtain ⟨front, rfl⟩ := hleft
  rw [← List.append_assoc, List.length_append, Nat.add_sub_cancel]
  exact charAt_append _ _

lemma headD_eq_zero {left : List Char} (h : 0 ∉ left) : left.headD 0 = 0 ↔ left = [] := by
  cases left with
  | nil => exact iff_of_true rfl rfl
  | cons c left => exact iff_of_false (head_ne_zero h) (List.cons_ne_nil _ _)

lemma getValueAt_eq (before : List Char) (h : 0 ∉ rest) (hfuel : rest.length < fuel) :
    getValueAt fuel (before ++ rest) before.length = if (valueOf rest).1.length < 2 ^ 31 then
      .ended ((getValue rest).map (Prod.map id fun left => (before ++ rest).length - left.length)) else .outside := by
  have hsize : (before ++ rest).length - before.length = rest.length := by
    rw [List.length_append, Nat.add_sub_cancel_left]
  obtain ⟨hvalue, hleft⟩ := valueOf_sublist rest
  have hloop := valueLoop_valueOf before fuel h hfuel
  rw [Scanned, List.length_nil, Nat.zero_add] at hloop
  rw [getValueAt, charAt_append, Looping.ofOption_some, Looping.ended_bind, hsize]
  by_cases hcount : (valueOf rest).1.length < 2 ^ 31
  · rw [if_pos hcount] at hloop ⊢
    obtain ⟨escaped, hended⟩ := hloop
    have hstored : cString (cleared (rest.length + 1) (valueOf rest).1) = some (valueOf rest).1 :=
      cString_cleared (fun hmem => h (hvalue.mem hmem)) (Nat.lt_succ_of_le hvalue.length_le)
    have hzero : (valueOf rest).2.headD 0 = 0 ↔ (valueOf rest).2 = [] :=
      headD_eq_zero fun hmem => h (hleft.mem hmem)
    dsimp only
    rw [hended, Looping.ended_bind, charAt_left hleft, Looping.ofOption_some, Looping.ended_bind, getValue_eq,
      List.nil_append, hstored, Looping.ofOption_some]
    by_cases hopen : isQuote (rest.headD 0) ∧ (valueOf rest).2 = []
    · rw [if_pos hopen, if_pos ⟨hzero.mpr hopen.2, hopen.1⟩]
      rfl
    · rw [if_neg hopen, if_neg fun hend => hopen ⟨hend.2, hzero.mp hend.1⟩]
      rfl
  · rw [if_neg hcount] at hloop ⊢
    dsimp only
    rw [hloop, Looping.outside_bind]

end Values

section Runs

variable {rest left : List Char} {settings : Settings}

lemma getName_some {name : List Char} (h : getName rest = .ok (some (name, left))) :
    left <:+ rest ∧ name ≠ [] ∧ name.length ≤ rest.length := by
  have hskip : skipSpaces rest <:+ rest := List.dropWhile_suffix _
  simp only [getName] at h
  by_cases hstart : skipSpaces rest = []
  · rw [if_pos hstart] at h
    cases h
  rw [if_neg hstart] at h
  split at h
  · rename_i hdrop
    split_ifs at h with hname
    cases h
    have hequals : '=' :: left <:+ skipSpaces rest := hdrop ▸ List.dropWhile_suffix _
    have htaken := (List.takeWhile_sublist isNameChar (l := skipSpaces rest)).length_le
    exact ⟨(List.suffix_cons '=' left).trans (hequals.trans hskip), hname, htaken.trans hskip.length_le⟩
  · cases h

lemma nameRet_pos {name : List Char} (hne : name ≠ []) (hlt : name.length < 2 ^ 31) : 0 < nameRet name := by
  have hpos := List.length_pos_of_ne_nil hne
  have hsame : nameRet name = name.length := by
    apply Int.bmod_eq_of_le_mul_two
    · omega
    · omega
  rw [hsame]
  exact Int.natCast_pos.mpr hpos

lemma getValue_valueOf {value : List Char} (h : getValue rest = .ok (value, left)) : valueOf rest = (value, left) := by
  rw [getValue_eq] at h
  split_ifs at h
  exact Except.ok.inj h

/-- What is behind the name that the loop goes on with. -/
def behindName (str : List Char) : Option (List Char) :=
  match getName str with
  | .ok (some (name, rest)) => if 0 < nameRet name then some rest else none
  | _ => none

lemma behindName_some {name : List Char} (hname : getName rest = .ok (some (name, left))) :
    behindName rest = if 0 < nameRet name then some left else none := by
  rw [behindName, hname]

lemma behindName_length (h : behindName rest = some left) : left.length < rest.length := by
  rw [behindName] at h
  split at h
  · rename_i hname
    split_ifs at h
    cases h
    exact getName_length hname
  · cases h

/-- The values of a settings string, up to the one that is not closed. -/
def valuesOf (str : List Char) : List (List Char) :=
  match _hn : behindName str with
  | none => []
  | some rest =>
    match _hv : getValue rest with
    | .ok (value, rest') => value :: valuesOf rest'
    | .error _ => [(valueOf rest).1]
termination_by str.length
decreasing_by exact (getValue_length _hv).trans_lt (behindName_length _hn)

lemma valuesOf_none (h : behindName rest = none) : valuesOf rest = [] := by
  rw [valuesOf]
  split
  · rfl
  · rename_i h'
    rw [h] at h'
    cases h'

lemma valuesOf_open {e : SqlError} (hn : behindName rest = some left) (hv : getValue left = .error e) :
    valuesOf rest = [(valueOf left).1] := by
  rw [valuesOf]
  split
  · rename_i hn'
    rw [hn] at hn'
    cases hn'
  · rename_i hn'
    rw [hn] at hn'
    cases hn'
    split
    · rename_i hv'
      rw [hv] at hv'
      cases hv'
    · rfl

lemma valuesOf_next {value left' : List Char} (hn : behindName rest = some left)
    (hv : getValue left = .ok (value, left')) : valuesOf rest = (valueOf left).1 :: valuesOf left' := by
  rw [valuesOf, getValue_valueOf hv]
  split
  · rename_i hn'
    rw [hn] at hn'
    cases hn'
  · rename_i hn'
    rw [hn] at hn'
    cases hn'
    split
    · rename_i hv'
      rw [hv] at hv'
      cases hv'
      rfl
    · rename_i hv'
      rw [hv] at hv'
      cases hv'

lemma valuesOf_length {v : List Char} (hv : v ∈ valuesOf rest) : v.length ≤ rest.length := by
  fun_induction valuesOf rest with
  | case1 => cases hv
  | case2 str left hn value left' hvalue ih =>
    have hname := behindName_length hn
    rcases List.mem_cons.mp hv with rfl | hv
    · have hlength := (valueOf_sublist left).1.length_le
      rw [getValue_valueOf hvalue] at hlength
      exact hlength.trans hname.le
    · exact (ih hv).trans ((getValue_length hvalue).trans hname.le)
  | case3 str left hn e hvalue =>
    rw [List.mem_singleton.mp hv]
    exact (valueOf_sublist left).1.length_le.trans (behindName_length hn).le

/-- Where the cursor stands before what a scanner left. -/
lemma cursor_left (hleft : left <:+ rest) (before : List Char) : ∃ front, before ++ rest = front ++ left ∧
    (before ++ rest).length - left.length = front.length := by
  obtain ⟨front, rfl⟩ := hleft
  refine ⟨before ++ front, (List.append_assoc ..).symm, ?_⟩
  rw [← List.append_assoc, List.length_append, Nat.add_sub_cancel]

/-- The induction is on the turns that are left, of which the text takes no more than it has characters. -/
lemma setFromStringAt_cases (n fuel : ℕ) (before rest : List Char) (settings : Settings) (h : 0 ∉ rest)
    (hn : rest.length < n) (hfuel : rest.length < fuel) :
    ((∀ v ∈ valuesOf rest, v.length < 2 ^ 31) ∧
      ∃ r, setFromStringAt n (before ++ rest) fuel before.length settings = .ended r ∧
        (rest.length < 2 ^ 31 → r = setFromString settings rest)) ∨
    ((¬ ∀ v ∈ valuesOf rest, v.length < 2 ^ 31) ∧
      setFromStringAt n (before ++ rest) fuel before.length settings = .outside) := by
  induction fuel generalizing before rest settings with
  | zero => exact absurd hfuel (Nat.not_lt_zero _)
  | succ fuel ih =>
    have hnone : behindName rest = none → ∀ v ∈ valuesOf rest, v.length < 2 ^ 31 := by
      intro hnone v hv
      rw [valuesOf_none hnone] at hv
      exact absurd hv List.not_mem_nil
    rw [setFromStringAt, getNameAt_eq h hn, Looping.ended_bind]
    rcases hname : getName rest with err | (_ | ⟨name, left⟩)
    · exact .inl ⟨hnone (by rw [behindName, hname]), _, rfl, fun _ => (setFromString_name_error hname settings).symm⟩
    · exact .inl ⟨hnone (by rw [behindName, hname]), _, rfl, fun _ => (setFromString_none hname settings).symm⟩
    have hbehind := behindName_some hname
    obtain ⟨hsuffix, hne, hnamed⟩ := getName_some hname
    obtain ⟨front, htext, hcursor⟩ := cursor_left hsuffix before
    have hshort := getName_length hname
    have hzero : 0 ∉ left := fun hmem => h (hsuffix.mem hmem)
    simp only [Except.map, Option.map_some, Prod.map_apply, id_eq]
    by_cases hret : 0 < nameRet name
    · rw [if_pos hret] at hbehind
      rw [hcursor, htext, if_neg hret.ne', if_neg hret.le.not_gt, getValueAt_eq front hzero (by omega)]
      rcases hvalue : getValue left with err | ⟨value, left'⟩
      · rw [valuesOf_open hbehind hvalue, List.forall_mem_singleton]
        by_cases hcount : (valueOf left).1.length < 2 ^ 31
        · rw [if_pos hcount]
          exact .inl ⟨hcount, _, rfl, fun _ => by rw [setFromString_value hname, hvalue]⟩
        · rw [if_neg hcount]
          exact .inr ⟨hcount, rfl⟩
      · have hleft : left' <:+ left := by
          have hsame := (valueOf_sublist left).2
          rwa [getValue_valueOf hvalue] at hsame
        have hshort' := hleft.length_le
        obtain ⟨front', htext', hcursor'⟩ := cursor_left hleft front
        have hrest := ih front' left' (Settings.set settings name value) (fun hmem => hzero (hleft.mem hmem))
          (by omega) (by omega)
        rw [valuesOf_next hbehind hvalue, List.forall_mem_cons]
        by_cases hcount : (valueOf left).1.length < 2 ^ 31
        · rw [if_pos hcount]
          simp only [hcount, true_and, Looping.ended_bind, Except.map, Prod.map_apply, id_eq]
          rw [hcursor', htext', setFromString_value hname, hvalue]
          exact hrest.imp_left fun hended => ⟨hended.1, hended.2.imp fun r hr => ⟨hr.1, fun hlt => hr.2 (by omega)⟩⟩
        · rw [if_neg hcount]
          exact .inr ⟨fun hall => hcount hall.1, rfl⟩
    · rw [if_neg hret] at hbehind
      have hlong : ¬ rest.length < 2 ^ 31 := fun hlt => hret (nameRet_pos hne (hnamed.trans_lt hlt))
      refine .inl ⟨hnone hbehind, ?_⟩
      split_ifs with hzero hneg
      · exact ⟨_, rfl, fun hlt => absurd hlt hlong⟩
      · exact ⟨_, rfl, fun hlt => absurd hlt hlong⟩
      · omega

/-- On a text of fewer characters than an `int` counts, the cursors read what the scanners of characters read. -/
theorem setFromStringAt_eq {text : List Char} {fuel : ℕ} (h : 0 ∉ text) (hfuel : text.length < fuel)
    (hshort : text.length < 2 ^ 31) (settings : Settings) :
    setFromStringAt fuel text fuel 0 settings = .ended (setFromString settings text) := by
  rcases setFromStringAt_cases fuel fuel [] text settings h hfuel hfuel with ⟨-, r, hr, hsame⟩ | ⟨hlong, -⟩
  · rw [← hsame hshort]
    exact hr
  · exact absurd (fun v hv => (valuesOf_length hv).trans_lt hshort) hlong

/-- The count of the characters of a value is an `int`. -/
theorem setFromStringAt_ends_iff {text : List Char} (h : 0 ∉ text) (settings : Settings) :
    (∀ fuel, text.length < fuel → ∃ r, setFromStringAt fuel text fuel 0 settings = .ended r) ↔
      ∀ v ∈ valuesOf text, v.length < 2 ^ 31 := by
  constructor
  · intro hends
    obtain ⟨r, hr⟩ := hends (text.length + 1) (Nat.lt_succ_self _)
    rcases setFromStringAt_cases (text.length + 1) (text.length + 1) [] text settings h (Nat.lt_succ_self _)
      (Nat.lt_succ_self _) with ⟨hshort, -⟩ | ⟨-, houtside⟩
    · exact hshort
    · cases hr.symm.trans houtside
  · intro hshort fuel hfuel
    rcases setFromStringAt_cases fuel fuel [] text settings h hfuel hfuel with ⟨-, r, hr, -⟩ | ⟨hlong, -⟩
    · exact ⟨r, hr⟩
    · exact absurd hshort hlong

/-- A trailing backslash. -/
theorem setFromStringAt_ends_backslash :
    ∃ r, setFromStringAt 5 "a=x\\".toList 5 0 (fun _ => none) = .ended r := by
  refine (setFromStringAt_ends_iff (by decide) _).mpr (fun v hv => ?_) 5 (by decide)
  have hvalues : valuesOf "a=x\\".toList = [['x']] := by decide +kernel
  rw [hvalues, List.mem_singleton] at hv
  rw [hv]
  decide

lemma scanValue_replicate (n : ℕ) : scanValue ' ' false (List.replicate n 'x') = (List.replicate n 'x', []) := by
  induction n with
  | zero => rfl
  | succ n ih => simp [List.replicate_succ, scanValue, ih]

lemma valuesOf_replicate (n : ℕ) :
    valuesOf ('a' :: '=' :: List.replicate (n + 1) 'x') = [List.replicate (n + 1) 'x'] := by
  have hname : getName ('a' :: '=' :: List.replicate (n + 1) 'x') = .ok (some (['a'], List.replicate (n + 1) 'x')) := rfl
  have hbehind : behindName ('a' :: '=' :: List.replicate (n + 1) 'x') = some (List.replicate (n + 1) 'x') := by
    rw [behindName_some hname, if_pos (nameRet_pos (by decide) (by decide))]
  have hscan := scanValue_replicate (n + 1)
  have hvalue : getValue (List.replicate (n + 1) 'x') = .ok (List.replicate (n + 1) 'x', []) := by
    rw [← hscan]
    rfl
  rw [valuesOf_next hbehind hvalue, getValue_valueOf hvalue, valuesOf_none (by rfl)]

lemma zero_not_mem_replicate (n : ℕ) : 0 ∉ 'a' :: '=' :: List.replicate n 'x' := by
  intro hmem
  rcases List.mem_cons.mp hmem with h | hmem
  · exact absurd h (by decide)
  rcases List.mem_cons.mp hmem with h | hmem
  · exact absurd h (by decide)
  · exact absurd (List.eq_of_mem_replicate hmem) (by decide)

lemma setFromStringAt_replicate {n : ℕ} (hn : 2 ^ 31 ≤ n) (settings : Settings) :
    ¬ ∀ fuel, ('a' :: '=' :: List.replicate n 'x').length < fuel → ∃ r,
      setFromStringAt fuel ('a' :: '=' :: List.replicate n 'x') fuel 0 settings = .ended r := by
  intro hends
  obtain ⟨n, rfl⟩ : ∃ k, n = k + 1 := ⟨n - 1, by omega⟩
  obtain ⟨r, hr⟩ := hends _ (Nat.lt_succ_self _)
  rcases setFromStringAt_cases _ _ [] _ settings (zero_not_mem_replicate (n + 1)) (Nat.lt_succ_self _)
    (Nat.lt_succ_self _) with ⟨hshort, -⟩ | ⟨-, houtside⟩
  · have hlt := hshort (List.replicate (n + 1) 'x') (by rw [valuesOf_replicate]; exact List.mem_singleton_self _)
    rw [List.length_replicate] at hlt
    exact absurd hn hlt.not_ge
  · cases hr.symm.trans houtside

/-- A value of as many characters as an `int` cannot count. -/
theorem setFromStringAt_overflow : 0 ∉ 'a' :: '=' :: List.replicate (2 ^ 31) 'x' ∧
    ¬ ∀ fuel, ('a' :: '=' :: List.replicate (2 ^ 31) 'x').length < fuel → ∃ r,
      setFromStringAt fuel ('a' :: '=' :: List.replicate (2 ^ 31) 'x') fuel 0 (fun _ => none) = .ended r :=
  ⟨zero_not_mem_replicate _, setFromStringAt_replicate le_rfl _⟩

end Runs

end Preludedb.Sql
