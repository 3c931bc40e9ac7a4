import Mathlib.Data.List.TakeWhile
import Preludedb.Sql.Error

/-! The settings of a connection and the text they are read from. The end of the list stands for
the NUL that ends the text, and a scanner gives back what it leaves unread. -/

namespace Preludedb.Sql

abbrev Settings := List Char → Option (List Char)

def isspace (c : Char) : Bool := c ∈ [' ', '\t', '\n', '\x0b', '\x0c', '\r']

def isalnum (c : Char) : Bool :=
  ('a' ≤ c && c ≤ 'z') || ('A' ≤ c && c ≤ 'Z') || ('0' ≤ c && c ≤ '9')

def skipSpaces (str : List Char) : List Char := str.dropWhile isspace

def isNameChar (c : Char) : Bool := isalnum c || c == '_'

def getName (str : List Char) : Except SqlError (Option (List Char × List Char)) :=
  let start := skipSpaces str
  if start = [] then .ok none
  else match start.dropWhile isNameChar with
    | '=' :: rest =>
      if start.takeWhile isNameChar = [] then .error (preludedbError .invalidSettingsString)
      else .ok (some (start.takeWhile isNameChar, rest))
    | _ => .error (preludedbError .invalidSettingsString)

def scanValue (endOfString : Char) : (escaped : Bool) → List Char → List Char × List Char
  | _, [] => ([], [])
  | true, c :: str => (scanValue endOfString false str).map (c :: ·) id
  | false, c :: str =>
    if c = '\\' then scanValue endOfString true str
    else if c = endOfString then ([], str)
    else (scanValue endOfString false str).map (c :: ·) id

def isQuote (c : Char) : Bool := c == '\'' || c == '"'

/-- The test made after the loop finds the text at its end both when the closing quote is missing
and when it is the last character. -/
def getValue (str : List Char) : Except SqlError (List Char × List Char) :=
  match str with
  | [] => .ok ([], [])
  | c :: rest =>
    if isQuote c then
      if (scanValue c false rest).2 = [] then .error (preludedbError .invalidSettingsString)
      else .ok (scanValue c false rest)
    else .ok (scanValue ' ' false (c :: rest))

lemma scanValue_length (e : Char) (b : Bool) (str : List Char) :
    (scanValue e b str).2.length ≤ str.length := by
  fun_induction scanValue e b str with
  | case1 => exact le_rfl
  | case2 c str ih => exact Nat.le_succ_of_le ih
  | case3 str ih => exact Nat.le_succ_of_le ih
  | case4 str => exact Nat.le_succ _
  | case5 c str _ _ ih => exact Nat.le_succ_of_le ih

lemma getValue_length {str value rest : List Char} (h : getValue str = .ok (value, rest)) :
    rest.length ≤ str.length := by
  cases str with
  | nil => simp_all [getValue]
  | cons c str =>
    simp only [getValue] at h
    split_ifs at h
    · have hrest : (scanValue c false str).2 = rest := congrArg Prod.snd (Except.ok.inj h)
      exact hrest ▸ Nat.le_succ_of_le (scanValue_length ..)
    · have hrest : (scanValue ' ' false (c :: str)).2 = rest := congrArg Prod.snd (Except.ok.inj h)
      exact hrest ▸ scanValue_length ..

lemma getName_length {str name rest : List Char} (h : getName str = .ok (some (name, rest))) :
    rest.length < str.length := by
  have hskip : (skipSpaces str).length ≤ str.length := (List.dropWhile_sublist _).length_le
  have hdrop := (List.dropWhile_sublist isNameChar (l := skipSpaces str)).length_le
  simp only [getName] at h
  by_cases hstart : skipSpaces str = []
  · rw [if_pos hstart] at h
    cases h
  rw [if_neg hstart] at h
  split at h
  · rename_i heq
    by_cases hname : (skipSpaces str).takeWhile isNameChar = []
    · rw [if_pos hname] at h
      cases h
    · rw [if_neg hname] at h
      cases h
      rw [heq, List.length_cons] at hdrop
      omega
  · cases h

def Settings.set (settings : Settings) (name value : List Char) : Settings :=
  Function.update settings name (some value)

def setFromString (settings : Settings) (str : List Char) : Except SqlError Unit × Settings :=
  match _hn : getName str with
  | .error e => (.error e, settings)
  | .ok none => (.ok (), settings)
  | .ok (some (name, rest)) =>
    match _hv : getValue rest with
    | .error e => (.error e, settings)
    | .ok (value, rest') => setFromString (Settings.set settings name value) rest'
termination_by str.length
decreasing_by exact (getValue_length _hv).trans_lt (getName_length _hn)

def newFromString (str : List Char) : Except SqlError Settings :=
  match setFromString (fun _ => none) str with
  | (.ok (), settings) => .ok settings
  | (.error e, _) => .error e

structure Setting where
  name : List Char
  value : List Char
  deriving DecidableEq, Repr

/-- `text` spells `value` between single quotes. -/
inductive Quoted : (value text : List Char) → Prop
  | nil : Quoted [] []
  | plain {c : Char} {v t : List Char} (hq : c ≠ '\'') (hb : c ≠ '\\') (h : Quoted v t) :
    Quoted (c :: v) (c :: t)
  | escaped {c : Char} {v t : List Char} (h : Quoted v t) : Quoted (c :: v) ('\\' :: c :: t)

/-- The pairs in order, with blanks between them and possibly around them. -/
inductive Written : List Setting → (text : List Char) → Prop
  | blanks {b : List Char} (hb : ∀ c ∈ b, isspace c) : Written [] b
  | pair {s : Setting} {rest : List Setting} {b q t : List Char} (hb : ∀ c ∈ b, isspace c)
    (hn : ∀ c ∈ s.name, isNameChar c) (hq : Quoted s.value q)
    (ht : rest ≠ [] → ∃ c ∈ t.head?, isspace c) (h : Written rest t) :
    Written (s :: rest) (b ++ (s.name ++ '=' :: '\'' :: (q ++ '\'' :: t)))

def lastValue (l : List Setting) (name : List Char) : Option (List Char) :=
  (l.reverse.find? (·.name = name)).map Setting.value

def EndsBlank (text : List Char) : Prop := ∃ c ∈ text.getLast?, isspace c

lemma skipSpaces_append {b : List Char} (hb : ∀ c ∈ b, isspace c) (t : List Char) :
    skipSpaces (b ++ t) = skipSpaces t := List.dropWhile_append_of_pos hb

lemma not_isspace_of_isNameChar {c : Char} (h : isNameChar c) : ¬ isspace c := by
  intro hs
  simp only [isspace, decide_eq_true_eq] at hs
  fin_cases hs <;> exact absurd h (by decide)

lemma getName_blanks {b : List Char} (hb : ∀ c ∈ b, isspace c) : getName b = .ok none := by
  have h : skipSpaces b = [] := List.dropWhile_eq_nil_iff.mpr hb
  simp [getName, h]

lemma skipSpaces_name {name : List Char} (hn : ∀ c ∈ name, isNameChar c) (t : List Char) :
    skipSpaces (name ++ '=' :: t) = name ++ '=' :: t := by
  cases name with
  | nil => exact List.dropWhile_cons_of_neg (by decide)
  | cons c name => exact List.dropWhile_cons_of_neg (not_isspace_of_isNameChar (hn c (by simp)))

lemma getName_pair {b name : List Char} (hb : ∀ c ∈ b, isspace c) (hn : ∀ c ∈ name, isNameChar c)
    (t : List Char) :
    getName (b ++ (name ++ '=' :: t)) =
      if name = [] then .error (preludedbError .invalidSettingsString) else .ok (some (name, t)) := by
  have hs := (skipSpaces_append hb (name ++ '=' :: t)).trans (skipSpaces_name hn t)
  have hdrop : (name ++ '=' :: t).dropWhile isNameChar = '=' :: t := by
    rw [List.dropWhile_append_of_pos hn, List.dropWhile_cons_of_neg (by decide)]
  have htake : (name ++ '=' :: t).takeWhile isNameChar = name := by
    rw [List.takeWhile_append_of_pos hn, List.takeWhile_cons_of_neg (by decide), List.append_nil]
  simp [getName, hs, hdrop, htake]

lemma scanValue_quoted {v q : List Char} (h : Quoted v q) (t : List Char) :
    scanValue '\'' false (q ++ '\'' :: t) = (v, t) := by
  induction h with
  | nil => simp [scanValue]
  | plain hq hb _ ih => simp [scanValue, hq, hb, ih]
  | escaped _ ih => simp [scanValue, ih]

lemma getValue_quoted {v q : List Char} (h : Quoted v q) (t : List Char) :
    getValue ('\'' :: (q ++ '\'' :: t)) =
      if t = [] then .error (preludedbError .invalidSettingsString) else .ok (v, t) := by
  simp only [getValue, scanValue_quoted h]
  rfl

lemma setFromString_none {str : List Char} (h : getName str = .ok none) (settings : Settings) :
    setFromString settings str = (.ok (), settings) := by
  rw [setFromString]
  split <;> simp_all

lemma setFromString_name_error {str : List Char} {e : SqlError} (h : getName str = .error e)
    (settings : Settings) : setFromString settings str = (.error e, settings) := by
  rw [setFromString]
  split <;> simp_all

lemma setFromString_value {str name rest : List Char} (h : getName str = .ok (some (name, rest)))
    (settings : Settings) :
    setFromString settings str = match getValue rest with
      | .error e => (.error e, settings)
      | .ok (value, rest') => setFromString (Settings.set settings name value) rest' := by
  rw [setFromString]
  split
  · simp_all
  · simp_all
  · rename_i heq
    obtain ⟨rfl, rfl⟩ := Prod.mk.inj (Option.some.inj (Except.ok.inj (heq.symm.trans h)))
    split <;> simp_all

lemma setFromString_pair {s : Setting} {b q : List Char} (hb : ∀ c ∈ b, isspace c)
    (hn : ∀ c ∈ s.name, isNameChar c) (hq : Quoted s.value q) (settings : Settings)
    (t : List Char) :
    setFromString settings (b ++ (s.name ++ '=' :: '\'' :: (q ++ '\'' :: t))) =
      if s.name = [] ∨ t = [] then (.error (preludedbError .invalidSettingsString), settings)
      else setFromString (Settings.set settings s.name s.value) t := by
  have hname := getName_pair hb hn ('\'' :: (q ++ '\'' :: t))
  by_cases hs : s.name = []
  · rw [if_pos hs] at hname
    rw [setFromString_name_error hname, if_pos (.inl hs)]
  · rw [if_neg hs] at hname
    rw [setFromString_value hname, getValue_quoted hq]
    by_cases ht : t = [] <;> simp [hs, ht]

lemma endsBlank_append (front t : List Char) : EndsBlank (front ++ '\'' :: t) ↔ EndsBlank t := by
  cases t with
  | nil => simp [EndsBlank, isspace]
  | cons c t => simp [EndsBlank]

def WellEnded (l : List Setting) (text : List Char) : Prop :=
  (∀ s ∈ l, s.name ≠ []) ∧ (l = [] ∨ EndsBlank text)

lemma wellEnded_pair {s : Setting} {rest : List Setting} {t : List Char} (front : List Char)
    (ht : rest ≠ [] → ∃ c ∈ t.head?, isspace c) (h : Written rest t) :
    WellEnded (s :: rest) (front ++ '\'' :: t) ↔ (s.name ≠ [] ∧ t ≠ []) ∧ WellEnded rest t := by
  have hlast : EndsBlank t ↔ t ≠ [] ∧ (rest = [] ∨ EndsBlank t) := by
    constructor
    · rintro hend
      exact ⟨by rintro rfl; simp [EndsBlank] at hend, .inr hend⟩
    · rintro ⟨hne, rfl | hend⟩
      · cases h with
        | blanks hb =>
          exact ⟨t.getLast hne, List.getLast?_eq_getLast_of_ne_nil hne, hb _ (t.getLast_mem hne)⟩
      · exact hend
  simp only [WellEnded, List.forall_mem_cons, reduceCtorEq, false_or, endsBlank_append]
  rw [hlast]
  tauto

lemma setFromString_written {l : List Setting} {text : List Char} (h : Written l text)
    (settings : Settings) :
    (WellEnded l text → setFromString settings text =
      (.ok (), l.foldl (fun h s => Settings.set h s.name s.value) settings)) ∧
    (¬ WellEnded l text → (setFromString settings text).1 =
      .error (preludedbError .invalidSettingsString)) := by
  induction h generalizing settings with
  | blanks hb =>
    exact ⟨fun _ => setFromString_none (getName_blanks hb) settings,
      fun h => absurd ⟨by simp, .inl rfl⟩ h⟩
  | @pair s rest b q t hb hn hq ht h ih =>
    have hfront : b ++ (s.name ++ '=' :: '\'' :: (q ++ '\'' :: t)) =
        (b ++ s.name ++ '=' :: '\'' :: q) ++ '\'' :: t := by simp
    rw [setFromString_pair hb hn hq, hfront, wellEnded_pair _ ht h]
    by_cases hempty : s.name = [] ∨ t = []
    · rw [if_pos hempty]
      exact ⟨by tauto, fun _ => rfl⟩
    · rw [if_neg hempty]
      obtain ⟨hok, herror⟩ := ih (Settings.set settings s.name s.value)
      exact ⟨fun hw => hok hw.2, fun hw => herror (by tauto)⟩

lemma foldl_settings_set (l : List Setting) (settings : Settings) (name : List Char) :
    l.foldl (fun h s => Settings.set h s.name s.value) settings name =
      (lastValue l name).or (settings name) := by
  induction l generalizing settings with
  | nil => rfl
  | cons s l ih =>
    rw [List.foldl_cons, ih]
    simp only [lastValue, List.reverse_cons, List.find?_append, List.find?_singleton]
    cases hl : l.reverse.find? (·.name = name) with
    | some s' => simp
    | none =>
      by_cases hs : s.name = name
      · simp [Settings.set, hs]
      · simp [Settings.set, hs, Function.update_of_ne (Ne.symm hs)]

lemma written_example (b : List Char) (hb : ∀ c ∈ b, isspace c) :
    Written [⟨['a'], ['x']⟩] ("a='x'".toList ++ b) :=
  .pair (s := ⟨['a'], ['x']⟩) (b := []) (q := ['x']) (by simp) (List.forall_mem_singleton.mpr rfl)
    (.plain (by decide) (by decide) .nil) (by simp) (.blanks hb)

end Preludedb.Sql
