import Preludedb.Sql.Negation
import Preludedb.Sql.Numerals

/-! The condition for a broken-down time, on the time that is stored in the field. -/

namespace Preludedb.Sql

open Foundations Form Classic Idmef

section Calendar

def isLeap (year : ℕ) : Bool := year % 4 = 0 && (year % 100 ≠ 0 || year % 400 = 0)

def yearLength (year : ℕ) : ℕ := if isLeap year then 366 else 365

-- the year and the day in it, as many days after the first day of a year
def yearFrom : ℕ → ℕ → ℕ → ℕ × ℕ
  | 0, year, days => (year, days)
  | fuel + 1, year, days =>
    if days < yearLength year then (year, days)
    else yearFrom fuel (year + 1) (days - yearLength year)

def monthLengths (year : ℕ) : List ℕ :=
  [31, if isLeap year then 29 else 28, 31, 30, 31, 30, 31, 31, 30, 31, 30, 31]

def monthFrom : List ℕ → ℕ → ℕ → ℕ × ℕ
  | [], month, days => (month, days)
  | length :: lengths, month, days =>
    if days < length then (month, days) else monthFrom lengths (month + 1) (days - length)

/-- The breakdown of a time in seconds after the beginning of 1970, a Thursday. -/
def gmtime (t : ℕ) : BrokenDownTime :=
  let days := t / 86400
  let (year, yday) := yearFrom days 1970 days
  let (mon, mday) := monthFrom (monthLengths year) 0 yday
  ⟨(t % 60 : ℕ), (t / 60 % 60 : ℕ), (t / 3600 % 24 : ℕ), (mday + 1 : ℕ), mon, (year : Int) - 1900,
    ((days + 4) % 7 : ℕ), yday⟩

example : gmtime 951868799 = ⟨59, 59, 23, 29, 1, 100, 2, 59⟩ := by decide +kernel

lemma yearFrom_spec {fuel days : ℕ} (year : ℕ) (h : days ≤ fuel) :
    year ≤ (yearFrom fuel year days).1 ∧
      (yearFrom fuel year days).2 < yearLength (yearFrom fuel year days).1 := by
  have hpos : ∀ y, 0 < yearLength y := by
    intro y
    rw [yearLength]
    split <;> omega
  induction fuel generalizing year days with
  | zero =>
    obtain rfl : days = 0 := by omega
    exact ⟨le_rfl, hpos year⟩
  | succ fuel ih =>
    rw [yearFrom]
    split
    case isTrue hlt => exact ⟨le_rfl, hlt⟩
    case isFalse hge =>
      have hyear := hpos year
      have hdays : days - yearLength year ≤ fuel := by omega
      obtain ⟨hle, hlt⟩ := ih (year + 1) hdays
      exact ⟨by omega, hlt⟩

lemma gmtime_year (t : ℕ) : 70 ≤ (gmtime t).year := by
  have hyear := (yearFrom_spec 1970 (le_refl (t / 86400))).1
  simp only [gmtime]
  omega

lemma gmtime_wday (t : ℕ) : 0 ≤ (gmtime t).wday ∧ (gmtime t).wday < 7 := by
  simp only [gmtime]
  omega

end Calendar

section Servers

variable (g : BrokenDownTime)

/-- What the date functions of the servers give for a time with this breakdown. -/
def callValue (name : String) (arguments : List (Form Lexeme)) : Option Int :=
  match name, arguments with
  | "EXTRACT", .atom (.word part) :: .atom (.word "FROM") :: _ => match part with
    | "YEAR" => some (g.year + 1900)
    | "MONTH" => some (g.mon + 1)
    | "DAY" => some g.mday
    | "DOY" => some (g.yday + 1)
    -- Monday is the first day
    | "ISODOW" => some (if g.wday = 0 then 7 else g.wday)
    | "HOUR" => some g.hour
    | "MINUTE" => some g.min
    | "SECOND" => some g.sec
    | _ => none
  | "STRFTIME", .atom (.literal format) :: .atom .comma :: _ => match format with
    | "%Y" => some (g.year + 1900)
    | "%m" => some (g.mon + 1)
    | "%d" => some g.mday
    | "%j" => some (g.yday + 1)
    | "%w" => some g.wday
    | "%H" => some g.hour
    | "%M" => some g.min
    | "%S" => some g.sec
    | _ => none
  | "DAYOFYEAR", _ => some (g.yday + 1)
  | "DAYOFMONTH", _ => some g.mday
  -- Monday is the day 0
  | "WEEKDAY", _ => some ((g.wday + 6) % 7)
  | _, _ => none

-- the first operand of a calculation and what follows it
def operandValue : List (Form Lexeme) → Option (Int × List (Form Lexeme))
  | .atom (.number n) :: rest => some (n, rest)
  | .atom (.literal s) :: rest => (decimalValue s.toList).map fun n => (n, rest)
  | .atom (.word "BINARY") :: .atom (.literal s) :: rest =>
    (decimalValue s.toList).map fun n => (n, rest)
  | .atom (.word name) :: .group arguments :: rest => (callValue g name arguments).map fun n => (n, rest)
  | _ => none

def calculate : Int → List (Form Lexeme) → Option Int
  | x, [] => some x
  | x, [.atom (.word "+"), .atom (.number n)] => some (x + n)
  | x, [.atom (.word "-"), .atom (.number n)] => some (x - n)
  | x, [.atom (.word "%"), .atom (.number n)] => some (x.tmod n)
  | _, _ => none

/-- The value of a calculation, in which an operand may be a calculation in parentheses. -/
def calculated : List (Form Lexeme) → Option Int
  | .group inner :: rest => (calculated inner).bind fun x => calculate x rest
  | forms => (operandValue g forms).bind fun x => calculate x.1 x.2

/-- A time in the field, as a condition compares it. -/
def timeContent : FieldContent where
  isNull := false
  compares w left right := w = "=" && (calculated g left).isSome && calculated g left = calculated g right

/-- The value of an extraction: the day of the year is counted from one, and Monday is the day 0. -/
def extractedValue : TimeConstraint → Int
  | .year => g.year + 1900
  | .month => g.mon + 1
  | .yday => g.yday + 1
  | .mday => g.mday
  | .wday => (g.wday + 6) % 7
  | .hour => g.hour
  | .min => g.min
  | .sec => g.sec
  | .quarter | .msec | .usec => 0

/-- The constraints a broken-down time consists of. -/
def Broken (type : TimeConstraint) : Prop := type ≠ .quarter ∧ type ≠ .msec ∧ type ≠ .usec

variable {g} {b : Backend} {type : TimeConstraint} {field : String} {text : SqlText}

lemma extractText_value (hg : 0 ≤ g.wday ∧ g.wday < 7) (htype : Broken type)
    (h : extractText b type (words [field]) = some text) : ∃ forms, text = tokensAll forms ∧
      (∀ f ∈ forms, isComparison f = false) ∧ calculated g forms = some (extractedValue g type) := by
  have hcall : ∀ (name : String) (arguments : List (Form Lexeme)) (x : Int),
      isComparison (.atom (.word name)) = false → callValue g name arguments = some x →
      ∃ forms, call name (tokensAll arguments) = tokensAll forms ∧
        (∀ f ∈ forms, isComparison f = false) ∧ calculated g forms = some x := by
    intro name arguments x hname hx
    refine ⟨[.atom (.word name), .group arguments], by simp [call, words, paren, tokens], ?_, ?_⟩
    · intro f hf
      rcases List.mem_cons.mp hf with rfl | hf
      · exact hname
      · cases List.mem_singleton.mp hf
        rfl
    · simp [calculated, operandValue, hx, calculate]
  have hpart : ∀ (part : String) (x : Int),
      callValue g "EXTRACT" [.atom (.word part), .atom (.word "FROM"), .atom (.word field)] = some x →
      ∃ forms, extractPart part (words [field]) = tokensAll forms ∧
        (∀ f ∈ forms, isComparison f = false) ∧ calculated g forms = some x :=
    fun part x hx => hcall "EXTRACT" _ x (by decide) hx
  have hstrftime : ∀ (format : String) (x : Int),
      callValue g "STRFTIME" [.atom (.literal format), .atom .comma, .atom (.word field)] = some x →
      ∃ forms, strftime format (words [field]) ++ words ["+"] ++ number 0 = tokensAll forms ∧
        (∀ f ∈ forms, isComparison f = false) ∧ calculated g forms = some x := by
    intro format x hx
    refine ⟨[.atom (.word "STRFTIME"), .group [.atom (.literal format), .atom .comma,
      .atom (.word field)], .atom (.word "+"), .atom (.number 0)], rfl, ?_, ?_⟩
    · simp [isComparison, comparisonWords]
    · simp [calculated, operandValue, hx, calculate]
  have hmonday : (if g.wday = 0 then 7 else g.wday) - 1 = (g.wday + 6) % 7 := by
    split <;> omega
  have hremainder : (g.wday + 6).tmod 7 = (g.wday + 6) % 7 := Int.tmod_eq_emod_of_nonneg (by omega)
  obtain ⟨hquarter, hmsec, husec⟩ := htype
  cases b with
  | mysql =>
    cases type <;> cases h <;> first
      | exact absurd rfl hquarter
      | exact absurd rfl hmsec
      | exact absurd rfl husec
      | exact hpart _ _ rfl
      | exact hcall _ [.atom (.word field)] _ (by decide) rfl
  | pgsql =>
    cases type <;> cases h <;> first
      | exact absurd rfl hquarter
      | exact absurd rfl hmsec
      | exact absurd rfl husec
      | exact hpart _ _ rfl
      | skip
    refine ⟨[.group [.atom (.word "EXTRACT"), .group [.atom (.word "ISODOW"), .atom (.word "FROM"),
      .atom (.word field)], .atom (.word "-"), .atom (.number 1)]], rfl, by simp [isComparison], ?_⟩
    simp [calculated, operandValue, callValue, calculate, hmonday, extractedValue]
  | sqlite3 =>
    cases type <;> cases h <;> first
      | exact absurd rfl hquarter
      | exact absurd rfl hmsec
      | exact hstrftime _ _ rfl
      | skip
    refine ⟨[.group [.group [.atom (.word "STRFTIME"), .group [.atom (.literal "%w"), .atom .comma,
      .atom (.word field)], .atom (.word "+"), .atom (.number 6)], .atom (.word "%"),
        .atom (.number 7)]], rfl, by simp [isComparison], ?_⟩
    simp [calculated, operandValue, callValue, calculate, hremainder, extractedValue]

/-- The value a constraint compares an extraction with. -/
def comparedValue (b : Backend) (type : TimeConstraint) (value : Int) : Int :=
  if type = .wday then if b = .sqlite3 then value.tmod 7 else value.tmod 7 + 1 else value

variable [R : Rendering]

lemma timeConstraint_truth {value : Int} (hf : Column field) (hg : 0 ≤ g.wday ∧ g.wday < 7)
    (htype : Broken type)
    (h : buildTimeConstraintString b (words [field]) type .equal value 0 = .ok text) :
    truthOf (timeContent g).truth text =
      some (.ofBool (extractedValue g type = comparedValue b type value)) := by
  obtain ⟨extracted, hextract, h⟩ := ok_of_bind h
  have hleading := buildTimeExtractString_leading hf.leading.whole hextract
  have htext : extractText b type (words [field]) = some extracted := by
    unfold buildTimeExtractString at hextract
    split at hextract
    · split at hextract
      case h_1 hsome =>
        cases hextract
        exact hsome
      case h_2 => cases hextract
    · cases hextract
  obtain ⟨forms, rfl, hforms, hvalue⟩ := extractText_value hg htype htext
  have hequal : ∀ right : List (Form Lexeme), Ordinary (tokensAll (.atom (.word "=") :: right)) →
      calculated g right = some (comparedValue b type value) →
      truthOf (timeContent g).truth (tokensAll forms ++ tokensAll (.atom (.word "=") :: right)) =
        some (.ofBool (extractedValue g type = comparedValue b type value)) := by
    intro right hordinary hright
    rw [hleading.truthOf_append hordinary, FieldContent.truth_comparison rfl hforms (by decide) (by simp)]
    have hcompare : (timeContent g).compare forms (.atom (.word "=") :: right) =
        decide (extractedValue g type = comparedValue b type value) := by
      simp [FieldContent.compare, comparisonOf, timeContent, hvalue, hright]
    rw [hcompare]
  cases b with
  | mysql =>
    cases h
    have hright := hequal [.atom (.word "BINARY"),
      .atom (.literal (toString (comparedValue .mysql type value)))] ?_ ?_
    · rw [List.append_assoc]
      exact hright
    · have hwords : Ordinary (words ["=", "BINARY"]) := words_ordinary (by simp) (by decide)
      exact hwords.append (literal_ordinary _)
    · have hprinted := decimalValue_printed (comparedValue .mysql type value)
      rw [printed, Int.toString_eq_repr] at hprinted
      simp [calculated, operandValue, hprinted, calculate]
  | pgsql =>
    cases h
    have hright := hequal [.atom (.number (comparedValue .pgsql type value))] ?_ ?_
    · rw [List.append_assoc]
      exact hright
    · exact (word_ordinary (by decide)).append (number_ordinary _)
    · simp [calculated, operandValue, calculate]
  | sqlite3 =>
    cases h
    have hright := hequal [.atom (.number (comparedValue .sqlite3 type value))] ?_ ?_
    · rw [List.append_assoc]
      exact hright
    · exact (word_ordinary (by decide)).append (number_ordinary _)
    · simp [calculated, operandValue, calculate]

end Servers

section Conditions

variable [R : Rendering] {b : Backend} {field : String} {text : SqlText} {lt g : BrokenDownTime}
  {ts : List SqlText} {v : List (Form Lexeme) → Truth}

omit R in
lemma truthOf_joinAnd (hne : ts ≠ []) (h : ∀ t ∈ ts, Operand t) (hv : ∀ forms, v forms ≠ .unknown) :
    truthOf v (joinAnd ts) = some .true ↔ ∀ t ∈ ts, truthOf v t = some .true := by
  induction ts with
  | nil => exact absurd rfl hne
  | cons t ts ih =>
    cases ts with
    | nil => simp [joinAnd]
    | cons u ts =>
      have ht := h t List.mem_cons_self
      have hrest : ∀ t ∈ u :: ts, Operand t := fun t ht => h t (List.mem_cons_of_mem _ ht)
      have hjoin := joinAnd_operand (List.cons_ne_nil u ts) hrest
      obtain ⟨s, hs⟩ := ht.exists_truth v
      obtain ⟨s', hs'⟩ := hjoin.exists_truth v
      have hknown := truthOf_known hv t
      have htext : joinAnd (t :: u :: ts) = t ++ words ["AND"] ++ joinAnd (u :: ts) := rfl
      rw [List.forall_mem_cons, ← ih (List.cons_ne_nil _ _) hrest, htext,
        ht.truthOf_and hjoin hs hs', hs, hs']
      rw [hs] at hknown
      cases s <;> cases s' <;> simp_all [Truth.and]

omit R in
lemma mapM_forall₂ {α β : Type} {f : α → Except SqlError β} {l : List α} {ys : List β}
    (h : l.mapM f = .ok ys) : List.Forall₂ (fun a y => f a = .ok y) l ys := by
  induction l generalizing ys with
  | nil =>
    cases h
    exact .nil
  | cons a l ih =>
    rw [List.mapM_cons] at h
    obtain ⟨y, hy, h⟩ := ok_of_bind h
    obtain ⟨ys', hys, h⟩ := ok_of_bind h
    cases h
    exact .cons hy (ih hys)

omit R in
lemma forall_mem_iff {α β : Type} {P : α → Prop} {Q : β → Prop} {r : α → β → Prop} {l : List α}
    {ys : List β} (h : List.Forall₂ r l ys) (hiff : ∀ a ∈ l, ∀ y, r a y → (P a ↔ Q y)) :
    (∀ a ∈ l, P a) ↔ ∀ y ∈ ys, Q y := by
  induction h with
  | nil => simp
  | cons hr _ ih =>
    rw [List.forall_mem_cons, List.forall_mem_cons, hiff _ List.mem_cons_self _ hr,
      ih fun a ha => hiff a (List.mem_cons_of_mem _ ha)]

omit R in
lemma timeTable_broken : ∀ x ∈ timeTable lt, Broken x.1 := by
  intro x hx
  have hmem := (List.mem_filter.mp hx).1
  simp only [List.mem_cons, List.not_mem_nil, or_false] at hmem
  rcases hmem with rfl | rfl | rfl | rfl | rfl | rfl | rfl | rfl <;> simp [Broken]

/-- The condition of a broken-down time is true where each extraction has the value it is compared
with. -/
lemma brokenDownTime_truth (hf : Column field) (hg : 0 ≤ g.wday ∧ g.wday < 7)
    (h : buildCriterionBrokenDownTimeEqual b (words [field]) .equal lt = .ok text) :
    truthOf (timeContent g).truth text = some .true ↔ timeTable lt ≠ [] ∧
      ∀ x ∈ timeTable lt, extractedValue g x.1 = comparedValue b x.1 x.2 := by
  unfold buildCriterionBrokenDownTimeEqual at h
  cases hts : (timeTable lt).mapM fun x => buildTimeConstraintString b (words [field]) x.1 .equal x.2 0 with
  | error e =>
    rw [hts] at h
    cases h
  | ok ts =>
    rw [hts] at h
    cases h
    obtain ⟨hlength, hall⟩ := mapM_ok hts
    have hpairs := mapM_forall₂ hts
    cases htable : timeTable lt with
    | nil =>
      rw [htable] at hpairs
      cases hpairs
      refine iff_of_false (fun htrue => ?_) (by simp)
      have hnone : Cond.value sqlOperators (timeContent g).truth [] = none := by
        rw [Cond.value, Cond.parse]
        rfl
      have htext : truthOf (timeContent g).truth (joinAnd []) = none := hnone
      rw [htext] at htrue
      cases htrue
    | cons x xs =>
      have hne : ts ≠ [] := by
        rintro rfl
        rw [htable] at hlength
        cases hlength
      have hoperand : ∀ t ∈ ts, Operand t := by
        intro t ht
        obtain ⟨y, -, hy⟩ := hall t ht
        exact buildTimeConstraintString_operand hf.leading hy
      rw [truthOf_joinAnd hne hoperand (FieldContent.truth_known rfl), ← htable]
      have hlist : timeTable lt ≠ [] := by
        rw [htable]
        exact List.cons_ne_nil _ _
      rw [and_iff_right hlist]
      refine (forall_mem_iff hpairs fun x hx t ht => ?_).symm
      rw [timeConstraint_truth hf hg (timeTable_broken x hx) ht, Option.some.injEq,
        Truth.ofBool_eq_true, decide_eq_true_eq]

omit R in
/-- The fields of a time with the ranges of the C library, where -1 is no value. -/
structure Conventional (lt : BrokenDownTime) : Prop where
  sec : -1 ≤ lt.sec ∧ lt.sec ≤ 60
  min : -1 ≤ lt.min ∧ lt.min ≤ 59
  hour : -1 ≤ lt.hour ∧ lt.hour ≤ 23
  mday : lt.mday = -1 ∨ 1 ≤ lt.mday ∧ lt.mday ≤ 31
  mon : -1 ≤ lt.mon ∧ lt.mon ≤ 11
  wday : -1 ≤ lt.wday ∧ lt.wday ≤ 6
  yday : -1 ≤ lt.yday ∧ lt.yday ≤ 365

def noTime : BrokenDownTime := ⟨-1, -1, -1, -1, -1, -1, -1, -1⟩

/-- The fields that are set are those of the breakdown. -/
structure Agrees (lt g : BrokenDownTime) : Prop where
  year : lt.year ≠ -1 → lt.year = g.year
  mon : lt.mon ≠ -1 → lt.mon = g.mon
  yday : lt.yday ≠ -1 → lt.yday = g.yday
  mday : lt.mday ≠ -1 → lt.mday = g.mday
  wday : lt.wday ≠ -1 → lt.wday = g.wday
  hour : lt.hour ≠ -1 → lt.hour = g.hour
  min : lt.min ≠ -1 → lt.min = g.min
  sec : lt.sec ≠ -1 → lt.sec = g.sec

/-- They are so with the day of the year taken as counted from one, the day of the week as one of
another numbering, and the year -1 taken as none. -/
structure AgreesShifted (b : Backend) (lt g : BrokenDownTime) : Prop where
  year : lt.year ≠ -1 → lt.year ≠ -1901 → lt.year = g.year
  mon : lt.mon ≠ -1 → lt.mon = g.mon
  yday : lt.yday ≠ -1 → lt.yday = g.yday + 1
  mday : lt.mday ≠ -1 → lt.mday = g.mday
  wday : lt.wday ≠ -1 → (if b = .sqlite3 then lt.wday else lt.wday + 1) = (g.wday + 6) % 7
  hour : lt.hour ≠ -1 → lt.hour = g.hour
  min : lt.min ≠ -1 → lt.min = g.min
  sec : lt.sec ≠ -1 → lt.sec = g.sec
  more : lt ≠ { noTime with year := -1901 }

omit R in
lemma timeTable_nil (hlt : Conventional lt) (hset : lt ≠ noTime) :
    timeTable lt ≠ [] ↔ lt ≠ { noTime with year := -1901 } := by
  obtain ⟨sec, min, hour, mday, mon, year, wday, yday⟩ := lt
  obtain ⟨-, -, -, -, hmon, -, -⟩ := hlt
  simp only [noTime, ne_eq, BrokenDownTime.mk.injEq] at hset hmon ⊢
  simp only [timeTable, List.filter_eq_nil_iff, List.forall_mem_cons, List.not_mem_nil,
    decide_eq_true_eq, not_not]
  split_ifs <;> simp <;> omega

omit R in
lemma timeTable_agreesShifted (hlt : Conventional lt) (hset : lt ≠ noTime) :
    (timeTable lt ≠ [] ∧ ∀ x ∈ timeTable lt, extractedValue g x.1 = comparedValue b x.1 x.2) ↔
      AgreesShifted b lt g := by
  rw [timeTable_nil hlt hset]
  have hmon := hlt.mon
  have hwday := hlt.wday
  have hweek : lt.wday ≠ -1 → lt.wday.tmod 7 = lt.wday := by
    intro h
    rw [Int.tmod_eq_emod_of_nonneg (by omega)]
    omega
  have htable : (∀ x ∈ timeTable lt, extractedValue g x.1 = comparedValue b x.1 x.2) ↔
      (lt.year ≠ -1 → lt.year ≠ -1901 → g.year + 1900 = lt.year + 1900) ∧
      (lt.mon ≠ -1 → g.mon + 1 = lt.mon + 1) ∧ (lt.yday ≠ -1 → g.yday + 1 = lt.yday) ∧
      (lt.mday ≠ -1 → g.mday = lt.mday) ∧
      (lt.wday ≠ -1 → (g.wday + 6) % 7 = if b = .sqlite3 then lt.wday.tmod 7 else lt.wday.tmod 7 + 1) ∧
      (lt.hour ≠ -1 → g.hour = lt.hour) ∧ (lt.min ≠ -1 → g.min = lt.min) ∧
      (lt.sec ≠ -1 → g.sec = lt.sec) := by
    rw [timeTable, List.forall_mem_filter]
    simp only [List.forall_mem_cons, List.not_mem_nil, decide_eq_true_eq, extractedValue, comparedValue,
      reduceCtorEq, if_false, if_true, false_implies, implies_true, and_true]
    have hyear : (if lt.year ≠ -1 then lt.year + 1900 else lt.year) ≠ -1 ↔
        lt.year ≠ -1 ∧ lt.year ≠ -1901 := by
      split_ifs <;> omega
    have hmonth : (if lt.mon ≠ -1 then lt.mon + 1 else lt.mon) ≠ -1 ↔ lt.mon ≠ -1 := by
      split_ifs <;> omega
    rw [hyear, hmonth, and_imp]
    exact and_congr (forall₂_congr fun h _ => by rw [if_pos h])
      (and_congr (forall_congr' fun h => by rw [if_pos h]) Iff.rfl)
  rw [htable]
  constructor
  · rintro ⟨hmore, hy, hm, hyday, hmday, hw, hh, hmin, hs⟩
    refine ⟨fun h h' => ?_, fun h => ?_, fun h => ?_, fun h => ?_, fun h => ?_, fun h => ?_, fun h => ?_,
      fun h => ?_, hmore⟩
    · have := hy h h'
      omega
    · have := hm h
      omega
    · exact (hyday h).symm
    · exact (hmday h).symm
    · rw [hw h, hweek h]
    · exact (hh h).symm
    · exact (hmin h).symm
    · exact (hs h).symm
  · intro h
    refine ⟨h.more, fun hy hy' => ?_, fun hm => ?_, fun hyday => (h.yday hyday).symm,
      fun hmday => (h.mday hmday).symm, fun hw => ?_, fun hh => (h.hour hh).symm,
      fun hmin => (h.min hmin).symm, fun hs => (h.sec hs).symm⟩
    · rw [h.year hy hy']
    · rw [h.mon hm]
    · rw [← h.wday hw, hweek hw]

theorem brokenDownTime_matches_iff (hf : Column field) (hlt : Conventional lt) (hset : lt ≠ noTime)
    (h : buildCriterionString b (words [field]) .equal (.brokenDownTime lt) = .ok text) (t : ℕ) :
    (truthOf (timeContent (gmtime t)).truth text = some .true ↔ Agrees lt (gmtime t)) ↔
      (lt.yday = -1 ∧ lt.wday = -1 ∧ lt.year ≠ -1901) ∨
        (¬ Agrees lt (gmtime t) ∧ ¬ AgreesShifted b lt (gmtime t)) := by
  have htext : buildCriterionBrokenDownTimeEqual b (words [field]) .equal lt = .ok text := by
    rw [buildCriterionString_positive rfl] at h
    exact h
  have hwday := gmtime_wday t
  have hyear := gmtime_year t
  rw [brokenDownTime_truth hf hwday htext, timeTable_agreesShifted hlt hset]
  generalize gmtime t = g at *
  by_cases hplain : lt.yday = -1 ∧ lt.wday = -1 ∧ lt.year ≠ -1901
  · apply iff_of_true _ (.inl hplain)
    obtain ⟨hyday, hweek, hyears⟩ := hplain
    constructor
    · intro h
      exact ⟨fun hy => h.year hy hyears, h.mon, fun hd => absurd hyday hd, h.mday,
        fun hw => absurd hweek hw, h.hour, h.min, h.sec⟩
    · intro h
      refine ⟨fun hy _ => h.year hy, h.mon, fun hd => absurd hyday hd, h.mday,
        fun hw => absurd hweek hw, h.hour, h.min, h.sec, fun hmore => ?_⟩
      rw [hmore] at hyears
      exact hyears rfl
  · -- a field that is shifted cannot agree in both ways
    have hboth : ¬ (AgreesShifted b lt g ∧ Agrees lt g) := by
      rintro ⟨hs, ha⟩
      apply hplain
      refine ⟨?_, ?_, ?_⟩
      · by_contra hyday
        have hfirst := ha.yday hyday
        have hsecond := hs.yday hyday
        omega
      · by_contra hweek
        have hfirst := ha.wday hweek
        have hsecond := hs.wday hweek
        split at hsecond <;> omega
      · intro hyears
        have hfirst := ha.year (by omega)
        omega
    tauto

/-- The fourth of January 1970, a Sunday. -/
def sunday : BrokenDownTime := { noTime with wday := 0 }

omit R in
theorem brokenDownTime_matches_hour : ∃ text,
    buildCriterionString (R := plainRendering) .mysql (words ["time"]) .equal
      (.brokenDownTime { noTime with hour := 1 }) = .ok text ∧
    (truthOf (timeContent (gmtime 3600)).truth text = some .true ↔
      Agrees { noTime with hour := 1 } (gmtime 3600)) := by
  refine ⟨_, rfl, ?_⟩
  refine (brokenDownTime_matches_iff (R := plainRendering) (b := .mysql) ⟨by decide, by decide⟩ ?_
    (by decide) rfl 3600).mpr (.inl ⟨rfl, rfl, by decide⟩)
  exact ⟨by decide, by decide, by decide, .inl rfl, by decide, by decide, by decide⟩

omit R in
theorem brokenDownTime_misses_sunday : ∃ text,
    buildCriterionString (R := plainRendering) .mysql (words ["time"]) .equal
      (.brokenDownTime sunday) = .ok text ∧ Agrees sunday (gmtime 259200) ∧
    truthOf (timeContent (gmtime 259200)).truth text ≠ some .true := by
  have hf : Column "time" := ⟨by decide, by decide⟩
  have h : buildCriterionBrokenDownTimeEqual (R := plainRendering) .mysql (words ["time"]) .equal
      sunday = .ok (call "WEEKDAY" (words ["time"]) ++ words ["=", "BINARY"] ++ literal "1") := rfl
  refine ⟨_, h, ?_, ?_⟩
  · refine ⟨?_, ?_, ?_, ?_, ?_, ?_, ?_, ?_⟩ <;> decide +kernel
  · apply (brokenDownTime_truth (R := plainRendering) hf (gmtime_wday 259200) h).not.mpr
    decide +kernel

end Conditions

end Preludedb.Sql
