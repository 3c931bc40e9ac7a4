import Preludedb.Classic.ColumnCounts
import Preludedb.Paths.Spelling
import Preludedb.Paths.Trees

/-! The texts that select an object: each of them is read back as the object and its flags. -/

namespace Preludedb.Paths

open Foundations Regular Idmef Sql Classic

section Tokens

def oneArgKeyword : OneArgFunction → Keyword
  | .min => .min
  | .max => .max
  | .count => .count
  | .avg => .avg

def timeConstraintName : TimeConstraint → String
  | .year => "year"
  | .month => "month"
  | .yday => "yday"
  | .mday => "mday"
  | .wday => "wday"
  | .hour => "hour"
  | .min => "min"
  | .sec => "sec"
  | .msec => "msec"
  | .usec => "usec"
  | .quarter => "quarter"

/-- Quarters have no name. -/
def intervalUnitName : IntervalUnit → Option String
  | .year => some "year"
  | .month => some "month"
  | .day => some "day"
  | .hour => some "hour"
  | .min => some "min"
  | .sec => some "sec"
  | .quarter => none

def lastTokens (s : String) : List Terminal :=
  [.punctuation .comma, .string s, .punctuation .rparen]

/-- The tokens of an object; there are none for intervals in quarters. -/
@[simp] def tokensOf : SelectedObject → Option (List Terminal)
  | .idmefPath p => some [.idmef p]
  | .string s => some [.string s]
  | .int n => some [.number n]
  | .oneArg f arg => (tokensOf arg).map fun ts =>
      .keyword (oneArgKeyword f) :: .punctuation .lparen :: (ts ++ [.punctuation .rparen])
  | .extract arg type => (tokensOf arg).map fun ts =>
      .keyword .extract :: .punctuation .lparen :: (ts ++ lastTokens (timeConstraintName type))
  | .interval arg value unit => do
      let ts ← tokensOf arg
      let us ← tokensOf value
      let s ← intervalUnitName unit
      some (.keyword .interval :: .punctuation .lparen :: (ts ++ .punctuation .comma :: (us ++ lastTokens s)))
  | .timezone arg tzvalue => (tokensOf arg).map fun ts =>
      .keyword .timezone :: .punctuation .lparen :: (ts ++ lastTokens tzvalue)

def optionsOf (f : SelectedPathFlags) : List Keyword :=
  (if f.orderAsc then [.orderAsc] else []) ++ (if f.orderDesc then [.orderDesc] else []) ++
    if f.groupBy then [.groupBy] else []

def optionTokens : List Keyword → List Terminal
  | [] => []
  | k :: ks => .punctuation .slash :: .keyword k :: ks.flatMap fun k => [.punctuation .comma, .keyword k]

def selectedTokens (o : SelectedObject) (f : SelectedPathFlags) : Option (List Terminal) :=
  (tokensOf o).map (· ++ optionTokens (optionsOf f))

end Tokens

section Derivations

variable {o : SelectedObject} {ts : List Terminal}

lemma extractFilter_name (t : TimeConstraint) :
    getExtractFilter (timeConstraintName t) = .ok (timeConstraintCode t) := by
  cases t <;> rfl

lemma intervalFilter_name {u : IntervalUnit} {s : String} (h : intervalUnitName u = some s) :
    getIntervalFilter s = .ok (intervalUnitCode u) := by
  cases u <;> cases h <;> rfl

lemma oneargfunc_keyword (f : OneArgFunction) : oneargfunc (oneArgKeyword f) = some (functionType f) := by
  cases f <;> rfl

lemma derives_tokens (h : tokensOf o = some ts) : Derives .value ts (nodeOf o) := by
  induction o generalizing ts with
  | idmefPath p =>
    cases h
    exact .plain .idmef
  | string s =>
    cases h
    exact .plain .string
  | int n =>
    cases h
    exact .plain .number
  | oneArg f arg ih =>
    obtain ⟨us, hus, rfl⟩ := Option.map_eq_some_iff.mp h
    exact .plain (.onearg (oneargfunc_keyword f) (ih hus))
  | extract arg type ih =>
    obtain ⟨us, hus, rfl⟩ := Option.map_eq_some_iff.mp h
    exact .plain (.extractfunc (ih hus) (extractFilter_name type))
  | interval arg value unit ih ih' =>
    obtain ⟨us, hus, h⟩ := Option.bind_eq_some_iff.mp h
    obtain ⟨vs, hvs, h⟩ := Option.bind_eq_some_iff.mp h
    obtain ⟨s, hs, h⟩ := Option.bind_eq_some_iff.mp h
    cases h
    exact .plain (.intervalfunc (ih hus) (ih' hvs) (intervalFilter_name hs))
  | timezone arg tzvalue ih =>
    obtain ⟨us, hus, rfl⟩ := Option.map_eq_some_iff.mp h
    exact .plain (.timezonefunc (ih hus))

lemma expressions_tokens {f : SelectedPathFlags} (h : selectedTokens o f = some ts) : Expressions ts (nodeOf o) f := by
  obtain ⟨us, hus, rfl⟩ := Option.map_eq_some_iff.mp h
  have hv := derives_tokens hus
  obtain ⟨asc, desc, group⟩ := f
  have hone := fun k g hk => @Options.one k g hk
  cases asc <;> cases desc <;> cases group
  · have hnone := Expressions.value hv
    rwa [← List.append_nil us] at hnone
  · exact .flags hv (hone .groupBy _ rfl)
  · exact .flags hv (hone .orderDesc _ rfl)
  · exact .flags hv (.more (k := .groupBy) (hone .orderDesc _ rfl) rfl)
  · exact .flags hv (hone .orderAsc _ rfl)
  · exact .flags hv (.more (k := .groupBy) (hone .orderAsc _ rfl) rfl)
  · exact .flags hv (.more (k := .orderDesc) (hone .orderAsc _ rfl) rfl)
  · exact .flags hv (.more (k := .groupBy) (.more (k := .orderDesc) (hone .orderAsc _ rfl) rfl) rfl)

end Derivations

section Reading

variable [R : PathReader]

end Reading

/-- A library that knows one path. -/
@[reducible] def messageidReader : PathReader where
  pathNewFast s := if s = "alert.messageid" then .ok messageidPath else .error (preludedbError .generic)

lemma messageid_spelled : @Spelled messageidReader
    [.keyword .count, .punctuation .lparen, .idmef messageidPath, .punctuation .rparen, .punctuation .slash,
      .keyword .groupBy] "count(alert.messageid) /group_by".toList := by
  let _ := messageidReader
  have hpath : Spells (.idmef messageidPath) "alert.messageid".toList :=
    .idmef (longest_matches (show pathText.longest "alert.messageid".toList = some 15 by decide))
      (fun c hc => mem_checked hc (by decide)) rfl
  have hgroup : Spelled [.keyword .groupBy] ("group_by".toList ++ []) :=
    .token (.keyword .groupBy) (fun c hc => by cases hc) .nil
  have hslash := Spelled.blank (c := ' ') rfl (.token (.punctuation .slash) trivial hgroup)
  have hclose := Spelled.token (.punctuation .rparen) trivial hslash
  have hend : Ended (.idmef messageidPath) (')' :: ' ' :: "/group_by".toList) := fun c hc => by
    cases hc
    decide
  have hopen := Spelled.token (.punctuation .lparen) trivial (.token hpath hend hclose)
  exact .token (.keyword .count) (fun c hc => by cases hc; decide) hopen

end Preludedb.Paths
