import Preludedb.Foundations.Wildcards
import Preludedb.Sql.Criterion

/-! The pattern of a substring criterion and the pattern of LIKE that is built from it. -/

namespace Preludedb.Sql

open Foundations Wildcards

-- a backslash makes the next character literal, and stands for itself at the end
@[grind] def symbolsOf (wild : Char → Option (Symbol Char)) : Bool → List Char → List (Symbol Char)
  | true, [] => [.exact '\\']
  | false, [] => []
  | true, c :: cs => .exact c :: symbolsOf wild false cs
  | false, c :: cs =>
    if c = '\\' then symbolsOf wild true cs
    else (wild c).getD (.exact c) :: symbolsOf wild false cs

def idmefWild (c : Char) : Option (Symbol Char) := if c = '*' then some .any else none

def likeWild (c : Char) : Option (Symbol Char) :=
  if c = '%' then some .any else if c = '_' then some .one else none

/-- Every underscore of the pattern is escaped, and no percent sign is. -/
def Faithful : Bool → List Char → Prop
  | _, [] => True
  | escaped, c :: cs =>
    (if escaped then c ≠ '%' else c ≠ '_') ∧ Faithful (!escaped && c == '\\') cs

variable {c : Char} {cs : List Char}

lemma likeText_special (e : Bool) (cs : List Char) :
    likeText e ('%' :: cs) = '\\' :: '%' :: likeText false cs := by
  simp [likeText]

lemma likeText_escaped (hc : c ≠ '%') : likeText true (c :: cs) = c :: likeText false cs := by
  simp [likeText, hc]

lemma likeText_star : likeText false ('*' :: cs) = '%' :: likeText false cs := by
  simp [likeText]

lemma likeText_backslash : likeText false ('\\' :: cs) = '\\' :: likeText true cs := by
  simp [likeText]

lemma likeText_other (hp : c ≠ '%') (hs : c ≠ '*') (hb : c ≠ '\\') :
    likeText false (c :: cs) = c :: likeText false cs := by
  simp [likeText, hp, hs, beq_false_of_ne hb]

lemma units_idmef_some (e : Bool) (cs : List Char) :
    ∀ o ∈ units (symbolsOf idmefWild e cs), o.isSome := by
  induction cs generalizing e with
  | nil => cases e <;> simp [symbolsOf, units]
  | cons c cs ih =>
    cases e with
    | true => simpa [symbolsOf, units] using ih false
    | false =>
      by_cases hb : c = '\\'
      · simpa [symbolsOf, hb] using ih true
      by_cases hs : c = '*'
      · simpa [symbolsOf, hb, hs, idmefWild, units] using ih false
      · simpa [symbolsOf, hb, hs, idmefWild, units] using ih false

lemma units_length (e : Bool) (cs : List Char) :
    (units (symbolsOf likeWild e (likeText e cs))).length = (units (symbolsOf idmefWild e cs)).length := by
  induction cs generalizing e with
  | nil => cases e <;> simp [likeText, symbolsOf, units]
  | cons c cs ih =>
    have hf := ih false
    cases e with
    | true =>
      by_cases hp : c = '%'
      · simp [hp, likeText_special, symbolsOf, likeWild, units, hf]
      · simp [likeText_escaped hp, symbolsOf, units, hf]
    | false =>
      by_cases hp : c = '%'
      · simp [hp, likeText_special, symbolsOf, idmefWild, units, hf]
      by_cases hs : c = '*'
      · simp [hs, likeText_star, symbolsOf, likeWild, idmefWild, units, hf]
      by_cases hb : c = '\\'
      · simp [hb, likeText_backslash, symbolsOf, ih true]
      by_cases hu : c = '_'
      · simp [hu, likeText_other, symbolsOf, likeWild, idmefWild, units, hf]
      · simp [likeText_other hp hs hb, symbolsOf, hb, hp, hs, hu, likeWild, idmefWild, units, hf]

lemma symbols_eq (e : Bool) (h : Faithful e cs) :
    symbolsOf likeWild e (likeText e cs) = symbolsOf idmefWild e cs := by
  induction cs generalizing e with
  | nil => cases e <;> simp [likeText, symbolsOf]
  | cons c cs ih =>
    obtain ⟨hc, hrest⟩ := h
    cases e with
    | true =>
      rw [if_pos rfl] at hc
      simp [likeText_escaped hc, symbolsOf, ih false hrest]
    | false =>
      rw [if_neg Bool.false_ne_true] at hc
      by_cases hb : c = '\\'
      · subst hb
        simp [likeText_backslash, symbolsOf, ih true hrest]
      have hf := ih false (by simpa [beq_false_of_ne hb] using hrest)
      by_cases hp : c = '%'
      · simp [hp, likeText_special, symbolsOf, idmefWild, hf]
      by_cases hs : c = '*'
      · simp [hs, likeText_star, symbolsOf, likeWild, idmefWild, hf]
      · simp [likeText_other hp hs hb, symbolsOf, hb, hp, hs, hc, likeWild, idmefWild, hf]

lemma faithful_of_units (e : Bool) (h : units (symbolsOf likeWild e (likeText e cs))
    = units (symbolsOf idmefWild e cs)) : Faithful e cs := by
  induction cs generalizing e with
  | nil => trivial
  | cons c cs ih =>
    cases e with
    | true =>
      by_cases hp : c = '%'
      · simp [hp, likeText_special, symbolsOf, likeWild, units] at h
      · simp only [likeText_escaped hp, symbolsOf, units, List.cons.injEq, true_and] at h
        exact ⟨hp, ih false h⟩
    | false =>
      by_cases hb : c = '\\'
      · subst hb
        simp only [likeText_backslash, symbolsOf, if_true] at h
        exact ⟨by decide, ih true h⟩
      have hstate : (!false && c == '\\') = false := by simp [hb]
      have hcons : c ≠ '_' → units (symbolsOf likeWild false (likeText false cs))
          = units (symbolsOf idmefWild false cs) → Faithful false (c :: cs) := by
        intro hc hu
        refine ⟨hc, ?_⟩
        rw [hstate]
        exact ih false hu
      by_cases hp : c = '%'
      · simp [hp, likeText_special, symbolsOf, idmefWild, units] at h
        exact hcons (by simp [hp]) h
      by_cases hs : c = '*'
      · simp [hs, likeText_star, symbolsOf, likeWild, idmefWild, units] at h
        exact hcons (by simp [hs]) h
      by_cases hu : c = '_'
      · simp [hu, likeText_other, symbolsOf, likeWild, idmefWild, units] at h
      · simp [likeText_other hp hs hb, symbolsOf, hb, hp, hs, hu, likeWild, idmefWild, units] at h
        exact hcons hu h

/-- The pattern of LIKE matches what the pattern of IDMEF matches. -/
def SameTexts (like idmef : List Char) : Prop :=
  ∀ text, matchesText (symbolsOf likeWild false like) text
    = matchesText (symbolsOf idmefWild false idmef) text

theorem likeValue_iff (s : String) : ∃ like,
    buildCriterionFixedSqlLikeValue (.string s) = .ok like
    ∧ buildCriterionFixedSqlLikeValue (.data s) = .ok like
    ∧ (SameTexts like.toList s.toList ↔ Faithful false s.toList) := by
  refine ⟨String.ofList (likeText false s.toList), rfl, rfl, ?_⟩
  rw [String.toList_ofList]
  constructor
  · intro h
    apply faithful_of_units
    have : Nontrivial Char := ⟨'a', 'b', by decide⟩
    apply units_eq_of_matches (units_length false s.toList) (units_idmef_some false s.toList)
    intro t
    exact h t
  · intro h text
    rw [symbols_eq false h]

/-- An underscore matches any character. -/
theorem likeValue_underscore : ∃ like,
    buildCriterionFixedSqlLikeValue (.string "a_b") = .ok like ∧ ¬ SameTexts like.toList "a_b".toList := by
  refine ⟨_, rfl, fun h => ?_⟩
  have hx := h ['a', 'x', 'b']
  revert hx
  decide

end Preludedb.Sql
