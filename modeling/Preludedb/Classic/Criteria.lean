import Preludedb.Sql.Criterion
import Preludedb.Classic.ColumnCounts

/-! The WHERE clause of a tree of criteria, and the condition the server reads in it. -/

namespace Preludedb.Classic

open Foundations Form Sql Idmef

structure Criterion where
  path : Path
  operator : CriterionOperator
  value : CriterionValue

/-- A criterion with its trees, `null` where there is none. -/
inductive Criteria
  | null
  | node (criterion : Criterion) (and or : Criteria)

namespace Criteria

def isNull : Criteria → Bool
  | null => true
  | node _ _ _ => false

/-- The paths, in the order in which they are resolved. -/
def paths : Criteria → List Path
  | null => []
  | node c and or => c.path :: (paths and ++ paths or)

/-- The broken-down times have a field that is set. -/
def HasFields : Criteria → Prop
  | null => True
  | node c and or => c.value.HasField ∧ HasFields and ∧ HasFields or

end Criteria

section Resolving

variable [R : Rendering]

def classicPathResolveCriterion (b : Backend) (criterion : Criterion) (join : Join) :
    Except SqlError (SqlText × Join) := do
  let (columns, join) ← pathResolve criterion.path .where join
  pure (← buildCriterionString b (columnsText columns) criterion.operator criterion.value, join)

def classicPathResolveCriteria (b : Backend) : Criteria → Join → Except SqlError (SqlText × Join)
  | .null, join => .ok ([], join)
  | .node criterion and or, join => do
    let (text, join) ← classicPathResolveCriterion b criterion join
    let (text, join) ← (if and.isNull then pure (text, join) else do
      let (sub, join) ← classicPathResolveCriteria b and join
      pure (text ++ words ["AND"] ++ sub, join))
    if or.isNull then pure (text, join)
    else do
      let (sub, join) ← classicPathResolveCriteria b or join
      pure (paren (paren text ++ words ["OR"] ++ paren sub), join)

/-- The truth of a tree: `(criterion AND and) OR or`, with the condition rendered for each criterion
as one operand. -/
def criteriaTruth (v : List (Form Lexeme) → Truth) (b : Backend) :
    Criteria → Join → Except SqlError (Option Truth × Join)
  | .null, join => .ok (none, join)
  | .node criterion and or, join => do
    let (leaf, join) ← classicPathResolveCriterion b criterion join
    let truth := truthOf v leaf
    let (truth, join) ← (if and.isNull then pure (truth, join) else do
      let (sub, join) ← criteriaTruth v b and join
      pure (truth.bind fun s => sub.map fun t => s.and t, join))
    if or.isNull then pure (truth, join)
    else do
      let (sub, join) ← criteriaTruth v b or join
      pure (truth.bind fun s => sub.map fun t => s.or t, join)

end Resolving

section Reading

variable [R : Rendering] {b : Backend} {join join' : Join} {text : SqlText}
  {v : List (Form Lexeme) → Truth}

omit R in
lemma pathResolve_where {p : Path} {cs : List Column} (h : pathResolve p .where join = .ok (cs, join')) :
    Leading (columnsText cs) := by
  obtain ⟨c, child, hclass, -⟩ := exists_child p
  have hlength := pathResolve_columns h
  rw [(fieldName_length hclass).2 .where (by decide), ite_self] at hlength
  obtain ⟨column, rfl⟩ := List.length_eq_one_iff.mp hlength
  exact column.toText_leading

lemma criterion_operand {criterion : Criterion} (hv : criterion.value.HasField)
    (h : classicPathResolveCriterion b criterion join = .ok (text, join')) : Operand text := by
  obtain ⟨⟨cs, join₁⟩, hcs, h⟩ := ok_of_bind h
  obtain ⟨text', htext, h⟩ := ok_of_bind h
  cases h
  exact buildCriterionString_operand (pathResolve_where hcs) hv htext

/-- The text that is written for a tree is one operand, and its truth is that of the tree. -/
lemma criteria_truth {criteria : Criteria} (hn : criteria.isNull = false) (hf : criteria.HasFields)
    (h : classicPathResolveCriteria b criteria join = .ok (text, join')) :
    Operand text ∧ criteriaTruth v b criteria join = .ok (truthOf v text, join') := by
  induction criteria generalizing join join' text with
  | null => cases hn
  | node criterion and or iha iho =>
    obtain ⟨hc, hfa, hfo⟩ := hf
    obtain ⟨⟨leaf, join₁⟩, hleaf, h⟩ := ok_of_bind h
    obtain ⟨⟨text₂, join₂⟩, hand, h⟩ := ok_of_bind h
    have hoperand := criterion_operand hc hleaf
    have hconjunction : Operand text₂ ∧ (if and.isNull then pure (truthOf v leaf, join₁) else do
        let (sub, join) ← criteriaTruth v b and join₁
        pure ((truthOf v leaf).bind fun s => sub.map fun t => s.and t, join)) =
          Except.ok (truthOf v text₂, join₂) := by
      cases hna : and.isNull with
      | true =>
        rw [hna] at hand
        cases hand
        exact ⟨hoperand, rfl⟩
      | false =>
        rw [hna] at hand
        obtain ⟨⟨sub, join₃⟩, hsub, hand⟩ := ok_of_bind hand
        cases hand
        obtain ⟨hosub, htsub⟩ := iha hna hfa hsub
        refine ⟨hoperand.and hosub, ?_⟩
        rw [if_neg Bool.false_ne_true, htsub]
        obtain ⟨s, hs⟩ := hoperand.exists_truth v
        obtain ⟨t, ht⟩ := hosub.exists_truth v
        rw [hoperand.truthOf_and hosub hs ht, hs, ht]
        rfl
    obtain ⟨hoperand₂, htruth₂⟩ := hconjunction
    have hnode : criteriaTruth v b (.node criterion and or) join =
        if or.isNull then .ok (truthOf v text₂, join₂) else (do
          let (sub, join) ← criteriaTruth v b or join₂
          pure ((truthOf v text₂).bind fun s => sub.map fun t => s.or t, join)) := by
      rw [criteriaTruth, hleaf]
      change ((if and.isNull then (pure (truthOf v leaf, join₁) : Except SqlError _) else _) >>= _) = _
      rw [htruth₂]
      rfl
    rw [hnode]
    cases hno : or.isNull with
    | true =>
      rw [hno] at h
      cases h
      exact ⟨hoperand₂, rfl⟩
    | false =>
      rw [hno] at h
      obtain ⟨⟨sub, join₃⟩, hsub, h⟩ := ok_of_bind h
      cases h
      obtain ⟨hosub, htsub⟩ := iho hno hfo hsub
      have htruth : ∀ v, ∃ s t, truthOf v text₂ = some s ∧ truthOf v sub = some t ∧
          truthOf v (paren (paren text₂ ++ words ["OR"] ++ paren sub)) = some (s.or t) := fun v => by
        obtain ⟨s, hs⟩ := hoperand₂.exists_truth v
        obtain ⟨t, ht⟩ := hosub.exists_truth v
        exact ⟨s, t, hs, ht, truthOf_or hoperand₂.whole hosub.whole hs ht⟩
      refine ⟨?_, ?_⟩
      · refine operand_or hoperand₂.whole hosub.whole fun v => ?_
        obtain ⟨s, t, -, -, hst⟩ := htruth v
        rw [hst]
        rfl
      · obtain ⟨s, t, hs, ht, hst⟩ := htruth v
        rw [if_neg Bool.false_ne_true, htsub, hst, hs, ht]
        rfl

/-- The WHERE clause is read as the tree: each criterion is one operand of it. -/
theorem classicPathResolveCriteria_evaluates (criteria : Criteria) (hn : criteria.isNull = false)
    (hf : criteria.HasFields) (h : classicPathResolveCriteria b criteria join = .ok (text, join'))
    (v : List (Form Lexeme) → Truth) :
    ∃ t, criteriaTruth v b criteria join = .ok (some t, join') ∧ truthOf v text = some t := by
  obtain ⟨hoperand, htruth⟩ := criteria_truth (v := v) hn hf h
  obtain ⟨t, ht⟩ := hoperand.exists_truth v
  refine ⟨t, ?_, ht⟩
  rw [htruth, ht]

end Reading

section Examples

/-- `text = 'a' AND text != 'b' OR text IS NULL`, where the tree is `(… AND …) OR …`. -/
def textCriteria : Criteria :=
  .node ⟨textPath, .equal, .value (.string "a")⟩
    (.node ⟨textPath, .notEqual, .value (.string "b")⟩ .null .null)
    (.node ⟨textPath, .null, .value (.string "")⟩ .null .null)

theorem classicPathResolveCriteria_evaluates_text :
    ∃ text join', classicPathResolveCriteria (R := plainRendering) .mysql textCriteria .new =
        .ok (text, join') ∧
      ∃ t, criteriaTruth (R := plainRendering) (fun _ => .unknown) .mysql textCriteria .new =
          .ok (some t, join') ∧ truthOf (fun _ => .unknown) text = some t :=
  ⟨_, _, rfl, classicPathResolveCriteria_evaluates (R := plainRendering) textCriteria rfl
    ⟨trivial, ⟨trivial, trivial, trivial⟩, ⟨trivial, trivial, trivial⟩⟩ rfl (fun _ => .unknown)⟩

end Examples

end Preludedb.Classic
