import Preludedb.Sql.Criterion

/-! A criterion and its negation, on one content of the field they are about. -/

namespace Preludedb.Sql

open Foundations Form Classic Idmef

def CriterionOperator.negation : CriterionOperator → Option CriterionOperator
  | .equal => some .notEqual
  | .equalNocase => some .notEqualNocase
  | .substr => some .notSubstr
  | .substrNocase => some .notSubstrNocase
  | .regex => some .notRegex
  | .regexNocase => some .notRegexNocase
  | _ => none

section Comparisons

def comparisonWords : List String :=
  ["=", "!=", ">", ">=", "<", "<=", "LIKE", "ILIKE", "REGEXP", "~", "~*", "!~", "!~*", "IS", "NOT"]

def isComparison : Form Lexeme → Bool
  | .atom (.word w) => comparisonWords.contains w
  | _ => false

-- whether a comparison is negated, its operator, and what stands on its right
def comparisonOf : List (Form Lexeme) → Bool × String × List (Form Lexeme)
  | .atom (.word "NOT") :: .atom (.word w) :: right => (true, w, right)
  | .atom (.word "!=") :: right => (true, "=", right)
  | .atom (.word "!~") :: right => (true, "~", right)
  | .atom (.word "!~*") :: right => (true, "~*", right)
  | .atom (.word w) :: right => (false, w, right)
  | right => (false, "", right)

/-- A content of the field: `compares` is how the server answers where the field is not NULL. -/
structure FieldContent where
  isNull : Bool
  compares : String → List (Form Lexeme) → List (Form Lexeme) → Bool

variable (c : FieldContent)

def FieldContent.compare (left rest : List (Form Lexeme)) : Bool :=
  let (negated, w, right) := comparisonOf rest
  c.compares w left right ^^ negated

/-- The truth of an operand, in which a comparison with NULL is unknown. -/
def FieldContent.truth (forms : List (Form Lexeme)) : Truth :=
  let left := forms.takeWhile fun f => !isComparison f
  match forms.dropWhile fun f => !isComparison f with
  | [.atom (.word "IS"), .atom (.word "NULL")] => .ofBool c.isNull
  | [.atom (.word "IS"), .atom (.word "NOT"), .atom (.word "NULL")] => .ofBool !c.isNull
  | rest => if c.isNull then .unknown else .ofBool (c.compare left rest)

variable {c} {v : List (Form Lexeme) → Truth} {left rest : List (Form Lexeme)} {f g : Form Lexeme}

lemma FieldContent.truth_known (h : c.isNull = false) (forms : List (Form Lexeme)) :
    c.truth forms ≠ .unknown := by
  unfold FieldContent.truth
  split
  · apply Truth.ofBool_ne_unknown
  · apply Truth.ofBool_ne_unknown
  · rw [h, if_neg Bool.false_ne_true]
    apply Truth.ofBool_ne_unknown

lemma takeWhile_left (hl : ∀ f ∈ left, isComparison f = false) (hg : isComparison g = true) :
    (left ++ g :: rest).takeWhile (fun f => !isComparison f) = left := by
  rw [List.takeWhile_append_of_pos fun f hf => by rw [hl f hf]; rfl, List.takeWhile_cons, hg]
  simp

lemma dropWhile_left (hl : ∀ f ∈ left, isComparison f = false) (hg : isComparison g = true) :
    (left ++ g :: rest).dropWhile (fun f => !isComparison f) = g :: rest := by
  rw [List.dropWhile_append_of_pos fun f hf => by rw [hl f hf]; rfl, List.dropWhile_cons, hg]
  simp

lemma FieldContent.truth_null (hl : ∀ f ∈ left, isComparison f = false) :
    c.truth (left ++ [.atom (.word "IS"), .atom (.word "NULL")]) = .ofBool c.isNull := by
  have hrest := @dropWhile_left _ [.atom (.word "NULL")] (.atom (.word "IS")) hl (by decide)
  rw [FieldContent.truth, hrest]
  rfl

lemma FieldContent.truth_comparison (hc : c.isNull = false)
    (hl : ∀ f ∈ left, isComparison f = false) (hg : isComparison g = true)
    (his : g ≠ .atom (.word "IS")) :
    c.truth (left ++ g :: rest) = .ofBool (c.compare left (g :: rest)) := by
  rw [FieldContent.truth, takeWhile_left hl hg, dropWhile_left hl hg]
  split
  case h_1 heq => exact absurd (List.cons.inj heq).1 his
  case h_2 heq => exact absurd (List.cons.inj heq).1 his
  case h_3 => rw [hc, if_neg Bool.false_ne_true]

lemma truthOf_operand {forms : List (Form Lexeme)}
    (hall : ∀ a, Form.atom a ∈ f :: g :: forms → a.ordinary = true)
    (hf : ∀ a, f = .atom a → a ≠ .word "NOT") :
    truthOf v (tokensAll (f :: g :: forms)) = some (v (f :: g :: forms)) := by
  rw [truthOf_tokensAll]
  apply Cond.value_operand
  · exact Cond.splitAt_none fun a ha => ordinary_not_or (hall a ha)
  · exact Cond.splitAt_none fun a ha => ordinary_not_and (hall a ha)
  · exact fun a ha => decide_eq_false (hf a ha)

lemma tokensAll_injective {fs gs : List (Form Lexeme)} (h : tokensAll fs = tokensAll gs) : fs = gs := by
  have hread := congrArg read h
  rw [read_tokensAll, read_tokensAll] at hread
  exact Option.some.inj hread

lemma Leading.truthOf_append {gs : List (Form Lexeme)} (h : Leading (tokensAll left))
    (h' : Ordinary (tokensAll gs)) : truthOf v (tokensAll left ++ tokensAll gs) = some (v (left ++ gs)) := by
  obtain ⟨f, fs, hleft, hfs, hf⟩ := h
  obtain ⟨gs', hgs, hne, hall⟩ := h'
  cases tokensAll_injective hleft
  cases tokensAll_injective hgs
  rw [← tokensAll_append]
  have hordinary : ∀ a, Form.atom a ∈ f :: (fs ++ gs) → a.ordinary = true := by
    intro a ha
    rw [← List.cons_append] at ha
    rcases List.mem_append.mp ha with ha | ha
    · exact hfs a ha
    · exact hall a ha
  cases fs with
  | nil =>
    obtain ⟨g, gs, rfl⟩ := List.exists_cons_of_ne_nil hne
    exact truthOf_operand hordinary hf
  | cons g fs => exact truthOf_operand hordinary hf

lemma truthOf_known (h : ∀ forms, v forms ≠ .unknown) (t : SqlText) : truthOf v t ≠ some .unknown := by
  intro ht
  rw [truthOf, Option.bind_eq_some_iff] at ht
  obtain ⟨forms, -, hforms⟩ := ht
  rw [Cond.value, Option.map_eq_some_iff] at hforms
  obtain ⟨cond, -, hcond⟩ := hforms
  exact Cond.eval_known h cond hcond

end Comparisons

section Constraints

-- the operator of a constraint, and whether both of its sides are in lower case
def constraintWords (b : Backend) (op : CriterionOperator) : List String × Bool :=
  match getOperatorString b op with
  | some ws => (ws, b = .sqlite3 && op.isNocase)
  | none => ([if op = .equalNocase then "=" else "!="], true)

def side (lower : Bool) (l : Lexeme) : List (Form Lexeme) :=
  if lower then [.atom (.word "lower"), .group [.atom l]] else [.atom l]

def wordForms (ws : List String) : List (Form Lexeme) := ws.map fun w => .atom (.word w)

/-- The name of a column, which is no operator. -/
def Column (field : String) : Prop :=
  (Lexeme.word field).ordinary = true ∧ field ∉ comparisonWords

variable {b : Backend} {op op' : CriterionOperator} {field s : String} {text text' : SqlText}
  {c : FieldContent}

lemma Column.side_plain (h : Column field) (lower : Bool) :
    ∀ f ∈ side lower (.word field), isComparison f = false := by
  have hfield : isComparison (.atom (.word field)) = false := by simpa [isComparison] using h.2
  cases lower with
  | false => simpa [side] using hfield
  | true =>
    intro f hf
    rcases List.mem_cons.mp hf with rfl | hf
    · decide
    · cases List.mem_singleton.mp hf
      rfl

lemma Column.leading (h : Column field) : Leading (words [field]) := by
  apply word_leading h.1
  rintro rfl
  exact h.2 (by decide)

lemma tokensAll_wordForms (ws : List String) : tokensAll (wordForms ws) = words ws := by
  induction ws with
  | nil => rfl
  | cons w ws ih =>
    rw [wordForms, List.map_cons, tokensAll_cons, ← wordForms, ih]
    rfl

lemma constraint_forms (h : buildConstraintString b (words [field]) op (literal s) = .ok text) :
    text = tokensAll (side (constraintWords b op).2 (.word field) ++
      wordForms (constraintWords b op).1 ++ side (constraintWords b op).2 (.literal s)) := by
  rw [tokensAll_append, tokensAll_append, tokensAll_wordForms]
  unfold buildConstraintString at h
  unfold constraintWords
  split at h
  case h_1 name hname => cases h; simp [hname, side, words, literal, tokens]
  case h_3 name hname => cases h; simp [hname, side, words, literal, tokens]
  case h_4 hname =>
    simp only [hname]
    split at h
    case isTrue heq => cases h; simp [heq, side, words, literal, call, paren, tokens]
    case isFalse hne =>
      split at h
      · cases h; simp [hne, side, words, literal, call, paren, tokens]
      · cases h
  case h_5 name hname =>
    simp only [hname]
    split at h
    case isTrue hcase => cases h; simp [hcase, side, words, literal, call, paren, tokens]
    case isFalse hcase => cases h; simp [hcase, side, words, literal, tokens]
  all_goals cases h

lemma constraintWords_shape (hnull : op ≠ .null) (hnot : op ≠ .notNull) :
    ∃ w ws, (constraintWords b op).1 = w :: ws ∧ isComparison (.atom (.word w)) = true ∧ w ≠ "IS" ∧
      ∀ u ∈ w :: ws, (Lexeme.word u).ordinary = true := by
  cases b <;> cases op <;> first
    | exact absurd rfl hnull
    | exact absurd rfl hnot
    | exact ⟨_, _, rfl, by decide, by decide, by decide⟩

/-- The truth of a constraint on a field that is not NULL. -/
lemma truthOf_constraint (hf : Column field) (hc : c.isNull = false) (hnull : op ≠ .null)
    (hnot : op ≠ .notNull) (h : buildConstraintString b (words [field]) op (literal s) = .ok text) :
    truthOf c.truth text = some (.ofBool (c.compare (side (constraintWords b op).2 (.word field))
      (wordForms (constraintWords b op).1 ++ side (constraintWords b op).2 (.literal s)))) := by
  obtain ⟨w, ws, hws, hw, his, hordinary⟩ := constraintWords_shape (b := b) hnull hnot
  have hside : ∀ lower l, l.ordinary = true → ∀ a, Form.atom a ∈ side lower l → a.ordinary = true := by
    intro lower l hl a ha
    cases lower with
    | false =>
      cases List.mem_singleton.mp ha
      exact hl
    | true =>
      simp only [side, if_true, List.mem_cons, List.not_mem_nil, or_false, atom.injEq, reduceCtorEq] at ha
      rw [ha]
      decide
  have hwords : ∀ a, Form.atom a ∈ wordForms (w :: ws) → a.ordinary = true := by
    intro a ha
    obtain ⟨u, hu, hua⟩ := List.mem_map.mp ha
    cases hua
    exact hordinary u hu
  have hleft := hf.side_plain (constraintWords b op).2
  have hall : ∀ a, Form.atom a ∈ side (constraintWords b op).2 (.word field) ++
      wordForms (constraintWords b op).1 ++ side (constraintWords b op).2 (.literal s) →
      a.ordinary = true := by
    intro a ha
    rw [hws, List.mem_append, List.mem_append] at ha
    rcases ha with (ha | ha) | ha
    · exact hside _ _ hf.1 a ha
    · exact hwords a ha
    · exact hside _ _ rfl a ha
  have hhead : ∃ f fs, side (constraintWords b op).2 (.word field) = f :: fs ∧
      ∀ a, f = .atom a → a ≠ .word "NOT" := by
    cases (constraintWords b op).2 with
    | false =>
      refine ⟨_, _, rfl, fun a ha hn => hf.2 ?_⟩
      cases ha
      cases hn
      decide
    | true =>
      refine ⟨_, _, rfl, fun a ha hn => ?_⟩
      cases ha
      revert hn
      decide
  have htruth := @FieldContent.truth_comparison _ _ (wordForms ws ++ side (constraintWords b op).2 (.literal s)) _
    hc hleft hw fun h => his (by cases h; rfl)
  rw [constraint_forms h]
  rw [hws] at hall ⊢
  rw [List.append_assoc] at hall ⊢
  have hcons : wordForms (w :: ws) ++ side (constraintWords b op).2 (.literal s) =
      .atom (.word w) :: (wordForms ws ++ side (constraintWords b op).2 (.literal s)) := rfl
  rw [hcons] at hall ⊢
  rw [← htruth]
  obtain ⟨f, fs, hfs, hfirst⟩ := hhead
  rw [hfs] at hall ⊢
  cases fs with
  | nil => exact truthOf_operand hall hfirst
  | cons g fs => exact truthOf_operand hall hfirst

lemma constraintWords_negation (hop : op.negation = some op') :
    (constraintWords b op').2 = (constraintWords b op).2 := by
  cases b <;> cases op <;> cases hop <;> rfl

lemma compare_negation (hop : op.negation = some op') (left : List (Form Lexeme)) :
    c.compare left (wordForms (constraintWords b op').1 ++ side (constraintWords b op').2 (.literal s)) =
      (!c.compare left (wordForms (constraintWords b op).1 ++ side (constraintWords b op).2 (.literal s)))
    ↔ (b = .mysql → op = .regex ∨ op = .regexNocase →
      c.compares "REGEXP" left [.atom (.word "BINARY"), .atom (.literal s)] =
        c.compares "REGEXP" left [.atom (.literal s)]) := by
  cases b <;> cases op <;> cases hop
  case mysql.regex | mysql.regexNocase =>
    simp [FieldContent.compare, comparisonOf, constraintWords, getOperatorString, wordForms, side,
      eq_comm]
  all_goals
    apply iff_of_true
    · simp [FieldContent.compare, comparisonOf, constraintWords, getOperatorString, wordForms, side,
        CriterionOperator.isNocase]
    · simp

end Constraints

section Criteria

variable [R : Rendering]

/-- The literal a criterion compares its field with. -/
def criterionLiteral (op : CriterionOperator) : CriterionValue → Except SqlError SqlText
  | .value v => buildCriterionFixedSqlValue v op
  | .regex s => do pure (literal (← R.escape s))
  | .brokenDownTime _ => .error (preludedbError .generic)

variable {b : Backend} {op op' : CriterionOperator} {value : CriterionValue} {field s : String}
  {text text' t : SqlText} {c : FieldContent}

lemma buildCriterionString_positive (hop : op.negation = some op') :
    buildCriterionString b (words [field]) op value = buildCriterionValue b (words [field]) op value := by
  cases op <;> cases hop <;> simp [buildCriterionString, CriterionOperator.isNot]

lemma buildCriterionString_negation (hop : op.negation = some op')
    (h : buildCriterionValue b (words [field]) op' value = .ok t) :
    buildCriterionString b (words [field]) op' value =
      .ok (paren (words [field] ++ operatorWords b .null ++ words ["OR"] ++ t)) := by
  cases op <;> cases hop <;> simp [buildCriterionString, CriterionOperator.isNot, h]

lemma criterionLiteral_ok (h : criterionLiteral op value = .ok t) : ∃ s, t = literal s := by
  cases value with
  | brokenDownTime lt => cases h
  | regex r =>
    obtain ⟨s, -, h⟩ := ok_of_bind h
    cases h
    exact ⟨s, rfl⟩
  | value v =>
    cases v with
    | time m =>
      rw [criterionLiteral, buildCriterionFixedSqlValue] at h
      cases hm : R.timestamp m with
      | error e =>
        rw [hm] at h
        cases h
      | ok s =>
        rw [hm] at h
        cases h
        exact ⟨s, rfl⟩
    | _ =>
      obtain ⟨u, -, h⟩ := ok_of_bind h
      obtain ⟨s, -, h⟩ := ok_of_bind h
      cases h
      exact ⟨s, rfl⟩

lemma criterionLiteral_negation (hop : op.negation = some op') :
    criterionLiteral op' value = criterionLiteral op value := by
  cases value with
  | brokenDownTime lt => rfl
  | regex r => rfl
  | value v => cases v <;> cases op <;> cases hop <;> rfl

lemma buildCriterionValue_literal (hv : ∀ lt, value ≠ .brokenDownTime lt) :
    buildCriterionValue b (words [field]) op value =
      criterionLiteral op value >>= buildConstraintString b (words [field]) op := by
  cases value with
  | brokenDownTime lt => exact absurd rfl (hv lt)
  | regex r =>
    rw [buildCriterionValue, buildCriterionRegex, criterionLiteral]
    cases R.escape r <;> rfl
  | value v => rfl

omit R in
lemma constraint_built (hop : op.negation = some op') (u : SqlText) :
    ∃ t, buildConstraintString b (words [field]) op' u = .ok t := by
  cases b <;> cases op <;> cases hop <;> exact ⟨_, rfl⟩

omit R in
lemma truthOf_isNull (hf : Column field) :
    truthOf c.truth (words [field] ++ operatorWords b .null) = some (.ofBool c.isNull) := by
  have htext : words [field] ++ operatorWords b .null =
      tokensAll [.atom (.word field), .atom (.word "IS"), .atom (.word "NULL")] := by
    cases b <;> rfl
  have hplain := hf.side_plain false
  rw [htext, truthOf_operand]
  · exact congrArg some (FieldContent.truth_null hplain)
  · intro a ha
    simp only [List.mem_cons, atom.injEq, List.not_mem_nil, or_false] at ha
    rcases ha with rfl | rfl | rfl
    · exact hf.1
    · rfl
    · rfl
  · intro a ha hn
    cases ha
    cases hn
    exact hf.2 (by decide)

omit R in
lemma truthOf_negation (hf : Column field) (ht : Operand t) {x : Truth}
    (hx : truthOf c.truth t = some x) :
    truthOf c.truth (paren (words [field] ++ operatorWords b .null ++ words ["OR"] ++ t)) =
      some ((Truth.ofBool c.isNull).or x) := by
  have hnull : Operand (words [field] ++ operatorWords b .null) :=
    hf.leading.operand (operatorWords_ordinary (.inl rfl))
  rw [truthOf_paren ((hnull.whole.append (words_whole _)).append ht.whole)]
  exact hnull.truthOf_or ht (truthOf_isNull hf) hx

/-- The rows of the negation are those where the field is NULL or the criterion is not true. -/
def Partitions (c : FieldContent) (text text' : SqlText) : Prop :=
  truthOf c.truth text' = some .true ↔ c.isNull = true ∨ truthOf c.truth text ≠ some .true

omit R in
lemma partitions_of_null (hf : Column field) (ht : Operand t) (hc : c.isNull = true) :
    Partitions c text (paren (words [field] ++ operatorWords b .null ++ words ["OR"] ++ t)) := by
  obtain ⟨x, hx⟩ := ht.exists_truth c.truth
  rw [Partitions, truthOf_negation hf ht hx, hc]
  exact iff_of_true rfl (.inl rfl)

omit R in
lemma partitions_iff (hf : Column field) (ht : Operand t) (hc : c.isNull = false) {x y : Bool}
    (hx : truthOf c.truth text = some (.ofBool x)) (hy : truthOf c.truth t = some (.ofBool y)) :
    Partitions c text (paren (words [field] ++ operatorWords b .null ++ words ["OR"] ++ t)) ↔
      y = !x := by
  rw [Partitions, truthOf_negation hf ht hy, hx, hc]
  cases x <;> cases y <;> simp [Truth.ofBool, Truth.or]

omit R in
/-- A broken-down time without a field gives the negation of an empty condition. -/
lemma not_partitions_empty (hf : Column field) : ¬ Partitions c []
    (paren (words [field] ++ operatorWords b .null ++ words ["OR"] ++ (words ["NOT"] ++ paren []))) := by
  have htext : paren (words [field] ++ operatorWords b .null ++ words ["OR"] ++
      (words ["NOT"] ++ paren [])) = tokensAll [.group [.atom (.word field), .atom (.word "IS"),
        .atom (.word "NULL"), .atom (.word "OR"), .atom (.word "NOT"), .group []]] := by
    cases b <;> rfl
  have hempty : ∀ v, Cond.value sqlOperators v [] = none := by
    intro v
    rw [Cond.value, Cond.parse]
    rfl
  have hfield : sqlOperators.isOr (.word field) = false := ordinary_not_or hf.1
  have hsplit : Cond.splitAt sqlOperators.isOr [.atom (.word field), .atom (.word "IS"),
      .atom (.word "NULL"), .atom (.word "OR"), .atom (.word "NOT"), .group []] =
      some ([.atom (.word field), .atom (.word "IS"), .atom (.word "NULL")],
        [.atom (.word "NOT"), .group []]) := by
    rw [Cond.splitAt, hfield]
    rfl
  have hnot : Cond.value sqlOperators c.truth [.atom (.word "NOT"), .group []] = none := by
    rw [Cond.value_not (by decide) rfl rfl, Cond.value_group, hempty]
    rfl
  rw [Partitions, htext, truthOf_tokensAll, Cond.value_group, Cond.value_or hsplit, hnot]
  have hnone : truthOf c.truth [] = none := hempty c.truth
  rw [hnone]
  simp

lemma brokenDownTime_partitions (hf : Column field) (lt : BrokenDownTime) (c : FieldContent)
    (h : buildCriterionBrokenDownTimeEqual b (words [field]) .equal lt = .ok text) :
    Partitions c text (paren (words [field] ++ operatorWords b .null ++ words ["OR"] ++
      (words ["NOT"] ++ paren text))) ↔ timeTable lt ≠ [] := by
  by_cases hlt : timeTable lt = []
  · have hnil : text = [] := by
      rw [buildCriterionBrokenDownTimeEqual, hlt] at h
      cases h
      rfl
    rw [hnil]
    exact iff_of_false (not_partitions_empty hf) (not_not_intro hlt)
  · apply iff_of_true _ hlt
    have htext := buildCriterionBrokenDownTimeEqual_operand hf.leading hlt h
    cases hc : c.isNull with
    | true => exact partitions_of_null hf (operand_not htext) hc
    | false =>
      obtain ⟨x, hx⟩ := htext.exists_truth c.truth
      have hnot := truthOf_not htext.whole c.truth
      rw [hx] at hnot
      have hknown := truthOf_known (FieldContent.truth_known hc) text
      cases x with
      | unknown => exact absurd hx hknown
      | true => exact (partitions_iff hf (operand_not htext) hc (x := true) (y := false) hx hnot).mpr rfl
      | false => exact (partitions_iff hf (operand_not htext) hc (x := false) (y := true) hx hnot).mpr rfl

/-- A pattern matches the content of the field alike with and without regard to case. -/
def MatchedAlike (c : FieldContent) (field : String) (pattern : Lexeme) : Prop :=
  c.compares "REGEXP" [.atom (.word field)] [.atom (.word "BINARY"), .atom pattern] =
    c.compares "REGEXP" [.atom (.word field)] [.atom pattern]

omit R in
lemma literal_partitions (hf : Column field) (hop : op.negation = some op')
    (h : buildConstraintString b (words [field]) op (literal s) = .ok text)
    (h' : buildConstraintString b (words [field]) op' (literal s) = .ok t) (c : FieldContent) :
    Partitions c text (paren (words [field] ++ operatorWords b .null ++ words ["OR"] ++ t)) ↔
      (c.isNull = false → b = .mysql → op = .regex ∨ op = .regexNocase →
        MatchedAlike c field (.literal s)) := by
  have hnull : op ≠ .null ∧ op ≠ .notNull ∧ op' ≠ .null ∧ op' ≠ .notNull := by
    cases op <;> cases hop <;> simp
  cases hc : c.isNull with
  | true =>
    have ht := buildConstraintString_operand hf.leading (literal_ordinary s) h'
    exact iff_of_true (partitions_of_null hf ht hc) (by simp)
  | false =>
    have ht := buildConstraintString_operand hf.leading (literal_ordinary s) h'
    have hx := truthOf_constraint hf hc hnull.1 hnull.2.1 h
    have hy := truthOf_constraint hf hc hnull.2.2.1 hnull.2.2.2 h'
    rw [constraintWords_negation hop] at hy
    have hcompare := compare_negation (b := b) (c := c) (s := s) hop
      (side (constraintWords b op).2 (.word field))
    rw [constraintWords_negation hop] at hcompare
    rw [partitions_iff hf ht hc hx hy, hcompare]
    constructor
    · intro halike _ hb hregex
      subst hb
      rcases hregex with rfl | rfl
      · exact halike rfl (.inl rfl)
      · exact halike rfl (.inr rfl)
    · intro halike hb hregex
      subst hb
      rcases hregex with rfl | rfl
      · exact halike rfl rfl (.inl rfl)
      · exact halike rfl rfl (.inr rfl)

end Criteria

section Examples

/-- A text that matches a pattern only without regard to case. -/
def upperContent : FieldContent where
  isNull := false
  compares _ _ right := right.length = 1

end Examples

end Preludedb.Sql
