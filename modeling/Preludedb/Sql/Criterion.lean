import Preludedb.Sql.Builders

/-! The condition that is rendered for one criterion. -/

namespace Preludedb.Sql

open Foundations Form Classic Idmef

/-- Broken-down time, with -1 in the fields that are not set. -/
structure BrokenDownTime where
  sec : Int
  min : Int
  hour : Int
  mday : Int
  mon : Int
  year : Int
  wday : Int
  yday : Int
  deriving DecidableEq, Repr

inductive IdmefValue
  | time (t : Time)
  | string (s : String)
  | data (s : String)
  | other (d : Data)
  deriving DecidableEq, Repr

inductive CriterionValue
  | value (v : IdmefValue)
  | regex (s : String)
  | brokenDownTime (t : BrokenDownTime)
  deriving DecidableEq, Repr

section Rendering

/-- `*` stands for any text, unless it is escaped. -/
@[grind] def likeText : Bool → List Char → List Char
  | _, [] => []
  | escapeNext, c :: cs =>
    (if c = '%' then ['\\', '%'] else if c = '*' ∧ ¬ escapeNext then ['%'] else [c]) ++
      likeText (!escapeNext && c == '\\') cs

def buildCriterionFixedSqlLikeValue : IdmefValue → Except SqlError String
  | .string s | .data s => .ok (String.ofList (likeText false s.toList))
  | _ => .error (bareError (-1))

variable [R : Rendering]

def valueText : IdmefValue → Except SqlError String
  | .string s | .data s => .ok s
  | .time t => R.timestamp t
  | .other d => R.valueToString d

def buildCriterionFixedSqlValue (value : IdmefValue) (op : CriterionOperator) :
    Except SqlError SqlText :=
  match value with
  | .time t => (R.timestamp t).map literal
  | value => do
    let text ← (if op.isSubstr then buildCriterionFixedSqlLikeValue value else valueText value)
    pure (literal (← R.escape text))

def buildCriterionFixedValue (b : Backend) (field : SqlText) (op : CriterionOperator)
    (value : IdmefValue) : Except SqlError SqlText := do
  buildConstraintString b field op (← buildCriterionFixedSqlValue value op)

def buildCriterionRegex (b : Backend) (field : SqlText) (op : CriterionOperator) (regex : String) :
    Except SqlError SqlText := do
  buildConstraintString b field op (literal (← R.escape regex))

/-- The fields of a time that are set. -/
def timeTable (lt : BrokenDownTime) : List (TimeConstraint × Int) :=
  let year := if lt.year ≠ -1 then lt.year + 1900 else lt.year
  let month := if lt.mon ≠ -1 then lt.mon + 1 else lt.mon
  [(.year, year), (.month, month), (.yday, lt.yday), (.mday, lt.mday), (.wday, lt.wday),
    (.hour, lt.hour), (.min, lt.min), (.sec, lt.sec)].filter fun x => x.2 ≠ -1

def joinAnd : List SqlText → SqlText
  | [] => []
  | [t] => t
  | t :: ts => t ++ words ["AND"] ++ joinAnd ts

def buildCriterionBrokenDownTimeEqual (b : Backend) (field : SqlText) (op : CriterionOperator)
    (lt : BrokenDownTime) : Except SqlError SqlText :=
  ((timeTable lt).mapM fun x => buildTimeConstraintString b field x.1 op x.2 0).map joinAnd

def buildCriterionBrokenDownTimeNotEqual (b : Backend) (field : SqlText) (lt : BrokenDownTime) :
    Except SqlError SqlText := do
  let text ← buildCriterionBrokenDownTimeEqual b field .equal lt
  pure (words ["NOT"] ++ paren text)

def buildCriterionBrokenDownTime (b : Backend) (field : SqlText) (op : CriterionOperator)
    (lt : BrokenDownTime) : Except SqlError SqlText :=
  if op = .equal then buildCriterionBrokenDownTimeEqual b field op lt
  else if op = .notEqual then buildCriterionBrokenDownTimeNotEqual b field lt
  else .error (preludedbError .query)

def operatorWords (b : Backend) (op : CriterionOperator) : SqlText :=
  words ((getOperatorString b op).getD [])

def buildCriterionValue (b : Backend) (field : SqlText) (op : CriterionOperator) :
    CriterionValue → Except SqlError SqlText
  | .value v => buildCriterionFixedValue b field op v
  | .regex s => buildCriterionRegex b field op s
  | .brokenDownTime lt => buildCriterionBrokenDownTime b field op lt

def buildCriterionString (b : Backend) (field : SqlText) (op : CriterionOperator)
    (value : CriterionValue) : Except SqlError SqlText :=
  if op = .null ∨ op = .notNull then .ok (field ++ operatorWords b op)
  else do
    let text ← buildCriterionValue b field op value
    -- an absent value is not the one that is excluded
    if op.isNot then
      pure (paren (field ++ operatorWords b .null ++ words ["OR"] ++ text))
    else pure text

end Rendering

section Operands

/-- The operators of an SQL condition. -/
def sqlOperators : Operators Lexeme :=
  ⟨fun l => l = .word "NOT", fun l => l = .word "AND", fun l => l = .word "OR"⟩

/-- The truth of a text as a condition, where `v` is that of its operands. -/
def truthOf (v : List (Form Lexeme) → Truth) (t : SqlText) : Option Truth :=
  (read t).bind (Cond.value sqlOperators v)

variable {v : List (Form Lexeme) → Truth} {b : Backend} {field value text t u : SqlText}
  {op : CriterionOperator} {s s' : Truth}

lemma truthOf_tokensAll (fs : List (Form Lexeme)) :
    truthOf v (tokensAll fs) = Cond.value sqlOperators v fs := by
  rw [truthOf, read_tokensAll, Option.bind_some]

/-- The text is a condition that is not split at a disjunction. -/
def Operand (t : SqlText) : Prop :=
  ∃ fs, t = tokensAll fs ∧ Cond.splitAt sqlOperators.isOr fs = none ∧
    ∀ v, (truthOf v t).isSome

lemma ordinary_not_or {l : Lexeme} (h : l.ordinary = true) : sqlOperators.isOr l = false := by
  refine decide_eq_false fun hl => ?_
  rw [hl] at h
  revert h
  decide

lemma ordinary_not_and {l : Lexeme} (h : l.ordinary = true) : sqlOperators.isAnd l = false := by
  refine decide_eq_false fun hl => ?_
  rw [hl] at h
  revert h
  decide

/-- `field operator value` -/
lemma Leading.operand (h : Leading t) (h' : Ordinary u) : Operand (t ++ u) := by
  obtain ⟨f, fs, rfl, hfs, hf⟩ := h
  obtain ⟨gs, rfl, hne, hgs⟩ := h'
  have hordinary : ∀ a, Form.atom a ∈ f :: (fs ++ gs) → a.ordinary = true := fun a ha => by
    rw [← List.cons_append] at ha
    rcases List.mem_append.mp ha with ha | ha
    · exact hfs a ha
    · exact hgs a ha
  have hor := Cond.splitAt_none (k := sqlOperators.isOr) fun a ha => ordinary_not_or (hordinary a ha)
  have hand := Cond.splitAt_none (k := sqlOperators.isAnd) fun a ha => ordinary_not_and (hordinary a ha)
  have htext : tokensAll (f :: fs) ++ tokensAll gs = tokensAll (f :: (fs ++ gs)) := by simp
  refine ⟨f :: (fs ++ gs), htext, hor, fun v => ?_⟩
  obtain ⟨g, rest, hrest⟩ : ∃ g rest, fs ++ gs = g :: rest := by
    cases fs with
    | nil => exact List.exists_cons_of_ne_nil hne
    | cons g fs => exact ⟨g, fs ++ gs, rfl⟩
  rw [htext, truthOf_tokensAll]
  rw [hrest] at hor hand ⊢
  rw [Cond.value_operand hor hand fun a ha => decide_eq_false (hf a ha)]
  rfl

/-- Conditions joined by `AND`. -/
lemma Operand.truthOf_and (h : Operand t) (h' : Operand u) (hs : truthOf v t = some s)
    (hs' : truthOf v u = some s') : truthOf v (t ++ words ["AND"] ++ u) = some (s.and s') := by
  obtain ⟨fs, rfl, hor, -⟩ := h
  obtain ⟨gs, rfl, hor', -⟩ := h'
  rw [truthOf_tokensAll] at hs hs'
  have htext : tokensAll fs ++ words ["AND"] ++ tokensAll gs =
      tokensAll (fs ++ .atom (.word "AND") :: gs) := by
    simp [words, tokens]
  rw [htext, truthOf_tokensAll]
  exact Cond.value_and_append (by decide) (by decide) hor hor' hs hs'

lemma Operand.and (h : Operand t) (h' : Operand u) : Operand (t ++ words ["AND"] ++ u) := by
  have hsome : ∀ v, (truthOf v (t ++ words ["AND"] ++ u)).isSome := fun v => by
    obtain ⟨-, -, -, hv⟩ := id h
    obtain ⟨-, -, -, hv'⟩ := id h'
    obtain ⟨s, hs⟩ := Option.isSome_iff_exists.mp (hv v)
    obtain ⟨s', hs'⟩ := Option.isSome_iff_exists.mp (hv' v)
    rw [h.truthOf_and h' hs hs']
    rfl
  obtain ⟨fs, rfl, hor, -⟩ := h
  obtain ⟨gs, rfl, hor', -⟩ := h'
  refine ⟨fs ++ .atom (.word "AND") :: gs, by simp [words, tokens], ?_, hsome⟩
  refine Cond.splitAt_none_append.mpr ⟨hor, ?_⟩
  rw [Cond.splitAt, if_neg (by decide), hor']
  rfl

lemma Operand.whole (h : Operand t) : Whole t := by
  obtain ⟨fs, rfl, -, -⟩ := h
  exact ⟨fs, rfl⟩

lemma Operand.exists_truth (h : Operand t) (v : List (Form Lexeme) → Truth) :
    ∃ s, truthOf v t = some s := by
  obtain ⟨-, -, -, hv⟩ := h
  exact Option.isSome_iff_exists.mp (hv v)

/-- `t OR u` -/
lemma Operand.truthOf_or (h : Operand t) (h' : Operand u) (hs : truthOf v t = some s)
    (hs' : truthOf v u = some s') : truthOf v (t ++ words ["OR"] ++ u) = some (s.or s') := by
  obtain ⟨fs, rfl, hor, -⟩ := h
  obtain ⟨gs, rfl, -, -⟩ := h'
  rw [truthOf_tokensAll] at hs hs'
  have htext : tokensAll fs ++ words ["OR"] ++ tokensAll gs =
      tokensAll (fs ++ .atom (.word "OR") :: gs) := by
    simp [words, tokens]
  have hsplit : Cond.splitAt sqlOperators.isOr (fs ++ .atom (.word "OR") :: gs) = some (fs, gs) := by
    rw [Cond.splitAt_append, hor, Cond.splitAt, if_pos (by decide)]
    simp
  rw [htext, truthOf_tokensAll, Cond.value_or hsplit, hs, hs']
  rfl

lemma Operand.disjunction (h : Operand t) (h' : Operand u) (v : List (Form Lexeme) → Truth) :
    (truthOf v (t ++ words ["OR"] ++ u)).isSome := by
  obtain ⟨s, hs⟩ := h.exists_truth v
  obtain ⟨s', hs'⟩ := h'.exists_truth v
  rw [h.truthOf_or h' hs hs']
  rfl

/-- `((t) OR (u))` -/
lemma operand_or (h : Whole t) (h' : Whole u)
    (hs : ∀ v, (truthOf v (paren (paren t ++ words ["OR"] ++ paren u))).isSome) :
    Operand (paren (paren t ++ words ["OR"] ++ paren u)) := by
  obtain ⟨fs, rfl⟩ := h
  obtain ⟨gs, rfl⟩ := h'
  exact ⟨[.group [.group fs, .atom (.word "OR"), .group gs]], by simp [words, paren, tokens], rfl, hs⟩

lemma truthOf_or (h : Whole t) (h' : Whole u) (hs : truthOf v t = some s)
    (hs' : truthOf v u = some s') :
    truthOf v (paren (paren t ++ words ["OR"] ++ paren u)) = some (s.or s') := by
  obtain ⟨fs, rfl⟩ := h
  obtain ⟨gs, rfl⟩ := h'
  rw [truthOf_tokensAll] at hs hs'
  have htext : paren (paren (tokensAll fs) ++ words ["OR"] ++ paren (tokensAll gs)) =
      tokensAll [.group [.group fs, .atom (.word "OR"), .group gs]] := by
    simp [words, paren, tokens]
  rw [htext, truthOf_tokensAll]
  exact Cond.value_or_groups (by decide) hs hs'

lemma truthOf_paren (h : Whole t) : truthOf v (paren t) = truthOf v t := by
  obtain ⟨fs, rfl⟩ := h
  have htext : paren (tokensAll fs) = tokensAll [.group fs] := by simp [paren, tokens]
  rw [htext, truthOf_tokensAll, truthOf_tokensAll, Cond.value_group]

lemma operand_paren (h : Whole t) (hs : ∀ v, (truthOf v t).isSome) : Operand (paren t) := by
  have hparen : ∀ v, (truthOf v (paren t)).isSome := fun v => by
    rw [truthOf_paren h]
    exact hs v
  obtain ⟨fs, rfl⟩ := h
  exact ⟨[.group fs], by simp [paren, tokens], rfl, hparen⟩

end Operands

section Leaves

variable {b : Backend} {field text : SqlText} {op : CriterionOperator}

lemma getOperatorString_ordinary {ws : List String} (h : getOperatorString b op = some ws) :
    Ordinary (words ws) := by
  have hall : ∀ b op, (getOperatorString b op).all fun ws =>
      !ws.isEmpty && ws.all fun w => (Lexeme.word w).ordinary := by
    intro b op
    cases b <;> cases op <;> decide
  have hws := hall b op
  rw [h, Option.all_some, Bool.and_eq_true, List.all_eq_true] at hws
  exact words_ordinary (by rintro rfl; cases hws.1) hws.2

lemma operatorWords_ordinary (h : op = .null ∨ op = .notNull) : Ordinary (operatorWords b op) := by
  rcases h with rfl | rfl <;> cases b <;> exact words_ordinary (by decide) (by decide)

lemma buildConstraintString_operand {value : SqlText} (hf : Leading field) (hv : Ordinary value)
    (h : buildConstraintString b field op value = .ok text) : Operand text := by
  have hplain : ∀ ws, getOperatorString b op = some ws → Operand (field ++ words ws ++ value) :=
    fun ws hws => (hf.append (getOperatorString_ordinary hws)).operand hv
  have hlower : ∀ ws, Ordinary (words ws) →
      Operand (call "lower" field ++ words ws ++ call "lower" value) := fun ws hws =>
    ((call_leading (by decide) (by decide) hf.whole).append hws).operand
      (call_leading (by decide) (by decide) hv.whole).ordinary
  unfold buildConstraintString at h
  split at h
  case h_1 name hname =>
    cases h
    exact hplain name hname
  case h_3 name hname =>
    cases h
    exact hplain name hname
  case h_4 =>
    split at h
    · cases h
      exact hlower _ (word_ordinary (by decide))
    · split at h
      · cases h
        exact hlower _ (word_ordinary (by decide))
      · cases h
  case h_5 name hname =>
    split at h
    · cases h
      exact hlower _ (getOperatorString_ordinary hname)
    · cases h
      exact hplain name hname
  all_goals cases h

variable [R : Rendering]

lemma buildTimeConstraintString_operand {type : TimeConstraint} {value gmtOffset : Int}
    (hf : Leading field)
    (h : buildTimeConstraintString b field type op value gmtOffset = .ok text) : Operand text := by
  obtain ⟨extracted, hextract, h⟩ := ok_of_bind h
  have hleading := buildTimeExtractString_leading hf.whole hextract
  split at h
  · cases h
  case h_2 name hname =>
    cases h
    refine (hleading.append (getOperatorString_ordinary hname)).operand ?_
    split
    · exact literal_ordinary _
    · exact number_ordinary _

omit R in
lemma joinAnd_operand {ts : List SqlText} (hne : ts ≠ []) (h : ∀ t ∈ ts, Operand t) :
    Operand (joinAnd ts) := by
  induction ts with
  | nil => exact absurd rfl hne
  | cons t ts ih =>
    cases ts with
    | nil => exact h t List.mem_cons_self
    | cons u ts =>
      exact (h t List.mem_cons_self).and
        (ih (List.cons_ne_nil _ _) fun t ht => h t (List.mem_cons_of_mem _ ht))

/-- A broken-down time has a field that is set. -/
def CriterionValue.HasField : CriterionValue → Prop
  | .brokenDownTime lt => timeTable lt ≠ []
  | _ => True

omit R in
lemma mapM_ok {α β : Type} {f : α → Except SqlError β} {l : List α} {ys : List β}
    (h : l.mapM f = .ok ys) : ys.length = l.length ∧ ∀ y ∈ ys, ∃ a ∈ l, f a = .ok y := by
  induction l generalizing ys with
  | nil =>
    cases h
    exact ⟨rfl, List.forall_mem_nil _⟩
  | cons a l ih =>
    rw [List.mapM_cons] at h
    obtain ⟨y, hy, h⟩ := ok_of_bind h
    obtain ⟨ys', hys, h⟩ := ok_of_bind h
    cases h
    obtain ⟨hlength, hall⟩ := ih hys
    refine ⟨by rw [List.length_cons, List.length_cons, hlength], ?_⟩
    refine List.forall_mem_cons.mpr ⟨⟨a, List.mem_cons_self, hy⟩, fun y hy => ?_⟩
    obtain ⟨a', ha', hfa⟩ := hall y hy
    exact ⟨a', List.mem_cons_of_mem _ ha', hfa⟩

lemma buildCriterionBrokenDownTimeEqual_operand {lt : BrokenDownTime} (hf : Leading field)
    (hlt : timeTable lt ≠ []) (h : buildCriterionBrokenDownTimeEqual b field op lt = .ok text) :
    Operand text := by
  unfold buildCriterionBrokenDownTimeEqual at h
  cases hts : (timeTable lt).mapM fun x => buildTimeConstraintString b field x.1 op x.2 0 with
  | error e =>
    rw [hts] at h
    cases h
  | ok ts =>
    rw [hts] at h
    cases h
    obtain ⟨hlength, hall⟩ := mapM_ok hts
    refine joinAnd_operand (fun hnil => ?_) fun t ht => ?_
    · rw [hnil] at hlength
      exact hlt (List.length_eq_zero_iff.mp hlength.symm)
    · obtain ⟨x, -, hx⟩ := hall t ht
      exact buildTimeConstraintString_operand hf hx

omit R in
/-- `NOT(text)` -/
lemma truthOf_not {t : SqlText} (h : Whole t) (v : List (Form Lexeme) → Truth) :
    truthOf v (words ["NOT"] ++ paren t) = (truthOf v t).map Truth.not := by
  obtain ⟨fs, rfl⟩ := h
  have htext : words ["NOT"] ++ paren (tokensAll fs) =
      tokensAll [.atom (.word "NOT"), .group fs] := by simp [words, paren, tokens]
  rw [htext, truthOf_tokensAll, truthOf_tokensAll, Cond.value_not (by decide) rfl rfl,
    Cond.value_group]

omit R in
lemma operand_not {t : SqlText} (h : Operand t) : Operand (words ["NOT"] ++ paren t) := by
  have hsome : ∀ v, (truthOf v (words ["NOT"] ++ paren t)).isSome := fun v => by
    obtain ⟨s, hs⟩ := h.exists_truth v
    rw [truthOf_not h.whole, hs]
    rfl
  obtain ⟨fs, rfl, -, -⟩ := h
  exact ⟨[.atom (.word "NOT"), .group fs], by simp [words, paren, tokens], rfl, hsome⟩

lemma buildCriterionFixedSqlValue_ordinary {value : IdmefValue} {t : SqlText}
    (h : buildCriterionFixedSqlValue value op = .ok t) : Ordinary t := by
  have hescaped : ∀ {x : Except SqlError String}, (x >>= fun text => do
      pure (literal (← R.escape text))) = .ok t → Ordinary t := fun h => by
    obtain ⟨s, -, h⟩ := ok_of_bind h
    obtain ⟨escaped, -, h⟩ := ok_of_bind h
    cases h
    exact literal_ordinary _
  cases value with
  | time t' =>
    cases ht : R.timestamp t' with
    | error e =>
      rw [buildCriterionFixedSqlValue, ht] at h
      cases h
    | ok s =>
      rw [buildCriterionFixedSqlValue, ht] at h
      cases h
      exact literal_ordinary s
  | _ => exact hescaped h

lemma buildCriterionValue_operand {value : CriterionValue} (hf : Leading field)
    (hv : value.HasField) (h : buildCriterionValue b field op value = .ok text) : Operand text := by
  cases value with
  | value v =>
    obtain ⟨t, ht, h⟩ := ok_of_bind h
    exact buildConstraintString_operand hf (buildCriterionFixedSqlValue_ordinary ht) h
  | regex s =>
    obtain ⟨escaped, -, h⟩ := ok_of_bind h
    exact buildConstraintString_operand hf (literal_ordinary _) h
  | brokenDownTime lt =>
    rw [buildCriterionValue, buildCriterionBrokenDownTime] at h
    split at h
    · exact buildCriterionBrokenDownTimeEqual_operand hf hv h
    · split at h
      · obtain ⟨t, ht, h⟩ := ok_of_bind h
        cases h
        exact operand_not (buildCriterionBrokenDownTimeEqual_operand hf hv ht)
      · cases h

/-- What is rendered for a criterion is one operand. -/
lemma buildCriterionString_operand {value : CriterionValue} (hf : Leading field)
    (hv : value.HasField) (h : buildCriterionString b field op value = .ok text) : Operand text := by
  unfold buildCriterionString at h
  split at h
  case isTrue hnull =>
    cases h
    exact hf.operand (operatorWords_ordinary hnull)
  case isFalse =>
    obtain ⟨t, ht, h⟩ := ok_of_bind h
    have hoperand := buildCriterionValue_operand hf hv ht
    split at h
    · cases h
      have hnull : Operand (field ++ operatorWords b .null) :=
        hf.operand (operatorWords_ordinary (.inl rfl))
      exact operand_paren ((hnull.whole.append (words_whole _)).append hoperand.whole)
        (hnull.disjunction hoperand)
    · cases h
      exact hoperand

end Leaves

end Preludedb.Sql
