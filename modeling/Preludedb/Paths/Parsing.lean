import Preludedb.Paths.Grammar

/-! The parser returns an object if and only if the grammar derives it from the tokens. -/

namespace Preludedb.Paths

open Foundations Idmef Sql Classic

section Binds

variable {α β : Type}

lemma ok_bind (a : α) (f : α → Except SqlError β) : (Except.ok a >>= f) = f a := rfl

end Binds

section Completeness

variable {ts us rest : List Terminal} {v u : SelectedNode} {s : String} {n : Nonterminal} {fuel : ℕ}

@[simp] lemma expect_same (p : Punctuation) : expect p (.punctuation p :: ts) = .ok ts := by
  rw [expect, if_pos rfl]

@[simp] lemma expectLast_same :
    expectLast (.punctuation .comma :: .string s :: .punctuation .rparen :: rest) = .ok (s, rest) := rfl

/-- No modifier follows. -/
def Unmodified (rest : List Terminal) : Prop := rest.head? ≠ some (.punctuation .colon)

lemma parseModifier_none (h : Unmodified rest) : parseModifier v rest = .ok (v, rest) := by
  unfold parseModifier
  split
  · exact absurd rfl h
  · exact absurd rfl h
  · rfl

lemma unmodified_rparen : Unmodified (.punctuation .rparen :: rest) := fun h => by cases h

lemma unmodified_comma : Unmodified (.punctuation .comma :: rest) := fun h => by cases h

lemma derives_length (h : Derives n ts v) : 0 < ts.length := by
  induction h with
  | plain _ ih => exact ih
  | _ => simp

/-- The parser of the nonterminal takes the tokens and leaves what is behind them. -/
def Parsed (ts : List Terminal) (v : SelectedNode) : Nonterminal → Prop
  | .valuetype => ∀ fuel rest, ts.length ≤ fuel + 1 →
      parseValuetype (parseValue fuel) (ts ++ rest) = .ok (v, rest)
  | .value => ∀ fuel rest, ts.length ≤ fuel → Unmodified rest →
      parseValue fuel (ts ++ rest) = .ok (v, rest)

lemma parsed_of_derives (h : Derives n ts v) : Parsed ts v n := by
  induction h with
  | idmef => exact fun _ _ _ => rfl
  | string => exact fun _ _ _ => rfl
  | number => exact fun _ _ _ => rfl
  | @onearg k type ts v hk h ih =>
    intro fuel rest hfuel
    simp only [List.length_cons, List.length_append, List.length_nil] at hfuel
    have hv := ih fuel (.punctuation .rparen :: rest) (by omega) unmodified_rparen
    simp [parseValuetype, parseFunc, hk, parseOnearg, hv, ok_bind]
  | @extractfunc ts v s tf h hs ih =>
    intro fuel rest hfuel
    simp only [List.length_cons, List.length_append, List.length_nil] at hfuel
    have hv := ih fuel (.punctuation .comma :: .string s :: .punctuation .rparen :: rest) (by omega)
      unmodified_comma
    simp [parseValuetype, parseFunc, oneargfunc, parseExtractfunc, hv, hs, ok_bind]
  | @intervalfunc ts us v u s tf h h' hs ih ih' =>
    intro fuel rest hfuel
    simp only [List.length_cons, List.length_append, List.length_nil] at hfuel
    have hv := ih fuel (.punctuation .comma :: (us ++ .punctuation .comma :: .string s :: .punctuation .rparen ::
      rest)) (by omega) unmodified_comma
    have hu := ih' fuel (.punctuation .comma :: .string s :: .punctuation .rparen :: rest) (by omega)
      unmodified_comma
    simp [parseValuetype, parseFunc, oneargfunc, parseIntervalfunc, hv, hu, hs, ok_bind]
  | @timezonefunc ts v s h ih =>
    intro fuel rest hfuel
    simp only [List.length_cons, List.length_append, List.length_nil] at hfuel
    have hv := ih fuel (.punctuation .comma :: .string s :: .punctuation .rparen :: rest) (by omega)
      unmodified_comma
    simp [parseValuetype, parseFunc, oneargfunc, parseTimezonefunc, hv, ok_bind]
  | @plain ts v h ih =>
    intro fuel rest hfuel hrest
    have hpos := derives_length h
    obtain ⟨fuel, rfl⟩ := Nat.exists_eq_add_of_le' (hpos.trans_le hfuel)
    simp [ih fuel rest hfuel, parseModifier_none hrest, ok_bind]
  | @modified ts v k code h hk ih =>
    intro fuel rest hfuel _
    simp only [List.length_cons, List.length_append, List.length_nil] at hfuel
    have hpos : 1 ≤ fuel := by omega
    obtain ⟨fuel, rfl⟩ := Nat.exists_eq_add_of_le' hpos
    have hv := ih fuel (.punctuation .colon :: .keyword k :: rest) (by omega)
    simp [hv, parseModifier, hk, ok_bind]

lemma parseOptions_append {f g h : SelectedPathFlags} {k : Keyword} (ho : parseOptions f ts = .ok g)
    (hk : option k = some h) :
    parseOptions f (ts ++ [.punctuation .comma, .keyword k]) = .ok (orFlags g h) := by
  fun_induction parseOptions f ts with
  | case1 f =>
    cases ho
    simp [hk]
  | case2 f k' ts g' hk' ih =>
    simp only [List.cons_append, parseOptions, hk']
    exact ih ho
  | case3 => cases ho
  | case4 => cases ho

lemma expressionOption_of_options {f : SelectedPathFlags} (h : Options ts f) : parseExpressionOption ts = .ok f := by
  induction h with
  | one hk => simp [parseExpressionOption, hk]
  | @more ts k f g h hk ih =>
    cases ts with
    | nil => cases ih
    | cons t ts =>
      cases t with
      | keyword k' =>
        cases hk' : option k' with
        | none => simp [parseExpressionOption, hk'] at ih
        | some f' =>
          simp only [parseExpressionOption, hk', List.cons_append] at ih ⊢
          exact parseOptions_append ih hk
      | _ => cases ih

end Completeness

section Soundness

variable {ts rest : List Terminal} {v : SelectedNode}

lemma expect_ok {p : Punctuation} (h : expect p ts = .ok rest) : ts = .punctuation p :: rest := by
  unfold expect at h
  split at h
  · split_ifs at h with hq
    cases h
    rw [hq]
  · cases h

lemma expectLast_ok {s : String} (h : expectLast ts = .ok (s, rest)) :
    ts = .punctuation .comma :: .string s :: .punctuation .rparen :: rest := by
  obtain ⟨us, hcomma, h⟩ := ok_of_bind h
  obtain ⟨⟨s', vs⟩, hs, h⟩ := ok_of_bind h
  obtain ⟨ws, hparen, h⟩ := ok_of_bind h
  cases h
  rw [expect_ok hcomma]
  unfold expectString at hs
  split at hs
  · cases hs
    rw [expect_ok hparen]
  · cases hs

/-- The parser takes tokens the value is derived from. -/
def Sound (parseValue : List Terminal → Except SqlError (SelectedNode × List Terminal)) (n : Nonterminal) : Prop :=
  ∀ ts v rest, parseValue ts = .ok (v, rest) → ∃ us, ts = us ++ rest ∧ Derives n us v

variable {parse : List Terminal → Except SqlError (SelectedNode × List Terminal)}

lemma parseFunc_sound {k : Keyword} (hs : Sound parse .value) (h : parseFunc parse k ts = .ok (v, rest)) :
    ∃ us, .keyword k :: ts = us ++ rest ∧ Derives .valuetype us v := by
  unfold parseFunc at h
  split at h
  next type hk =>
    obtain ⟨us, hopen, h⟩ := ok_of_bind h
    obtain ⟨⟨v', vs⟩, hv, h⟩ := ok_of_bind h
    obtain ⟨ws, hclose, h⟩ := ok_of_bind h
    cases h
    obtain ⟨xs, rfl, hd⟩ := hs _ _ _ hv
    refine ⟨_, ?_, .onearg hk hd⟩
    simp [expect_ok hopen, expect_ok hclose]
  next =>
    cases k
    case extract =>
      obtain ⟨us, hopen, h⟩ := ok_of_bind h
      obtain ⟨⟨v', vs⟩, hv, h⟩ := ok_of_bind h
      obtain ⟨⟨s, ws⟩, hlast, h⟩ := ok_of_bind h
      obtain ⟨tf, htf, h⟩ := ok_of_bind h
      cases h
      obtain ⟨xs, rfl, hd⟩ := hs _ _ _ hv
      refine ⟨_, ?_, .extractfunc hd htf⟩
      simp [expect_ok hopen, expectLast_ok hlast]
    case interval =>
      obtain ⟨us, hopen, h⟩ := ok_of_bind h
      obtain ⟨⟨v', vs⟩, hv, h⟩ := ok_of_bind h
      obtain ⟨us', hcomma, h⟩ := ok_of_bind h
      obtain ⟨⟨u', vs'⟩, hu, h⟩ := ok_of_bind h
      obtain ⟨⟨s, ws⟩, hlast, h⟩ := ok_of_bind h
      obtain ⟨tf, htf, h⟩ := ok_of_bind h
      cases h
      obtain ⟨xs, rfl, hd⟩ := hs _ _ _ hv
      obtain ⟨ys, rfl, hd'⟩ := hs _ _ _ hu
      refine ⟨_, ?_, .intervalfunc hd hd' htf⟩
      simp [expect_ok hopen, expect_ok hcomma, expectLast_ok hlast]
    case timezone =>
      obtain ⟨us, hopen, h⟩ := ok_of_bind h
      obtain ⟨⟨v', vs⟩, hv, h⟩ := ok_of_bind h
      obtain ⟨⟨s, ws⟩, hlast, h⟩ := ok_of_bind h
      cases h
      obtain ⟨xs, rfl, hd⟩ := hs _ _ _ hv
      refine ⟨_, ?_, .timezonefunc hd⟩
      simp [expect_ok hopen, expectLast_ok hlast]
    all_goals cases h

lemma parseValuetype_sound (hs : Sound parse .value) : Sound (parseValuetype parse) .valuetype := by
  intro ts v rest h
  unfold parseValuetype at h
  split at h
  · cases h
    exact ⟨_, rfl, .idmef⟩
  · cases h
    exact ⟨[_], rfl, .string⟩
  · cases h
    exact ⟨[_], rfl, .number⟩
  · exact parseFunc_sound hs h
  · cases h
  · cases h

lemma parseModifier_sound {us ws : List Terminal} {u : SelectedNode} (hd : Derives .valuetype ws u)
    (h : parseModifier u us = .ok (v, rest)) : ∃ xs, ws ++ us = xs ++ rest ∧ Derives .value xs v := by
  unfold parseModifier at h
  split at h
  · rename_i k ts
    cases hk : modifier k with
    | none => simp [hk] at h
    | some code =>
      simp only [hk, Except.ok.injEq, Prod.mk.injEq] at h
      obtain ⟨rfl, rfl⟩ := h
      refine ⟨_, ?_, .modified hd hk⟩
      simp
  · cases h
  · cases h
    exact ⟨ws, rfl, .plain hd⟩

lemma parseValue_sound (fuel : ℕ) : Sound (parseValue fuel) .value := by
  induction fuel with
  | zero =>
    intro ts v rest h
    cases h
  | succ fuel ih =>
    intro ts v rest h
    obtain ⟨⟨u, us⟩, hu, hmod⟩ := ok_of_bind h
    obtain ⟨ws, rfl, hd⟩ := parseValuetype_sound ih _ _ _ hu
    exact parseModifier_sound hd hmod

lemma options_of_parse {us : List Terminal} {f g : SelectedPathFlags} (h : parseOptions f ts = .ok g)
    (hf : Options us f) : Options (us ++ ts) g := by
  fun_induction parseOptions f ts generalizing us with
  | case1 f =>
    cases h
    rwa [List.append_nil]
  | case2 f k ts g' hk ih =>
    have hmore := ih h (.more hf hk)
    rwa [List.append_assoc] at hmore
  | case3 => cases h
  | case4 => cases h

lemma options_of_expressionOption {f : SelectedPathFlags} (h : parseExpressionOption ts = .ok f) : Options ts f := by
  unfold parseExpressionOption at h
  split at h
  next k ts =>
    cases hk : option k with
    | none => simp [hk] at h
    | some g =>
      simp only [hk] at h
      exact options_of_parse h (.one hk)
  next => cases h

end Soundness

section Exactness

variable {ts : List Terminal} {v : SelectedNode} {f : SelectedPathFlags}

lemma parse_of_expressions (h : Expressions ts v f) : parseExpressions ts = .ok (v, f) := by
  cases h with
  | value h =>
    have hv := parsed_of_derives h ts.length [] le_rfl fun h => by cases h
    rw [List.append_nil] at hv
    rw [parseExpressions, hv, ok_bind]
    rfl
  | @flags ts us v f h hf =>
    have hv := parsed_of_derives h (ts ++ .punctuation .slash :: us).length (.punctuation .slash :: us)
      (by simp) (fun h => by cases h)
    rw [parseExpressions, hv, ok_bind]
    simp [expressionOption_of_options hf]

lemma expressions_of_parse (h : parseExpressions ts = .ok (v, f)) : Expressions ts v f := by
  obtain ⟨⟨u, us⟩, hu, htail⟩ := ok_of_bind h
  obtain ⟨ws, rfl, hd⟩ := parseValue_sound _ _ _ _ hu
  dsimp only at htail
  split at htail
  · cases htail
    rw [List.append_nil]
    exact .value hd
  · obtain ⟨g, hg, hpair⟩ := ok_of_bind htail
    cases hpair
    exact .flags hd (options_of_expressionOption hg)
  · cases htail

lemma derives_of_expressions (h : Expressions ts v f) : ∃ us, Derives .value us v := by
  cases h with
  | value h => exact ⟨_, h⟩
  | flags h _ => exact ⟨_, h⟩

/-- A text is read as an object and its flags if and only if the grammar derives them from its tokens. -/
theorem pathSelectionParse_iff [PathReader] (long : LongSize) (str : String) (v : SelectedNode)
    (f : SelectedPathFlags) :
    pathSelectionParse long str = .ok (v, f) ↔ Expressions (yylex long str.toList) v f :=
  ⟨expressions_of_parse, parse_of_expressions⟩

end Exactness

end Preludedb.Paths
