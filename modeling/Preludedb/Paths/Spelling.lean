import Preludedb.Paths.Lexer

/-! Texts the tokens can be written as, with blanks between them where one would not end before the
next, and the tokens that are scanned from such a text. -/

namespace Preludedb.Paths

open Foundations Regular Idmef Sql

section Texts

abbrev Quote (c : Char) : Prop := isQuote c = true

/-- The characters a word ends before. -/
def stops : List Char := [' ', '\t', '\n', '\x0b', '\x0c', '\r', ',', ':', '/', ')', '(']

variable [R : PathReader]

/-- A text of the token: a string without a quote of its kind but behind a backslash, which does not end
in one; a path without quotes. -/
inductive Spells : Terminal → List Char → Prop
  | string {q : Char} {s : List Char} (hq : Quote q) (h : Matches (quotedBody q) s)
      (hlast : s.getLast? ≠ some '\\') : Spells (.string (String.ofList s)) (q :: s ++ [q])
  | idmef {p : Path} {s : List Char} (h : Matches pathText s) (hplain : ∀ c ∈ s, ¬ Quote c)
      (hp : R.pathNewFast (String.ofList s) = .ok p) : Spells (.idmef p) s
  | number {n : Int} (h : IntegerType.int32.Holds n) : Spells (.number n) (printed n)
  | punctuation (p : Punctuation) : Spells (.punctuation p) [p.char]
  | keyword (k : Keyword) : Spells (.keyword k) k.text.toList

/-- The token ends before the text. -/
def Ended : Terminal → List Char → Prop
  | .string _, _ | .punctuation _, _ => True
  | .idmef _, s => ∀ c ∈ s.head?, c ∈ stops ∧ c ≠ '('
  | _, s => ∀ c ∈ s.head?, c ∈ stops

inductive Spelled : List Terminal → List Char → Prop
  | nil : Spelled [] []
  | blank {ts : List Terminal} {c : Char} {s : List Char} (hc : isspace c = true) (h : Spelled ts s) :
      Spelled ts (c :: s)
  | token {t : Terminal} {ts : List Terminal} {w s : List Char} (hw : Spells t w) (hend : Ended t s)
      (h : Spelled ts s) : Spelled (t :: ts) (w ++ s)

end Texts

section Beginnings

variable {q c : Char} {s : List Char}

lemma quoted_begins (h : Matches (quoted q) (c :: s)) : c = q := by
  simpa [quoted, char] using matches_begins h

lemma quote_cases (h : Quote q) : q = '"' ∨ q = '\'' := by
  rw [Quote, isQuote, Bool.or_eq_true, beq_iff_eq, beq_iff_eq] at h
  exact h.symm

lemma quote_plain (h : Quote q) : ¬ q.isDigit = true ∧ ¬ q.isLower = true ∧ ¬ isspace q = true := by
  rcases quote_cases h with rfl | rfl <;> decide

lemma number_begins (h : Matches numberText (c :: s)) : c = '-' ∨ c = '.' ∨ c.isDigit = true := by
  have hb := matches_begins h
  simp [numberText, digit, char, Regex.opt, Regex.plus] at hb
  tauto

lemma path_begins (h : Matches pathText (c :: s)) : c = 'a' ∨ c = 'h' := by
  simpa [pathText, text, Regex.word] using matches_begins h

/-- A path has a dot behind the class it begins with. -/
lemma path_dot (h : Matches pathText s) : ∃ c w, s = c :: w ∧ (c = 'a' ∨ c = 'h') ∧ '.' ∈ w := by
  obtain ⟨u, v, rfl, hu, hv⟩ := matches_seq.mp h
  obtain ⟨x, y, rfl, hx, _⟩ := matches_seq.mp hv
  obtain ⟨b, rfl, hb⟩ := matches_sat.mp hx
  rw [beq_iff_eq] at hb
  subst hb
  cases u with
  | nil =>
    rcases matches_alt.mp hu with hu | hu
    · cases matches_word.mp hu
    · cases matches_word.mp hu
  | cons c w =>
    refine ⟨c, w ++ (['.'] ++ y), rfl, ?_, ?_⟩
    · exact path_begins h
    · exact List.mem_append_right w (List.mem_append_left y (List.mem_singleton_self '.'))

lemma space_begins (h : Matches spaces (c :: s)) : isspace c = true := by
  simpa [spaces, Regex.plus] using matches_begins h

lemma keyword_cons (k : Keyword) : ∃ c w, k.text.toList = c :: w ∧ c.isLower = true := by
  cases k <;> exact ⟨_, _, rfl, by decide⟩

lemma keyword_begins {k : Keyword} (h : Matches (text k.text) (c :: s)) : c.isLower = true := by
  obtain ⟨d, w, hk, hd⟩ := keyword_cons k
  rw [text, matches_word, hk] at h
  cases h
  exact hd

lemma keyword_no_path {k : Keyword} : ¬ Matches pathText (k.text.toList ++ s) := by
  intro hm
  obtain ⟨u, v, huv, hu, hv⟩ := matches_seq.mp hm
  obtain ⟨x, y, rfl, hx, _⟩ := matches_seq.mp hv
  obtain ⟨b, rfl, hb⟩ := matches_sat.mp hx
  rw [beq_iff_eq] at hb
  subst hb
  rcases matches_alt.mp hu with hu | hu
  · rw [matches_word.mp hu] at huv
    cases k <;> simp [Keyword.text] at huv
  · rw [matches_word.mp hu] at huv
    cases k <;> simp [Keyword.text] at huv

lemma char_single {d : Char} (h : Matches (char d) (c :: s)) : c = d ∧ s = [] := by
  obtain ⟨b, hb, hd⟩ := matches_sat.mp h
  cases hb
  exact ⟨beq_iff_eq.mp hd, rfl⟩

lemma any_single (h : Matches anyChar (c :: s)) : s = [] := by
  obtain ⟨b, hb, -⟩ := matches_sat.mp h
  cases hb
  rfl

lemma lower_plain (h : c.isLower = true) :
    ¬ Quote c ∧ isspace c = false ∧ c ≠ '-' ∧ c ≠ '.' ∧ c.isDigit = false := by
  refine ⟨fun hq => (quote_plain hq).2.1 h, ?_, ?_, ?_, ?_⟩
  · rw [isspace, decide_eq_false_iff_not]
    intro hc
    simp only [List.mem_cons, List.not_mem_nil, or_false] at hc
    rcases hc with rfl | rfl | rfl | rfl | rfl | rfl <;> cases h
  · rintro rfl
    cases h
  · rintro rfl
    cases h
  · have hlow : 'a'.val ≤ c.val := of_decide_eq_true (Bool.and_eq_true_iff.mp h).1
    refine Bool.and_eq_false_iff.mpr (.inr (decide_eq_false fun hd => ?_))
    exact absurd (UInt32.le_trans hlow hd) (by decide)

lemma keyword_mem (k : Keyword) : k ∈ Keyword.all := by
  cases k <;> decide

lemma text_injective {k k' : Keyword} (h : k.text.toList = k'.text.toList) : k = k' := by
  have hnodup : (Keyword.all.map Keyword.text).Nodup := by decide
  exact List.inj_on_of_nodup_map hnodup (keyword_mem k) (keyword_mem k') (String.toList_injective h)

lemma punctuation_mem (p : Punctuation) : p ∈ Punctuation.all := by
  cases p <;> decide

lemma char_injective {p p' : Punctuation} (h : p.char = p'.char) : p = p' := by
  cases p <;> cases p' <;> first | rfl | cases h

lemma punctuation_stops (p : Punctuation) : p.char ∈ stops := by
  cases p <;> decide

lemma punctuation_space (p : Punctuation) : isspace p.char = false := by
  cases p <;> decide

lemma isspace_stops (h : isspace c = true) : c ∈ stops := by
  rw [isspace, decide_eq_true_iff] at h
  simp only [stops, List.mem_cons] at h ⊢
  tauto

/-- A check of the list, which is run on the list and not on all characters. -/
@[elab_as_elim] lemma mem_checked {l : List Char} {P : Char → Prop} [DecidablePred P] (hc : c ∈ l)
    (h : (l.all fun c => decide (P c)) = true) : P c :=
  of_decide_eq_true (List.all_eq_true.mp h c hc)

/-- A character that ends words begins none. -/
lemma stops_plain (h : c ∈ stops) : c.isLower = false ∧ c.isDigit = false ∧ ¬ Quote c ∧ c ≠ '-' ∧ c ≠ '.' :=
  mem_checked h (by decide)

end Beginnings

section Quotes

variable {a q : Char} {s t : List Char}

/-- A quote of a string stands behind a backslash. -/
lemma body_quote (hq : q ≠ '\\') (h : Matches (quotedBody q) (s ++ q :: t)) : s.getLast? = some '\\' := by
  obtain ⟨u, v, t', rfl, -, hv⟩ := matches_star_before h
  rcases matches_alt.mp hv with hv | hv
  · obtain ⟨b, hb, hne⟩ := matches_sat.mp hv
    have hin : q ∈ [b] := hb ▸ List.mem_append_right v List.mem_cons_self
    rw [List.mem_singleton.mp hin] at hne
    simp at hne
  · obtain ⟨x, y, hxy, hx, hy⟩ := matches_seq.mp hv
    obtain ⟨b, rfl, hb⟩ := matches_sat.mp hx
    obtain ⟨d, rfl, -⟩ := matches_sat.mp hy
    rw [beq_iff_eq] at hb
    subst hb
    cases v with
    | nil =>
      cases hxy
      exact absurd rfl hq
    | cons e v =>
      obtain ⟨rfl, hrest⟩ := List.cons.inj hxy
      cases v with
      | nil => rw [List.getLast?_append, List.getLast?_singleton, Option.some_or]
      | cons e v =>
        have hlength := congrArg List.length hrest
        simp at hlength

lemma quoted_ends (hq : q ≠ '\\') (hlast : s.getLast? ≠ some '\\') :
    ¬ Matches (quoted q) (q :: s ++ [q] ++ a :: t) := by
  intro hm
  obtain ⟨x, y, hxy, hx, hy⟩ := matches_seq.mp hm
  obtain ⟨u, v, rfl, hu, hv⟩ := matches_seq.mp hy
  obtain ⟨b, rfl, -⟩ := matches_sat.mp hx
  obtain ⟨d, rfl, hd⟩ := matches_sat.mp hv
  have htail : s ++ q :: a :: t = u ++ [d] := by simpa using (List.cons.inj hxy).2
  have hdrop : s ++ q :: (a :: t).dropLast = u := by
    have h := congrArg List.dropLast htail
    rw [List.dropLast_concat] at h
    rw [← h, List.dropLast_append_of_ne_nil (List.cons_ne_nil _ _)]
    rfl
  exact hlast (body_quote hq (hdrop ▸ hu))

end Quotes

section Numbers

variable {long : LongSize}

lemma printed_cons (n : Int) : ∃ c w, printed n = c :: w ∧ (c = '-' ∨ c.isDigit = true) := by
  rcases lt_or_ge n 0 with h | h
  · exact ⟨_, _, printed_neg h, .inl rfl⟩
  · obtain ⟨c, w, hdigits, hc⟩ := exists_digit (Classic.toDigits_digits n.toNat)
    exact ⟨c, w, by rw [printed_nonneg h, hdigits], .inr hc⟩

lemma digits_match (n : ℕ) : Matches (Regex.plus digit) (Nat.toDigits 10 n) :=
  matches_plus_sat.mpr ⟨(Classic.toDigits_digits n).nonempty, (Classic.toDigits_digits n).all⟩

lemma printed_match (n : Int) : Matches numberText (printed n) := by
  rcases lt_or_ge n 0 with h | h
  · rw [printed_neg h]
    exact @Matches.seq _ _ _ ['-'] _ (.left (.sat rfl)) (.left (digits_match _))
  · rw [printed_nonneg h]
    exact @Matches.seq _ _ _ [] _ (.right .epsilon) (.left (digits_match _))

lemma atoi_printed {n : Int} (h : IntegerType.int32.Holds n) : atoi long (printed n) = n := by
  have hto := @sqlFieldTo_printed long .int32 n h
  have hsigned : ¬ (0 ≤ IntegerType.int32.min ∧ (printed n).head? = some '-') := fun h => absurd h.1 (by decide)
  rw [sqlFieldTo, if_neg hsigned, Conversion.accepted_iff] at hto
  have hvalue : (strtoSigned long.bits (printed n)).value = n := hto.2.2.1
  obtain ⟨hmin, hmax⟩ := h
  rw [atoi, hvalue]
  apply Int.bmod_eq_of_le
  · exact hmin
  · exact Int.lt_of_le_of_lt hmax (by decide)

end Numbers

section Nesting

/-- Parentheses match, but for what stands between quotes. -/
structure Nested (r : Regex Char) : Prop where
  closed : ∀ {w}, Matches r w → (∀ c ∈ w, ¬ Quote c) → w.count '(' = w.count ')'
  opened : ∀ {w t}, Matches r (w ++ ')' :: t) → (∀ c ∈ w, ¬ Quote c) → w.count '(' = w.count ')' + 1

variable {r r' : Regex Char} {a : Char} {s t w : List Char}

lemma Nested.flat (h : Guarded Quote '(' r) (h' : Guarded Quote ')' r) : Nested r where
  closed hm hplain := by
    rw [List.count_eq_zero_of_not_mem (h.not_mem hm hplain), List.count_eq_zero_of_not_mem (h'.not_mem hm hplain)]
  opened hm hplain := absurd hm (h'.not_matches hplain)

lemma Nested.alt (h : Nested r) (h' : Nested r') : Nested (.alt r r') where
  closed hm hplain := by
    rcases matches_alt.mp hm with hm | hm
    · exact h.closed hm hplain
    · exact h'.closed hm hplain
  opened hm hplain := by
    rcases matches_alt.mp hm with hm | hm
    · exact h.opened hm hplain
    · exact h'.opened hm hplain

lemma Nested.seq (h : Nested r) (h' : Nested r') : Nested (.seq r r') where
  closed hm hplain := by
    obtain ⟨u, v, rfl, hu, hv⟩ := matches_seq.mp hm
    rw [List.forall_mem_append] at hplain
    rw [List.count_append, List.count_append, h.closed hu hplain.1, h'.closed hv hplain.2]
  opened hm hplain := by
    rcases matches_seq_before hm with ⟨t', hm⟩ | ⟨u, v, rfl, hu, hv⟩
    · exact h.opened hm hplain
    · rw [List.forall_mem_append] at hplain
      rw [List.count_append, List.count_append, h.closed hu hplain.1, h'.opened hv hplain.2, Nat.add_assoc]

lemma Nested.star_closed (h : Nested r) (hm : Matches (.star r) w) (hplain : ∀ c ∈ w, ¬ Quote c) :
    w.count '(' = w.count ')' := by
  generalize hstar : Regex.star r = r' at hm
  induction hm with
  | stop => rfl
  | again hu _ _ ih =>
    cases hstar
    rw [List.forall_mem_append] at hplain
    rw [List.count_append, List.count_append, h.closed hu hplain.1, ih hplain.2 rfl]
  | _ => cases hstar

lemma Nested.star (h : Nested r) : Nested (.star r) where
  closed := h.star_closed
  opened hm hplain := by
    obtain ⟨u, v, t', rfl, hu, hv⟩ := matches_star_before hm
    rw [List.forall_mem_append] at hplain
    rw [List.count_append, List.count_append, h.star_closed hu hplain.1, h.opened hv hplain.2, Nat.add_assoc]

/-- `(r)` -/
lemma Nested.wrapped (h : Guarded Quote '(' r) (h' : Guarded Quote ')' r) :
    Nested (.seq (char '(') (.seq r (char ')'))) where
  closed hm hplain := by
    obtain ⟨u, v, rfl, hu, hv⟩ := matches_seq.mp hm
    obtain ⟨x, y, rfl, hx, hy⟩ := matches_seq.mp hv
    obtain ⟨b, rfl, hb⟩ := matches_sat.mp hu
    obtain ⟨d, rfl, hd⟩ := matches_sat.mp hy
    rw [beq_iff_eq] at hb hd
    subst hb hd
    simp only [List.forall_mem_append] at hplain
    have hopen := List.count_eq_zero_of_not_mem (h.not_mem hx hplain.2.1)
    have hclose := List.count_eq_zero_of_not_mem (h'.not_mem hx hplain.2.1)
    simp [List.count_append, hopen, hclose]
  opened {w t} hm hplain := by
    rcases matches_seq_before hm with ⟨t', hm⟩ | ⟨u, v, rfl, hu, hv⟩
    · have hocc := matches_occurs hm (List.mem_append_right w List.mem_cons_self)
      cases hocc
    · obtain ⟨b, rfl, hb⟩ := matches_sat.mp hu
      rw [beq_iff_eq] at hb
      subst hb
      rw [List.forall_mem_append] at hplain
      rcases matches_seq_before hv with ⟨t', hv⟩ | ⟨x, y, rfl, hx, hy⟩
      · exact absurd hv (h'.not_matches hplain.2)
      · obtain ⟨d, hd, -⟩ := matches_sat.mp hy
        have hnil : y = [] := (List.append_eq_singleton_iff.mp hd).resolve_right (fun h => by cases h.2) |>.1
        subst hnil
        rw [List.append_nil] at hplain
        have hopen := List.count_eq_zero_of_not_mem (h.not_mem hx hplain.2)
        have hclose := List.count_eq_zero_of_not_mem (h'.not_mem hx hplain.2)
        simp [hopen, hclose]

lemma index_guarded (ha : a ∈ stops) : Guarded Quote a indexBody := by
  have habsent : (Regex.seq (.opt (char '-')) (.plus (.sat fun c => c.isDigit || c == '*'))).occurs a = false ∧
      (a == '"') = false ∧ (a == '\'') = false := mem_checked ha (by decide)
  have hquote : ∀ q b : Char, isQuote q = true → (b == q) = true → Quote b := fun q b hq hb =>
    beq_iff_eq.mp hb ▸ hq
  exact .alt (.absent habsent.1) (.alt (.behind habsent.2.1 fun b => hquote '"' b rfl)
    (.behind habsent.2.2 fun b => hquote '\'' b rfl))

lemma path_nested : Nested pathText := by
  have hflat : ∀ r : Regex Char, r.occurs '(' = false → r.occurs ')' = false → Nested r := fun r h h' =>
    .flat (.absent h) (.absent h')
  have hname : Nested nameText := hflat _ (by decide) (by decide)
  have hindex : Nested indexText := .wrapped (index_guarded (by decide)) (index_guarded (by decide))
  have hitem : Nested (.seq nameText (.seq (.opt indexText) (.opt (char '.')))) :=
    hname.seq (.seq (.alt hindex (hflat _ rfl rfl)) (hflat _ (by decide) (by decide)))
  exact .seq (hflat _ (by decide) (by decide)) (.seq (hflat _ (by decide) (by decide)) (hitem.seq hitem.star))

/-- The characters that a path has between quotes only. -/
lemma path_guarded (ha : a ∈ stops) (hopen : a ≠ '(') (hclose : a ≠ ')') : Guarded Quote a pathText := by
  have habsent : (Regex.alt (text "alert") (text "heartbeat")).occurs a = false ∧ nameText.occurs a = false ∧
      (char '.').occurs a = false ∧ (Regex.opt (char '.')).occurs a = false := mem_checked ha (by decide)
  obtain ⟨htop, hname, hdot, hopt⟩ := habsent
  have hparen : ∀ {p : Char}, a ≠ p → (char p).occurs a = false := fun h => beq_false_of_ne h
  have hindex : Guarded Quote a indexText :=
    .seq (.absent (hparen hopen)) (.seq (index_guarded ha) (.absent (hparen hclose)))
  have hitem : Guarded Quote a (.seq nameText (.seq (.opt indexText) (.opt (char '.')))) :=
    .seq (.absent hname) (.seq (.alt hindex (.absent rfl)) (.absent hopt))
  exact .seq (.absent htop) (.seq (.absent hdot) (.seq hitem (.star hitem)))

/-- A path without quotes ends before each of these characters but the opening parenthesis. -/
lemma path_ends (h : Matches pathText w) (hplain : ∀ c ∈ w, ¬ Quote c) (ha : a ∈ stops) (hopen : a ≠ '(') :
    ¬ Matches pathText (w ++ a :: t) := by
  by_cases hclose : a = ')'
  · subst hclose
    intro hm
    have heq := path_nested.closed h hplain
    have hone := path_nested.opened hm hplain
    omega
  · exact (path_guarded ha hopen hclose).not_matches hplain

end Nesting

section Tokens

variable [R : PathReader] {long : LongSize} {a c q : Char} {s t w : List Char} {rule : Rule Char Terminal}

lemma mem_rules : rule ∈ rules long ↔ rule = stringRule '"' ∨ rule = stringRule '\'' ∨ rule = numberRule long ∨
    (∃ k, k ∈ Keyword.all ∧ keywordRule k = rule) ∨ rule = pathRule ∨
      (∃ p, p ∈ Punctuation.all ∧ punctuationRule p = rule) ∨ rule = spaceRule ∨ rule = unknownRule := by
  simp only [rules, List.mem_cons, List.mem_append, List.mem_map, List.not_mem_nil, or_false]

omit R in
lemma literal_begins (hr : rule ∈ [stringRule '"', stringRule '\'', numberRule long])
    (hm : Matches rule.regex (c :: s)) : Quote c ∨ c = '-' ∨ c = '.' ∨ c.isDigit = true := by
  simp only [List.mem_cons, List.not_mem_nil, or_false] at hr
  rcases hr with rfl | rfl | rfl
  · exact .inl (by rw [quoted_begins hm]; rfl)
  · exact .inl (by rw [quoted_begins hm]; rfl)
  · exact .inr (number_begins hm)

/-- A word ends before the characters that end words. -/
lemma word_ends (hq : ¬ Quote c) (hs : isspace c = false) (ha : a ∈ stops)
    (hpath : ¬ Matches pathText (c :: w ++ a :: t)) (hr : rule ∈ rules long) :
    ¬ Matches rule.regex (c :: w ++ a :: t) := by
  intro hm
  have hmem : a ∈ c :: w ++ a :: t := List.mem_append_right _ List.mem_cons_self
  have hsingle : w ++ a :: t ≠ [] := List.append_ne_nil_of_right_ne_nil _ (List.cons_ne_nil _ _)
  rcases mem_rules.mp hr with rfl | rfl | rfl | ⟨k, -, rfl⟩ | rfl | ⟨p, -, rfl⟩ | rfl | rfl
  · rw [quoted_begins hm] at hq
    exact hq rfl
  · rw [quoted_begins hm] at hq
    exact hq rfl
  · have hocc : numberText.occurs a = false := mem_checked ha (by decide)
    have hin := matches_occurs hm hmem
    rw [numberRule, hocc] at hin
    cases hin
  · have hin : a ∈ k.text.toList := matches_word.mp hm ▸ hmem
    have hout : a ∉ k.text.toList := mem_checked ha (by cases k <;> decide)
    exact hout hin
  · exact hpath hm
  · exact hsingle (char_single hm).2
  · rw [space_begins hm] at hs
    cases hs
  · exact hsingle (any_single hm)

/-- The rules of words. -/
def wordRules (long : LongSize) : List (Rule Char Terminal) :=
  [stringRule '"', stringRule '\'', numberRule long] ++ (Keyword.all.map keywordRule ++ [pathRule])

lemma rules_eq : rules long = wordRules long ++ (Punctuation.all.map punctuationRule ++ [spaceRule, unknownRule]) :=
  rfl

/-- No word begins with a character that ends words. -/
lemma stops_begin (hc : c ∈ stops) (hr : rule ∈ wordRules long) : ¬ Matches rule.regex (c :: s) := by
  obtain ⟨hlower, hdigit, hquote, hminus, hdot⟩ := stops_plain hc
  intro hm
  rcases List.mem_append.mp hr with hr | hr
  · have hfirst := literal_begins hr hm
    simp [hdigit, hquote, hminus, hdot] at hfirst
  · rcases List.mem_append.mp hr with hr | hr
    · obtain ⟨k, -, rfl⟩ := List.mem_map.mp hr
      have hfirst := keyword_begins hm
      rw [hlower] at hfirst
      cases hfirst
    · obtain rfl := List.mem_singleton.mp hr
      rcases path_begins hm with rfl | rfl <;> cases hlower

/-- One that does not begin a run of blanks is all of its token. -/
lemma stop_ends (hc : c ∈ stops) (hspace : ¬ Matches spaces (c :: s)) (hs : s ≠ []) (hr : rule ∈ rules long) :
    ¬ Matches rule.regex (c :: s) := by
  intro hm
  rw [rules_eq] at hr
  rcases List.mem_append.mp hr with hr | hr
  · exact stops_begin hc hr hm
  · rcases List.mem_append.mp hr with hr | hr
    · obtain ⟨p, -, rfl⟩ := List.mem_map.mp hr
      exact hs (char_single hm).2
    · rcases List.mem_pair.mp hr with rfl | rfl
      · exact hspace hm
      · exact hs (any_single hm)

lemma yylex_token {before after : List (Rule Char Terminal)} (hsplit : rules long = before ++ rule :: after)
    (hne : w ≠ []) (hw : Matches rule.regex w) (hbefore : ∀ r ∈ before, ¬ Matches r.regex w)
    (hlong : ∀ r ∈ rules long, ∀ a t, a ∈ s.head? → ¬ Matches r.regex (w ++ a :: t)) :
    yylex long (w ++ s) = (rule.action w).toList ++ yylex long s := by
  rw [hsplit] at hlong
  rw [yylex, yylex, hsplit]
  refine scan_token hne hw hbefore fun r hr a t hat => hlong r hr a t ?_
  obtain ⟨u, rfl⟩ := hat
  rfl

lemma yylex_string (hq : Quote q) (h : Matches (quotedBody q) s) (hlast : s.getLast? ≠ some '\\') :
    yylex long (q :: s ++ [q] ++ t) = .string (String.ofList s) :: yylex long t := by
  have hslash : q ≠ '\\' := by
    rintro rfl
    cases hq
  have hone : Matches (char q) [q] := .sat (beq_self_eq_true q)
  have hw : Matches (quoted q) (q :: s ++ [q]) := @Matches.seq _ _ _ [q] (s ++ [q]) hone (.seq h hone)
  have hlong : ∀ r ∈ rules long, ∀ a u, a ∈ t.head? → ¬ Matches r.regex (q :: s ++ [q] ++ a :: u) := by
    intro r hr a u _ hm
    have hmore : s ++ [q] ++ a :: u ≠ [] := List.append_ne_nil_of_right_ne_nil _ (List.cons_ne_nil _ _)
    rcases mem_rules.mp hr with rfl | rfl | rfl | ⟨k, -, rfl⟩ | rfl | ⟨p, -, rfl⟩ | rfl | rfl
    · obtain rfl := quoted_begins hm
      exact quoted_ends hslash hlast hm
    · obtain rfl := quoted_begins hm
      exact quoted_ends hslash hlast hm
    · rcases number_begins hm with rfl | rfl | h
      · cases hq
      · cases hq
      · exact (quote_plain hq).1 h
    · exact (quote_plain hq).2.1 (keyword_begins hm)
    · rcases path_begins hm with rfl | rfl <;> cases hq
    · exact hmore (char_single hm).2
    · exact (quote_plain hq).2.2 (space_begins hm)
    · exact hmore (any_single hm)
  have haction : ((stringRule q).action (q :: s ++ [q])).toList = [.string (String.ofList s)] := by
    change [Terminal.string (unquoted (q :: s ++ [q]))] = _
    rw [unquoted, List.cons_append, List.tail_cons, List.dropLast_concat]
  have hne : q :: s ++ [q] ≠ [] := List.cons_ne_nil _ _
  rcases quote_cases hq with rfl | rfl
  · have hscan := @yylex_token _ _ t _ (stringRule '"') [] _ (rfl : rules long = _) hne hw
      (List.forall_mem_nil _) hlong
    rw [hscan, haction]
    rfl
  · have hbefore : ∀ r ∈ [stringRule '"'], ¬ Matches r.regex ('\'' :: s ++ ['\'']) := by
      intro r hr hm
      obtain rfl := List.mem_singleton.mp hr
      cases quoted_begins hm
    have hscan := @yylex_token _ _ t _ (stringRule '\'') [stringRule '"'] _ (rfl : rules long = _) hne hw
      hbefore hlong
    rw [hscan, haction]
    rfl

lemma yylex_number {n : Int} (h : IntegerType.int32.Holds n) (hend : Ended (.number n) s) :
    yylex long (printed n ++ s) = .number n :: yylex long s := by
  obtain ⟨c, w, hprinted, hc⟩ := printed_cons n
  have hplain : ¬ Quote c ∧ isspace c = false ∧ c ≠ 'a' ∧ c ≠ 'h' := by
    rcases hc with rfl | hc
    · decide
    · refine ⟨fun hq => (quote_plain hq).1 hc, (digit_plain hc).2.2, ?_, ?_⟩
      · rintro rfl
        cases hc
      · rintro rfl
        cases hc
  have hlong : ∀ r ∈ rules long, ∀ a t, a ∈ s.head? → ¬ Matches r.regex (printed n ++ a :: t) := by
    intro r hr a t ha
    rw [hprinted]
    refine word_ends hplain.1 hplain.2.1 (hend a ha) (fun hm => ?_) hr
    rcases path_begins hm with h | h
    · exact hplain.2.2.1 h
    · exact hplain.2.2.2 h
  have hbefore : ∀ r ∈ [stringRule '"', stringRule '\''], ¬ Matches r.regex (printed n) := by
    intro r hr hm
    rw [hprinted] at hm
    rcases List.mem_pair.mp hr with rfl | rfl
    · exact hplain.1 (by rw [quoted_begins hm]; rfl)
    · exact hplain.1 (by rw [quoted_begins hm]; rfl)
  have hne : printed n ≠ [] := by
    rw [hprinted]
    exact List.cons_ne_nil _ _
  have hscan := @yylex_token _ long s (printed n) (numberRule long) [stringRule '"', stringRule '\''] _ rfl hne
    (printed_match n) hbefore hlong
  have haction : ((numberRule long).action (printed n)).toList = [.number n] := by
    change [Terminal.number (atoi long (printed n))] = _
    rw [atoi_printed h]
  rw [hscan, haction]
  rfl

lemma yylex_keyword {k : Keyword} (hend : Ended (.keyword k) s) :
    yylex long (k.text.toList ++ s) = .keyword k :: yylex long s := by
  obtain ⟨c, w, hk, hc⟩ := keyword_cons k
  have hplain := lower_plain hc
  have hlong : ∀ r ∈ rules long, ∀ a t, a ∈ s.head? → ¬ Matches r.regex (k.text.toList ++ a :: t) := by
    intro r hr a t ha
    have hpath : ¬ Matches pathText (k.text.toList ++ a :: t) := keyword_no_path
    rw [hk] at hpath ⊢
    exact word_ends hplain.1 hplain.2.1 (hend a ha) hpath hr
  obtain ⟨before, after, hall⟩ := List.append_of_mem (keyword_mem k)
  have hnot : k ∉ before := by
    have hnodup : Keyword.all.Nodup := by decide
    rw [hall, List.nodup_append] at hnodup
    exact fun hin => hnodup.2.2 k hin k List.mem_cons_self rfl
  have hbefore : ∀ r ∈ [stringRule '"', stringRule '\'', numberRule long] ++ before.map keywordRule,
      ¬ Matches r.regex k.text.toList := by
    intro r hr hm
    rcases List.mem_append.mp hr with hr | hr
    · rw [hk] at hm
      have hfirst := literal_begins hr hm
      simp [hplain] at hfirst
    · obtain ⟨k', hk', rfl⟩ := List.mem_map.mp hr
      rw [text_injective (matches_word.mp hm)] at hnot
      exact hnot hk'
  have hsplit : rules long = ([stringRule '"', stringRule '\'', numberRule long] ++ before.map keywordRule) ++
      keywordRule k :: (after.map keywordRule ++
        pathRule :: (Punctuation.all.map punctuationRule ++ [spaceRule, unknownRule])) := by
    rw [rules, hall, List.map_append, List.map_cons, List.append_assoc]
    rfl
  have hne : k.text.toList ≠ [] := by
    rw [hk]
    exact List.cons_ne_nil _ _
  exact yylex_token hsplit hne (matches_word.mpr rfl) hbefore hlong

lemma yylex_punctuation {p : Punctuation} : yylex long ([p.char] ++ s) = .punctuation p :: yylex long s := by
  have hstop := punctuation_stops p
  obtain ⟨before, after, hall⟩ := List.append_of_mem (punctuation_mem p)
  have hnot : p ∉ before := by
    have hnodup : Punctuation.all.Nodup := by decide
    rw [hall, List.nodup_append] at hnodup
    exact fun hin => hnodup.2.2 p hin p List.mem_cons_self rfl
  have hbefore : ∀ r ∈ wordRules long ++ before.map punctuationRule, ¬ Matches r.regex [p.char] := by
    intro r hr hm
    rcases List.mem_append.mp hr with hr | hr
    · exact stops_begin hstop hr hm
    · obtain ⟨p', hp', rfl⟩ := List.mem_map.mp hr
      rw [char_injective (char_single hm).1] at hnot
      exact hnot hp'
  have hlong : ∀ r ∈ rules long, ∀ a t, a ∈ s.head? → ¬ Matches r.regex ([p.char] ++ a :: t) := by
    intro r hr a t _
    refine stop_ends hstop (fun hm => ?_) (List.cons_ne_nil a t) hr
    have hspace := space_begins hm
    rw [punctuation_space] at hspace
    cases hspace
  have hsplit : rules long = (wordRules long ++ before.map punctuationRule) ++
      punctuationRule p :: (after.map punctuationRule ++ [spaceRule, unknownRule]) := by
    rw [rules_eq, hall, List.map_append, List.map_cons]
    simp only [List.cons_append, List.append_assoc]
  exact yylex_token hsplit (List.cons_ne_nil _ _) (.sat (beq_self_eq_true _)) hbefore hlong

lemma yylex_path {p : Path} (h : Matches pathText w) (hquote : ∀ c ∈ w, ¬ Quote c)
    (hp : R.pathNewFast (String.ofList w) = .ok p) (hend : Ended (.idmef p) s) :
    yylex long (w ++ s) = .idmef p :: yylex long s := by
  obtain ⟨c, v, hw, hc, hdot⟩ := path_dot h
  have hplain : ¬ Quote c ∧ isspace c = false ∧ c ≠ '-' ∧ c ≠ '.' ∧ c.isDigit = false := by
    rcases hc with rfl | rfl <;> decide
  have hlong : ∀ r ∈ rules long, ∀ a t, a ∈ s.head? → ¬ Matches r.regex (w ++ a :: t) := by
    intro r hr a t ha
    obtain ⟨hstop, hopen⟩ := hend a ha
    have hpath := @path_ends a t w h hquote hstop hopen
    rw [hw] at hpath ⊢
    exact word_ends hplain.1 hplain.2.1 hstop hpath hr
  have hbefore : ∀ r ∈ [stringRule '"', stringRule '\'', numberRule long] ++ Keyword.all.map keywordRule,
      ¬ Matches r.regex w := by
    intro r hr hm
    rw [hw] at hm
    rcases List.mem_append.mp hr with hr | hr
    · have hfirst := literal_begins hr hm
      simp [hplain] at hfirst
    · obtain ⟨k, _, rfl⟩ := List.mem_map.mp hr
      have hin : '.' ∈ k.text.toList := matches_word.mp hm ▸ List.mem_cons_of_mem c hdot
      have hout : '.' ∉ k.text.toList := by
        cases k <;> decide
      exact hout hin
  have hsplit : rules long = ([stringRule '"', stringRule '\'', numberRule long] ++ Keyword.all.map keywordRule) ++
      pathRule :: (Punctuation.all.map punctuationRule ++ [spaceRule, unknownRule]) := rfl
  have hne : w ≠ [] := by
    rw [hw]
    exact List.cons_ne_nil _ _
  have haction : (pathRule.action w).toList = [.idmef p] := by
    rw [pathRule]
    simp only [hp, Option.toList_some]
  rw [yylex_token hsplit hne h hbefore hlong, haction]
  rfl

/-- A run of blanks up to the next token. -/
lemma yylex_run (hw : w ≠ []) (h : ∀ c ∈ w, isspace c = true) (hs : ∀ c ∈ s.head?, isspace c = false) :
    yylex long (w ++ s) = yylex long s := by
  obtain ⟨c, v, rfl⟩ := List.exists_cons_of_ne_nil hw
  have hc := isspace_stops (h c List.mem_cons_self)
  have hbefore : ∀ r ∈ wordRules long ++ Punctuation.all.map punctuationRule, ¬ Matches r.regex (c :: v) := by
    intro r hr hm
    rcases List.mem_append.mp hr with hr | hr
    · exact stops_begin hc hr hm
    · obtain ⟨p, -, rfl⟩ := List.mem_map.mp hr
      have hspace := h c List.mem_cons_self
      rw [(char_single hm).1, punctuation_space] at hspace
      cases hspace
  have hlong : ∀ r ∈ rules long, ∀ a t, a ∈ s.head? → ¬ Matches r.regex (c :: v ++ a :: t) := by
    intro r hr a t ha
    refine stop_ends hc (fun hm => ?_) (List.append_ne_nil_of_right_ne_nil v (List.cons_ne_nil a t)) hr
    have hspace := matches_occurs hm (List.mem_append_right (c :: v) List.mem_cons_self)
    simp [spaces, Regex.plus, hs a ha] at hspace
  have hsplit : rules long = (wordRules long ++ Punctuation.all.map punctuationRule) ++ spaceRule :: [unknownRule] :=
    rfl
  exact yylex_token hsplit hw (matches_plus_sat.mpr ⟨hw, h⟩) hbefore hlong

lemma yylex_spaces : yylex long s = yylex long (s.dropWhile isspace) := by
  have hsplit : s.takeWhile isspace ++ s.dropWhile isspace = s := List.takeWhile_append_dropWhile
  by_cases hnil : s.takeWhile isspace = []
  · rw [hnil, List.nil_append] at hsplit
    rw [hsplit]
  · have hspaces : ∀ c ∈ s.takeWhile isspace, isspace c = true := fun c hc => List.mem_takeWhile_imp hc
    have hrest : ∀ c ∈ (s.dropWhile isspace).head?, isspace c = false := by
      intro c hc
      have hhead := List.head?_dropWhile_not isspace s
      rw [hc] at hhead
      exact hhead
    have hrun : yylex long _ = _ := yylex_run hnil hspaces hrest
    rw [hsplit] at hrun
    exact hrun

lemma yylex_blank (hc : isspace c = true) : yylex long (c :: s) = yylex long s := by
  rw [yylex_spaces, yylex_spaces (s := s), List.dropWhile_cons_of_pos hc]

lemma yylex_spells {t : Terminal} (hw : Spells t w) (hend : Ended t s) :
    yylex long (w ++ s) = t :: yylex long s := by
  cases hw with
  | string hq h hlast => exact yylex_string hq h hlast
  | idmef h hplain hp => exact yylex_path h hplain hp hend
  | number h => exact yylex_number h hend
  | punctuation p => exact yylex_punctuation
  | keyword k => exact yylex_keyword hend

/-- The tokens are scanned from each of their texts. -/
theorem yylex_spelled {ts : List Terminal} (h : Spelled ts s) : yylex long s = ts := by
  induction h with
  | nil => rfl
  | blank hc _ ih => rw [yylex_blank hc, ih]
  | token hw hend _ ih => rw [yylex_spells hw hend, ih]

end Tokens

end Preludedb.Paths
