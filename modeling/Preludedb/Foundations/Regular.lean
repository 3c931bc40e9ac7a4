import Mathlib.Tactic

/-! Regular expressions over characters given by predicates, their derivatives, and the longest prefix
of a text that one matches. -/

namespace Foundations.Regular

inductive Regex (α : Type)
  | empty
  | epsilon
  | sat (p : α → Bool)
  | alt (r s : Regex α)
  | seq (r s : Regex α)
  | star (r : Regex α)

variable {α : Type}

inductive Matches : Regex α → List α → Prop
  | epsilon : Matches .epsilon []
  | sat {p : α → Bool} {a : α} (h : p a = true) : Matches (.sat p) [a]
  | left {r s : Regex α} {t : List α} (h : Matches r t) : Matches (.alt r s) t
  | right {r s : Regex α} {t : List α} (h : Matches s t) : Matches (.alt r s) t
  | seq {r s : Regex α} {t u : List α} (h : Matches r t) (h' : Matches s u) : Matches (.seq r s) (t ++ u)
  | stop {r : Regex α} : Matches (.star r) []
  | again {r : Regex α} {t u : List α} (h : Matches r t) (h' : Matches (.star r) u) :
      Matches (.star r) (t ++ u)

namespace Regex

/-- `r*r` -/
def plus (r : Regex α) : Regex α := .seq r (.star r)

def opt (r : Regex α) : Regex α := .alt r .epsilon

/-- The characters of a word, one after the other. -/
def word [DecidableEq α] : List α → Regex α
  | [] => .epsilon
  | a :: as => .seq (.sat fun b => decide (b = a)) (word as)

@[simp] def nullable : Regex α → Bool
  | empty | sat _ => false
  | epsilon | star _ => true
  | alt r s => r.nullable || s.nullable
  | seq r s => r.nullable && s.nullable

/-- A choice without its empty side. -/
def either : Regex α → Regex α → Regex α
  | empty, s => s
  | r, empty => r
  | r, s => .alt r s

/-- A sequence, which is empty when a side is. -/
def followed : Regex α → Regex α → Regex α
  | empty, _ => .empty
  | epsilon, s => s
  | r, s => .seq r s

@[simp] def deriv (a : α) : Regex α → Regex α
  | empty | epsilon => .empty
  | sat p => if p a then .epsilon else .empty
  | alt r s => either (r.deriv a) (s.deriv a)
  | seq r s =>
    if r.nullable then either (followed (r.deriv a) s) (s.deriv a) else followed (r.deriv a) s
  | star r => followed (r.deriv a) (.star r)

/-- The character may occur in a text that is matched. -/
@[simp] def occurs (a : α) : Regex α → Bool
  | empty | epsilon => false
  | sat p => p a
  | alt r s | seq r s => r.occurs a || s.occurs a
  | star r => r.occurs a

/-- The character may begin a text that is matched. -/
@[simp] def begins (a : α) : Regex α → Bool
  | empty | epsilon => false
  | sat p => p a
  | alt r s => r.begins a || s.begins a
  | seq r s => r.begins a || (r.nullable && s.begins a)
  | star r => r.begins a

/-- The length of the longest prefix that is matched. -/
@[simp] def longest : Regex α → List α → Option ℕ
  | r, [] => if r.nullable then some 0 else none
  | r, a :: s =>
    match (r.deriv a).longest s with
    | some n => some (n + 1)
    | none => if r.nullable then some 0 else none

end Regex

section Derivatives

variable {r r' : Regex α} {s t : List α} {a : α}

lemma matches_empty : ¬ Matches (.empty : Regex α) s := fun h => by cases h

lemma matches_epsilon : Matches (.epsilon : Regex α) s ↔ s = [] :=
  ⟨fun h => by cases h; rfl, fun h => h ▸ .epsilon⟩

lemma matches_sat {p : α → Bool} : Matches (.sat p) s ↔ ∃ a, s = [a] ∧ p a = true := by
  constructor
  · rintro (⟨⟩ | ⟨h⟩)
    exact ⟨_, rfl, h⟩
  · rintro ⟨a, rfl, h⟩
    exact .sat h

lemma matches_alt : Matches (.alt r r') s ↔ Matches r s ∨ Matches r' s := by
  constructor
  · intro h
    cases h with
    | left h => exact .inl h
    | right h => exact .inr h
  · rintro (h | h)
    · exact .left h
    · exact .right h

lemma matches_seq : Matches (.seq r r') s ↔ ∃ t u, s = t ++ u ∧ Matches r t ∧ Matches r' u := by
  constructor
  · intro h
    cases h with
    | seq h h' => exact ⟨_, _, rfl, h, h'⟩
  · rintro ⟨t, u, rfl, h, h'⟩
    exact .seq h h'

/-- The first turn of a repetition that is not empty. -/
lemma matches_star_cons : Matches (.star r) (a :: s) ↔
    ∃ t u, s = t ++ u ∧ Matches r (a :: t) ∧ Matches (.star r) u := by
  constructor
  · intro h
    generalize hstar : Regex.star r = r' at h
    generalize has : a :: s = as at h
    induction h with
    | @again r t u h h' _ ih =>
      cases hstar
      cases t with
      | nil => exact ih rfl has
      | cons b t =>
        cases has
        exact ⟨t, u, rfl, h, h'⟩
    | stop => cases has
    | _ => cases hstar
  · rintro ⟨t, u, rfl, h, h'⟩
    exact .again h h'

lemma matches_either : Matches (Regex.either r r') s ↔ Matches r s ∨ Matches r' s := by
  unfold Regex.either
  split
  · exact (or_iff_right matches_empty).symm
  · exact (or_iff_left matches_empty).symm
  · exact matches_alt

lemma matches_followed : Matches (Regex.followed r r') s ↔ Matches (.seq r r') s := by
  unfold Regex.followed
  split
  · rw [matches_seq]
    exact iff_of_false matches_empty fun ⟨t, u, _, h, _⟩ => matches_empty h
  · rw [matches_seq]
    constructor
    · exact fun h => ⟨[], s, rfl, .epsilon, h⟩
    · rintro ⟨t, u, rfl, h, h'⟩
      rw [matches_epsilon.mp h]
      exact h'
  · exact Iff.rfl

lemma nullable_iff : r.nullable = true ↔ Matches r [] := by
  induction r with
  | empty => exact iff_of_false Bool.false_ne_true matches_empty
  | epsilon => exact iff_of_true rfl .epsilon
  | sat p => exact iff_of_false Bool.false_ne_true fun h => by cases h
  | alt r s ihr ihs => rw [Regex.nullable, Bool.or_eq_true, ihr, ihs, matches_alt]
  | seq r s ihr ihs =>
    rw [Regex.nullable, Bool.and_eq_true, ihr, ihs, matches_seq]
    constructor
    · exact fun h => ⟨[], [], rfl, h.1, h.2⟩
    · rintro ⟨t, u, hnil, h, h'⟩
      obtain ⟨rfl, rfl⟩ := List.append_eq_nil_iff.mp hnil.symm
      exact ⟨h, h'⟩
  | star r ih => exact iff_of_true rfl .stop

lemma matches_seq_cons : Matches (.seq r r') (a :: s) ↔
    (∃ t u, s = t ++ u ∧ Matches r (a :: t) ∧ Matches r' u) ∨ Matches r [] ∧ Matches r' (a :: s) := by
  rw [matches_seq]
  constructor
  · rintro ⟨t, u, has, h, h'⟩
    cases t with
    | nil => exact .inr ⟨h, has ▸ h'⟩
    | cons b t =>
      cases has
      exact .inl ⟨t, u, rfl, h, h'⟩
  · rintro (⟨t, u, rfl, h, h'⟩ | ⟨h, h'⟩)
    · exact ⟨a :: t, u, rfl, h, h'⟩
    · exact ⟨[], a :: s, rfl, h, h'⟩

/-- The derivative matches what may follow the character. -/
lemma deriv_iff : Matches (r.deriv a) s ↔ Matches r (a :: s) := by
  induction r generalizing s with
  | empty => exact iff_of_false matches_empty matches_empty
  | epsilon => exact iff_of_false matches_empty fun h => by cases h
  | sat p =>
    rw [Regex.deriv, matches_sat]
    cases hp : p a with
    | true =>
      rw [if_pos rfl, matches_epsilon]
      constructor
      · rintro rfl
        exact ⟨a, rfl, hp⟩
      · rintro ⟨b, hb, -⟩
        exact (List.cons.inj hb).2
    | false =>
      rw [if_neg Bool.false_ne_true]
      refine iff_of_false matches_empty ?_
      rintro ⟨b, hb, h⟩
      cases hb
      rw [hp] at h
      cases h
  | alt r r' ihr ihs => rw [Regex.deriv, matches_either, ihr, ihs, matches_alt]
  | seq r r' ihr ihs =>
    have hfirst : Matches (Regex.followed (r.deriv a) r') s ↔
        ∃ t u, s = t ++ u ∧ Matches r (a :: t) ∧ Matches r' u := by
      rw [matches_followed, matches_seq]
      simp only [ihr]
    rw [Regex.deriv, matches_seq_cons, ← hfirst, ← nullable_iff]
    cases r.nullable with
    | true => rw [if_pos rfl, matches_either, ihs, and_iff_right rfl]
    | false =>
      rw [if_neg Bool.false_ne_true]
      exact (or_iff_left fun h => Bool.false_ne_true h.1).symm
  | star r ih =>
    rw [Regex.deriv, matches_followed, matches_seq, matches_star_cons]
    simp only [ih]

lemma longest_cons_some {n : ℕ} : r.longest (a :: s) = some (n + 1) ↔ (r.deriv a).longest s = some n := by
  rw [Regex.longest]
  cases (r.deriv a).longest s with
  | some k => exact ⟨fun h => by cases h; rfl, fun h => by cases h; rfl⟩
  | none =>
    refine iff_of_false (fun h => ?_) (fun h => by cases h)
    split_ifs at h
    cases h

lemma longest_cons_zero : r.longest (a :: s) = some 0 ↔ (r.deriv a).longest s = none ∧ r.nullable = true := by
  rw [Regex.longest]
  cases (r.deriv a).longest s with
  | some k => exact iff_of_false (fun h => by cases h) fun h => by cases h.1
  | none =>
    cases r.nullable with
    | true => exact iff_of_true rfl ⟨rfl, rfl⟩
    | false => exact iff_of_false (fun h => by cases h) fun h => by cases h.2

lemma longest_cons_none : r.longest (a :: s) = none ↔ (r.deriv a).longest s = none ∧ r.nullable = false := by
  rw [Regex.longest]
  cases (r.deriv a).longest s with
  | some k => exact iff_of_false (fun h => by cases h) fun h => by cases h.1
  | none =>
    cases r.nullable with
    | true => exact iff_of_false (fun h => by cases h) fun h => by cases h.2
    | false => exact iff_of_true rfl ⟨rfl, rfl⟩

/-- No prefix is matched. -/
lemma longest_eq_none : r.longest s = none ↔ ∀ t, t <+: s → ¬ Matches r t := by
  induction s generalizing r with
  | nil =>
    rw [Regex.longest]
    simp only [List.prefix_nil, forall_eq, ← nullable_iff]
    cases r.nullable with
    | true => exact iff_of_false (fun h => by cases h) fun h => h rfl
    | false => exact iff_of_true rfl Bool.false_ne_true
  | cons a s ih =>
    rw [longest_cons_none, ih, ← Bool.not_eq_true, nullable_iff]
    constructor
    · rintro ⟨hcons, hnil⟩ t ht
      cases t with
      | nil => exact hnil
      | cons b t =>
        obtain ⟨rfl, hprefix⟩ := List.cons_prefix_cons.mp ht
        exact fun h => hcons t hprefix (deriv_iff.mpr h)
    · intro h
      refine ⟨fun t ht hm => ?_, h [] (List.nil_prefix)⟩
      exact h (a :: t) (List.cons_prefix_cons.mpr ⟨rfl, ht⟩) (deriv_iff.mp hm)

/-- The longest prefix is matched, and no longer one is. -/
theorem longest_eq_some {w : List α} : r.longest (w ++ s) = some w.length ↔
    Matches r w ∧ ∀ t, t <+: s → t ≠ [] → ¬ Matches r (w ++ t) := by
  induction w generalizing r with
  | nil =>
    cases s with
    | nil =>
      rw [List.append_nil, Regex.longest, ← nullable_iff]
      cases r.nullable with
      | true =>
        refine iff_of_true rfl ⟨rfl, fun t ht hne => absurd (List.prefix_nil.mp ht) hne⟩
      | false => exact iff_of_false (fun h => by cases h) fun h => by cases h.1
    | cons a s =>
      rw [List.nil_append, List.length_nil, longest_cons_zero, longest_eq_none, nullable_iff, and_comm]
      refine and_congr_right fun _ => ?_
      constructor
      · intro h t ht hne
        obtain ⟨b, t, rfl⟩ := List.exists_cons_of_ne_nil hne
        obtain ⟨rfl, hprefix⟩ := List.cons_prefix_cons.mp ht
        exact fun hm => h t hprefix (deriv_iff.mpr hm)
      · exact fun h t ht hm => h (a :: t) (List.cons_prefix_cons.mpr ⟨rfl, ht⟩) (List.cons_ne_nil _ _)
          (deriv_iff.mp hm)
  | cons a w ih =>
    rw [List.cons_append, List.length_cons, longest_cons_some, ih, deriv_iff]
    simp only [deriv_iff]
    rfl

lemma longest_le {n : ℕ} (h : r.longest s = some n) : n ≤ s.length := by
  induction s generalizing r n with
  | nil =>
    rw [Regex.longest] at h
    split_ifs at h
    cases h
    exact le_rfl
  | cons a s ih =>
    cases n with
    | zero => exact Nat.zero_le _
    | succ n => exact Nat.succ_le_succ (ih (longest_cons_some.mp h))

lemma longest_matches {n : ℕ} (h : r.longest s = some n) : Matches r (s.take n) := by
  have hlength : (s.take n).length = n := List.length_take_of_le (longest_le h)
  have hsome : r.longest (s.take n ++ s.drop n) = some (s.take n).length := by
    rw [List.take_append_drop, h, hlength]
  exact (longest_eq_some.mp hsome).1

end Derivatives

section Characters

variable {r r' : Regex α} {s t w : List α} {a : α}

lemma matches_occurs (h : Matches r s) (ha : a ∈ s) : r.occurs a = true := by
  induction h with
  | epsilon => cases ha
  | sat h =>
    obtain rfl := List.mem_singleton.mp ha
    exact h
  | left _ ih => simp [ih ha]
  | right _ ih => simp [ih ha]
  | seq _ _ ih ih' =>
    rcases List.mem_append.mp ha with ha | ha
    · simp [ih ha]
    · simp [ih' ha]
  | stop => cases ha
  | again _ _ ih ih' =>
    rcases List.mem_append.mp ha with ha | ha
    · exact ih ha
    · exact ih' ha

lemma matches_begins (h : Matches r (a :: s)) : r.begins a = true := by
  induction r generalizing s with
  | empty => exact absurd h matches_empty
  | epsilon => cases h
  | sat p =>
    obtain ⟨b, hb, hp⟩ := matches_sat.mp h
    cases hb
    exact hp
  | alt r s ihr ihs =>
    rcases matches_alt.mp h with h | h
    · simp [ihr h]
    · simp [ihs h]
  | seq r s ihr ihs =>
    rcases matches_seq_cons.mp h with ⟨t, u, _, h, _⟩ | ⟨h, h'⟩
    · simp [ihr h]
    · simp [nullable_iff.mpr h, ihs h']
  | star r ih =>
    obtain ⟨t, u, _, h, _⟩ := matches_star_cons.mp h
    exact ih h

lemma matches_plus : Matches (Regex.plus r) s ↔ ∃ t u, s = t ++ u ∧ Matches r t ∧ Matches (.star r) u :=
  matches_seq

lemma matches_opt : Matches (Regex.opt r) s ↔ Matches r s ∨ s = [] := by
  rw [Regex.opt, matches_alt, matches_epsilon]

lemma matches_star_sat {p : α → Bool} : Matches (.star (.sat p)) s ↔ ∀ a ∈ s, p a = true := by
  induction s with
  | nil => exact iff_of_true .stop (List.forall_mem_nil _)
  | cons a s ih =>
    rw [matches_star_cons, List.forall_mem_cons, ← ih]
    constructor
    · rintro ⟨t, u, rfl, h, h'⟩
      obtain ⟨b, hb, hp⟩ := matches_sat.mp h
      cases hb
      exact ⟨hp, h'⟩
    · rintro ⟨hp, h⟩
      exact ⟨[], s, rfl, .sat hp, h⟩

lemma matches_plus_sat {p : α → Bool} :
    Matches (Regex.plus (.sat p)) s ↔ s ≠ [] ∧ ∀ a ∈ s, p a = true := by
  rw [matches_plus]
  constructor
  · rintro ⟨t, u, rfl, h, h'⟩
    obtain ⟨a, rfl, hp⟩ := matches_sat.mp h
    exact ⟨List.cons_ne_nil _ _, List.forall_mem_cons.mpr ⟨hp, matches_star_sat.mp h'⟩⟩
  · rintro ⟨hne, h⟩
    obtain ⟨a, s, rfl⟩ := List.exists_cons_of_ne_nil hne
    obtain ⟨hp, h⟩ := List.forall_mem_cons.mp h
    exact ⟨[a], s, rfl, .sat hp, matches_star_sat.mpr h⟩

/-- A word is matched by itself alone. -/
lemma matches_word [DecidableEq α] : Matches (Regex.word w) s ↔ s = w := by
  induction w generalizing s with
  | nil => exact matches_epsilon
  | cons a w ih =>
    rw [Regex.word, matches_seq]
    constructor
    · rintro ⟨t, u, rfl, h, h'⟩
      obtain ⟨b, rfl, hb⟩ := matches_sat.mp h
      rw [of_decide_eq_true hb, ih.mp h']
      rfl
    · rintro rfl
      exact ⟨[a], w, rfl, .sat (decide_eq_true rfl), ih.mpr rfl⟩

/-- What comes before a character of a sequence. -/
lemma matches_seq_before (h : Matches (.seq r r') (w ++ a :: t)) :
    (∃ t', Matches r (w ++ a :: t')) ∨ ∃ u v, w = u ++ v ∧ Matches r u ∧ Matches r' (v ++ a :: t) := by
  obtain ⟨u, v, huv, hu, hv⟩ := matches_seq.mp h
  rcases List.append_eq_append_iff.mp huv with ⟨x, rfl, hx⟩ | ⟨x, rfl, hx⟩
  · cases x with
    | nil =>
      rw [List.append_nil] at hu
      exact .inr ⟨w, [], (List.append_nil w).symm, hu, hx ▸ hv⟩
    | cons b x =>
      cases hx
      exact .inl ⟨x, hu⟩
  · exact .inr ⟨u, x, rfl, hu, hx ▸ hv⟩

/-- What comes before a character of a repetition: whole turns, and a part of the next. -/
lemma matches_star_before (h : Matches (.star r) (w ++ a :: t)) :
    ∃ u v t', w = u ++ v ∧ Matches (.star r) u ∧ Matches r (v ++ a :: t') := by
  generalize hstar : Regex.star r = r' at h
  generalize hs : w ++ a :: t = s at h
  induction h generalizing w with
  | stop => cases w <;> cases hs
  | @again r₁ x y h h' _ ih =>
    cases hstar
    rcases List.append_eq_append_iff.mp hs with ⟨z, rfl, hz⟩ | ⟨z, rfl, hz⟩
    · cases z with
      | nil =>
        obtain ⟨u, v, t', huv, hu, hv⟩ := @ih [] rfl hz
        obtain ⟨rfl, rfl⟩ := List.append_eq_nil_iff.mp huv.symm
        rw [List.append_nil] at h
        exact ⟨w, [], t', (List.append_nil w).symm, List.append_nil w ▸ .again h .stop, hv⟩
      | cons b z =>
        cases hz
        exact ⟨[], w, z, rfl, .stop, h⟩
    · obtain ⟨u, v, t', rfl, hu, hv⟩ := ih rfl hz.symm
      exact ⟨x ++ u, v, t', (List.append_assoc _ _ _).symm, .again h hu, hv⟩
  | _ => cases hstar

/-- The character is matched only behind one of the guards. -/
inductive Guarded (guard : α → Prop) (a : α) : Regex α → Prop
  | absent {r : Regex α} (h : r.occurs a = false) : Guarded guard a r
  | behind {p : α → Bool} {r : Regex α} (ha : p a = false) (h : ∀ b, p b = true → guard b) :
      Guarded guard a (.seq (.sat p) r)
  | alt {r s : Regex α} (h : Guarded guard a r) (h' : Guarded guard a s) : Guarded guard a (.alt r s)
  | seq {r s : Regex α} (h : Guarded guard a r) (h' : Guarded guard a s) : Guarded guard a (.seq r s)
  | star {r : Regex α} (h : Guarded guard a r) : Guarded guard a (.star r)

lemma Guarded.exists_mem {guard : α → Prop} (h : Guarded guard a r) (hm : Matches r (w ++ a :: t)) :
    ∃ b ∈ w, guard b := by
  induction h generalizing w t with
  | absent h =>
    have ha := matches_occurs hm (List.mem_append_right w List.mem_cons_self)
    rw [h] at ha
    cases ha
  | behind ha h =>
    rcases matches_seq_before hm with ⟨t', hm⟩ | ⟨u, v, rfl, hu, _⟩
    · have hp := matches_occurs hm (List.mem_append_right w List.mem_cons_self)
      rw [Regex.occurs, ha] at hp
      cases hp
    · obtain ⟨b, rfl, hb⟩ := matches_sat.mp hu
      exact ⟨b, List.mem_append_left v (List.mem_singleton_self b), h b hb⟩
  | alt _ _ ih ih' =>
    rcases matches_alt.mp hm with hm | hm
    · exact ih hm
    · exact ih' hm
  | seq _ _ ih ih' =>
    rcases matches_seq_before hm with ⟨t', hm⟩ | ⟨u, v, rfl, _, hv⟩
    · exact ih hm
    · obtain ⟨b, hb, hg⟩ := ih' hv
      exact ⟨b, List.mem_append_right u hb, hg⟩
  | star _ ih =>
    obtain ⟨u, v, t', rfl, _, hv⟩ := matches_star_before hm
    obtain ⟨b, hb, hg⟩ := ih hv
    exact ⟨b, List.mem_append_right u hb, hg⟩

section Unguarded

variable {guard : α → Prop}

lemma Guarded.not_matches (h : Guarded guard a r) (hplain : ∀ b ∈ w, ¬ guard b) : ¬ Matches r (w ++ a :: t) := by
  intro hm
  obtain ⟨b, hb, hg⟩ := h.exists_mem hm
  exact hplain b hb hg

lemma Guarded.not_mem (h : Guarded guard a r) (hm : Matches r w) (hplain : ∀ b ∈ w, ¬ guard b) : a ∉ w := by
  intro ha
  obtain ⟨u, v, rfl⟩ := List.append_of_mem ha
  exact h.not_matches (fun b hb => hplain b (List.mem_append_left _ hb)) hm

end Unguarded

end Characters

end Foundations.Regular
