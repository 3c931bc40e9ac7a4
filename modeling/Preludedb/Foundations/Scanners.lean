import Preludedb.Foundations.Regular

/-! Scanners: a text is cut into the longest prefixes that the rules match, the first rule winning
among those that match as much. -/

namespace Foundations.Regular

variable {α τ : Type}

/-- What is returned for a prefix; `none` for one that is skipped. -/
structure Rule (α τ : Type) where
  regex : Regex α
  action : List α → Option τ

@[simp] def best : List (Rule α τ) → List α → Option (ℕ × Rule α τ)
  | [], _ => none
  | rule :: rules, s =>
    match rule.regex.longest s, best rules s with
    | none, other => other
    | some n, none => some (n, rule)
    | some n, some (m, other) => if m ≤ n then some (n, rule) else some (m, other)

/-- The character that no rule matches is skipped. -/
@[simp] def scanUpTo (rules : List (Rule α τ)) : ℕ → List α → List τ
  | fuel + 1, a :: s =>
    match best rules (a :: s) with
    | some (n + 1, rule) =>
      (rule.action ((a :: s).take (n + 1))).toList ++ scanUpTo rules fuel ((a :: s).drop (n + 1))
    | _ => scanUpTo rules fuel s
  | _, _ => []

def scan (rules : List (Rule α τ)) (s : List α) : List τ := scanUpTo rules s.length s

section Best

variable {rules before after : List (Rule α τ)} {rule : Rule α τ} {s : List α} {n : ℕ}

lemma best_le {m : ℕ} (h : ∀ r ∈ rules, ∀ k, r.regex.longest s = some k → k ≤ n)
    (hb : best rules s = some (m, rule)) : m ≤ n := by
  induction rules generalizing m rule with
  | nil => cases hb
  | cons r rules ih =>
    have hrest := fun m rule hb => @ih rule m (fun r hr => h r (List.mem_cons_of_mem _ hr)) hb
    rw [best] at hb
    split at hb
    · exact hrest _ _ hb
    · next k hk _ =>
      cases hb
      exact h r List.mem_cons_self _ hk
    · next k m' other hk hother =>
      split_ifs at hb
      · cases hb
        exact h r List.mem_cons_self _ hk
      · cases hb
        exact hrest _ _ hother

/-- The rule that wins: those before it match less, and those behind it not more. -/
lemma best_eq (hrule : rule.regex.longest s = some n)
    (hbefore : ∀ r ∈ before, ∀ m, r.regex.longest s = some m → m < n)
    (hafter : ∀ r ∈ after, ∀ m, r.regex.longest s = some m → m ≤ n) :
    best (before ++ rule :: after) s = some (n, rule) := by
  induction before with
  | nil =>
    rw [List.nil_append, best, hrule]
    cases hb : best after s with
    | none => rfl
    | some b =>
      obtain ⟨m, other⟩ := b
      have hm := best_le hafter hb
      simp only [if_pos hm]
  | cons r before ih =>
    rw [List.cons_append, best, ih fun r' hr => hbefore r' (List.mem_cons_of_mem _ hr)]
    cases hr : r.regex.longest s with
    | none => rfl
    | some m =>
      have hm := hbefore r List.mem_cons_self m hr
      simp only [if_neg (Nat.not_le.mpr hm)]

end Best

section Scan

variable {rules : List (Rule α τ)} {rule : Rule α τ} {s w : List α} {n : ℕ}

lemma scanUpTo_enough {fuel : ℕ} (h : s.length ≤ fuel) : scanUpTo rules fuel s = scan rules s := by
  induction fuel using Nat.strong_induction_on generalizing s with
  | _ fuel ih =>
    cases s with
    | nil => cases fuel <;> rfl
    | cons a s =>
      obtain ⟨fuel, rfl⟩ : ∃ k, fuel = k + 1 := ⟨fuel - 1, by rw [List.length_cons] at h; omega⟩
      rw [List.length_cons] at h
      have hfew : ∀ t : List α, t.length ≤ s.length → scanUpTo rules fuel t = scanUpTo rules s.length t := by
        intro t ht
        rw [ih fuel (Nat.lt_succ_self _) (ht.trans (by omega)), scan]
        rcases Nat.lt_or_ge s.length (fuel + 1) with hlt | hge
        · exact (ih s.length hlt ht).symm
        · omega
      rw [scan, List.length_cons, scanUpTo, scanUpTo]
      split
      · rw [hfew]
        rw [List.drop_succ_cons, List.length_drop]
        exact Nat.sub_le _ _
      · exact hfew s le_rfl

/-- A prefix that wins is what is scanned first. -/
lemma scan_append (hne : w ≠ []) (h : best rules (w ++ s) = some (w.length, rule)) :
    scan rules (w ++ s) = (rule.action w).toList ++ scan rules s := by
  obtain ⟨a, w, rfl⟩ := List.exists_cons_of_ne_nil hne
  rw [scan, List.cons_append, List.length_cons, scanUpTo]
  rw [List.cons_append] at h
  rw [h]
  simp only [List.length_cons]
  rw [← List.cons_append, ← List.length_cons, List.take_left, List.drop_left, scanUpTo_enough (by simp)]

/-- A prefix that a rule matches, no earlier rule matches, and none matches with more of the text. -/
lemma scan_token {before after : List (Rule α τ)} (hne : w ≠ []) (hw : Matches rule.regex w)
    (hbefore : ∀ r ∈ before, ¬ Matches r.regex w)
    (hlong : ∀ r ∈ before ++ rule :: after, ∀ a t, a :: t <+: s → ¬ Matches r.regex (w ++ a :: t)) :
    scan (before ++ rule :: after) (w ++ s) = (rule.action w).toList ++ scan (before ++ rule :: after) s := by
  have hnone : ∀ r ∈ before ++ rule :: after, ∀ t, t <+: s → t ≠ [] → ¬ Matches r.regex (w ++ t) := by
    intro r hr t ht hne
    obtain ⟨a, t, rfl⟩ := List.exists_cons_of_ne_nil hne
    exact hlong r hr a t ht
  have hle : ∀ r ∈ before ++ rule :: after, ∀ m, r.regex.longest (w ++ s) = some m → m ≤ w.length := by
    intro r hr m hm
    by_contra hlt
    have hmore : s.take (m - w.length) ≠ [] := by
      have hmax := longest_le hm
      rw [List.length_append] at hmax
      rw [← List.length_pos_iff, List.length_take]
      omega
    have hmatches := longest_matches hm
    rw [List.take_append, List.take_of_length_le (Nat.le_of_not_le hlt)] at hmatches
    exact hnone r hr _ (List.take_prefix _ _) hmore hmatches
  refine scan_append hne (best_eq ?_ ?_ fun r hr => hle r (List.mem_append_right _ (List.mem_cons_of_mem _ hr)))
  · exact longest_eq_some.mpr ⟨hw, hnone rule (List.mem_append_right _ List.mem_cons_self)⟩
  · intro r hr m hm
    refine lt_of_le_of_ne (hle r (List.mem_append_left _ hr) m hm) ?_
    rintro rfl
    exact hbefore r hr (longest_eq_some.mp hm).1

end Scan

end Foundations.Regular
