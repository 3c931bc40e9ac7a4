import Mathlib.Data.List.Basic
import Mathlib.Data.List.Infix

/-! Tables that hold one entry for the things that are the same: a thing is looked up, and added when
no entry is the same. -/

namespace Foundations.Interning

variable {α : Type} {same : α → α → Bool} {entries : List α} {a b : α}

def Known (same : α → α → Bool) (entries : List α) (a : α) : Prop := ∃ e ∈ entries, same a e = true

/-- The place of the first entry that is the same. -/
def number (same : α → α → Bool) (entries : List α) (a : α) : ℕ := entries.findIdx (same a)

def intern (same : α → α → Bool) (entries : List α) (a : α) : List α :=
  if entries.any (same a) then entries else entries ++ [a]

def internAll (same : α → α → Bool) (entries l : List α) : List α := l.foldl (intern same) entries

lemma known_iff_any : Known same entries a ↔ entries.any (same a) = true := by
  rw [Known, List.any_eq_true]

lemma Known.mono {entries' : List α} (h : Known same entries a) (hp : entries <+: entries') :
    Known same entries' a := by
  obtain ⟨e, he, hs⟩ := h
  exact ⟨e, hp.subset he, hs⟩

lemma Known.number_lt (h : Known same entries a) : number same entries a < entries.length := by
  obtain ⟨e, he, hs⟩ := h
  exact List.findIdx_lt_length_of_exists ⟨e, he, hs⟩

lemma Known.same_number (h : Known same entries a) :
    same a (entries.get ⟨number same entries a, h.number_lt⟩) = true :=
  List.findIdx_getElem

/-- The numbers that are given out stay. -/
lemma Known.number_stays {entries' : List α} (h : Known same entries a) (hp : entries <+: entries') :
    number same entries' a = number same entries a := by
  exact hp.findIdx_eq_of_findIdx_lt_length h.number_lt

lemma prefix_intern : entries <+: intern same entries a := by
  rw [intern]
  split
  · exact List.prefix_refl _
  · exact List.prefix_append _ _

lemma known_intern (hr : same a a = true) : Known same (intern same entries a) a := by
  rw [intern]
  split
  case isTrue h => exact known_iff_any.mpr h
  case isFalse => exact ⟨a, List.mem_append_right _ List.mem_cons_self, hr⟩

lemma number_intern_of_unknown (h : ¬ Known same entries a) (hr : same a a = true) :
    number same (intern same entries a) a = entries.length := by
  have hnone : ∀ e ∈ entries, same a e = false := fun e he =>
    Bool.eq_false_iff.mpr fun hs => h ⟨e, he, hs⟩
  rw [intern, if_neg fun hany => h (known_iff_any.mpr hany), number, List.findIdx_append,
    if_neg (by rw [List.findIdx_eq_length_of_false hnone]; exact lt_irrefl _)]
  simp [hr]

lemma prefix_internAll (l : List α) : entries <+: internAll same entries l := by
  induction l generalizing entries with
  | nil => exact List.prefix_refl _
  | cons a l ih => exact prefix_intern.trans ih

lemma mem_internAll {l : List α} {e : α} (h : e ∈ internAll same entries l) : e ∈ entries ∨ e ∈ l := by
  induction l generalizing entries with
  | nil => exact .inl h
  | cons a l ih =>
    rcases ih h with he | he
    · rw [intern] at he
      split at he
      · exact .inl he
      · rcases List.mem_append.mp he with he | he
        · exact .inl he
        · exact .inr (List.mem_singleton.mp he ▸ List.mem_cons_self)
    · exact .inr (List.mem_cons_of_mem _ he)

lemma known_internAll {l : List α} (hr : ∀ a ∈ l, same a a = true) (h : a ∈ l) :
    Known same (internAll same entries l) a := by
  induction l generalizing entries with
  | nil => cases h
  | cons b l ih =>
    rcases List.mem_cons.mp h with rfl | h
    · exact (known_intern (hr a List.mem_cons_self)).mono (prefix_internAll l)
    · exact ih (fun b hb => hr b (List.mem_cons_of_mem _ hb)) h

/-- Where the test is an equivalence, two things have one number exactly when they are the same. -/
lemma number_eq_iff {S : α → Prop} (hsymm : ∀ x y, S x → S y → same x y = true → same y x = true)
    (htrans : ∀ x y z, S x → S y → S z → same x y = true → same y z = true → same x z = true)
    (he : ∀ e ∈ entries, S e) (ha : S a) (hb : S b) (hka : Known same entries a)
    (hkb : Known same entries b) :
    number same entries a = number same entries b ↔ same a b = true := by
  constructor
  · intro hn
    have hx := hka.same_number
    have hy := hkb.same_number
    have hS := he _ (List.getElem_mem hka.number_lt)
    simp only [hn] at hx hS
    exact htrans _ _ _ ha hS hb hx (hsymm _ _ hb hS hy)
  · intro hs
    have hagree : ∀ e ∈ entries, same a e = same b e := fun e hm => Bool.eq_iff_iff.mpr
      ⟨htrans _ _ _ hb ha (he e hm) (hsymm _ _ ha hb hs), htrans _ _ _ ha hb (he e hm) hs⟩
    refine (List.findIdx_eq hkb.number_lt).mpr ⟨?_, fun j hj => ?_⟩
    · rw [hagree _ (List.getElem_mem _)]
      exact hkb.same_number
    · rw [hagree _ (List.getElem_mem _)]
      exact List.not_of_lt_findIdx hj

end Foundations.Interning
