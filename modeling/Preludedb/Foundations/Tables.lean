import Mathlib.Tactic

/-! Families of tables that only grow at their end and lose the rows a test selects. -/

namespace Foundations

inductive TableWrite (T R : Type)
  | insert (t : T) (r : R)
  | delete (t : T) (p : R → Bool)

namespace TableWrite

variable {T R : Type} [DecidableEq T]

def apply (d : T → List R) : TableWrite T R → T → List R
  | .insert t r => Function.update d t (d t ++ [r])
  | .delete t p => Function.update d t ((d t).filter (fun r => !p r))

def inserted (t : T) (ws : List (T × R)) : List R :=
  (ws.filter (fun w => w.1 = t)).map Prod.snd

def deleted (t : T) (qs : List (T × (R → Bool))) (r : R) : Bool :=
  qs.any (fun q => q.1 = t && q.2 r)

lemma mem_inserted {t : T} {ws : List (T × R)} {r : R} : r ∈ inserted t ws ↔ (t, r) ∈ ws := by
  simp only [inserted, List.mem_map, List.mem_filter, decide_eq_true_eq]
  constructor
  · rintro ⟨⟨t', r'⟩, ⟨hm, rfl⟩, rfl⟩
    exact hm
  · intro h
    exact ⟨(t, r), ⟨h, rfl⟩, rfl⟩

lemma foldl_insert (ws : List (T × R)) (d : T → List R) (t : T) :
    (ws.map fun w => insert w.1 w.2).foldl apply d t = d t ++ inserted t ws := by
  induction ws generalizing d with
  | nil => simp [inserted]
  | cons w ws ih =>
    rw [List.map_cons, List.foldl_cons, ih]
    by_cases h : w.1 = t
    · subst h
      simp [apply, inserted]
    · simp [apply, inserted, h, Function.update_of_ne (Ne.symm h)]

lemma foldl_delete (qs : List (T × (R → Bool))) (d : T → List R) (t : T) :
    (qs.map fun q => delete q.1 q.2).foldl apply d t = (d t).filter (fun r => !deleted t qs r) := by
  induction qs generalizing d with
  | nil => simp [deleted]
  | cons q qs ih =>
    rw [List.map_cons, List.foldl_cons, ih]
    by_cases h : q.1 = t
    · subst h
      simp [apply, deleted, List.filter_filter, Bool.and_comm]
    · simp [apply, deleted, h, Function.update_of_ne (Ne.symm h)]

/-- Deletions undo insertions when they select every inserted row and no row that was there. -/
lemma delete_insert {ws : List (T × R)} {qs : List (T × (R → Bool))} {d : T → List R}
    (hold : ∀ t, ∀ r ∈ d t, deleted t qs r = false)
    (hnew : ∀ w ∈ ws, deleted w.1 qs w.2 = true) :
    (qs.map fun q => delete q.1 q.2).foldl apply
      ((ws.map fun w => insert w.1 w.2).foldl apply d) = d := by
  funext t
  rw [foldl_delete, foldl_insert, List.filter_append]
  have hkept : (d t).filter (fun r => !deleted t qs r) = d t :=
    List.filter_eq_self.mpr fun r hr => by simp [hold t r hr]
  have hgone : (inserted t ws).filter (fun r => !deleted t qs r) = [] :=
    List.filter_eq_nil_iff.mpr fun r hr => by simp [hnew (t, r) (mem_inserted.mp hr)]
  rw [hkept, hgone, List.append_nil]

/-- The rows of a table that a test selects, before and after a write. -/
lemma filter_apply_insert {t t' : T} {r : R} {p : R → Bool} {d : T → List R}
    (h : t' = t → p r = false) : (apply d (.insert t' r) t).filter p = (d t).filter p := by
  by_cases ht : t' = t
  · subst ht
    simp [apply, List.filter_append, h rfl]
  · simp [apply, Function.update_of_ne (Ne.symm ht)]

lemma filter_apply_delete {t t' : T} {p q : R → Bool} {d : T → List R}
    (h : t' = t → ∀ r, p r → q r = false) :
    (apply d (.delete t' q) t).filter p = (d t).filter p := by
  by_cases ht : t' = t
  · subst ht
    simp only [apply, Function.update_self, List.filter_filter]
    refine List.filter_congr fun r _ => ?_
    cases hp : p r with
    | false => rfl
    | true => simp [h rfl r hp]
  · simp [apply, Function.update_of_ne (Ne.symm ht)]

end TableWrite

end Foundations
