import Mathlib.Tactic

/-! Wildcard patterns, and when two of them match the same texts. -/

namespace Foundations.Wildcards

inductive Symbol (α : Type)
  | any
  | one
  | exact (a : α)
  deriving DecidableEq, Repr

variable {α : Type}

-- `any` stands for any sequence and `one` for any single letter
def matchesText [DecidableEq α] : List (Symbol α) → List α → Bool
  | [], t => t.isEmpty
  | .any :: p, t => t.tails.any (matchesText p)
  | .one :: _, [] => false
  | .one :: p, _ :: t => matchesText p t
  | .exact _ :: _, [] => false
  | .exact a :: p, b :: t => a = b && matchesText p t

-- what a pattern asks of the letters it matches one by one
@[grind] def units : List (Symbol α) → List (Option α)
  | [] => []
  | .any :: p => units p
  | .one :: p => none :: units p
  | .exact a :: p => some a :: units p

def Admits (o : Option α) (a : α) : Prop := ∀ b ∈ o, b = a

variable [DecidableEq α] {p q : List (Symbol α)} {t : List α}

lemma length_le_of_matches (h : matchesText p t = true) : (units p).length ≤ t.length := by
  induction p generalizing t with
  | nil => exact Nat.zero_le _
  | cons s p ih =>
    cases s with
    | any =>
      obtain ⟨u, hu, hm⟩ := List.any_eq_true.mp h
      have hsuffix := (List.mem_tails u t).mp hu
      exact (ih hm).trans hsuffix.length_le
    | one =>
      cases t with
      | nil => cases h
      | cons b t =>
        have hp := ih (t := t) h
        simp only [units, List.length_cons]
        omega
    | exact a =>
      cases t with
      | nil => cases h
      | cons b t =>
        simp only [matchesText, Bool.and_eq_true] at h
        have hp := ih h.2
        simp only [units, List.length_cons]
        omega

/-- On a text of the least length the sequences are empty. -/
lemma matches_tight (ht : t.length = (units p).length) :
    matchesText p t = true ↔ List.Forall₂ Admits (units p) t := by
  induction p generalizing t with
  | nil =>
    have hnil : t = [] := List.length_eq_zero_iff.mp ht
    subst hnil
    simp [matchesText, units]
  | cons s p ih =>
    cases s with
    | any =>
      simp only [units] at ht ⊢
      rw [← ih ht, matchesText, List.any_eq_true]
      constructor
      · rintro ⟨u, hu, hm⟩
        have hsuffix := (List.mem_tails u t).mp hu
        have hle := length_le_of_matches hm
        have hsame : u = t := hsuffix.eq_of_length_le (by omega)
        rw [← hsame]
        exact hm
      · intro hm
        exact ⟨t, (List.mem_tails t t).mpr (List.suffix_refl t), hm⟩
    | one =>
      cases t with
      | nil => simp [units] at ht
      | cons b t =>
        simp only [units, List.length_cons, Nat.add_right_cancel_iff] at ht
        rw [matchesText, ih ht, units, List.forall₂_cons]
        simp [Admits]
    | exact a =>
      cases t with
      | nil => simp [units] at ht
      | cons b t =>
        simp only [units, List.length_cons, Nat.add_right_cancel_iff] at ht
        rw [matchesText, Bool.and_eq_true, ih ht, units, List.forall₂_cons]
        simp [Admits]

omit [DecidableEq α] in
lemma eq_of_admits [Nontrivial α] {l l' : List (Option α)} (hlen : l.length = l'.length)
    (hsome : ∀ o ∈ l', o.isSome) (h : ∀ t : List α, List.Forall₂ Admits l t ↔ List.Forall₂ Admits l' t) :
    l = l' := by
  induction l generalizing l' with
  | nil => exact (List.length_eq_zero_iff.mp hlen.symm).symm
  | cons o l ih =>
    cases l' with
    | nil => simp at hlen
    | cons o' l' =>
      obtain ⟨b, rfl⟩ := Option.isSome_iff_exists.mp (hsome o' List.mem_cons_self)
      have hrest : ∀ x ∈ l', x.isSome := fun x hx => hsome x (List.mem_cons_of_mem _ hx)
      obtain ⟨t, ht⟩ : ∃ t, List.Forall₂ Admits l' t := by
        clear h hsome hlen ih
        induction l' with
        | nil => exact ⟨[], .nil⟩
        | cons x l' ih =>
          obtain ⟨c, rfl⟩ := Option.isSome_iff_exists.mp (hrest x List.mem_cons_self)
          obtain ⟨t, ht⟩ := ih fun y hy => hrest y (List.mem_cons_of_mem _ hy)
          exact ⟨c :: t, .cons (by simp [Admits]) ht⟩
      have hhead := (h (b :: t)).mpr (.cons (by simp [Admits]) ht)
      have ho : o = some b := by
        cases o with
        | some a =>
          have ha := (List.forall₂_cons.mp hhead).1 a rfl
          rw [ha]
        | none =>
          obtain ⟨a, ha⟩ := exists_ne b
          have hother := (h (a :: t)).mp (.cons (by simp [Admits]) (List.forall₂_cons.mp hhead).2)
          exact absurd ((List.forall₂_cons.mp hother).1 b rfl).symm ha
      subst ho
      congr 1
      refine ih (by simpa using hlen) hrest fun u => ?_
      have hu := h (b :: u)
      simp only [List.forall₂_cons] at hu
      constructor
      · intro hl
        exact (hu.mp ⟨by simp [Admits], hl⟩).2
      · intro hl
        exact (hu.mpr ⟨by simp [Admits], hl⟩).2

/-- Two patterns for texts of the same least length, one of them without free letters, match the same
texts only if they ask the same of the letters. -/
lemma units_eq_of_matches [Nontrivial α] (hlen : (units p).length = (units q).length)
    (hsome : ∀ o ∈ units q, o.isSome) (h : ∀ t, matchesText p t = matchesText q t) :
    units p = units q := by
  refine eq_of_admits hlen hsome fun t => ?_
  constructor
  · intro hp
    have ht := hp.length_eq.symm
    rw [← matches_tight (ht.trans hlen), ← h, matches_tight ht]
    exact hp
  · intro hq
    have ht := hq.length_eq.symm
    rw [← matches_tight (ht.trans hlen.symm), h, matches_tight ht]
    exact hq

end Foundations.Wildcards
