import Preludedb.Foundations.Forms

/-! Conditions in three-valued logic, read from texts in which negation binds tighter than
conjunction, and conjunction tighter than disjunction. -/

namespace Foundations

inductive Truth
  | false
  | unknown
  | true
  deriving DecidableEq, Repr

namespace Truth

protected def not : Truth → Truth
  | false => true
  | unknown => unknown
  | true => false

protected def and : Truth → Truth → Truth
  | true, t => t
  | false, _ => false
  | unknown, false => false
  | unknown, _ => unknown

protected def or : Truth → Truth → Truth
  | false, t => t
  | true, _ => true
  | unknown, true => true
  | unknown, _ => unknown

def ofBool (b : Bool) : Truth := if b then true else false

lemma ofBool_not (b : Bool) : ofBool (!b) = (ofBool b).not := by
  cases b <;> rfl

lemma ofBool_eq_true {b : Bool} : ofBool b = true ↔ b = Bool.true := by
  cases b <;> simp [ofBool]

lemma ofBool_ne_unknown (b : Bool) : ofBool b ≠ unknown := by
  cases b <;> simp [ofBool]

lemma and_assoc (s t u : Truth) : (s.and t).and u = s.and (t.and u) := by
  cases s <;> cases t <;> cases u <;> rfl

end Truth

inductive Cond (α : Type)
  | operand (forms : List (Form α))
  | not (c : Cond α)
  | and (c d : Cond α)
  | or (c d : Cond α)

/-- The atoms that are the operators of a condition. -/
structure Operators (α : Type) where
  isNot : α → Bool
  isAnd : α → Bool
  isOr : α → Bool

namespace Cond

variable {α : Type}

def eval (v : List (Form α) → Truth) : Cond α → Truth
  | .operand forms => v forms
  | .not c => (eval v c).not
  | .and c d => (eval v c).and (eval v d)
  | .or c d => (eval v c).or (eval v d)

lemma eval_known {v : List (Form α) → Truth} (h : ∀ forms, v forms ≠ .unknown) (c : Cond α) :
    eval v c ≠ .unknown := by
  induction c with
  | operand forms => exact h forms
  | not c ih =>
    rw [eval]
    cases hc : eval v c <;> simp_all [Truth.not]
  | and c d ihc ihd =>
    rw [eval]
    cases hc : eval v c <;> cases hd : eval v d <;> simp_all [Truth.and]
  | or c d ihc ihd =>
    rw [eval]
    cases hc : eval v c <;> cases hd : eval v d <;> simp_all [Truth.or]

/-- The forms before and after the first operator, outside of the groups. -/
def splitAt (k : α → Bool) : List (Form α) → Option (List (Form α) × List (Form α))
  | [] => none
  | .atom a :: fs =>
    if k a then some ([], fs) else (splitAt k fs).map fun x => (.atom a :: x.1, x.2)
  | .group inner :: fs => (splitAt k fs).map fun x => (.group inner :: x.1, x.2)

def weight (fs : List (Form α)) : ℕ := (Form.tokensAll fs).length

lemma splitAt_eq {k : α → Bool} {fs before after : List (Form α)}
    (h : splitAt k fs = some (before, after)) : ∃ a, k a = true ∧ fs = before ++ .atom a :: after := by
  induction fs generalizing before with
  | nil => cases h
  | cons f fs ih =>
    cases f with
    | atom a =>
      rw [splitAt] at h
      split at h
      case isTrue ha =>
        cases h
        exact ⟨a, ha, rfl⟩
      case isFalse =>
        obtain ⟨⟨x, y⟩, hx, heq⟩ := Option.map_eq_some_iff.mp h
        cases heq
        obtain ⟨b, hb, rfl⟩ := ih hx
        exact ⟨b, hb, rfl⟩
    | group inner =>
      obtain ⟨⟨x, y⟩, hx, heq⟩ := Option.map_eq_some_iff.mp h
      cases heq
      obtain ⟨b, hb, rfl⟩ := ih hx
      exact ⟨b, hb, rfl⟩

lemma splitAt_weight {k : α → Bool} {fs before after : List (Form α)}
    (h : splitAt k fs = some (before, after)) : weight before < weight fs ∧ weight after < weight fs := by
  obtain ⟨a, -, rfl⟩ := splitAt_eq h
  simp only [weight, Form.tokensAll_append, Form.tokensAll_cons, Form.tokens, List.length_append,
    List.length_singleton]
  omega

variable (K : Operators α)

/-- The condition of a text, `none` where an operand is missing. -/
def parse (fs : List (Form α)) : Option (Cond α) :=
  match _h : splitAt K.isOr fs with
  | some (x, y) => (parse x).bind fun c => (parse y).map fun d => .or c d
  | none =>
    match _h' : splitAt K.isAnd fs with
    | some (x, y) => (parse x).bind fun c => (parse y).map fun d => .and c d
    | none =>
      match _hf : fs with
      | [] => none
      | [.group inner] => parse inner
      | .atom a :: rest =>
        if K.isNot a then (parse rest).map .not else some (.operand (.atom a :: rest))
      | f :: rest => some (.operand (f :: rest))
  termination_by weight fs
  decreasing_by
  · exact (splitAt_weight _h).1
  · exact (splitAt_weight _h).2
  · exact (splitAt_weight _h').1
  · exact (splitAt_weight _h').2
  · simp [weight, Form.tokens]
  · simp [weight, Form.tokens]

section Values

variable {K : Operators α} {v : List (Form α) → Truth} {fs gs xs ys : List (Form α)} {s t : Truth}

/-- The truth of a text, where `v` is that of its operands. -/
def value (K : Operators α) (v : List (Form α) → Truth) (fs : List (Form α)) : Option Truth :=
  (parse K fs).map (eval v)

lemma splitAt_append {k : α → Bool} :
    splitAt k (fs ++ gs) = match splitAt k fs with
      | some (x, y) => some (x, y ++ gs)
      | none => (splitAt k gs).map fun x => (fs ++ x.1, x.2) := by
  induction fs with
  | nil =>
    rw [List.nil_append, splitAt]
    cases splitAt k gs <;> rfl
  | cons f fs ih =>
    cases f with
    | atom a =>
      rw [List.cons_append, splitAt, splitAt, ih]
      split
      · rfl
      · rcases splitAt k fs with _ | x <;> cases splitAt k gs <;> rfl
    | group inner =>
      rw [List.cons_append, splitAt, splitAt, ih]
      rcases splitAt k fs with _ | x <;> cases splitAt k gs <;> rfl

lemma splitAt_none_append {k : α → Bool} :
    splitAt k (fs ++ gs) = none ↔ splitAt k fs = none ∧ splitAt k gs = none := by
  rw [splitAt_append]
  cases splitAt k fs <;> simp

lemma value_or (h : splitAt K.isOr fs = some (xs, ys)) :
    value K v fs = (value K v xs).bind fun s => (value K v ys).map fun t => s.or t := by
  rw [value, parse, value, value]
  split
  case h_1 x y hxy =>
    cases h.symm.trans hxy
    cases parse K xs <;> cases parse K ys <;> rfl
  case h_2 hnone => cases h.symm.trans hnone

lemma value_and (ho : splitAt K.isOr fs = none) (h : splitAt K.isAnd fs = some (xs, ys)) :
    value K v fs = (value K v xs).bind fun s => (value K v ys).map fun t => s.and t := by
  rw [value, parse, value, value]
  split
  case h_1 x y hxy => cases ho.symm.trans hxy
  case h_2 =>
    split
    case h_1 x y hxy =>
      cases h.symm.trans hxy
      cases parse K xs <;> cases parse K ys <;> rfl
    case h_2 hnone => cases h.symm.trans hnone

lemma value_group (inner : List (Form α)) : value K v [.group inner] = value K v inner := by
  rw [value, parse, value]
  rfl

lemma value_not {a : α} (hn : K.isNot a = true) (ho : splitAt K.isOr (.atom a :: fs) = none)
    (ha : splitAt K.isAnd (.atom a :: fs) = none) :
    value K v (.atom a :: fs) = (value K v fs).map Truth.not := by
  rw [value, parse, value]
  split
  case h_1 x y hxy => cases ho.symm.trans hxy
  case h_2 =>
    split
    case h_1 x y hxy => cases ha.symm.trans hxy
    case h_2 =>
      simp only [hn, if_true, Option.map_map]
      rfl

lemma value_operand {f g : Form α} (ho : splitAt K.isOr (f :: g :: fs) = none)
    (ha : splitAt K.isAnd (f :: g :: fs) = none) (hn : ∀ a, f = .atom a → K.isNot a = false) :
    value K v (f :: g :: fs) = some (v (f :: g :: fs)) := by
  rw [value, parse]
  split
  case h_1 x y hxy => cases ho.symm.trans hxy
  case h_2 =>
    split
    case h_1 x y hxy => cases ha.symm.trans hxy
    case h_2 =>
      cases f with
      | atom a =>
        simp only [hn a rfl, Bool.false_eq_true, if_false]
        rfl
      | group inner => rfl

lemma splitAt_none {k : α → Bool} (h : ∀ a, Form.atom a ∈ fs → k a = false) : splitAt k fs = none := by
  cases hs : splitAt k fs with
  | none => rfl
  | some x =>
    obtain ⟨a, ha, hfs⟩ := splitAt_eq hs
    have hfree := h a (hfs ▸ List.mem_append_right _ List.mem_cons_self)
    rw [ha] at hfree
    cases hfree

/-- A conjunction that begins with a text outside of which its conjunctions are grouped. -/
lemma value_and_append {a : α} (hand : K.isAnd a = true) (hor : K.isOr a = false)
    (hfs : splitAt K.isOr fs = none) (hgs : splitAt K.isOr gs = none) (hs : value K v fs = some s)
    (ht : value K v gs = some t) : value K v (fs ++ .atom a :: gs) = some (s.and t) := by
  induction hn : fs.length using Nat.strong_induction_on generalizing fs s with
  | _ n ih =>
    have hgs' : splitAt K.isOr (.atom a :: gs) = none := by rw [splitAt, if_neg (by rw [hor]; nofun), hgs]; rfl
    have ho : splitAt K.isOr (fs ++ .atom a :: gs) = none := splitAt_none_append.mpr ⟨hfs, hgs'⟩
    rcases hsplit : splitAt K.isAnd fs with _ | ⟨x, y⟩
    · have hand' : splitAt K.isAnd (fs ++ .atom a :: gs) = some (fs, gs) := by
        rw [splitAt_append, hsplit, splitAt, if_pos hand]
        simp
      rw [value_and ho hand', hs, ht]
      rfl
    · have hand' : splitAt K.isAnd (fs ++ .atom a :: gs) = some (x, y ++ .atom a :: gs) := by
        rw [splitAt_append, hsplit]
      obtain ⟨b, hb, rfl⟩ := splitAt_eq hsplit
      rw [value_and hfs hsplit] at hs
      obtain ⟨p, hx, hs⟩ := Option.bind_eq_some_iff.mp hs
      obtain ⟨q, hy, rfl⟩ := Option.map_eq_some_iff.mp hs
      have hyo : splitAt K.isOr y = none := by
        have htail := (splitAt_none_append.mp hfs).2
        rw [splitAt] at htail
        split at htail
        · cases htail
        · exact Option.map_eq_none_iff.mp htail
      have hlt : y.length < n := by
        rw [← hn]
        simp
        omega
      rw [value_and ho hand', hx, ih y.length hlt hyo hy rfl]
      simp [Truth.and_assoc]

/-- A disjunction of two groups. -/
lemma value_or_groups {a : α} (hor : K.isOr a = true) (hs : value K v fs = some s)
    (ht : value K v gs = some t) :
    value K v [.group [.group fs, .atom a, .group gs]] = some (s.or t) := by
  have hsplit : splitAt K.isOr [.group fs, .atom a, .group gs] = some ([.group fs], [.group gs]) := by
    rw [splitAt, splitAt, if_pos hor]
    rfl
  rw [value_group, value_or hsplit, value_group, value_group, hs, ht]
  rfl

end Values

end Cond

end Foundations
