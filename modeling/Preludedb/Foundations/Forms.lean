import Mathlib.Tactic

/-! Texts with parentheses: the tokens of one, and the forms they are read into. -/

namespace Foundations

inductive Token (α : Type)
  | atom (a : α)
  | open
  | close
  deriving DecidableEq, Repr

inductive Form (α : Type)
  | atom (a : α)
  | group (inner : List (Form α))

namespace Form

variable {α : Type}

mutual

def tokens : Form α → List (Token α)
  | .atom a => [.atom a]
  | .group inner => .open :: (tokensAll inner ++ [.close])

def tokensAll : List (Form α) → List (Token α)
  | [] => []
  | f :: fs => f.tokens ++ tokensAll fs

end

/-- Reading with the forms before each group that is still open, the innermost first. -/
def readOnto : List (Token α) → List (List (Form α)) → List (Form α) → Option (List (Form α))
  | [], [], forms => some forms.reverse
  | [], _ :: _, _ => none
  | .atom a :: ts, outer, forms => readOnto ts outer (.atom a :: forms)
  | .open :: ts, outer, forms => readOnto ts (forms :: outer) []
  | .close :: _, [], _ => none
  | .close :: ts, before :: outer, forms => readOnto ts outer (.group forms.reverse :: before)

/-- The forms of a text whose parentheses match. -/
def read (ts : List (Token α)) : Option (List (Form α)) := readOnto ts [] []

variable {fs gs : List (Form α)} {ts us : List (Token α)}

@[simp] lemma tokensAll_nil : tokensAll ([] : List (Form α)) = [] := rfl

@[simp] lemma tokensAll_cons (f : Form α) (fs : List (Form α)) :
    tokensAll (f :: fs) = f.tokens ++ tokensAll fs := rfl

@[simp] lemma tokensAll_append : tokensAll (fs ++ gs) = tokensAll fs ++ tokensAll gs := by
  induction fs with
  | nil => rfl
  | cons f fs ih => rw [List.cons_append, tokensAll_cons, tokensAll_cons, ih, List.append_assoc]

mutual

lemma readOnto_tokens : ∀ (f : Form α) (ts : List (Token α)) (outer : List (List (Form α)))
    (forms : List (Form α)), readOnto (f.tokens ++ ts) outer forms = readOnto ts outer (f :: forms)
  | .atom a, ts, outer, forms => rfl
  | .group inner, ts, outer, forms => by
    rw [tokens, List.cons_append, List.append_assoc, readOnto, readOnto_tokensAll inner]
    simp [readOnto]

lemma readOnto_tokensAll : ∀ (fs : List (Form α)) (ts : List (Token α))
    (outer : List (List (Form α))) (forms : List (Form α)),
    readOnto (tokensAll fs ++ ts) outer forms = readOnto ts outer (fs.reverse ++ forms)
  | [], ts, outer, forms => rfl
  | f :: fs, ts, outer, forms => by
    rw [tokensAll_cons, List.append_assoc, readOnto_tokens f, readOnto_tokensAll fs]
    simp

end

/-- The forms are read back from their tokens. -/
lemma read_tokensAll (fs : List (Form α)) : read (tokensAll fs) = some fs := by
  have h := readOnto_tokensAll fs [] [] []
  rw [List.append_nil, List.append_nil] at h
  rw [read, h, readOnto, List.reverse_reverse]

/-- The tokens before the rest of a text. -/
def before (outer : List (List (Form α))) (forms : List (Form α)) : List (Token α) :=
  outer.reverse.flatMap (fun o => tokensAll o.reverse ++ [.open]) ++ tokensAll forms.reverse

lemma tokensAll_of_readOnto {outer : List (List (Form α))} {forms : List (Form α)}
    (h : readOnto ts outer forms = some fs) : tokensAll fs = before outer forms ++ ts := by
  induction ts generalizing outer forms with
  | nil =>
    cases outer with
    | nil =>
      obtain rfl := Option.some.inj h
      simp [before]
    | cons o outer => cases h
  | cons t ts ih =>
    cases t with
    | atom a =>
      rw [ih h]
      simp [before, tokens]
    | «open» =>
      rw [ih h]
      simp [before]
    | close =>
      cases outer with
      | nil => cases h
      | cons o outer =>
        rw [ih h]
        simp [before, tokens]

lemma read_eq_some_iff : read ts = some fs ↔ ts = tokensAll fs := by
  constructor
  · intro h
    exact (tokensAll_of_readOnto h).symm
  · rintro rfl
    exact read_tokensAll fs

/-- What is read after whole forms is read as if it stood alone. -/
lemma readOnto_bottom (ts : List (Token α)) (bottom : List (Form α)) :
    (∀ forms, readOnto ts [] (forms ++ bottom) =
      (readOnto ts [] forms).map (bottom.reverse ++ ·)) ∧
    ∀ outer o forms, readOnto ts (outer ++ [o ++ bottom]) forms =
      (readOnto ts (outer ++ [o]) forms).map (bottom.reverse ++ ·) := by
  induction ts with
  | nil =>
    constructor
    · intro forms
      simp [readOnto]
    · intro outer o forms
      cases outer <;> rfl
  | cons t ts ih =>
    obtain ⟨hempty, houter⟩ := ih
    cases t with
    | atom a =>
      exact ⟨fun forms => hempty (.atom a :: forms), fun outer o forms => houter outer o _⟩
    | «open» =>
      exact ⟨fun forms => houter [] forms [], fun outer o forms => houter (forms :: outer) o []⟩
    | close =>
      refine ⟨fun forms => rfl, fun outer o forms => ?_⟩
      cases outer with
      | nil => exact hempty (.group forms.reverse :: o)
      | cons before outer => exact houter outer o _

lemma read_append : read (tokensAll fs ++ ts) = (read ts).map (fs ++ ·) := by
  have h := (readOnto_bottom ts fs.reverse).1 []
  rw [read, readOnto_tokensAll, List.append_nil]
  rwa [List.nil_append, List.reverse_reverse] at h

section Made

def Whole (ts : List (Token α)) : Prop := ∃ fs, ts = tokensAll fs

lemma Whole.append (h : Whole ts) (h' : Whole us) : Whole (ts ++ us) := by
  obtain ⟨fs, rfl⟩ := h
  obtain ⟨gs, rfl⟩ := h'
  exact ⟨fs ++ gs, tokensAll_append.symm⟩

/-- The text is one of whole forms, whose atoms outside of the groups satisfy the predicate. -/
def Made (P : α → Prop) (ts : List (Token α)) : Prop :=
  ∃ fs, ts = tokensAll fs ∧ fs ≠ [] ∧ ∀ a, Form.atom a ∈ fs → P a

variable {P Q : α → Prop}

lemma Made.append (h : Made P ts) (h' : Made P us) : Made P (ts ++ us) := by
  obtain ⟨fs, rfl, hne, hfs⟩ := h
  obtain ⟨gs, rfl, -, hgs⟩ := h'
  refine ⟨fs ++ gs, tokensAll_append.symm, fun h => hne (List.append_eq_nil_iff.mp h).1, ?_⟩
  intro a ha
  rcases List.mem_append.mp ha with ha | ha
  · exact hfs a ha
  · exact hgs a ha

lemma Made.whole (h : Made P ts) : Whole ts := by
  obtain ⟨fs, rfl, -, -⟩ := h
  exact ⟨fs, rfl⟩

lemma Made.mono (h : Made P ts) (hPQ : ∀ a, P a → Q a) : Made Q ts := by
  obtain ⟨fs, rfl, hne, hfs⟩ := h
  exact ⟨fs, rfl, hne, fun a ha => hPQ a (hfs a ha)⟩

lemma Made.of_atoms {as : List α} (hne : as ≠ []) (h : ∀ a ∈ as, P a) : Made P (as.map .atom) := by
  refine ⟨as.map .atom, ?_, by simpa using hne, ?_⟩
  · clear hne h
    induction as with
    | nil => rfl
    | cons a as ih =>
      rw [List.map_cons, List.map_cons, tokensAll_cons, ih]
      rfl
  · intro a ha
    obtain ⟨b, hb, hba⟩ := List.mem_map.mp ha
    cases hba
    exact h _ hb

lemma Made.atom {a : α} (h : P a) : Made P [.atom a] :=
  ⟨[.atom a], rfl, List.cons_ne_nil _ _, fun b hb => by
    cases List.mem_singleton.mp hb
    exact h⟩

lemma Made.group (h : Whole ts) : Made P (.open :: (ts ++ [.close])) := by
  obtain ⟨fs, rfl⟩ := h
  refine ⟨[.group fs], by simp [tokens], by simp, ?_⟩
  intro a ha
  cases List.mem_singleton.mp ha

end Made

section Segments

variable {k : α → Bool}

/-- The forms between the separators. -/
def segments (k : α → Bool) : List (Form α) → List (List (Form α))
  | [] => [[]]
  | .atom a :: fs =>
    if k a then [] :: segments k fs
    else ((segments k fs).head?.getD []).cons (.atom a) :: (segments k fs).tail
  | .group inner :: fs => ((segments k fs).head?.getD []).cons (.group inner) :: (segments k fs).tail

def countSegments (k : α → Bool) (fs : List (Form α)) : Option ℕ :=
  if (segments k fs).any List.isEmpty then none else some (segments k fs).length

/-- The number of items in a list of them, `none` where an item is missing. -/
def items (k : α → Bool) (ts : List (Token α)) : Option ℕ :=
  (read ts).bind fun fs => if fs.isEmpty then some 0 else countSegments k fs

lemma segments_ne_nil : segments k fs ≠ [] := by
  rcases fs with _ | ⟨a | inner, fs⟩
  · exact List.cons_ne_nil _ _
  · rw [segments]
    split <;> exact List.cons_ne_nil _ _
  · exact List.cons_ne_nil _ _

lemma segments_append {a : α} (ha : k a = true) :
    segments k (fs ++ .atom a :: gs) = segments k fs ++ segments k gs := by
  induction fs with
  | nil => simp [segments, ha]
  | cons f fs ih =>
    rcases hs : segments k fs with _ | ⟨x, xs⟩
    · exact absurd hs segments_ne_nil
    · rcases f with b | inner
      · rw [List.cons_append, segments, segments, ih, hs]
        split <;> rfl
      · rw [List.cons_append, segments, segments, ih, hs]
        rfl

lemma segments_of_free (h : ∀ a, Form.atom a ∈ fs → k a = false) : segments k fs = [fs] := by
  induction fs with
  | nil => rfl
  | cons f fs ih =>
    have htail := ih fun a ha => h a (List.mem_cons_of_mem _ ha)
    rcases f with a | inner
    · rw [segments, if_neg (by rw [h a List.mem_cons_self]; nofun), htail]
      rfl
    · rw [segments, htail]
      rfl

lemma Made.items (h : Made (fun a => k a = false) ts) : items k ts = some 1 := by
  obtain ⟨fs, rfl, hne, hfs⟩ := h
  rw [Form.items, read_tokensAll, Option.bind_some, countSegments, segments_of_free hfs]
  cases fs with
  | nil => exact absurd rfl hne
  | cons f fs => rfl

lemma countSegments_append {a : α} (ha : k a = true) : countSegments k (fs ++ .atom a :: gs) =
    (countSegments k fs).bind fun n => (countSegments k gs).map fun m => n + m := by
  rw [countSegments, countSegments, countSegments, segments_append ha, List.any_append,
    List.length_append]
  cases (segments k fs).any List.isEmpty <;> cases (segments k gs).any List.isEmpty <;> rfl

lemma countSegments_ne_zero : countSegments k fs ≠ some 0 := by
  rw [countSegments]
  split
  · nofun
  · exact fun h => segments_ne_nil (List.length_eq_zero_iff.mp (Option.some.inj h))

lemma items_ne_zero {n : ℕ} (hn : items k ts = some n) (hts : ts ≠ []) : n ≠ 0 := by
  rintro rfl
  obtain ⟨fs, hfs, hcount⟩ := Option.bind_eq_some_iff.mp hn
  obtain rfl := read_eq_some_iff.mp hfs
  cases fs with
  | nil => exact hts rfl
  | cons f fs => exact countSegments_ne_zero hcount

/-- The items of a list that is continued with another. -/
lemma items_append {a : α} {n m : ℕ} (ha : k a = true) (hn : items k ts = some n) (hn0 : n ≠ 0) :
    items k (ts ++ .atom a :: us) = some (n + m) ↔ items k us = some m ∧ m ≠ 0 := by
  obtain ⟨fs, hfs, hcount⟩ := Option.bind_eq_some_iff.mp hn
  obtain rfl := read_eq_some_iff.mp hfs
  have hread : read (tokensAll fs ++ .atom a :: us) =
      (read us).map fun gs => fs ++ .atom a :: gs := by
    rw [read_append, show Token.atom a :: us = tokensAll [.atom a] ++ us from rfl, read_append,
      Option.map_map]
    rfl
  have hcount' : countSegments k fs = some n := by
    split at hcount
    · exact absurd (Option.some.inj hcount).symm hn0
    · exact hcount
  rw [items, hread, items]
  cases hus : read us with
  | none => simp
  | some gs =>
    have hne : (fs ++ .atom a :: gs).isEmpty = false := by simp
    rw [Option.map_some, Option.bind_some, Option.bind_some, hne, if_neg nofun,
      countSegments_append ha, hcount', Option.bind_some]
    cases gs with
    | nil =>
      constructor
      · nofun
      · rintro ⟨h, h'⟩
        exact absurd (Option.some.inj h).symm h'
    | cons g gs =>
      have hpos : countSegments k (g :: gs) ≠ some 0 := countSegments_ne_zero
      rw [List.isEmpty_cons, if_neg nofun]
      cases hg : countSegments k (g :: gs) with
      | none => simp
      | some l =>
        rw [hg] at hpos
        simp only [Option.map_some, Option.some.injEq]
        have hl : l ≠ 0 := fun h => hpos (congrArg some h)
        omega

end Segments

end Form

end Foundations
