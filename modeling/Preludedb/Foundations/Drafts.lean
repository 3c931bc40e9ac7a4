import Mathlib.Tactic

/-! Texts that are written piece by piece, by steps that change a state. Any step may fail, and a
write that fails may leave the front of its text; what was written before stays. -/

namespace Foundations

/-- The steps that fail, by their numbers, and how much of its text such a step has written. -/
abbrev Faults := ℕ → Option ℕ

structure Drafted (σ τ : Type) where
  done : Bool
  text : List τ
  state : σ
  clock : ℕ

def Draft (σ τ : Type) := Faults → ℕ → σ → Drafted σ τ

namespace Draft

variable {σ τ : Type}

def skip : Draft σ τ := fun _ n s => ⟨true, [], s, n⟩

def put (t : List τ) : Draft σ τ := fun faults n s =>
  match faults n with
  | none => ⟨true, t, s, n + 1⟩
  | some k => ⟨false, t.take k, s, n + 1⟩

/-- A step that writes nothing. -/
def allocate : Draft σ τ := put []

/-- A change of the state, or an error that leaves it. -/
def change (f : σ → Option σ) : Draft σ τ := fun _ n s =>
  match f s with
  | none => ⟨false, [], s, n⟩
  | some s' => ⟨true, [], s', n⟩

def given (k : σ → Draft σ τ) : Draft σ τ := fun faults n s => k s faults n s

def andThen (w w' : Draft σ τ) : Draft σ τ := fun faults n s =>
  let r := w faults n s
  if r.done then
    let r' := w' faults r.clock r.state
    ⟨r'.done, r.text ++ r'.text, r'.state, r'.clock⟩
  else r

/-- The first result is not looked at. -/
def ignoring (w w' : Draft σ τ) : Draft σ τ := fun faults n s =>
  let r := w faults n s
  let r' := w' faults r.clock r.state
  ⟨r'.done, r.text ++ r'.text, r'.state, r'.clock⟩

/-- The second result is not looked at. -/
def followed (w w' : Draft σ τ) : Draft σ τ := fun faults n s =>
  let r := w faults n s
  let r' := w' faults r.clock r.state
  ⟨r.done, r.text ++ r'.text, r'.state, r'.clock⟩

/-- What goes on with a text of its own, which is lost when it cannot be written. -/
def into (w : Draft σ τ) (k : List τ → Draft σ τ) : Draft σ τ := fun faults n s =>
  let r := w faults n s
  if r.done then k r.text faults r.clock r.state else ⟨false, [], r.state, r.clock⟩

/-- Nothing is written of a text that cannot be built. -/
def putOk {ε : Type} : Except ε (List τ) → Draft σ τ
  | .error _ => fun _ n s => ⟨false, [], s, n⟩
  | .ok t => put t

end Draft

/-- What may be written in a state, where states are extended by the steps. -/
structure Vocabulary (σ τ : Type) where
  Valid : σ → Prop
  Extends : σ → σ → Prop
  Allows : σ → τ → Prop
  refl (s : σ) : Extends s s
  trans {s s' s'' : σ} : Extends s s' → Extends s' s'' → Extends s s''
  mono {s s' : σ} {x : τ} : Extends s s' → Allows s x → Allows s' x

namespace Draft

variable {σ τ : Type} {V : Vocabulary σ τ} {s : σ} {w w' : Draft σ τ} {t : List τ}

/-- Whatever fails, the state stays valid and allows what was written. -/
def Keeps (V : Vocabulary σ τ) (s : σ) (w : Draft σ τ) : Prop := ∀ faults n,
  V.Valid (w faults n s).state ∧ V.Extends s (w faults n s).state ∧
    ∀ x ∈ (w faults n s).text, V.Allows (w faults n s).state x

lemma allocate_andThen {faults : Faults} {n : ℕ} (h : faults n = none) (w : Draft σ τ) :
    allocate.andThen w faults n s = w faults (n + 1) s := by
  rw [andThen, allocate, put, h]
  rfl

lemma allocate_andThen_fails {faults : Faults} {n k : ℕ} (h : faults n = some k) (w : Draft σ τ) :
    allocate.andThen w faults n s = ⟨false, [], s, n + 1⟩ := by
  have hput : (allocate : Draft σ τ) faults n s = ⟨false, [], s, n + 1⟩ := by simp [allocate, put, h]
  rw [andThen, hput]
  rfl

lemma change_andThen {f : σ → Option σ} {s' : σ} (h : f s = some s') (w : Draft σ τ) (faults : Faults) (n : ℕ) :
    (change f).andThen w faults n s = w faults n s' := by
  rw [andThen, change, h]
  rfl

lemma change_andThen_fails {f : σ → Option σ} (h : f s = none) (w : Draft σ τ) (faults : Faults) (n : ℕ) :
    (change f).andThen w faults n s = ⟨false, [], s, n⟩ := by
  rw [andThen, change, h]
  rfl

lemma allocate_state (faults : Faults) (n : ℕ) : ((allocate : Draft σ τ) faults n s).state = s := by
  unfold allocate put
  split <;> rfl

lemma keeps_nothing (hs : V.Valid s) {faults : Faults} {n m : ℕ} {done : Bool}
    (h : w faults n s = ⟨done, [], s, m⟩) : V.Valid (w faults n s).state ∧ V.Extends s (w faults n s).state ∧
      ∀ x ∈ (w faults n s).text, V.Allows (w faults n s).state x := by
  rw [h]
  exact ⟨hs, V.refl s, fun x hx => absurd hx List.not_mem_nil⟩

lemma Keeps.skip (hs : V.Valid s) : (skip : Draft σ τ).Keeps V s := fun _ _ => keeps_nothing hs rfl

lemma Keeps.put (hs : V.Valid s) (ht : ∀ x ∈ t, V.Allows s x) : (put t : Draft σ τ).Keeps V s := by
  intro faults n
  unfold Draft.put
  split
  · exact ⟨hs, V.refl s, ht⟩
  · exact ⟨hs, V.refl s, fun x hx => ht x (List.mem_of_mem_take hx)⟩

lemma Keeps.allocate (hs : V.Valid s) : (allocate : Draft σ τ).Keeps V s :=
  .put hs fun _ hx => absurd hx List.not_mem_nil

lemma Keeps.putOk {ε : Type} {x : Except ε (List τ)} (hs : V.Valid s)
    (hx : ∀ t, x = .ok t → ∀ y ∈ t, V.Allows s y) : (putOk x : Draft σ τ).Keeps V s := by
  cases x with
  | error e => exact fun _ _ => keeps_nothing hs rfl
  | ok t => exact .put hs (hx t rfl)

lemma Keeps.change {f : σ → Option σ} (hs : V.Valid s) (hf : ∀ s', f s = some s' → V.Valid s' ∧ V.Extends s s') :
    (change f : Draft σ τ).Keeps V s := by
  intro faults n
  unfold Draft.change
  split
  · exact ⟨hs, V.refl s, fun x hx => absurd hx List.not_mem_nil⟩
  · rename_i s' hs'
    exact ⟨(hf s' hs').1, (hf s' hs').2, fun x hx => absurd hx List.not_mem_nil⟩

lemma Keeps.given {k : σ → Draft σ τ} (h : (k s).Keeps V s) : (given k).Keeps V s := h

/-- Two texts one after the other, whichever result is returned. -/
lemma keeps_append {r r' : Drafted σ τ} (hr : V.Valid r.state ∧ V.Extends s r.state ∧ ∀ x ∈ r.text, V.Allows r.state x)
    (hr' : V.Valid r'.state ∧ V.Extends r.state r'.state ∧ ∀ x ∈ r'.text, V.Allows r'.state x) :
    V.Valid r'.state ∧ V.Extends s r'.state ∧ ∀ x ∈ r.text ++ r'.text, V.Allows r'.state x := by
  refine ⟨hr'.1, V.trans hr.2.1 hr'.2.1, fun x hx => ?_⟩
  rcases List.mem_append.mp hx with hx | hx
  · exact V.mono hr'.2.1 (hr.2.2 x hx)
  · exact hr'.2.2 x hx

lemma Keeps.andThen_of_done (h : w.Keeps V s)
    (h' : ∀ faults n, (w faults n s).done = true → w'.Keeps V (w faults n s).state) : (w.andThen w').Keeps V s := by
  intro faults n
  have hw := h faults n
  unfold Draft.andThen
  dsimp only
  split_ifs with hdone
  · exact keeps_append hw (h' faults n hdone faults _)
  · exact hw

lemma Keeps.andThen (h : w.Keeps V s) (h' : ∀ s', V.Valid s' → V.Extends s s' → w'.Keeps V s') :
    (w.andThen w').Keeps V s := h.andThen_of_done fun faults n _ => h' _ (h faults n).1 (h faults n).2.1

lemma Keeps.ignoring (h : w.Keeps V s) (h' : ∀ s', V.Valid s' → V.Extends s s' → w'.Keeps V s') :
    (w.ignoring w').Keeps V s := fun faults n =>
  keeps_append (h faults n) (h' _ (h faults n).1 (h faults n).2.1 faults _)

lemma Keeps.followed (h : w.Keeps V s) (h' : ∀ s', V.Valid s' → V.Extends s s' → w'.Keeps V s') :
    (w.followed w').Keeps V s := fun faults n =>
  keeps_append (h faults n) (h' _ (h faults n).1 (h faults n).2.1 faults _)

lemma Keeps.into {k : List τ → Draft σ τ} (h : w.Keeps V s)
    (hk : ∀ s', V.Valid s' → V.Extends s s' → ∀ t, (∀ x ∈ t, V.Allows s' x) → (k t).Keeps V s') :
    (w.into k).Keeps V s := by
  intro faults n
  have hw := h faults n
  unfold Draft.into
  dsimp only
  split_ifs
  · obtain ⟨hvalid, hextends, htext⟩ := hk _ hw.1 hw.2.1 _ hw.2.2 faults (w faults n s).clock
    exact ⟨hvalid, V.trans hw.2.1 hextends, htext⟩
  · exact ⟨hw.1, hw.2.1, fun x hx => absurd hx List.not_mem_nil⟩

/-- Without a fault the text is written, and the state is changed. -/
def Writes (w : Draft σ τ) (s : σ) (t : List τ) (s' : σ) : Prop :=
  ∀ n, ∃ m, w (fun _ => none) n s = ⟨true, t, s', m⟩

section Writing

variable {s' s'' : σ} {t t' : List τ} {k : List τ → Draft σ τ}

lemma Writes.skip : (skip : Draft σ τ).Writes s [] s := fun n => ⟨n, rfl⟩

lemma Writes.put : (put t : Draft σ τ).Writes s t s := fun n => ⟨n + 1, rfl⟩

lemma Writes.allocate : (allocate : Draft σ τ).Writes s [] s := .put

lemma Writes.putOk {ε : Type} {x : Except ε (List τ)} (h : x = .ok t) : (putOk x : Draft σ τ).Writes s t s := by
  rw [h]
  exact .put

lemma Writes.andThen (h : w.Writes s t s') (h' : w'.Writes s' t' s'') : (w.andThen w').Writes s (t ++ t') s'' := by
  intro n
  obtain ⟨m, hm⟩ := h n
  obtain ⟨m', hm'⟩ := h' m
  refine ⟨m', ?_⟩
  rw [Draft.andThen, hm]
  simp only [hm', if_true]

lemma Writes.ignoring (h : w.Writes s t s') (h' : w'.Writes s' t' s'') : (w.ignoring w').Writes s (t ++ t') s'' := by
  intro n
  obtain ⟨m, hm⟩ := h n
  obtain ⟨m', hm'⟩ := h' m
  refine ⟨m', ?_⟩
  rw [Draft.ignoring, hm]
  simp only [hm']

lemma Writes.followed (h : w.Writes s t s') (h' : w'.Writes s' t' s'') : (w.followed w').Writes s (t ++ t') s'' := by
  intro n
  obtain ⟨m, hm⟩ := h n
  obtain ⟨m', hm'⟩ := h' m
  refine ⟨m', ?_⟩
  rw [Draft.followed, hm]
  simp only [hm']

lemma Writes.into (h : w.Writes s t s') (h' : (k t).Writes s' t' s'') : (w.into k).Writes s t' s'' := by
  intro n
  obtain ⟨m, hm⟩ := h n
  obtain ⟨m', hm'⟩ := h' m
  refine ⟨m', ?_⟩
  rw [Draft.into, hm]
  simp only [hm', if_true]

end Writing

end Draft

end Foundations
