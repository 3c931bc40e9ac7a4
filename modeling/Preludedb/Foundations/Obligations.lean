import Preludedb.Foundations.Programs

/-! Properties of every state along the run of a program, under a condition on the requests it
makes, and the rules by which they are shown for a program piece by piece. -/

namespace Foundations.Program

variable {Req ε σ α β : Type} {Res : Req → Type}
  {handle : (r : Req) → σ → Except ε (Res r) × σ}

def Always (handle : (r : Req) → σ → Except ε (Res r) × σ) (I : σ → Prop) :
    Program Req ε Res α → σ → Prop
  | .done _, s => I s
  | .fail _, s => I s
  | .request r k, s => I s ∧ (k (handle r s).1).Always handle I (handle r s).2

/-- Every request is made in a state that meets `G`. -/
def Along (handle : (r : Req) → σ → Except ε (Res r) × σ) (G : Req → σ → Prop) :
    Program Req ε Res α → σ → Prop
  | .done _, _ => True
  | .fail _, _ => True
  | .request r k, s => G r s ∧ (k (handle r s).1).Along handle G (handle r s).2

instance decidableAlong {G : Req → σ → Prop} [D : ∀ r s, Decidable (G r s)] :
    ∀ (p : Program Req ε Res α) (s : σ), Decidable (p.Along handle G s)
  | .done _, _ => .isTrue trivial
  | .fail _, _ => .isTrue trivial
  | .request r k, s =>
    @instDecidableAnd _ _ (D r s) (decidableAlong (k (handle r s).1) (handle r s).2)

/-- As long as the requests meet `G`, every state meets `I` and the end meets `post`. -/
def Secures (handle : (r : Req) → σ → Except ε (Res r) × σ) (G : Req → σ → Prop) (I : σ → Prop)
    (post : Except ε α → σ → Prop) : Program Req ε Res α → σ → Prop
  | .done a, s => I s ∧ post (.ok a) s
  | .fail e, s => I s ∧ post (.error e) s
  | .request r k, s => I s ∧ (G r s → (k (handle r s).1).Secures handle G I post (handle r s).2)

variable {G : Req → σ → Prop} {I : σ → Prop} {s : σ}

lemma Always.last {p : Program Req ε Res α} (h : p.Always handle I s) : I (p.run handle s).2 := by
  induction p generalizing s with
  | done a | fail e => exact h
  | request r k ih => exact ih _ h.2

lemma Secures.always {post : Except ε α → σ → Prop} {p : Program Req ε Res α}
    (h : p.Secures handle G I post s) (hg : p.Along handle G s) : p.Always handle I s := by
  induction p generalizing s with
  | done a | fail e => exact h.1
  | request r k ih => exact ⟨h.1, ih _ (h.2 hg.1) hg.2⟩

lemma Secures.mono {post post' : Except ε α → σ → Prop} (hpost : ∀ x s, post x s → post' x s)
    {p : Program Req ε Res α} (h : p.Secures handle G I post s) : p.Secures handle G I post' s := by
  induction p generalizing s with
  | done a | fail e => exact ⟨h.1, hpost _ _ h.2⟩
  | request r k ih => exact ⟨h.1, fun hg => ih _ (h.2 hg)⟩

lemma Secures.bind {mid : Except ε α → σ → Prop} {post : Except ε β → σ → Prop}
    {p : Program Req ε Res α} {f : α → Program Req ε Res β} (h : p.Secures handle G I mid s)
    (hok : ∀ a s, I s → mid (.ok a) s → (f a).Secures handle G I post s)
    (herr : ∀ e s, mid (.error e) s → post (.error e) s) :
    (p >>= f).Secures handle G I post s := by
  induction p generalizing s with
  | done a => exact hok a s h.1 h.2
  | fail e => exact ⟨h.1, herr e s h.2⟩
  | request r k ih => exact ⟨h.1, fun hg => ih _ (h.2 hg)⟩

lemma Secures.tried {r : Req} {f : Except ε (Res r) → Program Req ε Res β}
    {post : Except ε β → σ → Prop} (hs : I s)
    (h : G r s → (f (handle r s).1).Secures handle G I post (handle r s).2) :
    ((Program.call r).attempt >>= f).Secures handle G I post s := by
  refine ⟨hs, fun hg => ?_⟩
  have hend := h hg
  rcases hr : handle r s with ⟨e | a, s'⟩ <;>
  · rw [hr] at hend
    exact hend

lemma Secures.attempt {post : Except ε (Except ε α) → σ → Prop} {p : Program Req ε Res α}
    (h : p.Secures handle G I (fun x s => post (.ok x) s) s) :
    p.attempt.Secures handle G I post s := by
  induction p generalizing s with
  | done a | fail e => exact h
  | request r k ih => exact ⟨h.1, fun hg => ih _ (h.2 hg)⟩

lemma Secures.call {r : Req} {post : Except ε (Res r) → σ → Prop} (hs : I s)
    (h : G r s → I (handle r s).2 ∧ post (handle r s).1 (handle r s).2) :
    (Program.call r).Secures handle G I post s := by
  refine ⟨hs, fun hg => ?_⟩
  have hend := h hg
  rcases hr : handle r s with ⟨e | a, s'⟩ <;>
  · rw [hr] at hend
    exact hend

lemma Secures.ends {post : Except ε α → σ → Prop} {p : Program Req ε Res α}
    (h : p.Secures handle G I post s) (hg : p.Along handle G s) :
    post (p.run handle s).1 (p.run handle s).2 := by
  induction p generalizing s with
  | done a | fail e => exact h.2
  | request r k ih => exact ih _ (h.2 hg.1) hg.2

lemma along_of_forall (hG : ∀ r s, G r s) (p : Program Req ε Res α) (s : σ) : p.Along handle G s := by
  induction p generalizing s with
  | done a | fail e => trivial
  | request r k ih => exact ⟨hG r s, ih _ _⟩

/-- Whatever the answers, a value that is returned meets `Q`. -/
def Yields (Q : α → Prop) : Program Req ε Res α → Prop
  | .done a => Q a
  | .fail _ => True
  | .request _ k => ∀ x, (k x).Yields Q

lemma Yields.bind {Q : α → Prop} {Q' : β → Prop} {p : Program Req ε Res α} {f : α → Program Req ε Res β}
    (hp : p.Yields Q) (hf : ∀ a, Q a → (f a).Yields Q') : (p >>= f).Yields Q' := by
  induction p with
  | done a => exact hf a hp
  | fail e => trivial
  | request r k ih => exact fun x => ih x (hp x)

lemma yields_any (p : Program Req ε Res α) : p.Yields fun _ => True := by
  induction p with
  | done a | fail e => trivial
  | request r k ih => exact fun x => ih x

lemma Yields.run {Q : α → Prop} {p : Program Req ε Res α} (hp : p.Yields Q) {a : α}
    (ha : (p.run handle s).1 = .ok a) : Q a := by
  induction p generalizing s with
  | done b =>
    cases ha
    exact hp
  | fail e => cases ha
  | request r k ih => exact ih _ (hp _) ha

/-- The handler that keeps the requests it has been given. -/
def logged (handle : (r : Req) → σ → Except ε (Res r) × σ) (r : Req) (s : σ × List Req) :
    Except ε (Res r) × (σ × List Req) :=
  ((handle r s.1).1, (handle r s.1).2, s.2 ++ [r])

lemma run_logged (p : Program Req ε Res α) (s : σ) (log : List Req) :
    (p.run (logged handle) (s, log)).1 = (p.run handle s).1 ∧
      (p.run (logged handle) (s, log)).2.1 = (p.run handle s).2 := by
  induction p generalizing s log with
  | done a | fail e => exact ⟨rfl, rfl⟩
  | request r k ih => exact ih _ _ _

/-- The requests of a run, in order. -/
def requests (handle : (r : Req) → σ → Except ε (Res r) × σ) (p : Program Req ε Res α) (s : σ) :
    List Req :=
  (p.run (logged handle) (s, [])).2.2

end Foundations.Program
