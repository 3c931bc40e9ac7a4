import Preludedb.Foundations.Programs

/-! Two programs run side by side, each in its own environment, that read without writing: they
agree when their outcomes are related, the errors by equality. -/

namespace Foundations

/-- Outcomes with related values or the same error. -/
inductive Related {ε α β : Type} (post : α → β → Prop) : Except ε α → Except ε β → Prop
  | ok {a : α} {b : β} (h : post a b) : Related post (.ok a) (.ok b)
  | error (e : ε) : Related post (.error e) (.error e)

lemma Related.eq {ε α : Type} {x y : Except ε α} (h : Related Eq x y) : x = y := by
  cases h with
  | ok h => rw [h]
  | error e => rfl

lemma Related.refl {ε α : Type} (x : Except ε α) : Related Eq x x := by
  cases x with
  | ok a => exact .ok rfl
  | error e => exact .error e

lemma Related.mono {ε α β : Type} {post post' : α → β → Prop} {x : Except ε α} {y : Except ε β}
    (h : Related post x y) (hp : ∀ a b, post a b → post' a b) : Related post' x y := by
  cases h with
  | ok hab => exact .ok (hp _ _ hab)
  | error e => exact .error e

namespace Program

variable {Req ε σ τ α α' β β' : Type} {Res : Req → Type}
  {handle : (r : Req) → σ → Except ε (Res r) × σ} {handle' : (r : Req) → τ → Except ε (Res r) × τ}
  {s : σ} {t : τ}

/-- Programs with equal runs, followed by programs with equal runs. -/
lemma run_bind_congr {p q : Program Req ε Res α} {f g : α → Program Req ε Res β}
    (h : p.run handle s = q.run handle s) (hfg : ∀ a s, (f a).run handle s = (g a).run handle s) :
    (p >>= f).run handle s = (q >>= g).run handle s := by
  rw [run_bind, run_bind, h]
  rcases q.run handle s with ⟨e | a, s'⟩
  · rfl
  · exact hfg a s'

structure Agree (handle : (r : Req) → σ → Except ε (Res r) × σ)
    (handle' : (r : Req) → τ → Except ε (Res r) × τ) (s : σ) (t : τ) (post : α → β → Prop)
    (p : Program Req ε Res α) (q : Program Req ε Res β) : Prop where
  left : (p.run handle s).2 = s
  right : (q.run handle' t).2 = t
  outcomes : Related post (p.run handle s).1 (q.run handle' t).1

lemma Agree.done {post : α → β → Prop} {a : α} {b : β} (h : post a b) :
    Agree handle handle' s t post (.done a) (.done b) :=
  ⟨rfl, rfl, .ok h⟩

lemma Agree.fail {post : α → β → Prop} (e : ε) :
    Agree handle handle' s t post (.fail e) (.fail e) :=
  ⟨rfl, rfl, .error e⟩

lemma Agree.call {r r' : Req} {post : Res r → Res r' → Prop} (hs : (handle r s).2 = s)
    (ht : (handle' r' t).2 = t) (h : Related post (handle r s).1 (handle' r' t).1) :
    Agree handle handle' s t post (.call r) (.call r') := by
  constructor
  · rw [run_call, hs]
  · rw [run_call, ht]
  · rw [run_call, run_call]
    exact h

lemma Agree.ofExcept {post : α → β → Prop} {x : Except ε α} {y : Except ε β} (h : Related post x y) :
    Agree handle handle' s t post (Program.ofExcept x) (Program.ofExcept y) := by
  cases h with
  | ok h => exact .done h
  | error e => exact .fail e

lemma Agree.bind {post : α → β → Prop} {post' : α' → β' → Prop} {p : Program Req ε Res α}
    {q : Program Req ε Res β} {f : α → Program Req ε Res α'} {g : β → Program Req ε Res β'}
    (h : Agree handle handle' s t post p q)
    (hfg : ∀ a b, post a b → Agree handle handle' s t post' (f a) (g b)) :
    Agree handle handle' s t post' (p >>= f) (q >>= g) := by
  obtain ⟨hs, ht, ho⟩ := h
  rcases hp : p.run handle s with ⟨x, s'⟩
  rcases hq : q.run handle' t with ⟨y, t'⟩
  rw [hp] at hs ho
  rw [hq] at ht ho
  obtain rfl : s' = s := hs
  obtain rfl : t' = t := ht
  cases ho with
  | @ok a b h =>
    have hf := hfg a b h
    constructor
    · rw [run_bind, hp]
      exact hf.left
    · rw [run_bind, hq]
      exact hf.right
    · rw [run_bind, run_bind, hp, hq]
      exact hf.outcomes
  | error e =>
    constructor
    · rw [run_bind, hp]
    · rw [run_bind, hq]
    · rw [run_bind, run_bind, hp, hq]
      exact .error e

/-- The same value goes on to both programs. -/
lemma Agree.next {post : α' → β' → Prop} {p q : Program Req ε Res α}
    {f : α → Program Req ε Res α'} {g : α → Program Req ε Res β'}
    (h : Agree handle handle' s t Eq p q)
    (hfg : ∀ a, Agree handle handle' s t post (f a) (g a)) :
    Agree handle handle' s t post (p >>= f) (q >>= g) :=
  h.bind fun a b hab => by
    subst hab
    exact hfg a

lemma Agree.attempt {post : α → β → Prop} {p : Program Req ε Res α} {q : Program Req ε Res β}
    (h : Agree handle handle' s t post p q) :
    Agree handle handle' s t (Related post) p.attempt q.attempt := by
  constructor
  · rw [run_attempt]
    exact h.left
  · rw [run_attempt]
    exact h.right
  · rw [run_attempt, run_attempt]
    exact .ok h.outcomes

lemma Agree.congr {post : α → β → Prop} {p p' : Program Req ε Res α} {q q' : Program Req ε Res β}
    (h : Agree handle handle' s t post p q) (hp : p'.run handle s = p.run handle s)
    (hq : q'.run handle' t = q.run handle' t) : Agree handle handle' s t post p' q' := by
  constructor
  · rw [hp, h.left]
  · rw [hq, h.right]
  · rw [hp, hq]
    exact h.outcomes

lemma Agree.mono {post post' : α → β → Prop} {p : Program Req ε Res α} {q : Program Req ε Res β}
    (h : Agree handle handle' s t post p q) (hp : ∀ a b, post a b → post' a b) :
    Agree handle handle' s t post' p q :=
  ⟨h.left, h.right, h.outcomes.mono hp⟩

end Program

end Foundations
