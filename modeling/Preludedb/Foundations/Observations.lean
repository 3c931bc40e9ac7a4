import Preludedb.Foundations.Programs

/-! Programs that find something out and leave the environment as it was. -/

namespace Foundations.Program

variable {Req ε σ α β : Type} {Res : Req → Type} {handle : (r : Req) → σ → Except ε (Res r) × σ} {s : σ}

/-- The program ends with the value and leaves the environment as it was. -/
def Observes (handle : (r : Req) → σ → Except ε (Res r) × σ) (s : σ) (p : Program Req ε Res α)
    (a : α) : Prop :=
  p.run handle s = (.ok a, s)

lemma Observes.done (a : α) : Observes handle s (.done a) a := rfl

lemma Observes.call {r : Req} {x : Res r} (h : handle r s = (.ok x, s)) :
    Observes handle s (Program.call r) x :=
  (run_call handle r s).trans h

lemma Observes.ofExcept {x : Except ε α} {a : α} (h : x = .ok a) :
    Observes handle s (Program.ofExcept x) a := by
  rw [h]
  rfl

lemma Observes.bind {p : Program Req ε Res α} {f : α → Program Req ε Res β} {a : α} {b : β}
    (hp : Observes handle s p a) (hf : Observes handle s (f a) b) : Observes handle s (p >>= f) b := by
  rw [Observes] at hp hf ⊢
  rw [run_bind, hp]
  exact hf

lemma Observes.attempt {p : Program Req ε Res α} {a : α} (h : Observes handle s p a) :
    Observes handle s p.attempt (.ok a) := by
  rw [Observes] at h ⊢
  rw [run_attempt, h]

lemma Observes.unique {p : Program Req ε Res α} {a a' : α} (h : Observes handle s p a)
    (h' : Observes handle s p a') : a = a' := by
  have he : (Except.ok a : Except ε α) = .ok a' := congrArg Prod.fst (h.symm.trans h')
  cases he
  rfl

lemma Observes.after {p : Program Req ε Res α} {f : α → Program Req ε Res β} {a : α} {b : β}
    (h : Observes handle s (p >>= f) b) (hp : Observes handle s p a) : Observes handle s (f a) b := by
  rw [Observes] at h hp ⊢
  rwa [run_bind, hp] at h

/-- What the first of two programs finds, when it leaves the environment alone. -/
lemma Observes.of_bind {p : Program Req ε Res α} {f : α → Program Req ε Res β} {b : β}
    (hs : (p.run handle s).2 = s) (h : Observes handle s (p >>= f) b) :
    ∃ a, Observes handle s p a ∧ Observes handle s (f a) b := by
  rw [Observes, run_bind] at h
  rcases hp : p.run handle s with ⟨e | a, s'⟩
  · rw [hp] at h
    cases h
  · rw [hp] at hs h
    obtain rfl : s' = s := hs
    exact ⟨a, hp, h⟩

end Foundations.Program
