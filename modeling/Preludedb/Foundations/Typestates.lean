import Preludedb.Foundations.Programs

/-! Programs that follow a typestate: each request is allowed in the state its predecessors and
their replies led to, whatever the environment answers. -/

namespace Foundations.Program

variable {Req ε φ α β : Type} {Res : Req → Type}

def Follows (allows : φ → Req → Prop) (next : φ → (r : Req) → Except ε (Res r) → φ)
    (post : φ → α → Prop) : φ → Program Req ε Res α → Prop
  | s, .done a => post s a
  | _, .fail _ => True
  | s, .request r k => allows s r ∧ ∀ x, (k x).Follows allows next post (next s r x)

variable {allows : φ → Req → Prop} {next : φ → (r : Req) → Except ε (Res r) → φ}
  {post : φ → α → Prop} {s : φ}

lemma Follows.bind {Q : φ → α → Prop} {post' : φ → β → Prop} {p : Program Req ε Res α}
    {f : α → Program Req ε Res β} (hp : p.Follows allows next Q s)
    (hf : ∀ s a, Q s a → (f a).Follows allows next post' s) :
    (p >>= f).Follows allows next post' s := by
  induction p generalizing s with
  | done a => exact hf s a hp
  | fail e => trivial
  | request r k ih => exact ⟨hp.1, fun x => ih x (hp.2 x)⟩

lemma Follows.call {r : Req} {post : φ → Res r → Prop} (hr : allows s r)
    (hp : ∀ a, post (next s r (.ok a)) a) :
    (Program.call r : Program Req ε Res (Res r)).Follows allows next post s :=
  ⟨hr, fun x => by
    cases x with
    | ok a => exact hp a
    | error e => trivial⟩

lemma Follows.attempt {p : Program Req ε Res α}
    (hp : p.Follows allows next (fun _ _ => True) s) :
    p.attempt.Follows allows next (fun _ _ => True) s := by
  induction p generalizing s with
  | done a | fail e => trivial
  | request r k ih => exact ⟨hp.1, fun x => ih x (hp.2 x)⟩

lemma Requests.follows {Q : Req → Prop} {p : Program Req ε Res α} (hp : p.Requests Q)
    (hQ : ∀ r, Q r → allows s r ∧ ∀ x, next s r x = s) :
    p.Follows allows next (fun _ _ => True) s := by
  induction p with
  | done a | fail e => trivial
  | request r k ih =>
    obtain ⟨hr, hsame⟩ := hQ r hp.1
    refine ⟨hr, fun x => ?_⟩
    rw [hsame x]
    exact ih x (hp.2 x)

end Foundations.Program
