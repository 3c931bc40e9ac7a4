import Preludedb.Foundations.Programs

/-! Programs that clean up after an error, and the journal of a run: the events that its requests
and their answers are recorded as. -/

namespace Foundations.Program

variable {Req ε σ α β ω : Type} {Res : Req → Type}

/-- A request whose answer is not looked at. -/
def notify (r : Req) : Program Req ε Res Unit := .request r fun _ => .done ()

/-- The error of a program is passed on after a second program has run. -/
def onError (p : Program Req ε Res α) (cleanup : Program Req ε Res Unit) : Program Req ε Res α :=
  p.attempt >>= fun
    | .ok a => .done a
    | .error e => cleanup >>= fun _ => .fail e

/-- A second program runs in any case. -/
def endWith (p : Program Req ε Res α) (cleanup : Program Req ε Res Unit) : Program Req ε Res α :=
  p.attempt >>= fun x => cleanup >>= fun _ => .ofExcept x

variable (handle : (r : Req) → σ → Except ε (Res r) × σ)

def journal (record : (r : Req) → Except ε (Res r) → List ω) : Program Req ε Res α → σ → List ω
  | .done _, _ => []
  | .fail _, _ => []
  | .request r k, s =>
    record r (handle r s).1 ++ (k (handle r s).1).journal record (handle r s).2

variable {handle} {record : (r : Req) → Except ε (Res r) → List ω} {p : Program Req ε Res α}
  {f : α → Program Req ε Res β} {cleanup : Program Req ε Res Unit} {s s' : σ}

lemma run_onError_ok {a : α} (h : p.run handle s = (.ok a, s')) :
    (p.onError cleanup).run handle s = (.ok a, s') := by
  rw [onError, run_bind, run_attempt, h]
  rfl

lemma run_onError_error {e : ε} (h : p.run handle s = (.error e, s')) {s'' : σ}
    (hc : cleanup.run handle s' = (.ok (), s'')) : (p.onError cleanup).run handle s = (.error e, s'') := by
  rw [onError, run_bind, run_attempt, h]
  exact (run_bind handle cleanup (fun _ => .fail e) s').trans (by rw [hc]; rfl)

lemma journal_bind_ok {a : α} (h : p.run handle s = (.ok a, s')) :
    (p >>= f).journal handle record s = p.journal handle record s ++ (f a).journal handle record s' := by
  induction p generalizing s with
  | done b =>
    cases h
    rfl
  | fail e => cases h
  | request r k ih =>
    have hrest := ih _ h
    simp only [request_bind, journal, hrest, List.append_assoc]

lemma journal_bind_error {e : ε} (h : p.run handle s = (.error e, s')) :
    (p >>= f).journal handle record s = p.journal handle record s := by
  induction p generalizing s with
  | done b => cases h
  | fail e => rfl
  | request r k ih =>
    have hrest := ih _ h
    simp only [request_bind, journal, hrest]

lemma journal_attempt : p.attempt.journal handle record s = p.journal handle record s := by
  induction p generalizing s with
  | done b | fail e => rfl
  | request r k ih =>
    have hrest := ih (handle r s).1 (s := (handle r s).2)
    simp only [attempt, journal, hrest]

lemma journal_call {r : Req} :
    (call r : Program Req ε Res (Res r)).journal handle record s = record r (handle r s).1 := by
  rcases h : handle r s with ⟨e | a, s'⟩ <;> simp [call, journal, h]

lemma Requests.journal_nil {Q : Req → Prop} (hQ : ∀ r x, Q r → record r x = []) (hp : p.Requests Q) :
    p.journal handle record s = [] := by
  induction p generalizing s with
  | done b | fail e => rfl
  | request r k ih => rw [journal, hQ r _ hp.1, ih _ (hp.2 _), List.append_nil]

lemma Requests.onError {Q : Req → Prop} (hp : p.Requests Q) (hc : cleanup.Requests Q) :
    (p.onError cleanup).Requests Q :=
  hp.attempt.bind fun x => by
    cases x with
    | ok a => trivial
    | error e => exact hc.bind fun _ => trivial

lemma Requests.endWith {Q : Req → Prop} (hp : p.Requests Q) (hc : cleanup.Requests Q) :
    (p.endWith cleanup).Requests Q :=
  hp.attempt.bind fun x => hc.bind fun _ => .ofExcept x

lemma journal_onError_ok {a : α} (h : p.run handle s = (.ok a, s')) :
    (p.onError cleanup).journal handle record s = p.journal handle record s := by
  have hattempt : p.attempt.run handle s = (.ok (.ok a), s') := by rw [run_attempt, h]
  rw [onError, journal_bind_ok hattempt, journal_attempt]
  exact List.append_nil _

lemma journal_onError_error {e : ε} (h : p.run handle s = (.error e, s')) {s'' : σ}
    (hc : cleanup.run handle s' = (.ok (), s'')) :
    (p.onError cleanup).journal handle record s =
      p.journal handle record s ++ cleanup.journal handle record s' := by
  have hattempt : p.attempt.run handle s = (.ok (.error e), s') := by rw [run_attempt, h]
  rw [onError, journal_bind_ok hattempt, journal_attempt, journal_bind_ok hc]
  exact congrArg _ (List.append_nil _)

lemma journal_endWith {s'' : σ} (hc : cleanup.run handle (p.run handle s).2 = (.ok (), s'')) :
    (p.endWith cleanup).journal handle record s =
      p.journal handle record s ++ cleanup.journal handle record (p.run handle s).2 := by
  have hattempt : p.attempt.run handle s = (.ok (p.run handle s).1, (p.run handle s).2) := run_attempt handle p s
  rw [endWith, journal_bind_ok hattempt, journal_attempt, journal_bind_ok hc]
  cases (p.run handle s).1 <;> exact congrArg _ (List.append_nil _)

end Foundations.Program
