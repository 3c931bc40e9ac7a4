import Preludedb.Foundations.Programs

/-! Programs that may end in an error that no request is answered with: the fault of the program
itself. A program evades it in a run, or never ends in it. -/

namespace Foundations.Program

variable {Req ε σ α β ρ : Type} {Res : Req → Type}

/-- The run does not end in the fault `e`. -/
def Evades (e : ε) (handle : (r : Req) → σ → Except ε (Res r) × σ) (p : Program Req ε Res α) (s : σ) : Prop :=
  (p.run handle s).1 ≠ .error e

/-- No answer but the fault itself leads to it. -/
def Never (e : ε) : Program Req ε Res α → Prop
  | .done _ => True
  | .fail e' => e' ≠ e
  | .request _ k => ∀ x, x ≠ .error e → (k x).Never e

/-- The program is answered. -/
def Ends (handle : (r : Req) → σ → Except ε (Res r) × σ) (p : Program Req ε Res α) (s : σ) : Prop :=
  ∃ a, (p.run handle s).1 = .ok a

variable {e : ε} {handle : (r : Req) → σ → Except ε (Res r) × σ} {p : Program Req ε Res α}
  {f : α → Program Req ε Res β} {s : σ}

lemma Never.bind (hp : p.Never e) (hf : ∀ a, (f a).Never e) : (p >>= f).Never e := by
  induction p with
  | done a => exact hf a
  | fail e' => exact hp
  | request r k ih => exact fun x hx => ih x (hp x hx)

lemma Never.call (r : Req) : (Program.call r : Program Req ε Res (Res r)).Never e := by
  intro x hx
  cases x with
  | ok a => trivial
  | error e' => exact fun h => hx (congrArg _ h)

lemma Never.ofExcept {x : Except ε α} (hx : x ≠ .error e) : (Program.ofExcept x : Program Req ε Res α).Never e := by
  cases x with
  | ok a => trivial
  | error e' => exact fun h => hx (congrArg _ h)

lemma Never.attempt (hp : p.Never e) : p.attempt.Never e := by
  induction p with
  | done a | fail e' => trivial
  | request r k ih => exact fun x hx => ih x (hp x hx)

lemma Never.evades (hh : ∀ r s, (handle r s).1 ≠ .error e) (hp : p.Never e) (s : σ) : p.Evades e handle s := by
  induction p generalizing s with
  | done a => exact fun h => by cases h
  | fail e' => exact fun h => hp (Except.error.inj h)
  | request r k ih => exact ih _ (hp _ (hh r s)) _

@[simp] lemma evades_done (a : α) : (Program.done a : Program Req ε Res α).Evades e handle s := fun h => by cases h

lemma evades_fail : ¬ (Program.fail e : Program Req ε Res α).Evades e handle s := fun h => h rfl

lemma evades_bind : (p >>= f).Evades e handle s ↔
    p.Evades e handle s ∧ ∀ a, (p.run handle s).1 = .ok a → (f a).Evades e handle (p.run handle s).2 := by
  simp only [Evades, run_bind]
  rcases p.run handle s with ⟨e' | a, s'⟩ <;> simp

lemma ends_bind : (p >>= f).Ends handle s ↔
    ∃ a, (p.run handle s).1 = .ok a ∧ (f a).Ends handle (p.run handle s).2 := by
  simp only [Ends, run_bind]
  rcases p.run handle s with ⟨e' | a, s'⟩ <;> simp

/-- What comes after a program that never faults. -/
lemma Never.evades_bind (hh : ∀ r s, (handle r s).1 ≠ .error e) (hp : p.Never e) : (p >>= f).Evades e handle s ↔
    ∀ a, (p.run handle s).1 = .ok a → (f a).Evades e handle (p.run handle s).2 := by
  rw [Program.evades_bind, and_iff_right (hp.evades hh s)]

lemma evades_bind_never (hh : ∀ r s, (handle r s).1 ≠ .error e) (hf : ∀ a, (f a).Never e) :
    (p >>= f).Evades e handle s ↔ p.Evades e handle s := by
  rw [Program.evades_bind, and_iff_left fun a _ => (hf a).evades hh _]

/-- A result without a row, out of which a fetch is nevertheless answered. -/
def Unfetched (handle : (r : Req) → σ → Except ε (Res r) × σ) (query : Program Req ε Res (Option (List ρ)))
    (fetch : Program Req ε Res α) (s : σ) : Prop :=
  (query.run handle s).1 = .ok (some []) ∧ fetch.Ends handle (query.run handle s).2

/-- A first row with a null field, as far as which `reads` is answered. -/
def NullIn (handle : (r : Req) → σ → Except ε (Res r) × σ) (query : Program Req ε Res (Option (List ρ)))
    (reads : ρ → Program Req ε Res α) (null : ρ → Prop) (s : σ) : Prop :=
  ∃ row rows, (query.run handle s).1 = .ok (some (row :: rows)) ∧ null row ∧
    (reads row).Ends handle (query.run handle s).2

variable {query : Program Req ε Res (Option (List ρ))} {fetch : Program Req ε Res α}
  {use : Option (List ρ) → Program Req ε Res β}

lemma evades_rows (hh : ∀ r s, (handle r s).1 ≠ .error e) (hquery : query.Never e) :
    (query >>= use).Evades e handle s ↔
      ((query.run handle s).1 = .ok none → (use none).Evades e handle (query.run handle s).2) ∧
      ((query.run handle s).1 = .ok (some []) → (use (some [])).Evades e handle (query.run handle s).2) ∧
      ∀ row rows, (query.run handle s).1 = .ok (some (row :: rows)) →
        (use (some (row :: rows))).Evades e handle (query.run handle s).2 := by
  rw [hquery.evades_bind hh]
  constructor
  · exact fun h => ⟨h none, h (some []), fun row rows => h (some (row :: rows))⟩
  · rintro ⟨hnone, hnil, hcons⟩ (_ | _ | ⟨row, rows⟩) ha
    · exact hnone ha
    · exact hnil ha
    · exact hcons row rows ha

/-- The fault waits behind a program that never faults. -/
lemma evades_behind (hh : ∀ r s, (handle r s).1 ≠ .error e) (hp : p.Never e) :
    (p >>= fun _ => (.fail e : Program Req ε Res β)).Evades e handle s ↔ ¬ p.Ends handle s := by
  rw [hp.evades_bind hh, Ends, not_exists]
  exact forall_congr' fun a => ⟨fun h ha => evades_fail (h ha), fun h ha => (h ha).elim⟩

/-- The fault of a program that goes on behind `p` as if a field were not null. -/
lemma evades_guarded (hh : ∀ r s, (handle r s).1 ≠ .error e) (hp : p.Never e) {null : Prop}
    {q : Program Req ε Res β} (hnull : null → q = p >>= fun _ => .fail e) (hother : ¬ null → q.Never e) :
    q.Evades e handle s ↔ ¬ (null ∧ p.Ends handle s) := by
  by_cases h : null
  · rw [hnull h, evades_behind hh hp, not_and, imp_iff_right h]
  · exact iff_of_true ((hother h).evades hh s) fun hn => h hn.1

lemma not_nullIn {null : ρ → Prop} {reads : ρ → Program Req ε Res α} : ¬ NullIn handle query reads null s ↔
    ∀ row rows, (query.run handle s).1 = .ok (some (row :: rows)) →
      ¬ (null row ∧ (reads row).Ends handle (query.run handle s).2) := by
  simp only [NullIn, not_exists, not_and]

end Foundations.Program
