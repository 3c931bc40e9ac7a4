import Preludedb.Sql.Mutex

/-! A transaction from its start to its end, while statements fail and sessions are lost: what the
COMMIT at the end makes durable. -/

namespace Preludedb.Sql.Connection

variable {σ ρ δ ω : Type} (E : Engine σ ρ δ ω)

def issue (c : Connection σ δ ω) (q : σ × Outcome) : Connection σ δ ω :=
  (c.query E (.data q.1) q.2).2

def issueAll (c : Connection σ δ ω) (qs : List (σ × Outcome)) : Connection σ δ ω :=
  qs.foldl (issue E) c

/-- The statements whose call returned success. -/
def succeeded : Connection σ δ ω → List (σ × Outcome) → List σ
  | _, [] => []
  | c, q :: qs =>
    match (c.query E (.data q.1) q.2).1 with
    | .ok _ => q.1 :: succeeded (issue E c q) qs
    | .error _ => succeeded (issue E c q) qs

/-- The COMMIT ran on the session of the BEGIN, and what the transaction did is durable. -/
structure CommittedTogether (c₁ : Connection σ δ ω) (done : List σ) (c : Connection σ δ ω) :
    Prop where
  begun : c₁.events.getLast? = some (.queried c₁.session .begin none)
  committed : c.events.getLast? = some (.queried c₁.session .commit none)
  durable : c.server.durable = done.foldl E.perform c₁.server.durable

def losesSession (o : Outcome) : Bool :=
  match o.operation with
  | some e => preludedbErrorCheck e .connection
  | none => false

/-- A statement loses the session, and no later one opens another. -/
def stranded : List Outcome → Bool
  | [] => false
  | o :: os => if losesSession o then os.all (·.opening.isSome) else stranded os

/-- The transaction is open on the session it began on. -/
structure Held (c₁ : Connection σ δ ω) (done : List σ) (c : Connection σ δ ω) : Prop where
  connected : c.status.connected = true
  transaction : c.status.transaction = true
  session : c.session = c₁.session
  view : c.server.view E.apply = done.foldl E.perform c₁.server.durable

/-- The transaction bit outlives the session. -/
structure Stranded (c₁ c : Connection σ δ ω) : Prop where
  connected : c.status.connected = false
  transaction : c.status.transaction = true
  session : c.session = c₁.session

variable {E} {c c₁ : Connection σ δ ω} {done : List σ} {q : σ × Outcome}

lemma issueAll_cons (qs : List (σ × Outcome)) :
    issueAll E c (q :: qs) = issueAll E (issue E c q) qs := rfl

lemma start_held {o : Outcome} (h : (c.baseTransactionStart E o).1 = .ok ()) :
    Held E (c.baseTransactionStart E o).2 [] (c.baseTransactionStart E o).2 ∧
      (c.baseTransactionStart E o).2.events.getLast? =
        some (.queried (c.baseTransactionStart E o).2.session .begin none) := by
  obtain ⟨_, d, hd, _, he⟩ := start_success h
  rw [he]
  exact ⟨⟨hd, rfl, rfl, rfl⟩, by simp [setTransaction, answered, lock, record]⟩

lemma Held.succeeds (h : Held E c₁ done c) (ho : q.2.operation = none) :
    Held E c₁ (done ++ [q.1]) (issue E c q) := by
  rw [issue, query_ok h.connected ho]
  refine ⟨h.connected, h.transaction, h.session, ?_⟩
  simp [answered, Engine.execute, Engine.perform, h.view, List.foldl_append]

lemma Held.fails {e : SqlError} (h : Held E c₁ done c) (ho : q.2.operation = some e)
    (hk : preludedbErrorCheck e .connection = false) : Held E c₁ done (issue E c q) := by
  rw [issue, query_error h.connected ho, refused, updateSqlFromErrno, if_neg (by simp [hk])]
  exact ⟨h.connected, h.transaction, h.session, h.view⟩

lemma Held.loses {e : SqlError} (h : Held E c₁ done c) (ho : q.2.operation = some e)
    (hk : preludedbErrorCheck e .connection = true) : Stranded c₁ (issue E c q) := by
  rw [issue, query_error h.connected ho, refused, updateSqlFromErrno, if_pos hk]
  exact ⟨rfl, h.transaction, h.session⟩

lemma Stranded.issue_eq (h : Stranded c₁ c) :
    (q.2.opening = none → (issue E c q).status.transaction = false) ∧
      (q.2.opening.isSome → Stranded c₁ (issue E c q)) := by
  refine ⟨fun ho => ?_, fun ho => ?_⟩
  · rw [issue, query_opened h.connected ho]
    cases hp : q.2.operation with
    | none => rw [query_ok (c := c.opened) rfl hp]; rfl
    | some e =>
      rw [query_error (c := c.opened) rfl hp, refused]
      by_cases hk : preludedbErrorCheck e .connection <;>
        simp [updateSqlFromErrno, hk, raise, record, opened]
  · obtain ⟨e, he⟩ := Option.isSome_iff_exists.mp ho
    rw [issue, query_unopened h.connected he]
    exact ⟨h.connected, h.transaction, h.session⟩

lemma Stranded.run {qs : List (σ × Outcome)} (h : Stranded c₁ c)
    (hs : (qs.map Prod.snd).all (·.opening.isSome)) : Stranded c₁ (issueAll E c qs) := by
  induction qs generalizing c with
  | nil => exact h
  | cons q qs ih =>
    simp only [List.map_cons, List.all_cons, Bool.and_eq_true] at hs
    exact ih (h.issue_eq.2 hs.1) hs.2

lemma lost_run {qs : List (σ × Outcome)} (h : c.status.transaction = false) :
    (issueAll E c qs).status.transaction = false := by
  induction qs generalizing c with
  | nil => exact h
  | cons q qs ih => exact ih (by simp [issue, query_locks, h])

lemma Stranded.reopens {qs : List (σ × Outcome)} (h : Stranded c₁ c)
    (hs : (qs.map Prod.snd).all (·.opening.isSome) = false) :
    (issueAll E c qs).status.transaction = false := by
  induction qs generalizing c with
  | nil => simp at hs
  | cons q qs ih =>
    simp only [List.map_cons, List.all_cons, Bool.and_eq_false_iff] at hs
    cases ho : q.2.opening with
    | none => exact lost_run (c := issue E c q) (h.issue_eq.1 ho)
    | some e =>
      have ho' : q.2.opening.isSome := by simp [ho]
      exact ih (h.issue_eq.2 ho') (hs.resolve_left (by simp [ho']))

/-- The three states a transaction can be in when its end is reached. -/
lemma Held.run (h : Held E c₁ done c) (qs : List (σ × Outcome)) :
    (Held E c₁ (done ++ succeeded E c qs) (issueAll E c qs) ∧ stranded (qs.map Prod.snd) = false) ∨
    (Stranded c₁ (issueAll E c qs) ∧ stranded (qs.map Prod.snd) = true) ∨
    ((issueAll E c qs).status.transaction = false ∧ stranded (qs.map Prod.snd) = false) := by
  induction qs generalizing c done with
  | nil => exact .inl ⟨by simpa [succeeded, issueAll] using h, rfl⟩
  | cons q qs ih =>
    cases ho : q.2.operation with
    | none =>
      have hq : (c.query E (.data q.1) q.2).1 = .ok (E.execute (.data q.1) c.server).1 := by
        rw [query_ok h.connected ho]
      have := ih (h.succeeds (q := q) ho)
      simpa [succeeded, issueAll_cons, hq, stranded, losesSession, ho] using this
    | some e =>
      have hq : (c.query E (.data q.1) q.2).1 = .error e := by rw [query_error h.connected ho]
      cases hk : preludedbErrorCheck e .connection with
      | false =>
        have := ih (h.fails (q := q) ho hk)
        simpa [succeeded, issueAll_cons, hq, stranded, losesSession, ho, hk] using this
      | true =>
        have hl := h.loses (q := q) ho hk
        simp only [List.map_cons, stranded, losesSession, ho, hk, if_true]
        cases ha : (qs.map Prod.snd).all (·.opening.isSome) with
        | true => exact .inr (.inl ⟨hl.run ha, rfl⟩)
        | false => exact .inr (.inr ⟨hl.reopens ha, rfl⟩)

lemma Held.end_together {o : Outcome} (h : Held E c₁ done c)
    (hb : c₁.events.getLast? = some (.queried c₁.session .begin none))
    (he : (c.baseTransactionEnd E o).1 = .ok ()) :
    CommittedTogether E c₁ done (c.baseTransactionEnd E o).2 := by
  cases ho : o.operation with
  | some e => simp [end_inside h.transaction, query_error h.connected ho, Except.map] at he
  | none =>
    rw [end_inside h.transaction, query_ok h.connected ho]
    refine ⟨hb, ?_, h.view⟩
    simp [setTransaction, answered, record, unlock, h.session]

lemma Stranded.end_apart (h : Stranded c₁ c) :
    (c.baseTransactionEnd E .ok).1 = .ok () ∧
      (c.baseTransactionEnd E .ok).2.events.getLast? =
        some (.queried (c₁.session + 1) .commit none) := by
  rw [end_inside h.transaction, query_opened h.connected rfl, query_ok (c := c.opened) rfl rfl]
  exact ⟨rfl, by simp [setTransaction, answered, record, unlock, opened, h.session]⟩

lemma Stranded.end_fails {o : Outcome} (h : Stranded c₁ c) (ho : o ≠ .ok) :
    (c.baseTransactionEnd E o).1 ≠ .ok () := by
  rw [end_inside h.transaction]
  cases hop : o.opening with
  | some e => simp [query_unopened h.connected hop, Except.map]
  | none =>
    rw [query_opened h.connected hop]
    cases hp : o.operation with
    | some e => simp [query_error (c := c.opened) rfl hp, Except.map]
    | none => exact absurd (by cases o; simp_all [Outcome.ok]) ho

end Preludedb.Sql.Connection
