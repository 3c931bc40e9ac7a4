import Preludedb.Admin.Move

/-! The load command: messages are read from files and inserted in a database under transactions of
many events, past an offset and up to a limit. -/

namespace Preludedb.Admin

open Foundations Sql

/-- What a file holds: messages, of which some do not decode, and places where the reading fails. -/
inductive Record (μ : Type)
  | message (decoded : Except SqlError μ)
  | unreadable (e : SqlError)

/-- What the reading of a message comes to. -/
inductive Reading (μ : Type)
  | failed (e : SqlError)
  | finished
  | skipped
  | message (m : μ)

namespace Settings

variable {μ : Type} (o : Settings)

/-- The limit is compared as a 64-bit unsigned number. -/
def limitReached (g : Progress) : Prop := o.limit ≠ -1 ∧ o.limit % 2 ^ 64 ≤ g.curCount

instance (g : Progress) : Decidable (o.limitReached g) := inferInstanceAs (Decidable (_ ∧ _))

def doReadMessage (record : Record μ) (offsetCopy : Int) (g : Progress) : Reading μ :=
  match record with
  | .unreadable e => .failed e
  | .message decoded =>
    if 0 < offsetCopy then .skipped
    else if o.limitReached g then .finished
    else match decoded with
      | .error e => .failed e
      | .ok m => .message m

/-- A message the criteria do not select passes as if it were inserted. -/
def insertMatching (criteria : μ → Bool) (m : μ) : Command μ (Except SqlError Unit) :=
  if criteria m then (Program.call (Api.insertMessage m)).attempt else pure (.ok ())

def loadFromFile (criteria : μ → Bool) :
    List (Record μ) → Int → Progress → Command μ (Except SqlError Unit × Progress)
  | [], _, g => do
    let _ ← stopProcessing
    pure (.ok (), g)
  | record :: rest, offsetCopy, g => do
    let stop ← stopProcessing
    if stop then pure (.ok (), g)
    else match o.doReadMessage record offsetCopy g with
      | .failed e => pure (.error e, g)
      | .finished => pure (.ok (), g)
      | .skipped => loadFromFile criteria rest (offsetCopy - 1) g
      | .message m => do
        let ret ← insertMatching criteria m
        match ret with
        | .error e => pure (.error e, g)
        | .ok _ => do
          let g ← o.flushTransactionIfNeeded 1 g
          loadFromFile criteria rest offsetCopy g

/-- The files one after the other. One that cannot be opened ends the command at once, within its
transaction. -/
def loadFiles (criteria : μ → Bool) :
    List (Option (List (Record μ))) → Progress → Command μ (Except SqlError Unit × ℕ)
  | [], g => do
    o.transactionEnd (.ok ())
    pure (.ok (), o.endCount (.ok ()) g)
  | none :: _, g => pure (.error (preludedbError (.foreign (-1))), g.curCount)
  | some records :: rest, g => do
    let (ret, g) ← o.loadFromFile criteria records o.offset g
    match ret with
    | .error e => do
      o.transactionEnd (.error e)
      pure (.error e, o.endCount (.error e) g)
    | .ok () => loadFiles criteria rest g

/-- What the command returns and the counter it leaves. -/
def cmdLoad (criteria : μ → Bool) (files : List (Option (List (Record μ)))) :
    Command μ (Except SqlError Unit × ℕ) := do
  o.transactionStart
  o.loadFiles criteria files ⟨0, o.limit, 0, []⟩

end Settings

/-- The messages of a file that can be read past `offset` before a reading fails. -/
def readable {μ : Type} : List (Record μ) → ℕ → List μ
  | [], _ => []
  | .unreadable _ :: _, _ => []
  | .message _ :: rest, offset + 1 => readable rest offset
  | .message (.error _) :: _, 0 => []
  | .message (.ok m) :: rest, 0 => m :: readable rest 0

/-- How many of `remaining` events the loop takes, with its counter and the events of the open
transaction. -/
def turns (eventsPerTransaction n : ℕ) : ℕ → ℕ → ℕ → ℕ
  | 0, _, _ => 0
  | remaining + 1, curCount, eventNo =>
    if n ≤ curCount then 0
    else if eventsPerTransaction = 0 then 1 + turns eventsPerTransaction n remaining curCount eventNo
    else if eventsPerTransaction ≤ eventNo + 1 then
      1 + turns eventsPerTransaction n remaining (curCount + (eventNo + 1)) 0
    else 1 + turns eventsPerTransaction n remaining curCount (eventNo + 1)

section

variable {E n : ℕ}

lemma turns_zero (remaining curCount eventNo : ℕ) :
    turns 0 n remaining curCount eventNo = if n ≤ curCount then 0 else remaining := by
  induction remaining with
  | zero => simp [turns]
  | succ remaining ih =>
    simp only [turns, ih, if_true]
    split
    · rfl
    · omega

lemma turns_le (remaining curCount eventNo : ℕ) :
    turns E n remaining curCount eventNo ≤ remaining := by
  induction remaining generalizing curCount eventNo with
  | zero => exact le_rfl
  | succ remaining ih =>
    rw [turns]
    split
    · omega
    · split
      · have h := ih curCount eventNo
        omega
      · split
        · have h := ih (curCount + (eventNo + 1)) 0
          omega
        · have h := ih curCount (eventNo + 1)
          omega

/-- The least multiple of the transaction size that reaches the limit. -/
def reached (E n : ℕ) : ℕ := (n + E - 1) / E * E

lemma le_reached (hE : 0 < E) : n ≤ reached E n := by
  have hdiv := Nat.lt_div_mul_add (a := n + E - 1) hE
  rw [reached]
  omega

lemma reached_le (hE : 0 < E) (q : ℕ) (h : n ≤ q * E) : reached E n ≤ q * E := by
  refine Nat.mul_le_mul_right E ?_
  apply Nat.le_of_lt_succ
  rw [Nat.div_lt_iff_lt_mul hE, Nat.succ_mul]
  omega

lemma turns_eq (hE : 0 < E) (remaining q eventNo : ℕ) (he : eventNo < E) :
    turns E n remaining (q * E) eventNo = min remaining (reached E n - (q * E + eventNo)) := by
  induction remaining generalizing q eventNo with
  | zero => simp [turns]
  | succ remaining ih =>
    rw [turns]
    split
    · next hn =>
      have hle := reached_le hE q hn
      omega
    · next hn =>
      have hlt : q * E + E ≤ reached E n := by
        have hle := le_reached (n := n) hE
        have hq : q < (n + E - 1) / E := by
          rw [reached] at hle
          by_contra hc
          have hmul := Nat.mul_le_mul_right E (Nat.le_of_not_lt hc)
          omega
        have hmul := Nat.mul_le_mul_right E (Nat.succ_le_of_lt hq)
        rw [Nat.succ_mul] at hmul
        exact hmul
      rw [if_neg (by omega)]
      split
      · next hfull =>
        have hnext : q * E + (eventNo + 1) = (q + 1) * E := by
          rw [Nat.succ_mul]
          omega
        rw [hnext, ih (q + 1) 0 hE]
        omega
      · rw [ih q (eventNo + 1) (by omega)]
        omega

lemma turns_start (hE : 0 < E) (remaining : ℕ) :
    turns E n remaining 0 0 = min remaining (reached E n) := by
  have h := turns_eq (n := n) hE remaining 0 0 hE
  rw [Nat.zero_mul] at h
  exact h

lemma reached_eq_iff (hE : 0 < E) : reached E n ≤ n ↔ E ∣ n := by
  constructor
  · intro h
    have hn : n = reached E n := le_antisymm (le_reached hE) h
    rw [hn]
    exact Nat.dvd_mul_left E _
  · rintro ⟨q, rfl⟩
    rw [Nat.mul_comm]
    exact reached_le hE q le_rfl

/-- The loop keeps to the limit when the limit falls on the end of a transaction, or nothing is left
to take beyond it. -/
lemma turns_le_iff (remaining : ℕ) : turns E n remaining 0 0 ≤ n ↔ remaining ≤ n ∨ E ∣ n := by
  rcases Nat.eq_zero_or_pos E with rfl | hE
  · rw [turns_zero, zero_dvd_iff]
    split <;> omega
  · rw [turns_start hE, ← reached_eq_iff hE]
    omega

lemma turns_exact {remaining total : ℕ} (h : remaining ≤ n ∨ E ∣ n)
    (ht : turns E n remaining 0 0 = turns E n total 0 0) :
    turns E n total 0 0 = min n total := by
  rcases Nat.eq_zero_or_pos E with rfl | hE
  · rw [turns_zero] at ht ⊢
    rw [turns_zero] at ht
    rw [zero_dvd_iff] at h
    split at ht <;> simp_all
  · have hle := le_reached (n := n) hE
    rw [← reached_eq_iff hE] at h
    rw [turns_start hE] at ht ⊢
    rw [turns_start hE] at ht
    omega

end

def Api.inserted {μ : Type} : Api μ → Option μ
  | .insertMessage m => some m
  | _ => none

def insertions {μ : Type} (log : List (Api μ)) : List μ := log.filterMap Api.inserted

/-- No call fails and no signal arrives. -/
def Environment.Quiet {μ : Type} (env : Environment μ) : Prop :=
  ∀ t, env.fault t = .none ∧ env.stop t = false

section

variable {μ : Type} {env : Environment μ} {o : Settings} {g : Progress}
  {s : Databases μ} {log : List (Api μ)}

/-- What a flush does to the variables of a run, whatever its calls are answered. -/
def Settings.flushed (o : Settings) (increment : ℕ) (g : Progress) : Progress :=
  if o.eventsPerTransaction = 0 then g
  else if o.eventsPerTransaction ≤ g.dstEventNo + increment ∨
      increment = 0 ∧ g.dstEventNo + increment ≠ 0 then
    { g with curCount := g.curCount + (g.dstEventNo + increment), dstEventNo := 0 }
  else { g with dstEventNo := g.dstEventNo + increment }

/-- A program whose outcome does not depend on the state, as far as its insertions go. -/
abbrev Logs {α : Type} (env : Environment μ) (p : Command μ α) (s : Databases μ)
    (log : List (Api μ)) (post : Except SqlError α → List μ → Prop) : Prop :=
  p.Secures (Program.logged (handle env)) (fun _ _ => True) (fun _ => True)
    (fun x t => post x (insertions t.2)) (s, log)

lemma insertions_append (r : Api μ) :
    insertions (log ++ [r]) = insertions log ++ (Api.inserted r).toList := by
  cases r <;> simp [insertions, Api.inserted]

lemma flush_logs (increment : ℕ) :
    Logs env (o.flushTransactionIfNeeded increment g) s log
      (fun x ms => x = .ok (o.flushed increment g) ∧ ms = insertions log) := by
  rw [Settings.flushTransactionIfNeeded, Settings.flushed]
  split
  · exact ⟨trivial, rfl, rfl⟩
  · split
    · refine .tried trivial fun _ => .tried trivial fun _ => ⟨trivial, rfl, ?_⟩
      simp only [Program.logged, insertions_append, Api.inserted, Option.toList, List.append_nil]
    · exact ⟨trivial, rfl, rfl⟩

/-- What a load has inserted when it stops: matching events of the first `k`, and all that the loop
takes when nothing fails. -/
def Taken (env : Environment μ) (criteria : μ → Bool) (before events inserted : List μ) (most : ℕ)
    (ended : Prop) (total : ℕ) : Prop :=
  ∃ k ≤ most, inserted = before ++ (events.take k).filter criteria ∧
    (env.Quiet → k = most ∧ (ended → most = total))

lemma Taken.none {criteria : μ → Bool} {before events : List μ} {most total : ℕ} {ended : Prop}
    (hq : env.Quiet → most = 0 ∧ (ended → most = total)) :
    Taken env criteria before events before most ended total := by
  refine ⟨0, most.zero_le, ?_, fun h => ⟨(hq h).1.symm, (hq h).2⟩⟩
  rw [List.take_zero, List.filter_nil, List.append_nil]

lemma Taken.cons {criteria : μ → Bool} {m : μ} {before events inserted : List μ} {most total : ℕ}
    {ended : Prop}
    (h : Taken env criteria (before ++ [m].filter criteria) events inserted most ended total) :
    Taken env criteria before (m :: events) inserted (1 + most) ended (1 + total) := by
  obtain ⟨k, hk, hi, hq⟩ := h
  refine ⟨k + 1, by omega, ?_, fun hquiet => ?_⟩
  · rw [hi, List.append_assoc, ← List.filter_append, List.take_succ_cons, List.singleton_append]
  · obtain ⟨hmost, hended⟩ := hq hquiet
    exact ⟨by omega, fun h => by rw [hended h]⟩

lemma stopProcessing_logs {β : Type} {f : Bool → Command μ β}
    {post : Except SqlError β → List μ → Prop}
    (h : ∀ stop s log', insertions log' = insertions log → (env.Quiet → stop = false) →
      Logs env (f stop) s log' post) :
    Logs env (stopProcessing >>= f) s log post := by
  refine ⟨trivial, fun _ => ?_⟩
  refine h (env.stop s.clock) s.next (log ++ [Api.stopProcessing]) ?_ fun hq => (hq s.clock).2
  rw [insertions_append]
  exact List.append_nil _

lemma insertMatching_logs {criteria : μ → Bool} {m : μ} {β : Type}
    {f : Except SqlError Unit → Command μ β} {post : Except SqlError β → List μ → Prop}
    (h : ∀ ret s log', insertions log' = insertions log ++ [m].filter criteria →
      (env.Quiet → ret = .ok ()) → Logs env (f ret) s log' post) :
    Logs env (Settings.insertMatching criteria m >>= f) s log post := by
  rw [Settings.insertMatching]
  cases hm : criteria m with
  | false =>
    refine h (.ok ()) s log ?_ fun _ => rfl
    rw [List.filter_cons_of_neg (by rw [hm]; exact Bool.false_ne_true), List.filter_nil,
      List.append_nil]
  | true =>
    refine .tried trivial fun _ => h _ _ (log ++ [Api.insertMessage m]) ?_ fun hq => ?_
    · rw [insertions_append, List.filter_cons_of_pos hm, List.filter_nil]
      rfl
    · simp only [Program.logged, handle, answer, (hq s.clock).1]
      rfl

lemma limitReached_iff (h0 : 0 ≤ o.limit) (h63 : o.limit < 2 ^ 63) :
    o.limitReached g ↔ o.limit.toNat ≤ g.curCount := by
  have hmod : o.limit % 2 ^ 64 = o.limit := Int.emod_eq_of_lt h0 (by omega)
  rw [Settings.limitReached, hmod]
  omega

lemma turns_succ (remaining : ℕ) (h : ¬ o.limit.toNat ≤ g.curCount) :
    turns o.eventsPerTransaction o.limit.toNat (remaining + 1) g.curCount g.dstEventNo =
      1 + turns o.eventsPerTransaction o.limit.toNat remaining (o.flushed 1 g).curCount
        (o.flushed 1 g).dstEventNo := by
  rw [turns, if_neg h, Settings.flushed]
  split
  · rfl
  · simp only [Nat.one_ne_zero, false_and, or_false]
    split <;> rfl

/-- One turn of the loop for each message of the file. -/
lemma loadFromFile_logs (h0 : 0 ≤ o.limit) (h63 : o.limit < 2 ^ 63) (criteria : μ → Bool)
    (records : List (Record μ)) (offset : ℕ) :
    Logs env (o.loadFromFile criteria records offset g) s log (fun x ms => ∃ ret g',
      x = .ok (ret, g') ∧ Taken env criteria (insertions log) (readable records offset) ms
        (turns o.eventsPerTransaction o.limit.toNat (readable records offset).length g.curCount
          g.dstEventNo) (ret = .ok ())
        (turns o.eventsPerTransaction o.limit.toNat (records.length - offset) g.curCount
          g.dstEventNo)) := by
  induction records generalizing offset g s log with
  | nil =>
    rw [Settings.loadFromFile]
    refine stopProcessing_logs fun stop s' log' hlog _ => ⟨trivial, _, _, rfl, ?_⟩
    have hlen : ([] : List (Record μ)).length - offset = 0 := Nat.zero_sub offset
    rw [hlog, readable, hlen]
    exact .none fun _ => ⟨rfl, fun _ => rfl⟩
  | cons record rest ih =>
    rw [Settings.loadFromFile]
    refine stopProcessing_logs fun stop s' log' hlog hquiet => ?_
    cases stop with
    | true =>
      refine ⟨trivial, _, _, rfl, ?_⟩
      rw [hlog]
      exact ⟨0, Nat.zero_le _, by simp, fun hq => by cases hquiet hq⟩
    | false =>
      rw [if_neg Bool.false_ne_true]
      cases record with
      | unreadable e =>
        refine ⟨trivial, _, _, rfl, ?_⟩
        rw [hlog, readable]
        exact .none fun _ => ⟨rfl, fun h => by cases h⟩
      | message decoded =>
        cases offset with
        | succ offset =>
          have hskip : (0 : Int) < ((offset + 1 : ℕ) : Int) := by omega
          have hnext : ((offset + 1 : ℕ) : Int) - 1 = offset := by omega
          have hlen : (Record.message decoded :: rest).length - (offset + 1) =
              rest.length - offset := by
            rw [List.length_cons]
            omega
          simp only [Settings.doReadMessage, if_pos hskip, hnext, hlen]
          have hrest := @ih g s' log' offset
          rw [hlog] at hrest
          cases decoded <;> exact hrest
        | zero =>
          have htake : ¬ (0 : Int) < ((0 : ℕ) : Int) := by omega
          simp only [Settings.doReadMessage, if_neg htake, limitReached_iff h0 h63]
          by_cases hlim : o.limit.toNat ≤ g.curCount
          · simp only [if_pos hlim]
            have hnone (n : ℕ) : turns o.eventsPerTransaction o.limit.toNat n g.curCount
                g.dstEventNo = 0 := by
              cases n with
              | zero => rfl
              | succ n => rw [turns, if_pos hlim]
            refine ⟨trivial, _, _, rfl, ?_⟩
            rw [hlog, hnone, hnone]
            exact .none fun _ => ⟨rfl, fun _ => rfl⟩
          · simp only [if_neg hlim]
            cases decoded with
            | error e =>
              refine ⟨trivial, _, _, rfl, ?_⟩
              rw [hlog, readable]
              exact .none fun _ => ⟨rfl, fun h => by cases h⟩
            | ok m =>
              refine insertMatching_logs fun ret s₁ log₁ hlog₁ hret => ?_
              rw [readable, List.length_cons, Nat.sub_zero, List.length_cons, turns_succ _ hlim,
                turns_succ _ hlim]
              cases ret with
              | error e =>
                refine ⟨trivial, _, _, rfl, ?_⟩
                refine ⟨1, by omega, ?_, fun hq => by cases hret hq⟩
                rw [hlog₁, hlog]
                rfl
              | ok u =>
                refine (flush_logs 1).bind ?_ fun e t hx => by cases hx.1
                rintro g₁ ⟨s₂, log₂⟩ - ⟨hx, hlog₂⟩
                cases hx
                refine (@ih (o.flushed 1 g) s₂ log₂ 0).mono ?_
                rintro x t ⟨ret, g', rfl, ht⟩
                refine ⟨ret, g', rfl, Taken.cons ?_⟩
                have hbefore : insertions log₂ = insertions log ++ [m].filter criteria := by
                  rw [hlog₂, hlog₁, hlog]
                rw [hbefore, Nat.sub_zero] at ht
                exact ht

lemma tried_logs {r : Api μ} (hr : Api.inserted r = none) :
    Logs env (do let _ ← (Program.call r).attempt; pure () : Command μ Unit) s log
      (fun x ms => x = .ok () ∧ ms = insertions log) := by
  refine .tried trivial fun _ => ⟨trivial, rfl, ?_⟩
  simp only [Program.logged, insertions_append, hr, Option.toList, List.append_nil]

lemma transactionStart_logs :
    Logs env o.transactionStart s log (fun x ms => x = .ok () ∧ ms = insertions log) := by
  rw [Settings.transactionStart]
  split
  · exact tried_logs rfl
  · exact ⟨trivial, rfl, rfl⟩

lemma transactionEnd_logs (ret : Except SqlError Unit) :
    Logs env (o.transactionEnd ret) s log (fun x ms => x = .ok () ∧ ms = insertions log) := by
  cases ret with
  | error e | ok u =>
    simp only [Settings.transactionEnd]
    split
    · exact tried_logs rfl
    · exact ⟨trivial, rfl, rfl⟩

/-- What the load of one file hands to the insertion. -/
lemma cmdLoad_logs (h0 : 0 ≤ o.limit) (h63 : o.limit < 2 ^ 63) (hoff : 0 ≤ o.offset)
    (criteria : μ → Bool) (records : List (Record μ)) :
    Logs env (o.cmdLoad criteria [some records]) s [] (fun x ms => ∃ ret count,
      x = .ok (ret, count) ∧ Taken env criteria [] (readable records o.offset.toNat) ms
        (turns o.eventsPerTransaction o.limit.toNat (readable records o.offset.toNat).length 0 0)
        (ret = .ok ())
        (turns o.eventsPerTransaction o.limit.toNat (records.length - o.offset.toNat) 0 0)) := by
  rw [Settings.cmdLoad]
  refine transactionStart_logs.bind ?_ fun e t hx => by cases hx.1
  rintro u ⟨s₁, log₁⟩ - ⟨-, hlog₁⟩
  rw [Settings.loadFiles]
  have hload := @loadFromFile_logs _ env _ ⟨0, o.limit, 0, []⟩ s₁ log₁
    h0 h63 criteria records o.offset.toNat
  rw [Int.toNat_of_nonneg hoff, hlog₁] at hload
  refine hload.bind ?_ fun e t hx => by obtain ⟨ret, g', hx, -⟩ := hx; cases hx
  rintro a ⟨s₂, log₂⟩ - ⟨ret, g', hx, ht⟩
  cases hx
  cases ret with
  | error e =>
    refine (transactionEnd_logs (.error e)).bind ?_ fun e t hx => by cases hx.1
    rintro u' t - ⟨-, hlog₃⟩
    refine ⟨trivial, _, _, rfl, ?_⟩
    rw [hlog₃]
    exact ht
  | ok u =>
    simp only [Settings.loadFiles]
    refine (transactionEnd_logs (.ok ())).bind ?_ fun e t hx => by cases hx.1
    rintro u' t - ⟨-, hlog₃⟩
    refine ⟨trivial, _, _, rfl, ?_⟩
    rw [hlog₃]
    exact ht

lemma cmdLoad_taken (env : Environment μ) (s : Databases μ) (h0 : 0 ≤ o.limit)
    (h63 : o.limit < 2 ^ 63) (hoff : 0 ≤ o.offset) (criteria : μ → Bool)
    (records : List (Record μ)) :
    ∃ ret count, ((o.cmdLoad criteria [some records]).run (handle env) s).1 = .ok (ret, count) ∧
      Taken env criteria [] (readable records o.offset.toNat)
        (insertions ((o.cmdLoad criteria [some records]).requests (handle env) s))
        (turns o.eventsPerTransaction o.limit.toNat (readable records o.offset.toNat).length 0 0)
        (ret = .ok ())
        (turns o.eventsPerTransaction o.limit.toNat (records.length - o.offset.toNat) 0 0) := by
  have h := (@cmdLoad_logs _ env _ s h0 h63 hoff criteria records).ends
    (Program.along_of_forall (fun _ _ => trivial) _ _)
  rw [(Program.run_logged _ s []).1] at h
  exact h

end

/-- An environment in which nothing fails and no signal arrives. -/
def calm {μ : Type} (m : μ) : Environment μ where
  fault _ := .none
  stop _ := false
  content _ := m
  selected _ := true

/-- No run of the load takes more events than the limit, and one in which nothing fails takes as many
as there are up to the limit. -/
def LimitKept {μ : Type} (o : Settings) (records : List (Record μ)) : Prop :=
  ∀ (env : Environment μ) (criteria : μ → Bool) (s : Databases μ),
    (∃ k ≤ o.limit.toNat, insertions ((o.cmdLoad criteria [some records]).requests (handle env) s) =
      ((readable records o.offset.toNat).take k).filter criteria) ∧
    (env.Quiet → (∃ count, ((o.cmdLoad criteria [some records]).run (handle env) s).1 =
        .ok (.ok (), count)) →
      insertions ((o.cmdLoad criteria [some records]).requests (handle env) s) =
        ((readable records o.offset.toNat).take
          (min o.limit.toNat (records.length - o.offset.toNat))).filter criteria)

/-- The limit is kept when it falls on the end of a transaction, or there are no more events than it
allows. -/
theorem cmdLoad_limit_iff {μ : Type} (o : Settings) (records : List (Record μ)) (h0 : 0 ≤ o.limit)
    (h63 : o.limit < 2 ^ 63) (hoff : 0 ≤ o.offset) :
    LimitKept o records ↔ (readable records o.offset.toNat).length ≤ o.limit.toNat ∨
      o.eventsPerTransaction ∣ o.limit.toNat := by
  rw [← turns_le_iff]
  constructor
  · intro h
    rcases hr : readable records o.offset.toNat with _ | ⟨m, ms⟩
    · exact Nat.zero_le _
    · have hq : (calm m).Quiet := fun _ => ⟨rfl, rfl⟩
      obtain ⟨⟨k, hk, hins⟩, -⟩ := h (calm m) (fun _ => true) ⟨[], ⟨[], none⟩, false, 0⟩
      obtain ⟨ret, count, -, k', hk', hins', hquiet⟩ :=
        cmdLoad_taken (calm m) ⟨[], ⟨[], none⟩, false, 0⟩ h0 h63 hoff (fun _ => true) records
      rw [hins, hr, List.nil_append, (hquiet hq).1] at hins'
      have hlen := congrArg List.length hins'
      simp only [List.filter_true, List.length_take, hr] at hlen hk' ⊢
      have hmost := turns_le (E := o.eventsPerTransaction) (n := o.limit.toNat) (m :: ms).length 0 0
      omega
  · intro h env criteria s
    obtain ⟨ret, count, hrun, k, hk, hins, hquiet⟩ :=
      cmdLoad_taken env s h0 h63 hoff criteria records
    rw [List.nil_append] at hins
    refine ⟨⟨k, hk.trans h, hins⟩, fun hq hret => ?_⟩
    obtain ⟨count', hret⟩ := hret
    rw [hrun] at hret
    cases hret
    obtain ⟨hmost, htotal⟩ := hquiet hq
    rw [hins, hmost, htotal rfl, turns_exact ((turns_le_iff _).mp h) (htotal rfl)]

/-- Two messages with a limit of one and the transactions of the default size. -/
def countOne : Settings := ⟨1000, 1, 0, false⟩

def twoRecords : List (Record ℕ) := [.message (.ok 5), .message (.ok 7)]

/-- A limit that is a multiple of the transaction size. -/
theorem cmdLoad_limit_of_dvd : LimitKept ⟨2, 4, 1, false⟩ twoRecords :=
  (cmdLoad_limit_iff ⟨2, 4, 1, false⟩ twoRecords (by decide) (by decide) (by decide)).mpr
    (.inr (by decide))

/-- Both messages are loaded. -/
theorem cmdLoad_exceeds_limit : ¬ LimitKept countOne twoRecords := by
  intro h
  obtain ⟨⟨k, hk, hins⟩, -⟩ := h (calm 0) (fun _ => true) ⟨[], ⟨[], none⟩, false, 0⟩
  have hboth : insertions ((countOne.cmdLoad (fun _ => true) [some twoRecords]).requests
      (handle (calm 0)) ⟨[], ⟨[], none⟩, false, 0⟩) = [5, 7] := rfl
  rw [hboth] at hins
  have hlen := congrArg List.length hins
  have hone : countOne.limit.toNat = 1 := rfl
  simp only [List.filter_true, List.length_take, List.length_cons, List.length_nil] at hlen
  omega

end Preludedb.Admin
