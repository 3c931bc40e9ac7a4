import Preludedb.Admin.Pages

/-! Where a command that stops early says it is to be resumed: the events it counts are the ones that
are durable in the destination. -/

namespace Preludedb.Admin

open Foundations Sql

variable {μ : Type} {env : Environment μ} {o : Settings} {s s' : Databases μ} {g : Progress}
  {criteria : μ → Bool} {before done : List μ} {n : ℕ}

/-- The load has reached its limit, or a signal has arrived. -/
def Over (env : Environment μ) (o : Settings) (g : Progress) (s : Databases μ) : Prop :=
  o.limitReached g ∨ env.stop s.clock = true

lemma Over.next (hstop : Monotone env.stop) (h : Over env o g s) : Over env o g s.next :=
  h.imp_right fun h => hstop (Nat.le_succ s.clock) h

lemma insertMatching_pass {m : μ} (hm : criteria m = false) :
    Settings.insertMatching criteria m = pure (.ok ()) := by
  rw [Settings.insertMatching, hm]
  rfl

lemma insertMatching_insert {m : μ} (hm : criteria m = true) :
    Settings.insertMatching criteria m = (Program.call (Api.insertMessage m)).attempt := by
  rw [Settings.insertMatching, hm]
  rfl

lemma loadFromFile_over (hstop : Monotone env.stop) (records : List (Record μ)) (offset : Int)
    (h : Tallied o criteria before done 0 g s) (ho : Over env o g s) :
    (o.loadFromFile criteria records offset g).Secures (handle env) (Counts env o) (fun _ => True)
      (fun x s' => ∃ ret, x = .ok (ret, g) ∧ Tallied o criteria before done 0 g s' ∧
        Over env o g s') s := by
  induction records generalizing offset s with
  | nil => exact ⟨trivial, fun _ => ⟨trivial, _, rfl, h.next, ho.next hstop⟩⟩
  | cons record rest ih =>
    rw [Settings.loadFromFile]
    have hnext := ho.next hstop
    refine stop_secures trivial ?_
    split
    · exact ⟨trivial, _, rfl, h.next, hnext⟩
    · next hs =>
      have hlim : o.limitReached g := ho.resolve_right hs
      cases record with
      | unreadable e => exact ⟨trivial, _, rfl, h.next, hnext⟩
      | message decoded =>
        by_cases hskip : 0 < offset
        · simp only [Settings.doReadMessage, if_pos hskip]
          exact ih _ h.next hnext
        · simp only [Settings.doReadMessage, if_neg hskip, if_pos hlim]
          exact ⟨trivial, _, rfl, h.next, hnext⟩

/-- How a load leaves a file that holds `events` past the offset. -/
def Loaded (env : Environment μ) (o : Settings) (criteria : μ → Bool) (before done events : List μ)
    (x : Except SqlError (Except SqlError Unit × Progress)) (s : Databases μ) : Prop :=
  ∃ ret g done', x = .ok (ret, g) ∧ done' <+: done ++ events ∧
    Resumable criteria before done' g.curCount s ∧
    (ret = .ok () → Tallied o criteria before done' 0 g s ∧
      (done' = done ++ events ∨ Over env o g s))

lemma Loaded.failed {events : List μ} {e : SqlError}
    (h : Resumable criteria before done g.curCount s) :
    Loaded env o criteria before done events (.ok (.error e, g)) s :=
  ⟨_, _, done, rfl, List.prefix_append _ _, h, fun h => by cases h⟩

lemma Loaded.over {events : List μ} (h : Tallied o criteria before done 0 g s)
    (ho : Over env o g s) : Loaded env o criteria before done events (.ok (.ok (), g)) s :=
  ⟨_, _, done, rfl, List.prefix_append _ _, h.resumable, fun _ => ⟨h, .inr ho⟩⟩

lemma Loaded.cons {m : μ} {events : List μ} {x : Except SqlError (Except SqlError Unit × Progress)}
    (h : Loaded env o criteria before (done ++ [m]) events x s) :
    Loaded env o criteria before done (m :: events) x s := by
  rw [Loaded, List.append_assoc, List.singleton_append] at h
  exact h

/-- One turn of the loop for each message of the file: those it has read past the offset are in the
destination and its counter. -/
lemma loadFromFile_tallies (hstop : Monotone env.stop) (records : List (Record μ)) (offset : ℕ)
    (h : Tallied o criteria before done 0 g s) :
    (o.loadFromFile criteria records offset g).Secures (handle env) (Counts env o) (fun _ => True)
      (Loaded env o criteria before done (readable records offset)) s := by
  induction records generalizing offset g s done with
  | nil =>
    refine ⟨trivial, fun _ => ⟨trivial, _, _, done, rfl, List.prefix_append _ _, h.next.resumable,
      fun _ => ⟨h.next, .inl ?_⟩⟩⟩
    rw [readable, List.append_nil]
  | cons record rest ih =>
    rw [Settings.loadFromFile]
    refine stop_secures trivial ?_
    split
    · next hs => exact ⟨trivial, .over h.next (Over.next hstop (.inr hs))⟩
    · cases record with
      | unreadable e => exact ⟨trivial, .failed h.next.resumable⟩
      | message decoded =>
        cases offset with
        | succ offset =>
          have hskip : (0 : Int) < ((offset + 1 : ℕ) : Int) := by omega
          have hnext : ((offset + 1 : ℕ) : Int) - 1 = offset := by omega
          simp only [Settings.doReadMessage, if_pos hskip, hnext]
          have hrest := ih offset h.next
          cases decoded <;> exact hrest
        | zero =>
          have htake : ¬ (0 : Int) < ((0 : ℕ) : Int) := by omega
          simp only [Settings.doReadMessage, if_neg htake]
          by_cases hlim : o.limitReached g
          · simp only [if_pos hlim]
            exact ⟨trivial, .over h.next (.inl hlim)⟩
          · simp only [if_neg hlim]
            cases decoded with
            | error e => exact ⟨trivial, .failed h.next.resumable⟩
            | ok m =>
              have turn {s₁ : Databases μ} (h₁ : Tallied o criteria before (done ++ [m]) 1 g s₁) :
                  (o.flushTransactionIfNeeded 1 g >>= fun g =>
                    o.loadFromFile criteria rest ((0 : ℕ) : Int) g).Secures (handle env)
                    (Counts env o) (fun _ => True)
                    (Loaded env o criteria before done (m :: readable rest 0)) s₁ := by
                refine (flush_tallies h₁).bind ?_ fun e s hx => by obtain ⟨g', hx, -⟩ := hx; cases hx
                rintro g₁ s₂ - ⟨g', hx, h₂, -⟩
                cases hx
                exact (ih 0 h₂).mono fun x s hx => hx.cons
              cases hm : criteria m with
              | false =>
                simp only [insertMatching_pass hm]
                exact turn (h.next.pass hm)
              | true =>
                simp only [insertMatching_insert hm]
                refine .tried trivial fun hg => ?_
                rcases insert_cases env s.next m with ⟨e, he⟩ | ⟨hok, hs⟩
                · rw [he]
                  exact ⟨trivial, .failed (h.next.resumable.of_durable (insert_failed m he))⟩
                · have hE : o.eventsPerTransaction ≠ 0 := fun hz =>
                    hg hz (insert_faultless m hok)
                  rw [hok, hs]
                  exact turn (h.next.insert hm hE)

/-- The events of the files that can be read past an offset, which counts in each of them. -/
def eventsOf (files : List (Option (List (Record μ)))) (offset : ℕ) : List μ :=
  files.flatMap fun file => readable (file.getD []) offset

lemma readable_of_short {records : List (Record μ)} {offset : ℕ} (h : records.length ≤ offset) :
    readable records offset = [] := by
  induction records generalizing offset with
  | nil => rfl
  | cons record rest ih =>
    rw [List.length_cons] at h
    cases offset with
    | zero => omega
    | succ offset =>
      cases record with
      | unreadable e => rfl
      | message decoded =>
        rw [readable]
        exact ih (by omega)

lemma readable_drop (records : List (Record μ)) (offset k : ℕ)
    (h : k ≤ (readable records offset).length) :
    readable records (offset + k) = (readable records offset).drop k := by
  induction records generalizing offset k with
  | nil => simp [readable]
  | cons record rest ih =>
    cases record with
    | unreadable e => simp [readable]
    | message decoded =>
      cases offset with
      | succ offset =>
        have hsucc : offset + 1 + k = (offset + k) + 1 := by omega
        rw [hsucc]
        cases decoded <;> exact ih offset k h
      | zero =>
        cases k with
        | zero => rfl
        | succ k =>
          cases decoded with
          | error e =>
            rw [readable, List.length_nil] at h
            omega
          | ok m =>
            rw [readable, List.length_cons] at h
            have hrest := ih 0 k (by omega)
            rw [Nat.zero_add] at hrest
            rw [Nat.zero_add, readable, hrest]
            rfl

/-- At most one of the files reaches past the offset. -/
def OneFile (files : List (Option (List (Record μ)))) (offset : ℕ) : Prop :=
  (files.filter fun file => offset < (file.getD []).length).length ≤ 1

lemma eventsOf_of_short {files : List (Option (List (Record μ)))} {offset : ℕ}
    (h : files.filter (fun file => offset < (file.getD []).length) = []) (k : ℕ) :
    eventsOf files (offset + k) = [] := by
  rw [List.filter_eq_nil_iff] at h
  rw [eventsOf, List.flatMap_eq_nil_iff]
  intro file hfile
  have hshort := h file hfile
  simp only [decide_eq_true_eq] at hshort
  exact readable_of_short (by omega)

lemma eventsOf_drop {files : List (Option (List (Record μ)))} {offset k : ℕ}
    (h : OneFile files offset) (hk : k ≤ (eventsOf files offset).length) :
    eventsOf files (offset + k) = (eventsOf files offset).drop k := by
  induction files with
  | nil => simp [eventsOf]
  | cons file rest ih =>
    have hcons (n : ℕ) : eventsOf (file :: rest) n = readable (file.getD []) n ++ eventsOf rest n :=
      rfl
    rw [hcons] at hk
    rw [hcons, hcons]
    by_cases hlong : offset < (file.getD []).length
    · have hrest : rest.filter (fun file => offset < (file.getD []).length) = [] := by
        rw [OneFile, List.filter_cons_of_pos (by simpa using hlong), List.length_cons] at h
        exact List.length_eq_zero_iff.mp (by omega)
      have hnone := eventsOf_of_short hrest 0
      rw [Nat.add_zero] at hnone
      rw [hnone, List.append_nil] at hk ⊢
      rw [eventsOf_of_short hrest, List.append_nil, readable_drop _ _ _ hk]
    · have hrest : OneFile rest offset := by
        rw [OneFile, List.filter_cons_of_neg (by simpa using hlong)] at h
        exact h
      have hnone (n : ℕ) : readable (file.getD []) (offset + n) = [] :=
        readable_of_short (by omega)
      have hzero := hnone 0
      rw [Nat.add_zero] at hzero
      rw [hzero, List.nil_append] at hk ⊢
      rw [hnone, List.nil_append, ih hrest hk]

/-- The files one after the other, as long as neither the limit nor a signal ends the load. -/
lemma loadFiles_resumable (hstop : Monotone env.stop) (h0 : 0 ≤ o.offset)
    (files : List (Option (List (Record μ)))) {range : List μ}
    (h : Tallied o criteria before done 0 g s) (hp : done <+: range)
    (hall : done = range ∨ Over env o g s) :
    (o.loadFiles criteria files g).Secures (handle env) (Counts env o) (fun _ => True)
      (fun x s' => ∃ ret count, x = .ok (ret, count) ∧
        Resumable criteria before (range ++ eventsOf files o.offset.toNat) count s') s := by
  induction files generalizing g s done range with
  | nil =>
    rw [Settings.loadFiles]
    refine (transactionEnd_resumable (.ok ()) h.resumable fun _ => h).bind ?_
      fun e s' hx => by cases hx.1
    rintro u s' - ⟨-, -, hres⟩
    exact ⟨trivial, _, _, rfl, hres.extend (hp.trans (List.prefix_append _ _))⟩
  | cons file rest ih =>
    have hcons : eventsOf (file :: rest) o.offset.toNat =
        readable (file.getD []) o.offset.toNat ++ eventsOf rest o.offset.toNat := rfl
    rw [hcons, ← List.append_assoc]
    cases file with
    | none =>
      refine ⟨trivial, _, _, rfl, h.resumable.extend ?_⟩
      exact hp.trans ((List.prefix_append _ _).trans (List.prefix_append _ _))
    | some records =>
      rw [Settings.loadFiles, Option.getD_some]
      have hload : (o.loadFromFile criteria records o.offset g).Secures (handle env) (Counts env o)
          (fun _ => True) (fun x s' => ∃ ret g' done', x = .ok (ret, g') ∧
            done' <+: range ++ readable records o.offset.toNat ∧
            Resumable criteria before done' g'.curCount s' ∧
            (ret = .ok () → Tallied o criteria before done' 0 g' s' ∧
              (done' = range ++ readable records o.offset.toNat ∨ Over env o g' s'))) s := by
        rcases hall with rfl | hover
        · have hfile := loadFromFile_tallies hstop records o.offset.toNat h
          rw [Int.toNat_of_nonneg h0] at hfile
          exact hfile
        · refine (loadFromFile_over hstop records o.offset h hover).mono ?_
          rintro x s' ⟨ret, rfl, ht, ho⟩
          exact ⟨ret, g, done, rfl, hp.trans (List.prefix_append _ _), ht.resumable,
            fun _ => ⟨ht, .inr ho⟩⟩
      refine hload.bind ?_ fun e s' hx => by obtain ⟨ret, g', done', hx, -⟩ := hx; cases hx
      rintro x s₁ - ⟨ret, g', done', hx, hp', hres, hend⟩
      cases hx
      cases ret with
      | error e =>
        refine (transactionEnd_resumable (.error e) hres fun h => by cases h).bind ?_
          fun e s' hx => by cases hx.1
        rintro u s' - ⟨-, -, hres'⟩
        exact ⟨trivial, _, _, rfl, hres'.extend (hp'.trans (List.prefix_append _ _))⟩
      | ok u =>
        obtain ⟨ht, hall'⟩ := hend rfl
        exact ih ht hp' hall'

/-- The command has made durable the first `count` events from the offset on, and starting again
`count` events later goes on with the others. -/
def ResumesAt (criteria : μ → Bool) (before : List μ) (events : ℕ → List μ) (offset count : ℕ)
    (s : Databases μ) : Prop :=
  Resumable criteria before (events offset) count s ∧
    events (offset + count) = (events offset).drop count

/-- The messages of the source from a position on. -/
def messagesFrom (env : Environment μ) (source : List ℕ) (offset : ℕ) : List μ :=
  ((source.filter env.selected).drop offset).map env.content

lemma window_prefix (env : Environment μ) (o : Settings) (start : List ℕ) :
    o.window env start <+: o.range env start := by
  rw [Settings.window]
  split
  · exact List.prefix_refl _
  · exact List.take_prefix _ _

def copyEach : Settings := ⟨1, -1, 0, false⟩

def defaultCopy : Settings := ⟨1000, -1, 0, false⟩

/-- The session is lost at the first COMMIT, and a signal arrives. -/
def interrupted : Environment ℕ where
  fault k := if k = 9 then .lost (preludedbError .connection) else .none
  stop k := decide (9 ≤ k)
  content i := i
  selected _ := true

end Preludedb.Admin
