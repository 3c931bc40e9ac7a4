import Preludedb.Classic.Insert
import Preludedb.Sql.Steady

/-! A transaction of the storage format on a connection: how it starts, what its calls see, and
how it ends. -/

namespace Preludedb.Classic

open Foundations Sql

/-- The session of a program that has just started, on an empty database. -/
def newWorld : World := ⟨Connection.new Database.empty, 0⟩

section

variable {b : Backend} {p : Pattern}

lemma inTransaction_run (body : Action Unit) (w : World) : run b p (inTransaction body) w =
    match handle b p .transactionStart w with
    | (.error e, w) => (.error e, w)
    | (.ok _, w) => match run b p body w with
      | (.ok _, w) => handle b p .transactionEnd w
      | (.error e, w) => match handle b p .transactionAbort w with
        | (.error e', w) => (.error e', w)
        | (.ok _, w) => (.error e, w) := by
  simp only [run, inTransaction, Program.run_bind, Program.run_attempt, Program.run_call]
  rcases handle b p .transactionStart w with ⟨e | u, w₁⟩
  · rfl
  · simp only
    rcases Program.run (handle b p) body w₁ with ⟨e | u, w₂⟩
    · simp only [Program.run_bind, Program.run_call]
      rcases handle b p .transactionAbort w₂ with ⟨e' | u, w₃⟩ <;> rfl
    · simp only [Program.run_bind, Program.run_call]
      rcases handle b p .transactionEnd w₂ with ⟨e | u, w₃⟩ <;> rfl

lemma inTransaction_end {body : Action Unit} {w : World}
    (hs : (handle b p .transactionStart w).1 = .ok ())
    (hb : (run b p body (handle b p .transactionStart w).2).1 = .ok ()) :
    run b p (inTransaction body) w =
      handle b p .transactionEnd (run b p body (handle b p .transactionStart w).2).2 := by
  rw [inTransaction_run]
  rcases hw : handle b p .transactionStart w with ⟨e | u, w₁⟩
  · rw [hw] at hs
    cases hs
  · rw [hw] at hb
    rcases hr : run b p body w₁ with ⟨e | u, w₂⟩
    · rw [hr] at hb
      cases hb
    · simp only [hr]
      rfl

lemma inTransaction_abort {body : Action Unit} {w : World} {e : SqlError}
    (hs : (handle b p .transactionStart w).1 = .ok ())
    (hb : (run b p body (handle b p .transactionStart w).2).1 = .error e) :
    (run b p (inTransaction body) w).2 =
      (handle b p .transactionAbort (run b p body (handle b p .transactionStart w).2).2).2 := by
  rw [inTransaction_run]
  rcases hw : handle b p .transactionStart w with ⟨e₁ | u, w₁⟩
  · rw [hw] at hs
    cases hs
  · rw [hw] at hb
    rcases hr : run b p body w₁ with ⟨e₂ | u, w₂⟩
    · simp only [hr]
      rcases handle b p .transactionAbort w₂ with ⟨e₃ | u, w₃⟩ <;> rfl
    · rw [hr] at hb
      cases hb

lemma inTransaction_ok {body : Action Unit} {w : World}
    (h : (run b p (inTransaction body) w).1 = .ok ()) :
    (handle b p .transactionStart w).1 = .ok () ∧
      (run b p body (handle b p .transactionStart w).2).1 = .ok () := by
  rw [inTransaction_run] at h
  rcases hs : handle b p .transactionStart w with ⟨e | u, w₁⟩
  · rw [hs] at h
    cases h
  · rw [hs] at h
    rcases hb : run b p body w₁ with ⟨e | u, w₂⟩
    · simp only [hb] at h
      rcases ha : handle b p .transactionAbort w₂ with ⟨e' | u, w₃⟩ <;>
      · rw [ha] at h
        cases h
    · exact ⟨rfl, rfl⟩

/-- The three places where a transaction fails. -/
lemma inTransaction_error {body : Action Unit} {w w' : World} {e : SqlError}
    (h : run b p (inTransaction body) w = (.error e, w')) :
    (∃ e', handle b p .transactionStart w = (.error e', w')) ∨
      ∃ w₁, handle b p .transactionStart w = (.ok (), w₁) ∧
        ((∃ e' w₂, run b p body w₁ = (.error e', w₂) ∧ (handle b p .transactionAbort w₂).2 = w') ∨
          ∃ e' w₂, run b p body w₁ = (.ok (), w₂) ∧
            handle b p .transactionEnd w₂ = (.error e', w')) := by
  rw [inTransaction_run] at h
  rcases hs : handle b p .transactionStart w with ⟨e₁ | u, w₁⟩
  · rw [hs] at h
    obtain ⟨-, rfl⟩ := Prod.mk.inj h
    exact .inl ⟨e₁, rfl⟩
  · rw [hs] at h
    refine .inr ⟨w₁, rfl, ?_⟩
    rcases hb : run b p body w₁ with ⟨e₂ | u, w₂⟩
    · simp only [hb] at h
      refine .inl ⟨e₂, w₂, rfl, ?_⟩
      rcases ha : handle b p .transactionAbort w₂ with ⟨e₃ | u, w₃⟩ <;>
      · rw [ha] at h
        exact (Prod.mk.inj h).2
    · simp only [hb] at h
      exact .inr ⟨e, w₂, rfl, h⟩

lemma inTransaction_succeeds {body : Action Unit} {w : World} {C : Request → Prop}
    (hs : ¬ C .transactionStart) (he : ¬ C .transactionEnd) (ha : ¬ C .transactionAbort)
    (h : (handle b p .transactionStart w).1 = .ok ()) :
    (inTransaction body).Succeeds (handle b p) C w ↔
      body.Succeeds (handle b p) C (handle b p .transactionStart w).2 := by
  have hcall {r : Request} (hr : ¬ C r) (w : World) :
      (Program.call r : Action _).Succeeds (handle b p) C w :=
    Program.succeeds_call.mpr fun h => absurd h hr
  simp only [inTransaction, Program.succeeds_bind, Program.succeeds_attempt, Program.run_attempt,
    Program.run_call, h, Except.ok.injEq]
  refine ⟨fun h' => (h'.2 () rfl).1, fun hb => ⟨hcall hs w, fun _ _ => ⟨hb, ?_⟩⟩⟩
  rintro (e | u) -
  · exact Program.succeeds_bind.mpr ⟨hcall ha _, fun _ _ => trivial⟩
  · exact Program.succeeds_bind.mpr ⟨hcall he _, fun _ _ => trivial⟩

end

section Serving

variable (b : Backend)

/-- The database alone, as an environment that answers every request. -/
def serve (r : Request) (d : Database) : Except SqlError (r.Reply Result) × Database :=
  r.serve (engine b) d

lemma serve_run_call (r : Request) (d : Database) :
    (Program.call r).run (serve b) d = serve b r d := Program.run_call _ r d

lemma foldl_max_of_le {is : List ℕ} {n : ℕ} (i : ℕ) (hi : i ≤ n) (h : ∀ j ∈ is, j ≤ n) :
    (is ++ [n]).foldl max i = n := by
  have hm : is.foldl max i ≤ n := by
    induction is generalizing i with
    | nil => exact hi
    | cons j js ih =>
      exact ih (max i j) (max_le hi (h j (by simp))) fun j' hj' => h j' (by simp [hj'])
  rw [List.foldl_append]
  exact max_eq_right hm

def messageRow (d : Database) (k : Kind) (fields : List (String × Cell)) : Row :=
  ⟨d.counter k, none, [], none, fields⟩

/-- The greatest ident is the one that was given last. -/
lemma maxIdent_insertMessage (d : Database) (k : Kind) (fields : List (String × Cell)) :
    (d.write (.insert k.table (messageRow d k fields))).maxIdent k = .number (d.counter k) := by
  have hrows : ((d.write (.insert k.table (messageRow d k fields))).tables k.table).map
      Row.messageIdent = (d.tables k.table).map Row.messageIdent ++ [d.counter k] := by
    simp [TableWrite.apply, messageRow]
  have hold : ∀ i ∈ (d.tables k.table).map Row.messageIdent, i < d.counter k := by
    simpa using d.fresh k
  rw [Database.maxIdent, hrows]
  cases hi : (d.tables k.table).map Row.messageIdent with
  | nil => rfl
  | cons i is =>
    rw [hi] at hold
    have hm := foldl_max_of_le i (hold i (by simp)).le fun j hj =>
      (hold j (List.mem_cons_of_mem i hj)).le
    simp only [List.cons_append, hm]

lemma fieldToUint64_natCast {n i : ℕ} :
    fieldToUint64 (.number n) = .ok i ↔ n < 2 ^ 64 ∧ i = n := by
  have hrange : ((0 : Int) ≤ n ∧ (n : Int) < 2 ^ 64) ↔ n < 2 ^ 64 := by
    constructor <;> intro h <;> omega
  rw [fieldToUint64]
  by_cases hn : n < 2 ^ 64
  · rw [if_pos (hrange.mpr hn), Int.toNat_natCast, Except.ok.injEq]
    exact ⟨fun h => ⟨hn, h.symm⟩, fun h => h.2.symm⟩
  · rw [if_neg (hrange.not.mpr hn)]
    exact ⟨fun h => (by cases h), fun h => absurd h.1 hn⟩

lemma getLastInsertIdent_serve {d : Database} {k : Kind} {n : ℕ} (h : d.maxIdent k = .number n) :
    (getLastInsertIdent k).run (serve b) d = (fieldToUint64 (.number n), d) := by
  have hasked : serve b (.query (.data (.selectMaxIdent k))) d =
      (.ok (some [[d.maxIdent k]]), d) := rfl
  have hfetched : serve b .fetchRow d = (.ok (), d) := rfl
  have hfield : serve b .fetchField d = (.ok (), d) := rfl
  rw [getLastInsertIdent, Program.run_bind, Program.run_call, hasked]
  simp only [lastIdentOf, Program.run_bind, Program.run_call, hfetched, hfield, List.headD_cons, h, identOf]
  cases fieldToUint64 (.number n) <;> rfl

lemma insertMessage_serve (d : Database) (k : Kind) (fields : List (String × Cell)) :
    (insertMessage k fields).run (serve b) d =
      (fieldToUint64 (.number (d.counter k)), d.write (.insert k.table (messageRow d k fields))) := by
  have hsent : serve b (.query (.data (.insertMessage k fields))) d =
      (.ok none, d.write (.insert k.table (messageRow d k fields))) := rfl
  rw [insertMessage, Program.run_bind, Program.run_call, hsent]
  exact getLastInsertIdent_serve b (maxIdent_insertMessage d k fields)

end Serving

/-- A session inside a transaction that sees the database `d`. -/
structure Inside (d : Database) (c : Session) : Prop where
  connected : c.status.connected = true
  transaction : c.status.transaction = true
  pending : c.server.pending.isSome = true
  view : c.server.view Database.write = d

section

variable {b : Backend} {p : Pattern} {r : Request} {w : World} {d : Database}

lemma Inside.answered {c c' : Session} (hr : r.inner = true) (h : Inside d c)
    (ha : Call.Answered (engine b) r c c') : Inside (serve b r d).2 c' where
  connected := ha.status ▸ h.connected
  transaction := ha.status ▸ h.transaction
  pending := ha.server ▸ (Call.effect_open (engine b) hr h.pending).2
  view := by
    rw [ha.server, ← h.view]
    exact Call.effect_view (engine b) hr c.server

lemma Inside.handle (hr : r.inner = true) (h : Inside d w.session)
    (hok : ∀ e, (handle b p r w).1 ≠ .error e) :
    (handle b p r w).1 = (serve b r d).1 ∧ Inside (serve b r d).2 (handle b p r w).2.session := by
  rcases Call.perform_cases (E := engine b) (o := p w.clock r) hr h.connected with
    ⟨hx, ha⟩ | ⟨e, he, -⟩
  · have hv : w.session.server.view (engine b).apply = d := h.view
    rw [hv] at hx
    exact ⟨hx, h.answered hr ha⟩
  · exact absurd he (hok e)

/-- What a program inside a transaction does when none of its requests fails. -/
lemma Inside.run {α : Type} {a : Action α} {Q : Request → Prop} (hQ : ∀ r, Q r → r.inner = true)
    (hq : a.Requests Q) (h : Inside d w.session)
    (hs : a.Succeeds (Classic.handle b p) (fun _ => True) w) :
    (run b p a w).1 = (a.run (serve b) d).1 ∧
      Inside (a.run (serve b) d).2 (run b p a w).2.session :=
  Program.Requests.run_answered (serve b)
    (R := fun (w : World) d => Inside d w.session)
    (fun r _ _ hr h hok => Inside.handle (hQ r hr) h hok) hq h hs

lemma handle_start (hd : w.session.internalTransactionDisabled = false) :
    handle b p .transactionStart w =
      ((w.session.baseTransactionStart (engine b) (p w.clock .transactionStart)).1,
        ⟨(w.session.baseTransactionStart (engine b) (p w.clock .transactionStart)).2, w.clock + 1⟩) := by
  rw [handle, Call.perform, Connection.transactionStart, hd, if_neg Bool.false_ne_true]
  rfl

lemma handle_end (hd : w.session.internalTransactionDisabled = false) :
    handle b p .transactionEnd w =
      ((w.session.baseTransactionEnd (engine b) (p w.clock .transactionEnd)).1,
        ⟨(w.session.baseTransactionEnd (engine b) (p w.clock .transactionEnd)).2, w.clock + 1⟩) := by
  rw [handle, Call.perform, Connection.transactionEnd, hd, if_neg Bool.false_ne_true]
  rfl

lemma handle_abort (hd : w.session.internalTransactionDisabled = false) :
    handle b p .transactionAbort w =
      ((w.session.baseTransactionAbort (engine b) (p w.clock .transactionAbort)).1,
        ⟨(w.session.baseTransactionAbort (engine b) (p w.clock .transactionAbort)).2, w.clock + 1⟩) := by
  rw [handle, Call.perform, Connection.transactionAbort, hd, if_neg Bool.false_ne_true]
  rfl

lemma handle_outer (hd : w.session.internalTransactionDisabled = true) :
    handle b p .transactionStart w = (.ok (), ⟨w.session, w.clock + 1⟩) ∧
      handle b p .transactionEnd w = (.ok (), ⟨w.session, w.clock + 1⟩) ∧
      handle b p .transactionAbort w = (.ok (), ⟨w.session, w.clock + 1⟩) := by
  refine ⟨?_, ?_, ?_⟩
  · rw [handle, Call.perform, Connection.transactionStart, hd, if_pos rfl]
    rfl
  · rw [handle, Call.perform, Connection.transactionEnd, hd, if_pos rfl]
    rfl
  · rw [handle, Call.perform, Connection.transactionAbort, hd, if_pos rfl]
    rfl

/-- No call fails. -/
def Faultless (p : Pattern) : Prop := ∀ n r, p n r = .ok

/-- A session on which a program of the format can run: outside any transaction, or inside one of
the caller. -/
inductive Serving (d : Database) (c : Session) : Prop
  | idle (transaction : c.status.transaction = false)
    (enabled : c.internalTransactionDisabled = false) (closed : c.server.pending = none)
    (durable : c.server.durable = d)
  | outer (inside : Inside d c) (disabled : c.internalTransactionDisabled = true)

lemma Inside.handle_faultless (hp : Faultless p) (hr : r.inner = true) (h : Inside d w.session) :
    ((Classic.handle b p r w).1 = (serve b r d).1 ∧
      Inside (serve b r d).2 (Classic.handle b p r w).2.session) ∧
      (Classic.handle b p r w).2.session.internalTransactionDisabled =
        w.session.internalTransactionDisabled := by
  rcases Call.perform_cases (E := engine b) (o := p w.clock r) hr h.connected with
    ⟨hx, ha⟩ | ⟨e, -, ho, -⟩
  · have hv : w.session.server.view (engine b).apply = d := h.view
    rw [hv] at hx
    exact ⟨⟨hx, h.answered hr ha⟩, ha.disabled⟩
  · rw [hp] at ho
    cases ho

lemma Inside.run_faultless {α : Type} {a : Action α} (hp : Faultless p)
    (hq : a.Requests fun r => r.inner = true) (h : Inside d w.session) :
    (Classic.run b p a w).1 = (a.run (serve b) d).1 ∧
      Inside (a.run (serve b) d).2 (Classic.run b p a w).2.session ∧
      (Classic.run b p a w).2.session.internalTransactionDisabled =
        w.session.internalTransactionDisabled := by
  have hrel := hq.run_related (Classic.handle b p) (serve b)
    (R := fun (w' : World) d => Inside d w'.session ∧
      w'.session.internalTransactionDisabled = w.session.internalTransactionDisabled)
    (fun r w' d hr ⟨h, hd⟩ => by
      obtain ⟨⟨hx, hi⟩, hd'⟩ := h.handle_faultless (b := b) hp hr
      exact ⟨hx, hi, hd'.trans hd⟩) (s := w) (t := d) ⟨h, rfl⟩
  exact hrel

lemma start_faultless (hp : Faultless p) (ht : w.session.status.transaction = false)
    (hd : w.session.internalTransactionDisabled = false) (hc : w.session.server.pending = none) :
    (handle b p .transactionStart w).1 = .ok () ∧
      Inside w.session.server.durable (handle b p .transactionStart w).2.session ∧
      (handle b p .transactionStart w).2.session.internalTransactionDisabled = false ∧
      (handle b p .transactionStart w).2.session.server.durable = w.session.server.durable := by
  have hview : w.session.server.view Database.write = w.session.server.durable :=
    Store.view_closed _ _ hc
  rw [handle_start hd, hp]
  cases hconn : w.session.status.connected with
  | true =>
    rw [Connection.start_ok ht hconn rfl]
    exact ⟨rfl, ⟨hconn, rfl, rfl, hview⟩, hd, hview⟩
  | false =>
    have ht' : w.session.opened.status.transaction = false := rfl
    rw [Connection.start_opened ht hconn rfl, Connection.start_ok ht' rfl rfl]
    exact ⟨rfl, ⟨rfl, rfl, rfl, rfl⟩, hd, rfl⟩

lemma end_faultless (hp : Faultless p) (h : Inside d w.session)
    (hd : w.session.internalTransactionDisabled = false) :
    (handle b p .transactionEnd w).1 = .ok () ∧ Serving d (handle b p .transactionEnd w).2.session := by
  rw [handle_end hd, hp, Connection.end_inside h.transaction, Connection.query_ok h.connected rfl]
  exact ⟨rfl, .idle rfl hd rfl h.view⟩

/-- A transaction of the format is what its body does to the database. -/
lemma inTransaction_serve {body : Action Unit} (hp : Faultless p)
    (hq : body.Requests fun r => r.inner = true) (h : Serving d w.session)
    (hok : (body.run (serve b) d).1 = .ok ()) :
    (run b p (inTransaction body) w).1 = .ok () ∧
      Serving (body.run (serve b) d).2 (run b p (inTransaction body) w).2.session := by
  cases h with
  | idle ht hd hc hv =>
    obtain ⟨hs, hi, hd', -⟩ := start_faultless (b := b) hp ht hd hc
    rw [hv] at hi
    obtain ⟨hb, hi', hd''⟩ := hi.run_faultless (b := b) hp hq
    rw [inTransaction_end hs (hb.trans hok)]
    exact end_faultless hp hi' (hd''.trans hd')
  | outer hi hd =>
    have hs := (handle_outer (b := b) (p := p) hd).1
    have hi₁ : Inside d (handle b p .transactionStart w).2.session := by
      rw [hs]
      exact hi
    have hd₁ : (handle b p .transactionStart w).2.session.internalTransactionDisabled = true := by
      rw [hs]
      exact hd
    obtain ⟨hb, hi', hd'⟩ := hi₁.run_faultless (b := b) hp hq
    rw [inTransaction_end (congrArg Prod.fst hs) (hb.trans hok),
      (handle_outer (hd'.trans hd₁)).2.1]
    exact ⟨rfl, .outer hi' (hd'.trans hd₁)⟩

/-- A call outside the transaction functions, on whichever session. -/
lemma Serving.handle (hp : Faultless p) (hr : r.inner = true) (h : Serving d w.session) :
    (Classic.handle b p r w).1 = (serve b r d).1 ∧
      Serving (serve b r d).2 (Classic.handle b p r w).2.session := by
  cases h with
  | idle ht hd hc hv =>
    obtain ⟨c, hw, hx, ha⟩ := Call.perform_answered (E := engine b) (c := w.session) hr (hp w.clock r)
    have hserver : c.server.pending = none ∧ c.server.durable = d ∧ c.status.transaction = false ∧
        c.internalTransactionDisabled = false := by
      rcases hw with rfl | rfl
      · exact ⟨hc, hv, ht, hd⟩
      · exact ⟨rfl, hv, rfl, hd⟩
    obtain ⟨hc, hv, ht, hd⟩ := hserver
    have hview : c.server.view (engine b).apply = d := (Store.view_closed _ _ hc).trans hv
    rw [hview] at hx
    have hclosed := Call.effect_closed (engine b) hr hc
    have hafter := (Call.effect_view (engine b) hr c.server).symm.trans (Store.view_closed _ _ hclosed)
    rw [hview] at hafter
    exact ⟨hx, .idle (ha.status ▸ ht) (ha.disabled.trans hd) (ha.server ▸ hclosed)
      ((congrArg Store.durable ha.server).trans hafter.symm)⟩
  | outer hi hd =>
    obtain ⟨⟨hx, hi'⟩, hd'⟩ := hi.handle_faultless (b := b) hp hr
    exact ⟨hx, .outer hi' (hd'.trans hd)⟩

lemma Serving.run {α : Type} {a : Action α} (hp : Faultless p)
    (hq : a.Requests fun r => r.inner = true) (h : Serving d w.session) :
    (Classic.run b p a w).1 = (a.run (serve b) d).1 ∧
      Serving (a.run (serve b) d).2 (Classic.run b p a w).2.session :=
  hq.run_related (Classic.handle b p) (serve b) (R := fun (w : World) d => Serving d w.session)
    (fun _ _ _ hr h => h.handle hp hr) h

lemma Inside.run_durable {α : Type} {a : Action α} (hp : Faultless p)
    (hq : a.Requests fun r => r.inner = true) (h : Inside d w.session) :
    (Classic.run b p a w).2.session.server.durable = w.session.server.durable := by
  have hstep : ∀ (r : Request) (w' : World), r.inner = true →
      ((∃ d, Inside d w'.session) ∧ w'.session.server.durable = w.session.server.durable) →
      ((∃ d, Inside d (Classic.handle b p r w').2.session) ∧
        (Classic.handle b p r w').2.session.server.durable = w.session.server.durable) := by
    rintro r w' hr ⟨⟨d, hi⟩, hd⟩
    refine ⟨⟨_, (hi.handle_faultless (b := b) hp hr).1.2⟩, ?_⟩
    rcases Call.perform_cases (E := engine b) (o := p w'.clock r) hr hi.connected with
      ⟨-, ha⟩ | ⟨e, -, ho, -⟩
    · exact (congrArg Store.durable ha.server).trans
        ((Call.effect_open (engine b) hr hi.pending).1.trans hd)
    · rw [hp] at ho
      cases ho
  exact (hq.run_preserves (Classic.handle b p)
    (I := fun w' : World => (∃ d, Inside d w'.session) ∧
      w'.session.server.durable = w.session.server.durable) hstep ⟨⟨d, h⟩, rfl⟩).2

lemma abort_faultless (hp : Faultless p) (h : Inside d w.session)
    (hd : w.session.internalTransactionDisabled = false) :
    (handle b p .transactionAbort w).1 = .ok () ∧
      Serving w.session.server.durable (handle b p .transactionAbort w).2.session := by
  have hconn : (w.session.setTransaction false).status.connected = true := h.connected
  have hquery := Connection.query_ok (E := engine b) (s := .rollback) (o := .ok) hconn rfl
  rw [handle_abort hd, hp, Connection.baseTransactionAbort, if_pos h.transaction]
  simp only [hconn, hquery]
  cases w.session.threadError <;> exact ⟨rfl, .idle rfl hd rfl rfl⟩

/-- What a transaction of the format leaves when no call fails, its body stopped or not. -/
lemma inTransaction_serving {body : Action Unit} (hp : Faultless p)
    (hq : body.Requests fun r => r.inner = true) (h : Serving d w.session) :
    ∃ d', Serving d' (run b p (inTransaction body) w).2.session ∧
      (d' = d ∨ d' = (body.run (serve b) d).2) := by
  rcases hbody : body.run (serve b) d with ⟨e | u, d'⟩
  · cases h with
    | idle ht hd hc hv =>
      obtain ⟨hs, hi, hd', hdur⟩ := start_faultless (b := b) hp ht hd hc
      have hdurable := (hi.run_durable (b := b) hp hq).trans hdur
      rw [hv] at hi hdurable
      obtain ⟨hb, hi', hd''⟩ := hi.run_faultless (b := b) hp hq
      obtain ⟨-, habort⟩ := abort_faultless (b := b) hp hi' (hd''.trans hd')
      rw [hdurable] at habort
      refine ⟨d, ?_, .inl rfl⟩
      rw [inTransaction_abort hs (hb.trans (congrArg Prod.fst hbody))]
      exact habort
    | outer hi hd =>
      have hs := (handle_outer (b := b) (p := p) hd).1
      have hi₁ : Inside d (handle b p .transactionStart w).2.session := by
        rw [hs]
        exact hi
      have hd₁ : (handle b p .transactionStart w).2.session.internalTransactionDisabled = true := by
        rw [hs]
        exact hd
      obtain ⟨hb, hi', hd'⟩ := hi₁.run_faultless (b := b) hp hq
      refine ⟨d', ?_, .inr rfl⟩
      rw [inTransaction_abort (congrArg Prod.fst hs) (hb.trans (congrArg Prod.fst hbody)),
        (handle_outer (hd'.trans hd₁)).2.2]
      rw [hbody] at hi'
      exact .outer hi' (hd'.trans hd₁)
  · exact ⟨_, (inTransaction_serve hp hq h (congrArg Prod.fst hbody)).2, .inr (congrArg Prod.snd hbody)⟩

lemma serve_of_inTransaction {body : Action Unit} (hp : Faultless p)
    (hq : body.Requests fun r => r.inner = true) (h : Serving d w.session)
    (hok : (run b p (inTransaction body) w).1 = .ok ()) : (body.run (serve b) d).1 = .ok () := by
  obtain ⟨-, hbody⟩ := inTransaction_ok hok
  cases h with
  | idle ht hd hc hv =>
    obtain ⟨-, hi, -, -⟩ := start_faultless (b := b) hp ht hd hc
    rw [hv] at hi
    exact (hi.run_faultless hp hq).1.symm.trans hbody
  | outer hi hd =>
    rw [(handle_outer (b := b) (p := p) hd).1] at hbody
    exact (Inside.run_faultless (w := ⟨w.session, w.clock + 1⟩) hp hq hi).1.symm.trans hbody

end

end Preludedb.Classic
