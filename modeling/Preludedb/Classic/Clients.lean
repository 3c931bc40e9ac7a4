import Preludedb.Foundations.Runs
import Preludedb.Foundations.Typestates
import Preludedb.Classic.Issued
import Preludedb.Classic.Sessions

/-! Clients that store messages in one database at the same time. A statement sees what is
committed when it is executed and the writes of its own transaction, and the server gives out
idents from a counter that belongs to no transaction. -/

namespace Preludedb.Classic

open Foundations Sql Idmef

namespace Database

lemma counter_le_foldl (k : Kind) (ws : List Write) (d : Database) :
    d.counter k ≤ (ws.foldl write d).counter k := by
  induction ws generalizing d with
  | nil => exact le_rfl
  | cons w ws ih => exact (bump_le k w _).trans (ih (d.write w))

/-- The idents of `ws` are given out, whether or not `ws` is ever committed. -/
def reserve (ws : List Write) (d : Database) : Database where
  tables := d.tables
  counter k := (ws.foldl write d).counter k
  fresh k r hr := (d.fresh k r hr).trans_le (counter_le_foldl k ws d)

end Database

structure Server (ι : Type) where
  database : Database
  pending : ι → Option (List Write)

namespace Server

variable {ι : Type} [DecidableEq ι]

def view (i : ι) (s : Server ι) : Database :=
  ((s.pending i).getD []).foldl Database.write s.database

def write (i : ι) (ws : List Write) (s : Server ι) : Server ι :=
  match s.pending i with
  | none => { s with database := ws.foldl Database.write s.database }
  | some ps =>
    ⟨s.database.reserve (ps ++ ws), Function.update s.pending i (some (ps ++ ws))⟩

def commit (i : ι) (s : Server ι) : Server ι := ⟨s.view i, Function.update s.pending i none⟩

def start (i : ι) (s : Server ι) : Server ι := ⟨s.view i, Function.update s.pending i (some [])⟩

def rollback (i : ι) (s : Server ι) : Server ι :=
  { s with pending := Function.update s.pending i none }

def perform (b : Backend) (i : ι) : (r : Request) → Server ι →
    Except SqlError (r.Reply Result) × Server ι
  | .query (.data q), s => (.ok (exec b (s.view i) q).1, s.write i (exec b (s.view i) q).2)
  | .query .begin, s => (.ok none, s.start i)
  | .query .commit, s => (.ok none, s.commit i)
  | .query .rollback, s => (.ok none, s.rollback i)
  | .baseTransactionStart, s | .transactionStart, s | .outerTransactionStart, s =>
    (.ok (), s.start i)
  | .baseTransactionEnd, s | .transactionEnd, s | .outerTransactionEnd, s => (.ok (), s.commit i)
  | .baseTransactionAbort, s | .transactionAbort, s | .outerTransactionAbort, s =>
    (.ok (), s.rollback i)
  | .escapeFast _, s | .escapeBinary _, s | .unescapeBinary _, s | .fetchRow, s | .fetchField, s
  | .getLastInsertIdent, s => (.ok (), s)

lemma write_counter_le (i : ι) (ws : List Write) (s : Server ι) (k : Kind) :
    s.database.counter k ≤ (s.write i ws).database.counter k := by
  cases hp : s.pending i with
  | none =>
    rw [write, hp]
    exact Database.counter_le_foldl k ws s.database
  | some ps =>
    rw [write, hp]
    exact Database.counter_le_foldl k (ps ++ ws) s.database

lemma write_pending {i j : ι} (hj : j ≠ i) (ws : List Write) (s : Server ι) :
    (s.write i ws).pending j = s.pending j := by
  cases hp : s.pending i <;> rw [write, hp]
  exact Function.update_of_ne hj _ _

lemma perform_counter_le (b : Backend) (i : ι) (r : Request) (s : Server ι) (k : Kind) :
    s.database.counter k ≤ (s.perform b i r).2.database.counter k := by
  have hview : s.database.counter k ≤ (s.view i).counter k := Database.counter_le_foldl k _ _
  cases r with
  | query q =>
    cases q with
    | data q => exact write_counter_le i _ s k
    | begin | commit => exact hview
    | rollback => exact le_rfl
  | baseTransactionStart | transactionStart | outerTransactionStart | baseTransactionEnd
  | transactionEnd | outerTransactionEnd => exact hview
  | _ => exact le_rfl

lemma perform_pending (b : Backend) {i j : ι} (hj : j ≠ i) (r : Request) (s : Server ι) :
    (s.perform b i r).2.pending j = s.pending j := by
  cases r with
  | query q =>
    cases q with
    | data q => exact write_pending hj _ s
    | begin | commit | rollback => exact Function.update_of_ne hj _ _
  | baseTransactionStart | transactionStart | outerTransactionStart | baseTransactionEnd
  | transactionEnd | outerTransactionEnd | baseTransactionAbort | transactionAbort
  | outerTransactionAbort => exact Function.update_of_ne hj _ _
  | _ => rfl

end Server

/-- How far a client is with the message it stores. -/
inductive Phase
  | idle
  | begun
  | inserted (k : Kind)
  | known (k : Kind) (ident : ℕ)
  | closed
  deriving DecidableEq, Repr

def isLocal : Request → Bool
  | .escapeFast _ | .escapeBinary _ | .unescapeBinary _ | .fetchRow | .fetchField => true
  | _ => false

lemma perform_local {ι : Type} [DecidableEq ι] (b : Backend) (i : ι) {r : Request}
    (h : isLocal r = true) (s : Server ι) : (s.perform b i r).2 = s := by
  cases r <;> first | rfl | cases h

/-- The row that holds the ident, as the storage format reads it. -/
def identCell (table : Option Result) : Cell := ((table.getD []).headD []).headD .null

namespace Phase

inductive Allows : Phase → Request → Prop
  | inside {p : Phase} {r : Request} (h : isLocal r = true) : Allows p r
  | start : Allows .idle .transactionStart
  | finish (p : Phase) : Allows p .transactionEnd
  | abort (p : Phase) : Allows p .transactionAbort
  | message (k : Kind) (fields : List (String × Cell)) :
      Allows .begun (.query (.data (.insertMessage k fields)))
  | ident (k : Kind) : Allows (.inserted k) (.query (.data (.selectMaxIdent k)))
  | child (k : Kind) (t : Table) (row : Row) :
      Allows (.known k row.messageIdent) (.query (.data (.insert t row)))

def read (k : Kind) (table : Option Result) : Phase :=
  match fieldToUint64 (identCell table) with
  | .ok ident => .known k ident
  | .error _ => .closed

def next (p : Phase) : (r : Request) → Except SqlError (r.Reply Result) → Phase
  | .transactionStart, .ok _ => .begun
  | .transactionStart, .error _ => .closed
  | .query (.data (.insertMessage k _)), .ok _ => .inserted k
  | .query (.data (.insertMessage _ _)), .error _ => .closed
  | .query (.data (.selectMaxIdent k)), .ok table => read k table
  | .query (.data (.selectMaxIdent _)), .error _ => .closed
  | .transactionEnd, _ | .transactionAbort, _ => .closed
  | _, _ => p

lemma next_ident (p : Phase) (k : Kind) (table : Option Result) :
    p.next (.query (.data (.selectMaxIdent k))) (.ok table) = read k table := rfl

lemma next_local {p : Phase} {r : Request} (h : isLocal r = true)
    (x : Except SqlError (r.Reply Result)) : p.next r x = p := by
  cases r <;> first | rfl | cases h

end Phase

abbrev Follows {α : Type} (post : Phase → α → Prop) (p : Phase) (a : Action α) : Prop :=
  a.Follows Phase.Allows Phase.next post p

section

variable [L : Libprelude]

omit L in
lemma getLastInsertIdent_follows (k : Kind) :
    Follows (fun p ident => p = .known k ident) (.inserted k) (getLastInsertIdent k) := by
  refine .bind (Q := fun p table => p = Phase.read k table) (.call (.ident k) fun _ => rfl) ?_
  rintro _ table rfl
  have hinside {r : Request} (h : isLocal r = true) : Follows (fun p _ => p = Phase.read k table)
      (Phase.read k table) (Program.call r : Action _) :=
    .call (.inside h) fun _ => Phase.next_local h _
  rcases table with _ | _ | ⟨row, rows⟩
  · trivial
  · refine .bind (hinside (r := .fetchRow) rfl) ?_
    rintro _ _ rfl
    trivial
  · refine .bind (hinside (r := .fetchRow) rfl) ?_
    rintro _ _ rfl
    refine .bind (hinside (r := .fetchField) rfl) ?_
    rintro _ _ rfl
    have hcell : identCell (some (row :: rows)) = row.headD .null := rfl
    rw [Phase.read, hcell]
    cases row.headD .null with
    | null => trivial
    | number n =>
      rw [identOf]
      cases fieldToUint64 (.number n) with
      | ok ident => exact rfl
      | error e => trivial
      simp
    | _ => trivial

lemma insertOf_follows (m : Message) : Follows (fun _ _ => True) .begun (insertOf m) := by
  rw [insertOf_eq]
  refine .bind (Q := fun p _ => p = .begun) (.call (.inside rfl) fun _ => rfl) ?_
  rintro _ _ rfl
  refine .bind (Q := fun p ident => p = .known (kindOf m) ident) ?_ ?_
  · refine .bind (Q := fun p _ => p = .inserted (kindOf m)) (.call (.message _ _) fun _ => rfl) ?_
    rintro _ _ rfl
    exact getLastInsertIdent_follows (kindOf m)
  · rintro _ ident rfl
    refine (store_requests (entriesOf_fits m)).follows fun r hr => ?_
    cases hr with
    | escapeFast input | escapeBinary input => exact ⟨.inside rfl, fun x => Phase.next_local rfl x⟩
    | insert e fields h => exact ⟨.child (kindOf m) e.table (e.row ident fields), fun x => rfl⟩

lemma classicInsert_follows (m : Message) : Follows (fun _ _ => True) .idle (classicInsert m) := by
  refine .bind (Q := fun p _ => p = .begun) (.call .start fun _ => rfl) ?_
  rintro _ _ rfl
  refine .bind (insertOf_follows m).attempt fun p ret _ => ?_
  cases ret with
  | error e =>
    exact .bind (Q := fun _ _ => True) (.call (.abort p) fun _ => trivial) fun _ _ _ => trivial
  | ok u =>
    exact .bind (Q := fun _ _ => True) (.call (.finish p) fun _ => trivial) fun _ _ _ => trivial

end

/-- What the server gave a client: the ident of its own row, and the rows it stored. -/
structure Given where
  allocated : Option (Kind × ℕ)
  children : List (Table × Row)
  deriving DecidableEq, Repr

/-- After a request that the server carried out on `d`. -/
def Given.after (d : Database) (r : Request) (g : Given) : Given :=
  match r with
  | .query (.data (.insertMessage k _)) => { g with allocated := some (k, d.counter k) }
  | .query (.data (.insert t row)) => { g with children := g.children ++ [(t, row)] }
  | _ => g

structure Client where
  program : Action Unit
  phase : Phase
  given : Given

/-- The kind of the message whose ident the next statement of the client reads back. -/
def Client.asked (c : Client) : Option Kind :=
  match c.program with
  | .request (.query (.data (.selectMaxIdent k))) _ => some k
  | _ => none

structure System (ι : Type) where
  server : Server ι
  clients : ι → Client

namespace System

variable {ι : Type} [DecidableEq ι] {b : Backend}

def new [L : Libprelude] (d : Database) (m : ι → Message) : System ι :=
  ⟨⟨d, fun _ => none⟩, fun i => ⟨classicInsert (m i), .idle, ⟨none, []⟩⟩⟩

/-- One request of the client `l.1`; `l.2` is the error of a statement that fails. -/
def step (b : Backend) (s : System ι) (l : ι × Option SqlError) : System ι :=
  let c := s.clients l.1
  match c.program with
  | .done _ | .fail _ => s
  | .request r k =>
    match l.2 with
    | some e => ⟨s.server, Function.update s.clients l.1
        ⟨k (.error e), c.phase.next r (.error e), c.given⟩⟩
    | none =>
      let reply := s.server.perform b l.1 r
      ⟨reply.2, Function.update s.clients l.1
        ⟨k reply.1, c.phase.next r reply.1, c.given.after (s.server.view l.1) r⟩⟩

/-- Each client stores its rows under the ident of its own row, which no other client has. -/
def OwnIdents (s : System ι) : Prop :=
  ∀ i, (∀ x ∈ (s.clients i).given.children,
      ∃ k, (s.clients i).given.allocated = some (k, x.2.messageIdent)) ∧
    ∀ j, j ≠ i → ∀ a, (s.clients i).given.allocated = some a →
      (s.clients j).given.allocated ≠ some a

/-- When a client reads its ident back, no committed row of that kind has a greater one. -/
def NoLaterMessage (s : System ι) (l : ι × Option SqlError) : Prop :=
  ∀ k ∈ (s.clients l.1).asked, ∀ own ∈ (s.clients l.1).given.allocated,
    ∀ r ∈ s.server.database.tables k.table, r.messageIdent ≤ own.2

instance (s : System ι) (l : ι × Option SqlError) : Decidable (s.NoLaterMessage l) :=
  inferInstanceAs (Decidable (∀ k ∈ _, ∀ own ∈ _, ∀ r ∈ _, _))

end System

/-- What is known in a phase of the writes of the transaction and of what the server gave. -/
def Phase.Holds (pending : Option (List Write)) (g : Given) : Phase → Prop
  | .idle => g.allocated = none ∧ g.children = []
  | .begun => pending = some [] ∧ g.allocated = none ∧ g.children = []
  | .inserted k => ∃ a fields, pending = some [.insert k.table ⟨a, none, [], none, fields⟩] ∧
      g.allocated = some (k, a) ∧ g.children = []
  | .known k ident => g.allocated = some (k, ident) ∧ ∀ x ∈ g.children, x.2.messageIdent = ident
  | .closed => ∀ x ∈ g.children, ∃ k, g.allocated = some (k, x.2.messageIdent)

namespace Phase

variable {ι : Type} [DecidableEq ι] {b : Backend} {pending : Option (List Write)} {g : Given}
  {p : Phase} {r : Request} {i : ι} {s : Server ι}

lemma Holds.closes (h : p.Holds pending g) : ∀ x ∈ g.children,
    ∃ k, g.allocated = some (k, x.2.messageIdent) := by
  have empty (hc : g.children = []) : ∀ x ∈ g.children,
      ∃ k, g.allocated = some (k, x.2.messageIdent) := by simp [hc]
  cases p with
  | idle => exact empty h.2
  | begun => exact empty h.2.2
  | inserted k =>
    obtain ⟨a, fields, -, -, hc⟩ := h
    exact empty hc
  | known k ident => exact fun x hx => ⟨k, by rw [h.1, h.2 x hx]⟩
  | closed => exact h

lemma Holds.error (h : p.Holds pending g) (hr : p.Allows r) (e : SqlError) :
    (p.next r (.error e)).Holds pending g := by
  cases hr with
  | inside hl =>
    rw [next_local hl]
    exact h
  | child k t row => exact h
  | start | finish | abort | message | ident => exact h.closes

omit [DecidableEq ι] in
/-- The ident that is read back, with no greater one committed. -/
lemma maxIdent_own {k : Kind} {a : ℕ} {fields : List (String × Cell)}
    (hp : s.pending i = some [.insert k.table ⟨a, none, [], none, fields⟩])
    (hle : ∀ r ∈ s.database.tables k.table, r.messageIdent ≤ a) :
    (s.view i).maxIdent k = .number a := by
  have hrows : ((s.view i).tables k.table).map Row.messageIdent =
      (s.database.tables k.table).map Row.messageIdent ++ [a] := by
    simp [Server.view, hp, TableWrite.apply]
  have hold : ∀ n ∈ (s.database.tables k.table).map Row.messageIdent, n ≤ a := by
    simpa using hle
  rw [Database.maxIdent, hrows]
  cases hi : (s.database.tables k.table).map Row.messageIdent with
  | nil => rfl
  | cons n ns =>
    rw [hi] at hold
    have hm := foldl_max_of_le n (hold n (by simp)) fun j hj => hold j (List.mem_cons_of_mem n hj)
    simp only [List.cons_append, hm]

lemma read_number (k : Kind) (a : ℕ) :
    read k (some [[.number a]]) = .known k a ∨ read k (some [[.number a]]) = .closed := by
  have hcell : identCell (some [[.number a]]) = .number a := rfl
  rw [read, hcell]
  cases hn : fieldToUint64 (.number a) with
  | error e => exact .inr rfl
  | ok ident =>
    obtain ⟨-, rfl⟩ := fieldToUint64_natCast.mp hn
    exact .inl rfl

lemma Holds.ok (h : p.Holds (s.pending i) g) (hr : p.Allows r)
    (hle : ∀ k a, r = .query (.data (.selectMaxIdent k)) → g.allocated = some (k, a) →
      ∀ row ∈ s.database.tables k.table, row.messageIdent ≤ a) :
    (p.next r (s.perform b i r).1).Holds ((s.perform b i r).2.pending i)
      (g.after (s.view i) r) := by
  cases hr with
  | inside hl =>
    have hgiven : g.after (s.view i) r = g := by cases r <;> first | rfl | cases hl
    rw [next_local hl, perform_local b i hl, hgiven]
    exact h
  | start =>
    obtain ⟨ha, hc⟩ := h
    exact ⟨Function.update_self .., ha, hc⟩
  | finish | abort => exact h.closes
  | message k fields =>
    obtain ⟨hpending, ha, hc⟩ := h
    refine ⟨(s.view i).counter k, fields, ?_, rfl, hc⟩
    have hwrite : (s.perform b i (.query (.data (.insertMessage k fields)))).2 =
        s.write i [.insert k.table ⟨(s.view i).counter k, none, [], none, fields⟩] := rfl
    rw [hwrite, Server.write, hpending]
    exact Function.update_self ..
  | ident k =>
    obtain ⟨a, fields, hpending, ha, hc⟩ := h
    have hreply : (s.perform b i (.query (.data (.selectMaxIdent k)))).1 =
        .ok (some [[.number a]]) := by
      rw [← maxIdent_own hpending (hle k a rfl ha)]
      rfl
    have hgiven : g.after (s.view i) (.query (.data (.selectMaxIdent k))) = g := rfl
    rw [hreply, next_ident, hgiven]
    have hread := read_number k a
    -- the phase is not to be evaluated
    generalize read k (some [[.number a]]) = q at hread ⊢
    rcases hread with rfl | rfl
    · exact ⟨ha, by simp [hc]⟩
    · exact fun x hx => by simp [hc] at hx
  | child k t row =>
    obtain ⟨ha, hc⟩ := h
    refine ⟨ha, fun x hx => ?_⟩
    rcases List.mem_append.mp hx with hold | hnew
    · exact hc x hold
    · rw [List.mem_singleton.mp hnew]

/-- The ident of a client is the one it had, or one the server had not given out. -/
lemma Holds.fresh (h : p.Holds (s.pending i) g) (hr : p.Allows r) :
    (g.after (s.view i) r).allocated = g.allocated ∨
      ∃ k, (g.after (s.view i) r).allocated = some (k, s.database.counter k) ∧
        s.database.counter k < (s.perform b i r).2.database.counter k := by
  cases hr with
  | inside hl =>
    have hgiven : g.after (s.view i) r = g := by cases r <;> first | rfl | cases hl
    exact .inl (congrArg Given.allocated hgiven)
  | message k fields =>
    obtain ⟨hpending, -, -⟩ := h
    have hview : s.view i = s.database := by simp [Server.view, hpending]
    refine .inr ⟨k, by rw [hview]; rfl, ?_⟩
    have hwrite : (s.perform b i (.query (.data (.insertMessage k fields)))).2 =
        s.write i [.insert k.table ⟨(s.view i).counter k, none, [], none, fields⟩] := rfl
    rw [hwrite, hview, Server.write, hpending]
    simp [Database.reserve, Database.write, Database.bump]
  | start | finish | abort | ident | child => exact .inl rfl

end Phase

namespace System

variable {ι : Type} [DecidableEq ι] {b : Backend}

structure Invariant (s : System ι) : Prop where
  follows : ∀ i, Follows (fun _ _ => True) (s.clients i).phase (s.clients i).program
  holds : ∀ i, (s.clients i).phase.Holds (s.server.pending i) (s.clients i).given
  below : ∀ i k a, (s.clients i).given.allocated = some (k, a) → a < s.server.database.counter k
  distinct : ∀ i j, j ≠ i → ∀ a, (s.clients i).given.allocated = some a →
    (s.clients j).given.allocated ≠ some a

omit [DecidableEq ι] in
lemma Invariant.ownIdents {s : System ι} (h : s.Invariant) : s.OwnIdents :=
  fun i => ⟨(h.holds i).closes, h.distinct i⟩

omit [DecidableEq ι] in
lemma new_invariant [L : Libprelude] (d : Database) (m : ι → Message) :
    (new d m : System ι).Invariant where
  follows i := classicInsert_follows (m i)
  holds _ := ⟨rfl, rfl⟩
  below _ _ _ h := by cases h
  distinct _ _ _ _ h := by cases h

/-- A step of the client `i` changes its own part and the database, whose counters only grow. -/
lemma Invariant.update {s : System ι} (h : s.Invariant) {i : ι} {server : Server ι} {c : Client}
    (hothers : ∀ j, j ≠ i → server.pending j = s.server.pending j)
    (hcounter : ∀ k, s.server.database.counter k ≤ server.database.counter k)
    (hgiven : c.given.allocated = (s.clients i).given.allocated ∨
      ∃ k, c.given.allocated = some (k, s.server.database.counter k) ∧
        s.server.database.counter k < server.database.counter k)
    (hf : Follows (fun _ _ => True) c.phase c.program)
    (hp : c.phase.Holds (server.pending i) c.given) :
    (⟨server, Function.update s.clients i c⟩ : System ι).Invariant := by
  have hfresh (j : ι) (hj : j ≠ i) (a : Kind × ℕ) (ha : c.given.allocated = some a) :
      (s.clients j).given.allocated ≠ some a := by
    rcases hgiven with hsame | ⟨k, hnew, -⟩
    · exact h.distinct i j hj a (hsame ▸ ha)
    · intro hja
      obtain rfl : a = (k, s.server.database.counter k) := Option.some.inj (ha.symm.trans hnew)
      exact (h.below j k _ hja).false
  refine ⟨fun j => ?_, fun j => ?_, fun j k a ha => ?_, fun j j' hj a ha => ?_⟩
  · rcases eq_or_ne j i with rfl | hji
    · simpa using hf
    · simpa [Function.update_of_ne hji] using h.follows j
  · rcases eq_or_ne j i with rfl | hji
    · simpa using hp
    · simpa [Function.update_of_ne hji, hothers j hji] using h.holds j
  · rcases eq_or_ne j i with rfl | hji
    · simp only [Function.update_self] at ha
      rcases hgiven with hsame | ⟨k', hnew, hlt⟩
      · exact (h.below j k a (hsame ▸ ha)).trans_le (hcounter k)
      · obtain ⟨rfl, rfl⟩ := Prod.mk.inj (Option.some.inj (ha.symm.trans hnew))
        exact hlt
    · simp only [Function.update_of_ne hji] at ha
      exact (h.below j k a ha).trans_le (hcounter k)
  · rcases eq_or_ne j i with rfl | hji
    · simp only [Function.update_self, Function.update_of_ne hj] at ha ⊢
      exact hfresh j' hj a ha
    · rcases eq_or_ne j' i with rfl | hji'
      · simp only [Function.update_self, Function.update_of_ne hji] at ha ⊢
        exact fun ha' => hfresh j hji a ha' ha
      · simp only [Function.update_of_ne hji, Function.update_of_ne hji'] at ha ⊢
        exact h.distinct j j' hj a ha

lemma step_invariant (s : System ι) (l : ι × Option SqlError) (h : s.Invariant)
    (hg : s.NoLaterMessage l) : (step b s l).Invariant := by
  obtain ⟨i, o⟩ := l
  have hfollows := h.follows i
  cases hc : (s.clients i).program with
  | done a | fail e => simpa only [step, hc] using h
  | request r k =>
    rw [hc] at hfollows
    obtain ⟨hr, hk⟩ := hfollows
    cases o with
    | some e =>
      simp only [step, hc]
      exact h.update (fun _ _ => rfl) (fun _ => le_rfl) (.inl rfl) (hk _) ((h.holds i).error hr e)
    | none =>
      simp only [step, hc]
      refine h.update (fun j hj => Server.perform_pending b hj r s.server)
        (Server.perform_counter_le b i r s.server) ((h.holds i).fresh hr) (hk _)
        ((h.holds i).ok hr fun k' a hask ha => hg k' ?_ (k', a) ha)
      subst hask
      rw [Client.asked, hc]
      rfl

/-- A client reads back the ident of its own row as long as no later message of its kind is
committed between the two statements. -/
theorem clients_store_under_own_ident [L : Libprelude] (b : Backend) (d : Database)
    (m : ι → Message) (run : List (ι × Option SqlError))
    (h : Runs.Guarded (step b) NoLaterMessage (new d m) run) :
    Runs.Throughout (step b) OwnIdents (new d m) run :=
  (Runs.throughout_of_guarded step_invariant (new_invariant d m) h).mono
    fun _ => Invariant.ownIdents

/-- A heartbeat without analyzers, created at the epoch. -/
def epochHeartbeat : Message := .heartbeat ⟨none, [], ⟨0, 0, 0⟩, none, none, []⟩

/-- Two clients with one such heartbeat each, over an empty database. -/
def twoHeartbeats : System Bool := new (L := bareLibrary) .empty fun _ => epochHeartbeat

def unfailing (is : List Bool) : List (Bool × Option SqlError) := is.map fun i => (i, none)

theorem clients_store_under_own_ident_in_turn :
    Runs.Throughout (step .pgsql) OwnIdents twoHeartbeats
      (unfailing (List.replicate 8 false ++ List.replicate 8 true)) :=
  clients_store_under_own_ident (L := bareLibrary) .pgsql .empty (fun _ => epochHeartbeat)
    (unfailing (List.replicate 8 false ++ List.replicate 8 true)) (by decide +kernel)

/-- Between the INSERT of one client and its SELECT another client stores its message. -/
theorem client_stores_under_other_ident :
    let run := unfailing (List.replicate 3 false ++ List.replicate 8 true ++ List.replicate 4 false)
    let s := run.foldl (step .pgsql) twoHeartbeats
    ¬ Runs.Throughout (step .pgsql) OwnIdents twoHeartbeats run ∧
      (s.clients false).given.allocated = some (.heartbeat, 1) ∧
      (s.clients true).given.allocated = some (.heartbeat, 2) ∧
      (s.clients false).given.children.map (fun x => x.2.messageIdent) = [2] := by
  have hgiven : (((unfailing (List.replicate 3 false ++ List.replicate 8 true ++
      List.replicate 4 false)).foldl (step .pgsql) twoHeartbeats).clients false).given =
      ⟨some (.heartbeat, 1), [(.createTime, ⟨2, some 'H', [], none,
        [("time", .text "1970-01-01 00:00:00"), ("gmtoff", .number 0), ("usec", .number 0)]⟩)]⟩ := by
    decide +kernel
  refine ⟨fun h => ?_, by decide +kernel, by decide +kernel, by decide +kernel⟩
  have hown := (h.foldl false).1
  rw [hgiven] at hown
  obtain ⟨k, hk⟩ := hown _ (List.mem_singleton_self _)
  cases hk

end System

end Preludedb.Classic
