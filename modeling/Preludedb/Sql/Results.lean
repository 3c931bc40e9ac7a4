import Preludedb.Foundations.Runs
import Preludedb.Sql.Connection

/-! The sessions of the plugin as the calls on a connection and on its result tables use them. A
table holds a reference on the connection it came from, and reads through whatever session that
connection has when a row or a field is not in the table yet. -/

namespace Preludedb.Sql

open Foundations

variable {σ ρ δ ω : Type}

def Event.session : Event σ → ℕ
  | .opened n | .closed n | .queried n _ _ | .escaped n _ | .fetched n _
  | .askedLastInsertIdent n _ => n

/-- No session is closed twice or used once it is closed. Session 0 is the null handle. -/
def WellUsed (events : List (Event σ)) : Prop :=
  events.Pairwise fun e e' => ∀ n, 0 < n → e = .closed n → e'.session ≠ n

lemma wellUsed_concat (events : List (Event σ)) (e : Event σ) :
    WellUsed (events ++ [e]) ↔ WellUsed events ∧ (0 < e.session → .closed e.session ∉ events) := by
  rw [WellUsed, List.pairwise_append]
  simp only [List.pairwise_singleton, List.mem_singleton, forall_eq, true_and]
  refine and_congr_right fun _ => ⟨fun h hpos hmem => h _ hmem _ hpos rfl rfl, ?_⟩
  rintro h e' hmem n hpos rfl hn
  exact h (hn ▸ hpos) (hn ▸ hmem)

namespace Connection

variable {E : Engine σ ρ δ ω} {o : Outcome} {c d : Connection σ δ ω}

def close (c : Connection σ δ ω) : Connection σ δ ω :=
  { c with
    status := ⟨false, c.status.transaction⟩
    server := c.server.rollback
    events := c.events ++ [.closed c.session] }

lemma update_eq (e : SqlError) :
    c.updateSqlFromErrno e = if preludedbErrorCheck e .connection then c.close else c := rfl

/-- A session was opened and the last one is closed. -/
def Lost (c : Connection σ δ ω) : Prop := c.status.connected = false ∧ 0 < c.session

def SameSession (c d : Connection σ δ ω) : Prop :=
  d.status.connected = c.status.connected ∧ d.session = c.session ∧ d.events = c.events

/-- A property that the ways in which a call touches the session keep. -/
structure Kept (P : Connection σ δ ω → Prop) : Prop where
  same : ∀ {c d}, P c → SameSession c d → P d
  opens : ∀ {c}, c.status.connected = false → P c → P c.opened
  uses : ∀ {c} {e : Event σ}, c.status.connected = true → e.session = c.session →
    (∀ n, e ≠ .closed n) → P c → P (c.record e)
  closes : ∀ {c}, c.status.connected = true → P c → P c.close

namespace Kept

variable {P : Connection σ δ ω → Prop} (hP : Kept P)
include hP

lemma update (e : SqlError) (hc : c.status.connected = true) (h : P c) :
    P (c.updateSqlFromErrno e) := by
  rw [update_eq]
  split
  · exact hP.closes hc h
  · exact h

lemma query (s : Statement σ) (h : P c) : P (c.query E s o).2 := by
  have onSession {d : Connection σ δ ω} (hd : d.status.connected = true) (h : P d) :
      P (d.query E s o).2 := by
    cases ho : o.operation with
    | none =>
      rw [query_ok hd ho]
      have hrecord : P (d.record (.queried d.session s none)) := hP.uses hd rfl (by simp) h
      exact hP.same hrecord ⟨rfl, rfl, rfl⟩
    | some e =>
      rw [query_error hd ho]
      have hraise : P (d.raise e) := hP.same h ⟨rfl, rfl, rfl⟩
      have hrecord : P ((d.raise e).record (.queried d.session s (some e))) :=
        hP.uses hd rfl (by simp) hraise
      exact hP.update e hd hrecord
  cases hc : c.status.connected with
  | true => exact onSession hc h
  | false =>
    cases ho : o.opening with
    | some e =>
      rw [query_unopened hc ho]
      exact hP.same h ⟨rfl, rfl, rfl⟩
    | none =>
      rw [query_opened hc ho]
      exact onSession rfl (hP.opens hc h)

lemma escape (h : P c) : P (c.escape o).2 := by
  have onSession {d : Connection σ δ ω} (hd : d.status.connected = true) (h : P d) :
      P (d.escape o).2 := by
    rw [escape_connected hd]
    cases o.operation with
    | none => exact hP.uses hd rfl (by simp) h
    | some e =>
      have hraise : P (d.raise e) := hP.same h ⟨rfl, rfl, rfl⟩
      exact hP.uses hd rfl (by simp) hraise
  cases hc : c.status.connected with
  | true => exact onSession hc h
  | false =>
    cases ho : o.opening with
    | some e =>
      rw [escape_unopened hc ho]
      exact hP.same h ⟨rfl, rfl, rfl⟩
    | none =>
      rw [escape_opened hc ho]
      exact onSession rfl (hP.opens hc h)

lemma fetch (hc : c.status.connected = true) (h : P c) : P (c.fetch o).2 := by
  rw [Connection.fetch]
  cases o.operation with
  | none => exact hP.uses hc rfl (by simp) h
  | some e =>
    have hraise : P (c.raise e) := hP.same h ⟨rfl, rfl, rfl⟩
    have hrecord : P ((c.raise e).record (.fetched c.session (some e))) :=
      hP.uses hc rfl (by simp) hraise
    exact hP.update e hc hrecord

lemma start (h : P c) : P (c.baseTransactionStart E o).2 := by
  have hlock : P c.lock := hP.same h ⟨rfl, rfl, rfl⟩
  rw [baseTransactionStart]
  split
  · exact hP.same h ⟨rfl, rfl, rfl⟩
  · have hquery := hP.query (E := E) (o := o) .begin hlock
    rcases hq : c.lock.query E .begin o with ⟨e | r, d⟩ <;> rw [hq] at hquery <;>
      exact hP.same hquery ⟨rfl, rfl, rfl⟩

lemma finish (h : P c) : P (c.baseTransactionEnd E o).2 := by
  rw [baseTransactionEnd]
  split
  · have hquery := hP.query (E := E) (o := o) .commit h
    rcases hq : c.query E .commit o with ⟨e | r, d⟩ <;> rw [hq] at hquery <;>
      exact hP.same hquery ⟨rfl, rfl, rfl⟩
  · exact h

lemma abort (h : P c) : P (c.baseTransactionAbort E o).2 := by
  have hclear : P (c.setTransaction false) := hP.same h ⟨rfl, rfl, rfl⟩
  rw [baseTransactionAbort]
  split
  · dsimp only
    split
    · exact hP.same hclear ⟨rfl, rfl, rfl⟩
    · have hquery := hP.query (E := E) (o := o) .rollback hclear
      rcases hq : (c.setTransaction false).query E .rollback o with ⟨e | r, d⟩ <;>
        rw [hq] at hquery <;> exact hP.same hquery ⟨rfl, rfl, rfl⟩
  · exact h

end Kept

/-- Which sessions have been closed, for a connection that only ever closes the one it has. -/
structure Tracked (c : Connection σ δ ω) : Prop where
  bounded : ∀ n, .closed n ∈ c.events → n ≤ c.session
  live : c.status.connected = true → 0 < c.session ∧ .closed c.session ∉ c.events
  dead : c.status.connected = false → 0 < c.session → .closed c.session ∈ c.events

lemma tracked_same (h : c.Tracked) (hs : SameSession c d) : d.Tracked := by
  obtain ⟨hc, hn, he⟩ := hs
  exact ⟨by simpa [hn, he] using h.bounded, by simpa [hc, hn, he] using h.live,
    by simpa [hc, hn, he] using h.dead⟩

lemma tracked_record {e : Event σ} (he : ∀ n, e ≠ .closed n) (h : c.Tracked) :
    (c.record e).Tracked := by
  have hmem (n : ℕ) : Event.closed n ∈ (c.record e).events ↔ .closed n ∈ c.events := by
    simp [record, (he n).symm]
  exact ⟨fun n hn => h.bounded n ((hmem n).mp hn),
    fun hc => ⟨(h.live hc).1, fun hn => (h.live hc).2 ((hmem _).mp hn)⟩,
    fun hc hpos => (hmem _).mpr (h.dead hc hpos)⟩

lemma tracked_close (h : c.Tracked) : c.close.Tracked := by
  refine ⟨fun n hn => ?_, fun hc => (by cases hc), fun _ _ => by simp [close]⟩
  rcases List.mem_append.mp hn with hold | hnew
  · exact h.bounded n hold
  · cases List.mem_singleton.mp hnew
    exact le_rfl

lemma tracked_opened (h : c.Tracked) : c.opened.Tracked := by
  have hmem (n : ℕ) : Event.closed n ∈ c.opened.events ↔ .closed n ∈ c.events := by simp [opened]
  have hold (n : ℕ) (hn : .closed n ∈ c.events) : n < c.opened.session :=
    Nat.lt_succ_of_le (h.bounded n hn)
  exact ⟨fun n hn => (hold n ((hmem n).mp hn)).le,
    fun _ => ⟨Nat.succ_pos _, fun hn => (hold _ ((hmem _).mp hn)).false⟩, fun hc => by cases hc⟩

lemma tracked_kept : Kept (Tracked : Connection σ δ ω → Prop) where
  same := tracked_same
  opens _ := tracked_opened
  uses _ _ := tracked_record
  closes _ := tracked_close

/-- A call that reaches the plugin keeps the record in order on any session that is not lost. -/
lemma wellUsed_use {e : Event σ} (he : e.session = c.session) (h : c.Tracked)
    (hw : WellUsed c.events) : WellUsed (c.events ++ [e]) ↔ ¬ c.Lost := by
  rw [wellUsed_concat, he, and_iff_right hw, Lost]
  cases hc : c.status.connected with
  | true => simpa using fun _ => (h.live hc).2
  | false => simpa using ⟨fun hn => by by_contra hpos; exact hn (by omega) (h.dead hc (by omega)),
      fun hz => by omega⟩

lemma not_lost_of_connected (hc : c.status.connected = true) : ¬ c.Lost := by
  rintro ⟨hlost, -⟩
  rw [hc] at hlost
  cases hlost

lemma wellUsed_opened (hw : WellUsed c.events) (h : c.Tracked) : WellUsed c.opened.events := by
  refine (wellUsed_concat _ _).mpr ⟨hw, fun _ hn => ?_⟩
  have hle : c.session + 1 ≤ c.session := h.bounded _ hn
  omega

lemma wellUsed_kept : Kept fun c : Connection σ δ ω => c.Tracked ∧ WellUsed c.events where
  same h hs := ⟨tracked_same h.1 hs, hs.2.2 ▸ h.2⟩
  opens _ h := ⟨tracked_opened h.1, wellUsed_opened h.2 h.1⟩
  uses hc he hn h :=
    ⟨tracked_record hn h.1, (wellUsed_use he h.1 h.2).mpr (not_lost_of_connected hc)⟩
  closes hc h := ⟨tracked_close h.1, (wellUsed_use rfl h.1 h.2).mpr (not_lost_of_connected hc)⟩

lemma fetch_tracked (h : c.Tracked) : (c.fetch o).2.Tracked := by
  rw [Connection.fetch]
  cases o.operation with
  | none => exact tracked_record (by simp) h
  | some e =>
    have hraise : (c.raise e).Tracked := tracked_same h ⟨rfl, rfl, rfl⟩
    have hrecord := tracked_record (e := .fetched c.session (some e)) (by simp) hraise
    simp only [update_eq]
    split
    · exact tracked_close hrecord
    · exact hrecord

/-- Where no session was ever opened, the null handle is used and closed. -/
lemma fetch_wellUsed_iff (h : c.Tracked) (hw : WellUsed c.events) :
    WellUsed (c.fetch o).2.events ↔ ¬ c.Lost := by
  rw [Connection.fetch]
  cases ho : o.operation with
  | none => exact wellUsed_use rfl h hw
  | some e =>
    have huse : WellUsed (c.events ++ [.fetched c.session (some e)]) ↔ ¬ c.Lost :=
      wellUsed_use rfl h hw
    simp only [update_eq]
    split
    · have hlist : (((c.raise e).record (.fetched c.session (some e))).close).events =
          (c.events ++ [.fetched c.session (some e)]) ++ [.closed c.session] := rfl
      rw [hlist, wellUsed_concat, huse, and_iff_left_iff_imp]
      intro hlost hpos hmem
      have hsession : 0 < c.session := hpos
      have hconnected : c.status.connected = true := by
        by_contra hc
        exact hlost ⟨Bool.eq_false_iff.mpr hc, hsession⟩
      have hold : .closed c.session ∈ c.events := by simpa [Event.session] using hmem
      exact (h.live hconnected).2 hold
    · exact huse

lemma getLastInsertIdent_tracked (h : c.Tracked) : (c.getLastInsertIdent o).2.Tracked := by
  rw [getLastInsertIdent]
  cases o.operation with
  | none => exact tracked_record (by simp) h
  | some e =>
    have hraise : (c.raise e).Tracked := tracked_same h ⟨rfl, rfl, rfl⟩
    exact tracked_record (by simp) hraise

lemma getLastInsertIdent_wellUsed_iff (h : c.Tracked) (hw : WellUsed c.events) :
    WellUsed (c.getLastInsertIdent o).2.events ↔ ¬ c.Lost := by
  rw [getLastInsertIdent]
  cases o.operation with
  | none => exact wellUsed_use (c := c) rfl h hw
  | some e => exact wellUsed_use (c := c) rfl h hw

end Connection

namespace Call

/-- The calls on the connection itself, a fetch being a call on a result table. -/
def onConnection : Call σ → Bool
  | .fetchRow | .fetchField => false
  | _ => true

def givesTable : (r : Call σ) → Except SqlError (r.Reply ρ) → Bool
  | .query _, .ok (some _) => true
  | _, _ => false

end Call

namespace Connection

lemma Kept.perform {P : Connection σ δ ω → Prop} (hP : Kept P) (E : Engine σ ρ δ ω)
    {r : Call σ} (hr : r.onConnection = true) (hl : r ≠ .getLastInsertIdent) (o : Outcome)
    {c : Connection σ δ ω} (h : P c) : P (r.perform E o c).2 := by
  cases r with
  | query s => exact hP.query s h
  | escapeFast input | escapeBinary input =>
    cases input with
    | none => exact h
    | some text => exact hP.escape h
  | unescapeBinary input => exact hP.escape h
  | fetchRow | fetchField => cases hr
  | getLastInsertIdent => exact absurd rfl hl
  | baseTransactionStart => exact hP.start h
  | baseTransactionEnd => exact hP.finish h
  | baseTransactionAbort => exact hP.abort h
  | transactionStart =>
    rw [Call.perform, transactionStart]
    split
    · exact h
    · exact hP.start h
  | transactionEnd =>
    rw [Call.perform, transactionEnd]
    split
    · exact h
    · exact hP.finish h
  | transactionAbort =>
    rw [Call.perform, transactionAbort]
    split
    · exact h
    · exact hP.abort h
  | outerTransactionStart =>
    have hs := hP.start (E := E) (o := o) h
    rw [Call.perform, outerTransactionStart]
    rcases hq : c.baseTransactionStart E o with ⟨e | r, d⟩ <;> rw [hq] at hs
    · exact hs
    · exact hP.same hs ⟨rfl, rfl, rfl⟩
  | outerTransactionEnd => exact hP.same (hP.finish (E := E) (o := o) h) ⟨rfl, rfl, rfl⟩
  | outerTransactionAbort => exact hP.same (hP.abort (E := E) (o := o) h) ⟨rfl, rfl, rfl⟩

end Connection

/-- The rows and the fields that have been fetched; `rows` is as long as `nrow` says. -/
structure ResultTable where
  rows : List Bool
  fields : List (ℕ × ℕ)
  done : Bool
  deriving DecidableEq, Repr

namespace ResultTable

def new : ResultTable := ⟨[], [], false⟩

/-- `none` asks for the row after the last one. -/
def FetchesRow (t : ResultTable) (index : Option ℕ) : Prop :=
  t.rows[index.getD t.rows.length]? ≠ some true ∧ t.done = false

def FetchesField (t : ResultTable) (row column : ℕ) : Prop :=
  t.rows[row]? = some true ∧ (row, column) ∉ t.fields

instance (t : ResultTable) (index : Option ℕ) : Decidable (t.FetchesRow index) :=
  inferInstanceAs (Decidable (_ ∧ _))

instance (t : ResultTable) (row column : ℕ) : Decidable (t.FetchesField row column) :=
  inferInstanceAs (Decidable (_ ∧ _))

end ResultTable

/-- The connection with those who hold it: the program by `references` references, and each table
that is not destroyed by one. -/
structure Handle (σ δ ω : Type) where
  connection : Connection σ δ ω
  references : ℕ
  tables : List (Option ResultTable)

/-- A fetch of a row brings the rows and the fields that are in the table afterwards, or nothing
where there is no row left. -/
inductive Action (σ : Type)
  | call (r : Call σ) (hr : r.onConnection = true) (o : Outcome)
  | ref
  | destroy
  | getRow (table : ℕ) (index : Option ℕ) (reply : Option (List Bool × List (ℕ × ℕ))) (o : Outcome)
  | getField (table row column : ℕ) (o : Outcome)
  | tableDestroy (table : ℕ)

namespace Handle

variable {E : Engine σ ρ δ ω}

def new (d : δ) : Handle σ δ ω := ⟨.new d, 1, []⟩

def refcount (h : Handle σ δ ω) : ℕ := h.references + h.tables.countP Option.isSome

def release (h : Handle σ δ ω) : Handle σ δ ω :=
  if h.refcount = 0 ∧ h.connection.status.connected then { h with connection := h.connection.close }
  else h

def table (h : Handle σ δ ω) (t : ℕ) : Option ResultTable := h.tables[t]?.join

def getRow (t : ℕ) (index : Option ℕ) (reply : Option (List Bool × List (ℕ × ℕ))) (o : Outcome)
    (h : Handle σ δ ω) : Handle σ δ ω :=
  match h.table t with
  | none => h
  | some table =>
    if table.FetchesRow index then
      match h.connection.fetch o, reply with
      | (.error _, c), _ => { h with connection := c }
      | (.ok (), c), some (rows, fields) =>
        { h with connection := c, tables := h.tables.set t (some ⟨rows, fields, table.done⟩) }
      | (.ok (), c), none =>
        { h with connection := c, tables := h.tables.set t (some { table with done := true }) }
    else h

def getField (t row column : ℕ) (o : Outcome) (h : Handle σ δ ω) : Handle σ δ ω :=
  match h.table t with
  | none => h
  | some table =>
    if table.FetchesField row column then
      match h.connection.fetch o with
      | (.error _, c) => { h with connection := c }
      | (.ok (), c) => { h with
          connection := c
          tables := h.tables.set t (some { table with fields := (row, column) :: table.fields }) }
    else h

/-- A call needs a reference, or a table that is not destroyed. -/
def step (E : Engine σ ρ δ ω) (h : Handle σ δ ω) : Action σ → Handle σ δ ω
  | .call r _ o =>
    if h.references = 0 then h
    else { h with
      connection := (r.perform E o h.connection).2
      tables := h.tables ++
        if r.givesTable (r.perform E o h.connection).1 then [some .new] else [] }
  | .ref => if h.references = 0 then h else { h with references := h.references + 1 }
  | .destroy => if h.references = 0 then h else release { h with references := h.references - 1 }
  | .getRow t index reply o => h.getRow t index reply o
  | .getField t row column o => h.getField t row column o
  | .tableDestroy t => if h.table t = none then h else release { h with tables := h.tables.set t none }

/-- The action brings the plugin a session that is closed. -/
def UsesLostSession (h : Handle σ δ ω) : Action σ → Prop
  | .call r _ _ => h.connection.Lost ∧ r = .getLastInsertIdent ∧ h.references ≠ 0
  | .getRow t index _ _ => h.connection.Lost ∧ ∃ table ∈ h.table t, table.FetchesRow index
  | .getField t row column _ =>
    h.connection.Lost ∧ ∃ table ∈ h.table t, table.FetchesField row column
  | _ => False

lemma getRow_cases (t : ℕ) (index : Option ℕ) (reply : Option (List Bool × List (ℕ × ℕ)))
    (o : Outcome) (h : Handle σ δ ω) :
    ((∃ table ∈ h.table t, table.FetchesRow index) ∧
        (h.getRow t index reply o).connection = (h.connection.fetch o).2) ∨
      ((¬ ∃ table ∈ h.table t, table.FetchesRow index) ∧
        (h.getRow t index reply o).connection = h.connection) := by
  rw [getRow]
  cases ht : h.table t with
  | none => exact .inr ⟨by simp, rfl⟩
  | some table =>
    by_cases hf : table.FetchesRow index
    · refine .inl ⟨⟨table, rfl, hf⟩, ?_⟩
      simp only [if_pos hf]
      rcases hq : h.connection.fetch o with ⟨e | r, c⟩
      · rfl
      · cases reply <;> rfl
    · exact .inr ⟨by simpa using hf, by simp only [if_neg hf]⟩

lemma getField_cases (t row column : ℕ) (o : Outcome) (h : Handle σ δ ω) :
    ((∃ table ∈ h.table t, table.FetchesField row column) ∧
        (h.getField t row column o).connection = (h.connection.fetch o).2) ∨
      ((¬ ∃ table ∈ h.table t, table.FetchesField row column) ∧
        (h.getField t row column o).connection = h.connection) := by
  rw [getField]
  cases ht : h.table t with
  | none => exact .inr ⟨by simp, rfl⟩
  | some table =>
    by_cases hf : table.FetchesField row column
    · refine .inl ⟨⟨table, rfl, hf⟩, ?_⟩
      simp only [if_pos hf]
      rcases hq : h.connection.fetch o with ⟨e | r, c⟩ <;> rfl
    · exact .inr ⟨by simpa using hf, by simp only [if_neg hf]⟩

lemma release_kept {P : Connection σ δ ω → Prop} (hP : Connection.Kept P) {h : Handle σ δ ω}
    (hc : P h.connection) : P h.release.connection := by
  rw [release]
  split
  · rename_i hlast
    exact hP.closes hlast.2 hc
  · exact hc

lemma step_tracked (E : Engine σ ρ δ ω) (h : Handle σ δ ω) (a : Action σ)
    (ht : h.connection.Tracked) : (h.step E a).connection.Tracked := by
  cases a with
  | call r hr o =>
    rw [step]
    split
    · exact ht
    · by_cases hl : r = .getLastInsertIdent
      · subst hl
        exact Connection.getLastInsertIdent_tracked ht
      · exact Connection.Kept.perform Connection.tracked_kept E hr hl o ht
  | ref =>
    rw [step]
    split <;> exact ht
  | destroy =>
    rw [step]
    split
    · exact ht
    · exact release_kept Connection.tracked_kept ht
  | getRow t index reply o =>
    rcases getRow_cases t index reply o h with ⟨-, heq⟩ | ⟨-, heq⟩ <;> rw [step, heq]
    · exact Connection.fetch_tracked ht
    · exact ht
  | getField t row column o =>
    rcases getField_cases t row column o h with ⟨-, heq⟩ | ⟨-, heq⟩ <;> rw [step, heq]
    · exact Connection.fetch_tracked ht
    · exact ht
  | tableDestroy t =>
    rw [step]
    split
    · exact ht
    · exact release_kept Connection.tracked_kept ht

lemma step_wellUsed_iff (E : Engine σ ρ δ ω) (h : Handle σ δ ω) (a : Action σ)
    (hs : h.connection.Tracked ∧ WellUsed h.connection.events) :
    WellUsed (h.step E a).connection.events ↔ ¬ h.UsesLostSession a := by
  obtain ⟨ht, hw⟩ := hs
  cases a with
  | call r hr o =>
    rw [step, UsesLostSession]
    by_cases hz : h.references = 0
    · simpa [hz] using hw
    · rw [if_neg hz]
      by_cases hl : r = .getLastInsertIdent
      · subst hl
        rw [and_iff_left ⟨rfl, hz⟩]
        exact Connection.getLastInsertIdent_wellUsed_iff ht hw
      · have hkept := Connection.Kept.perform Connection.wellUsed_kept E hr hl o ⟨ht, hw⟩
        exact iff_of_true hkept.2 (by simp [hl])
  | ref =>
    rw [step]
    split <;> exact iff_of_true hw id
  | destroy =>
    rw [step]
    split
    · exact iff_of_true hw id
    · have hkept : _ ∧ _ := release_kept Connection.wellUsed_kept
        (h := { h with references := h.references - 1 }) ⟨ht, hw⟩
      exact iff_of_true hkept.2 id
  | getRow t index reply o =>
    rw [step, UsesLostSession]
    rcases getRow_cases t index reply o h with ⟨hf, heq⟩ | ⟨hf, heq⟩ <;> rw [heq]
    · rw [and_iff_left hf]
      exact Connection.fetch_wellUsed_iff ht hw
    · exact iff_of_true hw fun hu => hf hu.2
  | getField t row column o =>
    rw [step, UsesLostSession]
    rcases getField_cases t row column o h with ⟨hf, heq⟩ | ⟨hf, heq⟩ <;> rw [heq]
    · rw [and_iff_left hf]
      exact Connection.fetch_wellUsed_iff ht hw
    · exact iff_of_true hw fun hu => hf hu.2
  | tableDestroy t =>
    rw [step]
    split
    · exact iff_of_true hw id
    · have hkept : _ ∧ _ := release_kept Connection.wellUsed_kept
        (h := { h with tables := h.tables.set t none }) ⟨ht, hw⟩
      exact iff_of_true hkept.2 id

lemma new_tracked (d : δ) : (Handle.new d : Handle σ δ ω).connection.Tracked :=
  ⟨by simp [new, Connection.new], fun hc => (by cases hc), fun _ hpos => (by cases hpos)⟩

theorem sessions_well_used_iff (E : Engine σ ρ δ ω) (d : δ) (run : List (Action σ)) :
    Runs.Throughout (step E) (fun h => WellUsed h.connection.events) (.new d) run ↔
      Runs.Guarded (step E) (fun h a => ¬ h.UsesLostSession a) (.new d) run := by
  have htracked := Runs.throughout_of_invariant (step_tracked E) run (new_tracked d)
  have hnew : WellUsed (Handle.new d : Handle σ δ ω).connection.events := .nil
  have hiff : Runs.Throughout (step E)
      (fun h => h.connection.Tracked ∧ WellUsed h.connection.events) (.new d) run ↔ _ :=
    Runs.throughout_iff_guarded
      (fun h a hs => (and_iff_right (step_tracked E h a hs.1)).trans (step_wellUsed_iff E h a hs))
      ⟨new_tracked d, hnew⟩
  rw [← hiff]
  exact ⟨htracked.and, Runs.Throughout.mono fun _ h => h.2⟩

/-- A table outlives its session, and reading on closes it a second time. -/
theorem session_closed_twice :
    ∃ (E : Engine ℕ Unit (List ℕ) ℕ) (run : List (Action ℕ)),
      ¬ Runs.Throughout (step E) (fun h => WellUsed h.connection.events) (.new []) run ∧
      (run.foldl (step E) (.new [])).connection.events = [.opened 1, .queried 1 (.data 0) none,
        .fetched 1 Outcome.sessionLost.operation, .closed 1,
        .fetched 1 Outcome.sessionLost.operation, .closed 1] := by
  let E : Engine ℕ Unit (List ℕ) ℕ := ⟨fun d n => d ++ [n], fun _ _ => (some (), [])⟩
  refine ⟨E, [.call (.query (.data 0)) rfl .ok, .getRow 0 none none .sessionLost,
    .getRow 0 none none .sessionLost], fun h => ?_, rfl⟩
  have hlast : WellUsed [.opened 1, .queried 1 (.data 0) none,
      .fetched 1 Outcome.sessionLost.operation, .closed 1,
      .fetched 1 Outcome.sessionLost.operation, .closed 1] := h.foldl
  simp only [WellUsed, List.pairwise_cons] at hlast
  exact hlast.2.2.2.1 (.closed 1) (by simp) 1 Nat.one_pos rfl rfl

end Handle

end Preludedb.Sql
