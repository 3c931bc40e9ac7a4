import Preludedb.Foundations.Answers
import Preludedb.Classic.Database

/-! The rows of a result: the cache of the SQL layer over the three plugins. The result of PostgreSQL
is there as a whole, those of MySQL and SQLite are read forward by a cursor of the server. -/

namespace Preludedb.Sql

open Foundations Classic

/-- A cached row with what the plugin keeps for it. -/
structure CachedRow (ρ : Type) where
  index : ℕ
  data : ρ
  deriving DecidableEq, Repr

/-- The table of a result: `rows` has `nrow` places, some of which may have been passed over, and
`cursor` rows have been read from the server. -/
structure RowTable (ρ : Type) where
  rows : List (Option (CachedRow ρ))
  rowCount : ℕ
  done : Bool
  cursor : ℕ
  deriving DecidableEq, Repr

/-- What a call for a row returns: 1 with a row, 0, or an error; `unset` is 1 without a row. -/
inductive RowReply (ρ : Type)
  | row (row : CachedRow ρ)
  | none
  | error (e : SqlError)
  | unset
  deriving DecidableEq, Repr

namespace RowTable

variable {ρ : Type}

def new : RowTable ρ := ⟨[], 0, false, 0⟩

def nrow (t : RowTable ρ) : ℕ := t.rows.length

/-- The row at an index, if it is cached. -/
def cached (t : RowTable ρ) (index : ℕ) : Option (CachedRow ρ) := (t.rows[index]?).join

/-- `none` is a failed allocation; the size of an array of 2^32 rows is zero. -/
def newRow (t : RowTable ρ) (rowIndex : ℕ) (data : ρ) : Option (RowTable ρ) :=
  let nindex := (max rowIndex t.nrow + 1) % 2 ^ 32
  if t.nrow ≤ rowIndex then
    if nindex = 0 then Option.none
    else some { t with
      rows := (t.rows ++ List.replicate (nindex - t.nrow) Option.none).set rowIndex
        (some ⟨rowIndex, data⟩) }
  else some { t with rows := t.rows.set rowIndex (some ⟨rowIndex, data⟩) }

/-- The rows from the cursor on until the table has one at the index, a pass for each of them. -/
def fetchForward (source : List ρ) : ℕ → RowTable ρ → RowReply ρ → Option (RowReply ρ × RowTable ρ)
  | 0, t, reply => some (reply, t)
  | n + 1, t, _ =>
    match source[t.cursor]? with
    | Option.none => some (.none, t)
    | some data => do
      let t' ← { t with cursor := t.cursor + 1 }.newRow t.nrow data
      fetchForward source n t' (.row ⟨t.nrow, data⟩)

/-- `fetch_row` of the plugins. -/
def pluginFetchRow (b : Backend) (source : List ρ) (t : RowTable ρ) (rowIndex : ℕ) :
    Option (RowReply ρ × RowTable ρ) :=
  match b with
  | .pgsql =>
    match source[rowIndex]? with
    | Option.none => some (.none, t)
    | some data => do
      let t' ← t.newRow rowIndex data
      some (.row ⟨rowIndex, data⟩, t')
  | .mysql | .sqlite3 => fetchForward source (rowIndex + 1 - t.nrow) t .unset

/-- An index of `(unsigned int) -1` asks for the row behind the cached ones. -/
def getRow (b : Backend) (source : List ρ) (t : RowTable ρ) (rowIndex : UInt32) :
    Option (RowReply ρ × RowTable ρ) :=
  let rowIndex := if rowIndex = -1 then t.nrow else rowIndex.toNat
  match t.cached rowIndex with
  | some row => some (.row row, t)
  | Option.none =>
    if t.done then
      some (if rowIndex = t.nrow then .none
        else .error (preludedbErrorVerbose .index s!"Invalid row '{rowIndex}'"), t)
    else
      match pluginFetchRow b source t rowIndex with
      | some (.none, t') => some (.none, { t' with done := true })
      | fetched => fetched

def fetchRow (b : Backend) (source : List ρ) (t : RowTable ρ) : Option (RowReply ρ × RowTable ρ) :=
  t.getRow b source (-1)

/-- The loop that fetches all rows; it ends at the first call without one. -/
def fetchAll (b : Backend) (source : List ρ) : ℕ → RowTable ρ → Option (RowTable ρ)
  | 0, t => some t
  | n + 1, t =>
    match t.fetchRow b source with
    | some (.row _, t') => fetchAll b source n t'
    | fetched => fetched.map Prod.snd

/-- The number of rows as the plugin returns it, an `int`; SQLite has no function for it. -/
def pluginRowCount (b : Backend) (source : List ρ) : Option Int :=
  match b with
  | .sqlite3 => Option.none
  | .mysql | .pgsql => some (UInt32.ofNat source.length).toInt32.toInt

/-- `unsupported` tells the error for a missing function from other negative numbers. -/
def getRowCount (unsupported : Int → Bool) (b : Backend) (source : List ρ) (t : RowTable ρ) :
    Option (ℕ × RowTable ρ) :=
  if t.rowCount ≠ 0 then some (t.rowCount, t)
  else
    match pluginRowCount b source with
    | some count =>
      if 0 ≤ count then some (count.toNat, { t with rowCount := count.toNat })
      else if ¬ unsupported count then some ((UInt32.ofInt count).toNat, t)
      else (fetchAll b source (source.length + 1) t).map fun t' =>
        (t'.nrow, { t' with rowCount := t'.nrow })
    | Option.none => (fetchAll b source (source.length + 1) t).map fun t' =>
        (t'.nrow, { t' with rowCount := t'.nrow })

section Places

variable {t t' : RowTable ρ} {i j : ℕ} {data : ρ}

lemma cached_eq_none (h : t.nrow ≤ i) : t.cached i = Option.none := by
  rw [cached, List.getElem?_eq_none h, Option.join_none]

lemma cached_lt {row : CachedRow ρ} (h : t.cached i = some row) : i < t.nrow := by
  by_contra hi
  rw [cached_eq_none (Nat.le_of_not_lt hi)] at h
  cases h

lemma newRow_beyond (h : t.nrow ≤ i) (hi : i + 1 < 2 ^ 32) :
    t.newRow i data = some { t with
      rows := (t.rows ++ List.replicate (i + 1 - t.nrow) Option.none).set i (some ⟨i, data⟩) } := by
  have hindex : (max i t.nrow + 1) % 2 ^ 32 = i + 1 := by
    rw [max_eq_left h, Nat.mod_eq_of_lt hi]
  simp only [newRow]
  rw [hindex, if_pos h, if_neg (Nat.succ_ne_zero i)]

lemma newRow_behind (hi : t.nrow = i) (h : i + 1 < 2 ^ 32) :
    t.newRow i data = some { t with rows := t.rows ++ [some ⟨i, data⟩] } := by
  subst hi
  rw [newRow_beyond le_rfl h, Nat.add_sub_cancel_left, List.replicate_one, nrow,
    List.set_append_right _ _ le_rfl, Nat.sub_self, List.set_cons_zero]

lemma newRow_wraps (hi : t.nrow = i) (h : i + 1 = 2 ^ 32) : t.newRow i data = Option.none := by
  have hindex : (max i t.nrow + 1) % 2 ^ 32 = 0 := by
    rw [hi, max_self, h, Nat.mod_self]
  simp only [newRow]
  rw [hindex, if_pos hi.le, if_pos rfl]

lemma newRow_placed (data : ρ) (hi : i + 1 < 2 ^ 32) : ∃ t', t.newRow i data = some t'
    ∧ t'.done = t.done ∧ t'.nrow = max t.nrow (i + 1)
    ∧ ∀ j, t'.cached j = if j = i then some ⟨i, data⟩ else t.cached j := by
  by_cases h : t.nrow ≤ i
  · refine ⟨_, newRow_beyond h hi, rfl, ?_, fun j => ?_⟩
    · rw [nrow, List.length_set, List.length_append, List.length_replicate, ← nrow]
      omega
    · simp only [cached, List.getElem?_set, List.length_append, List.length_replicate,
        List.getElem?_append, List.getElem?_replicate]
      simp only [nrow] at h ⊢
      grind
  · have hlt : i < t.rows.length := Nat.lt_of_not_le h
    refine ⟨{ t with rows := t.rows.set i (some ⟨i, data⟩) }, by simp only [newRow]; rw [if_neg h],
      rfl, ?_, fun j => ?_⟩
    · simp only [nrow, List.length_set]
      omega
    · simp only [cached, List.getElem?_set]
      grind

end Places

section Sought

variable {b : Backend} {source : List ρ} {t : RowTable ρ} {i : UInt32} {k : ℕ}

lemma getRow_cached {row : CachedRow ρ} (hk : k = if i = -1 then t.nrow else i.toNat)
    (hc : t.cached k = some row) : t.getRow b source i = some (.row row, t) := by
  simp only [getRow]
  rw [← hk, hc]

lemma getRow_done (hk : k = if i = -1 then t.nrow else i.toNat) (hc : t.cached k = Option.none)
    (hd : t.done = true) : ∃ reply, t.getRow b source i = some (reply, t)
      ∧ (k = t.nrow ∧ reply = .none ∨ k ≠ t.nrow ∧ ∃ e, reply = .error e) := by
  simp only [getRow]
  rw [← hk, hc]
  by_cases hn : k = t.nrow
  · exact ⟨.none, by rw [if_pos hd, if_pos hn], .inl ⟨hn, rfl⟩⟩
  · exact ⟨_, by rw [if_pos hd, if_neg hn], .inr ⟨hn, _, rfl⟩⟩

lemma getRow_fetched (hk : k = if i = -1 then t.nrow else i.toNat) (hc : t.cached k = Option.none)
    (hd : t.done = false) : t.getRow b source i = match t.pluginFetchRow b source k with
      | some (.none, t') => some (.none, { t' with done := true })
      | fetched => fetched := by
  simp only [getRow]
  rw [← hk, hc, hd]
  rfl

end Sought

end RowTable

/-- The calls for one row. -/
inductive RowCall
  | getRow (rowIndex : UInt32)
  | fetchRow
  deriving DecidableEq, Repr

/-- What the server has at an index. -/
def served {ρ : Type} (source : List ρ) (i : ℕ) : RowReply ρ :=
  match source[i]? with
  | some data => .row ⟨i, data⟩
  | none => .none

def RowCall.step {ρ : Type} (b : Backend) (source : List ρ) (t : RowTable ρ) :
    RowCall → Option (RowReply ρ × RowTable ρ)
  | getRow i => t.getRow b source i
  | fetchRow => t.fetchRow b source

section Served

variable {ρ : Type} {source : List ρ} {i : ℕ}

lemma served_row {data : ρ} (h : source[i]? = some data) : served source i = .row ⟨i, data⟩ := by
  rw [served, h]

lemma served_none (h : source.length ≤ i) : served source i = .none := by
  rw [served, List.getElem?_eq_none h]

lemma served_of_none (h : served source i = .none) : source.length ≤ i := by
  rw [← List.getElem?_eq_none_iff]
  cases hi : source[i]? with
  | none => rfl
  | some data =>
    rw [served_row hi] at h
    cases h

lemma row_ne_nothing {reply : RowReply ρ} {row : CachedRow ρ} (h : RowReply.row row = reply) :
    ¬ (reply = .none ∨ ∃ e, reply = .error e) := by
  rintro (hr | ⟨e, hr⟩) <;>
  · rw [hr] at h
    cases h

end Served

/-! The result of PostgreSQL is read at any index. A call for a row behind the last one marks the
table as done, and the rows that are not cached by then are out of reach. -/

/-- A result of PostgreSQL, which counts its rows with an `int`. -/
structure PGresult (ρ : Type) where
  rows : List ρ
  ntuples : rows.length < 2 ^ 31

/-- The place behind the row of a reply. -/
def RowReply.reach {ρ : Type} : RowReply ρ → ℕ
  | row r => r.index + 1
  | _ => 0

/-- The place behind the highest row of the replies. -/
def highest {ρ : Type} (past : List (RowReply ρ)) : ℕ := (past.map RowReply.reach).foldl max 0

namespace RowCall

variable {ρ : Type}

/-- The call returns what the result has at its index; the calls without one go on behind the
highest row. -/
def Answered (source : List ρ) (past : List (RowReply ρ)) : RowCall → RowReply ρ → Prop
  | getRow i, reply =>
    if i.toNat < source.length then reply = served source i.toNat
    else reply = .none ∨ ∃ e, reply = .error e
  | fetchRow, reply => reply = served source (highest past)

/-- The table is not marked as done while the call still has a row to return, and index -1 is used
at the end only. -/
def Open (source : List ρ) (t : RowTable ρ) : RowCall → Prop
  | getRow i =>
    if i = -1 then t.done = true ∨ t.nrow = source.length
    else i.toNat < source.length → t.done = true → (t.cached i.toNat).isSome
  | fetchRow => t.done = true → t.nrow = source.length

end RowCall

lemma highest_append {ρ : Type} (past : List (RowReply ρ)) (reply : RowReply ρ) :
    highest (past ++ [reply]) = max (highest past) reply.reach := by
  rw [highest, List.map_append, List.foldl_append]
  rfl

namespace RowTable

variable {ρ : Type}

/-- The cached rows are those of the result, and the highest row returned is the last place. -/
structure Sparse (source : List ρ) (past : List (RowReply ρ)) (t : RowTable ρ) : Prop where
  holds : ∀ i row, t.cached i = some row → RowReply.row row = served source i
  nrow_eq : t.nrow = highest past
  nrow_le : t.nrow ≤ source.length

variable {result : PGresult ρ} {past : List (RowReply ρ)} {t : RowTable ρ} {i : ℕ}

lemma new_sparse (source : List ρ) : (new : RowTable ρ).Sparse source [] where
  holds _ _ h := by cases h
  nrow_eq := rfl
  nrow_le := Nat.zero_le _

lemma Sparse.replied_nothing {reply : RowReply ρ} (h : t.Sparse result.rows past)
    (hreply : reply.reach = 0) (done : Bool) :
    ({ t with done := done }).Sparse result.rows (past ++ [reply]) where
  holds := h.holds
  nrow_eq := by rw [highest_append, hreply, Nat.max_zero]; exact h.nrow_eq
  nrow_le := h.nrow_le

/-- What a call for the row at an index returns. -/
lemma Sparse.row_at (h : t.Sparse result.rows past) (i : ℕ) :
    (∃ row, t.cached i = some row ∧ RowReply.row row = served result.rows i
      ∧ t.Sparse result.rows (past ++ [.row row]))
    ∨ t.cached i = Option.none ∧
      (result.rows.length ≤ i ∧ t.pluginFetchRow .pgsql result.rows i = some (.none, t)
      ∨ ∃ data t', result.rows[i]? = some data
        ∧ t.pluginFetchRow .pgsql result.rows i = some (.row ⟨i, data⟩, t')
        ∧ t'.Sparse result.rows (past ++ [.row ⟨i, data⟩])) := by
  cases hc : t.cached i with
  | some row =>
    have hrow := h.holds i row hc
    refine .inl ⟨row, rfl, hrow, h.holds, ?_, h.nrow_le⟩
    have hindex : row.index = i := by
      unfold served at hrow
      split at hrow
      · injection hrow with hrow
        rw [hrow]
      · cases hrow
    have hlt := cached_lt hc
    rw [highest_append, RowReply.reach, hindex, h.nrow_eq]
    exact (max_eq_left (by rw [← h.nrow_eq]; exact hlt)).symm
  | none =>
    cases hi : result.rows[i]? with
    | none => exact .inr ⟨rfl, .inl ⟨List.getElem?_eq_none_iff.mp hi, by simp [pluginFetchRow, hi]⟩⟩
    | some data =>
      obtain ⟨hlt, -⟩ := List.getElem?_eq_some_iff.mp hi
      have hsmall := result.ntuples
      obtain ⟨t', ht', -, hnrow, hcached⟩ := t.newRow_placed (i := i) data (by omega)
      refine .inr ⟨rfl, .inr ⟨data, t', rfl, by simp [pluginFetchRow, hi, ht'], ?_, ?_, ?_⟩⟩
      · intro j row hj
        rw [hcached] at hj
        split at hj
        · rename_i hji
          cases hj
          rw [hji, served_row hi]
        · exact h.holds j row hj
      · rw [highest_append, hnrow, h.nrow_eq]
        rfl
      · rw [hnrow]
        exact max_le h.nrow_le hlt

/-- The index that is looked for: `(unsigned int) -1` stands for the place behind the cached rows. -/
lemma Sparse.getRow_cases (h : t.Sparse result.rows past) (i : UInt32) {k : ℕ}
    (hk : k = if i = -1 then t.nrow else i.toNat) :
    (∃ row t', t.getRow .pgsql result.rows i = some (.row row, t')
      ∧ RowReply.row row = served result.rows k ∧ t'.Sparse result.rows (past ++ [.row row])
      ∧ (t.done = true → (t.cached k).isSome))
    ∨ ∃ reply t', t.getRow .pgsql result.rows i = some (reply, t')
      ∧ (reply = .none ∨ k ≠ t.nrow ∧ ∃ e, reply = .error e)
      ∧ t'.Sparse result.rows (past ++ [reply])
      ∧ (t.done = false → result.rows.length ≤ k) ∧ t.cached k = Option.none := by
  rcases h.row_at k with ⟨row, hc, hserved, hrow⟩ | ⟨hc, hfound⟩
  · exact .inl ⟨row, t, getRow_cached hk hc, hserved, hrow, fun _ => by rw [hc]; rfl⟩
  cases hd : t.done with
  | true =>
    obtain ⟨reply, hget, hreply⟩ := getRow_done (b := .pgsql) hk hc hd
    refine .inr ⟨reply, t, hget, ?_, ?_, by simp, hc⟩
    · exact hreply.imp And.right id
    · refine h.replied_nothing ?_ t.done
      rcases hreply with ⟨-, rfl⟩ | ⟨-, e, rfl⟩ <;> rfl
  | false =>
    rcases hfound with ⟨hlen, hfetch⟩ | ⟨data, t', hi, hfetch, hrow⟩
    · exact .inr ⟨.none, { t with done := true }, by rw [getRow_fetched hk hc hd, hfetch], .inl rfl,
        h.replied_nothing rfl true, fun _ => hlen, hc⟩
    · exact .inl ⟨_, t', by rw [getRow_fetched hk hc hd, hfetch], (served_row hi).symm, hrow,
        by simp⟩

lemma step_sparse (h : t.Sparse result.rows past) (call : RowCall) : ∃ reply t',
    call.step .pgsql result.rows t = some (reply, t') ∧ t'.Sparse result.rows (past ++ [reply]) := by
  cases call with
  | getRow i =>
    rcases h.getRow_cases i rfl with ⟨row, t', hget, -, hrow, -⟩ | ⟨reply, t', hget, -, hreply, -⟩
    · exact ⟨_, t', hget, hrow⟩
    · exact ⟨reply, t', hget, hreply⟩
  | fetchRow =>
    rcases h.getRow_cases (-1) rfl with ⟨row, t', hget, -, hrow, -⟩ | ⟨reply, t', hget, -, hreply, -⟩
    · exact ⟨_, t', hget, hrow⟩
    · exact ⟨reply, t', hget, hreply⟩

lemma step_answered_iff (h : t.Sparse result.rows past) {call : RowCall} {reply : RowReply ρ}
    {t' : RowTable ρ} (hstep : call.step .pgsql result.rows t = some (reply, t')) :
    call.Answered result.rows past reply ↔ call.Open result.rows t := by
  have hle := h.nrow_le
  have hbehind : t.cached t.nrow = Option.none := cached_eq_none le_rfl
  cases call with
  | getRow i =>
    rw [RowCall.step] at hstep
    by_cases hi : i = -1
    · have hlen : ¬ i.toNat < result.rows.length := by
        have hsmall := result.ntuples
        have htop : i.toNat = 2 ^ 32 - 1 := by rw [hi]; rfl
        omega
      rw [RowCall.Answered, if_neg hlen, RowCall.Open, if_pos hi]
      rcases h.getRow_cases i (if_pos hi).symm with ⟨row, u, hget, hserved, -, hcached⟩ |
        ⟨reply, u, hget, hreply, -, hend, -⟩ <;> rw [hget] at hstep <;> cases hstep
      · refine iff_of_false (row_ne_nothing rfl) ?_
        rintro (hd | hn)
        · have hsome := hcached hd
          rw [hbehind] at hsome
          cases hsome
        · rw [served_none hn.ge] at hserved
          cases hserved
      · refine iff_of_true (hreply.imp_right And.right) ?_
        cases hd : t.done with
        | true => exact .inl rfl
        | false => exact .inr (le_antisymm hle (hend hd))
    · rw [RowCall.Answered, RowCall.Open, if_neg hi]
      rcases h.getRow_cases i (if_neg hi).symm with ⟨row, u, hget, hserved, -, hcached⟩ |
        ⟨reply, u, hget, hreply, -, hend, hnone⟩ <;> rw [hget] at hstep <;> cases hstep
      · have hlt : i.toNat < result.rows.length := by
          by_contra hn
          rw [served_none (Nat.le_of_not_lt hn)] at hserved
          cases hserved
        rw [if_pos hlt]
        exact iff_of_true hserved fun _ => hcached
      · have hnothing := hreply.imp_right And.right
        by_cases hlt : i.toNat < result.rows.length
        · rw [if_pos hlt, served_row (List.getElem?_eq_getElem hlt)]
          refine iff_of_false (fun hs => row_ne_nothing hs.symm hnothing) fun hopen => ?_
          have hsome := hopen hlt
          rw [hnone] at hsome
          cases hd : t.done with
          | true => cases hsome hd
          | false => exact absurd (hend hd) (Nat.not_le.mpr hlt)
        · rw [if_neg hlt]
          exact iff_of_true hnothing fun hl => absurd hl hlt
  | fetchRow =>
    rw [RowCall.step, fetchRow] at hstep
    rw [RowCall.Answered, RowCall.Open, ← h.nrow_eq]
    rcases h.getRow_cases (-1) (if_pos rfl).symm with ⟨row, u, hget, hserved, -, hcached⟩ |
      ⟨reply, u, hget, hreply, -, hend, -⟩ <;> rw [hget] at hstep <;> cases hstep
    · refine iff_of_true hserved fun hd => ?_
      have hsome := hcached hd
      rw [hbehind] at hsome
      cases hsome
    · have hnone : reply = .none := hreply.resolve_right fun hr => hr.1 rfl
      rw [hnone]
      constructor
      · intro hs _
        exact le_antisymm hle (served_of_none hs.symm)
      · intro hopen
        refine (served_none ?_).symm
        cases hd : t.done with
        | true => exact (hopen hd).ge
        | false => exact hend hd

end RowTable

/-- Over every run of calls on a result of PostgreSQL. -/
theorem pgsql_rows_iff {ρ : Type} (result : PGresult ρ) (calls : List RowCall) :
    Answers.Defined (RowCall.step .pgsql result.rows) RowTable.new calls
    ∧ (Answers.Each (RowCall.step .pgsql result.rows)
        (fun past _ call reply _ => call.Answered result.rows past reply) [] RowTable.new calls
      ↔ Answers.Each (RowCall.step .pgsql result.rows)
        (fun _ t call _ _ => call.Open result.rows t) [] RowTable.new calls) := by
  constructor
  · refine Answers.defined_of_invariant (J := fun t => ∃ past, t.Sparse result.rows past) ?_ calls
      ⟨[], RowTable.new_sparse result.rows⟩
    rintro t call ⟨past, h⟩
    obtain ⟨reply, t', hstep, h'⟩ := RowTable.step_sparse h call
    exact ⟨reply, t', hstep, _, h'⟩
  · refine Answers.each_congr (I := fun past t => t.Sparse result.rows past) ?_ ?_ calls
      (RowTable.new_sparse result.rows)
    · intro past t call reply t' h hstep
      obtain ⟨reply', u, hstep', h'⟩ := RowTable.step_sparse h call
      rw [hstep] at hstep'
      cases hstep'
      exact h'
    · intro past t call reply t' h hstep
      exact RowTable.step_answered_iff h hstep

/-- One row, asked for behind an index that is out of range. -/
theorem pgsql_row_lost : ¬ Answers.Each (RowCall.step .pgsql [()])
    (fun past _ call reply _ => call.Answered [()] past reply) [] RowTable.new
    [.getRow 5, .getRow 0] := by
  intro h
  obtain ⟨reply, hget, hreply⟩ : ∃ reply, { RowTable.new with done := true }.getRow .pgsql [()] 0
      = some (reply, _) ∧ _ :=
    RowTable.getRow_done (i := 0) (k := 0) (by decide) rfl rfl
  have hlost : reply = served [()] 0 := ((h .none { RowTable.new with done := true } rfl).2 reply _ hget).1
  exact row_ne_nothing hlost.symm (hreply.imp And.right And.right)

/-! The results of MySQL and SQLite are read forward, and the cache holds the rows up to the cursor
of the server. -/

inductive TableCall
  | row (call : RowCall)
  | getRowCount
  deriving DecidableEq, Repr

def TableCall.step {ρ : Type} (unsupported : Int → Bool) (b : Backend) (source : List ρ)
    (t : RowTable ρ) : TableCall → Option ((RowReply ρ ⊕ ℕ) × RowTable ρ)
  | row call => (call.step b source t).map (Prod.map .inl id)
  | getRowCount => (t.getRowCount unsupported b source).map (Prod.map .inr id)

/-- A call with an index returns its row or, behind the last one, nothing; the calls without an
index return the next row. -/
def TableCall.Answered {ρ : Type} (source : List ρ) (t : RowTable ρ) :
    TableCall → RowReply ρ ⊕ ℕ → Prop
  | row (.getRow i), reply => ∃ r, reply = .inl r ∧
    if i = -1 then r = served source t.nrow
    else if i.toNat < source.length then r = served source i.toNat
    else r = .none ∨ ∃ e, r = .error e
  | row .fetchRow, reply => reply = .inl (served source t.nrow)
  | getRowCount, _ => True

namespace RowTable

variable {ρ : Type}

/-- The cached rows are the first ones of the result, up to the cursor. -/
structure Mirrors (source : List ρ) (t : RowTable ρ) : Prop where
  rows_eq : t.rows = (source.take t.nrow).mapIdx fun i data => some ⟨i, data⟩
  nrow_le : t.nrow ≤ source.length
  done_all : t.done = true → t.nrow = source.length

/-- The cursor stands behind the cached rows. -/
structure Forward (source : List ρ) (t : RowTable ρ) : Prop extends t.Mirrors source where
  cursor_eq : t.cursor = t.nrow
  nrow_lt : t.nrow < 2 ^ 32

variable {b : Backend} {source : List ρ} {t t' : RowTable ρ} {reply reply' : RowReply ρ} {i k n : ℕ}

lemma new_forward (source : List ρ) : (new : RowTable ρ).Forward source where
  rows_eq := rfl
  nrow_le := Nat.zero_le _
  done_all h := by cases h
  cursor_eq := rfl
  nrow_lt := Nat.two_pow_pos 32

lemma Mirrors.cached_row (h : t.Mirrors source) (hi : i < t.nrow) :
    ∃ row, t.cached i = some row ∧ RowReply.row row = served source i := by
  have hlt := lt_of_lt_of_le hi h.nrow_le
  refine ⟨⟨i, source[i]⟩, ?_, (served_row (List.getElem?_eq_getElem hlt)).symm⟩
  rw [cached, h.rows_eq, List.getElem?_mapIdx, List.getElem?_take_of_lt hi,
    List.getElem?_eq_getElem hlt]
  rfl

/-- One pass of the loop of the plugins. -/
lemma Forward.newRow (h : t.Forward source) {data : ρ} (hdata : source[t.nrow]? = some data)
    (hd : t.done = false)
    (hnew : ({ t with cursor := t.cursor + 1 } : RowTable ρ).newRow t.nrow data = some t') :
    t'.Forward source ∧ t'.done = false ∧ t'.nrow = t.nrow + 1 := by
  obtain ⟨hlt, hget⟩ := List.getElem?_eq_some_iff.mp hdata
  have hsize : t.nrow + 1 < 2 ^ 32 := by
    refine lt_of_le_of_ne h.nrow_lt fun hwrap => ?_
    rw [newRow_wraps (by rfl) hwrap] at hnew
    cases hnew
  rw [newRow_behind (by rfl) hsize] at hnew
  cases hnew
  have hnrow : (t.rows ++ [some (⟨t.nrow, data⟩ : CachedRow ρ)]).length = t.nrow + 1 := by
    rw [List.length_append]
    rfl
  refine ⟨⟨⟨?_, hnrow.trans_le hlt, fun hf => ?_⟩, ?_, hnrow.trans_lt hsize⟩, hd, hnrow⟩
  · have htake : (source.take t.nrow).length = t.nrow := List.length_take_of_le h.nrow_le
    change t.rows ++ _ = (source.take (t.rows ++ _).length).mapIdx _
    rw [hnrow, List.take_add_one, hdata, Option.toList_some, List.mapIdx_append, htake, h.rows_eq]
    simp [nrow]
  · exact absurd (hd.symm.trans hf) Bool.false_ne_true
  · change t.cursor + 1 = _
    rw [h.cursor_eq]
    exact hnrow.symm

lemma Forward.pass (h : t.Forward source) (hd : t.done = false)
    (hfetch : RowTable.fetchForward source (n + 1) t reply = some (reply', t')) :
    (source.length ≤ t.nrow ∧ reply' = .none ∧ t' = t)
    ∨ ∃ data u, source[t.nrow]? = some data ∧ u.Forward source ∧ u.done = false
      ∧ u.nrow = t.nrow + 1
      ∧ RowTable.fetchForward source n u (.row ⟨t.nrow, data⟩) = some (reply', t') := by
  rw [RowTable.fetchForward, h.cursor_eq] at hfetch
  cases hdata : source[t.nrow]? with
  | none =>
    rw [hdata] at hfetch
    cases hfetch
    exact .inl ⟨List.getElem?_eq_none_iff.mp hdata, rfl, rfl⟩
  | some data =>
    rw [hdata] at hfetch
    obtain ⟨u, hnew, hrest⟩ := Option.bind_eq_some_iff.mp hfetch
    obtain ⟨hu, hud, hun⟩ := h.newRow hdata hd (by rw [h.cursor_eq]; exact hnew)
    exact .inr ⟨data, u, rfl, hu, hud, hun, hrest⟩

/-- The loop of the plugins ends at the row it is asked for or with the rows of the server. -/
lemma Forward.fetchForward (h : t.Forward source) (hd : t.done = false)
    (hfetch : RowTable.fetchForward source (n + 1) t reply = some (reply', t')) :
    t'.Forward source ∧ t'.done = false ∧ t'.nrow = min source.length (t.nrow + n + 1)
      ∧ reply' = served source (t.nrow + n) := by
  have hle := h.nrow_le
  induction n generalizing t reply with
  | zero =>
    rcases h.pass hd hfetch with ⟨hlen, rfl, rfl⟩ | ⟨data, u, hdata, hu, hud, hun, hrest⟩
    · exact ⟨h, hd, by omega, (served_none hlen).symm⟩
    · cases hrest
      have hul := hu.nrow_le
      exact ⟨hu, hud, by omega, (served_row hdata).symm⟩
  | succ n ih =>
    rcases h.pass hd hfetch with ⟨hlen, rfl, rfl⟩ | ⟨data, u, hdata, hu, hud, hun, hrest⟩
    · exact ⟨h, hd, by omega, (served_none (by omega)).symm⟩
    · obtain ⟨ht', hd', hn', hr'⟩ := ih hu hud hrest hu.nrow_le
      rw [hun] at hn' hr'
      exact ⟨ht', hd', by omega, by rw [hr', Nat.add_right_comm t.nrow 1 n]; rfl⟩

lemma Forward.mark_done (h : t.Forward source) (hn : t.nrow = source.length) :
    ({ t with done := true } : RowTable ρ).Forward source where
  rows_eq := h.rows_eq
  nrow_le := h.nrow_le
  done_all _ := hn
  cursor_eq := h.cursor_eq
  nrow_lt := h.nrow_lt

lemma pluginFetchRow_forward (hb : b ≠ .pgsql) :
    t.pluginFetchRow b source k = RowTable.fetchForward source (k + 1 - t.nrow) t .unset := by
  cases b with
  | pgsql => exact absurd rfl hb
  | mysql | sqlite3 => rfl

/-- What a call for a row returns and leaves. -/
lemma Forward.getRow (hb : b ≠ .pgsql) (h : t.Forward source) {i : UInt32} {k : ℕ}
    (hk : k = if i = -1 then t.nrow else i.toNat)
    (hget : t.getRow b source i = some (reply, t')) :
    t'.Forward source
      ∧ (reply = served source k ∨ source.length ≤ k ∧ k ≠ t.nrow ∧ ∃ e, reply = .error e)
      ∧ (reply = .none → t'.done = true) ∧ (k < source.length → k < t'.nrow) := by
  have hle := h.nrow_le
  by_cases hlt : k < t.nrow
  · obtain ⟨row, hc, hrow⟩ := h.cached_row hlt
    rw [getRow_cached hk hc] at hget
    cases hget
    exact ⟨h, .inl hrow, by simp, fun _ => hlt⟩
  have hc : t.cached k = Option.none := cached_eq_none (Nat.le_of_not_lt hlt)
  cases hd : t.done with
  | true =>
    have hlen : source.length ≤ k := (h.done_all hd).ge.trans (Nat.le_of_not_lt hlt)
    obtain ⟨reply', hget', hreply⟩ := getRow_done (b := b) hk hc hd
    rw [hget'] at hget
    cases hget
    refine ⟨h, hreply.imp (fun hr => ?_) fun hr => ⟨hlen, hr⟩, fun _ => hd, fun hk => by omega⟩
    rw [hr.2, served_none hlen]
  | false =>
    rw [getRow_fetched hk hc hd, pluginFetchRow_forward hb] at hget
    have hpasses : k + 1 - t.nrow = (k - t.nrow) + 1 := by omega
    rw [hpasses] at hget
    cases hfetch : RowTable.fetchForward source (k - t.nrow + 1) t .unset with
    | none =>
      rw [hfetch] at hget
      cases hget
    | some found =>
      obtain ⟨fetched, u⟩ := found
      obtain ⟨hu, hud, hun, hfetched⟩ := h.fetchForward hd hfetch
      have hplace : t.nrow + (k - t.nrow) = k := by omega
      rw [hplace] at hfetched hun
      rw [hfetch] at hget
      by_cases hnone : fetched = .none
      · rw [hnone] at hget
        cases hget
        have hlen := served_of_none (hfetched.symm.trans hnone)
        exact ⟨hu.mark_done (by omega), .inl (hnone.symm.trans hfetched), fun _ => rfl,
          fun hk => by omega⟩
      · have hsame : some (fetched, u) = some (reply, t') := by
          rw [← hget]
          cases fetched <;> first | rfl | exact absurd rfl hnone
        cases hsame
        exact ⟨hu, .inl hfetched, fun hr => absurd hr hnone, fun hk => by omega⟩

lemma Forward.fetchRow (hb : b ≠ .pgsql) (h : t.Forward source)
    (hfetch : t.fetchRow b source = some (reply, t')) :
    t'.Forward source ∧ reply = served source t.nrow
      ∧ (reply = .none → t'.done = true) ∧ (t.nrow < source.length → t.nrow < t'.nrow) := by
  obtain ⟨ht', hreply, hdone, hnrow⟩ := h.getRow hb (if_pos rfl).symm hfetch
  exact ⟨ht', hreply.resolve_right fun hr => hr.2.1 rfl, hdone, hnrow⟩

/-- There are passes enough: the loop over all rows ends with the call that returns none. -/
lemma Forward.fetchAll (hb : b ≠ .pgsql) (h : t.Forward source) (hn : source.length < n + t.nrow)
    (hall : t.fetchAll b source n = some t') : t'.Forward source ∧ t'.done = true := by
  induction n generalizing t with
  | zero => exact absurd h.nrow_le (by omega)
  | succ n ih =>
    rw [RowTable.fetchAll] at hall
    cases hfetch : t.fetchRow b source with
    | none =>
      rw [hfetch] at hall
      cases hall
    | some fetched =>
      obtain ⟨reply, u⟩ := fetched
      obtain ⟨hu, hreply, hdone, hnrow⟩ := h.fetchRow hb hfetch
      rw [hfetch] at hall
      by_cases hlen : t.nrow < source.length
      · rw [served_row (List.getElem?_eq_getElem hlen)] at hreply
        subst hreply
        have hmore := hnrow hlen
        exact ih hu (by omega) hall
      · rw [served_none (Nat.le_of_not_lt hlen)] at hreply
        subst hreply
        cases hall
        exact ⟨hu, hdone rfl⟩

lemma Forward.getRowCount {unsupported : Int → Bool} {count : ℕ} (hb : b ≠ .pgsql)
    (h : t.Forward source) (hcount : t.getRowCount unsupported b source = some (count, t')) :
    t'.Forward source := by
  have hset : ∀ (u : RowTable ρ) (c : ℕ), u.Forward source →
      ({ u with rowCount := c } : RowTable ρ).Forward source :=
    fun u c hu => ⟨⟨hu.rows_eq, hu.nrow_le, hu.done_all⟩, hu.cursor_eq, hu.nrow_lt⟩
  have hemulated : ((t.fetchAll b source (source.length + 1)).map fun u =>
      (u.nrow, { u with rowCount := u.nrow })) = some (count, t') → t'.Forward source := by
    intro hall
    obtain ⟨u, hu, hut⟩ := Option.map_eq_some_iff.mp hall
    cases hut
    exact hset u _ (h.fetchAll hb (by omega) hu).1
  simp only [RowTable.getRowCount] at hcount
  split_ifs at hcount with hknown
  · cases hcount
    exact h
  cases hplugin : pluginRowCount b source with
  | none =>
    rw [hplugin] at hcount
    exact hemulated hcount
  | some c =>
    rw [hplugin] at hcount
    simp only at hcount
    split_ifs at hcount
    · cases hcount
      exact hset t _ h
    · exact hemulated hcount
    · cases hcount
      exact h

section Replied

variable (hN : source.length < 2 ^ 32)
include hN

lemma Forward.fetchForward_replied (h : t.Forward source) (hd : t.done = false) (n : ℕ)
    (reply : RowReply ρ) : ∃ fetched, RowTable.fetchForward source n t reply = some fetched := by
  induction n generalizing t reply with
  | zero => exact ⟨_, rfl⟩
  | succ n ih =>
    rw [RowTable.fetchForward, h.cursor_eq]
    cases hdata : source[t.nrow]? with
    | none => exact ⟨_, rfl⟩
    | some data =>
      obtain ⟨hlt, -⟩ := List.getElem?_eq_some_iff.mp hdata
      have hnew : ({ t with cursor := t.nrow + 1 } : RowTable ρ).newRow t.nrow data = some _ :=
        newRow_behind (by rfl) (by omega)
      have hu := h.newRow hdata hd (by rw [h.cursor_eq]; exact hnew)
      obtain ⟨fetched, hrest⟩ := ih hu.1 hu.2.1 (.row ⟨t.nrow, data⟩)
      exact ⟨fetched, Option.bind_eq_some_iff.mpr ⟨_, hnew, hrest⟩⟩

lemma Forward.getRow_replied (hb : b ≠ .pgsql) (h : t.Forward source) (i : UInt32) :
    ∃ reply t', t.getRow b source i = some (reply, t') := by
  obtain ⟨k, hk⟩ : ∃ k, k = if i = -1 then t.nrow else i.toNat := ⟨_, rfl⟩
  cases hc : t.cached k with
  | some row => exact ⟨_, _, getRow_cached hk hc⟩
  | none =>
    cases hd : t.done with
    | true =>
      obtain ⟨reply, hget, -⟩ := getRow_done (b := b) hk hc hd
      exact ⟨_, _, hget⟩
    | false =>
      rw [getRow_fetched hk hc hd, pluginFetchRow_forward hb]
      obtain ⟨⟨reply, u⟩, hfetch⟩ := h.fetchForward_replied hN hd (k + 1 - t.nrow) .unset
      rw [hfetch]
      cases reply <;> exact ⟨_, _, rfl⟩

lemma Forward.fetchAll_replied (hb : b ≠ .pgsql) (h : t.Forward source) (n : ℕ) :
    ∃ t', t.fetchAll b source n = some t' := by
  induction n generalizing t with
  | zero => exact ⟨_, rfl⟩
  | succ n ih =>
    obtain ⟨reply, u, hget⟩ := h.getRow_replied hN hb (-1)
    have hfetch : t.fetchRow b source = some (reply, u) := hget
    rw [RowTable.fetchAll, hfetch]
    cases reply with
    | row row => exact ih (h.fetchRow hb hfetch).1
    | none | error e | unset => exact ⟨u, rfl⟩

lemma Forward.getRowCount_replied (hb : b ≠ .pgsql) (h : t.Forward source)
    (unsupported : Int → Bool) : ∃ count t', t.getRowCount unsupported b source = some (count, t') := by
  obtain ⟨u, hall⟩ := h.fetchAll_replied hN hb (source.length + 1)
  simp only [RowTable.getRowCount]
  rw [hall]
  split_ifs
  · exact ⟨_, _, rfl⟩
  cases pluginRowCount b source with
  | none => exact ⟨_, _, rfl⟩
  | some c =>
    simp only
    split_ifs <;> exact ⟨_, _, rfl⟩

end Replied

lemma step_forward (unsupported : Int → Bool) (hb : b ≠ .pgsql) (h : t.Forward source)
    {call : TableCall} {answer : RowReply ρ ⊕ ℕ}
    (hstep : call.step unsupported b source t = some (answer, t')) :
    t'.Forward source ∧ call.Answered source t answer := by
  cases call with
  | getRowCount =>
    obtain ⟨⟨count, u⟩, hcount, hanswer⟩ := Option.map_eq_some_iff.mp hstep
    cases hanswer
    exact ⟨h.getRowCount hb hcount, trivial⟩
  | row call =>
    obtain ⟨⟨reply, u⟩, hcall, hanswer⟩ := Option.map_eq_some_iff.mp hstep
    cases hanswer
    cases call with
    | fetchRow =>
      obtain ⟨hu, hreply, -⟩ := h.fetchRow hb hcall
      exact ⟨hu, congrArg Sum.inl hreply⟩
    | getRow i =>
      obtain ⟨hu, hreply, -⟩ := h.getRow hb rfl hcall
      refine ⟨hu, reply, rfl, ?_⟩
      by_cases hi : i = -1
      · rw [if_pos hi] at hreply ⊢
        exact hreply.resolve_right fun hr => hr.2.1 rfl
      · rw [if_neg hi] at hreply ⊢
        split_ifs with hlt
        · exact hreply.resolve_right fun hr => absurd hlt (Nat.not_lt.mpr hr.1)
        · refine hreply.imp (fun hr => ?_) fun hr => hr.2.2
          rw [hr, served_none (Nat.le_of_not_lt hlt)]

lemma step_replied (unsupported : Int → Bool) (hb : b ≠ .pgsql) (hN : source.length < 2 ^ 32)
    (h : t.Forward source) (call : TableCall) :
    ∃ answer t', call.step unsupported b source t = some (answer, t') := by
  cases call with
  | getRowCount =>
    obtain ⟨count, u, hcount⟩ := h.getRowCount_replied hN hb unsupported
    exact ⟨_, _, Option.map_eq_some_iff.mpr ⟨_, hcount, rfl⟩⟩
  | row call =>
    cases call with
    | fetchRow =>
      obtain ⟨reply, u, hget⟩ := h.getRow_replied hN hb (-1)
      exact ⟨_, _, Option.map_eq_some_iff.mpr ⟨_, hget, rfl⟩⟩
    | getRow i =>
      obtain ⟨reply, u, hget⟩ := h.getRow_replied hN hb i
      exact ⟨_, _, Option.map_eq_some_iff.mpr ⟨_, hget, rfl⟩⟩

end RowTable

/-- Over every run of calls on a result of MySQL or SQLite in which no allocation fails. -/
theorem forward_rows {ρ : Type} (unsupported : Int → Bool) (b : Backend) (hb : b ≠ .pgsql)
    (source : List ρ) (calls : List TableCall) :
    (RowTable.new : RowTable ρ).Mirrors source
    ∧ Answers.Each (TableCall.step unsupported b source)
      (fun _ t call answer t' => t'.Mirrors source ∧ call.Answered source t answer)
      [] RowTable.new calls
    ∧ (source.length < 2 ^ 32 →
      Answers.Defined (TableCall.step unsupported b source) RowTable.new calls) := by
  have hnew := RowTable.new_forward source
  refine ⟨hnew.toMirrors, ?_, fun hN => ?_⟩
  · refine Answers.each_of_invariant (I := fun _ t => t.Forward source) ?_ calls hnew
    intro past t call answer t' h hstep
    obtain ⟨h', hanswer⟩ := RowTable.step_forward unsupported hb h hstep
    exact ⟨⟨h'.toMirrors, hanswer⟩, h'⟩
  · refine Answers.defined_of_invariant (J := fun t => t.Forward source) ?_ calls hnew
    intro t call h
    obtain ⟨answer, t', hstep⟩ := RowTable.step_replied unsupported hb hN h call
    exact ⟨answer, t', hstep, (RowTable.step_forward unsupported hb h hstep).1⟩

theorem forward_rows_counted :
    Answers.Each (TableCall.step (fun _ => false) .sqlite3 ["a", "b"])
      (fun _ t call answer t' => t'.Mirrors ["a", "b"] ∧ call.Answered ["a", "b"] t answer)
      [] RowTable.new [.row (.getRow 1), .getRowCount, .row .fetchRow]
    ∧ Answers.Defined (TableCall.step (fun _ => false) .sqlite3 ["a", "b"]) RowTable.new
      [.row (.getRow 1), .getRowCount, .row .fetchRow] :=
  have h := forward_rows (fun _ => false) .sqlite3 (by decide) ["a", "b"]
    [.row (.getRow 1), .getRowCount, .row .fetchRow]
  ⟨h.2.1, h.2.2 (by decide)⟩

/-- Index 2^32-1 is `(unsigned int) -1`, which asks for the next row. -/
theorem forward_next_row : ¬ Answers.Each (TableCall.step (fun _ => false) .sqlite3 ["a"])
    (fun _ _ call answer _ => ∀ i, call = .row (.getRow i) → ["a"].length ≤ i.toNat →
      ∀ row, answer ≠ .inl (.row row)) [] RowTable.new [.row (.getRow (-1))] := by
  intro h
  exact (h (.inl (.row ⟨0, "a"⟩)) ⟨[some ⟨0, "a"⟩], 0, false, 1⟩ rfl).1 (-1) rfl (by decide) _ rfl

end Preludedb.Sql
