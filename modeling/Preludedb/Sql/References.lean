import Preludedb.Foundations.Runs

/-! The references of a result. The table counts those to itself and one for each row with
references, a row those to itself and to its fields; the counters have 16 and 32 bits. -/

namespace Preludedb.Sql

open Foundations

/-- `value` of a field: not fetched yet, `SQL_NULL_FIELD` or a text. -/
inductive FieldValue
  | unset
  | null
  | text
  deriving DecidableEq, Repr

structure CountedRow where
  refcount : UInt32
  fields : List FieldValue
  deriving DecidableEq, Repr

/-- What there are references to. -/
inductive Object
  | table
  | row (i : ℕ)
  | field (i j : ℕ)
  deriving DecidableEq, Repr

/-- A result with what has been released so far; `faulted` after a use of released memory. -/
structure CountedTable where
  refcount : UInt16
  rows : List (Option CountedRow)
  released : List Object
  faulted : Bool
  deriving DecidableEq, Repr

namespace CountedTable

def new : CountedTable := ⟨1, [], [], false⟩

def row (t : CountedTable) (i : ℕ) : Option CountedRow := (t.rows[i]?).join

def value (t : CountedTable) (i j : ℕ) : Option FieldValue := (t.row i).bind fun row => row.fields[j]?

def fault (t : CountedTable) : CountedTable := { t with faulted := true }

def setRow (t : CountedTable) (i : ℕ) (row : CountedRow) : CountedTable :=
  { t with rows := t.rows.set i (some row) }

def tableRef (t : CountedTable) : CountedTable := { t with refcount := t.refcount + 1 }

def rowRef (t : CountedTable) (i : ℕ) : CountedTable :=
  match t.row i with
  | none => t.fault
  | some row =>
    (if row.refcount = 1 then t.tableRef else t).setRow i { row with refcount := row.refcount + 1 }

def fieldRef (t : CountedTable) (i _j : ℕ) : CountedTable := t.rowRef i

/-- A row goes with the fields that have a text; its counter is 0 by then, so that
`preludedb_sql_field_destroy` hands them to the plugin. -/
def rowObjects (i : ℕ) (row : CountedRow) : List Object :=
  ((List.range row.fields.length).filter (fun j => row.fields[j]? = some .text)).map (.field i)
    ++ [.row i]

def rowDestroy (tableDestroy : CountedTable → CountedTable) (t : CountedTable) (i : ℕ) :
    CountedTable :=
  match t.row i with
  | none => t.fault
  | some row =>
    let refcount := row.refcount - 1
    if 0 < refcount then
      let t := t.setRow i { row with refcount := refcount }
      if refcount = 1 then tableDestroy t else t
    else { t with
      rows := t.rows.set i none
      released := t.released ++ rowObjects i row }

/-- `preludedb_sql_table_destroy` while the rows of the table are destroyed: were the counter to
reach 0 once more, the table would be freed under the loop over its rows. -/
def tableDestroyWithin (t : CountedTable) : CountedTable :=
  { t with
    refcount := t.refcount - 1
    faulted := t.faulted || t.refcount - 1 = 0 }

def destroyRows (t : CountedTable) : CountedTable :=
  (List.range t.rows.length).foldl
    (fun t i => if (t.row i).isSome then t.rowDestroy tableDestroyWithin i else t) t

def tableDestroy (t : CountedTable) : CountedTable :=
  let t := { t with refcount := t.refcount - 1 }
  if 0 < t.refcount then t
  else
    let t := t.destroyRows
    { t with released := t.released ++ [.table] }

def fieldDestroy (t : CountedTable) (i j : ℕ) : CountedTable :=
  match t.row i with
  | none => t.fault
  | some row =>
    if row.fields[j]? = some .null then t
    else if row.refcount = 0 then { t with released := t.released ++ [.field i j] }
    else t.rowDestroy tableDestroy i

def newRow (t : CountedTable) (i columns : ℕ) : CountedTable :=
  { t with
    rows := (t.rows ++ List.replicate (i + 1 - t.rows.length) none).set i
      (some ⟨1, List.replicate columns .unset⟩) }

def newField (t : CountedTable) (i j : ℕ) (value : FieldValue) : CountedTable :=
  match t.row i with
  | none => t.fault
  | some row => t.setRow i { row with fields := row.fields.set j value }

end CountedTable

inductive RefCall
  | ref (o : Object)
  | destroy (o : Object)
  | newRow (i columns : ℕ)
  | newField (i j : ℕ) (value : FieldValue)
  deriving DecidableEq, Repr

def CountedTable.call (t : CountedTable) (call : RefCall) : CountedTable :=
  if .table ∈ t.released then t.fault
  else match call with
    | .ref .table => t.tableRef
    | .ref (.row i) => t.rowRef i
    | .ref (.field i j) => t.fieldRef i j
    | .destroy .table => t.tableDestroy
    | .destroy (.row i) => t.rowDestroy .tableDestroy i
    | .destroy (.field i j) => t.fieldDestroy i j
    | .newRow i columns => t.newRow i columns
    | .newField i j value => t.newField i j value

/-- A result with the references that are held to it and the objects it was given. -/
structure Holding where
  table : CountedTable
  outstanding : List Object
  made : List Object
  deriving DecidableEq, Repr

namespace Holding

def new : Holding := ⟨.new, [.table], [.table]⟩

def step (s : Holding) (call : RefCall) : Holding where
  table := s.table.call call
  outstanding := match call with
    | .ref o => o :: s.outstanding
    | .destroy o => s.outstanding.erase o
    | _ => s.outstanding
  made := match call with
    | .newRow i _ => .row i :: s.made
    | .newField i j .text => .field i j :: s.made
    | _ => s.made

end Holding

/-- The object is part of the result; the fields that are null have none. -/
def CountedTable.Has (t : CountedTable) : Object → Prop
  | .table => True
  | .row i => (t.row i).isSome
  | .field i j => t.value i j = some .text

instance (t : CountedTable) : (o : Object) → Decidable (t.Has o)
  | .table => inferInstanceAs (Decidable True)
  | .row i => inferInstanceAs (Decidable ((t.row i).isSome = true))
  | .field i j => inferInstanceAs (Decidable (t.value i j = some .text))

/-- A reference is taken from a result that is still held, and dropped by the one that has it; rows
and fields are fetched once. -/
def Holding.Matched (s : Holding) : RefCall → Prop
  | .ref o => s.outstanding ≠ [] ∧ s.table.Has o
  | .destroy o => o ∈ s.outstanding
  | .newRow i _ => s.outstanding ≠ [] ∧ s.table.row i = none
  | .newField i j value => s.outstanding ≠ [] ∧ value ≠ .unset ∧ s.table.value i j = some .unset

instance (s : Holding) : (call : RefCall) → Decidable (s.Matched call)
  | .ref o => inferInstanceAs (Decidable (_ ∧ s.table.Has o))
  | .destroy o => inferInstanceAs (Decidable (o ∈ s.outstanding))
  | .newRow i _ => inferInstanceAs (Decidable (_ ∧ s.table.row i = none))
  | .newField i j value => inferInstanceAs (Decidable (_ ∧ value ≠ .unset ∧ s.table.value i j = some .unset))

/-- As long as a reference is held nothing is released, and with the last one every object is,
once. -/
def Holding.Exact (s : Holding) : Prop :=
  s.table.faulted = false
  ∧ ∀ o, s.table.released.count o = if s.outstanding = [] ∧ o ∈ s.made then 1 else 0

def Object.onRow (i : ℕ) : Object → Bool
  | table => false
  | row k => k = i
  | field k _ => k = i

/-- The references to a row and to its fields. -/
def rowRefs (outstanding : List Object) (i : ℕ) : ℕ := outstanding.countP (Object.onRow i)

/-- What the references to a row count for at the table: one, as long as they are at most 2^32. -/
def share (refs : ℕ) : ℕ := (refs + (2 ^ 32 - 1)) / 2 ^ 32

/-- What the counter of a table with `nrow` places has to count. -/
def tableRefs (nrow : ℕ) (outstanding : List Object) : ℕ :=
  outstanding.count .table + ∑ i ∈ Finset.range nrow, share (rowRefs outstanding i)

namespace Holding

def tableCount (s : Holding) : ℕ := tableRefs s.table.rows.length s.outstanding

def rowCount (s : Holding) (i : ℕ) : ℕ := rowRefs s.outstanding i

/-- The call drops no reference at a count of which the counter shows too little: for the table one
more than a positive multiple of 2^16, for a row a multiple of 2^32 or, for a field, one less. -/
def Counted (s : Holding) : RefCall → Prop
  | .destroy .table => s.tableCount % 2 ^ 16 = 1 → s.tableCount = 1
  | .destroy (.row i) => s.rowCount i % 2 ^ 32 ≠ 0
    ∧ (s.rowCount i % 2 ^ 32 = 1 → s.tableCount % 2 ^ 16 = 1 → s.tableCount = 1)
  | .destroy (.field i _) => s.rowCount i % 2 ^ 32 ≠ 0 ∧ (s.rowCount i + 1) % 2 ^ 32 ≠ 0
    ∧ (s.rowCount i % 2 ^ 32 = 1 → s.tableCount % 2 ^ 16 = 1 → s.tableCount = 1)
  | _ => True

end Holding

instance (s : Holding) : (call : RefCall) → Decidable (s.Counted call)
  | .destroy .table => inferInstanceAs (Decidable (s.tableCount % 2 ^ 16 = 1 → s.tableCount = 1))
  | .destroy (.row i) => inferInstanceAs (Decidable (s.rowCount i % 2 ^ 32 ≠ 0
    ∧ (s.rowCount i % 2 ^ 32 = 1 → s.tableCount % 2 ^ 16 = 1 → s.tableCount = 1)))
  | .destroy (.field i _) => inferInstanceAs (Decidable (s.rowCount i % 2 ^ 32 ≠ 0
    ∧ (s.rowCount i + 1) % 2 ^ 32 ≠ 0
    ∧ (s.rowCount i % 2 ^ 32 = 1 → s.tableCount % 2 ^ 16 = 1 → s.tableCount = 1)))
  | .ref _ | .newRow _ _ | .newField _ _ _ => inferInstanceAs (Decidable True)

section Counters

lemma uint32_ofNat_eq_iff {a b : ℕ} : UInt32.ofNat a = UInt32.ofNat b ↔ a % 2 ^ 32 = b % 2 ^ 32 := by
  rw [← UInt32.toNat_inj, UInt32.toNat_ofNat', UInt32.toNat_ofNat']

lemma uint16_ofNat_eq_iff {a b : ℕ} : UInt16.ofNat a = UInt16.ofNat b ↔ a % 2 ^ 16 = b % 2 ^ 16 := by
  rw [← UInt16.toNat_inj, UInt16.toNat_ofNat', UInt16.toNat_ofNat']

lemma uint32_ofNat_succ (a : ℕ) : UInt32.ofNat (a + 1) = UInt32.ofNat a + 1 := UInt32.ofNat_add a 1

lemma uint16_ofNat_succ (a : ℕ) : UInt16.ofNat (a + 1) = UInt16.ofNat a + 1 := UInt16.ofNat_add a 1

lemma uint32_ofNat_pred (a : ℕ) : UInt32.ofNat (a + 1) - 1 = UInt32.ofNat a := by
  rw [uint32_ofNat_succ, UInt32.add_sub_cancel]

lemma uint16_ofNat_pred (a : ℕ) : UInt16.ofNat (a + 1) - 1 = UInt16.ofNat a := by
  rw [uint16_ofNat_succ, UInt16.add_sub_cancel]

lemma uint32_pos_iff {a : ℕ} : 0 < UInt32.ofNat a ↔ a % 2 ^ 32 ≠ 0 := by
  rw [UInt32.lt_iff_toNat_lt, UInt32.toNat_ofNat']
  exact Nat.pos_iff_ne_zero

lemma uint16_pos_iff {a : ℕ} : 0 < UInt16.ofNat a ↔ a % 2 ^ 16 ≠ 0 := by
  rw [UInt16.lt_iff_toNat_lt, UInt16.toNat_ofNat']
  exact Nat.pos_iff_ne_zero

lemma share_succ (k : ℕ) : share (k + 1) = share k + if k % 2 ^ 32 = 0 then 1 else 0 := by
  unfold share
  split <;> omega

lemma share_eq_zero {k : ℕ} : share k = 0 ↔ k = 0 := by
  unfold share
  omega

end Counters

section References

variable {o : Object} {outstanding rest : List Object} {i n : ℕ}

lemma rowRefs_cons : rowRefs (o :: rest) i = rowRefs rest i + if o.onRow i then 1 else 0 :=
  List.countP_cons

lemma rowRefs_perm (h : outstanding.Perm (o :: rest)) (i : ℕ) :
    rowRefs outstanding i = rowRefs (o :: rest) i :=
  h.countP_eq _

lemma tableRefs_perm (h : outstanding.Perm (o :: rest)) (n : ℕ) :
    tableRefs n outstanding = tableRefs n (o :: rest) := by
  rw [tableRefs, tableRefs, h.count_eq]
  simp only [rowRefs_perm h]

lemma tableRefs_table : tableRefs n (.table :: rest) = tableRefs n rest + 1 := by
  simp only [tableRefs, rowRefs_cons, Object.onRow, Bool.false_eq_true, if_false, Nat.add_zero,
    List.count_cons_self]
  omega

/-- A reference to a row counts for the table where the row counts none yet. -/
lemma tableRefs_row (ho : ∀ k, o.onRow k = decide (i = k)) (hi : i < n) :
    tableRefs n (o :: rest) = tableRefs n rest + if rowRefs rest i % 2 ^ 32 = 0 then 1 else 0 := by
  have hother : o ≠ .table := by
    rintro rfl
    exact Bool.false_ne_true ((ho i).trans (decide_eq_true rfl))
  have hrow : ∀ k, rowRefs (o :: rest) k = rowRefs rest k + if i = k then 1 else 0 := by
    intro k
    rw [rowRefs_cons, ho k]
    simp only [decide_eq_true_eq]
  have hmem := Finset.mem_range.mpr hi
  rw [tableRefs, tableRefs, List.count_cons_of_ne hother, ← Finset.add_sum_erase _ _ hmem,
    ← Finset.add_sum_erase _ _ hmem, hrow, if_pos rfl, share_succ]
  have hsame : ∑ k ∈ (Finset.range n).erase i, share (rowRefs (o :: rest) k)
      = ∑ k ∈ (Finset.range n).erase i, share (rowRefs rest k) := by
    refine Finset.sum_congr rfl fun k hk => ?_
    rw [hrow, if_neg (Finset.ne_of_mem_erase hk).symm, Nat.add_zero]
  rw [hsame]
  omega

lemma tableRefs_extend {m : ℕ} (h : ∀ k, n ≤ k → rowRefs outstanding k = 0) (hm : n ≤ m) :
    tableRefs m outstanding = tableRefs n outstanding := by
  obtain ⟨d, rfl⟩ := Nat.exists_eq_add_of_le hm
  rw [tableRefs, tableRefs, Finset.sum_range_add]
  have hzero : ∑ k ∈ Finset.range d, share (rowRefs outstanding (n + k)) = 0 := by
    refine Finset.sum_eq_zero fun k _ => ?_
    rw [h (n + k) (Nat.le_add_right n k)]
    rfl
  rw [hzero, Nat.add_zero]

end References

namespace CountedTable

variable {t : CountedTable} {o : Object} {i j k : ℕ} {r : CountedRow}

lemma row_lt (h : t.row i = some r) : i < t.rows.length := by
  by_contra hi
  rw [row, List.getElem?_eq_none (Nat.le_of_not_lt hi)] at h
  cases h

lemma setRow_row (h : i < t.rows.length) : (t.setRow i r).row k = if k = i then some r else t.row k := by
  simp only [row, setRow, List.getElem?_set]
  grind

lemma setRow_value (h : t.row i = some r) {r' : CountedRow} (hr : r'.fields = r.fields) :
    (t.setRow i r').value j k = t.value j k := by
  rw [value, value, setRow_row (row_lt h)]
  by_cases hj : j = i
  · rw [if_pos hj, hj, h, Option.bind_some, Option.bind_some, hr]
  · rw [if_neg hj]

/-- The counter of a row is no part of what the table has. -/
lemma setRow_has (h : t.row i = some r) {r' : CountedRow} (hr : r'.fields = r.fields) :
    (t.setRow i r').Has o ↔ t.Has o := by
  cases o with
  | table => exact Iff.rfl
  | row j =>
    rw [Has, Has, setRow_row (row_lt h)]
    split
    · rename_i hj
      rw [hj, h]
      exact Iff.rfl
    · exact Iff.rfl
  | field j k => rw [Has, Has, setRow_value h hr]

@[simp] lemma setRow_length : (t.setRow i r).rows.length = t.rows.length := List.length_set

/-- Nothing is released, and the counters of the rows show the references to them. -/
structure Live (t : CountedTable) (outstanding made : List Object) : Prop where
  faulted : t.faulted = false
  released : t.released = []
  has : ∀ o ∈ outstanding, t.Has o
  made_iff : ∀ o, o ∈ made ↔ t.Has o
  row_refcount : ∀ i r, t.row i = some r → r.refcount = UInt32.ofNat (rowRefs outstanding i + 1)

/-- The counter of the table shows the references to it, its own ones and those for its rows. -/
structure Tallied (t : CountedTable) (outstanding made : List Object) : Prop
    extends t.Live outstanding made where
  refcount : t.refcount = UInt16.ofNat (tableRefs t.rows.length outstanding)

variable {outstanding rest made : List Object}

lemma Live.perm (h : t.Live outstanding made) (hp : outstanding.Perm rest) : t.Live rest made where
  faulted := h.faulted
  released := h.released
  has o ho := h.has o (hp.mem_iff.mpr ho)
  made_iff := h.made_iff
  row_refcount i r hr := by
    rw [h.row_refcount i r hr, rowRefs, rowRefs, hp.countP_eq]

lemma Tallied.perm (h : t.Tallied outstanding made) (hp : outstanding.Perm (o :: rest)) :
    t.Tallied (o :: rest) made :=
  ⟨h.toLive.perm hp, by rw [h.refcount, tableRefs_perm hp]⟩

/-- The rows do not see the references to the table. -/
lemma Live.drop_table (h : t.Live (.table :: rest) made) : t.Live rest made where
  faulted := h.faulted
  released := h.released
  has o ho := h.has o (List.mem_cons_of_mem _ ho)
  made_iff := h.made_iff
  row_refcount i r hr := by
    rw [h.row_refcount i r hr, rowRefs_cons]
    rfl

lemma Live.recount (h : t.Live outstanding made) (refcount : UInt16) :
    ({ t with refcount := refcount } : CountedTable).Live outstanding made :=
  ⟨h.faulted, h.released, h.has, h.made_iff, h.row_refcount⟩

lemma Live.no_row (h : t.Live outstanding made) (hk : t.row k = none) : rowRefs outstanding k = 0 := by
  refine List.countP_eq_zero.mpr fun o ho hrow => ?_
  have hhas := h.has o ho
  cases o with
  | table => cases hrow
  | row j =>
    rw [Has, of_decide_eq_true hrow, hk] at hhas
    cases hhas
  | field j l =>
    rw [Has, value, of_decide_eq_true hrow, hk] at hhas
    cases hhas

/-- A row whose counter follows the references. -/
lemma Live.setRow (h : t.Live outstanding made) (hr : t.row i = some r)
    (hhas : ∀ o ∈ rest, t.Has o) (hrest : ∀ k ≠ i, rowRefs rest k = rowRefs outstanding k) :
    (t.setRow i { r with refcount := UInt32.ofNat (rowRefs rest i + 1) }).Live rest made where
  faulted := h.faulted
  released := h.released
  has o ho := (setRow_has hr (by rfl)).mpr (hhas o ho)
  made_iff o := (h.made_iff o).trans (setRow_has hr (by rfl)).symm
  row_refcount k r' hk := by
    rw [setRow_row (row_lt hr)] at hk
    split at hk
    · rename_i hki
      cases hk
      rw [hki]
    · rename_i hki
      rw [hrest k hki]
      exact h.row_refcount k r' hk

lemma onRow_of_has_row (ho : o = .row i ∨ o = .field i j) (k : ℕ) : o.onRow k = decide (i = k) := by
  rcases ho with rfl | rfl <;> rfl

/-- The row that a reference is taken to or dropped from. -/
lemma Live.row_of_has (h : t.Live outstanding made) (ho : o = .row i ∨ o = .field i j)
    (hhas : t.Has o) : ∃ r, t.row i = some r ∧ r.refcount = UInt32.ofNat (rowRefs outstanding i + 1) := by
  cases hr : t.row i with
  | some r => exact ⟨r, rfl, h.row_refcount i r hr⟩
  | none =>
    rcases ho with rfl | rfl
    · rw [Has, hr] at hhas
      cases hhas
    · rw [Has, value, hr] at hhas
      cases hhas

lemma Tallied.tableRef (h : t.Tallied outstanding made) :
    t.tableRef.Tallied (.table :: outstanding) made where
  faulted := h.faulted
  released := h.released
  has o ho := by
    rcases List.mem_cons.mp ho with rfl | ho
    · trivial
    · exact h.has o ho
  made_iff := h.made_iff
  row_refcount i r hr := by
    rw [rowRefs_cons]
    exact h.row_refcount i r hr
  refcount := by
    rw [tableRefs_table, uint16_ofNat_succ]
    exact congrArg (· + 1) h.refcount

lemma Tallied.rowRef (h : t.Tallied outstanding made) (ho : o = .row i ∨ o = .field i j)
    (hhas : t.Has o) : (t.rowRef i).Tallied (o :: outstanding) made := by
  obtain ⟨r, hr, hrefs⟩ := h.row_of_has ho hhas
  have honrow := onRow_of_has_row ho
  have hrow : rowRefs (o :: outstanding) i = rowRefs outstanding i + 1 := by
    rw [rowRefs_cons, honrow, decide_eq_true rfl, if_pos rfl]
  have hcount : r.refcount + 1 = UInt32.ofNat (rowRefs (o :: outstanding) i + 1) := by
    rw [hrow, hrefs, uint32_ofNat_succ (_ + 1)]
  have hlive : (t.setRow i { r with refcount := r.refcount + 1 }).Live (o :: outstanding) made := by
    rw [hcount]
    refine h.toLive.setRow hr (fun o' ho' => ?_) fun k hk => ?_
    · rcases List.mem_cons.mp ho' with rfl | ho'
      · exact hhas
      · exact h.has o' ho'
    · rw [rowRefs_cons, honrow, decide_eq_false (Ne.symm hk)]
      rfl
  have hone : r.refcount = 1 ↔ rowRefs outstanding i % 2 ^ 32 = 0 := by
    have h1 : (1 : UInt32) = UInt32.ofNat 1 := rfl
    rw [hrefs, h1, uint32_ofNat_eq_iff]
    omega
  rw [CountedTable.rowRef, hr]
  by_cases hr1 : r.refcount = 1
  · simp only [if_pos hr1]
    refine ⟨hlive.recount (t.refcount + 1), ?_⟩
    rw [tableRefs_row honrow (by simpa [setRow, CountedTable.tableRef] using row_lt hr), if_pos (hone.mp hr1),
      uint16_ofNat_succ]
    exact congrArg (· + 1) (h.refcount.trans (by simp [setRow, CountedTable.tableRef]))
  · simp only [if_neg hr1]
    refine ⟨hlive, ?_⟩
    rw [tableRefs_row honrow (by simpa using row_lt hr), if_neg fun h0 => hr1 (hone.mpr h0),
      setRow_length]
    exact h.refcount

def objectsAt (t : CountedTable) (i : ℕ) : List Object := (t.row i).elim [] (rowObjects i)

/-- A row with no reference but that of its table is released. -/
lemma rowDestroy_last {f : CountedTable → CountedTable} (hr : t.row i = some r) (hlast : r.refcount = 1) :
    t.rowDestroy f i
      = { t with rows := t.rows.set i none, released := t.released ++ rowObjects i r } := by
  rw [rowDestroy, hr]
  simp only [hlast, UInt32.sub_self, UInt32.lt_irrefl, if_false]

lemma destroyRows_released (hlast : ∀ i r, t.row i = some r → r.refcount = 1) :
    t.destroyRows.faulted = t.faulted
    ∧ t.destroyRows.released = t.released ++ (List.range t.rows.length).flatMap t.objectsAt := by
  have hloop : ∀ m, ∃ u, (List.range m).foldl (fun t i =>
      if (t.row i).isSome then t.rowDestroy tableDestroyWithin i else t) t = u
      ∧ u.faulted = t.faulted ∧ u.released = t.released ++ (List.range m).flatMap t.objectsAt
      ∧ ∀ k, m ≤ k → u.row k = t.row k := by
    intro m
    induction m with
    | zero => exact ⟨t, rfl, rfl, (List.append_nil _).symm, fun _ _ => rfl⟩
    | succ m ih =>
      obtain ⟨u, hu, hfaulted, hreleased, hrows⟩ := ih
      rw [List.range_succ, List.foldl_append, hu, List.flatMap_append, List.flatMap_singleton,
        List.foldl_cons, List.foldl_nil]
      have hm := hrows m le_rfl
      cases hr : t.row m with
      | none =>
        rw [hr] at hm
        refine ⟨u, by rw [hm]; rfl, hfaulted, ?_, fun k hk => hrows k (Nat.le_of_succ_le hk)⟩
        rw [hreleased, objectsAt, hr, Option.elim_none, List.append_nil]
      | some r =>
        rw [hr] at hm
        rw [hm, Option.isSome_some, if_pos rfl, rowDestroy_last hm (hlast m r hr)]
        refine ⟨_, rfl, hfaulted, ?_, fun k hk => ?_⟩
        · rw [hreleased, objectsAt, hr, Option.elim_some, List.append_assoc]
        · rw [← hrows k (Nat.le_of_succ_le hk), row, row, List.getElem?_set_ne (by omega)]
  obtain ⟨u, hu, hfaulted, hreleased, -⟩ := hloop t.rows.length
  rw [destroyRows, hu]
  exact ⟨hfaulted, hreleased⟩

lemma mem_rowObjects : o ∈ rowObjects i r ↔ o = .row i ∨ ∃ j, o = .field i j ∧ r.fields[j]? = some .text := by
  simp only [rowObjects, List.mem_append, List.mem_map, List.mem_filter, List.mem_range,
    decide_eq_true_eq, List.mem_singleton]
  constructor
  · rintro (⟨j, ⟨-, hj⟩, rfl⟩ | rfl)
    · exact .inr ⟨j, rfl, hj⟩
    · exact .inl rfl
  · rintro (rfl | ⟨j, rfl, hj⟩)
    · exact .inr rfl
    · obtain ⟨hlt, -⟩ := List.getElem?_eq_some_iff.mp hj
      exact .inl ⟨j, ⟨hlt, hj⟩, rfl⟩

lemma mem_objectsAt : o ∈ t.objectsAt i ↔ t.Has o ∧ (o = .row i ∨ ∃ j, o = .field i j) := by
  rw [objectsAt]
  cases hr : t.row i with
  | none =>
    refine iff_of_false List.not_mem_nil ?_
    rintro ⟨hhas, rfl | ⟨j, rfl⟩⟩
    · rw [Has, hr] at hhas
      cases hhas
    · rw [Has, value, hr] at hhas
      cases hhas
  | some r =>
    rw [Option.elim_some, mem_rowObjects]
    constructor
    · rintro (rfl | ⟨j, rfl, hj⟩)
      · exact ⟨by rw [Has, hr]; rfl, .inl rfl⟩
      · exact ⟨by rw [Has, value, hr]; exact hj, .inr ⟨j, rfl⟩⟩
    · rintro ⟨hhas, rfl | ⟨j, rfl⟩⟩
      · exact .inl rfl
      · rw [Has, value, hr] at hhas
        exact .inr ⟨j, rfl, hhas⟩

lemma objectsAt_nodup : (t.objectsAt i).Nodup := by
  rw [objectsAt]
  cases t.row i with
  | none => exact List.nodup_nil
  | some r =>
    refine List.nodup_append'.mpr ⟨?_, List.nodup_singleton _, ?_⟩
    · exact (List.nodup_range.filter _).map fun a b hab => by injection hab
    · intro o ho hrow
      obtain ⟨j, -, rfl⟩ := List.mem_map.mp ho
      cases List.mem_singleton.mp hrow

/-- The objects of a table in the order in which they go. -/
lemma objects_nodup (n : ℕ) : ((List.range n).flatMap t.objectsAt ++ [Object.table]).Nodup := by
  refine List.nodup_append'.mpr ⟨List.nodup_flatMap.mpr ⟨fun i _ => objectsAt_nodup, ?_⟩,
    List.nodup_singleton _, ?_⟩
  · refine List.nodup_range.imp fun {i k} hik o hi hk => hik ?_
    obtain ⟨-, rfl | ⟨j, rfl⟩⟩ := mem_objectsAt.mp hi <;>
    obtain ⟨-, h | ⟨l, h⟩⟩ := mem_objectsAt.mp hk <;>
    injection h
  · intro o ho htable
    obtain ⟨i, -, hi⟩ := List.mem_flatMap.mp ho
    rw [List.mem_singleton.mp htable] at hi
    obtain ⟨-, h | ⟨j, h⟩⟩ := mem_objectsAt.mp hi <;> cases h

lemma mem_objects : o ∈ (List.range t.rows.length).flatMap t.objectsAt ++ [Object.table] ↔ t.Has o := by
  rw [List.mem_append, List.mem_flatMap, List.mem_singleton]
  constructor
  · rintro (⟨i, -, hi⟩ | rfl)
    · exact (mem_objectsAt.mp hi).1
    · trivial
  · intro hhas
    cases o with
    | table => exact .inr rfl
    | row i =>
      obtain ⟨r, hr⟩ := Option.isSome_iff_exists.mp hhas
      exact .inl ⟨i, List.mem_range.mpr (row_lt hr), mem_objectsAt.mpr ⟨hhas, .inl rfl⟩⟩
    | field i j =>
      obtain ⟨r, hr, -⟩ := Option.bind_eq_some_iff.mp hhas
      exact .inl ⟨i, List.mem_range.mpr (row_lt hr), mem_objectsAt.mpr ⟨hhas, .inr ⟨j, rfl⟩⟩⟩

lemma Live.exact (h : t.Live rest made) (hne : rest ≠ []) : Holding.Exact ⟨t, rest, made⟩ := by
  refine ⟨h.faulted, fun o => ?_⟩
  rw [h.released, if_neg fun hempty => hne hempty.1]
  rfl

lemma not_exact (hne : rest ≠ []) (ho : o ∈ t.released) : ¬ Holding.Exact ⟨t, rest, made⟩ := by
  intro h
  have hcount := h.2 o
  rw [if_neg fun hempty => hne hempty.1] at hcount
  exact List.count_eq_zero.mp hcount ho

lemma Live.tableRefs_eq_zero (h : t.Live rest made) : tableRefs t.rows.length rest = 0 ↔ rest = [] := by
  constructor
  · intro hzero
    obtain ⟨htable, hsum⟩ := Nat.add_eq_zero_iff.mp hzero
    have hrow : ∀ i, rowRefs rest i = 0 := by
      intro i
      cases hr : t.row i with
      | none => exact h.no_row hr
      | some r =>
        have hi := Finset.mem_range.mpr (row_lt hr)
        exact share_eq_zero.mp (Finset.sum_eq_zero_iff.mp hsum i hi)
    refine List.eq_nil_iff_forall_not_mem.mpr fun o ho => ?_
    cases o with
    | table => exact List.count_eq_zero.mp htable ho
    | row i | field i j => exact List.countP_eq_zero.mp (hrow i) _ ho (decide_eq_true rfl)
  · rintro rfl
    exact Nat.add_eq_zero_iff.mpr ⟨rfl, Finset.sum_eq_zero fun _ _ => share_eq_zero.mpr rfl⟩

/-- A reference of the table is dropped; its counter still shows it. -/
lemma Live.tableDestroy (h : t.Live rest made)
    (hcount : t.refcount = UInt16.ofNat (tableRefs t.rows.length rest + 1)) :
    (Holding.Exact ⟨t.tableDestroy, rest, made⟩
      ↔ (tableRefs t.rows.length rest % 2 ^ 16 = 0 → tableRefs t.rows.length rest = 0))
    ∧ (rest ≠ [] → Holding.Exact ⟨t.tableDestroy, rest, made⟩ → t.tableDestroy.Tallied rest made) := by
  have hpred : t.refcount - 1 = UInt16.ofNat (tableRefs t.rows.length rest) := by
    rw [hcount, uint16_ofNat_pred]
  by_cases hmany : tableRefs t.rows.length rest % 2 ^ 16 = 0
  · have hnot : ¬ 0 < t.refcount - 1 := by
      rw [hpred, uint16_pos_iff]
      exact not_not.mpr hmany
    have hdestroy : t.tableDestroy = { ({ t with refcount := t.refcount - 1 } : CountedTable).destroyRows
        with released := ({ t with refcount := t.refcount - 1 } : CountedTable).destroyRows.released
          ++ [.table] } := by
      rw [CountedTable.tableDestroy]
      exact if_neg hnot
    have htable : Object.table ∈ t.tableDestroy.released := by
      rw [hdestroy]
      exact List.mem_append_right _ (List.mem_singleton_self _)
    by_cases hrest : rest = []
    · refine ⟨iff_of_true ?_ fun _ => h.tableRefs_eq_zero.mpr hrest, fun hne => absurd hrest hne⟩
      have hlast : ∀ i r, ({ t with refcount := t.refcount - 1 } : CountedTable).row i = some r →
          r.refcount = 1 := by
        intro i r hr
        rw [h.row_refcount i r hr, hrest]
        rfl
      obtain ⟨hfaulted, hreleased⟩ := destroyRows_released hlast
      rw [hdestroy]
      refine ⟨hfaulted.trans h.faulted, fun o => ?_⟩
      have hall : ({ t with refcount := t.refcount - 1 } : CountedTable).destroyRows.released ++ [.table]
          = (List.range t.rows.length).flatMap t.objectsAt ++ [.table] := by
        rw [hreleased]
        exact congrArg (· ++ _ ++ _) h.released
      change List.count o (_ ++ [.table]) = _
      rw [hall, (objects_nodup _).count]
      simp only [mem_objects, hrest, true_and, h.made_iff]
    · refine ⟨iff_of_false (not_exact hrest htable) fun hzero => hrest ?_, fun hne hexact =>
        absurd hexact (not_exact hne htable)⟩
      exact h.tableRefs_eq_zero.mp (hzero hmany)
  · have hpos : 0 < t.refcount - 1 := by
      rw [hpred, uint16_pos_iff]
      exact hmany
    have hdestroy : t.tableDestroy = { t with refcount := t.refcount - 1 } := by
      rw [CountedTable.tableDestroy]
      exact if_pos hpos
    have hne : rest ≠ [] := fun hempty => hmany (by rw [h.tableRefs_eq_zero.mpr hempty, Nat.zero_mod])
    rw [hdestroy]
    exact ⟨iff_of_true ((h.recount _).exact hne) fun hzero => absurd hzero hmany,
      fun _ _ => ⟨h.recount _, hpred⟩⟩

/-- A reference to a row or to one of its fields is dropped. -/
lemma Tallied.rowDestroy (h : t.Tallied (o :: rest) made) (ho : o = .row i ∨ o = .field i j) :
    (Holding.Exact ⟨t.rowDestroy CountedTable.tableDestroy i, rest, made⟩
      ↔ (rowRefs rest i + 1) % 2 ^ 32 ≠ 0
        ∧ ((rowRefs rest i + 1) % 2 ^ 32 = 1 →
          tableRefs t.rows.length (o :: rest) % 2 ^ 16 = 1 → tableRefs t.rows.length (o :: rest) = 1))
    ∧ (rest ≠ [] → Holding.Exact ⟨t.rowDestroy CountedTable.tableDestroy i, rest, made⟩ →
      (t.rowDestroy CountedTable.tableDestroy i).Tallied rest made) := by
  obtain ⟨r, hr, hrefs⟩ := h.row_of_has ho (h.has o List.mem_cons_self)
  have honrow := onRow_of_has_row ho
  have hrow : rowRefs (o :: rest) i = rowRefs rest i + 1 := by
    rw [rowRefs_cons, honrow, decide_eq_true rfl, if_pos rfl]
  have hpred : r.refcount - 1 = UInt32.ofNat (rowRefs rest i + 1) := by
    rw [hrefs, hrow, uint32_ofNat_pred]
  have hrefs_ne : rowRefs rest i ≠ 0 → rest ≠ [] := by
    rintro hk rfl
    exact hk rfl
  simp only [CountedTable.rowDestroy, hr]
  by_cases hwrap : (rowRefs rest i + 1) % 2 ^ 32 = 0
  · have hnot : ¬ 0 < r.refcount - 1 := by
      rw [hpred, uint32_pos_iff]
      exact not_not.mpr hwrap
    have hne : rest ≠ [] := hrefs_ne (by omega)
    rw [if_neg hnot]
    have hreleased : ¬ Holding.Exact ⟨{ t with
        rows := t.rows.set i none, released := t.released ++ rowObjects i r }, rest, made⟩ :=
      not_exact hne (List.mem_append_right _ (mem_rowObjects.mpr (.inl rfl)))
    exact ⟨iff_of_false hreleased fun hG => hG.1 hwrap, fun _ hexact => absurd hexact hreleased⟩
  · have hpos : 0 < r.refcount - 1 := by
      rw [hpred, uint32_pos_iff]
      exact hwrap
    rw [if_pos hpos]
    have hlive : (t.setRow i { r with refcount := r.refcount - 1 }).Live rest made := by
      rw [hpred]
      refine h.toLive.setRow hr (fun o' ho' => h.has o' (List.mem_cons_of_mem _ ho')) fun k hk => ?_
      rw [rowRefs_cons, honrow, decide_eq_false (Ne.symm hk)]
      rfl
    have hone : r.refcount - 1 = 1 ↔ rowRefs rest i % 2 ^ 32 = 0 := by
      have h1 : (1 : UInt32) = UInt32.ofNat 1 := rfl
      rw [hpred, h1, uint32_ofNat_eq_iff]
      omega
    have htable : tableRefs t.rows.length (o :: rest) = tableRefs t.rows.length rest + _ :=
      tableRefs_row honrow (row_lt hr)
    by_cases hlast : rowRefs rest i % 2 ^ 32 = 0
    · rw [if_pos (hone.mpr hlast)]
      rw [if_pos hlast] at htable
      obtain ⟨hexact, hkept⟩ := hlive.tableDestroy (by
        rw [setRow_length, ← htable]
        exact h.refcount)
      refine ⟨hexact.trans ?_, hkept⟩
      rw [setRow_length, htable]
      omega
    · rw [if_neg fun hr1 => hlast (hone.mp hr1)]
      rw [if_neg hlast, Nat.add_zero] at htable
      refine ⟨iff_of_true (hlive.exact (hrefs_ne (by omega))) ⟨hwrap, fun h1 => by omega⟩,
        fun _ _ => ⟨hlive, ?_⟩⟩
      rw [setRow_length, ← htable]
      exact h.refcount

lemma Tallied.fieldDestroy (h : t.Tallied (.field i j :: rest) made) :
    (Holding.Exact ⟨t.fieldDestroy i j, rest, made⟩
      ↔ (rowRefs rest i + 1) % 2 ^ 32 ≠ 0 ∧ (rowRefs rest i + 2) % 2 ^ 32 ≠ 0
        ∧ ((rowRefs rest i + 1) % 2 ^ 32 = 1 →
          tableRefs t.rows.length (.field i j :: rest) % 2 ^ 16 = 1 →
          tableRefs t.rows.length (.field i j :: rest) = 1))
    ∧ (rest ≠ [] → Holding.Exact ⟨t.fieldDestroy i j, rest, made⟩ →
      (t.fieldDestroy i j).Tallied rest made) := by
  have hhas := h.has _ List.mem_cons_self
  obtain ⟨r, hr, hrefs⟩ := h.row_of_has (j := j) (.inr rfl) hhas
  have hrow : rowRefs (.field i j :: rest) i = rowRefs rest i + 1 := by
    rw [rowRefs_cons, Object.onRow, decide_eq_true rfl, if_pos rfl]
  have hvalue : r.fields[j]? = some .text := by
    rw [Has, value, hr] at hhas
    exact hhas
  have hzero : r.refcount = 0 ↔ (rowRefs rest i + 2) % 2 ^ 32 = 0 := by
    have h0 : (0 : UInt32) = UInt32.ofNat 0 := rfl
    rw [hrefs, hrow, h0, uint32_ofNat_eq_iff, Nat.zero_mod]
  simp only [CountedTable.fieldDestroy, hr, hvalue]
  rw [if_neg (by decide)]
  by_cases hwrap : (rowRefs rest i + 2) % 2 ^ 32 = 0
  · have hne : rest ≠ [] := by
      rintro rfl
      have hzero : rowRefs [] i = 0 := rfl
      omega
    rw [if_pos (hzero.mpr hwrap)]
    have hreleased : ¬ Holding.Exact ⟨{ t with released := t.released ++ [.field i j] }, rest, made⟩ :=
      not_exact hne (List.mem_append_right _ (List.mem_singleton_self _))
    exact ⟨iff_of_false hreleased fun hG => hG.2.1 hwrap, fun _ hexact => absurd hexact hreleased⟩
  · rw [if_neg fun h0 => hwrap (hzero.mp h0)]
    obtain ⟨hexact, hkept⟩ := h.rowDestroy (j := j) (.inr rfl)
    refine ⟨hexact.trans ?_, hkept⟩
    exact and_congr_right fun _ => (and_iff_right hwrap).symm

section Fetched

variable {columns : ℕ} {v : FieldValue}

lemma newRow_row : (t.newRow i columns).row k
    = if k = i then some ⟨1, List.replicate columns .unset⟩ else t.row k := by
  simp only [row, newRow, List.getElem?_set, List.length_append, List.length_replicate,
    List.getElem?_append, List.getElem?_replicate]
  grind

lemma newRow_length : (t.newRow i columns).rows.length = max t.rows.length (i + 1) := by
  rw [newRow, List.length_set, List.length_append, List.length_replicate]
  omega

lemma newRow_has (hr : t.row i = none) : (t.newRow i columns).Has o ↔ o = .row i ∨ t.Has o := by
  cases o with
  | table => exact iff_of_true trivial (.inr trivial)
  | row k =>
    rw [Has, Has, newRow_row, Object.row.injEq]
    by_cases hk : k = i
    · rw [if_pos hk]
      exact iff_of_true rfl (.inl hk)
    · rw [if_neg hk, or_iff_right hk]
  | field k j =>
    rw [Has, Has, value, value, newRow_row, or_iff_right fun hf => by cases hf]
    by_cases hk : k = i
    · rw [if_pos hk, hk, hr, Option.bind_some, Option.bind_none, List.getElem?_replicate]
      refine iff_of_false (fun hf => ?_) fun hf => by cases hf
      split at hf <;> cases hf
    · rw [if_neg hk]

lemma Tallied.newRow (h : t.Tallied outstanding made) (hr : t.row i = none) :
    (t.newRow i columns).Tallied outstanding (.row i :: made) where
  faulted := h.faulted
  released := h.released
  has o ho := (newRow_has hr).mpr (.inr (h.has o ho))
  made_iff o := by rw [List.mem_cons, newRow_has hr, h.made_iff]
  row_refcount k r hk := by
    rw [newRow_row] at hk
    split at hk
    · rename_i hki
      cases hk
      rw [hki, h.no_row hr]
      rfl
    · exact h.row_refcount k r hk
  refcount := by
    have hbehind : ∀ k, t.rows.length ≤ k → rowRefs outstanding k = 0 := fun k hk =>
      h.no_row (by rw [row, List.getElem?_eq_none hk, Option.join_none])
    rw [newRow_length, tableRefs_extend hbehind (le_max_left _ _)]
    exact h.refcount

lemma newField_eq (hr : t.row i = some r) :
    t.newField i j v = t.setRow i { r with fields := r.fields.set j v } := by
  rw [newField, hr]

lemma newField_has (hj : t.value i j = some .unset) :
    (t.newField i j v).Has o ↔ v = .text ∧ o = .field i j ∨ t.Has o := by
  obtain ⟨r, hr, hfield⟩ := Option.bind_eq_some_iff.mp hj
  rw [newField_eq hr]
  cases o with
  | table => exact iff_of_true trivial (.inr trivial)
  | row k =>
    rw [Has, Has, setRow_row (row_lt hr), or_iff_right fun hf => by cases hf.2]
    by_cases hk : k = i
    · rw [if_pos hk, hk, hr]
      exact Iff.rfl
    · rw [if_neg hk]
  | field k l =>
    rw [Has, Has, value, value, setRow_row (row_lt hr), Object.field.injEq]
    by_cases hk : k = i
    · rw [if_pos hk, hk, hr, Option.bind_some, Option.bind_some, List.getElem?_set]
      by_cases hl : l = j
      · obtain ⟨hlt, -⟩ := List.getElem?_eq_some_iff.mp hfield
        rw [if_pos hl.symm, if_pos hlt, hl, hfield]
        simp only [Option.some.injEq, reduceCtorEq, or_false, and_self, and_true]
      · rw [if_neg (Ne.symm hl), or_iff_right fun hf => hl hf.2.2]
    · rw [if_neg hk, or_iff_right fun hf => hk hf.2.1]

/-- The field of a call is made when it has a text. -/
lemma Tallied.newField (h : t.Tallied outstanding made)
    (hj : t.value i j = some .unset) {made' : List Object}
    (hmade : ∀ o, o ∈ made' ↔ v = .text ∧ o = .field i j ∨ o ∈ made) :
    (t.newField i j v).Tallied outstanding made' := by
  obtain ⟨r, hr, -⟩ := Option.bind_eq_some_iff.mp hj
  have hrow := fun k r' => setRow_row (k := k) (r := r') (row_lt hr)
  refine ⟨⟨?_, ?_, fun o ho => ?_, fun o => ?_, fun k r' hk => ?_⟩, ?_⟩
  · rw [newField_eq hr]
    exact h.faulted
  · rw [newField_eq hr]
    exact h.released
  · exact (newField_has hj).mpr (.inr (h.has o ho))
  · rw [hmade, newField_has hj, h.made_iff]
  · rw [newField_eq hr, hrow] at hk
    split at hk
    · rename_i hki
      cases hk
      rw [hki]
      exact h.row_refcount i r hr
    · exact h.row_refcount k r' hk
  · rw [newField_eq hr, setRow_length]
    exact h.refcount

end Fetched

end CountedTable

namespace Holding

/-- While references are held the counters show them. -/
def Tallied (s : Holding) : Prop := s.outstanding ≠ [] → s.table.Tallied s.outstanding s.made

lemma new_exact : new.Exact := by
  refine ⟨rfl, fun o => ?_⟩
  rw [if_neg fun hempty => List.cons_ne_nil _ _ hempty.1]
  rfl

lemma new_tallied : new.Tallied := fun _ =>
  { faulted := rfl
    released := rfl
    has := fun o ho => by
      rw [List.mem_singleton.mp ho]
      trivial
    made_iff := fun o => by cases o <;> simp [new, CountedTable.new, CountedTable.Has,
      CountedTable.row, CountedTable.value]
    row_refcount := fun i r hr => by cases hr
    refcount := rfl }

/-- What a matched call does to the release and to the counters. -/
lemma step_exact {s : Holding} {call : RefCall} (htallied : s.Tallied) (hmatched : s.Matched call) :
    ((s.step call).Exact ↔ s.Counted call) ∧ ((s.step call).Exact → (s.step call).Tallied) := by
  have hne : s.outstanding ≠ [] := by
    cases call with
    | destroy o => exact List.ne_nil_of_mem hmatched
    | ref o | newRow i columns | newField i j v => exact hmatched.1
  have h := htallied hne
  have hheld : Object.table ∉ s.table.released := by
    rw [h.released]
    exact List.not_mem_nil
  -- a step that leaves the table tallied with a reference held
  have hkept : ∀ s' : Holding, s'.outstanding ≠ [] → s'.table.Tallied s'.outstanding s'.made →
      (s'.Exact ↔ True) ∧ (s'.Exact → s'.Tallied) := fun s' hne' h' =>
    ⟨iff_true_intro (h'.toLive.exact hne'), fun _ _ => h'⟩
  cases call with
  | ref o =>
    refine hkept _ (List.cons_ne_nil _ _) ?_
    simp only [step, CountedTable.call, if_neg hheld]
    cases o with
    | table => exact h.tableRef
    | row i => exact h.rowRef (j := 0) (.inl rfl) hmatched.2
    | field i j => exact h.rowRef (.inr rfl) hmatched.2
  | destroy o =>
    have hperm : s.outstanding.Perm (o :: s.outstanding.erase o) := List.perm_cons_erase hmatched
    have hp := h.perm hperm
    simp only [step, CountedTable.call, if_neg hheld, Holding.Tallied]
    cases o with
    | table =>
      obtain ⟨hexact, htally⟩ := hp.toLive.drop_table.tableDestroy (by
        rw [← tableRefs_table]
        exact hp.refcount)
      refine ⟨hexact.trans ?_, fun he hne' => htally hne' he⟩
      simp only [Counted, tableCount]
      rw [tableRefs_perm hperm, tableRefs_table]
      omega
    | row i =>
      obtain ⟨hexact, htally⟩ := hp.rowDestroy (j := 0) (.inl rfl)
      refine ⟨hexact.trans ?_, fun he hne' => htally hne' he⟩
      simp only [Counted, tableCount, rowCount]
      rw [tableRefs_perm hperm, rowRefs_perm hperm, rowRefs_cons, Object.onRow, decide_eq_true rfl,
        if_pos rfl]
    | field i j =>
      obtain ⟨hexact, htally⟩ := hp.fieldDestroy
      refine ⟨hexact.trans ?_, fun he hne' => htally hne' he⟩
      simp only [Counted, tableCount, rowCount]
      rw [tableRefs_perm hperm, rowRefs_perm hperm, rowRefs_cons, Object.onRow, decide_eq_true rfl,
        if_pos rfl]
  | newRow i columns =>
    refine hkept _ hne ?_
    simp only [step, CountedTable.call, if_neg hheld]
    exact h.newRow hmatched.2
  | newField i j v =>
    refine hkept _ hne ?_
    simp only [step, CountedTable.call, if_neg hheld]
    refine h.newField hmatched.2.2 fun o => ?_
    cases v with
    | text => rw [List.mem_cons, and_iff_right rfl]
    | unset | null => rw [or_iff_right fun hf => by cases hf.1]

lemma foldl_table_refs (n : ℕ) : (List.replicate n (.ref .table)).foldl step new
    = ⟨⟨UInt16.ofNat (n + 1), [], [], false⟩, List.replicate (n + 1) .table, [.table]⟩ := by
  induction n with
  | zero => rfl
  | succ n ih =>
    rw [List.replicate_succ', List.foldl_append, ih, List.foldl_cons, List.foldl_nil,
      uint16_ofNat_succ (n + 1)]
    rfl

lemma destroy_after_table_refs {n : ℕ} (hn : (n + 1) % 2 ^ 16 = 1) (hpos : n ≠ 0) :
    ¬ (List.foldl step new (List.replicate n (.ref .table) ++ [.destroy .table])).Exact := by
  have hone : UInt16.ofNat (n + 1) = 1 := uint16_ofNat_eq_iff.mpr hn
  have hdestroy : (⟨1, [], [], false⟩ : CountedTable).call (.destroy .table)
      = ⟨0, [], [.table], false⟩ := by decide
  rw [List.foldl_append, foldl_table_refs, hone, List.foldl_cons, List.foldl_nil, step, hdestroy]
  refine CountedTable.not_exact (o := .table) ?_ (List.mem_singleton_self _)
  change (List.replicate (n + 1) Object.table).erase .table ≠ []
  rw [List.replicate_succ, List.erase_cons_head]
  exact fun h => hpos ((List.replicate_eq_nil_iff _).mp h)

end Holding

/-- Over every run of matched calls. -/
theorem released_with_last_iff {calls : List RefCall}
    (hmatched : Runs.Guarded Holding.step Holding.Matched .new calls) :
    Runs.Throughout Holding.step Holding.Exact .new calls
      ↔ Runs.Guarded Holding.step Holding.Counted .new calls :=
  Runs.throughout_iff_guarded_along (I := Holding.Tallied) (fun _ _ => Holding.step_exact)
    Holding.new_exact Holding.new_tallied hmatched

/-- The table is dropped before the row and its field. -/
theorem released_with_last_field : Runs.Throughout Holding.step Holding.Exact .new
    [.newRow 1 2, .newField 1 0 .text, .newField 1 1 .null, .ref (.row 1), .ref (.field 1 0),
      .destroy .table, .destroy (.row 1), .destroy (.field 1 0)] :=
  (released_with_last_iff (by decide +kernel)).mpr (by decide +kernel)

/-- One destroy of 2^16 + 1 references releases the table. -/
theorem released_too_early : ¬ Runs.Throughout Holding.step Holding.Exact .new
    (List.replicate 65536 (.ref .table) ++ [.destroy .table]) := by
  intro h
  exact Holding.destroy_after_table_refs (by decide) (by decide) h.foldl

end Preludedb.Sql
