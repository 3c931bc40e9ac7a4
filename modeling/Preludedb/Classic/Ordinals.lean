import Preludedb.Classic.ColumnCounts
import Preludedb.Classic.Queries

/-! The ordinals of a GROUP BY and of an ORDER BY clause, and the columns they stand for. -/

namespace Preludedb.Classic

open Foundations Form Sql Idmef

variable [R : Rendering]

section Calls

/-- The functions that add to a SELECT clause; the join is the data that is given to the plugin. -/
inductive SelectCall
  | addField (text : SqlText)
  | addSelected (selected : SelectedPath) (join : Join)
  | addSelection (selection : PathSelection) (join : Join)

def Select.call (b : Backend) (select : Select) : SelectCall → Except SqlError Select
  | .addField text => .ok (select.addField text)
  | .addSelected selected join => do
    let (select, _) ← select.addSelected b selected join
    pure select
  | .addSelection selection join => do
    let (select, _) ← select.addSelection b selection.selecteds join
    pure select

def Select.calls (b : Backend) (select : Select) (calls : List SelectCall) : Except SqlError Select :=
  calls.foldlM (Select.call b) select

end Calls

section Pieces

/-- What is put between two commas by one field or one path. -/
structure Piece where
  flags : SelectedPathFlags
  text : SqlText

def Piece.width (piece : Piece) : ℕ := (columns piece.text).getD 0

def width (pieces : List Piece) : ℕ := (pieces.map Piece.width).sum

def fieldList (pieces : List Piece) : SqlText :=
  pieces.foldl (fun fields piece => (if fields = [] then [] else fields ++ comma) ++ piece.text) []

/-- The positions, from one on, of the columns of the flagged pieces that follow `n` columns. -/
def positions (flagged : SelectedPathFlags → Bool) : ℕ → List Piece → List (ℕ × SelectedPathFlags)
  | _, [] => []
  | n, piece :: pieces =>
    (if flagged piece.flags then (List.range piece.width).map fun i => (n + 1 + i, piece.flags) else []) ++
      positions flagged (n + piece.width) pieces

def grouping (flags : SelectedPathFlags) : Bool := flags.groupBy

def ordering (flags : SelectedPathFlags) : Bool := flags.orderAsc || flags.orderDesc

def selectedPieces (b : Backend) : List SelectedPath → Join → Except SqlError (List Piece)
  | [], _ => .ok []
  | selected :: selecteds, join => do
    let (text, join) ← selectedObjectToString b selected selected.object join
    let pieces ← selectedPieces b selecteds join
    pure (⟨selected.flags, text⟩ :: pieces)

/-- What is written by a call. -/
def SelectCall.pieces (b : Backend) : SelectCall → Except SqlError (List Piece)
  | .addField text => .ok [⟨noFlags, text⟩]
  | .addSelected selected join => selectedPieces b [selected] join
  | .addSelection selection join => selectedPieces b selection.selecteds join

def writtenBy (b : Backend) : List SelectCall → Except SqlError (List Piece)
  | [] => .ok []
  | call :: calls => do
    let pieces ← call.pieces b
    let rest ← writtenBy b calls
    pure (pieces ++ rest)

/-- The fields are counted, and the ordinals stand for the columns of the pieces that are flagged. -/
structure Numbered (pieces : List Piece) (select : Select) : Prop where
  fields : select.fields = fieldList pieces
  counted : columns select.fields = some select.fieldCount
  widths : select.fieldCount = width pieces
  groupBy : select.groupBy = (positions grouping 0 pieces).map Prod.fst
  orderBy : select.orderBy = (positions ordering 0 pieces).map fun x => (x.1, x.2.orderAsc)

end Pieces

section Adding

variable {flagged : SelectedPathFlags → Bool} {ps qs : List Piece} {p : Piece} {n m : ℕ} {b : Backend}
  {select select' : Select} {join join' : Join}

omit R in
lemma width_append : width (ps ++ qs) = width ps + width qs := by
  rw [width, List.map_append, List.sum_append]
  rfl

omit R in
lemma width_singleton : width [p] = p.width := by
  rw [width, List.map_singleton, List.sum_singleton]

omit R in
lemma fieldList_append : fieldList (ps ++ [p]) =
    (if fieldList ps = [] then [] else fieldList ps ++ comma) ++ p.text := by
  rw [fieldList, List.foldl_append]
  rfl

omit R in
lemma positions_append : positions flagged n (ps ++ qs) =
    positions flagged n ps ++ positions flagged (n + width ps) qs := by
  induction ps generalizing n with
  | nil => rfl
  | cons p ps ih =>
    have hwidth : n + width (p :: ps) = n + p.width + width ps := by
      rw [width, List.map_cons, List.sum_cons, ← Nat.add_assoc]
      rfl
    rw [List.cons_append, positions, positions, ih, hwidth, List.append_assoc]

omit R in
lemma positions_concat_map {β : Type} (g : ℕ × SelectedPathFlags → β) :
    (positions flagged n (ps ++ [p])).map g = (positions flagged n ps).map g ++
      if flagged p.flags then (List.range p.width).map fun i => g (n + width ps + 1 + i, p.flags)
      else [] := by
  rw [positions_append, positions, positions, List.append_nil, List.map_append]
  split_ifs
  · rw [List.map_map]
    rfl
  · rfl

omit R in
/-- The columns of a list that is added to. -/
lemma columns_separated (hn : columns select.fields = some n) {text : SqlText} (hm : m ≠ 0) :
    columns (select.separated ++ text) = some (n + m) ↔ columns text = some m := by
  rw [Select.separated]
  by_cases hfields : select.fields = []
  · rw [hfields] at hn
    obtain rfl : 0 = n := Option.some.inj hn
    rw [if_pos hfields, List.nil_append, Nat.zero_add]
  · rw [if_neg hfields, columns_append hn (items_ne_zero hn hfields)]
    exact and_iff_left hm

omit R in
lemma numbered_new : Numbered [] .new := ⟨rfl, rfl, rfl, rfl, rfl⟩

omit R in
/-- A piece is numbered with those before it exactly when it has as many columns as are counted. -/
lemma Numbered.add_iff (h : Numbered ps select) {text : SqlText} {flags : SelectedPathFlags}
    (hm : m ≠ 0) : Numbered (ps ++ [⟨flags, text⟩])
      (({ select with fields := select.separated ++ text }).addOptions m flags) ↔
    columns text = some m := by
  constructor
  · intro h'
    exact (columns_separated h.counted hm).mp h'.counted
  · intro htext
    have hwidth : Piece.width ⟨flags, text⟩ = m := by
      rw [Piece.width, htext]
      rfl
    have hcount : 0 + width ps = select.fieldCount := by rw [Nat.zero_add, h.widths]
    refine ⟨?_, (columns_separated h.counted hm).mpr htext, ?_, ?_, ?_⟩
    · rw [fieldList_append, ← h.fields]
      rfl
    · rw [width_append, width_singleton, hwidth, ← h.widths]
      rfl
    · rw [positions_concat_map, hwidth, hcount, ← h.groupBy]
      cases hg : flags.groupBy with
      | true =>
        simp only [Select.addOptions, grouping, hg, if_true]
      | false =>
        simp only [Select.addOptions, grouping, hg, Bool.false_eq_true, if_false, List.append_nil]
    · rw [positions_concat_map, hwidth, hcount, ← h.orderBy]
      cases ho : (flags.orderAsc || flags.orderDesc) with
      | true =>
        simp only [Select.addOptions, ordering, ho, if_true, List.map_map]
        rfl
      | false =>
        simp only [Select.addOptions, ordering, ho, Bool.false_eq_true, if_false, List.append_nil]

/-- The columns that are counted for a path are those it is written to. -/
structure SelectedPath.Counted (selected : SelectedPath) : Prop where
  closed : selected.object.isFunction = true → selected.object.Closed
  written : selected.writtenColumns = some selected.columnCount
  positive : selected.columnCount ≠ 0

def SelectCall.Counted : SelectCall → Prop
  | addField text => columns text = some 1
  | addSelected selected _ => selected.Counted
  | addSelection selection _ => ∀ selected ∈ selection.selecteds, selected.Counted

omit R in
lemma addField_numbered (h : Numbered ps select) {text : SqlText} (ht : columns text = some 1) :
    Numbered (ps ++ [⟨noFlags, text⟩]) (select.addField text) := by
  have hadd : Numbered (ps ++ [⟨noFlags, text⟩])
      (({ select with fields := select.separated ++ text }).addOptions 1 noFlags) :=
    (h.add_iff Nat.one_ne_zero).mpr ht
  exact hadd

lemma addSelection_numbered {selecteds : List SelectedPath}
    (hs : ∀ selected ∈ selecteds, selected.Counted) (h : Numbered ps select)
    (hadd : select.addSelection b selecteds join = .ok (select', join')) :
    ∃ qs, selectedPieces b selecteds join = .ok qs ∧ Numbered (ps ++ qs) select' := by
  induction selecteds generalizing ps select join with
  | nil =>
    cases hadd
    exact ⟨[], rfl, by rwa [List.append_nil]⟩
  | cons selected selecteds ih =>
    obtain ⟨⟨select₁, join₁⟩, hselected, hrest⟩ := ok_of_bind hadd
    obtain ⟨⟨text, join₂⟩, htext, hselected⟩ := ok_of_bind hselected
    cases hselected
    have hcounted := hs selected List.mem_cons_self
    have hcolumns : columns text = some selected.columnCount :=
      (object_written hcounted.closed htext).trans hcounted.written
    have hfirst : Numbered (ps ++ [⟨selected.flags, text⟩]) (({ select with
        fields := select.separated ++ text }).addOptions selected.columnCount selected.flags) :=
      (h.add_iff hcounted.positive).mpr hcolumns
    obtain ⟨qs, hqs, hnumbered⟩ := ih (fun s hs' => hs s (List.mem_cons_of_mem _ hs')) hfirst hrest
    refine ⟨⟨selected.flags, text⟩ :: qs, ?_, ?_⟩
    · rw [selectedPieces, htext]
      change (selectedPieces b selecteds join₁ >>= _) = _
      rw [hqs]
      rfl
    · rwa [List.append_assoc] at hnumbered

lemma call_numbered {call : SelectCall} (hc : call.Counted) (h : Numbered ps select)
    (hcall : select.call b call = .ok select') :
    ∃ qs, call.pieces b = .ok qs ∧ Numbered (ps ++ qs) select' := by
  cases call with
  | addField text =>
    cases hcall
    exact ⟨_, rfl, addField_numbered h hc⟩
  | addSelected selected join =>
    obtain ⟨⟨added, join₁⟩, hadd, hcall⟩ := ok_of_bind hcall
    cases hcall
    have hselection : select.addSelection b [selected] join = .ok (select', join₁) := by
      rw [Select.addSelection, hadd]
      rfl
    exact addSelection_numbered (List.forall_mem_singleton.mpr hc) h hselection
  | addSelection selection join =>
    obtain ⟨⟨select₁, join₁⟩, hadd, hcall⟩ := ok_of_bind hcall
    cases hcall
    exact addSelection_numbered hc h hadd

lemma calls_numbered_from {calls : List SelectCall} (hc : ∀ call ∈ calls, call.Counted)
    (h : Numbered ps select) (hcalls : select.calls b calls = .ok select') :
    ∃ qs, writtenBy b calls = .ok qs ∧ Numbered (ps ++ qs) select' := by
  induction calls generalizing ps select with
  | nil =>
    cases hcalls
    exact ⟨[], rfl, by rwa [List.append_nil]⟩
  | cons call calls ih =>
    obtain ⟨select₁, hcall, hrest⟩ := ok_of_bind hcalls
    obtain ⟨qs, hqs, hnumbered⟩ := call_numbered (hc call List.mem_cons_self) h hcall
    obtain ⟨rs, hrs, hall⟩ := ih (fun c hc' => hc c (List.mem_cons_of_mem _ hc')) hnumbered hrest
    refine ⟨qs ++ rs, ?_, ?_⟩
    · rw [writtenBy, hqs, hrs]
      rfl
    · rwa [List.append_assoc] at hall

/-- The fields are counted, and the ordinals are those of the columns of the flagged paths, after
every run of calls that adds only paths whose columns are as many as are counted. -/
theorem calls_numbered (b : Backend) (calls : List SelectCall) (hc : ∀ call ∈ calls, call.Counted)
    (select : Select) (h : Select.new.calls b calls = .ok select) :
    ∃ pieces, writtenBy b calls = .ok pieces ∧ Numbered pieces select :=
  calls_numbered_from hc numbered_new h

end Adding

section Routes

variable {b : Backend} {select select' : Select} {join join' : Join} {ps : List Piece}

/-- A path that has been added to a selection is counted right, but for the time of an inode. -/
lemma placed_counted_iff {l : List (SelectedObject × SelectedPathFlags)}
    {x : SelectedObject × SelectedPathFlags} (hc : x.1.isFunction = true → x.1.Closed)
    {text : SqlText} (h : selectedObjectToString b (placed l x) x.1 join = .ok (text, join')) :
    (placed l x).Counted ↔ CountsRight x := by
  have hright : columns text = some (placed l x).columnCount ↔ CountsRight x :=
    @object_columns _ _ (placed l x) _ _ _ x rfl rfl hc h
  have hwritten : columns text = (placed l x).writtenColumns := @object_written _ _ (placed l x) _ _ _ hc h
  rw [← hright, hwritten]
  exact ⟨SelectedPath.Counted.written, fun hw => ⟨hc, hw, columnCount_ne_zero (.new x.1 x.2)⟩⟩

/-- A path that has not is counted as one column. -/
lemma new_counted_iff {o : SelectedObject} {flags : SelectedPathFlags}
    (hc : o.isFunction = true → o.Closed) :
    (SelectedPath.new o flags).Counted ↔ (SelectedPath.new o flags).writtenColumns = some 1 :=
  ⟨SelectedPath.Counted.written, fun hw => ⟨hc, hw, Nat.one_ne_zero⟩⟩

omit R in
lemma createTime_columns (messageType : Kind) : pathColumns (createTimePath messageType) = 3 := by
  cases messageType <;> rfl

/-- The idents are ordered by a path that is counted as one column and is written to three. -/
lemma getMessageIdentsSetOrder_columns {messageType : Kind} {order : ResultIdentsOrder} {n : ℕ}
    (hn : columns select.fields = some n)
    (hadd : getMessageIdentsSetOrder b messageType order select join = .ok (select', join')) :
    columns select'.fields = some (n + 3) ∧ select'.fieldCount = select.fieldCount + 1 := by
  obtain ⟨⟨text, join₁⟩, htext, hadd⟩ := ok_of_bind hadd
  cases hadd
  have hpath : classicPathResolve _ (createTimePath messageType) join = .ok (text, join') := htext
  have hcolumns := path_written rfl hpath
  rw [createTime_columns] at hcolumns
  exact ⟨(columns_separated hn (by decide)).mpr hcolumns, rfl⟩

end Routes

section Examples

/-- The selection of `1`, and of the time of an alert that has been added to a selection. -/
def orderedCalls : List SelectCall :=
  [.addField (words ["1"]),
    .addSelection (PathSelection.of [(.idmefPath (createTimePath .alert), ⟨true, false, false⟩)]) .new]

omit R in
lemma orderedCalls_counted : ∀ call ∈ orderedCalls, call.Counted (R := plainRendering) := by
  intro call hcall
  rcases List.mem_pair.mp hcall with rfl | rfl
  · exact rfl
  · intro selected hselected
    obtain rfl := List.mem_singleton.mp hselected
    exact @SelectedPath.Counted.mk plainRendering _ (fun h => absurd h Bool.false_ne_true) rfl
      (Nat.succ_ne_zero 2)

omit R in
theorem calls_numbered_ordered : ∃ select, Select.new.calls (R := plainRendering) .mysql orderedCalls = .ok select ∧
    select.orderBy = [(2, true), (3, true), (4, true)] ∧
    ∃ pieces, writtenBy (R := plainRendering) .mysql orderedCalls = .ok pieces ∧ Numbered pieces select :=
  ⟨_, rfl, rfl, calls_numbered (R := plainRendering) .mysql orderedCalls
    orderedCalls_counted _ rfl⟩

omit R in
/-- The time of an alert that has not: four columns are written, two are counted, and the alerts are
ordered by the first of three. -/
theorem calls_misnumbered :
    let calls := [SelectCall.addField (words ["DISTINCT"] ++ paren (words ["top_table._ident"])),
      .addSelected (.new (.idmefPath (createTimePath .alert)) ⟨false, true, false⟩) .new]
    ∃ select, Select.new.calls (R := plainRendering) .mysql calls = .ok select ∧
      columns select.fields = some 4 ∧ select.fieldCount = 2 ∧ select.orderBy = [(2, false)] ∧
      ∃ pieces, writtenBy (R := plainRendering) .mysql calls = .ok pieces ∧
        (positions ordering 0 pieces).map Prod.fst = [2, 3, 4] :=
  ⟨_, rfl, rfl, rfl, rfl, _, rfl, rfl⟩

end Examples

end Preludedb.Classic
