import Preludedb.Classic.Selection
import Preludedb.Classic.SharedRows

/-! The columns of a SELECT clause and the columns that are counted for the paths in it. -/

namespace Preludedb.Classic

open Foundations Form Sql Idmef

section Paths

variable {p : Path} {c : Idmef.Class} {child : Child}

/-- The number of columns a child of an object is written to, outside of functions and groups. -/
def selectedColumns (c : Idmef.Class) (name : String) : ℕ :=
  match c with
  | .alert | .heartbeat =>
    if name = "create_time" ∨ name = "detect_time" ∨ name = "analyzer_time" then 3 else 1
  | .file => if name = "create_time" ∨ name = "modify_time" ∨ name = "access_time" then 2 else 1
  | .additionalData => if name = "data" then 2 else 1
  | _ => 1

/-- The number of columns a path is written to, outside of functions and groups. -/
def pathColumns (p : Path) : ℕ :=
  ((parentClass p).map fun c => selectedColumns c (childName p)).getD 1

lemma fieldName_length (h : parentClass p = some c) :
    (fieldName p .select).length = selectedColumns c (childName p) ∧
      ∀ context ≠ .select, (fieldName p context).length = 1 := by
  have hsearch : searchPath p =
      ((classes.find? fun x => some c = some x.1).map Prod.snd).getD defaultClass := by
    rw [searchPath, h]
  simp only [fieldName, hsearch]
  have hone : ∀ resolve : FieldContext → List String, (resolve .where).length = 1 →
      (resolve .function).length = 1 → ∀ context ≠ .select, (resolve context).length = 1 := by
    intro resolve hw hf context hc
    cases context with
    | «where» => exact hw
    | select => exact absurd rfl hc
    | function => exact hf
  cases c with
  | alert | heartbeat =>
    refine ⟨?_, hone (messageFieldName p) ?_ ?_⟩
    · change (messageFieldName p .select).length = _
      unfold messageFieldName selectedColumns
      split <;> rfl
    all_goals
      unfold messageFieldName
      split <;> rfl
  | file =>
    refine ⟨?_, hone (fileFieldName p) ?_ ?_⟩
    · change (fileFieldName p .select).length = _
      unfold fileFieldName selectedColumns
      split <;> rfl
    all_goals
      unfold fileFieldName
      split <;> rfl
  | additionalData =>
    refine ⟨?_, hone (addataFieldName p) ?_ ?_⟩
    · change (addataFieldName p .select).length = _
      unfold addataFieldName selectedColumns
      by_cases hd : childName p = "data" <;> simp [hd]
    all_goals
      unfold addataFieldName
      rw [if_neg fun h => absurd h.1 (by decide)]
      rfl
  | _ => exact ⟨rfl, fun _ _ => rfl⟩

/-- A column count that is wrong: that of the time of an inode. -/
def IsInodeTime (p : Path) : Prop := parentClass p = some .inode ∧ p.getValueType = some .time

instance : DecidablePred IsInodeTime := fun p =>
  inferInstanceAs (Decidable (parentClass p = some .inode ∧ p.getValueType = some .time))

/-- What is counted for a child of an object. -/
def countedColumns (c : Idmef.Class) (child : Child) : ℕ :=
  if c = .additionalData ∧ child.type = .value .data then 2
  else if child.type = .value .time then if c = .alert ∨ c = .heartbeat then 3 else 2
  else 1

lemma selected_eq_counted_iff (h : child ∈ c.children) :
    selectedColumns c child.name = countedColumns c child ↔
      ¬ (c = .inode ∧ child.type = .value .time) := by
  have hall : ∀ c : Idmef.Class, ∀ child ∈ c.children,
      (selectedColumns c child.name = countedColumns c child ↔
        ¬ (c = .inode ∧ child.type = .value .time)) := by
    intro c
    cases c <;> decide +kernel
  exact hall c child h

/-- The last element of a path, as a child of the object before it. -/
lemma exists_child (p : Path) : ∃ c child, parentClass p = some c ∧ child ∈ Class.children c ∧
    childName p = child.name ∧ (∀ v, p.getValueType = some v ↔ child.type = .value v) ∧
    (p.depth = 2 ↔ c = .alert ∨ c = .heartbeat) := by
  obtain ⟨place, c, child, index, hbelow, hclass, htop, hchild, -⟩ := Leads.exists_last p.leads
  refine ⟨c, child, ?_, hchild, childName_of_below hbelow, fun v => ?_, ?_⟩
  · rw [parentClass_of_below hbelow, ← hclass, List.getLast?_eq_some_getLast (by simp)]
    rfl
  · rw [Path.getValueType_eq_some, hbelow, List.getLast?_concat]
    constructor
    · rintro ⟨n, hn, ht⟩
      obtain rfl := Option.some.inj hn
      exact ht
    · exact fun ht => ⟨_, rfl, ht⟩
  · rw [Path.depth, nodes_of_below hbelow]
    cases place with
    | nil =>
      have hc : p.top = c := by simpa [Class.element, ChildType.class?] using hclass
      exact iff_of_true rfl (hc ▸ p.message)
    | cons n place =>
      obtain ⟨ha, hh⟩ := htop (List.cons_ne_nil _ _)
      exact iff_of_false (by simp) (by simp [ha, hh])

end Paths

section Texts

def isComma : Lexeme → Bool
  | .comma => true
  | _ => false

/-- The columns of a SELECT clause, `none` for a text that is no list of them. -/
def columns (t : SqlText) : Option ℕ := items isComma t

variable {t u : SqlText} {n m : ℕ}

lemma Lexeme.ordinary_not_comma (l : Lexeme) (h : l.ordinary = true) : isComma l = false := by
  cases l with
  | comma => cases h
  | _ => rfl

lemma columns_ordinary (h : Ordinary t) : columns t = some 1 :=
  (h.mono Lexeme.ordinary_not_comma).items

lemma columns_append (hn : columns t = some n) (hn0 : n ≠ 0) :
    columns (t ++ comma ++ u) = some (n + m) ↔ columns u = some m ∧ m ≠ 0 := by
  rw [List.append_assoc]
  exact items_append (a := .comma) rfl hn hn0

lemma Column.toText_leading (c : Column) : Leading c.toText := by
  have hne : ∀ s t : String, '.' ∈ s.toList → '.' ∉ t.toList → s ≠ t := by
    rintro s t hs ht rfl
    exact ht hs
  have hword : ∀ s : String, '.' ∈ s.toList → Leading (words [s]) := fun s hs =>
    word_leading (Bool.and_eq_true_iff.mpr ⟨decide_eq_true (hne s "AND" hs (by decide)),
      decide_eq_true (hne s "OR" hs (by decide))⟩) (hne s "NOT" hs (by decide))
  rw [Column.toText]
  refine hword _ ?_
  split <;> simp only [String.toList_append, List.mem_append]
  · exact .inl (by decide)
  · exact .inl (.inr (by decide))

lemma columns_columnsText {cs : List Column} (h : cs ≠ []) :
    columns (columnsText cs) = some cs.length := by
  induction cs with
  | nil => exact absurd rfl h
  | cons c cs ih =>
    cases cs with
    | nil => exact columns_ordinary c.toText_leading.ordinary
    | cons c' cs =>
      change columns (c.toText ++ comma ++ columnsText (c' :: cs)) = _
      rw [List.length_cons, Nat.add_comm]
      exact (columns_append (columns_ordinary c.toText_leading.ordinary) Nat.one_ne_zero).mpr
        ⟨ih (List.cons_ne_nil _ _), Nat.succ_ne_zero _⟩

end Texts

section Objects

variable [R : Rendering] {b : Backend} {selected : SelectedPath} {o : SelectedObject}
  {join join' : Join} {text : SqlText}

/-- The texts that are copied as they are close what they open. -/
def SelectedObject.Closed : SelectedObject → Prop
  | idmefPath _ | int _ => True
  | string s => Whole (R.readText s)
  | oneArg _ arg | extract arg _ => arg.Closed
  | interval arg value _ => arg.Closed ∧ value.Closed
  | timezone arg tzvalue => arg.Closed ∧ Whole (R.readText s!"'{tzvalue}'")

omit R in
lemma pathResolve_columns {p : Path} {context : FieldContext} {cs : List Column}
    (h : pathResolve p context join = .ok (cs, join')) :
    cs.length = if p.depth = 2 ∧ p.getValueType ≠ some .time then 1
      else (fieldName p context).length := by
  unfold pathResolve at h
  split at h
  case isTrue hd =>
    cases h
    rw [if_pos hd]
    rfl
  case isFalse hd =>
    rw [if_neg hd]
    split at h
    · cases h
      exact List.length_map _
    · obtain ⟨r, -, h⟩ := ok_of_bind h
      cases h
      exact List.length_map _

omit R in
lemma classicPathResolve_columns {p : Path}
    (h : classicPathResolve selected p join = .ok (text, join')) :
    ∃ cs, text = columnsText cs ∧ cs ≠ [] ∧
      cs.length = if p.depth = 2 ∧ p.getValueType ≠ some .time then 1
        else (fieldName p (getFieldContext selected)).length := by
  obtain ⟨r, hr, h⟩ := ok_of_bind h
  cases h
  have hlength := pathResolve_columns hr
  refine ⟨r.1, rfl, fun hnil => ?_, hlength⟩
  rw [hnil] at hlength
  split at hlength
  · cases hlength
  · exact fieldName_ne_nil _ _ (List.length_eq_zero_iff.mp hlength.symm)

omit R in
lemma columnsText_whole (cs : List Column) : Whole (columnsText cs) := by
  induction cs with
  | nil => exact ⟨[], rfl⟩
  | cons c cs ih =>
    cases cs with
    | nil => exact c.toText_leading.ordinary.whole
    | cons c' cs => exact (c.toText_leading.ordinary.whole.append comma_whole).append ih

lemma selectedObjectToString_whole (hc : o.Closed)
    (h : selectedObjectToString b selected o join = .ok (text, join')) :
    Whole text ∧ (o.isFunction = true → Ordinary text) := by
  induction o generalizing join join' text with
  | idmefPath p =>
    obtain ⟨cs, rfl, -, -⟩ := classicPathResolve_columns h
    exact ⟨columnsText_whole cs, nofun⟩
  | string s =>
    cases h
    exact ⟨hc, nofun⟩
  | int n =>
    cases h
    exact ⟨(number_ordinary n).whole, nofun⟩
  | oneArg f arg ih =>
    obtain ⟨⟨field, join₁⟩, hfield, h⟩ := ok_of_bind h
    cases h
    have hcall : Leading (call f.toString field) := by
      refine call_leading ?_ ?_ (ih hc hfield).1 <;> cases f <;> decide
    exact ⟨hcall.whole, fun _ => hcall.ordinary⟩
  | extract arg type ih =>
    obtain ⟨⟨field, join₁⟩, hfield, h⟩ := ok_of_bind h
    obtain ⟨text', htext, h⟩ := ok_of_bind h
    cases h
    have hextract := buildTimeExtractString_leading (ih hc hfield).1 htext
    exact ⟨hextract.whole, fun _ => hextract.ordinary⟩
  | interval arg value unit iha ihv =>
    obtain ⟨⟨field, join₁⟩, hfield, h⟩ := ok_of_bind h
    obtain ⟨⟨value', join₂⟩, hvalue, h⟩ := ok_of_bind h
    obtain ⟨text', htext, h⟩ := ok_of_bind h
    cases h
    have hinterval := buildTimeIntervalString_leading (iha hc.1 hfield).1 (ihv hc.2 hvalue).1 htext
    exact ⟨hinterval.whole, fun _ => hinterval.ordinary⟩
  | timezone arg tzvalue ih =>
    obtain ⟨⟨field, join₁⟩, hfield, h⟩ := ok_of_bind h
    obtain ⟨text', htext, h⟩ := ok_of_bind h
    cases h
    have htimezone := buildTimeTimezoneString_leading (ih hc.1 hfield).1 hc.2 htext
    exact ⟨htimezone.whole, fun _ => htimezone.ordinary⟩

/-- The columns an object is written to are as many as are counted for it. -/
def CountsRight (x : SelectedObject × SelectedPathFlags) : Prop :=
  match x.1 with
  | .idmefPath p => x.2.groupBy = true ∨ ¬ IsInodeTime p
  | .string s => columns (R.readText s) = some 1
  | _ => True

omit R in
/-- The columns of a path, of its values or in a group. -/
lemma path_written {p : Path} (ho : selected.object = .idmefPath p)
    (h : classicPathResolve selected p join = .ok (text, join')) :
    columns text = some (if selected.flags.groupBy then 1 else pathColumns p) := by
  obtain ⟨cs, rfl, hne, hlength⟩ := classicPathResolve_columns h
  obtain ⟨c, child, hclass, hchild, hname, htype, hdepth⟩ := exists_child p
  obtain ⟨hselect, hfunction⟩ := fieldName_length hclass
  have hcontext : getFieldContext selected = if selected.flags.groupBy then .function else .select := by
    rw [getFieldContext, ho]
    rfl
  have hpath : pathColumns p = selectedColumns c (childName p) := by
    rw [pathColumns, hclass]
    rfl
  rw [columns_columnsText hne, Option.some.injEq, hlength, hcontext, hpath]
  cases selected.flags.groupBy with
  | true =>
    rw [if_pos rfl, if_pos rfl, hfunction .function (by decide), ite_self]
  | false =>
    rw [if_neg Bool.false_ne_true, if_neg Bool.false_ne_true, hselect]
    by_cases hd : p.depth = 2 ∧ p.getValueType ≠ some .time
    · have ht : child.type ≠ .value .time := fun ht => hd.2 ((htype .time).mpr ht)
      have hc := hdepth.mp hd.1
      have hinode : ¬ (c = .inode ∧ child.type = .value .time) := fun h => ht h.2
      have haddata : ¬ (c = .additionalData ∧ child.type = .value .data) := by
        rintro ⟨rfl, -⟩
        rcases hc with hc | hc <;> cases hc
      rw [if_pos hd, hname, (selected_eq_counted_iff hchild).mpr hinode, countedColumns,
        if_neg haddata, if_neg ht]
    · rw [if_neg hd]

omit R in
lemma path_columns {p : Path} (ho : selected.object = .idmefPath p)
    (h : classicPathResolve selected p join = .ok (text, join')) :
    columns text = some (classicGetPathColumnCount selected) ↔
      (selected.flags.groupBy = true ∨ ¬ IsInodeTime p) := by
  obtain ⟨c, child, hclass, hchild, hname, htype, hdepth⟩ := exists_child p
  have hinode : IsInodeTime p ↔ c = .inode ∧ child.type = .value .time := by
    rw [IsInodeTime, hclass, htype, Option.some.injEq]
  have hpath : pathColumns p = selectedColumns c child.name := by
    rw [pathColumns, hclass, ← hname]
    rfl
  rw [path_written ho h, Option.some.injEq]
  cases hg : selected.flags.groupBy with
  | true =>
    have hcount : classicGetPathColumnCount selected = 1 := by
      simp only [classicGetPathColumnCount, ho, hg, if_true]
    rw [hcount, if_pos rfl]
    exact iff_of_true rfl (.inl rfl)
  | false =>
    have hcount : classicGetPathColumnCount selected = countedColumns c child := by
      simp only [classicGetPathColumnCount, ho, hg, hclass, htype, hdepth, countedColumns,
        Option.some.injEq, Bool.false_eq_true, if_false]
    rw [hcount, if_neg Bool.false_ne_true, hpath, hinode, selected_eq_counted_iff hchild]
    exact (or_iff_right Bool.false_ne_true).symm

/-- The number of columns a selected path is written to, `none` for a text that is no list of
columns. -/
def SelectedPath.writtenColumns (selected : SelectedPath) : Option ℕ :=
  match selected.object with
  | .idmefPath p => some (if selected.flags.groupBy then 1 else pathColumns p)
  | .string s => columns (R.readText s)
  | _ => some 1

lemma object_written (hc : selected.object.isFunction = true → selected.object.Closed)
    (h : selectedObjectToString b selected selected.object join = .ok (text, join')) :
    columns text = selected.writtenColumns := by
  cases hobject : selected.object with
  | idmefPath p =>
    rw [hobject] at h
    rw [path_written hobject h, SelectedPath.writtenColumns, hobject]
  | string s =>
    rw [hobject] at h
    cases h
    rw [SelectedPath.writtenColumns, hobject]
  | int n =>
    rw [hobject] at h
    cases h
    rw [columns_ordinary (number_ordinary n), SelectedPath.writtenColumns, hobject]
  | _ =>
    have hfunction : selected.object.isFunction = true := by rw [hobject]; rfl
    rw [columns_ordinary ((selectedObjectToString_whole (hc hfunction) h).2 hfunction),
      SelectedPath.writtenColumns, hobject]

lemma object_columns {x : SelectedObject × SelectedPathFlags} (ho : selected.object = x.1)
    (hf : selected.flags = x.2) (hc : x.1.isFunction = true → x.1.Closed)
    (h : selectedObjectToString b selected x.1 join = .ok (text, join')) :
    columns text = some (classicGetPathColumnCount selected) ↔ CountsRight x := by
  obtain ⟨o, flags⟩ := x
  obtain rfl : selected.object = o := ho
  obtain rfl : selected.flags = flags := hf
  have hone : (∀ p, selected.object ≠ .idmefPath p) → classicGetPathColumnCount selected = 1 :=
    fun hp => by
      unfold classicGetPathColumnCount
      split
      · exact absurd ‹_› (hp _)
      · rfl
  have hwritten := object_written hc h
  cases hobject : selected.object with
  | idmefPath p =>
    rw [hobject] at h
    rw [path_columns hobject h, CountsRight]
  | string s => rw [hwritten, SelectedPath.writtenColumns, hone (by simp [hobject]), hobject, CountsRight]
  | _ =>
    rw [hwritten, SelectedPath.writtenColumns, hone (by simp [hobject]), hobject]
    exact iff_of_true rfl trivial

end Objects

section Selections

/-- The selection that is made by adding objects one after another. -/
def PathSelection.of (l : List (SelectedObject × SelectedPathFlags)) : PathSelection :=
  l.foldl (fun selection x => selection.add (.new x.1 x.2)) .new

variable [R : Rendering] {b : Backend} {l : List (SelectedObject × SelectedPathFlags)}

/-- The columns of the first objects are as many as the position of the next, and the value of each
is read from its own. -/
def ColumnsMatch (b : Backend) (l : List (SelectedObject × SelectedPathFlags)) : Prop :=
  (∀ k ≤ l.length, ∃ select join, Select.new.addSelection b (PathSelection.of (l.take k)).selecteds
      .new = .ok (select, join) ∧
    columns select.fields = some (PathSelection.of (l.take k)).numpos) ∧
  ∀ k selected, (PathSelection.of l).selecteds[k]? = some selected →
    selected.position = (PathSelection.of (l.take k)).numpos ∧
    ∀ row, ∀ i ∈ selected.getValue row, (PathSelection.of (l.take k)).numpos ≤ i ∧
      i < (PathSelection.of (l.take (k + 1))).numpos

variable {x : SelectedObject × SelectedPathFlags}

/-- The path that is added, with its count and position. -/
def placed (l : List (SelectedObject × SelectedPathFlags)) (x : SelectedObject × SelectedPathFlags) :
    SelectedPath :=
  ⟨x.1, x.2, classicGetPathColumnCount (.new x.1 x.2), (PathSelection.of l).numpos⟩

omit R in
lemma of_append : PathSelection.of (l ++ [x]) = ⟨(PathSelection.of l).selecteds ++ [placed l x],
    (PathSelection.of l).numpos + classicGetPathColumnCount (placed l x)⟩ := by
  rw [PathSelection.of, List.foldl_append]
  rfl

omit R in
lemma of_length : (PathSelection.of l).selecteds.length = l.length := by
  induction l using List.reverseRecOn with
  | nil => rfl
  | append_singleton l x ih => rw [of_append, List.length_append, List.length_append, ih]; rfl

omit R in
lemma columnCount_ne_zero (selected : SelectedPath) : classicGetPathColumnCount selected ≠ 0 := by
  unfold classicGetPathColumnCount
  split
  · split_ifs <;> nofun
  · nofun

omit R in
lemma numpos_pos (h : l ≠ []) : (PathSelection.of l).numpos ≠ 0 := by
  rw [← List.dropLast_append_getLast h, of_append]
  have hcount := columnCount_ne_zero (placed l.dropLast (l.getLast h))
  exact fun h => hcount (Nat.eq_zero_of_add_eq_zero_left h)

lemma addSelection_append {select : Select} {xs ys : List SelectedPath} {join : Join} :
    select.addSelection b (xs ++ ys) join =
      (select.addSelection b xs join >>= fun r => r.1.addSelection b ys r.2) := by
  induction xs generalizing select join with
  | nil => rfl
  | cons x xs ih =>
    rw [List.cons_append, Select.addSelection, Select.addSelection]
    cases hx : select.addSelected b x join with
    | error e => rfl
    | ok r => exact ih

/-- What one more object adds to the clause. -/
lemma addSelection_step {select select' : Select} {join join' : Join}
    (hc : x.1.isFunction = true → x.1.Closed)
    (h : Select.new.addSelection b (PathSelection.of l).selecteds .new = .ok (select, join))
    (h' : Select.new.addSelection b (PathSelection.of (l ++ [x])).selecteds .new =
      .ok (select', join'))
    (hl : columns select.fields = some (PathSelection.of l).numpos) :
    columns select'.fields = some (PathSelection.of (l ++ [x])).numpos ↔ CountsRight x := by
  rw [of_append] at h' ⊢
  rw [addSelection_append, h] at h'
  change select.addSelection b [placed l x] join = _ at h'
  obtain ⟨⟨select₁, join₁⟩, hadd, h'⟩ := ok_of_bind h'
  cases h'
  obtain ⟨⟨text, join₂⟩, htext, hadd⟩ := ok_of_bind hadd
  cases hadd
  have hobject : columns text = some (classicGetPathColumnCount (placed l x)) ↔ CountsRight x :=
    object_columns rfl rfl hc htext
  change columns (select.separated ++ text) = _ ↔ _
  rw [Select.separated]
  by_cases hnil : l = []
  · subst hnil
    cases h
    rw [show Select.new.fields = [] from rfl, if_pos rfl, List.nil_append, ← hobject]
    exact Iff.of_eq (by rw [show (PathSelection.of []).numpos = 0 from rfl, Nat.zero_add])
  · have hpos := numpos_pos hnil
    have hfields : select.fields ≠ [] := fun hf => by
      rw [hf] at hl
      exact hpos (Option.some.inj hl).symm
    rw [if_neg hfields, columns_append hl hpos, hobject]
    exact and_iff_left (columnCount_ne_zero _)

/-- What the clause holds of the first objects. -/
lemma addSelection_prefix {select : Select} {join : Join}
    (h : Select.new.addSelection b (PathSelection.of (l ++ [x])).selecteds .new = .ok (select, join)) :
    ∃ select' join', Select.new.addSelection b (PathSelection.of l).selecteds .new =
      .ok (select', join') := by
  rw [of_append, addSelection_append] at h
  obtain ⟨r, hr, -⟩ := ok_of_bind h
  exact ⟨r.1, r.2, hr⟩

lemma counted_iff {select : Select} {join : Join}
    (hc : ∀ x ∈ l, x.1.isFunction = true → x.1.Closed)
    (h : Select.new.addSelection b (PathSelection.of l).selecteds .new = .ok (select, join)) :
    (∀ k ≤ l.length, ∃ select join, Select.new.addSelection b
        (PathSelection.of (l.take k)).selecteds .new = .ok (select, join) ∧
      columns select.fields = some (PathSelection.of (l.take k)).numpos) ↔
    ∀ x ∈ l, CountsRight x := by
  induction l using List.reverseRecOn generalizing select join with
  | nil =>
    refine iff_of_true (fun k hk => ?_) (List.forall_mem_nil _)
    rw [List.take_nil]
    exact ⟨.new, .new, rfl, rfl⟩
  | append_singleton l x ih =>
    obtain ⟨select', join', h'⟩ := addSelection_prefix h
    have hprefix := ih (fun y hy => hc y (List.mem_append_left _ hy)) h'
    have hcx := hc x (List.mem_append_right _ List.mem_cons_self)
    have htake : ∀ k ≤ l.length, (l ++ [x]).take k = l.take k := fun k hk =>
      List.take_append_of_le_length hk
    rw [List.forall_mem_append, List.forall_mem_singleton, ← hprefix]
    constructor
    · intro hall
      have hfirst : ∀ k ≤ l.length, ∃ select join, Select.new.addSelection b
          (PathSelection.of (l.take k)).selecteds .new = .ok (select, join) ∧
          columns select.fields = some (PathSelection.of (l.take k)).numpos := fun k hk => by
        have hk' := hall k (by rw [List.length_append]; omega)
        rwa [htake k hk] at hk'
      refine ⟨hfirst, ?_⟩
      obtain ⟨s, j, hs, hcount⟩ := hfirst l.length le_rfl
      obtain ⟨s', j', hs', hcount'⟩ := hall (l ++ [x]).length le_rfl
      rw [List.take_length] at hs hcount hs' hcount'
      exact (addSelection_step hcx hs hs' hcount).mp hcount'
    · rintro ⟨hfirst, hx⟩ k hk
      rcases Nat.lt_or_ge l.length k with hlt | hle
      · obtain rfl : k = (l ++ [x]).length := by
          rw [List.length_append, List.length_singleton] at hk ⊢
          omega
        obtain ⟨s, j, hs, hcount⟩ := hfirst l.length le_rfl
        rw [List.take_length] at hs hcount ⊢
        exact ⟨select, join, h, (addSelection_step hcx hs h hcount).mpr hx⟩
      · rw [htake k hle]
        exact hfirst k hle

omit R in
lemma getValue_within {selected : SelectedPath} {row : ℕ → Option String} {i : ℕ}
    (h : i ∈ selected.getValue row) : selected.position ≤ i ∧
      i < selected.position + classicGetPathColumnCount selected := by
  have hpos := Nat.pos_of_ne_zero (columnCount_ne_zero selected)
  rcases List.mem_cons.mp h with rfl | h
  · omega
  · cases hrow : row selected.position with
    | none =>
      rw [hrow] at h
      cases h
    | some s =>
      rw [hrow] at h
      simp only at h
      split at h
      · rw [SelectedPath.getData] at h
        split at h
        · rw [List.mem_singleton] at h
          omega
        · cases h
      · rw [SelectedPath.getValueTime, List.mem_append] at h
        rcases h with h | h
        all_goals
          split at h
          · rw [List.mem_singleton] at h
            omega
          · cases h
      · cases h

omit R in
lemma selecteds_placed {k : ℕ} {selected : SelectedPath}
    (h : (PathSelection.of l).selecteds[k]? = some selected) :
    selected.position = (PathSelection.of (l.take k)).numpos ∧
      (PathSelection.of (l.take (k + 1))).numpos =
        selected.position + classicGetPathColumnCount selected := by
  induction l using List.reverseRecOn with
  | nil => cases h
  | append_singleton l x ih =>
    have hlt : k < (l ++ [x]).length := by
      rw [← of_length]
      exact (List.getElem?_eq_some_iff.mp h).1
    rw [List.length_append, List.length_singleton] at hlt
    rw [of_append] at h
    rcases Nat.lt_or_ge k l.length with hk | hk
    · rw [List.getElem?_append_left (by rwa [of_length])] at h
      rw [List.take_append_of_le_length hk.le, List.take_append_of_le_length hk]
      exact ih h
    · obtain rfl : k = l.length := by omega
      rw [List.getElem?_append_right (by rw [of_length]), of_length, Nat.sub_self] at h
      obtain rfl := Option.some.inj h
      rw [List.take_append_of_le_length le_rfl, List.take_length,
        List.take_of_length_le (by simp), of_append]
      exact ⟨rfl, rfl⟩

/-- The columns of a selection are as many as are counted, and each value is read from its own,
exactly when the selection has no `change_time` of an inode outside of a group, and the texts it
copies into the clause are each one column. -/
theorem classicGetPathColumnCount_matches_iff (b : Backend)
    (l : List (SelectedObject × SelectedPathFlags))
    (hc : ∀ x ∈ l, x.1.isFunction = true → x.1.Closed) (select : Select) (join : Join)
    (h : Select.new.addSelection b (PathSelection.of l).selecteds .new = .ok (select, join)) :
    ColumnsMatch b l ↔ ∀ x ∈ l, CountsRight x := by
  rw [← counted_iff hc h]
  refine and_iff_left fun k selected hk => ?_
  obtain ⟨hposition, hnext⟩ := selecteds_placed hk
  refine ⟨hposition, fun row i hi => ?_⟩
  rw [← hposition, hnext]
  exact getValue_within hi

end Selections

section Examples

def noFlags : SelectedPathFlags := ⟨false, false, false⟩

/-- `alert.target(0).file(0).inode.change_time` -/
def changeTimePath : Path where
  top := .alert
  below := [objectAt .target 0, objectAt .file 0, object .inode, timeOf "change_time"]
  message := alert_top
  leads := .step (by decide) (by decide) rfl
    (.step (by decide) (by decide) rfl
      (.step (by decide) (by decide) rfl
        (.child (by decide) (by decide))))

/-- `alert.messageid` -/
def messageidPath : Path where
  top := .alert
  below := [(Child.value "messageid").at .forbidden]
  message := alert_top
  leads := .child (by decide) (by decide)

theorem classicGetPathColumnCount_matches_text :
    ColumnsMatch (R := plainRendering) .mysql [(.idmefPath textPath, noFlags), (.string "1", noFlags)] ↔
      ∀ x ∈ [(SelectedObject.idmefPath textPath, noFlags), (.string "1", noFlags)],
        CountsRight (R := plainRendering) x :=
  classicGetPathColumnCount_matches_iff (R := plainRendering) .mysql
    [(.idmefPath textPath, noFlags), (.string "1", noFlags)]
    (List.forall_mem_cons.mpr ⟨nofun, List.forall_mem_singleton.mpr nofun⟩) _ _ rfl

/-- The clause has one column for the time of an inode where two are counted, and the column the
next object is said to begin at is none of its own. -/
theorem classicGetPathColumnCount_inode :
    let l := [(SelectedObject.idmefPath changeTimePath, noFlags), (.idmefPath messageidPath, noFlags)]
    (∃ select join, Select.new.addSelection (R := plainRendering) .mysql
        (PathSelection.of l).selecteds .new = .ok (select, join) ∧ columns select.fields = some 2) ∧
      (PathSelection.of l).selecteds.map SelectedPath.columnCount = [2, 1] ∧
      (PathSelection.of l).selecteds.map SelectedPath.position = [0, 2] ∧
      (PathSelection.of l).selecteds.map (SelectedPath.getValue fun _ => some "0") = [[0, 1], [2]] :=
  ⟨⟨_, _, rfl, rfl⟩, rfl, rfl, rfl⟩

end Examples

end Preludedb.Classic
