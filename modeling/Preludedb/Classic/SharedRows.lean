import Preludedb.Foundations.Interning
import Preludedb.Classic.JoinedRows

/-! The paths of a query share the tables that are joined for them: the alias a path is given is the
number of the first path whose table the lookup takes for its own. -/

namespace Preludedb.Classic

open Foundations Foundations.Interning Sql Idmef

section Numbers

/-- The test of the lookup on the path a table was joined for. -/
def matchesPath (p q : Path) : Bool :=
  decide (p.depth = q.depth) &&
    (if comparesWhole p then p.compare q else p.ncompare q (p.depth - 1))

/-- The columns of a path, in the joined table of the number when it has one. -/
def columnsOf (p : Path) (context : FieldContext) (n : ℕ) : List Column :=
  if p.depth = 2 ∧ p.getValueType ≠ some .time then (defaultFieldName p context).map (Column.mk none)
  else (fieldName p context).map (Column.mk (some n))

def Join.paths (join : Join) : List Path := join.tables.map JoinedTable.path

instance : DecidablePred Joined := fun p =>
  inferInstanceAs (Decidable (¬ (p.depth = 2 ∧ p.getValueType ≠ some .time)))

/-- The tables are those of their paths, numbered in order. -/
structure Join.Sound (c : Idmef.Class) (join : Join) : Prop where
  tables : join.tables = join.paths.mapIdx fun i q => .of q (tableName q) i
  nextId : join.nextId = join.tables.length
  topClass : join.topClass = none ∨ join.topClass = some c

def resolveAll (context : Path → FieldContext) :
    List Path → Join → Except SqlError (List (List Column) × Join)
  | [], join => .ok ([], join)
  | p :: ps, join => do
    let (columns, join) ← pathResolve p (context p) join
    let (rest, join) ← resolveAll context ps join
    pure (columns :: rest, join)

variable {c : Idmef.Class} {join : Join} {p q : Path} {context : FieldContext}

lemma Join.new_sound : Join.new.Sound c := ⟨rfl, rfl, .inl rfl⟩

lemma matchesPath_refl (p : Path) : matchesPath p p = true := by
  simp [matchesPath, Path.compare, Path.ncompare]

lemma lookupTable_eq (h : join.Sound c) :
    join.lookupTable p = (join.paths[number matchesPath join.paths p]?).map fun q =>
      .of q (tableName q) (number matchesPath join.paths p) := by
  have hfind : join.lookupTable p = join.tables[number matchesPath join.paths p]? := by
    rw [Interning.number, Join.paths, List.findIdx_map]
    exact List.find?_eq_getElem?_findIdx
  rw [hfind, h.tables, List.getElem?_mapIdx]

lemma newTable_sound (h : join.Sound c) (hp : p.top = c) :
    ∃ join', join.newTable p (tableName p) = .ok (.of p (tableName p) join.nextId, join') ∧
      join'.Sound c ∧ join'.paths = join.paths ++ [p] := by
  refine ⟨⟨some p.top, join.tables ++ [.of p (tableName p) join.nextId], join.nextId + 1⟩, ?_, ?_, ?_⟩
  · unfold Join.newTable
    rcases h.topClass with ht | ht <;> rw [ht]
    exact if_neg fun hne => hne hp
  · refine ⟨?_, ?_, .inr (congrArg some hp)⟩
    · simp only [Join.paths, List.map_append, List.mapIdx_append]
      rw [← Join.paths, ← h.tables, Join.paths, List.length_map, ← h.nextId, List.map_singleton,
        List.mapIdx_singleton, Nat.zero_add]
      rfl
    · rw [h.nextId, List.length_append, List.length_singleton]
  · simp only [Join.paths, List.map_append]
    rfl

/-- A path that is resolved through a join is interned. -/
lemma pathResolve_sound (h : join.Sound c) (hp : p.top = c) :
    ∃ join', pathResolve p context join =
        .ok (columnsOf p context (number matchesPath join'.paths p), join') ∧ join'.Sound c ∧
      join'.paths = if Joined p then intern matchesPath join.paths p else join.paths := by
  unfold pathResolve columnsOf
  by_cases hd : p.depth = 2 ∧ p.getValueType ≠ some .time
  · refine ⟨join, ?_, h, (if_neg fun hj => hj hd).symm⟩
    rw [if_pos hd, if_pos hd]
  · have hj : Joined p := hd
    simp only [if_neg hd, if_pos hj]
    by_cases hk : Known matchesPath join.paths p
    · refine ⟨join, ?_, h, (if_pos (known_iff_any.mp hk)).symm⟩
      rw [lookupTable_eq h, List.getElem?_eq_getElem hk.number_lt]
      rfl
    · obtain ⟨join', hnew, hs, hpaths⟩ := newTable_sound h hp
      have hadded : join'.paths = intern matchesPath join.paths p := by
        rw [hpaths, intern, if_neg fun hany => hk (known_iff_any.mpr hany)]
      refine ⟨join', ?_, hs, hadded⟩
      have hnone : join.lookupTable p = none :=
        List.find?_eq_none.mpr fun t ht hm => hk ⟨t.path, List.mem_map.mpr ⟨t, ht, rfl⟩, hm⟩
      rw [hnone, hnew, hadded, number_intern_of_unknown hk (matchesPath_refl p), Join.paths,
        List.length_map, ← h.nextId]
      rfl

/-- The number of a path that was resolved stays. -/
lemma columnsOf_stays {entries entries' : List Path} (hp : entries <+: entries')
    (hk : Joined p → Known matchesPath entries p) :
    columnsOf p context (number matchesPath entries' p) =
      columnsOf p context (number matchesPath entries p) := by
  unfold columnsOf
  by_cases hd : p.depth = 2 ∧ p.getValueType ≠ some .time
  · rw [if_pos hd, if_pos hd]
  · rw [(hk hd).number_stays hp]

lemma resolveAll_sound {context : Path → FieldContext} {l : List Path} (h : join.Sound c)
    (hl : ∀ p ∈ l, p.top = c) :
    ∃ join', resolveAll context l join =
        .ok (l.map fun p => columnsOf p (context p) (number matchesPath join'.paths p), join') ∧
      join'.Sound c ∧ join'.paths = internAll matchesPath join.paths (l.filter fun p => decide (Joined p)) := by
  induction l generalizing join with
  | nil => exact ⟨join, rfl, h, rfl⟩
  | cons p l ih =>
    obtain ⟨join₁, hp, hs, hpaths⟩ := pathResolve_sound h (hl p List.mem_cons_self)
    obtain ⟨join₂, hrest, hs₂, hpaths₂⟩ := ih hs fun q hq => hl q (List.mem_cons_of_mem _ hq)
    have hstep : join₁.paths =
        internAll matchesPath join.paths (([p] : List Path).filter fun p => decide (Joined p)) := by
      rw [hpaths]
      by_cases hj : Joined p <;> simp [hj, internAll]
    have hall : join₂.paths =
        internAll matchesPath join.paths ((p :: l).filter fun p => decide (Joined p)) := by
      rw [hpaths₂, hstep, internAll, internAll, ← List.foldl_append, ← List.filter_append]
      rfl
    have hprefix : join₁.paths <+: join₂.paths := hpaths₂ ▸ prefix_internAll _
    have hknown : Joined p → Known matchesPath join₁.paths p := fun hj => by
      rw [hpaths, if_pos hj]
      exact known_intern (matchesPath_refl p)
    refine ⟨join₂, ?_, hs₂, hall⟩
    rw [resolveAll, hp, List.map_cons, columnsOf_stays hprefix hknown]
    change (resolveAll context l join₁ >>= _) = _
    rw [hrest]
    rfl

end Numbers

section Rows

/-- Strings of lists and the times of a message have rows of their own. -/
def OwnRow (p : Path) : Prop :=
  lastElementIsListed p = true ∨ (p.depth = 2 ∧ p.getValueType = some .time)

/-- The values of the two paths are in one row: single values of one object share a row. -/
def SharesRow (p q : Path) : Prop :=
  p = q ∨ (p.nodes.dropLast = q.nodes.dropLast ∧ ¬ OwnRow p ∧ ¬ OwnRow q)

variable {p q : Path} {c top : Idmef.Class} {place : List PathElement}

lemma Path.eq_of_nodes (h : p.nodes = q.nodes) : p = q := by
  obtain ⟨top, below, hm, hl⟩ := p
  obtain ⟨top', below', hm', hl'⟩ := q
  obtain ⟨htop, rfl⟩ := List.cons.inj h
  obtain rfl : top = top' := by
    simp only [Class.element, PathElement.mk.injEq, ChildType.class.injEq] at htop
    exact htop.2.1
  rfl

lemma class_of_child {c' : Idmef.Class} {child : Child} (h : child ∈ c.children)
    (ht : child.type = .class c') : c' ≠ .alert ∧ c' ≠ .heartbeat := by
  have hall : ∀ c : Idmef.Class, ∀ child ∈ c.children,
      child.type ≠ .class .alert ∧ child.type ≠ .class .heartbeat := by
    intro c
    cases c <;> decide
  obtain ⟨ha, hh⟩ := hall c child h
  exact ⟨fun hc => ha (hc ▸ ht), fun hc => hh (hc ▸ ht)⟩

/-- The last element is a child of the object before it. -/
lemma Leads.exists_last {below : List PathElement} (h : Leads c below) :
    ∃ place c' child index, below = place ++ [Child.at child index] ∧
      ((c.element :: place).getLast?.bind fun n => n.type.class?) = some c' ∧
      (place ≠ [] → c' ≠ .alert ∧ c' ≠ .heartbeat) ∧ child ∈ Class.children c' ∧
      (index = .forbidden ↔ child.listed = false) := by
  induction h with
  | @child c child index h hi => exact ⟨[], c, child, index, rfl, rfl, (by simp), h, hi⟩
  | @step c c₁ child₁ index₁ rest h hi ht _ ih =>
    obtain ⟨place, c', child, index, rfl, hclass, htop, hm, hindex⟩ := ih
    refine ⟨child₁.at index₁ :: place, c', child, index, rfl, ?_, fun _ => ?_, hm, hindex⟩
    · cases place with
      | nil => simpa [Child.at, ht, ChildType.class?, Class.element] using hclass
      | cons n place => simpa using hclass
    · cases place with
      | nil =>
        obtain rfl : c₁ = c' := by simpa [Class.element, ChildType.class?] using hclass
        exact class_of_child h ht
      | cons n place => exact htop (by simp)

/-- The path names a single child of the object at the place, whose class is `c`. -/
def Single (top c : Idmef.Class) (place : List PathElement) (p : Path) : Prop :=
  p.top = top ∧ place ≠ [] ∧ parentClass p = some c ∧ (c ≠ .alert ∧ c ≠ .heartbeat) ∧
    ∃ child ∈ c.children, child.listed = false ∧ p.below = place ++ [child.at .forbidden]

lemma exists_single (hj : Joined p) (h : ¬ OwnRow p) :
    ∃ c place, Single p.top c place p ∧ p.nodes.dropLast = p.top.element :: place := by
  obtain ⟨place, c, child, index, hbelow, hclass, htop, hchild, hindex⟩ := Leads.exists_last p.leads
  have hlast := lastIndex_of_below hbelow
  have hforbidden : index = .forbidden := by
    by_contra hne
    exact h (.inl (by rw [lastElementIsListed, hlast]; exact decide_eq_true hne))
  have hne : place ≠ [] := by
    rintro rfl
    have hdepth : p.depth = 2 := by rw [Path.depth, Path.nodes, hbelow]; rfl
    exact hj ⟨hdepth, fun ht => h (.inr ⟨hdepth, ht⟩)⟩
  subst hforbidden
  refine ⟨c, place, ⟨rfl, hne, ?_, htop hne, child, hchild, hindex.mp rfl, hbelow⟩, ?_⟩
  · rw [parentClass_of_below hbelow, ← hclass, List.getLast?_eq_some_getLast (by simp)]
    rfl
  · rw [nodes_of_below hbelow, List.dropLast_concat]

lemma Single.lastClass (h : Single top c place p) :
    (place.getLast?.bind fun n => n.type.class?) = some c := by
  obtain ⟨-, hne, hclass, -, child, -, -, hbelow⟩ := h
  rw [parentClass_of_below hbelow, List.getLast_cons hne] at hclass
  rw [List.getLast?_eq_some_getLast hne, Option.bind_some, hclass]

lemma Single.tableName (h : Single top c place p) : tableName p = (classTable c).name := by
  obtain ⟨-, -, hclass, hc, child, hchild, hl, hbelow⟩ := h
  have hname := attribute_name hchild hl hc
  refine tableName_class hclass ?_ hc
  rw [childName_of_below hbelow]
  exact ⟨hname.1, hname.2.1, hname.2.2.1⟩

lemma Single.depth (h : Single top c place p) : p.depth = place.length + 2 := by
  obtain ⟨-, -, -, -, child, -, -, hbelow⟩ := h
  rw [Path.depth, nodes_of_below hbelow]
  simp

lemma Single.resolveIndexes (hp : Single top c place p) (hq : Single top c place q) :
    resolveIndexes p = resolveIndexes q := by
  obtain ⟨htop, -, -, -, child, -, -, hbelow⟩ := hp
  obtain ⟨htop', -, -, -, child', -, -, hbelow'⟩ := hq
  rw [resolveIndexes_of_below hbelow, resolveIndexes_of_below hbelow']
  simp only [htop, htop', Child.at]

/-- A class that one single child of an object has, all have. -/
lemma single_class {x : Idmef.Class} (hx : x = .fileAccess ∨ x = .alertident ∨ x = .userId)
    {child child' : Child} (h : child ∈ c.children) (hl : child.listed = false)
    (ht : child.type = .class x) (h' : child' ∈ c.children) (hl' : child'.listed = false) :
    child'.type = .class x := by
  have hall : ∀ x : Idmef.Class, x = .fileAccess ∨ x = .alertident ∨ x = .userId → ∀ c : Idmef.Class,
      ∀ child ∈ c.children, child.listed = false → child.type = .class x →
        ∀ child' ∈ c.children, child'.listed = false → child'.type = .class x := by
    rintro x (rfl | rfl | rfl) c <;> cases c <;> decide
  exact hall x hx c child h hl ht child' h' hl'

/-- Along two single paths of one object the classes differ in the last element only. -/
lemma Single.getClass_eq (hp : Single top c place p) (hq : Single top c place q) {x : Idmef.Class}
    (hx : x = .fileAccess ∨ x = .alertident ∨ x = .userId) (i : ℕ) (h : p.getClass i = some x) :
    q.getClass i = some x := by
  obtain ⟨htop, -, -, -, child, hchild, hl, hbelow⟩ := hp
  obtain ⟨htop', -, -, -, child', hchild', hl', hbelow'⟩ := hq
  rw [Path.getClass, nodes_of_below hbelow, htop] at h
  rw [Path.getClass, nodes_of_below hbelow', htop']
  rcases lt_trichotomy i (place.length + 1) with hlt | rfl | hgt
  · rwa [List.getElem?_append_left (by simpa using hlt)] at h ⊢
  · have hlast : ∀ child : Child, (top.element :: place ++ [child.at .forbidden])[place.length + 1]? =
        some (child.at .forbidden) := fun child => by simp
    rw [hlast] at h ⊢
    have ht : child.type = .class x := by
      rcases hct : child.type with v | y
      · rw [Option.bind_some, Child.at, hct] at h
        cases h
      · rw [Option.bind_some, Child.at, hct] at h
        cases h
        rfl
    rw [Option.bind_some, Child.at, single_class hx hchild hl ht hchild' hl']
    rfl
  · rw [List.getElem?_eq_none (by simp; omega)] at h
    cases h

lemma Single.getClass_iff (hp : Single top c place p) (hq : Single top c place q) {x : Idmef.Class}
    (hx : x = .fileAccess ∨ x = .alertident ∨ x = .userId) (i : ℕ) :
    p.getClass i = some x ↔ q.getClass i = some x :=
  ⟨hp.getClass_eq hq hx i, hq.getClass_eq hp hx i⟩

lemma Single.getClass_above (hp : Single top c place p) (hq : Single top c place q) {i : ℕ}
    (hi : i ≤ place.length) : p.getClass i = q.getClass i := by
  obtain ⟨htop, -, -, -, child, -, -, hbelow⟩ := hp
  obtain ⟨htop', -, -, -, child', -, -, hbelow'⟩ := hq
  rw [Path.getClass, Path.getClass, nodes_of_below hbelow, nodes_of_below hbelow', htop, htop',
    List.getElem?_append_left (by simpa using by omega),
    List.getElem?_append_left (by simpa using by omega)]

lemma Single.childName_ne (h : Single top c place p) : childName p ≠ "detect_time" := by
  obtain ⟨-, -, -, hc, child, hchild, hl, hbelow⟩ := h
  rw [childName_of_below hbelow]
  exact (attribute_name hchild hl hc).2.2.2

lemma Single.resolveParentType (hp : Single top c place p) (hq : Single top c place q) :
    resolveParentType p = resolveParentType q := by
  have hlength : 1 ≤ place.length := List.length_pos_iff.mpr hp.2.1
  have hfile : resolveFileParentType p = resolveFileParentType q := by
    unfold resolveFileParentType
    simp only [hp.getClass_iff hq (.inl rfl), hp.getClass_iff hq (.inr (.inr rfl))]
  have htarget : resolveTargetParentType p = resolveTargetParentType q := by
    unfold resolveTargetParentType
    rw [hp.depth, hq.depth, hfile]
    by_cases hd : place.length + 2 = 3
    · rw [if_pos hd, if_pos hd]
    · rw [if_neg hd, if_neg hd, hp.getClass_above hq (by omega)]
  have hsource : resolveSourceParentType p = resolveSourceParentType q := by
    unfold resolveSourceParentType
    rw [hp.depth, hq.depth]
  have htool : resolveToolAlertParentType p = resolveToolAlertParentType q := by
    unfold resolveToolAlertParentType
    simp only [hp.getClass_iff hq (.inr (.inl rfl))]
  have hcorrelation : resolveCorrelationAlertParentType p = resolveCorrelationAlertParentType q := by
    unfold resolveCorrelationAlertParentType
    simp only [hp.getClass_iff hq (.inr (.inl rfl))]
  unfold Classic.resolveParentType resolveAlertParentType
  rw [hp.getClass_above hq (Nat.zero_le _), hp.getClass_above hq hlength, htool, hcorrelation,
    hsource, htarget, if_neg hp.childName_ne, if_neg hq.childName_ne]

lemma single_same {c' top' : Idmef.Class} {place' : List PathElement} (hp : Single top c place p)
    (hq : Single top' c' place' q) (h : top.element :: place = top'.element :: place') :
    Single top c place p ∧ Single top c place q := by
  obtain ⟨htop, rfl⟩ := List.cons.inj h
  obtain rfl : top = top' := by
    simp only [Class.element, PathElement.mk.injEq, ChildType.class.injEq] at htop
    exact htop.2.1
  obtain ⟨child, -, -, hbelow⟩ := hp.2.2.2.2
  obtain ⟨child', -, -, hbelow'⟩ := hq.2.2.2.2
  have hclass : parentClass p = parentClass q := by
    rw [parentClass_of_below hbelow, parentClass_of_below hbelow']
    simp only [hp.1, hq.1]
  rw [hp.2.2.1, hq.2.2.1] at hclass
  obtain rfl := Option.some.inj hclass
  exact ⟨hp, hq⟩

/-- Paths to one row ask for the same table under the same condition. -/
lemma SharesRow.joined (h : SharesRow p q) (hp : Joined p) (hq : Joined q) :
    tableName p = tableName q ∧ resolveParentType p = resolveParentType q ∧
      resolveIndexes p = resolveIndexes q := by
  rcases h with rfl | ⟨hnodes, hop, hoq⟩
  · exact ⟨rfl, rfl, rfl⟩
  · obtain ⟨c, place, hsp, hdp⟩ := exists_single hp hop
    obtain ⟨c', place', hsq, hdq⟩ := exists_single hq hoq
    rw [hdp, hdq] at hnodes
    obtain ⟨hsp, hsq⟩ := single_same hsp hsq hnodes
    exact ⟨hsp.tableName.trans hsq.tableName.symm, hsp.resolveParentType hsq,
      hsp.resolveIndexes hsq⟩

lemma OwnRow.comparesWhole (h : OwnRow p) : comparesWhole p = true := by
  rcases h with hl | ⟨hd, ht⟩
  · rw [Classic.comparesWhole, hl, Bool.true_or]
  · have hclass : parentClass p = some p.top := by
      rw [parentClass, hd]
      rfl
    have hfile : p.top ≠ .file := by
      rcases p.message with h | h <;> simp [h]
    rw [Classic.comparesWhole, ht, hclass]
    simp [hfile]

lemma time_unique {child child' : Child} (hc : c ≠ .alert ∧ c ≠ .heartbeat) (hf : c ≠ .file)
    (h : child ∈ c.children) (ht : child.type = .value .time) (h' : child' ∈ c.children)
    (ht' : child'.type = .value .time) : child = child' := by
  have hall : ∀ c : Idmef.Class, c ≠ .alert ∧ c ≠ .heartbeat → c ≠ .file → ∀ child ∈ c.children,
      child.type = .value .time → ∀ child' ∈ c.children, child'.type = .value .time →
        child = child' := by
    intro c
    cases c <;> decide
  exact hall c hc hf child h ht child' h' ht'

/-- A single value that is compared whole is the only one that is, of its object. -/
lemma Single.eq_of_whole (hp : Single top c place p) (hq : Single top c place q)
    (hop : ¬ OwnRow p) (hoq : ¬ OwnRow q) (hwp : comparesWhole p = true)
    (hwq : comparesWhole q = true) : p = q := by
  have htime : ∀ {p : Path}, Single top c place p → ¬ OwnRow p → comparesWhole p = true →
      c ≠ .file ∧ p.getValueType = some .time := by
    intro p hp hop hw
    rw [comparesWhole, Bool.or_eq_true, Bool.and_eq_true] at hw
    rcases hw with hw | ⟨ht, hf⟩
    · exact absurd (.inl hw) hop
    · exact ⟨fun hc => of_decide_eq_true hf (hc ▸ hp.2.2.1), of_decide_eq_true ht⟩
  obtain ⟨hf, htp⟩ := htime hp hop hwp
  obtain ⟨-, htq⟩ := htime hq hoq hwq
  obtain ⟨htop, -, -, hc, child, hchild, -, hbelow⟩ := hp
  obtain ⟨htop', -, -, -, child', hchild', -, hbelow'⟩ := hq
  have hvalue : ∀ {p : Path} {child : Child}, p.below = place ++ [child.at .forbidden] →
      p.getValueType = some .time → child.type = .value .time := by
    intro p child hbelow ht
    obtain ⟨n, hn, ht⟩ := Path.getValueType_eq_some.mp ht
    rw [hbelow, List.getLast?_concat] at hn
    obtain rfl := Option.some.inj hn
    exact ht
  obtain rfl := time_unique hc hf hchild (hvalue hbelow htp) hchild' (hvalue hbelow' htq)
  exact Path.eq_of_nodes (by rw [Path.nodes, Path.nodes, hbelow, hbelow', htop, htop'])

lemma depth_of_siblings (h : p.nodes.dropLast = q.nodes.dropLast) : p.depth = q.depth := by
  have hlength := congrArg List.length h
  simpa [Path.nodes, Path.depth] using hlength

lemma ncompare_iff (h : p.depth = q.depth) :
    p.ncompare q (p.depth - 1) = true ↔ p.nodes.dropLast = q.nodes.dropLast := by
  rw [Path.ncompare, decide_eq_true_iff, List.dropLast_eq_take, List.dropLast_eq_take, ← Path.depth,
    ← Path.depth, h]

lemma matchesPath_of_siblings (hw : ¬ comparesWhole p = true)
    (h : p.nodes.dropLast = q.nodes.dropLast) : matchesPath p q = true := by
  rw [matchesPath, if_neg hw, (ncompare_iff (depth_of_siblings h)).mpr h,
    decide_eq_true (depth_of_siblings h)]
  rfl

lemma matchesPath_iff (hp : Joined p) (hq : Joined q)
    (hagree : p.nodes.dropLast = q.nodes.dropLast → (comparesWhole p = true ↔ comparesWhole q = true)) :
    matchesPath p q = true ↔ SharesRow p q := by
  constructor
  · intro hm
    rw [matchesPath, Bool.and_eq_true, decide_eq_true_iff] at hm
    obtain ⟨hd, hm⟩ := hm
    split at hm
    case isTrue hw => exact .inl (Path.eq_of_nodes (of_decide_eq_true hm))
    case isFalse hw =>
      have hnodes := (ncompare_iff hd).mp hm
      exact .inr ⟨hnodes, fun h => hw h.comparesWhole,
        fun h => hw ((hagree hnodes).mpr h.comparesWhole)⟩
  · rintro (rfl | ⟨hnodes, hop, hoq⟩)
    · exact matchesPath_refl p
    · by_cases hw : comparesWhole p = true
      · obtain ⟨c, place, hsp, hdp⟩ := exists_single hp hop
        obtain ⟨c', place', hsq, hdq⟩ := exists_single hq hoq
        obtain ⟨hsp, hsq⟩ := single_same hsp hsq (by rw [← hdp, ← hdq, hnodes])
        obtain rfl := hsp.eq_of_whole hsq hop hoq hw ((hagree hnodes).mp hw)
        exact matchesPath_refl p
      · exact matchesPath_of_siblings hw hnodes

end Rows

section Orders

variable {p q : Path} {c : Idmef.Class} {context : Path → FieldContext} {l : List Path}

lemma SharesRow.symm (h : SharesRow p q) : SharesRow q p := by
  rcases h with rfl | ⟨hn, hp, hq⟩
  · exact .inl rfl
  · exact .inr ⟨hn.symm, hq, hp⟩

lemma SharesRow.trans {r : Path} (h : SharesRow p q) (h' : SharesRow q r) : SharesRow p r := by
  rcases h with rfl | ⟨hn, hp, hq⟩
  · exact h'
  · rcases h' with rfl | ⟨hn', -, hr⟩
    · exact .inr ⟨hn, hp, hq⟩
    · exact .inr ⟨hn.trans hn', hp, hr⟩

/-- Every path has the columns of a table that is joined as for the path alone, and the paths to one
row share the table. -/
def ResolvesByRow (context : Path → FieldContext) (l : List Path) : Prop :=
  ∃ (join : Join) (named : Path → ℕ),
    resolveAll context l .new = .ok (l.map fun p => columnsOf p (context p) (named p), join) ∧
    (∀ p ∈ l, Joined p → ∃ table ∈ join.tables, table.aliasedTableName = named p ∧
      table.tableName = tableName p ∧ table.parentType = resolveParentType p ∧
      table.indexConstraints = resolveIndexes p) ∧
    (join.tables.map JoinedTable.aliasedTableName).Nodup ∧
    ∀ p ∈ l, ∀ q ∈ l, Joined p → Joined q → (named p = named q ↔ SharesRow p q)

/-- No object has two children among the paths of which one is compared whole and one is not. -/
def ComparedAlike (l : List Path) : Prop :=
  ∀ p ∈ l, ∀ q ∈ l, Joined p → Joined q → p.nodes.dropLast = q.nodes.dropLast →
    comparesWhole p = true → comparesWhole q = true

lemma ComparedAlike.matchesPath_iff (h : ComparedAlike l) (hp : p ∈ l) (hq : q ∈ l) (hjp : Joined p)
    (hjq : Joined q) : matchesPath p q = true ↔ SharesRow p q :=
  Classic.matchesPath_iff hjp hjq fun hn => ⟨h p hp q hq hjp hjq hn, h q hq p hp hjq hjp hn.symm⟩

lemma Join.Sound.nodup {join : Join} (h : join.Sound c) :
    (join.tables.map JoinedTable.aliasedTableName).Nodup := by
  have hrange : join.tables.map JoinedTable.aliasedTableName = List.range join.paths.length := by
    rw [h.tables]
    exact List.ext_getElem (by simp) fun i _ _ => by simp [JoinedTable.of]
  rw [hrange]
  exact List.nodup_range

lemma ComparedAlike.resolves (h : ComparedAlike l) (hl : ∀ p ∈ l, p.top = c) :
    ResolvesByRow context l := by
  obtain ⟨join, hok, hs, hpaths⟩ := resolveAll_sound (Join.new_sound (c := c)) hl
  have hmem : ∀ p, p ∈ l → Joined p → p ∈ l.filter fun p => decide (Joined p) := fun p hp hj =>
    List.mem_filter.mpr ⟨hp, decide_eq_true hj⟩
  have hof : ∀ q ∈ join.paths, q ∈ l ∧ Joined q := by
    intro q hq
    rw [hpaths] at hq
    rcases mem_internAll hq with hq | hq
    · cases hq
    · exact ⟨(List.mem_filter.mp hq).1, of_decide_eq_true (List.mem_filter.mp hq).2⟩
  have hknown : ∀ p ∈ l, Joined p → Known matchesPath join.paths p := fun p hp hj => by
    rw [hpaths]
    exact known_internAll (fun q _ => matchesPath_refl q) (hmem p hp hj)
  refine ⟨join, number matchesPath join.paths, hok, fun p hp hj => ?_, hs.nodup,
    fun p hp q hq hjp hjq => ?_⟩
  · have hlt := (hknown p hp hj).number_lt
    have hq := hof _ (List.getElem_mem hlt)
    have hsame := (h.matchesPath_iff hp hq.1 hj hq.2).mp (hknown p hp hj).same_number
    obtain ⟨hname, htype, hindexes⟩ := hsame.joined hj hq.2
    refine ⟨.of _ (tableName _) (number matchesPath join.paths p), ?_, rfl, hname.symm, htype.symm,
      hindexes.symm⟩
    rw [hs.tables]
    exact List.mem_mapIdx.mpr ⟨_, hlt, rfl⟩
  · rw [number_eq_iff (S := fun p => p ∈ l ∧ Joined p) ?_ ?_ hof ⟨hp, hjp⟩ ⟨hq, hjq⟩
      (hknown p hp hjp) (hknown q hq hjq)]
    · exact h.matchesPath_iff hp hq hjp hjq
    · intro x y hx hy hxy
      exact (h.matchesPath_iff hy.1 hx.1 hy.2 hx.2).mpr
        ((h.matchesPath_iff hx.1 hy.1 hx.2 hy.2).mp hxy).symm
    · intro x y z hx hy hz hxy hyz
      exact (h.matchesPath_iff hx.1 hz.1 hx.2 hz.2).mpr
        (((h.matchesPath_iff hx.1 hy.1 hx.2 hy.2).mp hxy).trans
          ((h.matchesPath_iff hy.1 hz.1 hy.2 hz.2).mp hyz))

lemma fieldName_ne_nil (p : Path) (context : FieldContext) : fieldName p context ≠ [] := by
  have hall : ∀ x ∈ classes, x.2.resolveFieldName p context ≠ [] := by
    simp only [classes, List.forall_mem_cons, messageFieldName, defaultFieldName, snmpFieldName,
      checksumFieldName, fileFieldName, addataFieldName, timeWithoutUsecFieldName,
      timeWithUsecFieldName]
    cases context <;> refine ⟨?_, ?_, ?_, ?_, ?_, ?_, ?_, ?_, ?_, List.forall_mem_nil _⟩
    all_goals first
      | exact List.cons_ne_nil _ _
      | (split <;> exact List.cons_ne_nil _ _)
  rw [fieldName, searchPath]
  cases hx : classes.find? fun x => parentClass p = some x.1 with
  | none => exact List.cons_ne_nil _ _
  | some x => exact hall x (List.mem_of_find?_eq_some hx)

lemma columnsOf_inj {context : FieldContext} {m n : ℕ} (hj : Joined p)
    (h : columnsOf p context m = columnsOf p context n) : m = n := by
  unfold columnsOf at h
  rw [if_neg hj, if_neg hj] at h
  rcases hf : fieldName p context with _ | ⟨name, names⟩
  · exact absurd hf (fieldName_ne_nil p context)
  · rw [hf, List.map_cons, List.map_cons] at h
    simpa using (List.cons.inj h).1

/-- Of two paths, the second is given the alias of the first when the lookup takes its table. -/
lemma ResolvesByRow.matches_iff (h : ResolvesByRow context (p :: q :: l))
    (hl : ∀ r ∈ p :: q :: l, r.top = c) (hp : Joined p) (hq : Joined q) :
    matchesPath q p = true ↔ SharesRow p q := by
  obtain ⟨join, named, hok, -, -, hsame⟩ := h
  obtain ⟨join', hok', -, hpaths⟩ := resolveAll_sound (Join.new_sound (c := c)) hl
  rw [hok] at hok'
  obtain ⟨hcolumns, rfl⟩ := Prod.mk.inj (Except.ok.inj hok')
  obtain ⟨hcp, hcolumns⟩ := List.cons.inj hcolumns
  obtain ⟨hcq, -⟩ := List.cons.inj hcolumns
  rw [← hsame p List.mem_cons_self q (List.mem_cons_of_mem _ List.mem_cons_self) hp hq,
    columnsOf_inj hp hcp, columnsOf_inj hq hcq]
  -- the entries after the two paths
  have hprefix : intern matchesPath [p] q <+: join.paths := by
    have hfilter : (p :: q :: l).filter (fun p => decide (Joined p)) =
        p :: q :: l.filter fun p => decide (Joined p) := by
      simp [hp, hq]
    rw [hpaths, hfilter]
    exact prefix_internAll _
  have hkp : Known matchesPath [p] p := ⟨p, List.mem_cons_self, matchesPath_refl p⟩
  have hnp : number matchesPath join.paths p = 0 := by
    rw [hkp.number_stays (prefix_intern.trans hprefix)]
    exact Nat.lt_one_iff.mp hkp.number_lt
  have hnq : number matchesPath join.paths q = number matchesPath (intern matchesPath [p] q) q :=
    (known_intern (matchesPath_refl q)).number_stays hprefix
  rw [hnp, hnq]
  by_cases hm : matchesPath q p = true
  · have hk : Known matchesPath [p] q := ⟨p, List.mem_cons_self, hm⟩
    rw [hk.number_stays prefix_intern]
    exact iff_of_true hm (Nat.lt_one_iff.mp hk.number_lt).symm
  · have hk : ¬ Known matchesPath [p] q := fun ⟨r, hr, hs⟩ => hm (List.mem_singleton.mp hr ▸ hs)
    rw [number_intern_of_unknown hk (matchesPath_refl q)]
    exact iff_of_false hm nofun

lemma exists_perm {α : Type} {S : List α} {a b : α} (ha : a ∈ S) (hb : b ∈ S) (hab : a ≠ b) :
    ∃ l, (a :: b :: l).Perm S := by
  obtain ⟨s, t, rfl⟩ := List.append_of_mem ha
  have hb' : b ∈ s ++ t := by
    rcases List.mem_append.mp hb with h | h
    · exact List.mem_append_left _ h
    · exact List.mem_append_right _ ((List.mem_cons.mp h).resolve_left hab.symm)
  obtain ⟨s', t', hst⟩ := List.append_of_mem hb'
  refine ⟨s' ++ t', List.Perm.trans ?_ List.perm_middle.symm⟩
  rw [hst]
  exact (List.perm_middle.symm).cons a

/-- The paths of a set resolve as each does alone, with one alias for each row, in any order of
them, exactly when no object has among them a child that is compared whole (one of a list, or the
`change_time` of an inode) and one that is not. -/
theorem resolveAll_by_row_iff (context : Path → FieldContext) (c : Idmef.Class) (S : List Path)
    (hS : ∀ p ∈ S, p.top = c) :
    (∀ l : List Path, l.Perm S → ResolvesByRow context l) ↔ ComparedAlike S := by
  constructor
  · intro h p hp q hq hjp hjq hn hw
    by_contra hwq
    have hne : p ≠ q := by
      rintro rfl
      exact hwq hw
    have hoq : ¬ OwnRow q := fun ho => hwq ho.comparesWhole
    by_cases hop : OwnRow p
    · obtain ⟨l, hl⟩ := exists_perm hp hq hne
      have hiff := (h _ hl).matches_iff (fun r hr => hS r (hl.subset hr)) hjp hjq
      rcases hiff.mp (matchesPath_of_siblings hwq hn.symm) with heq | ⟨-, hop', -⟩
      · exact hne heq
      · exact hop' hop
    · obtain ⟨l, hl⟩ := exists_perm hq hp hne.symm
      have hiff := (h _ hl).matches_iff (fun r hr => hS r (hl.subset hr)) hjq hjp
      have hm := hiff.mpr (.inr ⟨hn.symm, hoq, hop⟩)
      rw [matchesPath, if_pos hw, Bool.and_eq_true] at hm
      exact hne (Path.eq_of_nodes (of_decide_eq_true hm.2))
  · intro h l hl
    refine ComparedAlike.resolves (fun p hp q hq => ?_) fun p hp => hS p (hl.subset hp)
    exact h p (hl.subset hp) q (hl.subset hq)

end Orders

section Meaning

variable {p q : Path} {k : Kind}

lemma isValue_ownRow {e : Element} (he : e.isValue = true) (h : Denotes p e) : OwnRow p := by
  obtain ⟨htop, hbelow⟩ := h
  rw [he, if_pos rfl] at hbelow
  have hlisted : ∀ {l name i}, p.below = l ++ [stringAt name i] → OwnRow p := fun hb => by
    refine .inl ?_
    rw [lastElementIsListed, lastIndex_of_below hb]
    exact decide_eq_true (indexOf_ne_forbidden _)
  have htime : ∀ {name}, p.below = [timeOf name] → OwnRow p := fun hb =>
    .inr ⟨by rw [Path.depth, Path.nodes, hb]; rfl,
      Path.getValueType_eq_some.mpr ⟨_, by rw [hb]; rfl, rfl⟩⟩
  cases e with
  | createTime k | detectTime | analyzerTime k => exact htime hbelow
  | processArg o i | processEnv o i =>
    exact hlisted (l := o.place ++ [object .process]) (by simpa [Element.place] using hbelow)
  | webServiceArg q i =>
    exact hlisted (l := q.place ++ [object .service, object .webService])
      (by simpa [Element.place] using hbelow)
  | permission t f a i =>
    exact hlisted (l := [objectAt .target t, objectAt .file f, objectAt .fileAccess a]) hbelow
  | _ => cases he

lemma attribute_siblings {e : Element} (he : e.isValue = false) (h : Denotes p e) :
    p.nodes.dropLast = p.top.element :: e.place ∧ ¬ OwnRow p := by
  obtain ⟨-, hbelow⟩ := h
  rw [he, if_neg nofun] at hbelow
  obtain ⟨c, child, -, v, -, -, hclass, hbelow⟩ := hbelow
  refine ⟨by rw [nodes_of_below hbelow, List.dropLast_concat], ?_⟩
  rintro (hl | ⟨hd, -⟩)
  · rw [lastElementIsListed, lastIndex_of_below hbelow] at hl
    exact of_decide_eq_true hl rfl
  · have hplace : e.place = [] := by
      rw [Path.depth, nodes_of_below hbelow] at hd
      simpa using hd
    rw [hplace] at hclass
    cases hclass

/-- Explicit paths to values have one row exactly when one element is denoted by both. -/
theorem sharesRow_iff_denotes (hp : p.top = k.class) (hq : q.top = k.class)
    (hvp : p.getValueType.isSome) (hvq : q.getValueType.isSome) (hxp : Explicit p.below)
    (hlp : OutsideLinkages p.below) (hjp : Joined p) (hjq : Joined q) :
    SharesRow p q ↔ ∃ e, Denotes p e ∧ Denotes q e := by
  constructor
  · intro h
    obtain ⟨e, rfl, he⟩ := exists_denoted hp hvp hxp hlp hjp
    refine ⟨e, he, ?_⟩
    rcases h with rfl | ⟨hn, hop, hoq⟩
    · exact he
    · have hvalue : e.isValue = false := Bool.eq_false_iff.mpr fun hv => hop (isValue_ownRow hv he)
      obtain ⟨htop, hbelow⟩ := he
      rw [hvalue, if_neg nofun] at hbelow
      obtain ⟨c, child, hchild, v, hl, ht, hclass, hbelow⟩ := hbelow
      obtain ⟨c', place', hsq, hdq⟩ := exists_single hjq hoq
      rw [nodes_of_below hbelow, List.dropLast_concat, hdq] at hn
      obtain ⟨-, rfl⟩ := List.cons.inj hn
      have hlast := hsq.lastClass
      obtain ⟨-, -, -, -, child', hchild', hl', hbelow'⟩ := hsq
      obtain ⟨v', hv'⟩ := Option.isSome_iff_exists.mp hvq
      obtain ⟨n, hn, ht'⟩ := Path.getValueType_eq_some.mp hv'
      rw [hbelow', List.getLast?_concat] at hn
      obtain rfl := Option.some.inj hn
      refine ⟨hq, ?_⟩
      rw [hvalue, if_neg nofun]
      exact ⟨c', child', hchild', v', hl', ht', hlast, hbelow'⟩
  · rintro ⟨e, hep, heq⟩
    cases hvalue : e.isValue with
    | true =>
      have hbp := hep.2
      have hbq := heq.2
      rw [hvalue, if_pos rfl] at hbp hbq
      exact .inl (Path.eq_of_nodes (by rw [Path.nodes, Path.nodes, hbp, hbq, hp, hq]))
    | false =>
      obtain ⟨hnp, hop⟩ := attribute_siblings hvalue hep
      obtain ⟨hnq, hoq⟩ := attribute_siblings hvalue heq
      exact .inr ⟨by rw [hnp, hnq, hp, hq], hop, hoq⟩

end Meaning

section Examples

/-- `alert.target(0).process` and a child of it. -/
def processPath (child : PathElement) (h : Leads .process [child]) : Path where
  top := .alert
  below := [objectAt .target 0, object .process, child]
  message := alert_top
  leads := .step (by decide) (by decide) rfl
    (.step (by decide) (by decide) rfl h)

def argPath : Path := processPath (stringAt "arg" 0)
  (.child (by decide) (by decide))

def namePath : Path := processPath ((Child.value "name").at .forbidden)
  (.child (by decide) (by decide))

theorem resolveAll_by_row_separate :
    (∀ l : List Path, l.Perm [textPath, permissionPath] → ResolvesByRow (fun _ => .select) l) ↔
      ComparedAlike [textPath, permissionPath] :=
  resolveAll_by_row_iff (fun _ => .select) .alert [textPath, permissionPath]
    (List.forall_mem_cons.mpr ⟨rfl, List.forall_mem_singleton.mpr rfl⟩)

/-- After an argument of a process, its name is taken for a column of the arguments. -/
theorem resolveAll_name_among_args :
    ((resolveAll (fun _ => .select) [namePath, argPath] .new).map fun r =>
        (r.1, r.2.tables.map JoinedTable.tableName)) =
      .ok ([[⟨some 0, "name"⟩], [⟨some 1, "arg"⟩]], ["Prelude_Process", "Prelude_ProcessArg"]) ∧
    ((resolveAll (fun _ => .select) [argPath, namePath] .new).map fun r =>
        (r.1, r.2.tables.map JoinedTable.tableName)) =
      .ok ([[⟨some 0, "arg"⟩], [⟨some 0, "name"⟩]], ["Prelude_ProcessArg"]) := by
  constructor <;> rfl

end Examples

end Preludedb.Classic
