import Preludedb.Classic.Keys

/-! The second row of a last element. The rows of a list differ in their index; for most lists the
last element's row is there again under -1, and for three of them it is not. -/

namespace Preludedb.Classic

open Foundations Sql Idmef

/-- The last of the rows with an index is there once more under -1, and no other row is. -/
def Mirrored (rows : List Row) : Prop :=
  ∃ last, (rows.filter fun r => decide (r.index ≠ some (-1))).getLast? = some last ∧
    (rows.filter fun r => decide (r.index = some (-1))) = [{ last with index := some (-1) }]

/-- The row belongs to the list of the element: it is of the same table and has the same parents. -/
def SameList (s : Element) (w : Table × Row) : Prop :=
  w.1 = s.table ∧ w.2.parentType = s.parentType ∧ w.2.parents = s.parents

instance (s : Element) (w : Table × Row) : Decidable (SameList s w) :=
  inferInstanceAs (Decidable (_ ∧ _ ∧ _))

namespace Element

variable {s e : Element}

lemma withIndex_index (hs : s.arity ≠ .single) (i : Int) : (s.withIndex i).index = some i := by
  cases s <;> first | rfl | exact absurd rfl hs

lemma withIndex_parentType (s : Element) (i : Int) : (s.withIndex i).parentType = s.parentType := by
  cases s <;> rfl

lemma withIndex_parents (s : Element) (i : Int) : (s.withIndex i).parents = s.parents := by
  cases s <;> rfl

lemma withIndex_zero (e : Element) : (e.withIndex 0).index = if e.table.indexed then some 0 else none := by
  cases e <;> rfl

/-- The table and the parents tell the lists apart. -/
lemma sameList_iff {ident : ℕ} {fields : List (String × Cell)} :
    SameList s (e.table, e.row ident fields) ↔ e.withIndex 0 = s.withIndex 0 := by
  constructor
  · rintro ⟨ht, hp, hps⟩
    simp only [Element.row] at ht hp hps
    have hrow : (e.withIndex 0).row ident fields = (s.withIndex 0).row ident fields := by
      simp only [Element.row, withIndex_zero, withIndex_parentType, withIndex_parents, hp, hps, ht]
    have hkey : keyOf ((e.withIndex 0).table, (e.withIndex 0).row ident fields) =
        keyOf ((s.withIndex 0).table, (s.withIndex 0).row ident fields) := by
      rw [hrow, e.withIndex_table, s.withIndex_table, ht]
    exact Element.keyOf_injective hkey
  · intro h
    refine ⟨?_, ?_, ?_⟩
    · simp only
      rw [← e.withIndex_table 0, h, s.withIndex_table]
    · simp only [Element.row]
      rw [← e.withIndex_parentType 0, h, s.withIndex_parentType]
    · simp only [Element.row]
      rw [← e.withIndex_parents 0, h, s.withIndex_parents]

end Element

section Rows

variable [L : Libprelude] {m : Message} {ident : ℕ} {s : Element} {α : Type} {mk : Int → α → Entry}

/-- The rows that the insertion of a message writes for a list. -/
def listRows (m : Message) (ident : ℕ) (s : Element) : List Row :=
  ((rowsFor m ident).filter fun w => decide (SameList s w)).map Prod.snd

lemma listRows_eq (m : Message) (ident : ℕ) (s : Element) :
    listRows m ident s = (group m s).map fun x => (entryWrite ident x).2 := by
  have htop : ¬ SameList s ((kindOf m).table, ⟨ident, none, [], none, topFields m⟩) := fun h =>
    s.table_ne _ h.1.symm
  have hgroup : (entriesOf m).filter ((fun w => decide (SameList s w)) ∘ entryWrite ident) =
      inGroup s (entriesOf m) :=
    List.filter_congr fun x _ => decide_eq_decide.mpr Element.sameList_iff
  rw [listRows, rowsFor, List.filter_cons, if_neg (by simpa using htop), List.filter_map, hgroup,
    inGroup_entriesOf, List.map_map]
  rfl

/-- The row of an element of a list, under an index. -/
def rowAt (ident : ℕ) (s : Element) (mk : Int → α → Entry) (i : Int) (x : α) : Row :=
  ⟨ident, s.parentType, s.parents, some i, (mk 0 x).fields⟩

omit L in
lemma Indexed.row (h : Indexed s mk) (hs : s.arity ≠ .single) (i : Int) (x : α) :
    (entryWrite ident (mk i x)).2 = rowAt ident s mk i x := by
  rw [entryWrite, h.element, h.fields i 0, Element.row, Element.withIndex_index hs,
    Element.withIndex_parentType, Element.withIndex_parents]
  rfl

omit L in
lemma numbered_concat (i : Int) (xs : List α) (x : α) :
    numbered i (xs ++ [x]) = numbered i xs ++ [(i + xs.length, x)] := by
  induction xs generalizing i with
  | nil => simp [numbered]
  | cons y ys ih =>
    rw [List.cons_append, numbered, numbered, ih, List.cons_append, List.length_cons]
    congr 4
    omega

omit L in
lemma mirrored_listed {xs : List α} (hxs : xs ≠ []) :
    Mirrored ((listed xs).map fun x => rowAt ident s mk x.1 x.2) := by
  have hne : ((listed xs).map fun x => rowAt ident s mk x.1 x.2).filter
      (fun r => decide (r.index ≠ some (-1))) = (numbered 0 xs).map fun x => rowAt ident s mk x.1 x.2 := by
    rw [← listed_ne_last, List.filter_map]
    refine congrArg _ (List.filter_congr fun x _ => ?_)
    simp [rowAt]
  have heq : ((listed xs).map fun x => rowAt ident s mk x.1 x.2).filter
      (fun r => decide (r.index = some (-1))) =
      (xs.getLast?.toList.map fun x => (-1, x)).map fun x => rowAt ident s mk x.1 x.2 := by
    rw [← listed_last, List.filter_map]
    refine congrArg _ (List.filter_congr fun x _ => ?_)
    simp [rowAt]
  obtain ⟨init, last, rfl⟩ := (List.eq_nil_or_concat xs).resolve_left hxs
  rw [List.concat_eq_append] at hne heq ⊢
  rw [Mirrored, hne, heq, numbered_concat, List.map_append, List.map_singleton, List.getLast?_concat,
    List.getLast?_concat]
  exact ⟨_, rfl, rfl⟩

omit L in
lemma not_mirrored_numbered (xs : List α) :
    ¬ Mirrored ((numbered 0 xs).map fun x => rowAt ident s mk x.1 x.2) := by
  rintro ⟨last, -, hcopy⟩
  have hmem : { last with index := some (-1) } ∈ ((numbered 0 xs).map fun x =>
      rowAt ident s mk x.1 x.2).filter fun r => decide (r.index = some (-1)) := by
    rw [hcopy]
    exact List.mem_singleton_self _
  obtain ⟨x, hx, hrow⟩ := List.mem_map.mp (List.mem_filter.mp hmem).1
  have hle := le_of_mem_numbered hx
  have hindex : x.1 = -1 := Option.some.inj (congrArg Row.index hrow)
  omega

/-- A list's rows are mirrored, or not, as its elements' arity says. -/
lemma mirrored_iff (hs : s.arity ≠ .single) (hrows : listRows m ident s ≠ []) :
    Mirrored (listRows m ident s) ↔ s.arity = .listed := by
  have hshape := group_shaped m s
  rw [listRows_eq] at hrows ⊢
  rw [Shaped] at hshape
  cases harity : s.arity with
  | single => exact absurd harity hs
  | numbered =>
    rw [harity] at hshape
    obtain ⟨α, xs, mk, hmk, hgroup⟩ := hshape
    rw [hgroup, List.map_map]
    have hnot : ¬ Mirrored ((numbered 0 xs).map fun x => rowAt ident s mk x.1 x.2) :=
      not_mirrored_numbered xs
    simp only [← hmk.row hs] at hnot
    exact iff_of_false hnot (by simp)
  | listed =>
    rw [harity] at hshape
    obtain ⟨α, xs, mk, hmk, hgroup⟩ := hshape
    rw [hgroup, List.map_map] at hrows ⊢
    have hxs : xs ≠ [] := by
      rintro rfl
      exact hrows rfl
    have hmirrored : Mirrored ((listed xs).map fun x => rowAt ident s mk x.1 x.2) :=
      mirrored_listed hxs
    simp only [← hmk.row hs] at hmirrored
    exact iff_of_true hmirrored rfl

end Rows

section Condition

def processes : Message → List Process
  | .alert a => a.analyzers.flatMap (fun x => x.process.toList) ++
      a.sources.flatMap (fun x => x.process.toList) ++ a.targets.flatMap fun x => x.process.toList
  | .heartbeat h => h.analyzers.flatMap fun x => x.process.toList

def toolAlerts (m : Message) : List ToolAlert := (typesOf m).flatMap toolOf

variable {m : Message}

lemma mem_chosen {α : Type} {xs : List α} {x : α} : (∃ i, x ∈ chosen xs i) ↔ x ∈ xs := by
  constructor
  · rintro ⟨i, hx⟩
    obtain ⟨y, hy, rfl⟩ := List.mem_map.mp hx
    exact mem_listed (List.mem_filter.mp hy).1
  · intro hx
    obtain ⟨i, hi⟩ := exists_listed hx
    exact ⟨i, List.mem_map.mpr ⟨(i, x), List.mem_filter.mpr ⟨hi, decide_eq_true rfl⟩, rfl⟩⟩

lemma exists_chosen {α β : Type} {xs : List α} {g : α → List β} {y : β} :
    (∃ i, y ∈ (chosen xs i).flatMap g) ↔ y ∈ xs.flatMap g := by
  have hmem : ∀ x, x ∈ xs ↔ ∃ i, x ∈ chosen xs i := fun _ => mem_chosen.symm
  simp only [List.mem_flatMap, hmem]
  constructor
  · rintro ⟨i, x, hx, hy⟩
    exact ⟨x, ⟨i, hx⟩, hy⟩
  · rintro ⟨x, ⟨i, hx⟩, hy⟩
    exact ⟨i, x, hx, hy⟩

lemma exists_owner {P : Owner → Prop} : (∃ o, P o) ↔ (∃ k i, P (.analyzer k i)) ∨
    (∃ i, P (.party (.source i))) ∨ ∃ i, P (.party (.target i)) := by
  constructor
  · rintro ⟨⟨k, i⟩ | ⟨i⟩ | ⟨i⟩, h⟩
    · exact .inl ⟨k, i, h⟩
    · exact .inr (.inl ⟨i, h⟩)
    · exact .inr (.inr ⟨i, h⟩)
  · rintro (⟨k, i, h⟩ | ⟨i, h⟩ | ⟨i, h⟩) <;> exact ⟨_, h⟩

lemma exists_kind {P : Kind → Prop} : (∃ k, P k) ↔ P .alert ∨ P .heartbeat :=
  ⟨fun ⟨k, h⟩ => by cases k <;> simp [h], fun h => h.elim (⟨_, ·⟩) (⟨_, ·⟩)⟩

lemma mem_processes {q : Process} : (∃ o, q ∈ processesOf m o) ↔ q ∈ processes m := by
  simp only [exists_owner, processesOf, exists_chosen, exists_kind]
  cases m with
  | alert a =>
    simp [processes, analyzersOf, sourcesOf, targetsOf, alertsOf, heartbeatsOf]
  | heartbeat h => simp [processes, analyzersOf, sourcesOf, targetsOf, alertsOf, heartbeatsOf]

variable [L : Libprelude]

omit L in
lemma numbered_nil_iff {α : Type} {xs : List α} : numbered 0 xs = [] ↔ xs = [] := by
  cases xs with
  | nil => exact iff_of_true rfl rfl
  | cons x xs => exact iff_of_false nofun nofun

lemma args_nil_iff : (∀ o i, group m (.processArg o i) = []) ↔ ∀ q ∈ processes m, q.args = [] := by
  simp only [group, List.flatMap_eq_nil_iff, List.map_eq_nil_iff, numbered_nil_iff, ← mem_processes]
  exact ⟨fun h q ⟨o, hq⟩ => h o 0 q hq, fun h o _ q hq => h q ⟨o, hq⟩⟩

lemma env_nil_iff : (∀ o i, group m (.processEnv o i) = []) ↔ ∀ q ∈ processes m, q.env = [] := by
  simp only [group, List.flatMap_eq_nil_iff, List.map_eq_nil_iff, numbered_nil_iff, ← mem_processes]
  exact ⟨fun h q ⟨o, hq⟩ => h o 0 q hq, fun h o _ q hq => h q ⟨o, hq⟩⟩

lemma alertidents_nil_iff : (∀ i, group m (.toolAlertident i) = []) ↔
    ∀ t ∈ toolAlerts m, t.alertidents = [] := by
  simp only [group, List.flatMap_eq_nil_iff, List.map_eq_nil_iff, numbered_nil_iff, toolAlerts,
    List.forall_mem_flatMap]
  exact ⟨fun h => h 0, fun h _ => h⟩

/-- An alert whose source has a process with an argument. -/
def runningAlert : Alert :=
  { classifiedAlert with
    sources := [⟨none, 0, none, none, none, some ⟨none, "sh", none, none, ["-c"], []⟩, none⟩] }

end Condition

end Preludedb.Classic
