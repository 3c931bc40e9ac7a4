import Preludedb.Classic.JoinedRows

/-! The groups of a message's rows: the elements of one list, which differ in their own index, and
single elements. The rows of a group are found where the message has the list. -/

namespace Preludedb.Classic

open Foundations Sql Idmef

section Lists

variable {α β : Type} {xs : List α} {i : Int}

/-- What a list holds under an index; under -1, its last element. -/
def chosen (xs : List α) (i : Int) : List α :=
  ((listed xs).filter fun x => decide (x.1 = i)).map Prod.snd

lemma numbered_eq (i : Int) (xs : List α) :
    numbered i xs = xs.mapIdx fun n x => (i + (n : Int), x) := by
  induction xs generalizing i with
  | nil => rfl
  | cons x xs ih =>
    rw [numbered, ih, List.mapIdx_cons]
    refine List.cons_eq_cons.mpr ⟨by simp, List.mapIdx_eq_mapIdx_iff.mpr fun n _ => ?_⟩
    rw [add_assoc, add_comm 1, Nat.cast_succ]

lemma le_of_mem_numbered {x : Int × α} (h : x ∈ numbered i xs) : i ≤ x.1 := by
  rw [numbered_eq] at h
  obtain ⟨n, hn, rfl⟩ := List.mem_mapIdx.mp h
  exact le_add_of_nonneg_right (Int.natCast_nonneg n)

lemma numbered_sorted (i : Int) (xs : List α) : (numbered i xs).Pairwise fun x y => x.1 < y.1 := by
  induction xs generalizing i with
  | nil => exact .nil
  | cons x xs ih =>
    refine .cons (fun y hy => ?_) (ih (i + 1))
    have hle := le_of_mem_numbered hy
    exact lt_of_lt_of_le (lt_add_one i) hle

/-- Only the copy of the last element has a negative index. -/
lemma listed_ne_last (xs : List α) :
    (listed xs).filter (fun x => decide (x.1 ≠ -1)) = numbered 0 xs := by
  have hnumbered : (numbered 0 xs).filter (fun x => decide (x.1 ≠ -1)) = numbered 0 xs :=
    List.filter_eq_self.mpr fun x hx => by
      have hle := le_of_mem_numbered hx
      exact decide_eq_true (by omega)
  rw [listed, List.filter_append, hnumbered]
  cases xs.getLast? <;> simp

lemma listed_last (xs : List α) :
    (listed xs).filter (fun x => decide (x.1 = -1)) = xs.getLast?.toList.map fun x => (-1, x) := by
  have hnumbered : (numbered 0 xs).filter (fun x => decide (x.1 = -1)) = [] :=
    List.filter_eq_nil_iff.mpr fun x hx h => by
      have hle := le_of_mem_numbered hx
      have heq := of_decide_eq_true h
      omega
  rw [listed, List.filter_append, hnumbered]
  cases xs.getLast? <;> simp

lemma listed_nodup (xs : List α) : ((listed xs).map Prod.fst).Nodup := by
  have hnumbered : ((numbered 0 xs).map Prod.fst).Nodup :=
    List.pairwise_map.mpr ((numbered_sorted 0 xs).imp fun h => ne_of_lt h)
  rw [listed, List.map_append, List.nodup_append']
  refine ⟨hnumbered, ?_, ?_⟩
  · cases xs.getLast? <;> simp
  · intro i hi hlast
    obtain ⟨x, hx, rfl⟩ := List.mem_map.mp hi
    have hle := le_of_mem_numbered hx
    have hneg : x.1 = -1 := by
      cases hl : xs.getLast? with
      | none => simp [hl] at hlast
      | some y => simpa [hl] using hlast
    omega

/-- An index is that of one element. -/
lemma chosen_length (xs : List α) (i : Int) : (chosen xs i).length ≤ 1 := by
  have hnodup := (listed_nodup xs).filter (fun j => decide (j = i))
  have hall : ∀ j ∈ ((listed xs).map Prod.fst).filter (fun j => decide (j = i)), j = i := fun j hj =>
    of_decide_eq_true (List.mem_filter.mp hj).2
  have hlength : (((listed xs).map Prod.fst).filter fun j => decide (j = i)).length ≤ 1 := by
    rw [List.eq_replicate_of_mem hall, List.nodup_replicate] at hnodup
    exact hnodup
  rw [chosen, List.length_map]
  rwa [List.filter_map, List.length_map] at hlength

lemma numbered_at (i : Int) (xs : List α) (n : ℕ) :
    ((numbered i xs).filter fun x => decide (x.1 = i + n)).map Prod.snd = xs[n]?.toList := by
  induction xs generalizing i n with
  | nil => rfl
  | cons x xs ih =>
    cases n with
    | zero =>
      have hrest : (numbered (i + 1) xs).filter (fun x => decide (x.1 = i + (0 : ℕ))) = [] :=
        List.filter_eq_nil_iff.mpr fun y hy h => by
          have hle := le_of_mem_numbered hy
          have heq := of_decide_eq_true h
          omega
      rw [numbered, List.filter_cons, if_pos (by simp), hrest]
      rfl
    | succ n =>
      have hsucc : i + 1 + (n : Int) = i + (n + 1 : ℕ) := by omega
      have hrest := ih (i + 1) n
      rw [hsucc] at hrest
      rw [numbered, List.filter_cons, if_neg (by simpa using by omega), hrest]
      rfl

lemma chosen_nth (xs : List α) (n : ℕ) : chosen xs n = xs[n]?.toList := by
  have hlast : (xs.getLast?.toList.map fun x => (-1, x)).filter
      (fun x : Int × α => decide (x.1 = n)) = [] :=
    List.filter_eq_nil_iff.mpr fun y hy h => by
      obtain ⟨x, -, rfl⟩ := List.mem_map.mp hy
      have heq := of_decide_eq_true h
      simp only at heq
      omega
  have hnumbered := numbered_at 0 xs n
  rw [zero_add] at hnumbered
  rw [chosen, listed, List.filter_append, hlast, List.append_nil, hnumbered]

lemma chosen_last (xs : List α) : chosen xs (-1) = xs.getLast?.toList := by
  rw [chosen, listed_last]
  cases xs.getLast? <;> rfl

/-- What is found below the elements of a list is found below one of them. -/
lemma filter_flatMap_listed {x : List α} {g : Int → α → List β} {P : β → Bool}
    (h : ∀ j x, ∀ y ∈ g j x, P y = true → j = i) :
    ((listed x).flatMap fun x => g x.1 x.2).filter P = (chosen x i).flatMap fun x => (g i x).filter P := by
  rw [List.filter_flatMap, chosen, List.flatMap_map]
  induction listed x with
  | nil => rfl
  | cons x l ih =>
    rw [List.flatMap_cons, ih, List.filter_cons]
    by_cases hx : x.1 = i
    · rw [if_pos (decide_eq_true hx), List.flatMap_cons, hx]
    · have hnone : (g x.1 x.2).filter P = [] :=
        List.filter_eq_nil_iff.mpr fun y hy hP => hx (h x.1 x.2 y hy hP)
      rw [if_neg (by simpa using hx), hnone]
      rfl

end Lists

namespace Element

/-- The element of the same list under another index; a single element is the same. -/
def withIndex : Element → Int → Element
  | action _, i => action i
  | toolAlertident _, i => toolAlertident i
  | correlationAlertident _, i => correlationAlertident i
  | analyzer k _, i => analyzer k i
  | source _, i => source i
  | target _, i => target i
  | address o _, i => address o i
  | processArg o _, i => processArg o i
  | processEnv o _, i => processEnv o i
  | userId p _, i => userId p i
  | webServiceArg p _, i => webServiceArg p i
  | file t _, i => file t i
  | fileAccess t f _, i => fileAccess t f i
  | permission t f a _, i => permission t f a i
  | linkage t f _, i => linkage t f i
  | checksum t f _, i => checksum t f i
  | reference _, i => reference i
  | additionalData k _, i => additionalData k i
  | e, _ => e

/-- The analyzer, source or target the element is a part of. -/
def ownerOf : Element → Option Owner
  | node o | address o _ | process o | processArg o _ | processEnv o _ => some o
  | user p | userId p _ | service p | webService p | webServiceArg p _ | snmpService p =>
    some (.party p)
  | _ => none

/-- The file the element is a part of. -/
def fileOf : Element → Option (Int × Int)
  | fileAccess t f _ | permission t f _ _ | accessUserId t f _ | linkage t f _ | inode t f
  | checksum t f _ => some (t, f)
  | _ => none

lemma withIndex_ownerOf (e : Element) (i : Int) : (e.withIndex i).ownerOf = e.ownerOf := by
  cases e <;> rfl

lemma withIndex_fileOf (e : Element) (i : Int) : (e.withIndex i).fileOf = e.fileOf := by
  cases e <;> rfl

lemma withIndex_table (e : Element) (i : Int) : (e.withIndex i).table = e.table := by
  cases e <;> rfl

end Element

section Groups

/-- The entries of the list, or the single entry, that `s` belongs to. -/
def inGroup (s : Element) (es : List Entry) : List Entry :=
  es.filter fun x => decide (x.element.withIndex 0 = s.withIndex 0)

variable {s : Element} {es es' : List Entry} {x : Entry}

lemma inGroup_append : inGroup s (es ++ es') = inGroup s es ++ inGroup s es' :=
  List.filter_append es es'

lemma same_tags {e : Element} (h : e.withIndex 0 = s.withIndex 0) :
    e.ownerOf = s.ownerOf ∧ e.fileOf = s.fileOf ∧ e.table = s.table := by
  refine ⟨?_, ?_, ?_⟩
  · rw [← e.withIndex_ownerOf 0, h, s.withIndex_ownerOf]
  · rw [← e.withIndex_fileOf 0, h, s.withIndex_fileOf]
  · rw [← e.withIndex_table 0, h, s.withIndex_table]

lemma inGroup_of_owner (h : ∀ x ∈ es, x.element.ownerOf ≠ s.ownerOf) : inGroup s es = [] :=
  List.filter_eq_nil_iff.mpr fun x hx hs => h x hx (same_tags (of_decide_eq_true hs)).1

lemma inGroup_of_file (h : ∀ x ∈ es, x.element.fileOf ≠ s.fileOf) : inGroup s es = [] :=
  List.filter_eq_nil_iff.mpr fun x hx hs => h x hx (same_tags (of_decide_eq_true hs)).2.1

lemma inGroup_of_table (h : ∀ x ∈ es, x.element.table ≠ s.table) : inGroup s es = [] :=
  List.filter_eq_nil_iff.mpr fun x hx hs => h x hx (same_tags (of_decide_eq_true hs)).2.2

end Groups

section Tags

variable [L : Libprelude]

/-- The element stands for itself: it is part of no analyzer, source, target or file. -/
def Element.Plain (e : Element) : Prop := e.ownerOf = none ∧ e.fileOf = none

lemma nodeEntries_owner (o : Owner) (n : Node) :
    ∀ x ∈ nodeEntries o n, x.element.ownerOf = some o ∧ x.element.fileOf = none := by
  simp only [nodeEntries, List.forall_mem_cons, List.forall_mem_map]
  exact ⟨⟨rfl, rfl⟩, fun _ _ => ⟨rfl, rfl⟩⟩

lemma userEntries_owner (p : Party) (u : User) :
    ∀ x ∈ userEntries p u, x.element.ownerOf = some (.party p) ∧ x.element.fileOf = none := by
  simp only [userEntries, List.forall_mem_cons, List.forall_mem_map]
  exact ⟨⟨rfl, rfl⟩, fun _ _ => ⟨rfl, rfl⟩⟩

omit L in
lemma processEntries_owner (o : Owner) (p : Process) :
    ∀ x ∈ processEntries o p, x.element.ownerOf = some o ∧ x.element.fileOf = none := by
  simp only [processEntries, List.cons_append, List.forall_mem_cons, List.forall_mem_append,
    List.forall_mem_map]
  exact ⟨⟨rfl, rfl⟩, fun _ _ => ⟨rfl, rfl⟩, fun _ _ => ⟨rfl, rfl⟩⟩

omit L in
lemma serviceEntries_owner (p : Party) (s : Service) :
    ∀ x ∈ serviceEntries p s, x.element.ownerOf = some (.party p) ∧ x.element.fileOf = none := by
  simp only [serviceEntries, List.forall_mem_cons]
  refine ⟨⟨rfl, rfl⟩, ?_⟩
  cases s.type with
  | default => exact List.forall_mem_nil _
  | web w =>
    simp only [serviceTypeEntries, webServiceEntries, List.forall_mem_cons, List.forall_mem_map]
    exact ⟨⟨rfl, rfl⟩, fun _ _ => ⟨rfl, rfl⟩⟩
  | snmp m => exact List.forall_mem_singleton.mpr ⟨rfl, rfl⟩

lemma ownedEntries_owner (p : Party) (node : Option Node) (user : Option User)
    (process : Option Process) (service : Option Service) :
    ∀ x ∈ ownedEntries p node user process service,
      x.element.ownerOf = some (.party p) ∧ x.element.fileOf = none := by
  simp only [ownedEntries, List.forall_mem_append, List.forall_mem_flatMap]
  exact ⟨⟨⟨fun n _ => nodeEntries_owner (.party p) n, fun u _ => userEntries_owner p u⟩,
    fun q _ => processEntries_owner (.party p) q⟩, fun s _ => serviceEntries_owner p s⟩

/-! The entries of the objects themselves, without those of their parts. -/

def fileAccessEntry (t f i : Int) (a : FileAccess) : Entry :=
  (fileAccessEntries t f i a).head (List.cons_ne_nil _ _)

def fileEntry (t i : Int) (f : File) : Entry := (fileEntries t i f).head (List.cons_ne_nil _ _)

def sourceEntry (i : Int) (s : Source) : Entry := (sourceEntries i s).head (List.cons_ne_nil _ _)

def targetEntry (i : Int) (t : Target) : Entry := (targetEntries i t).head (List.cons_ne_nil _ _)

def analyzerEntry (k : Kind) (i : Int) (a : Analyzer) : Entry :=
  (analyzerEntries k i a).head (List.cons_ne_nil _ _)

/-- The entries of the parts of a file. -/
def filePartEntries (t i : Int) (f : File) : List Entry := (fileEntries t i f).tail

def analyzerPartEntries (k : Kind) (i : Int) (a : Analyzer) : List Entry :=
  (analyzerEntries k i a).tail

lemma filePartEntries_tags (t i : Int) (f : File) :
    ∀ x ∈ filePartEntries t i f, x.element.ownerOf = none ∧ x.element.fileOf = some (t, i) := by
  simp only [filePartEntries, fileEntries, fileAccessEntries, List.cons_append, List.tail_cons,
    List.forall_mem_cons, List.forall_mem_append, List.forall_mem_map, List.forall_mem_flatMap]
  exact ⟨⟨⟨fun _ _ => ⟨⟨rfl, rfl⟩, fun _ _ => ⟨rfl, rfl⟩, ⟨rfl, rfl⟩, List.forall_mem_nil _⟩,
    fun _ _ => ⟨rfl, rfl⟩⟩, fun _ _ => ⟨rfl, rfl⟩⟩, fun _ _ => ⟨rfl, rfl⟩⟩

lemma analyzerPartEntries_tags (k : Kind) (i : Int) (a : Analyzer) :
    ∀ x ∈ analyzerPartEntries k i a,
      x.element.ownerOf = some (.analyzer k i) ∧ x.element.fileOf = none := by
  simp only [analyzerPartEntries, analyzerEntries, List.cons_append, List.tail_cons,
    List.forall_mem_append, List.forall_mem_flatMap]
  exact ⟨fun n _ => nodeEntries_owner (.analyzer k i) n,
    fun p _ => processEntries_owner (.analyzer k i) p⟩

/-- What is stored for an alert before its analyzers, and after its targets. -/
def leadingEntries (a : Alert) : List Entry :=
  timeEntry (.createTime .alert) a.createTime ::
  a.detectTime.toList.map (timeEntry .detectTime) ++
  a.analyzerTime.toList.map (timeEntry (.analyzerTime .alert)) ++
  a.assessment.toList.flatMap assessmentEntries ++
  alertTypeEntries a.type

def trailingEntries (a : Alert) : List Entry :=
  a.classification.toList.flatMap classificationEntries ++
  (listed a.additionalData).map fun x => additionalDataEntry .alert x.1 x.2

lemma leadingEntries_plain (a : Alert) : ∀ x ∈ leadingEntries a, x.element.Plain := by
  simp only [leadingEntries, List.cons_append, List.forall_mem_cons, List.forall_mem_append,
    List.forall_mem_map, List.forall_mem_flatMap, assessmentEntries]
  refine ⟨⟨rfl, rfl⟩, ⟨⟨fun _ _ => ⟨rfl, rfl⟩, fun _ _ => ⟨rfl, rfl⟩⟩, fun _ _ => ⟨⟨rfl, rfl⟩,
    ⟨fun _ _ => ⟨rfl, rfl⟩, fun _ _ => ⟨rfl, rfl⟩⟩, fun _ _ => ⟨rfl, rfl⟩⟩⟩, ?_⟩
  cases a.type with
  | default => exact List.forall_mem_nil _
  | tool t =>
    simp only [alertTypeEntries, toolAlertEntries, List.forall_mem_cons, List.forall_mem_map]
    exact ⟨⟨rfl, rfl⟩, fun _ _ => ⟨rfl, rfl⟩⟩
  | overflow o => exact List.forall_mem_singleton.mpr ⟨rfl, rfl⟩
  | correlation c =>
    simp only [alertTypeEntries, correlationAlertEntries, List.forall_mem_cons, List.forall_mem_map]
    exact ⟨⟨rfl, rfl⟩, fun _ _ => ⟨rfl, rfl⟩⟩

lemma trailingEntries_plain (a : Alert) : ∀ x ∈ trailingEntries a, x.element.Plain := by
  simp only [trailingEntries, List.forall_mem_append, List.forall_mem_map, List.forall_mem_flatMap,
    classificationEntries, List.forall_mem_cons]
  exact ⟨fun _ _ => ⟨⟨rfl, rfl⟩, fun _ _ => ⟨rfl, rfl⟩⟩, fun _ _ => ⟨rfl, rfl⟩⟩

lemma sourceEntries_tags (i : Int) (s : Source) : ∀ x ∈ sourceEntries i s,
    x.element = .source i ∨ x.element.ownerOf = some (.party (.source i)) ∧ x.element.fileOf = none := by
  intro x hx
  rcases List.mem_cons.mp hx with rfl | hx
  · exact .inl rfl
  · exact .inr (ownedEntries_owner _ _ _ _ _ x hx)

lemma analyzerEntries_tags (k : Kind) (i : Int) (a : Analyzer) : ∀ x ∈ analyzerEntries k i a,
    x.element = .analyzer k i ∨ x.element.ownerOf = some (.analyzer k i) ∧ x.element.fileOf = none := by
  intro x hx
  rcases List.mem_cons.mp hx with rfl | hx
  · exact .inl rfl
  · exact .inr (analyzerPartEntries_tags k i a x hx)

lemma fileEntries_tags (t i : Int) (f : File) : ∀ x ∈ fileEntries t i f,
    x.element = .file t i ∨ x.element.ownerOf = none ∧ x.element.fileOf = some (t, i) := by
  intro x hx
  rcases List.mem_cons.mp hx with rfl | hx
  · exact .inl rfl
  · exact .inr (filePartEntries_tags t i f x hx)

lemma targetEntries_eq (i : Int) (t : Target) : targetEntries i t = [targetEntry i t] ++
    ownedEntries (.target i) t.node t.user t.process t.service ++
    (listed t.files).flatMap fun x => fileEntries i x.1 x.2 := rfl

lemma targetEntries_tags (i : Int) (t : Target) : ∀ x ∈ targetEntries i t, x.element = .target i ∨
    x.element.ownerOf = some (.party (.target i)) ∧ x.element.fileOf = none ∨
    ∃ f, x.element = .file i f ∨ x.element.ownerOf = none ∧ x.element.fileOf = some (i, f) := by
  intro x hx
  rw [targetEntries_eq] at hx
  rcases List.mem_append.mp hx with hx | hx
  · rcases List.mem_append.mp hx with hx | hx
    · obtain rfl := List.mem_singleton.mp hx
      exact .inl rfl
    · exact .inr (.inl (ownedEntries_owner _ _ _ _ _ x hx))
  · obtain ⟨f, -, hx⟩ := List.mem_flatMap.mp hx
    exact .inr (.inr ⟨f.1, fileEntries_tags i f.1 f.2 x hx⟩)

lemma alertEntries_eq (a : Alert) : alertEntries a = leadingEntries a ++
    (listed a.analyzers).flatMap (fun x => analyzerEntries .alert x.1 x.2) ++
    (listed a.sources).flatMap (fun x => sourceEntries x.1 x.2) ++
    (listed a.targets).flatMap (fun x => targetEntries x.1 x.2) ++ trailingEntries a := by
  simp only [alertEntries, leadingEntries, trailingEntries, List.append_assoc, List.cons_append]

variable {s : Element} {a : Alert}

/-- The parts of a file are found below its target. -/
lemma inGroup_file {t f : Int} (hs : s.fileOf = some (t, f)) : inGroup s (alertEntries a) =
    (chosen a.targets t).flatMap fun target => (chosen target.files f).flatMap fun file =>
      inGroup s (filePartEntries t f file) := by
  have hplain : ∀ {es : List Entry}, (∀ x ∈ es, x.element.fileOf = none) → inGroup s es = [] :=
    fun h => inGroup_of_file fun x hx => by
      rw [h x hx, hs]
      nofun
  have hleading := hplain fun x hx => (leadingEntries_plain a x hx).2
  have htrailing := hplain fun x hx => (trailingEntries_plain a x hx).2
  have hanalyzers : inGroup s ((listed a.analyzers).flatMap fun x => analyzerEntries .alert x.1 x.2) = [] :=
    hplain (List.forall_mem_flatMap.mpr fun y _ x hx => by
      rcases analyzerEntries_tags .alert y.1 y.2 x hx with h | h
      · rw [h]
        rfl
      · exact h.2)
  have hsources : inGroup s ((listed a.sources).flatMap fun x => sourceEntries x.1 x.2) = [] :=
    hplain (List.forall_mem_flatMap.mpr fun y _ x hx => by
      rcases sourceEntries_tags y.1 y.2 x hx with h | h
      · rw [h]
        rfl
      · exact h.2)
  have hparts : ∀ (i : Int) (file : File), inGroup s (fileEntries t i file) =
      inGroup s (filePartEntries t i file) := fun i file => by
    have hhead : (fileEntry t i file).element.fileOf = none := rfl
    rw [show fileEntries t i file = [fileEntry t i file] ++ filePartEntries t i file from rfl,
      inGroup_append, hplain (List.forall_mem_singleton.mpr hhead), List.nil_append]
  have htarget : ∀ target : Target, inGroup s (targetEntries t target) =
      (chosen target.files f).flatMap fun file => inGroup s (filePartEntries t f file) := by
    intro target
    have hhead : (targetEntry t target).element.fileOf = none := rfl
    have hfiles : inGroup s ((listed target.files).flatMap fun x => fileEntries t x.1 x.2) =
        (chosen target.files f).flatMap fun file => inGroup s (fileEntries t f file) :=
      filter_flatMap_listed fun j file x hx hP => by
        obtain ⟨-, hfile, -⟩ := same_tags (of_decide_eq_true hP)
        rcases fileEntries_tags t j file x hx with h | h
        · rw [h, hs] at hfile
          cases hfile
        · rw [h.2, hs] at hfile
          exact (Prod.mk.inj (Option.some.inj hfile)).2
    rw [targetEntries_eq, inGroup_append, inGroup_append, hplain (List.forall_mem_singleton.mpr hhead),
      hplain fun x hx => (ownedEntries_owner _ _ _ _ _ x hx).2, hfiles]
    simp only [hparts, List.nil_append]
  have htargets : inGroup s ((listed a.targets).flatMap fun x => targetEntries x.1 x.2) =
      (chosen a.targets t).flatMap fun target => inGroup s (targetEntries t target) :=
    filter_flatMap_listed fun j target x hx hP => by
      obtain ⟨-, hfile, -⟩ := same_tags (of_decide_eq_true hP)
      rw [hs] at hfile
      rcases targetEntries_tags j target x hx with h | h | ⟨f', h | h⟩
      · rw [h] at hfile
        cases hfile
      · rw [h.2] at hfile
        cases hfile
      · rw [h] at hfile
        cases hfile
      · rw [h.2] at hfile
        exact (Prod.mk.inj (Option.some.inj hfile)).1
  rw [alertEntries_eq, inGroup_append, inGroup_append, inGroup_append, inGroup_append, hleading,
    hanalyzers, hsources, htrailing, htargets]
  simp only [htarget, List.nil_append, List.append_nil]

section Owned

variable {α : Type} {xs : List α} {g : Int → α → List Entry} {mk : Int → Owner} {i : Int} {o : Owner}

/-- The entries for each element of a list are those of an owner, and others that have none. -/
def Owned (mk : Int → Owner) (g : Int → α → List Entry) : Prop :=
  ∀ i x, ∀ y ∈ g i x, y.element.ownerOf = some (mk i) ∨ y.element.ownerOf = none

omit L in
lemma Owned.chosen (h : Owned mk g) (l : List α) (hmk : mk.Injective) (hs : s.ownerOf = some (mk i)) :
    inGroup s ((listed l).flatMap fun x => g x.1 x.2) =
      (chosen l i).flatMap fun x => inGroup s (g i x) :=
  filter_flatMap_listed fun j x y hy hP => by
    obtain ⟨howner, -, -⟩ := same_tags (of_decide_eq_true hP)
    rw [hs] at howner
    rcases h j x y hy with h | h
    · rw [h] at howner
      exact hmk (Option.some.inj howner)
    · rw [h] at howner
      cases howner

omit L in
lemma Owned.none (h : Owned mk g) (hs : s.ownerOf = some o) (ho : ∀ i, mk i ≠ o) :
    inGroup s ((listed xs).flatMap fun x => g x.1 x.2) = [] := by
  refine inGroup_of_owner (List.forall_mem_flatMap.mpr fun x _ y hy => ?_)
  rw [hs]
  rcases h x.1 x.2 y hy with h | h
  · rw [h]
    exact fun he => ho x.1 (Option.some.inj he)
  · rw [h]
    nofun

lemma analyzers_owned (k : Kind) : Owned (.analyzer k) (analyzerEntries k) := fun i x y hy => by
  rcases analyzerEntries_tags k i x y hy with h | h
  · exact .inr (by rw [h]; rfl)
  · exact .inl h.1

lemma sources_owned : Owned (fun i => .party (.source i)) sourceEntries := fun i x y hy => by
  rcases sourceEntries_tags i x y hy with h | h
  · exact .inr (by rw [h]; rfl)
  · exact .inl h.1

lemma targets_owned : Owned (fun i => .party (.target i)) targetEntries := fun i x y hy => by
  rcases targetEntries_tags i x y hy with h | h | ⟨f, h | h⟩
  · exact .inr (by rw [h]; rfl)
  · exact .inl h.1
  · exact .inr (by rw [h]; rfl)
  · exact .inr h.1

/-- The parts of an owner are found among the analyzers, the sources and the targets. -/
lemma inGroup_owned (hs : s.ownerOf = some o) : inGroup s (alertEntries a) =
    inGroup s ((listed a.analyzers).flatMap fun x => analyzerEntries .alert x.1 x.2) ++
    inGroup s ((listed a.sources).flatMap fun x => sourceEntries x.1 x.2) ++
    inGroup s ((listed a.targets).flatMap fun x => targetEntries x.1 x.2) := by
  have hplain : ∀ {es : List Entry}, (∀ x ∈ es, x.element.Plain) → inGroup s es = [] :=
    fun h => inGroup_of_owner fun x hx => by
      rw [(h x hx).1, hs]
      nofun
  rw [alertEntries_eq, inGroup_append, inGroup_append, inGroup_append, inGroup_append,
    hplain (leadingEntries_plain a), hplain (trailingEntries_plain a), List.nil_append,
    List.append_nil]

omit L in
lemma inGroup_headless {e : Entry} {es : List Entry} (hs : s.ownerOf = some o)
    (he : e.element.ownerOf = .none) : inGroup s (e :: es) = inGroup s es := by
  have hhead : inGroup s [e] = [] := inGroup_of_owner (List.forall_mem_singleton.mpr (by
    rw [he, hs]
    nofun))
  rw [← List.singleton_append, inGroup_append, hhead, List.nil_append]

lemma inGroup_source (hs : s.ownerOf = some (.party (.source i))) : inGroup s (alertEntries a) =
    (chosen a.sources i).flatMap fun x =>
      inGroup s (ownedEntries (.source i) x.node x.user x.process x.service) := by
  have hchosen := (sources_owned (L := L)).chosen a.sources (fun _ _ h => by simpa using h) hs
  rw [inGroup_owned hs, (analyzers_owned .alert).none hs (fun _ => nofun),
    targets_owned.none hs (fun _ => nofun), hchosen, List.nil_append, List.append_nil]
  refine List.flatMap_congr fun x _ => inGroup_headless hs rfl

lemma inGroup_target (hs : s.ownerOf = some (.party (.target i))) : inGroup s (alertEntries a) =
    (chosen a.targets i).flatMap fun x =>
      inGroup s (ownedEntries (.target i) x.node x.user x.process x.service) := by
  have hchosen := (targets_owned (L := L)).chosen a.targets (fun _ _ h => by simpa using h) hs
  have hfiles : ∀ files : List File,
      inGroup s ((listed files).flatMap fun x => fileEntries i x.1 x.2) = [] := fun files =>
    inGroup_of_owner (List.forall_mem_flatMap.mpr fun f _ x hx => by
      rw [hs]
      rcases fileEntries_tags i f.1 f.2 x hx with h | h
      · rw [h]
        nofun
      · rw [h.1]
        nofun)
  rw [inGroup_owned hs, (analyzers_owned .alert).none hs (fun _ => nofun),
    sources_owned.none hs (fun _ => nofun), hchosen, List.nil_append, List.nil_append]
  refine List.flatMap_congr fun x _ => ?_
  rw [targetEntries_eq, inGroup_append, hfiles, List.append_nil]
  exact inGroup_headless hs rfl

lemma inGroup_analyzer (hs : s.ownerOf = some (.analyzer .alert i)) : inGroup s (alertEntries a) =
    (chosen a.analyzers i).flatMap fun x => inGroup s (analyzerPartEntries .alert i x) := by
  have hchosen := (analyzers_owned (L := L) .alert).chosen a.analyzers
    (fun _ _ h => by simpa using h) hs
  rw [inGroup_owned hs, sources_owned.none hs (fun _ => nofun),
    targets_owned.none hs (fun _ => nofun), hchosen, List.append_nil, List.append_nil]
  refine List.flatMap_congr fun x _ => inGroup_headless hs rfl

lemma inGroup_heartbeat_analyzer {h : Heartbeat} (hs : s.ownerOf = some (.analyzer .heartbeat i)) :
    inGroup s (heartbeatEntries h) =
      (chosen h.analyzers i).flatMap fun x => inGroup s (analyzerPartEntries .heartbeat i x) := by
  have hchosen := (analyzers_owned (L := L) .heartbeat).chosen h.analyzers
    (fun _ _ h => by simpa using h) hs
  have hrest : ∀ {es : List Entry}, (∀ x ∈ es, x.element.ownerOf = .none) → inGroup s es = [] :=
    fun h => inGroup_of_owner fun x hx => by
      rw [h x hx, hs]
      nofun
  rw [heartbeatEntries, inGroup_append, inGroup_append, inGroup_append, hchosen,
    hrest (List.forall_mem_singleton.mpr rfl), hrest (List.forall_mem_map.mpr fun _ _ => rfl),
    hrest (List.forall_mem_map.mpr fun _ _ => rfl), List.append_nil, List.append_nil, List.append_nil]
  refine List.flatMap_congr fun x _ => inGroup_headless hs rfl

end Owned

end Tags

end Preludedb.Classic
