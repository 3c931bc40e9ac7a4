import Preludedb.Classic.Denoted

/-! Every explicit path to a value names an element, and its join selects the rows that were
written for the element. -/

namespace Preludedb.Classic

open Foundations Sql Idmef

section Coverage

/-- The element a path below a message of the kind names a value of. -/
def Named (k : Kind) (below : List PathElement) : Prop :=
  ∃ e : Element, e.kind = k ∧ if e.isValue then below = e.place
    else ∃ c, ∃ child ∈ Class.children c, ∃ v, child.listed = false ∧ child.type = .value v ∧
      (e.place.getLast?.bind fun n => n.type.class?) = some c ∧
      below = e.place ++ [child.at .forbidden]

/-- The path does not enter the file of a linkage. -/
def OutsideLinkages (below : List PathElement) : Prop := object .file ∉ below

def EndsInValue (below : List PathElement) : Prop :=
  ∃ n v, below.getLast? = some n ∧ n.type = .value v

/-- Every value below an object at the place is one of an element. -/
def Covered (k : Kind) (place : List PathElement) (c : Idmef.Class) : Prop :=
  ∀ below, Leads c below → EndsInValue below → Explicit below → OutsideLinkages below →
    Named k (place ++ below)

lemma index_of_explicit {child : Child} {index : Index}
    (hi : index = .forbidden ↔ child.listed = false) (hx : index ≠ .last ∧ index ≠ .undefined) :
    (child.listed = false ∧ index = .forbidden) ∨
      (child.listed = true ∧ ∃ i : ℕ, index = indexOf i) := by
  cases hl : child.listed with
  | false => exact .inl ⟨rfl, hi.mpr hl⟩
  | true =>
    right
    cases index with
    | forbidden => rw [hi.mp rfl] at hl; cases hl
    | undefined => exact absurd rfl hx.2
    | last => exact absurd rfl hx.1
    | nth n => exact ⟨rfl, n, rfl⟩

lemma child_of_class {c c' : Idmef.Class} {child : Child} (h : child ∈ c.children)
    (ht : child.type = .class c') :
    child = if child.listed then Child.objects c' else Child.object c' := by
  have hall : ∀ c : Idmef.Class, ∀ child ∈ c.children, child.type.class?.all fun c' =>
      child = if child.listed then Child.objects c' else Child.object c' := by
    intro c
    cases c <;> decide
  have hchild := hall c child h
  rw [ht] at hchild
  simpa [ChildType.class?] using hchild

/-- The objects among the children of a class: whether they are listed, and their class. -/
def Class.objects (c : Idmef.Class) : List (Bool × Idmef.Class) :=
  c.children.filterMap fun child => child.type.class?.map fun c' => (child.listed, c')

def Class.strings (c : Idmef.Class) : List String :=
  (c.children.filter fun child => child.listed && child.type.class?.isNone).map Child.name

lemma child_of_strings {c : Idmef.Class} {child : Child} {v : ValueType} (h : child ∈ c.children)
    (hl : child.listed = true) (ht : child.type = .value v) : child = Child.strings child.name := by
  have hall : ∀ c : Idmef.Class, ∀ child ∈ c.children, child.listed = true →
      child.type.class?.isNone → child = Child.strings child.name := by
    intro c
    cases c <;> decide
  exact hall c child h hl (by rw [ht]; rfl)

variable {k : Kind} {place : List PathElement} {c : Idmef.Class}

/-- The values below the children of one kind and class. -/
def Below (k : Kind) (place : List PathElement) : Bool × Idmef.Class → Prop
  | (true, c) => ∀ i : ℕ, Covered k (place ++ [objectAt c i]) c
  | (false, c) => c ≠ .file → Covered k (place ++ [object c]) c

lemma named_below {c' : Idmef.Class} {child : Child} {index : Index} {rest : List PathElement}
    (h : child ∈ c.children) (hi : index = .forbidden ↔ child.listed = false)
    (ht : child.type = .class c') (hrest : Leads c' rest)
    (hbelow : Below k place (child.listed, c')) (hend : EndsInValue (child.at index :: rest))
    (hx : Explicit (child.at index :: rest)) (hs : OutsideLinkages (child.at index :: rest)) :
    Named k (place ++ child.at index :: rest) := by
  have hend' : EndsInValue rest := by
    obtain ⟨n, v, hn, hv⟩ := hend
    have hne : rest ≠ [] := by cases hrest <;> nofun
    exact ⟨n, v, by rwa [List.getLast?_cons_of_ne_nil hne] at hn, hv⟩
  have hx' : Explicit rest := fun n hn => hx n (List.mem_cons_of_mem _ hn)
  have hs' : OutsideLinkages rest := fun hn => hs (List.mem_cons_of_mem _ hn)
  have hchild := child_of_class h ht
  rw [List.append_cons]
  rcases index_of_explicit hi (hx _ List.mem_cons_self) with ⟨hl, rfl⟩ | ⟨hl, i, rfl⟩
  · rw [hl] at hbelow hchild
    rw [if_neg nofun] at hchild
    subst hchild
    refine hbelow (fun hc => ?_) rest hrest hend' hx' hs'
    subst hc
    exact hs List.mem_cons_self
  · rw [hl] at hbelow hchild
    rw [if_pos rfl] at hchild
    subst hchild
    exact hbelow i rest hrest hend' hx' hs'

lemma mem_objects {c' : Idmef.Class} {child : Child} (h : child ∈ c.children) (ht : child.type = .class c') :
    (child.listed, c') ∈ Class.objects c :=
  List.mem_filterMap.mpr ⟨child, h, by rw [ht]; rfl⟩

lemma covered_of_children
    (hplain : ∀ child ∈ c.children, child.listed = false → ∀ v, child.type = .value v →
      Named k (place ++ [child.at .forbidden]))
    (hstrings : ∀ name ∈ Class.strings c, ∀ i : ℕ, Named k (place ++ [stringAt name i]))
    (hobjects : ∀ x ∈ Class.objects c, Below k place x) : Covered k place c := by
  intro below hbelow hend hx hs
  cases hbelow with
  | @child _ child index h hi =>
    obtain ⟨n, v, hn, hv⟩ := hend
    obtain rfl : child.at index = n := by simpa using hn
    rcases index_of_explicit hi (hx _ List.mem_cons_self) with ⟨hl, rfl⟩ | ⟨hl, i, rfl⟩
    · exact hplain child h hl v hv
    · rw [child_of_strings h hl hv]
      refine hstrings child.name (List.mem_map.mpr ⟨child, List.mem_filter.mpr ⟨h, ?_⟩, rfl⟩) i
      rw [hl, show child.type = .value v from hv]
      rfl
  | @step _ c' child index rest h hi ht hrest =>
    exact named_below h hi ht hrest (hobjects _ (mem_objects h ht)) hend hx hs

/-- The same, for an object that is stored. -/
lemma covered_of_element (e : Element) {l : List String} {r : List (Bool × Idmef.Class)}
    (hs : Class.strings c = l) (ho : Class.objects c = r) (he : e.isValue = false)
    (hclass : (e.place.getLast?.bind fun n => n.type.class?) = some c)
    (hstrings : ∀ name ∈ l, ∀ i : ℕ, Named e.kind (e.place ++ [stringAt name i]))
    (hobjects : ∀ x ∈ r, Below e.kind e.place x) : Covered e.kind e.place c := by
  subst hs ho
  refine covered_of_children (fun child hchild hlisted v hv => ⟨e, rfl, ?_⟩) hstrings hobjects
  rw [he, if_neg nofun]
  exact ⟨c, child, hchild, v, hlisted, hv, hclass, rfl⟩

lemma covered_leaf (e : Element) (hs : Class.strings c = []) (ho : Class.objects c = [])
    (he : e.isValue = false) (hclass : (e.place.getLast?.bind fun n => n.type.class?) = some c) :
    Covered e.kind e.place c :=
  covered_of_element e hs ho he hclass (List.forall_mem_nil _) (List.forall_mem_nil _)

lemma named_value (e : Element) (he : e.isValue = true) : Named e.kind e.place :=
  ⟨e, rfl, by rw [he, if_pos rfl]⟩

lemma Covered.at {place' : List PathElement} (h : Covered k place c) (hp : place = place') :
    Covered k place' c := hp ▸ h

lemma Named.at {below below' : List PathElement} (h : Named k below) (hb : below = below') :
    Named k below' := hb ▸ h

attribute [local simp] Element.place List.forall_mem_cons

lemma address_covered (o : Owner) (i : Int) : Covered o.kind (Element.address o i).place .address :=
  covered_leaf (.address o i) rfl rfl rfl (by simp; rfl)

lemma node_covered (o : Owner) : Covered o.kind (Element.node o).place .node :=
  covered_of_element (.node o) rfl rfl rfl (by simp; rfl) (List.forall_mem_nil _)
    (List.forall_mem_singleton.mpr fun i => (address_covered o i).at (by simp))

lemma process_covered (o : Owner) : Covered o.kind (Element.process o).place .process := by
  refine covered_of_element (.process o) (l := ["arg", "env"]) rfl rfl rfl (by simp; rfl) ?_
    (List.forall_mem_nil _)
  simp only [List.forall_mem_cons]
  refine ⟨fun i => ?_, fun i => ?_, List.forall_mem_nil _⟩
  · exact (named_value (.processArg o i) rfl).at (by simp)
  · exact (named_value (.processEnv o i) rfl).at (by simp)

lemma user_covered (q : Party) : Covered .alert (Element.user q).place .user := by
  refine covered_of_element (.user q) rfl rfl rfl (by simp; rfl) (List.forall_mem_nil _)
    (List.forall_mem_singleton.mpr fun i => ?_)
  exact (covered_leaf (.userId q i) rfl rfl rfl (by simp; rfl)).at (by simp)

lemma service_covered (q : Party) : Covered .alert (Element.service q).place .service := by
  have hweb : Covered .alert (Element.webService q).place .webService := by
    refine covered_of_element (.webService q) (l := ["arg"]) rfl rfl rfl (by simp; rfl) ?_
      (List.forall_mem_nil _)
    exact List.forall_mem_singleton.mpr fun i => (named_value (.webServiceArg q i) rfl).at (by simp)
  refine covered_of_element (.service q) (r := [(false, .webService), (false, .snmpService)])
    rfl rfl rfl (by simp; rfl) (List.forall_mem_nil _) ?_
  simp only [List.forall_mem_cons]
  refine ⟨fun _ => hweb.at (by simp), fun _ => ?_, List.forall_mem_nil _⟩
  exact (covered_leaf (.snmpService q) rfl rfl rfl (by simp; rfl)).at (by simp)

lemma file_covered (t f : Int) : Covered .alert (Element.file t f).place .file := by
  have haccess : ∀ a : ℕ, Covered .alert (Element.fileAccess t f a).place .fileAccess := fun a => by
    refine covered_of_element (.fileAccess t f a) (l := ["permission"])
      rfl rfl rfl rfl ?_ ?_
    · exact List.forall_mem_singleton.mpr fun i =>
        (named_value (.permission t f a i) rfl).at (by simp)
    · exact List.forall_mem_singleton.mpr fun _ =>
        (covered_leaf (.accessUserId t f a) rfl rfl rfl rfl).at (by simp)
  have hlinkage : ∀ l : ℕ, Covered .alert (Element.linkage t f l).place .linkage := fun l =>
    covered_of_element (.linkage t f l) rfl rfl rfl rfl
      (List.forall_mem_nil _) (List.forall_mem_singleton.mpr fun h => absurd rfl h)
  refine covered_of_element (.file t f)
    (r := [(true, .fileAccess), (true, .linkage), (false, .inode), (true, .checksum)])
    rfl rfl rfl rfl (List.forall_mem_nil _) ?_
  simp only [List.forall_mem_cons]
  refine ⟨haccess, hlinkage, fun _ => ?_, fun c => ?_, List.forall_mem_nil _⟩
  · exact covered_leaf (.inode t f) rfl rfl rfl rfl
  · exact covered_leaf (.checksum t f c) rfl rfl rfl rfl

lemma source_covered (i : Int) : Covered .alert (Element.source i).place .source := by
  refine covered_of_element (.source i)
    (r := [(false, .node), (false, .user), (false, .process), (false, .service)])
    rfl rfl rfl rfl (List.forall_mem_nil _) ?_
  simp only [List.forall_mem_cons]
  exact ⟨fun _ => node_covered (.party (.source i)), fun _ => user_covered (.source i),
    fun _ => process_covered (.party (.source i)), fun _ => service_covered (.source i),
    List.forall_mem_nil _⟩

lemma target_covered (i : Int) : Covered .alert (Element.target i).place .target := by
  refine covered_of_element (.target i) (r := [(false, .node), (false, .user), (false, .process),
    (false, .service), (true, .file)]) rfl rfl rfl rfl (List.forall_mem_nil _) ?_
  simp only [List.forall_mem_cons]
  exact ⟨fun _ => node_covered (.party (.target i)), fun _ => user_covered (.target i),
    fun _ => process_covered (.party (.target i)), fun _ => service_covered (.target i),
    fun f => file_covered i f, List.forall_mem_nil _⟩

lemma analyzer_covered (k : Kind) (i : Int) : Covered k (Element.analyzer k i).place .analyzer := by
  refine covered_of_element (.analyzer k i) (r := [(false, .node), (false, .process)])
    rfl rfl rfl rfl (List.forall_mem_nil _) ?_
  simp only [List.forall_mem_cons]
  exact ⟨fun _ => node_covered (.analyzer k i), fun _ => process_covered (.analyzer k i),
    List.forall_mem_nil _⟩

lemma classification_covered : Covered .alert Element.classification.place .classification :=
  covered_of_element .classification rfl rfl rfl rfl (List.forall_mem_nil _)
    (List.forall_mem_singleton.mpr fun i => covered_leaf (.reference i) rfl rfl rfl rfl)

lemma assessment_covered : Covered .alert Element.assessment.place .assessment := by
  refine covered_of_element .assessment
    (r := [(false, .impact), (true, .action), (false, .confidence)]) rfl rfl rfl rfl
    (List.forall_mem_nil _) ?_
  simp only [List.forall_mem_cons]
  exact ⟨fun _ => covered_leaf .impact rfl rfl rfl rfl,
    fun i => covered_leaf (.action i) rfl rfl rfl rfl,
    fun _ => covered_leaf .confidence rfl rfl rfl rfl, List.forall_mem_nil _⟩

lemma toolAlert_covered : Covered .alert Element.toolAlert.place .toolAlert :=
  covered_of_element .toolAlert rfl rfl rfl rfl (List.forall_mem_nil _)
    (List.forall_mem_singleton.mpr fun i => covered_leaf (.toolAlertident i) rfl rfl rfl rfl)

lemma correlationAlert_covered :
    Covered .alert Element.correlationAlert.place .correlationAlert :=
  covered_of_element .correlationAlert rfl rfl rfl rfl (List.forall_mem_nil _)
    (List.forall_mem_singleton.mpr fun i => covered_leaf (.correlationAlertident i) rfl rfl rfl rfl)

lemma message_covered (k : Kind) : ∀ x ∈ Class.objects k.class, Below k [] x := by
  cases k with
  | alert =>
    have ho : Class.objects .alert = [(true, .analyzer), (false, .classification), (true, .source),
      (true, .target), (false, .assessment), (true, .additionalData), (false, .toolAlert),
      (false, .correlationAlert), (false, .overflowAlert)] := rfl
    rw [Kind.class, ho]
    simp only [List.forall_mem_cons]
    exact ⟨fun i => analyzer_covered .alert i, fun _ => classification_covered,
      fun i => source_covered i, fun i => target_covered i, fun _ => assessment_covered,
      fun i => covered_leaf (.additionalData .alert i) rfl rfl rfl rfl, fun _ => toolAlert_covered,
      fun _ => correlationAlert_covered, fun _ => covered_leaf .overflowAlert rfl rfl rfl rfl,
      List.forall_mem_nil _⟩
  | heartbeat =>
    have ho : Class.objects .heartbeat = [(true, .analyzer), (true, .additionalData)] := rfl
    rw [Kind.class, ho]
    simp only [List.forall_mem_cons]
    exact ⟨fun i => analyzer_covered .heartbeat i,
      fun i => covered_leaf (.additionalData .heartbeat i) rfl rfl rfl rfl, List.forall_mem_nil _⟩

/-- The times of a message are stored in tables of their own. -/
lemma time_named {k : Kind} {child : Child} (h : child ∈ k.class.children)
    (ht : child.type = .value .time) : Named k [child.at .forbidden] := by
  have hall : ∀ k : Kind, ∀ child ∈ k.class.children, child.type = .value .time →
      child = Child.time "create_time" ∨ child = Child.time "analyzer_time" ∨
        (k = .alert ∧ child = Child.time "detect_time") := by
    intro k
    cases k <;> decide
  rcases hall k child h ht with rfl | rfl | ⟨rfl, rfl⟩
  · exact named_value (.createTime k) rfl
  · exact named_value (.analyzerTime k) rfl
  · exact named_value .detectTime rfl

/-- The path is resolved through a join. -/
def Joined (p : Path) : Prop := ¬ (p.depth = 2 ∧ p.getValueType ≠ some .time)

lemma exists_denoted {p : Path} {k : Kind} (hk : p.top = k.class) (hv : p.getValueType.isSome)
    (hx : Explicit p.below) (hs : OutsideLinkages p.below) (hj : Joined p) :
    ∃ e : Element, e.kind = k ∧ Denotes p e := by
  obtain ⟨v, hv⟩ := Option.isSome_iff_exists.mp hv
  obtain ⟨n, hn, hnv⟩ := Path.getValueType_eq_some.mp hv
  have hnamed : Named k p.below := by
    have hl := p.leads
    have hend : EndsInValue p.below := ⟨n, v, hn, hnv⟩
    rw [hk] at hl
    rcases hbelow : p.below with _ | ⟨m, below⟩
    · exact absurd hbelow p.below_ne_nil
    rw [hbelow] at hl hend hx hs hn
    cases hl with
    | @child _ child index h hi =>
      obtain rfl : child.at index = n := by simpa using hn
      have htime : v = .time := by
        by_contra hne
        exact hj ⟨by rw [Path.depth, Path.nodes, hbelow]; rfl, by simpa [hv] using hne⟩
      subst htime
      rcases index_of_explicit hi (hx _ List.mem_cons_self) with ⟨hl, rfl⟩ | ⟨hl, -⟩
      · exact time_named h hnv
      · cases (child_of_strings h hl hnv) ▸ hnv
    | @step _ c' child index rest h hi ht hrest =>
      exact named_below h hi ht hrest (message_covered k _ (mem_objects h ht)) hend hx hs
  obtain ⟨e, rfl, he⟩ := hnamed
  exact ⟨e, rfl, hk, he⟩

end Coverage

section Rows

variable [L : Libprelude] {m : Message} {ident id : ℕ} {d : Database} {p : Path} {e : Element}

/-- The rows of a message that is stored under the ident. -/
def rowsFor (m : Message) (ident : ℕ) : List (Table × Row) :=
  ((kindOf m).table, ⟨ident, none, [], none, topFields m⟩) ::
    (entriesOf m).map (entryWrite ident)

/-- The rows of the message in the database are those its insertion writes. -/
def Holds (m : Message) (ident : ℕ) (d : Database) : Prop :=
  ∀ t, rowsOf (kindOf m) ident d t = TableWrite.inserted t (rowsFor m ident)

omit L in
lemma rowsOf_fresh {k : Kind} (h : Fresh k ident d) (t : Table) : rowsOf k ident d t = [] := by
  refine List.filter_eq_nil_iff.mpr fun r hr => ?_
  by_cases hi : r.messageIdent = ident
  · rw [mine, (h t r hr hi).selects_other, Bool.and_false]
    exact Bool.false_ne_true
  · simp [mine, hi]

lemma insertOf_holds {b : Backend} (hf : Fresh (kindOf m) (d.counter (kindOf m)) d)
    (hok : ((insertOf m).run (serve b) d).1 = .ok ()) :
    Holds m (d.counter (kindOf m)) ((insertOf m).run (serve b) d).2 := by
  obtain ⟨-, hd⟩ := insertOf_serve hok
  intro t
  have htables : ((insertOf m).run (serve b) d).2.tables t =
      d.tables t ++ TableWrite.inserted t (rowsFor m (d.counter (kindOf m))) := by
    rw [hd, Database.foldl_write_tables, TableWrite.foldl_insert]
    rfl
  have hold : (d.tables t).filter (mine (kindOf m) (d.counter (kindOf m)) t) = [] := rowsOf_fresh hf t
  rw [rowsOf, htables, List.filter_append, hold, List.nil_append]
  refine List.filter_eq_self.mpr fun r hr => ?_
  obtain ⟨hident, hrow⟩ := writes_rows (m := m) (d := d) (TableWrite.mem_inserted.mp hr)
  simp only at hident hrow
  rw [← hident]
  exact hrow.mine

/-- No other file access of the file has a permission with the same index; the copy that is stored
of the last one counts. -/
def SolePermission (m : Message) (e : Element) : Prop :=
  ∀ t f a l, e = .permission t f a l → ∀ x ∈ entriesOf m, ∀ a', x.element = .permission t f a' l →
    a' = a

omit L in
lemma untyped_selected (h : e.parentType = none) (parentType : Option Char) :
    selects (deleteQueries e.kind) e.table parentType = true := by
  cases e with
  | detectTime | assessment | impact | confidence | action i | toolAlert | correlationAlert
  | overflowAlert | source i | target i | file t f | fileAccess t f a | permission t f a l
  | linkage t f l | inode t f | checksum t f c | classification | reference i => rfl
  | _ => cases h

/-- What a join selects among all rows of its table. -/
lemma on_iff (h : Holds m ident d) (hd : Denotes p e) (he : e.kind = kindOf m)
    (hx : Explicit p.below) {r : Row} (hr : r ∈ d.tables e.table) :
    (JoinedTable.of p (tableName p) id).on ident r = true ↔
      ∃ x ∈ entriesOf m, r = x.element.row ident x.fields ∧
        (x.element = e ∨ ∃ t f a a' l, e = .permission t f a l ∧ x.element = .permission t f a' l) := by
  have htable : ∀ {x : Element}, (x = e ∨ ∃ t f a a' l, e = .permission t f a l ∧
      x = .permission t f a' l) → x.table = e.table := by
    rintro x (rfl | ⟨t, f, a, a', l, rfl, rfl⟩) <;> rfl
  constructor
  · intro hon
    have hmine : mine (kindOf m) ident e.table r = true := by
      obtain ⟨hon, -⟩ := Bool.and_eq_true_iff.mp hon
      obtain ⟨htype, hident⟩ := Bool.and_eq_true_iff.mp hon
      rw [mine, hident, ← he, Bool.true_and]
      rw [JoinedTable.of, resolveParentType_denoted hd] at htype
      cases hp : e.parentType with
      | none => exact untyped_selected hp r.parentType
      | some c =>
        rw [hp] at htype
        rw [of_decide_eq_true htype, ← hp]
        exact selects_element e
    have hrow : r ∈ rowsOf (kindOf m) ident d e.table := List.mem_filter.mpr ⟨hr, hmine⟩
    rw [h, TableWrite.mem_inserted] at hrow
    rcases List.mem_cons.mp hrow with htop | hrow
    · have hne : e.table ≠ (kindOf m).table := by
        cases kindOf m <;> cases e <;> simp [Element.table, Kind.table]
      exact absurd (congrArg Prod.fst htop) hne
    · obtain ⟨x, hxm, hxr⟩ := List.mem_map.mp hrow
      obtain ⟨ht, rfl⟩ := Prod.mk.inj hxr
      exact ⟨x, hxm, rfl, ((selected_iff hd hx ht).mp hon).2⟩
  · rintro ⟨x, -, rfl, hxe⟩
    exact (selected_iff hd hx (htable hxe)).mpr ⟨rfl, hxe⟩

omit L in
lemma newTable_ok {join join' : Join} {name : String} {table : JoinedTable}
    (h : join.newTable p name = .ok (table, join')) : table = .of p name join.nextId := by
  unfold Join.newTable at h
  split at h
  · cases h
    rfl
  · split at h
    · cases h
    · cases h
      rfl

lemma Holds.mem {x : Entry} (h : Holds m ident d) (hx : x ∈ entriesOf m) :
    x.element.row ident x.fields ∈ d.tables x.element.table := by
  have hrow : x.element.row ident x.fields ∈ rowsOf (kindOf m) ident d x.element.table := by
    rw [h, TableWrite.mem_inserted]
    exact List.mem_cons_of_mem _ (List.mem_map.mpr ⟨x, hx, rfl⟩)
  exact (List.mem_filter.mp hrow).1

/-- The ON condition of the join for an explicit path selects the rows that were written for the
element the path names, and no other, when the element is not a permission or no other file access
has one with its index. -/
theorem newTable_selects_iff (m : Message) (ident : ℕ) (d : Database) (h : Holds m ident d) (p : Path)
    (hp : p.top = (kindOf m).class) (hv : p.getValueType.isSome) (hx : Explicit p.below)
    (hl : OutsideLinkages p.below) (hj : Joined p) :
    (∃ e, Denotes p e) ∧ ∀ e, Denotes p e → tableName p = e.table.name ∧
      ((∀ join table join', Join.newTable join p (tableName p) = .ok (table, join') →
        ∀ r ∈ d.tables e.table, (table.on ident r = true ↔
          ∃ x ∈ entriesOf m, x.element = e ∧ r = x.element.row ident x.fields)) ↔
      SolePermission m e) := by
  obtain ⟨e₀, -, he₀⟩ := exists_denoted hp hv hx hl hj
  refine ⟨⟨e₀, he₀⟩, fun e he => ⟨tableName_denoted he, ?_⟩⟩
  have hkind : e.kind = kindOf m := by
    have hclass : e.kind.class = (kindOf m).class := he.1.symm.trans hp
    cases hk : e.kind <;> cases hm : kindOf m <;> rw [hk, hm] at hclass <;> first | rfl | cases hclass
  constructor
  · rintro hselects t f a l rfl x hx' a' hxe
    have htable : x.element.table = .fileAccessPermission := by rw [hxe]; rfl
    have hr : x.element.row ident x.fields ∈ d.tables (Element.permission t f a l).table := by
      have hmem := h.mem hx'
      rwa [htable] at hmem
    obtain ⟨y, -, hye, hrow⟩ := (hselects Join.new _ _ rfl _ hr).mp
      ((on_iff h he hkind hx hr).mpr ⟨x, hx', rfl, .inr ⟨t, f, a, a', l, rfl, hxe⟩⟩)
    have hparents := congrArg Row.parents hrow
    rw [hxe, hye] at hparents
    simpa [Element.row, Element.parents] using hparents
  · intro hsole join table join' hnew r hr
    rw [newTable_ok hnew, on_iff h he hkind hx hr]
    constructor
    · rintro ⟨x, hxm, hrow, hxe | ⟨t, f, a, a', l, rfl, hxe⟩⟩
      · exact ⟨x, hxm, hxe, hrow⟩
      · obtain rfl := hsole t f a l rfl x hxm a' hxe
        exact ⟨x, hxm, hxe, hrow⟩
    · rintro ⟨x, hxm, hxe, hrow⟩
      exact ⟨x, hxm, hrow, .inl hxe⟩

end Rows

section Examples

/-- `alert.classification.text` -/
def textPath : Path where
  top := .alert
  below := [object .classification, (Child.value "text").at .forbidden]
  message := alert_top
  leads := .step (by decide) (by decide) rfl
    (.child (by decide) (by decide))

/-- The database after a message is stored in an empty one. -/
def storedAlone (alert : Alert) : Database :=
  ((insertOf (L := bareLibrary) (.alert alert)).run (serve .mysql) Database.empty).2

lemma storedAlone_holds : Holds (L := bareLibrary) (.alert classifiedAlert) 1
    (storedAlone classifiedAlert) :=
  insertOf_holds (L := bareLibrary) (d := Database.empty) (fun _ => List.forall_mem_nil _) rfl

theorem newTable_selects_classification :
    (∃ e, Denotes textPath e) ∧ ∀ e, Denotes textPath e → tableName textPath = e.table.name ∧
      ((∀ join table join', Join.newTable join textPath (tableName textPath) = .ok (table, join') →
        ∀ r ∈ (storedAlone classifiedAlert).tables e.table, (table.on 1 r = true ↔
          ∃ x ∈ entriesOf (L := bareLibrary) (.alert classifiedAlert),
            x.element = e ∧ r = x.element.row 1 x.fields)) ↔
      SolePermission (L := bareLibrary) (.alert classifiedAlert) e) :=
  newTable_selects_iff (L := bareLibrary) (.alert classifiedAlert) 1 _ storedAlone_holds textPath rfl
    rfl (by unfold Explicit; decide) (by unfold OutsideLinkages; decide) (by unfold Joined; decide)

/-- Two accesses to the one file of a target. -/
def accessedAlert : Alert :=
  { classifiedAlert with targets := [⟨none, 0, none, none, none, none, none,
      [⟨none, "passwd", "/etc/passwd", none, none, none, none, none,
        [⟨⟨none, 0, none, none, none⟩, ["read"]⟩, ⟨⟨none, 0, none, none, none⟩, ["write"]⟩],
        [], none, [], 0, none, none⟩]⟩] }

/-- `alert.target(0).file(0).file_access(0).permission(0)` -/
def permissionPath : Path where
  top := .alert
  below := [objectAt .target 0, objectAt .file 0, objectAt .fileAccess 0, stringAt "permission" 0]
  message := alert_top
  leads := .step (by decide) (by decide) rfl
    (.step (by decide) (by decide) rfl
      (.step (by decide) (by decide) rfl
        (.child (by decide) (by decide))))

/-- The join for a permission of the first access also selects that of the second. -/
theorem newTable_selects_other_permission :
    ((insertOf (L := bareLibrary) (.alert accessedAlert)).run (serve .mysql) Database.empty).1 =
        .ok () ∧
      Denotes permissionPath (.permission 0 0 0 0) ∧
      ∃ table join' r, Join.newTable .new permissionPath (tableName permissionPath) =
          .ok (table, join') ∧ r ∈ (storedAlone accessedAlert).tables .fileAccessPermission ∧ table.on 1 r = true ∧
        r.fields = [("permission", .text "write")] ∧
        ∀ x ∈ entriesOf (L := bareLibrary) (.alert accessedAlert),
          x.element = .permission 0 0 0 0 → r ≠ x.element.row 1 x.fields := by
  refine ⟨rfl, ⟨rfl, rfl⟩, _, _, ⟨1, none, [0, 0, 1], some 0, [("permission", .text "write")]⟩, rfl,
    ?_, rfl, rfl, fun x hx he hr => ?_⟩
  · decide +kernel
  · have hparents := congrArg Row.parents hr
    rw [he] at hparents
    cases hparents

end Examples

end Preludedb.Classic
