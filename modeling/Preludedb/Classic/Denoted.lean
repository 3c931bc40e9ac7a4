import Preludedb.Classic.PathResolve
import Preludedb.Classic.Isolation

/-! The rows a path selects through the joins, and the stored elements it denotes. -/

namespace Preludedb.Classic

open Foundations Sql Idmef

section Places

def indexOf : Int → Index
  | .ofNat n => .nth n
  | .negSucc _ => .last

def object (c : Idmef.Class) : PathElement := (Child.object c).at .forbidden

def objectAt (c : Idmef.Class) (i : Int) : PathElement := (Child.objects c).at (indexOf i)

def stringAt (name : String) (i : Int) : PathElement := (Child.strings name).at (indexOf i)

def timeOf (name : String) : PathElement := (Child.time name).at .forbidden

def Party.place : Party → List PathElement
  | source i => [objectAt .source i]
  | target i => [objectAt .target i]

def Owner.place : Owner → List PathElement
  | analyzer _ i => [objectAt .analyzer i]
  | party p => p.place

def Kind.class : Kind → Idmef.Class
  | .alert => .alert
  | .heartbeat => .heartbeat

/-- Where an element stands below the message. -/
def Element.place : Element → List PathElement
  | createTime _ => [timeOf "create_time"]
  | detectTime => [timeOf "detect_time"]
  | analyzerTime _ => [timeOf "analyzer_time"]
  | assessment => [object .assessment]
  | impact => [object .assessment, object .impact]
  | confidence => [object .assessment, object .confidence]
  | action i => [object .assessment, objectAt .action i]
  | toolAlert => [object .toolAlert]
  | toolAlertident i => [object .toolAlert, objectAt .alertident i]
  | correlationAlert => [object .correlationAlert]
  | correlationAlertident i => [object .correlationAlert, objectAt .alertident i]
  | overflowAlert => [object .overflowAlert]
  | analyzer _ i => [objectAt .analyzer i]
  | source i => [objectAt .source i]
  | target i => [objectAt .target i]
  | node o => o.place ++ [object .node]
  | address o i => o.place ++ [object .node, objectAt .address i]
  | process o => o.place ++ [object .process]
  | processArg o i => o.place ++ [object .process, stringAt "arg" i]
  | processEnv o i => o.place ++ [object .process, stringAt "env" i]
  | user p => p.place ++ [object .user]
  | userId p i => p.place ++ [object .user, objectAt .userId i]
  | service p => p.place ++ [object .service]
  | webService p => p.place ++ [object .service, object .webService]
  | webServiceArg p i => p.place ++ [object .service, object .webService, stringAt "arg" i]
  | snmpService p => p.place ++ [object .service, object .snmpService]
  | file t f => [objectAt .target t, objectAt .file f]
  | fileAccess t f a => [objectAt .target t, objectAt .file f, objectAt .fileAccess a]
  | permission t f a p =>
    [objectAt .target t, objectAt .file f, objectAt .fileAccess a, stringAt "permission" p]
  | accessUserId t f a =>
    [objectAt .target t, objectAt .file f, objectAt .fileAccess a, object .userId]
  | linkage t f l => [objectAt .target t, objectAt .file f, objectAt .linkage l]
  | inode t f => [objectAt .target t, objectAt .file f, object .inode]
  | checksum t f c => [objectAt .target t, objectAt .file f, objectAt .checksum c]
  | classification => [object .classification]
  | reference i => [object .classification, objectAt .reference i]
  | additionalData _ i => [objectAt .additionalData i]

end Places

section Elements

lemma Kind.parentType_inj {k k' : Kind} (h : k.parentType = k'.parentType) : k = k' := by
  cases k <;> cases k' <;> first | rfl | cases h

lemma Party.eq_of_place {p p' : Party} (ht : p.parentType = p'.parentType) (hi : p.index = p'.index) :
    p = p' := by
  cases p <;> cases p' <;> cases ht
  · exact congrArg Party.source hi
  · exact congrArg Party.target hi

lemma Owner.eq_of_place {o o' : Owner} (ht : o.parentType = o'.parentType) (hi : o.index = o'.index) :
    o = o' := by
  rcases o with ⟨k, i⟩ | p <;> rcases o' with ⟨k', i'⟩ | p'
  · rw [Kind.parentType_inj ht, show i = i' from hi]
  · cases k <;> cases p' <;> cases ht
  · cases p <;> cases k' <;> cases ht
  · rw [Party.eq_of_place ht hi]

lemma Party.parentType_ne (p : Party) : p.parentType ≠ 'F' := by
  cases p <;> nofun

/-- The columns that tell the elements apart. -/
lemma Element.eq_of_row {x e : Element} (ht : x.table = e.table) (hp : x.parentType = e.parentType)
    (hs : x.parents = e.parents) (hi : x.index = e.index) : x = e := by
  cases x <;> cases e <;> first | (cases ht; done) | skip
  all_goals simp only [Element.parentType, Element.parents, Element.index, Option.some.injEq,
    List.cons.injEq] at hp hs hi
  all_goals try simp_all
  all_goals first
    | exact Kind.parentType_inj hp
    | exact Owner.eq_of_place hp hs
    | exact Party.eq_of_place hp hs
    | exact Party.parentType_ne _ hp
    | exact Party.parentType_ne _ hp.symm

end Elements

section On

def IndexConstraint.test (c : IndexConstraint) (v : Int) : Bool :=
  if c.equal then decide (v = c.value) else decide (v ≠ c.value)

/-- A condition on a null column, or on one the table does not have, does not hold. -/
def IndexConstraint.holds (c : IndexConstraint) (r : Row) : Bool :=
  match c.level with
  | none => r.index.any c.test
  | some level => r.parents[level]?.any c.test

/-- The ON condition of a joined table, for a row of that table and the ident of the top table. -/
def JoinedTable.on (table : JoinedTable) (ident : ℕ) (r : Row) : Bool :=
  (table.parentType.all fun c => r.parentType = some c) && decide (r.messageIdent = ident) &&
    table.indexConstraints.all fun c => c.holds r

end On

section Denotes

/-- The rows that hold one value, which the path of the value names. -/
def Element.isValue : Element → Bool
  | createTime _ | detectTime | analyzerTime _ | processArg _ _ | processEnv _ _
  | webServiceArg _ _ | permission _ _ _ _ => true
  | _ => false

/-- The path names a value of the element. -/
def Denotes (p : Path) (e : Element) : Prop :=
  p.top = e.kind.class ∧
    if e.isValue then p.below = e.place
    else ∃ c, ∃ child ∈ Class.children c, ∃ v, child.listed = false ∧ child.type = .value v ∧
      (e.place.getLast?.bind fun n => n.type.class?) = some c ∧
      p.below = e.place ++ [child.at .forbidden]

/-- What the ON condition asks of the index columns: those of the parents, and the own one. -/
def Element.pinned : Element → List Int × Option Int
  | userId p i => ([p.index], some i)
  | accessUserId t f a => ([t, f, a], none)
  | permission t f _ p => ([t, f], some p)
  | e => (e.parents, e.index)

def constraintsOf (pinned : List Int × Option Int) : List IndexConstraint :=
  (pinned.1.mapIdx fun l v => ⟨some l, true, v⟩) ++ pinned.2.toList.map fun v => ⟨none, true, v⟩

lemma attribute_name {c : Idmef.Class} {child : Child} (h : child ∈ c.children)
    (hl : child.listed = false) (hc : c ≠ .alert ∧ c ≠ .heartbeat) :
    child.name ≠ "arg" ∧ child.name ≠ "env" ∧ child.name ≠ "permission" ∧
      child.name ≠ "detect_time" := by
  have hall : ∀ c : Idmef.Class, c ≠ .alert → c ≠ .heartbeat → ∀ child ∈ c.children,
      child.listed = false → child.name ≠ "arg" ∧ child.name ≠ "env" ∧ child.name ≠ "permission" ∧
        child.name ≠ "detect_time" := by
    intro c
    cases c <;> decide
  exact hall c hc.1 hc.2 child h hl

lemma addIndexConstraint_indexOf {level : Option ℕ} {i : Int} (h : indexOf i ≠ .last) :
    addIndexConstraint level (indexOf i) = ⟨level, true, i⟩ := by
  cases i with
  | ofNat n => rfl
  | negSucc n => exact absurd rfl h

@[simp] lemma indexOf_ne_forbidden (i : Int) : indexOf i ≠ .forbidden := by
  cases i <;> nofun

/-- The indices of the path are numbers. -/
def Explicit (below : List PathElement) : Prop :=
  ∀ n ∈ below, n.index ≠ .last ∧ n.index ≠ .undefined

section Ends

variable {p : Path} {l : List PathElement} {n : PathElement}

lemma nodes_of_below (h : p.below = l ++ [n]) :
    p.nodes = (p.top.element :: l) ++ [n] := by
  rw [Path.nodes, h, List.cons_append]

lemma childName_of_below (h : p.below = l ++ [n]) : childName p = n.name := by
  simp [childName, Path.getName, Path.depth, nodes_of_below h]

lemma parent_of_below (h : p.below = l ++ [n]) :
    p.nodes[p.depth - 2]? = some ((p.top.element :: l).getLast (by simp)) := by
  have hlast : l.length < (p.top.element :: l).length := by simp
  rw [Path.depth, nodes_of_below h, List.length_append, List.length_cons, List.getLast_eq_getElem]
  simp only [List.length_cons, List.length_nil, Nat.zero_add, Nat.add_one_sub_one,
    Nat.reduceSubDiff]
  rw [List.getElem?_append_left hlast, List.getElem?_eq_getElem hlast]

lemma parentClass_of_below (h : p.below = l ++ [n]) :
    parentClass p = ((p.top.element :: l).getLast (by simp)).type.class? := by
  rw [parentClass, Path.getClass, parent_of_below h]
  rfl

lemma lastIndex_of_below (h : p.below = l ++ [n]) : p.getIndex (p.depth - 1) = n.index := by
  simp [Path.getIndex, Path.depth, nodes_of_below h]

lemma resolveIndexes_of_below (h : p.below = l ++ [n]) :
    resolveIndexes p = parentConstraints 0 l.dropLast ++
      ownConstraint n.index ((p.top.element :: l).getLast (by simp)).index := by
  have htake : p.below.take (p.depth - 3) = l.dropLast := by
    rw [h, List.dropLast_eq_take]
    simp only [Path.depth, nodes_of_below h, List.length_append, List.length_cons, List.length_nil]
    rw [show l.length + 1 + (0 + 1) - 3 = l.length - 1 by omega]
    exact List.take_append_of_le_length (by omega)
  have hparent : p.getIndex (p.depth - 2) = ((p.top.element :: l).getLast (by simp)).index := by
    rw [Path.getIndex, parent_of_below h]
    rfl
  rw [resolveIndexes, htake, lastIndex_of_below h, hparent]

end Ends

/-- The table of the objects of a class. -/
def classTable : Idmef.Class → Table
  | .alert => .alert
  | .heartbeat => .heartbeat
  | .analyzer => .analyzer
  | .node => .node
  | .address => .address
  | .process => .process
  | .source => .source
  | .target => .target
  | .user => .user
  | .userId => .userId
  | .service => .service
  | .webService => .webService
  | .snmpService => .snmpService
  | .file => .file
  | .fileAccess => .fileAccess
  | .linkage => .linkage
  | .inode => .inode
  | .checksum => .checksum
  | .classification => .classification
  | .reference => .reference
  | .assessment => .assessment
  | .impact => .impact
  | .action => .action
  | .confidence => .confidence
  | .additionalData => .additionalData
  | .toolAlert => .toolAlert
  | .correlationAlert => .correlationAlert
  | .overflowAlert => .overflowAlert
  | .alertident => .alertident

lemma defaultTableName_class {p : Path} {c : Idmef.Class} (h : parentClass p = some c) :
    defaultTableName p = (classTable c).name := by
  rw [defaultTableName, h]
  cases c <;> decide +kernel

lemma tableName_class {p : Path} {c : Idmef.Class} (h : parentClass p = some c)
    (hn : childName p ≠ "arg" ∧ childName p ≠ "env" ∧ childName p ≠ "permission")
    (hc : c ≠ .alert ∧ c ≠ .heartbeat) : tableName p = (classTable c).name := by
  have hdefault := defaultTableName_class h
  obtain ⟨harg, henv, hpermission⟩ := hn
  have hclass : ∀ table : IdmefClass, searchPath p = table → tableName p = table.resolveTableName p :=
    fun table h => by rw [tableName, h]
  have hsearch : searchPath p =
      ((classes.find? fun x => some c = some x.1).map Prod.snd).getD defaultClass := by
    rw [searchPath, h]
  cases c with
  | alert => exact absurd rfl hc.1
  | heartbeat => exact absurd rfl hc.2
  | process =>
    rw [hclass ⟨processTableName, defaultFieldName⟩ hsearch]
    simp [processTableName, harg, henv, classTable, Table.name]
  | fileAccess =>
    rw [hclass ⟨fileAccessTableName, defaultFieldName⟩ hsearch]
    simp [fileAccessTableName, hpermission, classTable, Table.name]
  | webService =>
    rw [hclass ⟨webServiceTableName, defaultFieldName⟩ hsearch]
    simp [webServiceTableName, harg, classTable, Table.name]
  | snmpService => exact (hclass ⟨defaultTableName, snmpFieldName⟩ hsearch).trans hdefault
  | checksum => exact (hclass ⟨defaultTableName, checksumFieldName⟩ hsearch).trans hdefault
  | file => exact (hclass ⟨defaultTableName, fileFieldName⟩ hsearch).trans hdefault
  | additionalData => exact (hclass ⟨defaultTableName, addataFieldName⟩ hsearch).trans hdefault
  | _ => exact (hclass defaultClass hsearch).trans hdefault

lemma Element.table_of_class {e : Element} {c : Idmef.Class}
    (h : (e.place.getLast?.bind fun n => n.type.class?) = some c) (he : e.isValue = false) :
    e.table = classTable c ∧ c ≠ .alert ∧ c ≠ .heartbeat := by
  cases e
  all_goals first
    | (cases he; done)
    | (simp [Element.place, object, objectAt, Child.object, Child.objects, Child.at,
        ChildType.class?] at h
       subst h
       simp [Element.table, classTable])

lemma tableName_denoted {p : Path} {e : Element} (h : Denotes p e) : tableName p = e.table.name := by
  obtain ⟨htop, hbelow⟩ := h
  cases he : e.isValue with
  | false =>
    rw [he, if_neg nofun] at hbelow
    obtain ⟨c, child, hchild, v, hlisted, -, hclass, hbelow⟩ := hbelow
    obtain ⟨htable, hc⟩ := Element.table_of_class hclass he
    have hname := attribute_name hchild hlisted hc
    have hparent : parentClass p = some c := by
      rw [parentClass_of_below hbelow]
      obtain ⟨n, hn, hnc⟩ := Option.bind_eq_some_iff.mp hclass
      obtain ⟨ys, hys⟩ := List.getLast?_eq_some_iff.mp hn
      simpa [hys] using hnc
    have hchildName := childName_of_below hbelow
    rw [tableName_class hparent (by rw [hchildName]; exact ⟨hname.1, hname.2.1, hname.2.2.1⟩) hc,
      htable]
  | true =>
    rw [he, if_pos rfl] at hbelow
    have hvalue : ∀ {l : List PathElement} {n : PathElement} {c : Idmef.Class} {t : Table},
        p.below = l ++ [n] →
        ((p.top.element :: l).getLast (by simp)).type.class? = some c →
        (∀ q, parentClass q = some c → childName q = n.name → tableName q = t.name) →
        tableName p = t.name := fun hbelow hclass h =>
      h p ((parentClass_of_below hbelow).trans hclass) (childName_of_below hbelow)
    have hmessage : ∀ {k : Kind} {name : String} {t : Table}, p.top = k.class →
        p.below = [timeOf name] → (∀ q, childName q = name → messageTableName q = t.name) →
        tableName p = t.name := fun {k _ _} htop hbelow h =>
      hvalue (l := []) hbelow (congrArg some htop) fun q hc hn => by
        refine Eq.trans ?_ (h q hn)
        cases k <;> simp [tableName, searchPath, classes, hc, Kind.class]
    cases e with
    | createTime k => exact hmessage htop hbelow fun q hn => by simp [messageTableName, hn]; rfl
    | detectTime =>
      exact hmessage (k := .alert) htop hbelow fun q hn => by simp [messageTableName, hn]; rfl
    | analyzerTime k => exact hmessage htop hbelow fun q hn => by simp [messageTableName, hn]; rfl
    | processArg o i =>
      refine hvalue (l := o.place ++ [object .process]) (n := stringAt "arg" i) (c := .process)
        (by simpa [Element.place] using hbelow) (by simp; rfl) fun q hc hn => ?_
      simp [tableName, searchPath, classes, hc, processTableName, hn]
      rfl
    | processEnv o i =>
      refine hvalue (l := o.place ++ [object .process]) (n := stringAt "env" i) (c := .process)
        (by simpa [Element.place] using hbelow) (by simp; rfl) fun q hc hn => ?_
      simp [tableName, searchPath, classes, hc, processTableName, hn]
      rfl
    | webServiceArg q i =>
      refine hvalue (l := q.place ++ [object .service, object .webService])
        (n := stringAt "arg" i) (c := .webService) (by simpa [Element.place] using hbelow) (by simp; rfl)
        fun q hc hn => ?_
      simp [tableName, searchPath, classes, hc, webServiceTableName, hn]
      rfl
    | permission t f a i =>
      refine hvalue (l := [objectAt .target t, objectAt .file f, objectAt .fileAccess a])
        (n := stringAt "permission" i) (c := .fileAccess) hbelow rfl fun q hc hn => ?_
      simp [tableName, searchPath, classes, hc, fileAccessTableName, hn]
      rfl
    | _ => cases he

attribute [local simp] Element.place Owner.place Party.place object objectAt stringAt timeOf
  Child.object Child.objects Child.strings Child.time Child.at

attribute [local simp] addIndexConstraint_indexOf parentConstraints ownConstraint Element.pinned
  constraintsOf Element.parents Element.index Owner.index Party.index Class.element Explicit in
lemma resolveIndexes_denoted {p : Path} {e : Element} (h : Denotes p e) (hx : Explicit p.below) :
    resolveIndexes p = constraintsOf e.pinned := by
  obtain ⟨htop, hbelow⟩ := h
  cases he : e.isValue with
  | false =>
    rw [he, if_neg nofun] at hbelow
    obtain ⟨c, child, -, v, -, -, -, hbelow⟩ := hbelow
    rw [resolveIndexes_of_below hbelow]
    rw [hbelow] at hx
    cases e with
    | node o | address o i | process o =>
      rcases o with ⟨k, j⟩ | ⟨j | j⟩ <;> simp at hx ⊢ <;> simp [hx]
    | user q | userId q i | service q | webService q | snmpService q =>
      rcases q with j | j <;> simp at hx ⊢ <;> simp [hx]
    | createTime k | detectTime | analyzerTime k | processArg o i | processEnv o i
    | webServiceArg q i | permission t f a i => cases he
    | _ => simp at hx ⊢ <;> simp [hx]
  | true =>
    rw [he, if_pos rfl] at hbelow
    rw [hbelow] at hx
    cases e with
    | createTime k | analyzerTime k => simp [resolveIndexes_of_below (l := []) hbelow]
    | detectTime => simp [resolveIndexes_of_below (l := []) hbelow]
    | processArg o i | processEnv o i =>
      rw [resolveIndexes_of_below (l := o.place ++ [object .process])
        (by simpa using hbelow)]
      rcases o with ⟨k, j⟩ | ⟨j | j⟩ <;> simp at hx ⊢ <;> simp [hx]
    | webServiceArg q i =>
      rw [resolveIndexes_of_below (l := q.place ++ [object .service, object .webService])
        (by simpa using hbelow)]
      rcases q with j | j <;> simp at hx ⊢ <;> simp [hx]
    | permission t f a i =>
      rw [resolveIndexes_of_below
        (l := [objectAt .target t, objectAt .file f, objectAt .fileAccess a]) hbelow]
      simp at hx ⊢
      simp [hx]
    | _ => cases he

attribute [local simp] resolveParentType resolveAlertParentType resolveSourceParentType
  resolveTargetParentType resolveToolAlertParentType resolveCorrelationAlertParentType
  resolveFileParentType Path.getClass Path.nodes Path.depth Class.element ChildType.class?
  Element.parentType Owner.parentType Party.parentType Kind.parentType Element.kind Owner.kind
  Kind.class in
lemma resolveParentType_denoted {p : Path} {e : Element} (h : Denotes p e) :
    resolveParentType p = e.parentType := by
  obtain ⟨htop, hbelow⟩ := h
  cases he : e.isValue with
  | false =>
    rw [he, if_neg nofun] at hbelow
    obtain ⟨c, child, hchild, v, hlisted, htype, hclass, hbelow⟩ := hbelow
    have hc := (Element.table_of_class hclass he).2
    have hname : childName p ≠ "detect_time" := by
      rw [childName_of_below hbelow]
      exact (attribute_name hchild hlisted hc).2.2.2
    cases e with
    | analyzer k i | additionalData k i => cases k <;> simp [htop, hbelow, hname, htype]
    | node o | address o i | process o =>
      rcases o with ⟨k | k, j⟩ | ⟨j | j⟩ <;> simp [htop, hbelow, hname, htype]
    | user q | userId q i | service q | webService q | snmpService q =>
      rcases q with j | j <;> simp [htop, hbelow, htype]
    | createTime k | detectTime | analyzerTime k | processArg o i | processEnv o i
    | webServiceArg q i | permission t f a i => cases he
    | _ => simp [htop, hbelow, htype]
  | true =>
    rw [he, if_pos rfl] at hbelow
    cases e with
    | createTime k | analyzerTime k =>
      have hname := childName_of_below (l := []) hbelow
      cases k <;> simp [htop, hbelow, hname]
    | detectTime =>
      have hname := childName_of_below (l := []) hbelow
      simp [htop, hbelow, hname]
    | processArg o i | processEnv o i =>
      have hname := childName_of_below (l := o.place ++ [object .process])
        (by simpa using hbelow)
      rcases o with ⟨k | k, j⟩ | ⟨j | j⟩ <;> simp [htop, hbelow, hname]
    | webServiceArg q i => rcases q with j | j <;> simp [htop, hbelow]
    | permission t f a i => simp [htop, hbelow]
    | _ => cases he

end Denotes

section Selected

variable {p : Path} {e x : Element} {ident ident' id : ℕ} {fields : List (String × Cell)}

lemma constraintsOf_holds {pinned : List Int × Option Int} {r : Row} :
    ((constraintsOf pinned).all fun c => c.holds r) = true ↔
      pinned.1 <+: r.parents ∧ ∀ i ∈ pinned.2, r.index = some i := by
  have htest : ∀ (level : Option ℕ) (v : Int) (o : Option Int),
      o.any (IndexConstraint.mk level true v).test = true ↔ o = some v := fun level v o => by
    cases o <;> simp [IndexConstraint.test]
  obtain ⟨parents, index⟩ := pinned
  rw [constraintsOf, List.all_append, Bool.and_eq_true]
  refine and_congr ?_ ?_
  · rw [List.prefix_iff_getElem?]
    rw [List.all_eq_true]
    constructor
    · intro h i hi
      exact (htest (some i) _ _).mp (h _ (List.mem_mapIdx.mpr ⟨i, hi, rfl⟩))
    · intro h c hc
      obtain ⟨i, hi, rfl⟩ := List.mem_mapIdx.mp hc
      exact (htest (some i) _ _).mpr (h i hi)
  · cases index <;> simp [IndexConstraint.holds, htest]

/-- The columns of a table: whether it has a parent type, the number of parents, an own index. -/
def Table.typed : Table → Bool
  | .createTime | .analyzerTime | .analyzer | .additionalData | .alertident | .node | .address
  | .process | .processArg | .processEnv | .user | .userId | .service | .webService
  | .webServiceArg | .snmpService => true
  | _ => false

def Table.levels : Table → ℕ
  | .node | .address | .process | .processArg | .processEnv | .user | .service | .webService
  | .webServiceArg | .snmpService | .file => 1
  | .fileAccess | .linkage | .inode | .checksum => 2
  | .userId | .fileAccessPermission => 3
  | _ => 0

def Table.indexed : Table → Bool
  | .action | .alertident | .analyzer | .source | .target | .address | .processArg | .processEnv
  | .userId | .webServiceArg | .file | .fileAccess | .fileAccessPermission | .linkage | .checksum
  | .reference | .additionalData => true
  | _ => false

lemma Element.typed (e : Element) : e.parentType.isSome = e.table.typed := by
  cases e <;> rfl

lemma Element.levels (e : Element) : e.parents.length = e.table.levels := by
  cases e <;> rfl

lemma Element.indexed (e : Element) : e.index.isSome = e.table.indexed := by
  cases e <;> rfl

lemma eq_of_isSome {α : Type} {x y : Option α} (h : x.isSome = y.isSome) (hxy : ∀ a ∈ y, x = some a) :
    x = y := by
  cases y with
  | none => simpa using h
  | some a => exact hxy a rfl

lemma on_denoted (h : Denotes p e) (hx : Explicit p.below) :
    (JoinedTable.of p (tableName p) id).on ident (x.row ident' fields) = true ↔
      (∀ c ∈ e.parentType, x.parentType = some c) ∧ ident' = ident ∧
        e.pinned.1 <+: x.parents ∧ ∀ i ∈ e.pinned.2, x.index = some i := by
  rw [JoinedTable.on, Bool.and_eq_true, Bool.and_eq_true, JoinedTable.of]
  simp only [resolveParentType_denoted h, resolveIndexes_denoted h hx]
  rw [constraintsOf_holds, and_assoc]
  refine and_congr ?_ (and_congr ?_ Iff.rfl)
  · cases e.parentType with
    | none => simp
    | some c => exact decide_eq_true_iff.trans (by simp [Element.row])
  · exact decide_eq_true_iff

lemma prefix_parents {ps : List Int} (h : ps <+: x.parents) (hl : ps.length = x.table.levels) :
    x.parents = ps :=
  (h.eq_of_length (hl.trans x.levels.symm)).symm

/-- The join of a path selects, in its table, the rows of the element it denotes. The index of a
file access is not among the conditions for its permissions. -/
lemma selected_iff (h : Denotes p e) (hx : Explicit p.below) (ht : x.table = e.table) :
    (JoinedTable.of p (tableName p) id).on ident (x.row ident' fields) = true ↔
      ident' = ident ∧ (x = e ∨ ∃ t f a a' l, e = .permission t f a l ∧ x = .permission t f a' l) := by
  rw [on_denoted h hx]
  constructor
  · rintro ⟨htype, hident, hparents, hindex⟩
    refine ⟨hident, ?_⟩
    have htyped : x.parentType = e.parentType :=
      eq_of_isSome (by rw [x.typed, e.typed, ht]) htype
    have hindexed : x.index.isSome = e.index.isSome := by rw [x.indexed, e.indexed, ht]
    have hplain : e.pinned = (e.parents, e.index) → x = e := fun hpinned => by
      rw [hpinned] at hparents hindex
      have hlevels : e.parents.length = x.table.levels := by rw [e.levels, ht]
      exact Element.eq_of_row ht htyped (prefix_parents hparents hlevels)
        (eq_of_isSome hindexed hindex)
    cases e with
    | userId q i =>
      left
      refine Element.eq_of_row ht htyped ?_ (eq_of_isSome hindexed hindex)
      cases x with
      | userId q' i' => simpa [Element.pinned, Element.parents, eq_comm] using hparents
      | accessUserId t f a => exact absurd (Option.some.inj htyped).symm (Party.parentType_ne q)
      | _ => cases ht
    | accessUserId t f a =>
      left
      refine Element.eq_of_row ht htyped (prefix_parents hparents (by rw [ht]; rfl)) ?_
      cases x with
      | userId q i => exact absurd (Option.some.inj htyped) (Party.parentType_ne q)
      | accessUserId t' f' a' => rfl
      | _ => cases ht
    | permission t f a l =>
      right
      cases x with
      | permission t' f' a' l' =>
        obtain ⟨rfl, rfl⟩ : t = t' ∧ f = f' := by
          simpa [Element.pinned, Element.parents] using hparents
        obtain rfl : l' = l := by simpa [Element.pinned, Element.index] using hindex
        exact ⟨t, f, a, a', l', rfl, rfl⟩
      | _ => cases ht
    | _ => exact .inl (hplain rfl)
  · rintro ⟨hident, rfl | ⟨t, f, a, a', l, rfl, rfl⟩⟩
    · refine ⟨fun c hc => hc, hident, ?_, ?_⟩
      · cases x <;> simp [Element.pinned, Element.parents]
      · cases x <;> simp [Element.pinned, Element.index]
    · refine ⟨fun c hc => hc, hident, ?_, fun i hi => hi⟩
      simp [Element.pinned, Element.parents]

end Selected

end Preludedb.Classic
