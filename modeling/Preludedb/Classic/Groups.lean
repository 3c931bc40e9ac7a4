import Preludedb.Classic.Slots

/-! The entries of a message, group by group: which list of the message, or which single object, the
rows of a group come from. -/

namespace Preludedb.Classic

open Foundations Sql Idmef

section Parts

variable [L : Libprelude] {t f i j : Int} {file : File} {o : Owner} {p : Party} {k : Kind}
  {node : Option Node} {user : Option User} {process : Option Process} {service : Option Service}
  {analyzer : Analyzer} {s : Element} {a : Alert}

omit L in
lemma flatMap_single {α β : Type} {l : List α} {f : α → β} :
    (l.flatMap fun x => [f x]) = l.map f := List.map_eq_flatMap.symm

omit L in
lemma flatMap_empty {α β : Type} {l : List α} : (l.flatMap fun _ => ([] : List β)) = [] := by simp

def webOf : ServiceType → List WebService
  | .web w => [w]
  | _ => []

def snmpOf : ServiceType → List SnmpService
  | .snmp s => [s]
  | _ => []

attribute [local simp] inGroup Element.withIndex Function.comp_def List.filter_flatMap List.filter_map
  List.filter_cons flatMap_single flatMap_empty nodeEntries userEntries processEntries
  addressEntry userIdEntry stringEntry linkageEntry inodeEntry checksumEntry snmpServiceEntry
  webServiceEntries 

omit L in
lemma serviceTypeEntries_eq (p : Party) (t : ServiceType) : serviceTypeEntries p t =
    (webOf t).flatMap (webServiceEntries p) ++ (snmpOf t).map (snmpServiceEntry p) := by
  cases t <;> simp [serviceTypeEntries, webOf, snmpOf]

lemma owned_node : inGroup (.node (.party p)) (ownedEntries p node user process service) =
    node.toList.flatMap fun n => (nodeEntries (.party p) n).take 1 := by
  simp [ownedEntries, serviceEntries, serviceTypeEntries_eq]

lemma owned_address : inGroup (.address (.party p) j) (ownedEntries p node user process service) =
    node.toList.flatMap fun n =>
      (listed n.addresses).map fun x => addressEntry (.party p) x.1 x.2 := by
  simp [ownedEntries, serviceEntries, serviceTypeEntries_eq]

lemma owned_process : inGroup (.process (.party p)) (ownedEntries p node user process service) =
    process.toList.flatMap fun q => (processEntries (.party p) q).take 1 := by
  simp [ownedEntries, serviceEntries, serviceTypeEntries_eq]

lemma owned_processArg : inGroup (.processArg (.party p) j) (ownedEntries p node user process service) =
    process.toList.flatMap fun q =>
      (numbered 0 q.args).map fun x => stringEntry (.processArg (.party p) x.1) "arg" x.2 := by
  simp [ownedEntries, serviceEntries, serviceTypeEntries_eq]

lemma owned_processEnv : inGroup (.processEnv (.party p) j) (ownedEntries p node user process service) =
    process.toList.flatMap fun q =>
      (numbered 0 q.env).map fun x => stringEntry (.processEnv (.party p) x.1) "env" x.2 := by
  simp [ownedEntries, serviceEntries, serviceTypeEntries_eq]

lemma owned_user : inGroup (.user p) (ownedEntries p node user process service) =
    user.toList.flatMap fun u => (userEntries p u).take 1 := by
  simp [ownedEntries, serviceEntries, serviceTypeEntries_eq]

lemma owned_userId : inGroup (.userId p j) (ownedEntries p node user process service) =
    user.toList.flatMap fun u => (listed u.userIds).map fun x => userIdEntry (.userId p x.1) x.2 := by
  simp [ownedEntries, serviceEntries, serviceTypeEntries_eq]

lemma owned_service : inGroup (.service p) (ownedEntries p node user process service) =
    service.toList.flatMap fun v => (serviceEntries p v).take 1 := by
  simp [ownedEntries, serviceEntries, serviceTypeEntries_eq]

lemma owned_webService : inGroup (.webService p) (ownedEntries p node user process service) =
    service.toList.flatMap fun v => (webOf v.type).flatMap fun w => (webServiceEntries p w).take 1 := by
  simp [ownedEntries, serviceEntries, serviceTypeEntries_eq]

lemma owned_webServiceArg : inGroup (.webServiceArg p j) (ownedEntries p node user process service) =
    service.toList.flatMap fun v => (webOf v.type).flatMap fun w =>
      (listed w.args).map fun x => stringEntry (.webServiceArg p x.1) "arg" x.2 := by
  simp [ownedEntries, serviceEntries, serviceTypeEntries_eq]

lemma owned_snmpService : inGroup (.snmpService p) (ownedEntries p node user process service) =
    service.toList.flatMap fun v => (snmpOf v.type).map (snmpServiceEntry p) := by
  simp [ownedEntries, serviceEntries, serviceTypeEntries_eq]

lemma analyzer_node : inGroup (.node (.analyzer k i)) (analyzerPartEntries k i analyzer) =
    analyzer.node.toList.flatMap fun n => (nodeEntries (.analyzer k i) n).take 1 := by
  simp [analyzerPartEntries, analyzerEntries]

lemma analyzer_address : inGroup (.address (.analyzer k i) j) (analyzerPartEntries k i analyzer) =
    analyzer.node.toList.flatMap fun n =>
      (listed n.addresses).map fun x => addressEntry (.analyzer k i) x.1 x.2 := by
  simp [analyzerPartEntries, analyzerEntries]

lemma analyzer_process : inGroup (.process (.analyzer k i)) (analyzerPartEntries k i analyzer) =
    analyzer.process.toList.flatMap fun q => (processEntries (.analyzer k i) q).take 1 := by
  simp [analyzerPartEntries, analyzerEntries]

lemma analyzer_processArg : inGroup (.processArg (.analyzer k i) j) (analyzerPartEntries k i analyzer) =
    analyzer.process.toList.flatMap fun q =>
      (numbered 0 q.args).map fun x => stringEntry (.processArg (.analyzer k i) x.1) "arg" x.2 := by
  simp [analyzerPartEntries, analyzerEntries]

lemma analyzer_processEnv : inGroup (.processEnv (.analyzer k i) j) (analyzerPartEntries k i analyzer) =
    analyzer.process.toList.flatMap fun q =>
      (numbered 0 q.env).map fun x => stringEntry (.processEnv (.analyzer k i) x.1) "env" x.2 := by
  simp [analyzerPartEntries, analyzerEntries]

lemma file_fileAccess : inGroup (.fileAccess t f j) (filePartEntries t f file) =
    (listed file.fileAccesses).map fun x => fileAccessEntry t f x.1 x.2 := by
  simp [filePartEntries, fileEntries, fileAccessEntry, fileAccessEntries]

lemma file_linkage : inGroup (.linkage t f j) (filePartEntries t f file) =
    (listed file.linkages).map fun x => linkageEntry t f x.1 x.2 := by
  simp [filePartEntries, fileEntries, fileAccessEntries]

lemma file_inode : inGroup (.inode t f) (filePartEntries t f file) =
    file.inode.toList.map (inodeEntry t f) := by
  simp [filePartEntries, fileEntries, fileAccessEntries]

lemma file_checksum : inGroup (.checksum t f j) (filePartEntries t f file) =
    (listed file.checksums).map fun x => checksumEntry t f x.1 x.2 := by
  simp [filePartEntries, fileEntries, fileAccessEntries]

/-- The parts of a file access. -/
lemma file_access {b : Int} (hs : s = .permission t f b j ∨ s = .accessUserId t f b) :
    inGroup s (filePartEntries t f file) =
      (chosen file.fileAccesses b).flatMap fun x => inGroup s (fileAccessEntries t f b x) := by
  have hsplit : filePartEntries t f file =
      (listed file.fileAccesses).flatMap (fun x => fileAccessEntries t f x.1 x.2) ++
      ((listed file.linkages).map (fun l => linkageEntry t f l.1 l.2) ++
      (file.inode.toList.map (inodeEntry t f) ++
      (listed file.checksums).map fun c => checksumEntry t f c.1 c.2)) := by
    simp [filePartEntries, fileEntries]
  have haccess : inGroup s ((listed file.fileAccesses).flatMap fun x => fileAccessEntries t f x.1 x.2) =
      (chosen file.fileAccesses b).flatMap fun x => inGroup s (fileAccessEntries t f b x) :=
    filter_flatMap_listed fun j x y hy hP => by
      rcases hs with rfl | rfl <;> simp [fileAccessEntries] at hy <;>
        rcases hy with rfl | ⟨c, d, -, rfl⟩ | rfl <;> simp_all
  have hrest : inGroup s ((listed file.linkages).map (fun l => linkageEntry t f l.1 l.2) ++
      (file.inode.toList.map (inodeEntry t f) ++
      (listed file.checksums).map fun c => checksumEntry t f c.1 c.2)) = [] := by
    rcases hs with rfl | rfl <;> simp
  rw [hsplit, inGroup_append, haccess, hrest, List.append_nil]

lemma file_permission {b : Int} : inGroup (.permission t f b j) (filePartEntries t f file) =
    (chosen file.fileAccesses b).flatMap fun x =>
      (listed x.permissions).map fun y => stringEntry (.permission t f b y.1) "permission" y.2 := by
  rw [file_access (j := j) (.inl rfl)]
  simp [fileAccessEntries]

lemma file_accessUserId {b : Int} : inGroup (.accessUserId t f b) (filePartEntries t f file) =
    (chosen file.fileAccesses b).map fun x => userIdEntry (.accessUserId t f b) x.userId := by
  rw [file_access (j := 0) (.inr rfl)]
  simp [fileAccessEntries]

omit L in
/-- Without what is part of something, only the objects themselves are left. -/
lemma inGroup_heads {β : Type} (l : List β) (head : β → Entry) (parts : β → List Entry) (hs : s.Plain)
    (hparts : ∀ x, ∀ y ∈ parts x, ¬ y.element.Plain) :
    inGroup s (l.flatMap fun x => head x :: parts x) = inGroup s (l.map head) := by
  have hnone : ∀ x, inGroup s (parts x) = [] := fun x =>
    List.filter_eq_nil_iff.mpr fun y hy hP => by
      obtain ⟨howner, hfile, -⟩ := same_tags (of_decide_eq_true hP)
      exact hparts x y hy ⟨howner.symm.symm.trans hs.1, hfile.trans hs.2⟩
  have hcons : ∀ x, inGroup s (head x :: parts x) = inGroup s [head x] := fun x => by
    rw [← List.singleton_append, inGroup_append, hnone, List.append_nil]
  induction l with
  | nil => rfl
  | cons x l ih =>
    rw [List.flatMap_cons, inGroup_append, ih, hcons, ← inGroup_append]
    rfl

lemma fileEntries_heads (hs : s.Plain) (files : List (Int × File)) :
    inGroup s (files.flatMap fun x => fileEntries t x.1 x.2) =
      inGroup s (files.map fun x => fileEntry t x.1 x.2) :=
  inGroup_heads files (fun x => fileEntry t x.1 x.2) (fun x => filePartEntries t x.1 x.2) hs
    fun x y hy hplain => by
      rw [Element.Plain, (filePartEntries_tags t x.1 x.2 y hy).2] at hplain
      cases hplain.2

lemma ownedEntries_parts (p : Party) (node : Option Node) (user : Option User)
    (process : Option Process) (service : Option Service) :
    ∀ x ∈ ownedEntries p node user process service, ¬ x.element.Plain := fun x hx hplain => by
  rw [Element.Plain, (ownedEntries_owner p node user process service x hx).1] at hplain
  cases hplain.1

lemma analyzerEntries_heads (hs : s.Plain) (analyzers : List (Int × Analyzer)) :
    inGroup s (analyzers.flatMap fun x => analyzerEntries k x.1 x.2) =
      inGroup s (analyzers.map fun x => analyzerEntry k x.1 x.2) :=
  inGroup_heads analyzers (fun x => analyzerEntry k x.1 x.2)
    (fun x => analyzerPartEntries k x.1 x.2) hs fun x y hy hplain => by
      rw [Element.Plain, (analyzerPartEntries_tags k x.1 x.2 y hy).1] at hplain
      cases hplain.1

lemma sourceEntries_heads (hs : s.Plain) (sources : List (Int × Source)) :
    inGroup s (sources.flatMap fun x => sourceEntries x.1 x.2) =
      inGroup s (sources.map fun x => sourceEntry x.1 x.2) :=
  inGroup_heads sources (fun x => sourceEntry x.1 x.2)
    (fun x => ownedEntries (.source x.1) x.2.node x.2.user x.2.process x.2.service) hs
    fun x => ownedEntries_parts (.source x.1) x.2.node x.2.user x.2.process x.2.service

lemma targetEntries_heads (hs : s.Plain) (targets : List (Int × Target)) :
    inGroup s (targets.flatMap fun x => targetEntries x.1 x.2) =
      inGroup s (targets.flatMap fun x => targetEntry x.1 x.2 ::
        (listed x.2.files).map fun y => fileEntry x.1 y.1 y.2) := by
  have hone : ∀ x : Int × Target, inGroup s (targetEntries x.1 x.2) =
      inGroup s (targetEntry x.1 x.2 :: (listed x.2.files).map fun y => fileEntry x.1 y.1 y.2) := by
    intro x
    have hparts : inGroup s (ownedEntries (.target x.1) x.2.node x.2.user x.2.process x.2.service) = [] := by
      have hheads := inGroup_heads [x] (fun x => targetEntry x.1 x.2)
        (fun x => ownedEntries (.target x.1) x.2.node x.2.user x.2.process x.2.service) hs
        fun x => ownedEntries_parts _ _ _ _ _
      rw [List.flatMap_singleton, ← List.singleton_append, inGroup_append] at hheads
      exact List.append_right_eq_self.mp hheads
    rw [targetEntries_eq, inGroup_append, inGroup_append, hparts, List.append_nil, fileEntries_heads hs,
      ← inGroup_append]
    rfl
  induction targets with
  | nil => rfl
  | cons x l ih => rw [List.flatMap_cons, List.flatMap_cons, inGroup_append, inGroup_append, hone, ih]

/-- The entries that are part of nothing. -/
lemma inGroup_top (hs : s.Plain) : inGroup s (alertEntries a) = inGroup s (leadingEntries a) ++
    inGroup s ((listed a.analyzers).map fun x => analyzerEntry .alert x.1 x.2) ++
    inGroup s ((listed a.sources).map fun x => sourceEntry x.1 x.2) ++
    (inGroup s ((listed a.targets).flatMap fun x => targetEntry x.1 x.2 ::
      (listed x.2.files).map fun y => fileEntry x.1 y.1 y.2)) ++ inGroup s (trailingEntries a) := by
  rw [alertEntries_eq, inGroup_append, inGroup_append, inGroup_append, inGroup_append,
    analyzerEntries_heads hs, sourceEntries_heads hs, targetEntries_heads hs]

def toolOf : AlertType → List ToolAlert
  | .tool t => [t]
  | _ => []

def correlationOf : AlertType → List CorrelationAlert
  | .correlation c => [c]
  | _ => []

def overflowOf : AlertType → List OverflowAlert
  | .overflow o => [o]
  | _ => []

lemma alertTypeEntries_eq (t : AlertType) : alertTypeEntries t =
    (toolOf t).flatMap toolAlertEntries ++ (overflowOf t).map overflowAlertEntry ++
      (correlationOf t).flatMap correlationAlertEntries := by
  cases t <;> simp [alertTypeEntries, toolOf, correlationOf, overflowOf]

end Parts

section Message

def alertsOf : Message → List Alert
  | .alert a => [a]
  | .heartbeat _ => []

def heartbeatsOf : Message → List Heartbeat
  | .alert _ => []
  | .heartbeat h => [h]

def createTimesOf (m : Message) : Kind → List Time
  | .alert => (alertsOf m).map Alert.createTime
  | .heartbeat => (heartbeatsOf m).map Heartbeat.createTime

def analyzerTimesOf (m : Message) : Kind → List Time
  | .alert => (alertsOf m).flatMap fun a => a.analyzerTime.toList
  | .heartbeat => (heartbeatsOf m).flatMap fun h => h.analyzerTime.toList

def analyzersOf (m : Message) : Kind → List Analyzer
  | .alert => (alertsOf m).flatMap Alert.analyzers
  | .heartbeat => (heartbeatsOf m).flatMap Heartbeat.analyzers

def addedDataOf (m : Message) : Kind → List AdditionalData
  | .alert => (alertsOf m).flatMap Alert.additionalData
  | .heartbeat => (heartbeatsOf m).flatMap Heartbeat.additionalData

def sourcesOf (m : Message) : List Source := (alertsOf m).flatMap Alert.sources

def targetsOf (m : Message) : List Target := (alertsOf m).flatMap Alert.targets

def assessmentsOf (m : Message) : List Assessment := (alertsOf m).flatMap fun a => a.assessment.toList

def classificationsOf (m : Message) : List Classification :=
  (alertsOf m).flatMap fun a => a.classification.toList

def typesOf (m : Message) : List AlertType := (alertsOf m).map Alert.type

def nodesOf (m : Message) : Owner → List Node
  | .analyzer k i => (chosen (analyzersOf m k) i).flatMap fun x => x.node.toList
  | .party (.source i) => (chosen (sourcesOf m) i).flatMap fun x => x.node.toList
  | .party (.target i) => (chosen (targetsOf m) i).flatMap fun x => x.node.toList

def processesOf (m : Message) : Owner → List Process
  | .analyzer k i => (chosen (analyzersOf m k) i).flatMap fun x => x.process.toList
  | .party (.source i) => (chosen (sourcesOf m) i).flatMap fun x => x.process.toList
  | .party (.target i) => (chosen (targetsOf m) i).flatMap fun x => x.process.toList

def usersOf (m : Message) : Party → List User
  | .source i => (chosen (sourcesOf m) i).flatMap fun x => x.user.toList
  | .target i => (chosen (targetsOf m) i).flatMap fun x => x.user.toList

def servicesOf (m : Message) : Party → List Service
  | .source i => (chosen (sourcesOf m) i).flatMap fun x => x.service.toList
  | .target i => (chosen (targetsOf m) i).flatMap fun x => x.service.toList

def webServicesOf (m : Message) (p : Party) : List WebService :=
  (servicesOf m p).flatMap fun v => webOf v.type

def filesOf (m : Message) (t : Int) : List File := (chosen (targetsOf m) t).flatMap Target.files

def fileAccessesOf (m : Message) (t f : Int) : List FileAccess :=
  (chosen (filesOf m t) f).flatMap File.fileAccesses

variable [L : Libprelude]

/-- The entries of the list, or the single entry, that an element belongs to. -/
def group (m : Message) : Element → List Entry
  | .createTime k => (createTimesOf m k).map (timeEntry (.createTime k))
  | .detectTime => (alertsOf m).flatMap fun a => a.detectTime.toList.map (timeEntry .detectTime)
  | .analyzerTime k => (analyzerTimesOf m k).map (timeEntry (.analyzerTime k))
  | .assessment => (assessmentsOf m).flatMap fun x => (assessmentEntries x).take 1
  | .impact => (assessmentsOf m).flatMap fun x => x.impact.toList.map impactEntry
  | .confidence => (assessmentsOf m).flatMap fun x => x.confidence.toList.map confidenceEntry
  | .action _ => (assessmentsOf m).flatMap fun x => (listed x.actions).map fun y => actionEntry y.1 y.2
  | .toolAlert => (typesOf m).flatMap fun t => (toolOf t).flatMap fun x => (toolAlertEntries x).take 1
  | .toolAlertident _ => (typesOf m).flatMap fun t => (toolOf t).flatMap fun x =>
      (numbered 0 x.alertidents).map fun y => alertidentEntry (.toolAlertident y.1) (some y.2)
  | .correlationAlert => (typesOf m).flatMap fun t => (correlationOf t).flatMap fun x =>
      (correlationAlertEntries x).take 1
  | .correlationAlertident _ => (typesOf m).flatMap fun t => (correlationOf t).flatMap fun x =>
      (listed x.alertidents).map fun y => alertidentEntry (.correlationAlertident y.1) (some y.2)
  | .overflowAlert => (typesOf m).flatMap fun t => (overflowOf t).map overflowAlertEntry
  | .analyzer k _ => (listed (analyzersOf m k)).map fun x => analyzerEntry k x.1 x.2
  | .source _ => (listed (sourcesOf m)).map fun x => sourceEntry x.1 x.2
  | .target _ => (listed (targetsOf m)).map fun x => targetEntry x.1 x.2
  | .node o => (nodesOf m o).flatMap fun n => (nodeEntries o n).take 1
  | .address o _ => (nodesOf m o).flatMap fun n =>
      (listed n.addresses).map fun x => addressEntry o x.1 x.2
  | .process o => (processesOf m o).flatMap fun q => (processEntries o q).take 1
  | .processArg o _ => (processesOf m o).flatMap fun q =>
      (numbered 0 q.args).map fun x => stringEntry (.processArg o x.1) "arg" x.2
  | .processEnv o _ => (processesOf m o).flatMap fun q =>
      (numbered 0 q.env).map fun x => stringEntry (.processEnv o x.1) "env" x.2
  | .user p => (usersOf m p).flatMap fun u => (userEntries p u).take 1
  | .userId p _ => (usersOf m p).flatMap fun u =>
      (listed u.userIds).map fun x => userIdEntry (.userId p x.1) x.2
  | .service p => (servicesOf m p).flatMap fun v => (serviceEntries p v).take 1
  | .webService p => (webServicesOf m p).flatMap fun w => (webServiceEntries p w).take 1
  | .webServiceArg p _ => (webServicesOf m p).flatMap fun w =>
      (listed w.args).map fun x => stringEntry (.webServiceArg p x.1) "arg" x.2
  | .snmpService p => (servicesOf m p).flatMap fun v => (snmpOf v.type).map (snmpServiceEntry p)
  | .file t _ => (listed (filesOf m t)).map fun x => fileEntry t x.1 x.2
  | .fileAccess t f _ => (listed (fileAccessesOf m t f)).map fun x => fileAccessEntry t f x.1 x.2
  | .permission t f b _ => (chosen (fileAccessesOf m t f) b).flatMap fun x =>
      (listed x.permissions).map fun y => stringEntry (.permission t f b y.1) "permission" y.2
  | .accessUserId t f b => (chosen (fileAccessesOf m t f) b).map fun x =>
      userIdEntry (.accessUserId t f b) x.userId
  | .linkage t f _ => (chosen (filesOf m t) f).flatMap fun x =>
      (listed x.linkages).map fun y => linkageEntry t f y.1 y.2
  | .inode t f => (chosen (filesOf m t) f).flatMap fun x => x.inode.toList.map (inodeEntry t f)
  | .checksum t f _ => (chosen (filesOf m t) f).flatMap fun x =>
      (listed x.checksums).map fun y => checksumEntry t f y.1 y.2
  | .classification => (classificationsOf m).flatMap fun c => (classificationEntries c).take 1
  | .reference _ => (classificationsOf m).flatMap fun c =>
      (listed c.references).map fun x => referenceEntry x.1 x.2
  | .additionalData k _ => (listed (addedDataOf m k)).map fun x => additionalDataEntry k x.1 x.2

variable {m : Message} {s : Element} {a : Alert} {h : Heartbeat} {t f i : Int}

omit L in
lemma Element.withIndex_kind (e : Element) (i : Int) : (e.withIndex i).kind = e.kind := by
  cases e <;> rfl

omit L in
@[simp] lemma listed_nil {α : Type} : listed ([] : List α) = [] := rfl

omit L in
lemma listed_flatMap {α β : Type} {l : List α} {g : α → List β} (h : l.length ≤ 1) :
    listed (l.flatMap g) = l.flatMap fun x => listed (g x) := by
  match l, h with
  | [], _ => rfl
  | [x], _ => rw [List.flatMap_singleton, List.flatMap_singleton]

section

attribute [local simp] inGroup Element.withIndex Function.comp_def List.filter_flatMap List.filter_map
  List.filter_cons flatMap_single flatMap_empty nodeEntries userEntries processEntries
  addressEntry userIdEntry stringEntry linkageEntry inodeEntry checksumEntry snmpServiceEntry
  webServiceEntries leadingEntries trailingEntries alertTypeEntries_eq toolAlertEntries
  correlationAlertEntries overflowAlertEntry alertidentEntry timeEntry assessmentEntries impactEntry
  confidenceEntry actionEntry classificationEntries referenceEntry additionalDataEntry analyzerEntry
  sourceEntry targetEntry fileEntry analyzerEntries sourceEntries targetEntries fileEntries
  group alertsOf heartbeatsOf createTimesOf analyzerTimesOf assessmentsOf typesOf classificationsOf
  analyzersOf addedDataOf sourcesOf targetsOf

lemma files_group : inGroup (.file t i) (alertEntries a) = group (.alert a) (.file t i) := by
  have hfiles : inGroup (.file t i) ((listed a.targets).flatMap fun x => targetEntry x.1 x.2 ::
      (listed x.2.files).map fun y => fileEntry x.1 y.1 y.2) =
      (chosen a.targets t).flatMap fun x => (listed x.files).map fun y => fileEntry t y.1 y.2 := by
    have hchosen := filter_flatMap_listed (x := a.targets) (i := t)
      (g := fun i x => targetEntry i x :: (listed x.files).map fun y => fileEntry i y.1 y.2)
      (P := fun x => decide (x.element.withIndex 0 = (Element.file t i).withIndex 0)) fun j x y hy hP => by
        rcases List.mem_cons.mp hy with rfl | hy
        · cases of_decide_eq_true hP
        · obtain ⟨z, -, rfl⟩ := List.mem_map.mp hy
          exact (Element.file.inj (of_decide_eq_true hP)).1
    rw [inGroup, hchosen]
    simp
  rw [inGroup_top ⟨rfl, rfl⟩, hfiles, group, filesOf, listed_flatMap (chosen_length _ _), List.map_flatMap]
  simp

lemma top_group (hs : s.Plain) : inGroup s (alertEntries a) = group (.alert a) s := by
  cases s with
  | createTime k | analyzerTime k | analyzer k _ | additionalData k _ =>
    rw [inGroup_top hs]
    cases k <;> simp
  | file t i => exact files_group
  | detectTime | assessment | impact | confidence | action | toolAlert | toolAlertident
  | correlationAlert | correlationAlertident | overflowAlert | source | target | classification
  | reference =>
    rw [inGroup_top hs]
    simp
  | node _ | address _ _ | process _ | processArg _ _ | processEnv _ _ | user _ | userId _ _ | service _
  | webService _ | webServiceArg _ _ | snmpService _ => cases hs.1
  | fileAccess _ _ _ | permission _ _ _ _ | accessUserId _ _ _ | linkage _ _ _ | inode _ _
  | checksum _ _ _ => cases hs.2
end

section

attribute [local simp] owned_node owned_address owned_process owned_processArg owned_processEnv owned_user
  owned_userId owned_service owned_webService owned_webServiceArg owned_snmpService analyzer_node
  analyzer_address analyzer_process analyzer_processArg analyzer_processEnv group nodesOf processesOf
  usersOf servicesOf webServicesOf sourcesOf targetsOf analyzersOf alertsOf heartbeatsOf List.flatMap_assoc

lemma source_group (hs : s.ownerOf = some (.party (.source i))) :
    inGroup s (alertEntries a) = group (.alert a) s := by
  rw [inGroup_source hs]
  cases s <;> cases hs <;> simp

lemma target_group (hs : s.ownerOf = some (.party (.target i))) :
    inGroup s (alertEntries a) = group (.alert a) s := by
  rw [inGroup_target hs]
  cases s <;> cases hs <;> simp

lemma analyzer_group (hs : s.ownerOf = some (.analyzer .alert i)) :
    inGroup s (alertEntries a) = group (.alert a) s := by
  rw [inGroup_analyzer hs]
  cases s <;> cases hs <;> simp

lemma heartbeat_analyzer_group (hs : s.ownerOf = some (.analyzer .heartbeat i)) :
    inGroup s (heartbeatEntries h) = group (.heartbeat h) s := by
  rw [inGroup_heartbeat_analyzer hs]
  cases s <;> cases hs <;> simp

end


section
omit L in
lemma chosen_flatMap {α β : Type} {l : List α} {g : α → List β} (h : l.length ≤ 1) :
    chosen (l.flatMap g) i = l.flatMap fun x => chosen (g x) i := by
  match l, h with
  | [], _ => rfl
  | [x], _ => rw [List.flatMap_singleton, List.flatMap_singleton]

omit L in
lemma chosen_files : chosen (filesOf m t) f = (chosen (targetsOf m) t).flatMap fun x => chosen x.files f :=
  chosen_flatMap (chosen_length _ _)

omit L in
lemma chosen_accesses : chosen (fileAccessesOf m t f) i =
    (chosen (filesOf m t) f).flatMap fun x => chosen x.fileAccesses i :=
  chosen_flatMap (chosen_length _ _)

lemma part_group (hs : s.fileOf = some (t, f)) : inGroup s (alertEntries a) = group (.alert a) s := by
  have htargets : a.targets = targetsOf (.alert a) := (List.flatMap_singleton Alert.targets a).symm
  have haccesses := listed_flatMap (g := File.fileAccesses) (chosen_length (filesOf (.alert a) t) f)
  rw [inGroup_file hs, ← List.flatMap_assoc, htargets, ← chosen_files]
  cases s <;> cases hs
  case fileAccess => rw [group, fileAccessesOf, haccesses, List.map_flatMap]; simp only [file_fileAccess]
  case permission => rw [group, chosen_accesses, List.flatMap_assoc]; simp only [file_permission]
  case accessUserId => rw [group, chosen_accesses, List.map_flatMap]; simp only [file_accessUserId]
  case linkage => simp only [file_linkage, group]
  case inode => simp only [file_inode, group]
  case checksum => simp only [file_checksum, group]

lemma kind_group {m : Message} (hs : s.kind ≠ kindOf m) : inGroup s (entriesOf m) = [] :=
  List.filter_eq_nil_iff.mpr fun x hx hP => by
    have heq := of_decide_eq_true hP
    have hkind : x.element.kind = s.kind := by
      rw [← x.element.withIndex_kind 0, heq, s.withIndex_kind]
    exact hs (hkind ▸ (entriesOf_fits m x hx).kind)

omit L in
@[simp] lemma chosen_nil {α : Type} : chosen ([] : List α) i = [] := rfl

attribute [local simp] group nodesOf processesOf usersOf servicesOf webServicesOf filesOf fileAccessesOf
  sourcesOf targetsOf analyzersOf alertsOf heartbeatsOf createTimesOf analyzerTimesOf assessmentsOf
  typesOf classificationsOf addedDataOf

lemma group_kind {m : Message} (hs : s.kind ≠ kindOf m) : group m s = [] := by
  cases m with
  | alert a =>
    have hkind : s.kind = .heartbeat := by
      cases hk : s.kind with
      | alert => exact absurd hk hs
      | heartbeat => rfl
    cases s with
    | createTime k | analyzerTime k | analyzer k _ | additionalData k _ =>
      cases hkind
      rfl
    | node o | address o _ | process o | processArg o _ | processEnv o _ =>
      cases o with
      | party p => cases hkind
      | analyzer k i =>
        cases hkind
        rfl
    | _ => cases hkind
  | heartbeat h =>
    have hkind : s.kind = .alert := by
      cases hk : s.kind with
      | alert => rfl
      | heartbeat => exact absurd hk hs
    cases s with
    | createTime k | analyzerTime k | analyzer k _ | additionalData k _ =>
      cases hkind
      rfl
    | node o | address o _ | process o | processArg o _ | processEnv o _ =>
      cases o with
      | party p => cases p <;> simp
      | analyzer k i =>
        cases hkind
        rfl
    | user p | userId p _ | service p | webService p | webServiceArg p _ | snmpService p =>
      cases p <;> simp
    | _ => simp

lemma heartbeat_group (howner : s.ownerOf = none) (hk : s.kind = .heartbeat) :
    inGroup s (heartbeatEntries h) = group (.heartbeat h) s := by
  have hs : s.Plain := by
    refine ⟨howner, ?_⟩
    cases s <;> first | rfl | cases hk
  rw [heartbeatEntries, inGroup_append, inGroup_append, inGroup_append, analyzerEntries_heads hs]
  cases s with
  | createTime k | analyzerTime k | analyzer k _ | additionalData k _ =>
    cases hk
    simp [inGroup, Element.withIndex, List.filter_map, Function.comp_def, analyzerEntry, analyzerEntries,
      timeEntry, additionalDataEntry]
  | node o | address o _ | process o | processArg o _ | processEnv o _ => cases howner
  | _ => cases hk

/-- The entries of a group are those of its list in the message. -/
theorem inGroup_entriesOf (m : Message) (s : Element) : inGroup s (entriesOf m) = group m s := by
  by_cases hk : s.kind = kindOf m
  · cases m with
    | alert a =>
      rcases howner : s.ownerOf with _ | ⟨k, i⟩ | ⟨i⟩ | ⟨i⟩
      · rcases hfile : s.fileOf with _ | ⟨t, f⟩
        · exact top_group ⟨howner, hfile⟩
        · exact part_group hfile
      · obtain rfl : k = .alert := by
          cases s <;> cases howner <;> exact hk
        exact analyzer_group howner
      · exact source_group howner
      · exact target_group howner
    | heartbeat h =>
      rcases howner : s.ownerOf with _ | ⟨k, i⟩ | p
      · exact heartbeat_group howner hk
      · obtain rfl : k = .heartbeat := by
          cases s <;> cases howner <;> exact hk
        exact heartbeat_analyzer_group howner
      · cases s <;> cases howner <;> cases hk
  · rw [kind_group hk, group_kind hk]

end

end Message

end Preludedb.Classic
