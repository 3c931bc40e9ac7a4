import Preludedb.Classic.Owned
import Preludedb.Classic.Scanning

/-! The files of a target as they are read back: each list of a file is asked for under the indices of
the target and the file, and the file accesses are counted first. -/

namespace Preludedb.Classic

open Foundations Sql Idmef

/-- The calendar of the C library: a broken-down time has no negative field and gives the time back. -/
structure Calendar (L : Libprelude) : Prop where
  unsigned : ∀ t, Unsigned (L.gmtime t)
  inverse : ∀ t, L.timegm (L.gmtime t) = t

/-- The times of a file are stored without their microseconds. -/
def timeKept (t : Time) : Time := { t with usec := 0 }

def inodeKept (n : Inode) : Inode := { n with changeTime := n.changeTime.map timeKept }

/-- What the reader of a file can read: sizes of 32 bits, and as many file accesses. -/
def File.Readable (f : File) : Prop :=
  (∀ n ∈ f.dataSize, n.toNat < 2 ^ 32) ∧ (∀ n ∈ f.diskSize, n.toNat < 2 ^ 32) ∧
    f.fileAccesses.length < 2 ^ 32

section Kept

variable [L : Libprelude]

def linkageKept (l : Linkage) : Linkage :=
  { l with category := enumKept .linkageCategory l.category }

def accessKept (a : FileAccess) : FileAccess := { a with userId := userIdKept a.userId }

def checksumKept (c : Checksum) : Checksum :=
  { c with algorithm := enumKept .checksumAlgorithm c.algorithm }

/-- The columns of a file. -/
def fileHead (f : File) : File where
  ident := f.ident
  name := f.name
  path := f.path
  createTime := f.createTime.map timeKept
  modifyTime := f.modifyTime.map timeKept
  accessTime := f.accessTime.map timeKept
  dataSize := f.dataSize
  diskSize := f.diskSize
  fileAccesses := []
  linkages := []
  inode := none
  checksums := []
  category := enumKept .fileCategory f.category
  fstype := (f.fstype.bind (L.enumToString .fileFstype)).map (L.enumToNumeric .fileFstype)
  fileType := f.fileType

/-- A file as it is read back, with all its lists. -/
def fileKept (f : File) : File :=
  { fileHead f with
    fileAccesses := f.fileAccesses.map accessKept
    linkages := f.linkages.map linkageKept
    inode := f.inode.map inodeKept
    checksums := f.checksums.map checksumKept }

end Kept

section Columns

variable [L : Libprelude] {b : Backend} {d : Database} {row : List Cell} {i j : ℕ}

lemma getTimestamp_finds (hc : Calendar L) {x : Option Time}
    (ht : row.getD i .null = (timeToTimestamp x).time)
    (hg : row.getD j .null = (timeToTimestamp x).gmtoff) :
    Finds b d (getTimestamp row i j none) (x.map timeKept) := by
  refine rowGetField_finds.bind ?_
  rw [ht]
  cases x with
  | none => exact .done _
  | some t =>
    have hoffset : Finds b d (getNeeded .ok row j) (.number t.gmtOffset.toInt) := by
      refine Finds.bind (a := some (.number t.gmtOffset.toInt)) (rowGetField_finds.bind ?_) (.done _)
      rw [hg]
      exact .done _
    refine hoffset.bind (Finds.bind (.done 0) ?_)
    refine Finds.bind (Program.Observes.ofExcept (fieldToInt32_toInt t.gmtOffset)) ?_
    have htime : timeFromTimestamp (buildTimestampString (L.gmtime t.sec)) t.gmtOffset 0 =
        .ok (timeKept t) := by
      rw [timeFromTimestamp, scanTimestamp_build (hc.unsigned t.sec)]
      simp only [hc.inverse, timeKept]
    exact Finds.bind (Program.Observes.ofExcept htime) (.done _)

/-- The columns of a file are found when its sizes fit. -/
lemma getFileRow_finds (hc : Calendar L) {t i : Int} {ident : ℕ} {f : File} (hf : File.Readable f)
    (h : row = ["ident", "category", "name", "path", "create_time", "create_time_gmtoff",
      "modify_time", "modify_time_gmtoff", "access_time", "access_time_gmtoff", "data_size",
      "disk_size", "fstype", "file_type"].map (rowAt ident (.file t 0) (fileEntry t) i f).column) :
    Finds b d (getFileRow row) (fileHead f) := by
  subst h
  refine (getString_finds (x := f.ident) rfl).bind ((getEnum_finds rfl).bind ?_)
  refine (getString_finds (x := some f.name) rfl).bind ((getString_finds (x := some f.path) rfl).bind ?_)
  refine (getTimestamp_finds hc (x := f.createTime) rfl rfl).bind ?_
  refine (getTimestamp_finds hc (x := f.modifyTime) rfl rfl).bind ?_
  refine (getTimestamp_finds hc (x := f.accessTime) rfl rfl).bind ?_
  refine (getUint32_size hf.1 rfl).bind ((getUint32_size hf.2.1 rfl).bind ?_)
  refine (getEnum_finds rfl).bind ((getString_finds (x := f.fileType) rfl).bind ?_)
  have hsize : ∀ x : Option UInt64, (∀ n ∈ x, n.toNat < 2 ^ 32) →
      (x.map UInt64.toUInt32).map UInt32.toUInt64 = x := fun x hx => by
    cases x with
    | none => rfl
    | some n =>
      have hn := hx n rfl
      have hkept : n.toUInt32.toUInt64 = n := by
        rw [← UInt64.toNat_inj, UInt32.toNat_toUInt64, UInt64.toNat_toUInt32, Nat.mod_eq_of_lt hn]
      exact congrArg some hkept
  rw [hsize _ hf.1, hsize _ hf.2.1]
  exact .done _

end Columns

section Lists

variable [L : Libprelude] {b : Backend} {m : Message} {ident : ℕ} {d : Database} {t f : Int}

lemma permissions_stored (m : Message) (t f a : Int) : StoredAs m (.permission t f a 0)
    ((chosen (fileAccessesOf m t f) a).flatMap FileAccess.permissions)
      fun i => stringEntry (.permission t f a i) "permission" where
  indexed := ⟨fun _ _ => rfl, fun _ _ _ => rfl⟩
  arity := nofun
  group := by
    rw [listed_flatMap (chosen_length _ _), List.map_flatMap]
    exact .inr rfl

lemma accesses_stored (m : Message) (t f : Int) :
    StoredAs m (.fileAccess t f 0) (fileAccessesOf m t f) (fileAccessEntry t f) where
  indexed := ⟨fun _ _ => rfl, fun _ _ _ => rfl⟩
  arity := nofun
  group := .inr rfl

lemma linkages_stored (m : Message) (t f : Int) :
    StoredAs m (.linkage t f 0) ((chosen (filesOf m t) f).flatMap File.linkages) (linkageEntry t f) where
  indexed := ⟨fun _ _ => rfl, fun _ _ _ => rfl⟩
  arity := nofun
  group := by
    rw [listed_flatMap (chosen_length _ _), List.map_flatMap]
    exact .inr rfl

lemma checksums_stored (m : Message) (t f : Int) : StoredAs m (.checksum t f 0)
    ((chosen (filesOf m t) f).flatMap File.checksums) (checksumEntry t f) where
  indexed := ⟨fun _ _ => rfl, fun _ _ _ => rfl⟩
  arity := nofun
  group := by
    rw [listed_flatMap (chosen_length _ _), List.map_flatMap]
    exact .inr rfl

lemma files_stored (m : Message) (t : Int) : StoredAs m (.file t 0) (filesOf m t) (fileEntry t) where
  indexed := ⟨fun _ _ => rfl, fun _ _ _ => rfl⟩
  arity := nofun
  group := .inr rfl

variable (hd : Holds m ident d) (hk : kindOf m = .alert) (hb : Unchanged b m)

include hd hk hb

lemma getFileAccessPermission_finds (a : Int) :
    Finds b d (getFileAccessPermission ident t f a)
      ((chosen (fileAccessesOf m t f) a).flatMap FileAccess.permissions) := by
  have hquery : Where.under [t, f, a] ident = (Element.permission t f a 0).query ident .any := rfl
  rw [getFileAccessPermission, hquery]
  exact getStringListed_finds (permissions_stored m t f a) hd hk.symm hb fun _ _ => rfl

/-- The user id of a file access, in a row of its own. -/
lemma getUserId_finds {n : ℕ} {a : FileAccess} (ha : (fileAccessesOf m t f)[n]? = some a) :
    Finds b d (getUserId ident 'F' t f n) (userIdKept a.userId) := by
  have hgroup : group m (.accessUserId t f n) = [userIdEntry (.accessUserId t f n) a.userId] := by
    rw [group, chosen_nth, ha]
    rfl
  have hmem : userIdEntry (.accessUserId t f n) a.userId ∈ entriesOf m :=
    mem_entriesOf (by rw [hgroup]; exact List.mem_singleton_self _)
  have hselect : Finds b d (selectUserId ident 'F' t f n)
      (b.result [project b ["ident", "type", "name", "number", "tty"]
        (entryWrite ident (userIdEntry (.accessUserId t f n) a.userId)).2]) :=
    sole_select (s := .accessUserId t f n) hgroup rfl hd hk.symm _
  have hkept : project b ["ident", "type", "name", "number", "tty"]
      (entryWrite ident (userIdEntry (.accessUserId t f n) a.userId)).2 =
        ["ident", "type", "name", "number", "tty"].map
          (entryWrite ident (userIdEntry (.accessUserId t f n) a.userId)).2.column :=
    project_kept (hb _ hmem) _
  rw [hkept, Backend.result_of_ne_nil (List.cons_ne_nil _ _)] at hselect
  refine hselect.bind (fetchRow_finds.bind ((fillUserId_finds rfl).bind ?_))
  exact fetchRow_finds.bind (.done _)

/-- The file accesses are found one by one after they were counted. -/
lemma getFileAccess_finds (hcount : (fileAccessesOf m t f).length < 2 ^ 32) :
    Finds b d (getFileAccess ident t f) ((fileAccessesOf m t f).map accessKept) := by
  have hnumber : (UInt32.ofNat (fileAccessesOf m t f).length).toNat = (fileAccessesOf m t f).length := by
    rw [UInt32.toNat_ofNat', Nat.mod_eq_of_lt hcount]
  have hread : Finds b d (getUint32 [.number (fileAccessesOf m t f).length] 0)
      (some (UInt32.ofNat (fileAccessesOf m t f).length)) := by
    refine getUint32_finds ?_
    exact congrArg (fun k : ℕ => Cell.number k) hnumber.symm
  have hquery : { Where.under [t, f] ident with index := .ne (-1) } =
      (Element.fileAccess t f 0).query ident (.ne (-1)) := rfl
  rw [getFileAccess, hquery]
  refine ((accesses_stored m t f).count hd hk.symm).bind ?_
  refine Finds.bind (fetchRow_finds.bind (hread.bind (.done _))) ?_
  refine forIndexed_finds (k := 0) (by rw [List.length_replicate, hnumber, List.length_map])
    fun n x y _ hy => ?_
  rw [List.getElem?_map, Option.map_eq_some_iff] at hy
  obtain ⟨a, ha, rfl⟩ := hy
  have hpermissions := getFileAccessPermission_finds hd hk hb (t := t) (f := f) n
  rw [chosen_nth, ha, Option.toList_some, List.flatMap_singleton] at hpermissions
  rw [zero_add]
  exact (getUserId_finds hd hk hb ha).bind (hpermissions.bind (.done _))

lemma getLinkage_finds : Finds b d (getLinkage ident t f)
    (((chosen (filesOf m t) f).flatMap File.linkages).map linkageKept) := by
  refine (linkages_stored m t f).all_finds hd hk.symm hb fun _ l _ => ?_
  refine (getEnum_finds rfl).bind ((getString_finds (x := some l.name) rfl).bind ?_)
  exact (getString_finds (x := some l.path) rfl).bind (.done _)

lemma getChecksum_finds : Finds b d (getChecksum ident t f)
    (((chosen (filesOf m t) f).flatMap File.checksums).map checksumKept) := by
  refine (checksums_stored m t f).all_finds hd hk.symm hb fun _ c _ => ?_
  refine (getString_finds (x := some c.value) rfl).bind ((getString_finds (x := c.key) rfl).bind ?_)
  exact (getEnum_finds rfl).bind (.done _)

lemma getInode_finds (hc : Calendar L) : Finds b d (getInode ident t f)
    (((chosen (filesOf m t) f).flatMap fun x => x.inode.toList).head?.map inodeKept) := by
  have hlength : ((chosen (filesOf m t) f).flatMap fun x => x.inode.toList).length ≤ 1 :=
    length_flatMap (chosen_length _ _) fun _ => toList_length _
  have hgroup : group m (.inode t f) =
      ((chosen (filesOf m t) f).flatMap fun x => x.inode.toList).head?.toList.map (inodeEntry t f) := by
    rw [← eq_head_toList hlength, List.map_flatMap]
    rfl
  refine single_finds (s := .inode t f) hgroup hd hk.symm hb fun n _ => ?_
  refine (getTimestamp_finds hc (x := n.changeTime) rfl rfl).bind ((getUint32_finds rfl).bind ?_)
  refine (getUint32_finds rfl).bind ((getUint32_finds rfl).bind ((getUint32_finds rfl).bind ?_))
  exact (getUint32_finds rfl).bind (.done _)

/-- The files of a target are found with all their lists. -/
lemma getFile_finds (hc : Calendar L) (hf : ∀ x ∈ filesOf m t, File.Readable x) :
    Finds b d (getFile ident t) ((filesOf m t).map fileKept) := by
  have hheads := (files_stored m t).all_finds (g := fileHead) hd hk.symm hb
    fun i x hx => getFileRow_finds (b := b) (d := d) hc (hf x hx) rfl
  rw [getFile, ← bind_assoc]
  refine Finds.bind (objectRows_finds.mpr hheads) (forIndexed_finds (k := 0) (by rw [List.length_map, List.length_map])
    fun n x y hx hy => ?_)
  rw [List.getElem?_map, Option.map_eq_some_iff] at hx hy
  obtain ⟨file, hfile, rfl⟩ := hx
  obtain ⟨file', hfile', rfl⟩ := hy
  obtain rfl : file = file' := Option.some.inj (hfile.symm.trans hfile')
  have hchosen : chosen (filesOf m t) n = [file] := by
    rw [chosen_nth, hfile]
    rfl
  have haccesses : fileAccessesOf m t n = file.fileAccesses := by
    rw [fileAccessesOf, hchosen, List.flatMap_singleton]
  have hcount : (fileAccessesOf m t n).length < 2 ^ 32 :=
    haccesses ▸ (hf file (List.mem_of_getElem? hfile)).2.2
  have hlinkages := getLinkage_finds hd hk hb (t := t) (f := n)
  have hinode := getInode_finds hd hk hb (t := t) (f := n) hc
  have hchecksums := getChecksum_finds hd hk hb (t := t) (f := n)
  rw [hchosen, List.flatMap_singleton] at hlinkages hinode hchecksums
  rw [Option.head?_toList] at hinode
  rw [zero_add]
  have hread := getFileAccess_finds hd hk hb hcount
  rw [haccesses] at hread
  exact hread.bind (hlinkages.bind (hinode.bind (hchecksums.bind (.done _))))

omit hd hk hb in
lemma getFileRow_found {i : Int} {x y : File} (hc : Calendar L)
    (h : Finds b d (getFileRow (["ident", "category", "name", "path", "create_time",
      "create_time_gmtoff", "modify_time", "modify_time_gmtoff", "access_time", "access_time_gmtoff",
      "data_size", "disk_size", "fstype", "file_type"].map
        (rowAt ident (.file t 0) (fileEntry t) i x).column)) y) :
    (∀ n ∈ x.dataSize, n.toNat < 2 ^ 32) ∧ ∀ n ∈ x.diskSize, n.toNat < 2 ^ 32 := by
  have hbound : ∀ {size : Option UInt64} {row : List Cell} {j : ℕ} {z : Option UInt32},
      row.getD j .null = getOptionalUint64 size → Finds b d (getUint32 row j) z →
        ∀ n ∈ size, n.toNat < 2 ^ 32 := by
    intro size row j z hcell hz n hn
    rw [Option.mem_def.mp hn] at hcell
    obtain ⟨k, hk⟩ := getInteger_found hcell hz
    have hle := (fieldToUint32_ok hk).2
    simp only at hle
    omega
  have h := (h.after (getString_finds (x := x.ident) rfl)).after (getEnum_finds rfl)
  have h := (h.after (getString_finds (x := some x.name) rfl)).after
    (getString_finds (x := some x.path) rfl)
  have h := (h.after (getTimestamp_finds hc (x := x.createTime) rfl rfl)).after
    (getTimestamp_finds hc (x := x.modifyTime) rfl rfl)
  have h := h.after (getTimestamp_finds hc (x := x.accessTime) rfl rfl)
  obtain ⟨data, hdata, h⟩ := h.of_bind getUint32_kept
  obtain ⟨disk, hdisk, -⟩ := h.of_bind getUint32_kept
  exact ⟨hbound rfl hdata, hbound rfl hdisk⟩

omit hb in
lemma getFileAccess_found {accesses : List FileAccess} (h : Finds b d (getFileAccess ident t f) accesses) :
    (fileAccessesOf m t f).length < 2 ^ 32 := by
  have hquery : { Where.under [t, f] ident with index := .ne (-1) } =
      (Element.fileAccess t f 0).query ident (.ne (-1)) := rfl
  rw [getFileAccess, hquery] at h
  have h := h.after ((accesses_stored m t f).count hd hk.symm)
  have hrow : (firstRow (fun row => getUint32 row 0) (some [[.number (fileAccessesOf m t f).length]])).Requests
      (Reads .alert ident) := firstRow_reads (fun row => getUint32_reads row 0) _
  obtain ⟨count, hcount, -⟩ := h.of_bind (run_reads hrow)
  obtain ⟨n, hn, -⟩ := (hcount.after fetchRow_finds).of_bind getUint32_kept
  obtain ⟨k, hk⟩ := getInteger_found rfl hn
  have hle := (fieldToUint32_ok hk).2
  omega

/-- The files of a target can be read only when their sizes and counts fit. -/
lemma getFile_found (hc : Calendar L) {files : List File} (h : Finds b d (getFile ident t) files) :
    ∀ x ∈ filesOf m t, File.Readable x := by
  intro x hx
  rw [getFile, ← bind_assoc] at h
  obtain ⟨heads, hheads, h⟩ := h.of_bind (run_reads (k := .alert) (.bind
    (selectOrdered_reads (fun _ _ => rfl) rfl) (objectRows_reads fun _ row => getFileRow_reads row)))
  obtain ⟨hheadsLength, hrows⟩ := (files_stored m t).found hd hk.symm hb (objectRows_finds.mp hheads)
    fun _ row => hk ▸ getFileRow_reads row
  obtain ⟨i, y, hrow⟩ := hrows x hx
  obtain ⟨hdata, hdisk⟩ := getFileRow_found hc hrow
  refine ⟨hdata, hdisk, ?_⟩
  obtain ⟨hlength, hall⟩ := forIndexed_found (k := .alert) h fun cnt _ =>
    .bind (getFileAccess_reads t cnt) fun _ => .bind (getLinkage_reads t cnt) fun _ =>
      .bind (getInode_reads t cnt) fun _ => .bind (getChecksum_reads t cnt) fun _ => trivial
  obtain ⟨n, hn, rfl⟩ := List.mem_iff_getElem.mp hx
  have hlast : n < files.length := by omega
  obtain ⟨head, -, hfile⟩ := hall n _ (List.getElem?_eq_getElem hlast)
  rw [zero_add] at hfile
  obtain ⟨accesses, haccesses, -⟩ := hfile.of_bind (run_reads (getFileAccess_reads t n))
  have hchosen : fileAccessesOf m t n = (filesOf m t)[n].fileAccesses := by
    rw [fileAccessesOf, chosen_nth, List.getElem?_eq_getElem hn, Option.toList_some,
      List.flatMap_singleton]
  exact hchosen ▸ getFileAccess_found hd hk haccesses

end Lists

section Targets

variable [L : Libprelude] {b : Backend} {m : Message} {ident : ℕ} {d : Database}

/-- What the reader of a target can read: its files, and VLAN numbers that are not negative. -/
def Target.Readable (t : Target) : Prop :=
  (∀ f ∈ t.files, File.Readable f) ∧ ∀ n ∈ t.node, Node.Unsigned n

/-- A target as it is read back. -/
def targetKept (m : Message) (n : ℕ) (t : Target) : Target :=
  { targetHead t with
    node := t.node.map nodeKept
    user := t.user.map userKept
    process := t.process.map fun q => { q with args := argsOf m (Owner.party (.target n)).asChar }
    service := t.service
    files := t.files.map fileKept }

omit L in
lemma targets_parts {n : ℕ} {t : Target} (h : (targetsOf m)[n]? = some t) :
    nodesOf m (.party (.target n)) = t.node.toList ∧ usersOf m (.target n) = t.user.toList ∧
      processesOf m (.party (.target n)) = t.process.toList ∧
      servicesOf m (.target n) = t.service.toList ∧ filesOf m n = t.files := by
  have hchosen : chosen (targetsOf m) n = [t] := by
    rw [chosen_nth, h]
    rfl
  rw [nodesOf, usersOf, processesOf, servicesOf, filesOf, hchosen]
  simp only [List.flatMap_singleton, and_self]

variable (hd : Holds m ident d) (hk : kindOf m = .alert) (hb : Unchanged b m) (hc : Calendar L)

include hd hk hb hc

omit hc in
lemma targetHeads_finds : Finds b d (selectOrdered .target ["ident", "decoy", "interface"]
    (.message ident) >>= allRows fun _ row => do
      let ident ← getString row 0
      let decoy ← getEnum .targetDecoy row 1
      let interface ← getString row 2
      pure (⟨ident, decoy.getD (L.enumDefault .targetDecoy), interface, none, none, none, none, []⟩ :
        Target)) ((targetsOf m).map targetHead) :=
  (targets_stored m).all_finds hd hk.symm hb fun _ t _ => (getString_finds (x := t.ident) rfl).bind
    ((getEnum_finds rfl).bind ((getString_finds (x := t.interface) rfl).bind (.done _)))

lemma getTarget_finds (h : ∀ t ∈ targetsOf m, Target.Readable t) :
    Finds b d (getTarget ident) ((targetsOf m).mapIdx (targetKept m)) := by
  rw [getTarget, ← bind_assoc]
  refine (objectRows_finds.mpr (targetHeads_finds hd hk hb)).bind (forIndexed_finds (k := 0) (by rw [List.length_mapIdx, List.length_map])
    fun n x y hx hy => ?_)
  rw [List.getElem?_map, Option.map_eq_some_iff] at hx
  rw [List.getElem?_mapIdx, Option.map_eq_some_iff] at hy
  obtain ⟨t, ht, rfl⟩ := hx
  obtain ⟨t', ht', rfl⟩ := hy
  obtain rfl : t = t' := Option.some.inj (ht.symm.trans ht')
  obtain ⟨hfiles, hnode⟩ := h t (List.mem_of_getElem? ht)
  obtain ⟨hnodes, husers, hprocesses, hservices, hlist⟩ := targets_parts ht
  have hnodeRead := getNode_finds (o := .party (.target n)) hd hb hk.symm fun x hx => by
    rw [hnodes] at hx
    exact hnode x (Option.mem_toList.mp hx)
  have huserRead := getUser_finds (p := .target n) hd hb hk
  have hprocessRead := getProcess_finds (o := .party (.target n)) hd hk.symm hb
  have hserviceRead := getService_finds (p := .target n) hd hb hk
  have hfileRead := getFile_finds (t := n) hd hk hb hc (hlist.symm ▸ hfiles)
  rw [hnodes, Option.head?_toList] at hnodeRead
  rw [husers, Option.head?_toList] at huserRead
  rw [hprocesses, Option.head?_toList] at hprocessRead
  rw [hservices, Option.head?_toList] at hserviceRead
  rw [hlist] at hfileRead
  rw [zero_add]
  exact hnodeRead.bind (huserRead.bind (hprocessRead.bind (hserviceRead.bind (hfileRead.bind (.done _)))))

lemma getTarget_found {targets : List Target} (h : Finds b d (getTarget ident) targets) :
    ∀ t ∈ targetsOf m, Target.Readable t := by
  intro t ht
  rw [getTarget, ← bind_assoc] at h
  obtain ⟨hlength, hall⟩ := forIndexed_found (k := .alert) (h.after (objectRows_finds.mpr (targetHeads_finds hd hk hb)))
    fun cnt _ => .bind (getNode_reads (.party (.target cnt)) cnt) fun _ =>
      .bind (getUser_reads 'T' cnt) fun _ =>
      .bind (getProcess_reads (.party (.target cnt)) cnt) fun _ =>
      .bind (getService_reads 'T' cnt) fun _ => .bind (getFile_reads cnt) fun _ => trivial
  rw [List.length_map] at hlength
  obtain ⟨n, hn, rfl⟩ := List.mem_iff_getElem.mp ht
  have hlast : n < targets.length := by omega
  obtain ⟨head, -, h⟩ := hall n _ (List.getElem?_eq_getElem hlast)
  obtain ⟨hnodes, -, -, -, hlist⟩ := targets_parts (List.getElem?_eq_getElem hn)
  rw [zero_add] at h
  obtain ⟨node, hnode, h⟩ := h.of_bind (run_reads (getNode_reads (.party (.target n)) n))
  obtain ⟨user, -, h⟩ := h.of_bind (run_reads (getUser_reads 'T' n))
  obtain ⟨process, -, h⟩ := h.of_bind (run_reads (getProcess_reads (.party (.target n)) n))
  obtain ⟨service, -, h⟩ := h.of_bind (run_reads (getService_reads 'T' n))
  obtain ⟨files, hfiles, -⟩ := h.of_bind (run_reads (getFile_reads n))
  have hreadable := getFile_found hd hk hb hc hfiles
  rw [hlist] at hreadable
  refine ⟨hreadable, fun x hx => ?_⟩
  have hunsigned := getNode_found (o := .party (.target n)) hd hb hk.symm hnode
  rw [hnodes] at hunsigned
  exact hunsigned x (Option.mem_toList.mpr hx)

omit hd hk hb hc in
/-- The files of the targets are read back as they were stored if and only if no size of a file and no
number of file accesses needs more than 32 bits and no target has an address with a negative VLAN
number. -/
theorem getTarget_files_iff {p : Pattern} {w : World} (h : Stored b p m w d) (hk : kindOf m = .alert)
    (hb : Unchanged b m) (hc : Calendar L) :
    (∃ targets, readBack b p m w (getTarget (d.counter (kindOf m))) = .ok targets ∧
      targets.map Target.files = (targetsOf m).map fun t => t.files.map fileKept) ↔
      ∀ t ∈ targetsOf m, Target.Readable t := by
  obtain ⟨d', hd, hw⟩ := h.holds
  constructor
  · rintro ⟨targets, hread, -⟩
    exact getTarget_found hd hk hb hc ((readBack_iff h.faultless hw getTarget_reads).mp hread)
  · intro hreadable
    have hfinds := getTarget_finds hd hk hb hc hreadable
    refine ⟨_, (readBack_iff h.faultless hw getTarget_reads).mpr hfinds, ?_⟩
    refine List.ext_getElem? fun n => ?_
    rw [List.getElem?_map, List.getElem?_map, List.getElem?_mapIdx, Option.map_map]
    rfl

end Targets

/-- The names of a few attributes, and the calendar of the first minute. -/
@[reducible] def minuteLibrary : Libprelude :=
  { bareLibrary with
    enumToString := fun e v => match e, v with
      | .targetDecoy, 0 => some "unknown"
      | .fileCategory, 1 => some "current"
      | .userIdType, 2 => some "original-user"
      | _, _ => none
    enumToNumeric := fun e s => match e, s with
      | .targetDecoy, "unknown" => 0
      | .fileCategory, "current" => 1
      | .userIdType, "original-user" => 2
      | _, _ => -1
    gmtime := fun t => ⟨t.toNat, 0, 0, 1, 0, 70⟩
    timegm := fun t => UInt32.ofNat t.sec.toNat }

/-- An alert with a target that has a file with an access, under a size. -/
def filedAlert (size : UInt64) : Alert :=
  { classifiedAlert with
    targets := [⟨none, 0, none, none, none, none, none,
      [⟨none, "passwd", "/etc/passwd", some ⟨7, 0, 0⟩, none, none, some size, none,
        [⟨⟨none, 2, none, some "root", some 0⟩, ["read", "write"]⟩], [], none,
        [], 1, none, none⟩]⟩] }

lemma minuteLibrary_calendar : Calendar minuteLibrary where
  unsigned _ := ⟨Int.natCast_nonneg 1970, Int.natCast_nonneg 1, Int.natCast_nonneg 1,
    Int.natCast_nonneg 0, Int.natCast_nonneg 0, Int.natCast_nonneg _⟩
  inverse _ := UInt32.ofNat_toNat

theorem getTarget_files_small :
    ∃ targets, readBack (L := minuteLibrary) .pgsql (fun _ _ => .ok) (.alert (filedAlert 1024)) newWorld
        (getTarget (L := minuteLibrary) 1) = .ok targets ∧
      targets.map Target.files = (targetsOf (.alert (filedAlert 1024))).map fun t =>
        t.files.map (fileKept (L := minuteLibrary)) := by
  have hstored : Stored (L := minuteLibrary) .pgsql (fun _ _ => .ok) (.alert (filedAlert 1024)) newWorld
      Database.empty := .first (L := minuteLibrary) (by decide +kernel)
  have hunchanged : Unchanged (L := minuteLibrary) .pgsql (.alert (filedAlert 1024)) :=
    .of_ne (L := minuteLibrary) nofun
  refine (getTarget_files_iff (L := minuteLibrary) hstored rfl hunchanged minuteLibrary_calendar).mpr ?_
  intro t ht
  obtain rfl := List.mem_singleton.mp ht
  refine ⟨fun f hf => ?_, fun n hn => (by cases hn)⟩
  obtain rfl := List.mem_singleton.mp hf
  refine ⟨fun n hn => ?_, fun n hn => (by cases hn), by decide⟩
  obtain rfl := Option.some.inj hn
  decide

/-- A file of four gigabytes cannot be read back. -/
theorem getTarget_large_file :
    ¬ ∃ targets, readBack (L := minuteLibrary) .pgsql (fun _ _ => .ok)
        (.alert (filedAlert 4294967296)) newWorld (getTarget (L := minuteLibrary) 1) = .ok targets ∧
      targets.map Target.files = (targetsOf (.alert (filedAlert 4294967296))).map fun t =>
        t.files.map (fileKept (L := minuteLibrary)) := by
  rintro ⟨targets, hread, -⟩
  have hfailed : (readBack (L := minuteLibrary) .pgsql (fun _ _ => .ok)
      (.alert (filedAlert 4294967296)) newWorld (getTarget (L := minuteLibrary) 1)).toOption = none := by
    decide +kernel
  rw [hread] at hfailed
  cases hfailed

end Preludedb.Classic
