import Preludedb.Classic.Reading

/-! The processes of a message as they are read back. The arguments of a process are asked for under
the index of its parent as a `char`, its environment strings under the index itself. -/

namespace Preludedb.Classic

open Foundations Sql Idmef

/-- The owner of the same kind under another index. -/
def Owner.withIndex (i : Int) : Owner → Owner
  | .analyzer k _ => .analyzer k i
  | .party (.source _) => .party (.source i)
  | .party (.target _) => .party (.target i)

/-- The owner whose arguments are read for those of another: its index is passed as a `char`. -/
def Owner.asChar (o : Owner) : Owner := o.withIndex (o.index.bmod 256)

/-- Below 128 parents, a `char` holds every index. -/
lemma Owner.asChar_eq {o : Owner} (h : 0 ≤ o.index) (hlt : o.index < 128) : o.asChar = o := by
  have hmod : o.index.bmod 256 = o.index := Int.bmod_eq_of_le (by omega) (by omega)
  rw [asChar, hmod]
  rcases o with _ | ⟨_ | _⟩ <;> rfl

def argsOf (m : Message) (o : Owner) : List String := (processesOf m o).flatMap Process.args

def envOf (m : Message) (o : Owner) : List String := (processesOf m o).flatMap Process.env

lemma numbered_flatMap {α β : Type} {l : List α} {g : α → List β} (i : Int) (h : l.length ≤ 1) :
    numbered i (l.flatMap g) = l.flatMap fun x => numbered i (g x) := by
  match l, h with
  | [], _ => rfl
  | [x], _ => rw [List.flatMap_singleton, List.flatMap_singleton]

lemma eq_head_toList {α : Type} {l : List α} (h : l.length ≤ 1) : l = l.head?.toList := by
  match l, h with
  | [], _ => rfl
  | [_], _ => rfl

lemma processesOf_eq {m : Message} {o : Owner} {q : Process} (h : q ∈ processesOf m o) :
    processesOf m o = [q] := by
  have hone := eq_head_toList (processesOf_length m o)
  rw [hone] at h
  rw [hone, Option.mem_toList.mp h]
  rfl

lemma argsOf_eq {m : Message} {o : Owner} {q : Process} (h : q ∈ processesOf m o) :
    argsOf m o = q.args := by
  rw [argsOf, processesOf_eq h, List.flatMap_singleton]

lemma envOf_eq {m : Message} {o : Owner} {q : Process} (h : q ∈ processesOf m o) :
    envOf m o = q.env := by
  rw [envOf, processesOf_eq h, List.flatMap_singleton]

section

variable [L : Libprelude] {b : Backend} {m : Message} {ident : ℕ} {d : Database} {o : Owner}

/-- A list of texts comes back as it was. -/
lemma getStringListed_finds {s : Element} {column : String} {xs : List String} {e : Int → Element}
    (hs : StoredAs m s xs fun i => stringEntry (e i) column) (hd : Holds m ident d)
    (hk : s.kind = kindOf m) (hb : Unchanged b m)
    (hcolumn : ∀ i x, (rowAt ident s (fun i => stringEntry (e i) column) i x).column column =
      textCell (some x)) :
    Finds b d (getStringListed s.table column (s.query ident .any)) xs := by
  have hloop : Finds b d (selectOrdered s.table [column] (s.query ident .any) >>=
      allRows fun _ row => getString row 0) ((numbered 0 xs).map fun x => some x.2) :=
    hs.listed_finds (g := fun _ x => some x) hd hk hb fun x _ => getString_finds (hcolumn x.1 x.2)
  have hsome : ((numbered 0 xs).map fun x => some x.2).filterMap id = xs := by
    rw [List.filterMap_map]
    exact (congrFun List.filterMap_eq_map' _).trans (numbered_map_snd 0 xs)
  rw [← hsome]
  obtain ⟨table, htable, hrows⟩ := hloop.of_bind rfl
  exact htable.bind (hrows.bind (.done _))

lemma args_stored (m : Message) (o : Owner) : StoredAs m (.processArg o 0) (argsOf m o)
    fun i => stringEntry (.processArg o i) "arg" where
  indexed := ⟨fun _ _ => rfl, fun _ _ _ => rfl⟩
  arity := nofun
  group := by
    rw [argsOf, numbered_flatMap 0 (processesOf_length m o), List.map_flatMap]
    exact .inl rfl

lemma env_stored (m : Message) (o : Owner) : StoredAs m (.processEnv o 0) (envOf m o)
    fun i => stringEntry (.processEnv o i) "env" where
  indexed := ⟨fun _ _ => rfl, fun _ _ _ => rfl⟩
  arity := nofun
  group := by
    rw [envOf, numbered_flatMap 0 (processesOf_length m o), List.map_flatMap]
    exact .inl rfl

lemma getProcessArg_finds (hd : Holds m ident d) (hk : o.kind = kindOf m) (hb : Unchanged b m) :
    Finds b d (getProcessArg ident o.parentType o.index) (argsOf m o.asChar) := by
  have hkind : o.asChar.kind = kindOf m := by
    rcases o with _ | ⟨_ | _⟩ <;> exact hk
  have hquery : Where.typed o.parentType ident [o.index.bmod 256] =
      (Element.processArg o.asChar 0).query ident .any := by
    rcases o with _ | ⟨_ | _⟩ <;> rfl
  rw [getProcessArg, hquery]
  exact getStringListed_finds (args_stored m o.asChar) hd hkind hb fun _ _ => rfl

lemma getProcessEnv_finds (hd : Holds m ident d) (hk : o.kind = kindOf m) (hb : Unchanged b m) :
    Finds b d (getProcessEnv ident o.parentType o.index) (envOf m o) := by
  have hquery : Where.typed o.parentType ident [o.index] =
      (Element.processEnv o 0).query ident .any := rfl
  rw [getProcessEnv, hquery]
  exact getStringListed_finds (env_stored m o) hd hk hb fun _ _ => rfl

/-- The process of a parent is found as it was stored, but for its arguments. -/
lemma getProcess_finds (hd : Holds m ident d) (hk : o.kind = kindOf m) (hb : Unchanged b m) :
    Finds b d (getProcess ident o.parentType o.index)
      ((processesOf m o).head?.map fun q => { q with args := argsOf m o.asChar }) := by
  have hone := eq_head_toList (processesOf_length m o)
  have hgroup : group m (.process o) = (processesOf m o).head?.toList.map fun q =>
      (⟨.process o, texts [q.ident, some q.name, q.path], [("ident", textCell q.ident),
        ("name", textCell (some q.name)), ("pid", getOptionalUint32 q.pid), ("path", textCell q.path)],
        .checked⟩ : Entry) := by
    rw [← hone, List.map_eq_flatMap]
    rfl
  refine single_finds (s := .process o) hgroup hd hk hb fun q hq => ?_
  have henv : envOf m o = q.env := envOf_eq (List.mem_of_head? hq)
  refine (getString_finds rfl).bind ((getString_finds (x := some q.name) rfl).bind ?_)
  refine (getUint32_finds rfl).bind ((getString_finds rfl).bind ?_)
  refine (getProcessArg_finds hd hk hb).bind ((getProcessEnv_finds hd hk hb).bind ?_)
  rw [henv]
  exact .done _

end

section Parents

variable [L : Libprelude] {b : Backend} {m : Message} {ident : ℕ} {d : Database}

lemma sources_stored (m : Message) : StoredAs m (.source 0) (sourcesOf m) sourceEntry where
  indexed := ⟨fun _ _ => rfl, fun _ _ _ => rfl⟩
  arity := nofun
  group := .inr rfl

lemma targets_stored (m : Message) : StoredAs m (.target 0) (targetsOf m) targetEntry where
  indexed := ⟨fun _ _ => rfl, fun _ _ _ => rfl⟩
  arity := nofun
  group := .inr rfl

lemma analyzers_stored (m : Message) (k : Kind) :
    StoredAs m (.analyzer k 0) (analyzersOf m k) (analyzerEntry k) where
  indexed := ⟨fun _ _ => rfl, fun _ _ _ => rfl⟩
  arity := nofun
  group := .inr rfl

/-- A source without the objects of the other tables, as its row is read. -/
def sourceHead (s : Source) : Source :=
  ⟨s.ident, ((L.enumToString .sourceSpoofed s.spoofed).map (L.enumToNumeric .sourceSpoofed)).getD
    (L.enumDefault .sourceSpoofed), s.interface, none, none, none, none⟩

def targetHead (t : Target) : Target :=
  ⟨t.ident, ((L.enumToString .targetDecoy t.decoy).map (L.enumToNumeric .targetDecoy)).getD
    (L.enumDefault .targetDecoy), t.interface, none, none, none, none, []⟩

/-- Each source that is read has the process that is found under its index. -/
lemma getSource_processes (hd : Holds m ident d) (hk : kindOf m = .alert) (hb : Unchanged b m)
    {sources : List Source} (h : Finds b d (getSource ident) sources) :
    sources.length = (sourcesOf m).length ∧ ∀ (n : ℕ) s, sources[n]? = some s →
      Finds b d (getProcess ident 'S' n) s.process := by
  rw [getSource, ← bind_assoc] at h
  have h := h.after (objectRows_finds.mpr ((sources_stored m).listed_finds (g := fun _ s => sourceHead s) hd
    hk.symm hb fun x _ => (getString_finds rfl).bind ((getEnum_finds rfl).bind ((getString_finds rfl).bind
      (.done _)))))
  obtain ⟨hlength, hall⟩ := forIndexed_found (k := .alert) h fun cnt _ =>
    .bind (getNode_reads (.party (.source cnt)) cnt) fun _ => .bind (getUser_reads 'S' cnt) fun _ =>
      .bind (getProcess_reads (.party (.source cnt)) cnt) fun _ =>
      .bind (getService_reads 'S' cnt) fun _ => trivial
  rw [List.length_map, numbered_length] at hlength
  refine ⟨hlength, fun n s hs => ?_⟩
  obtain ⟨head, -, hfinds⟩ := hall n s hs
  rw [zero_add] at hfinds
  obtain ⟨node, -, hfinds⟩ := hfinds.of_bind (run_reads (getNode_reads (.party (.source n)) n))
  obtain ⟨user, -, hfinds⟩ := hfinds.of_bind (run_reads (getUser_reads 'S' n))
  obtain ⟨process, hprocess, hfinds⟩ :=
    hfinds.of_bind (run_reads (getProcess_reads (.party (.source n)) n))
  obtain ⟨service, -, hfinds⟩ := hfinds.of_bind (run_reads (getService_reads 'S' n))
  obtain rfl := hfinds.unique (.done _)
  exact hprocess

lemma getTarget_processes (hd : Holds m ident d) (hk : kindOf m = .alert) (hb : Unchanged b m)
    {targets : List Target} (h : Finds b d (getTarget ident) targets) :
    targets.length = (targetsOf m).length ∧ ∀ (n : ℕ) t, targets[n]? = some t →
      Finds b d (getProcess ident 'T' n) t.process := by
  rw [getTarget, ← bind_assoc] at h
  have h := h.after (objectRows_finds.mpr ((targets_stored m).listed_finds (g := fun _ t => targetHead t) hd
    hk.symm hb fun x _ => (getString_finds rfl).bind ((getEnum_finds rfl).bind ((getString_finds rfl).bind
      (.done _)))))
  obtain ⟨hlength, hall⟩ := forIndexed_found (k := .alert) h fun cnt _ =>
    .bind (getNode_reads (.party (.target cnt)) cnt) fun _ => .bind (getUser_reads 'T' cnt) fun _ =>
      .bind (getProcess_reads (.party (.target cnt)) cnt) fun _ =>
      .bind (getService_reads 'T' cnt) fun _ => .bind (getFile_reads cnt) fun _ => trivial
  rw [List.length_map, numbered_length] at hlength
  refine ⟨hlength, fun n t ht => ?_⟩
  obtain ⟨head, -, hfinds⟩ := hall n t ht
  rw [zero_add] at hfinds
  obtain ⟨node, -, hfinds⟩ := hfinds.of_bind (run_reads (getNode_reads (.party (.target n)) n))
  obtain ⟨user, -, hfinds⟩ := hfinds.of_bind (run_reads (getUser_reads 'T' n))
  obtain ⟨process, hprocess, hfinds⟩ :=
    hfinds.of_bind (run_reads (getProcess_reads (.party (.target n)) n))
  obtain ⟨service, -, hfinds⟩ := hfinds.of_bind (run_reads (getService_reads 'T' n))
  obtain ⟨files, -, hfinds⟩ := hfinds.of_bind (run_reads (getFile_reads n))
  obtain rfl := hfinds.unique (.done _)
  exact hprocess

lemma getAnalyzer_processes {k : Kind} (hd : Holds m ident d) (hk : k = kindOf m)
    {analyzers : List Analyzer} (h : Finds b d (getAnalyzer ident k.parentType) analyzers) :
    analyzers.length = (analyzersOf m k).length ∧ ∀ (n : ℕ) a, analyzers[n]? = some a →
      Finds b d (getProcess ident k.parentType n) a.process := by
  rw [getAnalyzer] at h
  have h := h.after ((analyzers_stored m k).select hd hk _)
  obtain ⟨hlength, hall⟩ := allRows_found (k := k) h fun index row =>
    .bind (getString_reads row 0) fun _ => .bind (getString_reads row 1) fun _ =>
      .bind (getString_reads row 2) fun _ => .bind (getString_reads row 3) fun _ =>
      .bind (getString_reads row 4) fun _ => .bind (getString_reads row 5) fun _ =>
      .bind (getString_reads row 6) fun _ => .bind (getString_reads row 7) fun _ =>
      .bind (getNode_reads (.analyzer k index) index) fun _ =>
      .bind (getProcess_reads (.analyzer k index) index) fun _ => trivial
  rw [List.length_map, numbered_length] at hlength
  refine ⟨hlength, fun n a ha => ?_⟩
  obtain ⟨row, -, hfinds⟩ := hall n a ha
  have hstring : ∀ i, ((getString row i).run (serve b) d).2 = d := fun i => by
    have hreads : (getString row i).Requests (Reads k ident) := getString_reads row i
    exact run_reads hreads
  obtain ⟨_, -, hfinds⟩ := hfinds.of_bind (hstring 0)
  obtain ⟨_, -, hfinds⟩ := hfinds.of_bind (hstring 1)
  obtain ⟨_, -, hfinds⟩ := hfinds.of_bind (hstring 2)
  obtain ⟨_, -, hfinds⟩ := hfinds.of_bind (hstring 3)
  obtain ⟨_, -, hfinds⟩ := hfinds.of_bind (hstring 4)
  obtain ⟨_, -, hfinds⟩ := hfinds.of_bind (hstring 5)
  obtain ⟨_, -, hfinds⟩ := hfinds.of_bind (hstring 6)
  obtain ⟨_, -, hfinds⟩ := hfinds.of_bind (hstring 7)
  obtain ⟨node, -, hfinds⟩ := hfinds.of_bind (run_reads (getNode_reads (.analyzer k n) n))
  obtain ⟨process, hprocess, hfinds⟩ :=
    hfinds.of_bind (run_reads (getProcess_reads (.analyzer k n) n))
  obtain rfl := hfinds.unique (.done _)
  exact hprocess

variable {p : Pattern} {w : World}

/-- The arguments and the environment strings of a process. -/
def processTexts (q : Process) : List String × List String := (q.args, q.env)

omit L in
/-- A source of `runningAlert` behind 128 others. -/
def crowdedAlert : Alert :=
  { runningAlert with
    sources := List.replicate 128 ⟨none, 0, none, none, none, none, none⟩ ++ runningAlert.sources }

end Parents

end Preludedb.Classic
