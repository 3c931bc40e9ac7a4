import Preludedb.Classic.Storing
import Preludedb.Sql.Steady

/-! What the insertion of a message sends to the database: one row in the table of its kind, then
the entries of the message under the ident that row was given. -/

namespace Preludedb.Classic

open Foundations Sql Idmef

def Owner.kind : Owner → Kind
  | .analyzer k _ => k
  | _ => .alert

/-- The kind of the messages that have the element. -/
def Element.kind : Element → Kind
  | createTime k | analyzerTime k | analyzer k _ | additionalData k _ => k
  | node o | address o _ | process o | processArg o _ | processEnv o _ => o.kind
  | _ => .alert

def kindOf : Message → Kind
  | .alert _ => .alert
  | .heartbeat _ => .heartbeat

def messageidOf : Message → Option String
  | .alert a => a.messageid
  | .heartbeat h => h.messageid

def topFields : Message → List (String × Cell)
  | .alert a => [("messageid", textCell a.messageid)]
  | .heartbeat h => [("messageid", textCell h.messageid),
      ("heartbeat_interval", getOptionalUint32 h.heartbeatInterval)]

def bufferOf : AlertType → List (Option Data)
  | .overflow o => [o.buffer]
  | _ => []

/-- The data that an insertion converts to texts or bytes. -/
def dataOf : Message → List (Option Data)
  | .alert a => a.additionalData.map (fun d => some d.data) ++ bufferOf a.type
  | .heartbeat h => h.additionalData.map fun d => some d.data

/-- The tables whose INSERT is issued without a look at its result. -/
def Table.unchecked : Table → Bool
  | classification | toolAlert | webService => true
  | _ => false

def servesWeb (s : Option Service) : Bool := s.any fun v => v.type.isWeb

lemma servesWeb_of_mem {s : Option Service} {v : Service} (h : v ∈ s) (hv : v.type.isWeb) :
    servesWeb s := by
  rw [Option.mem_def.mp h]
  exact hv

/-- The unchecked tables an insertion writes to. -/
def uncheckedTables : Message → List Table
  | .alert a => (if a.classification.isSome then [.classification] else []) ++
      (if a.type.isTool then [.toolAlert] else []) ++
      (if a.sources.any (fun s => servesWeb s.service) || a.targets.any (fun t => servesWeb t.service)
        then [.webService] else [])
  | .heartbeat _ => []

lemma mem_uncheckedTables {a : Alert} {t : Table} : t ∈ uncheckedTables (.alert a) ↔
    t = .classification ∧ a.classification.isSome ∨ t = .toolAlert ∧ a.type.isTool ∨
      t = .webService ∧ ((∃ s ∈ a.sources, servesWeb s.service) ∨
        ∃ t ∈ a.targets, servesWeb t.service) := by
  simp [uncheckedTables, and_comm]

def Issue.passes : Issue → Bool
  | .checked | .checkedOr _ => false
  | .unchecked | .uncheckedOrNull => true

def Literal.isData : Literal → Bool
  | .data _ => true
  | _ => false

/-- What the requests of an entry depend on: the kind of the message, the tables `W` of its
unchecked statements, and the data `D` that are converted for it. -/
structure Entry.Fits (k : Kind) (W : Table → Prop) (D : Option Data → Prop) (e : Entry) : Prop where
  kind : e.element.kind = k
  passes : e.issue.passes = e.element.table.unchecked
  unchecked : e.element.table.unchecked = true → W e.element.table
  null : e.issue = .uncheckedOrNull → k = .alert
  data : ∀ d, .data d ∈ e.literals → D d

lemma Entry.Fits.checked {k : Kind} {W : Table → Prop} {D : Option Data → Prop} {e : Entry}
    (hk : e.element.kind = k) (hp : e.issue.passes = false)
    (ht : e.element.table.unchecked = false) (hd : e.literals.any Literal.isData = false) :
    e.Fits k W D where
  kind := hk
  passes := hp.trans ht.symm
  unchecked h := by rw [ht] at h; cases h
  null h := by rw [h] at hp; cases hp
  data d h := absurd rfl (List.any_eq_false.mp hd _ h)

lemma mem_numbered {α : Type} {xs : List α} {i j : Int} {x : α} (h : (j, x) ∈ numbered i xs) :
    x ∈ xs := by
  induction xs generalizing i with
  | nil => cases h
  | cons y ys ih =>
    rcases List.mem_cons.mp h with h | h
    · obtain ⟨-, rfl⟩ := Prod.mk.inj h
      exact List.mem_cons_self
    · exact List.mem_cons_of_mem y (ih h)

lemma mem_listed {α : Type} {xs : List α} {j : Int} {x : α} (h : (j, x) ∈ listed xs) : x ∈ xs := by
  rcases List.mem_append.mp h with h | h
  · exact mem_numbered h
  · obtain ⟨y, hy, he⟩ := List.mem_map.mp h
    obtain ⟨-, rfl⟩ := Prod.mk.inj he
    exact List.mem_of_getLast? (Option.mem_toList.mp hy)

lemma exists_listed {α : Type} {xs : List α} {x : α} (h : x ∈ xs) : ∃ i, (i, x) ∈ listed xs := by
  have hn : ∀ j, ∃ i, (i, x) ∈ numbered j xs := by
    induction xs with
    | nil => cases h
    | cons y ys ih =>
      intro j
      rcases List.mem_cons.mp h with rfl | h
      · exact ⟨j, List.mem_cons_self⟩
      · obtain ⟨i, hi⟩ := ih h (j + 1)
        exact ⟨i, List.mem_cons_of_mem _ hi⟩
  obtain ⟨i, hi⟩ := hn 0
  exact ⟨i, List.mem_append_left _ hi⟩

/-- The requests of the entries of a message of kind `k` stored under `ident`. -/
inductive Stores (k : Kind) (ident : ℕ) : Request → Prop
  | escapeFast (input : Option String) : Stores k ident (.escapeFast input)
  | escapeBinary (input : List UInt8) : Stores k ident (.escapeBinary (some input))
  | insert (e : Element) (fields : List (String × Cell)) (h : e.kind = k) :
      Stores k ident (e.insert ident fields)

lemma Stores.inner {k : Kind} {ident : ℕ} {r : Request} (h : Stores k ident r) :
    r.inner = true := by
  cases h <;> rfl

section

variable [L : Libprelude]

def entriesOf : Message → List Entry
  | .alert a => alertEntries a
  | .heartbeat h => heartbeatEntries h

lemma insertOf_eq (m : Message) : insertOf m =
    Program.call (.escapeFast (messageidOf m)) >>= fun _ =>
      insertMessage (kindOf m) (topFields m) >>= fun ident => Entry.store ident (entriesOf m) := by
  cases m with
  | alert a =>
    simp only [insertOf, insertAlert, insertMessageMessageid, sqlEscape_bind, bind_assoc,
      insertAlertBody_eq]
    rfl
  | heartbeat h =>
    simp only [insertOf, insertHeartbeat, sqlEscape_bind, insertHeartbeatBody_eq]
    rfl

variable {W : Table → Prop} {D : Option Data → Prop}

lemma nodeEntries_fits (o : Owner) (n : Node) : ∀ e ∈ nodeEntries o n, e.Fits o.kind W D := by
  simp only [nodeEntries, List.forall_mem_cons, List.forall_mem_map]
  exact ⟨.checked rfl rfl rfl rfl, fun _ _ => .checked rfl rfl rfl rfl⟩

lemma userEntries_fits (p : Party) (u : User) : ∀ e ∈ userEntries p u, e.Fits .alert W D := by
  simp only [userEntries, List.forall_mem_cons, List.forall_mem_map]
  exact ⟨.checked rfl rfl rfl rfl, fun _ _ => .checked rfl rfl rfl rfl⟩

omit L in
lemma processEntries_fits (o : Owner) (p : Process) :
    ∀ e ∈ processEntries o p, e.Fits o.kind W D := by
  simp only [processEntries, List.cons_append, List.forall_mem_cons, List.forall_mem_append,
    List.forall_mem_map]
  exact ⟨.checked rfl rfl rfl rfl, fun _ _ => .checked rfl rfl rfl rfl,
    fun _ _ => .checked rfl rfl rfl rfl⟩

omit L in
lemma webServiceEntries_fits (p : Party) (w : WebService) (hw : W .webService) :
    ∀ e ∈ webServiceEntries p w, e.Fits .alert W D := by
  simp only [webServiceEntries, List.forall_mem_cons, List.forall_mem_map]
  refine ⟨⟨rfl, rfl, fun _ => hw, (by simp), ?_⟩, fun _ _ => .checked rfl rfl rfl rfl⟩
  simp

omit L in
lemma serviceEntries_fits (p : Party) (s : Service) (hw : s.type.isWeb → W .webService) :
    ∀ e ∈ serviceEntries p s, e.Fits .alert W D := by
  simp only [serviceEntries, List.forall_mem_cons]
  refine ⟨.checked rfl rfl rfl rfl, ?_⟩
  cases hs : s.type with
  | default => exact List.forall_mem_nil _
  | web w => exact webServiceEntries_fits p w (hw (by rw [hs]; rfl))
  | snmp m => simpa only [serviceTypeEntries, List.forall_mem_singleton] using .checked rfl rfl rfl rfl

lemma fileAccessEntries_fits (t f i : Int) (a : FileAccess) :
    ∀ e ∈ fileAccessEntries t f i a, e.Fits .alert W D := by
  simp only [fileAccessEntries, List.cons_append, List.forall_mem_cons, List.forall_mem_append,
    List.forall_mem_map]
  exact ⟨.checked rfl rfl rfl rfl, fun _ _ => .checked rfl rfl rfl rfl, .checked rfl rfl rfl rfl,
    List.forall_mem_nil _⟩

lemma fileEntries_fits (t i : Int) (f : File) : ∀ e ∈ fileEntries t i f, e.Fits .alert W D := by
  simp only [fileEntries, List.cons_append, List.forall_mem_cons, List.forall_mem_append,
    List.forall_mem_map, List.forall_mem_flatMap]
  exact ⟨.checked rfl rfl rfl rfl, ⟨⟨fun a _ => fileAccessEntries_fits t i a.1 a.2,
    fun _ _ => .checked rfl rfl rfl rfl⟩, fun _ _ => .checked rfl rfl rfl rfl⟩,
    fun _ _ => .checked rfl rfl rfl rfl⟩

lemma ownedEntries_fits (p : Party) (node : Option Node) (user : Option User)
    (process : Option Process) (service : Option Service)
    (hw : ∀ s ∈ service, s.type.isWeb → W .webService) :
    ∀ e ∈ ownedEntries p node user process service, e.Fits .alert W D := by
  simp only [ownedEntries, List.forall_mem_append, List.forall_mem_flatMap]
  exact ⟨⟨⟨fun n _ => nodeEntries_fits (.party p) n, fun u _ => userEntries_fits p u⟩,
    fun q _ => processEntries_fits (.party p) q⟩,
    fun s hs => serviceEntries_fits p s (hw s (Option.mem_toList.mp hs))⟩

lemma sourceEntries_fits (i : Int) (s : Source) (hw : servesWeb s.service → W .webService) :
    ∀ e ∈ sourceEntries i s, e.Fits .alert W D := by
  simp only [sourceEntries, List.forall_mem_cons]
  exact ⟨.checked rfl rfl rfl rfl,
    ownedEntries_fits (.source i) _ _ _ _ fun v hv h => hw (servesWeb_of_mem hv h)⟩

lemma targetEntries_fits (i : Int) (t : Target) (hw : servesWeb t.service → W .webService) :
    ∀ e ∈ targetEntries i t, e.Fits .alert W D := by
  simp only [targetEntries, List.cons_append, List.forall_mem_cons, List.forall_mem_append,
    List.forall_mem_flatMap]
  exact ⟨.checked rfl rfl rfl rfl,
    ownedEntries_fits (.target i) _ _ _ _ fun v hv h => hw (servesWeb_of_mem hv h),
    fun f _ => fileEntries_fits i f.1 f.2⟩

lemma analyzerEntries_fits (k : Kind) (i : Int) (a : Analyzer) :
    ∀ e ∈ analyzerEntries k i a, e.Fits k W D := by
  simp only [analyzerEntries, List.cons_append, List.forall_mem_cons, List.forall_mem_append,
    List.forall_mem_flatMap]
  exact ⟨.checked rfl rfl rfl rfl, fun n _ => nodeEntries_fits (.analyzer k i) n,
    fun p _ => processEntries_fits (.analyzer k i) p⟩

lemma classificationEntries_fits (c : Classification) (hw : W .classification) :
    ∀ e ∈ classificationEntries c, e.Fits .alert W D := by
  simp only [classificationEntries, List.forall_mem_cons, List.forall_mem_map]
  refine ⟨⟨rfl, rfl, fun _ => hw, (by simp), ?_⟩, fun _ _ => .checked rfl rfl rfl rfl⟩
  simp [texts]

lemma assessmentEntries_fits (a : Assessment) : ∀ e ∈ assessmentEntries a, e.Fits .alert W D := by
  simp only [assessmentEntries, List.cons_append, List.forall_mem_cons, List.forall_mem_append,
    List.forall_mem_map]
  exact ⟨.checked rfl rfl rfl rfl, ⟨fun _ _ => .checked rfl rfl rfl rfl,
    fun _ _ => .checked rfl rfl rfl rfl⟩, fun _ _ => .checked rfl rfl rfl rfl⟩

omit L in
lemma toolAlertEntries_fits (t : ToolAlert) (hw : W .toolAlert) :
    ∀ e ∈ toolAlertEntries t, e.Fits .alert W D := by
  simp only [toolAlertEntries, List.forall_mem_cons, List.forall_mem_map]
  refine ⟨⟨rfl, ?_, fun _ => hw, fun _ => rfl, ?_⟩, fun _ _ => .checked rfl rfl rfl rfl⟩
  · split <;> rfl
  · simp [texts]

lemma additionalDataEntry_fits (k : Kind) (i : Int) (d : AdditionalData) (hd : D (some d.data)) :
    (additionalDataEntry k i d).Fits k W D := by
  refine ⟨rfl, rfl, nofun, nofun, fun d' h => ?_⟩
  obtain rfl : d' = some d.data := by simpa [additionalDataEntry, texts] using h
  exact hd

lemma alertTypeEntries_fits (t : AlertType) (hw : t.isTool → W .toolAlert)
    (hd : ∀ d ∈ bufferOf t, D d) : ∀ e ∈ alertTypeEntries t, e.Fits .alert W D := by
  cases t with
  | default => exact List.forall_mem_nil _
  | tool t => exact toolAlertEntries_fits t (hw rfl)
  | overflow o =>
    simp only [alertTypeEntries, List.forall_mem_singleton]
    refine ⟨rfl, rfl, nofun, nofun, fun d h => hd d ?_⟩
    simpa [overflowAlertEntry, texts, bufferOf] using h
  | correlation c =>
    simp only [alertTypeEntries, correlationAlertEntries, List.forall_mem_cons, List.forall_mem_map]
    exact ⟨.checked rfl rfl rfl rfl, fun _ _ => .checked rfl rfl rfl rfl⟩

lemma alertEntries_fits (a : Alert) : ∀ e ∈ alertEntries a,
    e.Fits .alert (· ∈ uncheckedTables (.alert a)) (· ∈ dataOf (.alert a)) := by
  have hd : ∀ x ∈ listed a.additionalData, some x.2.data ∈ dataOf (.alert a) := fun x hx =>
    List.mem_append_left _ (List.mem_map.mpr ⟨x.2, mem_listed hx, rfl⟩)
  have hs : ∀ x ∈ listed a.sources, servesWeb x.2.service →
      .webService ∈ uncheckedTables (.alert a) := fun x hx h =>
    mem_uncheckedTables.mpr (.inr (.inr ⟨rfl, .inl ⟨x.2, mem_listed hx, h⟩⟩))
  have ht : ∀ x ∈ listed a.targets, servesWeb x.2.service →
      .webService ∈ uncheckedTables (.alert a) := fun x hx h =>
    mem_uncheckedTables.mpr (.inr (.inr ⟨rfl, .inr ⟨x.2, mem_listed hx, h⟩⟩))
  simp only [alertEntries, List.cons_append, List.forall_mem_cons, List.forall_mem_append,
    List.forall_mem_map, List.forall_mem_flatMap]
  exact ⟨.checked rfl rfl rfl rfl, ⟨⟨⟨⟨⟨⟨⟨⟨fun _ _ => .checked rfl rfl rfl rfl,
    fun _ _ => .checked rfl rfl rfl rfl⟩, fun x _ => assessmentEntries_fits x⟩,
    alertTypeEntries_fits a.type (fun h => mem_uncheckedTables.mpr (.inr (.inl ⟨rfl, h⟩)))
      fun d h => List.mem_append_right _ h⟩,
    fun x _ => analyzerEntries_fits .alert x.1 x.2⟩,
    fun x hx => sourceEntries_fits x.1 x.2 (hs x hx)⟩,
    fun x hx => targetEntries_fits x.1 x.2 (ht x hx)⟩,
    fun x hx => classificationEntries_fits x
      (mem_uncheckedTables.mpr (.inl ⟨rfl, Option.isSome_of_mem (Option.mem_toList.mp hx)⟩))⟩,
    fun x hx => additionalDataEntry_fits .alert x.1 x.2 (hd x hx)⟩⟩

lemma heartbeatEntries_fits (h : Heartbeat) : ∀ e ∈ heartbeatEntries h,
    e.Fits .heartbeat (· ∈ uncheckedTables (.heartbeat h)) (· ∈ dataOf (.heartbeat h)) := by
  have hd : ∀ x ∈ listed h.additionalData, some x.2.data ∈ dataOf (.heartbeat h) := fun x hx =>
    List.mem_map.mpr ⟨x.2, mem_listed hx, rfl⟩
  simp only [heartbeatEntries, List.forall_mem_append, List.forall_mem_map, List.forall_mem_flatMap,
    List.forall_mem_singleton]
  exact ⟨⟨⟨fun x _ => analyzerEntries_fits .heartbeat x.1 x.2, .checked rfl rfl rfl rfl⟩,
    fun _ _ => .checked rfl rfl rfl rfl⟩,
    fun x hx => additionalDataEntry_fits .heartbeat x.1 x.2 (hd x hx)⟩

lemma entriesOf_fits (m : Message) :
    ∀ e ∈ entriesOf m, e.Fits (kindOf m) (· ∈ uncheckedTables m) (· ∈ dataOf m) := by
  cases m with
  | alert a => exact alertEntries_fits a
  | heartbeat h => exact heartbeatEntries_fits h

lemma exists_data {m : Message} {d : Option Data} (h : d ∈ dataOf m) :
    ∃ e ∈ entriesOf m, .data d ∈ e.literals := by
  have added {k : Kind} {ds : List AdditionalData} {x : AdditionalData} (hx : x ∈ ds) :
      ∃ e ∈ (listed ds).map (fun x => additionalDataEntry k x.1 x.2),
        .data (some x.data) ∈ e.literals := by
    obtain ⟨i, hi⟩ := exists_listed hx
    exact ⟨_, List.mem_map_of_mem hi, by simp [additionalDataEntry]⟩
  cases m with
  | heartbeat m =>
    obtain ⟨x, hx, rfl⟩ := List.mem_map.mp h
    obtain ⟨e, he, hd⟩ := added (k := .heartbeat) hx
    exact ⟨e, List.mem_append_right _ he, hd⟩
  | alert a =>
    rcases List.mem_append.mp h with h | h
    · obtain ⟨x, hx, rfl⟩ := List.mem_map.mp h
      obtain ⟨e, he, hd⟩ := added (k := .alert) hx
      exact ⟨e, List.mem_append_right _ he, hd⟩
    · cases ht : a.type with
      | overflow o =>
        simp only [ht, bufferOf, List.mem_singleton] at h
        exact ⟨overflowAlertEntry o, by simp [entriesOf, alertEntries, ht, alertTypeEntries],
          by simp [overflowAlertEntry, h]⟩
      | default | tool _ | correlation _ => simp [ht, bufferOf] at h

lemma exists_unchecked_owned (p : Party) (node : Option Node) (user : Option User)
    (process : Option Process) {service : Option Service} (h : servesWeb service) :
    ∃ e ∈ ownedEntries p node user process service,
      e.element.table = .webService ∧ e.issue.passes = true := by
  cases hs : service with
  | none => simp [hs, servesWeb] at h
  | some v =>
    cases ht : v.type with
    | web w =>
      refine ⟨(webServiceEntries p w).head (by simp [webServiceEntries]), ?_, rfl, rfl⟩
      simp [ownedEntries, serviceEntries, ht, serviceTypeEntries, webServiceEntries]
    | default | snmp _ => simp [hs, servesWeb, ht, ServiceType.isWeb] at h

lemma exists_unchecked {m : Message} {t : Table} (h : t ∈ uncheckedTables m) :
    ∃ e ∈ entriesOf m, e.element.table = t ∧ e.issue.passes = true := by
  cases m with
  | heartbeat m => cases h
  | alert a =>
    rcases mem_uncheckedTables.mp h with ⟨rfl, hc⟩ | ⟨rfl, ht⟩ | ⟨rfl, ⟨s, hm, hs⟩ | ⟨t, hm, ht⟩⟩
    · obtain ⟨c, hc⟩ := Option.isSome_iff_exists.mp hc
      refine ⟨(classificationEntries c).head (by simp [classificationEntries]), ?_, rfl, rfl⟩
      simp [entriesOf, alertEntries, hc, classificationEntries]
    · cases hy : a.type with
      | tool y =>
        refine ⟨(toolAlertEntries y).head (by simp [toolAlertEntries]), ?_, rfl, ?_⟩
        · simp [entriesOf, alertEntries, hy, alertTypeEntries, toolAlertEntries]
        · simp only [toolAlertEntries, List.head_cons]
          split <;> rfl
      | default | correlation _ | overflow _ => simp [hy, AlertType.isTool] at ht
    · obtain ⟨i, hi⟩ := exists_listed hm
      obtain ⟨e, he, h⟩ := exists_unchecked_owned (.source i) s.node s.user s.process hs
      refine ⟨e, ?_, h⟩
      have he' : e ∈ sourceEntries i s := List.mem_cons_of_mem _ he
      simp only [entriesOf, alertEntries, List.mem_append, List.mem_flatMap]
      exact .inl (.inl (.inl (.inr ⟨(i, s), hi, he'⟩)))
    · obtain ⟨i, hi⟩ := exists_listed hm
      obtain ⟨e, he, h⟩ := exists_unchecked_owned (.target i) t.node t.user t.process ht
      refine ⟨e, ?_, h⟩
      have he' : e ∈ targetEntries i t := List.mem_append_left _ (List.mem_cons_of_mem _ he)
      simp only [entriesOf, alertEntries, List.mem_append, List.mem_flatMap]
      exact .inl (.inl (.inr ⟨(i, t), hi, he'⟩))

section Requests

variable {k : Kind} {ident : ℕ} {W : Table → Prop} {D : Option Data → Prop} {e : Entry}
  {es : List Entry}

lemma Literal.step_data (d : Option Data) :
    (∃ bytes, (Literal.data d).step = .must (.escapeBinary (some bytes)) id) ∨
      ∃ e, L.dataToString d = .error e ∧ (Literal.data d).step = .stop e := by
  cases d with
  | none => cases hd : L.dataToString none <;> simp [Literal.step, hd]
  | some d =>
    cases d with
    | byteString _ | charString _ | char _ => exact .inl ⟨_, rfl⟩
    | unknown | byte _ | uint32 _ | int _ | float _ | time _ =>
      cases hd : L.dataToString (some _) <;> simp [Literal.step, hd]

lemma Literal.step_requests (l : Literal) : ∀ r ∈ l.step.requests, Stores k ident r := by
  cases l with
  | text input | textOr n input => exact List.forall_mem_singleton.mpr (.escapeFast input)
  | data d =>
    rcases Literal.step_data d with ⟨bytes, h⟩ | ⟨e, -, h⟩ <;> rw [h]
    · exact List.forall_mem_singleton.mpr (.escapeBinary bytes)
    · exact List.forall_mem_nil _

lemma Entry.steps_requests (h : e.Fits k W D) :
    ∀ s ∈ e.steps ident, ∀ r ∈ s.requests, Stores k ident r := by
  have hi : Stores k ident (e.insert ident) := .insert e.element e.fields h.kind
  simp only [Entry.steps, List.forall_mem_append, List.forall_mem_map, List.forall_mem_singleton]
  refine ⟨fun l _ => l.step_requests, ?_⟩
  cases hs : e.issue with
  | checked | checkedOr n | unchecked => exact List.forall_mem_singleton.mpr hi
  | uncheckedOrNull =>
    have hk := h.null hs
    subst hk
    simp only [Issue.step, Step.requests, nullAlertident, List.forall_mem_cons]
    exact ⟨hi, .escapeFast none, .escapeFast none, .insert (.toolAlertident (-1)) _ rfl,
      List.forall_mem_nil _⟩

lemma Literal.step_passedOver (l : Literal) : l.step.passedOver = none := by
  cases l with
  | text input | textOr n input => rfl
  | data d => rcases Literal.step_data d with ⟨bytes, h⟩ | ⟨e, -, h⟩ <;> rw [h] <;> rfl

lemma Entry.steps_passedOver : ∀ s ∈ e.steps ident, ∀ r ∈ s.passedOver,
    r = e.insert ident ∧ e.issue.passes = true := by
  simp only [Entry.steps, List.forall_mem_append, List.forall_mem_map, List.forall_mem_singleton]
  refine ⟨fun l _ r hr => absurd (l.step_passedOver ▸ hr) (Option.not_mem_none r), fun r hr => ?_⟩
  cases hs : e.issue with
  | checked | checkedOr n => rw [hs] at hr; cases hr
  | unchecked | uncheckedOrNull =>
    rw [hs] at hr
    exact ⟨(Option.some.inj hr).symm, rfl⟩

lemma store_requests (h : ∀ e ∈ es, e.Fits k W D) :
    (Entry.store ident es).Requests (Stores k ident) := by
  refine Program.script_requests fun s hs => ?_
  obtain ⟨e, he, hs⟩ := List.mem_flatMap.mp hs
  exact Entry.steps_requests (h e he) s hs

lemma store_failStop {C : Request → Prop} (h : ∀ e ∈ es, e.issue.passes = true → ¬ C (e.insert ident)) :
    (Entry.store ident es).FailStop C := by
  refine Program.script_failStop fun s hs r hr => ?_
  obtain ⟨e, he, hs⟩ := List.mem_flatMap.mp hs
  obtain ⟨rfl, hp⟩ := Entry.steps_passedOver s hs r hr
  exact h e he hp

end Requests

/-- The requests of the insertion of a message of kind `k`. -/
inductive Issues (k : Kind) : Request → Prop
  | escapeFast (input : Option String) : Issues k (.escapeFast input)
  | insertMessage (fields : List (String × Cell)) : Issues k (.query (.data (.insertMessage k fields)))
  | selectMaxIdent : Issues k (.query (.data (.selectMaxIdent k)))
  | fetchRow : Issues k .fetchRow
  | fetchField : Issues k .fetchField
  | stores {ident : ℕ} {r : Request} (h : Stores k ident r) : Issues k r

omit L in
lemma Issues.inner {k : Kind} {r : Request} (h : Issues k r) : r.inner = true := by
  cases h with
  | stores h => exact h.inner
  | _ => rfl

omit L in
lemma insertMessage_requests {Q : Request → Prop} {k : Kind} {fields : List (String × Cell)}
    (hi : Q (.query (.data (.insertMessage k fields)))) (hm : Q (.query (.data (.selectMaxIdent k))))
    (hr : Q .fetchRow) (hf : Q .fetchField) : (insertMessage k fields).Requests Q := by
  refine .bind (.call hi) fun _ => .bind (.call hm) fun table => ?_
  rcases table with _ | _ | ⟨row, rows⟩
  · trivial
  · exact .bind (.call hr) fun _ => trivial
  · exact .bind (.call hr) fun _ => .bind (.call hf) fun _ => .ofExcept _

omit L in
lemma insertMessage_failStop (C : Request → Prop) (k : Kind) (fields : List (String × Cell)) :
    (insertMessage k fields).FailStop C := by
  refine .bind (.call C _) fun _ => .bind (.call C _) fun table => ?_
  rcases table with _ | _ | ⟨row, rows⟩
  · trivial
  · exact .bind (.call C _) fun _ => trivial
  · refine .bind (.call C _) fun _ => .bind (.call C _) fun _ => ?_
    cases identOf (row.headD .null) <;> trivial

lemma insertOf_requests (m : Message) : (insertOf m).Requests (Issues (kindOf m)) := by
  rw [insertOf_eq]
  refine .bind (.call (.escapeFast _)) fun _ => .bind (insertMessage_requests (.insertMessage _)
    .selectMaxIdent .fetchRow .fetchField) fun ident => ?_
  exact (store_requests (entriesOf_fits m)).mono fun r => .stores

lemma insertOf_failStop {C : Request → Prop} {m : Message}
    (h : ∀ t ∈ uncheckedTables m, ∀ r, ¬ C (.query (.data (.insert t r)))) :
    (insertOf m).FailStop C := by
  rw [insertOf_eq]
  refine .bind (.call C _) fun _ => .bind (insertMessage_failStop C _ _) fun ident => ?_
  refine store_failStop fun e he hp => h _ ?_ _
  exact (entriesOf_fits m e he).unchecked ((entriesOf_fits m e he).passes ▸ hp)

end

end Preludedb.Classic
