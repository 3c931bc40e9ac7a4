import Preludedb.Classic.Elements

/-! The insertion helpers store the entries of what they are given, one after the other. -/

namespace Preludedb.Classic

open Foundations Sql Idmef

lemma mapError_id {α : Type} (p : Action α) : p.mapError id = p := by
  induction p with
  | done a | fail e => rfl
  | request r k ih => exact congrArg (Program.request r) (funext ih)

lemma sqlEscape_bind {α : Type} (input : Option String) (f : Cell → Action α) :
    (sqlEscape input >>= f) = Program.call (.escapeFast input) >>= fun _ => f (textCell input) := by
  simp only [sqlEscape, bind_assoc, Program.pure_eq, Program.done_bind]

lemma sqlEscape_mapError_bind {α : Type} (input : Option String) (g : SqlError → SqlError)
    (f : Cell → Action α) : ((sqlEscape input).mapError g >>= f) =
      (Program.call (.escapeFast input)).mapError g >>= fun _ => f (textCell input) := by
  simp only [sqlEscape, Program.mapError_bind, bind_assoc, Program.pure_eq]
  rfl

lemma sqlInsert_eq (t : Table) (r : Row) :
    sqlInsert t r = Program.call (.query (.data (.insert t r))) >>= fun _ => .done () := rfl

lemma mapError_done {α : Type} (g : SqlError → SqlError) (a : α) :
    (.done a : Action α).mapError g = .done a := rfl

lemma ofStep_must (r : Request) (g : SqlError → SqlError) :
    (Program.ofStep (.must r g) : Action Unit) =
      (Program.call r).mapError g >>= fun _ => .done () := rfl

lemma ofStep_may (r : Request) (fallback : List Request) :
    (Program.ofStep (.may r fallback) : Action Unit) = (Program.call r).attempt >>= fun
      | .ok _ => .done ()
      | .error _ => Program.calls fallback := by
  rw [Program.ofStep]
  refine bind_congr fun x => ?_
  cases x <;> rfl

lemma ofStep_unchecked (r : Request) : (Program.ofStep (.may r []) : Action Unit) =
    (Program.call r).attempt >>= fun _ => .done () := by
  rw [ofStep_may]
  refine bind_congr fun x => ?_
  cases x <;> rfl

lemma attempt_discard {α β : Type} (p : Action α) (f : Except SqlError Unit → Action β) :
    (p >>= fun _ => .done ()).attempt >>= f = p.attempt >>= fun x => f (x.map fun _ => ()) := by
  induction p with
  | done a | fail e => rfl
  | request r k ih => exact congrArg (Program.request r) (funext ih)

section

variable [L : Libprelude]

namespace Entry

variable {ident : ℕ} {e : Entry} {es es' : List Entry}

@[simp] lemma store_nil : store ident [] = .done () := rfl

lemma store_append : store ident (es ++ es') = store ident es >>= fun _ => store ident es' := by
  rw [store, List.flatMap_append, Program.script_append]
  rfl

lemma store_cons : store ident (e :: es) = Program.script (e.steps ident) >>= fun _ =>
    store ident es := by
  rw [store, List.flatMap_cons, Program.script_append]
  rfl

lemma store_singleton : store ident [e] = Program.script (e.steps ident) := by
  rw [store_cons, store_nil, Program.bind_done]

end Entry

open Entry

section Lists

variable {α : Type} {ident : ℕ} {f : Int → α → Action Unit} {g : Int → α → List Entry}

lemma forEach_eq (h : ∀ i x, f i x = store ident (g i x)) (i : Int) (xs : List α) :
    forEach f i xs = store ident ((numbered i xs).flatMap fun p => g p.1 p.2) := by
  induction xs generalizing i with
  | nil => rfl
  | cons x xs ih =>
    rw [forEach, numbered, List.flatMap_cons, store_append, h, ih]

lemma forListed_eq (h : ∀ i x, f i x = store ident (g i x)) (xs : List α) :
    forListed f xs = store ident ((listed xs).flatMap fun p => g p.1 p.2) := by
  rw [forListed, listed, List.flatMap_append, store_append, forEach_eq h, forLast]
  cases xs.getLast? with
  | none => rfl
  | some last => simp [h]

lemma forEach_eq_map {g : Int → α → Entry} (h : ∀ i x, f i x = store ident [g i x]) (i : Int)
    (xs : List α) : forEach f i xs = store ident ((numbered i xs).map fun p => g p.1 p.2) := by
  rw [forEach_eq h, List.map_eq_flatMap]

lemma forListed_eq_map {g : Int → α → Entry} (h : ∀ i x, f i x = store ident [g i x])
    (xs : List α) : forListed f xs = store ident ((listed xs).map fun p => g p.1 p.2) := by
  rw [forListed_eq h, List.map_eq_flatMap]

lemma forOptional_eq {f : α → Action Unit} {g : α → List Entry} (h : ∀ x, f x = store ident (g x))
    (x : Option α) : forOptional f x = store ident (x.toList.flatMap g) := by
  cases x with
  | none => rfl
  | some x => simp [forOptional, h]

lemma forOptional_eq_map {f : α → Action Unit} {g : α → Entry} (h : ∀ x, f x = store ident [g x])
    (x : Option α) : forOptional f x = store ident (x.toList.map g) := by
  rw [forOptional_eq h, List.map_eq_flatMap]

end Lists

attribute [local simp] Entry.steps Entry.insert texts Literal.step Issue.step sqlEscape_bind
  sqlEscape_mapError_bind sqlInsert_eq Program.mapError_bind mapError_done mapError_id ofStep_must
  ofStep_unchecked attempt_discard Element.insert Element.row Element.table Element.parentType Element.parents Element.index
  store_singleton store_cons store_append

lemma insertProcessArg_eq (ident : ℕ) (o : Owner) (i : Int) (s : String) :
    insertProcessArg o.parentType ident o.index i s =
      store ident [stringEntry (.processArg o i) "arg" s] := by
  simp [insertProcessArg, insertString, stringEntry]

lemma insertProcessEnv_eq (ident : ℕ) (o : Owner) (i : Int) (s : String) :
    insertProcessEnv o.parentType ident o.index i s =
      store ident [stringEntry (.processEnv o i) "env" s] := by
  simp [insertProcessEnv, insertString, stringEntry]

lemma insertSnmpService_eq (ident : ℕ) (p : Party) (s : SnmpService) :
    insertSnmpService p.parentType ident p.index s = store ident [snmpServiceEntry p s] := by
  simp [insertSnmpService, snmpServiceEntry]

lemma insertWebServiceArg_eq (ident : ℕ) (p : Party) (i : Int) (s : String) :
    insertWebServiceArg p.parentType ident p.index i s =
      store ident [stringEntry (.webServiceArg p i) "arg" s] := by
  simp [insertWebServiceArg, insertString, stringEntry]

lemma insertFileAccessPermission_eq (ident : ℕ) (t f a i : Int) (p : String) :
    insertFileAccessPermission ident t f a i p =
      store ident [stringEntry (.permission t f a i) "permission" p] := by
  simp [insertFileAccessPermission, stringEntry]

lemma insertProcess_eq (ident : ℕ) (o : Owner) (p : Process) :
    insertProcess o.parentType ident o.index p = store ident (processEntries o p) := by
  simp [insertProcess, processEntries, forEach_eq_map (insertProcessArg_eq ident o),
    forEach_eq_map (insertProcessEnv_eq ident o)]

lemma insertWebService_eq (ident : ℕ) (p : Party) (w : WebService) :
    insertWebService p.parentType ident p.index w = store ident (webServiceEntries p w) := by
  simp [insertWebService, webServiceEntries, forListed_eq_map (insertWebServiceArg_eq ident p)]

lemma insertService_eq (ident : ℕ) (p : Party) (s : Service) :
    insertService p.parentType ident p.index s = store ident (serviceEntries p s) := by
  rw [serviceEntries, store_cons]
  cases hs : s.type with
  | default => simp [insertService, serviceTypeEntries, hs]
  | web w => simp [insertService, serviceTypeEntries, hs, insertWebService_eq]
  | snmp m => simp [insertService, serviceTypeEntries, hs, insertSnmpService_eq]

lemma insertToolAlertident_eq (ident : ℕ) (i : Int) (a : Alertident) :
    insertAlertident 'T' ident i (some a) = store ident [alertidentEntry (.toolAlertident i) a] := by
  simp [insertAlertident, alertidentEntry]

lemma insertCorrelationAlertident_eq (ident : ℕ) (i : Int) (a : Alertident) :
    insertAlertident 'C' ident i (some a) =
      store ident [alertidentEntry (.correlationAlertident i) a] := by
  simp [insertAlertident, alertidentEntry]

lemma insertCorrelationAlert_eq (ident : ℕ) (c : CorrelationAlert) :
    insertCorrelationAlert ident c = store ident (correlationAlertEntries c) := by
  simp [insertCorrelationAlert, correlationAlertEntries,
    forListed_eq_map (insertCorrelationAlertident_eq ident)]

lemma insertToolAlert_eq (ident : ℕ) (t : ToolAlert) :
    insertToolAlert ident t = store ident (toolAlertEntries t) := by
  have ha := forEach_eq_map (insertToolAlertident_eq ident) 0 t.alertidents
  rw [insertToolAlert, toolAlertEntries, store_cons, ha]
  cases hs : t.alertidents with
  | nil =>
    simp only [Entry.steps, Entry.insert, texts, Literal.step, Issue.step, sqlEscape_bind,
      sqlInsert_eq, attempt_discard, numbered, List.map_cons, List.map_nil, List.cons_append,
      List.nil_append, Program.script_cons, Program.script_nil, ofStep_must, mapError_id, bind_assoc,
      store_nil, Program.done_bind, if_true, ofStep_may]
    refine bind_congr fun _ => bind_congr fun _ => bind_congr fun x => ?_
    cases x with
    | ok r => rfl
    | error e => simp [nullAlertident, Program.calls, insertAlertident, textCell, Except.map]
  | cons a as =>
    simp only [Entry.steps, Entry.insert, texts, Literal.step, Issue.step, sqlEscape_bind,
      sqlInsert_eq, attempt_discard, List.map_cons, List.map_nil, List.cons_append,
      List.nil_append, Program.script_cons, Program.script_nil, ofStep_must, mapError_id, bind_assoc,
      Program.done_bind, reduceCtorEq, if_false, ofStep_may]
    refine bind_congr fun _ => bind_congr fun _ => bind_congr fun x => ?_
    cases x <;> exact Program.bind_done _

lemma insertAddress_eq (ident : ℕ) (o : Owner) (i : Int) (a : Address) :
    insertAddress o.parentType ident o.index i a = store ident [addressEntry o i a] := by
  simp [insertAddress, addressEntry]

lemma insertNode_eq (ident : ℕ) (o : Owner) (n : Node) :
    insertNode o.parentType ident o.index n = store ident (nodeEntries o n) := by
  simp [insertNode, nodeEntries, forListed_eq_map (insertAddress_eq ident o)]

lemma insertUserId_eq (ident : ℕ) (p : Party) (i : Int) (u : UserId) :
    insertUserId p.parentType ident p.index 0 0 i u = store ident [userIdEntry (.userId p i) u] := by
  simp [insertUserId, userIdEntry]

lemma insertAccessUserId_eq (ident : ℕ) (t f a : Int) (u : UserId) :
    insertUserId 'F' ident t f a 0 u = store ident [userIdEntry (.accessUserId t f a) u] := by
  simp [insertUserId, userIdEntry]

lemma insertUser_eq (ident : ℕ) (p : Party) (u : User) :
    insertUser p.parentType ident p.index u = store ident (userEntries p u) := by
  simp [insertUser, userEntries, forListed_eq_map (insertUserId_eq ident p)]

lemma insertInode_eq (ident : ℕ) (t f : Int) (n : Inode) :
    insertInode ident t f n = store ident [inodeEntry t f n] := by
  simp [insertInode, inodeEntry]

lemma insertLinkage_eq (ident : ℕ) (t f i : Int) (l : Linkage) :
    insertLinkage ident t f i l = store ident [linkageEntry t f i l] := by
  simp [insertLinkage, linkageEntry]

lemma insertFileAccess_eq (ident : ℕ) (t f i : Int) (a : FileAccess) :
    insertFileAccess ident t f i a = store ident (fileAccessEntries t f i a) := by
  rw [insertFileAccess, fileAccessEntries, insertAccessUserId_eq,
    forListed_eq_map (insertFileAccessPermission_eq ident t f i)]
  simp

lemma insertChecksum_eq (ident : ℕ) (t f i : Int) (c : Checksum) :
    insertChecksum ident t f i c = store ident [checksumEntry t f i c] := by
  simp [insertChecksum, checksumEntry]

lemma insertFile_eq (ident : ℕ) (t i : Int) (f : File) :
    insertFile ident t i f = store ident (fileEntries t i f) := by
  simp [insertFile, fileEntries, forListed_eq (insertFileAccess_eq ident t i),
    forListed_eq_map (insertLinkage_eq ident t i), forOptional_eq_map (insertInode_eq ident t i),
    forListed_eq_map (insertChecksum_eq ident t i)]

lemma ownedEntries_eq (ident : ℕ) (p : Party) (node : Option Node) (user : Option User)
    (process : Option Process) (service : Option Service) :
    store ident (ownedEntries p node user process service) =
      (do forOptional (insertNode p.parentType ident p.index) node
          forOptional (insertUser p.parentType ident p.index) user
          forOptional (insertProcess p.parentType ident p.index) process
          forOptional (insertService p.parentType ident p.index) service) := by
  have hn := forOptional_eq (insertNode_eq ident (.party p)) node
  have hp := forOptional_eq (insertProcess_eq ident (.party p)) process
  simp only [Owner.parentType, Owner.index] at hn hp
  simp [ownedEntries, hn, hp, forOptional_eq (insertUser_eq ident p),
    forOptional_eq (insertService_eq ident p)]

lemma insertSource_eq (ident : ℕ) (i : Int) (s : Source) :
    insertSource ident i s = store ident (sourceEntries i s) := by
  simp [insertSource, sourceEntries, ownedEntries_eq, Party.parentType, Party.index]

lemma insertTarget_eq (ident : ℕ) (i : Int) (t : Target) :
    insertTarget ident i t = store ident (targetEntries i t) := by
  simp [insertTarget, targetEntries, ownedEntries_eq, Party.parentType, Party.index,
    forListed_eq (insertFile_eq ident i)]

lemma insertAnalyzer_eq (ident : ℕ) (k : Kind) (i : Int) (a : Analyzer) :
    insertAnalyzer k.parentType ident i a = store ident (analyzerEntries k i a) := by
  have hn := forOptional_eq (insertNode_eq ident (.analyzer k i)) a.node
  have hp := forOptional_eq (insertProcess_eq ident (.analyzer k i)) a.process
  simp only [Owner.parentType, Owner.index] at hn hp
  simp [insertAnalyzer, analyzerEntries, hn, hp]

lemma insertReference_eq (ident : ℕ) (i : Int) (r : Reference) :
    insertReference ident i r = store ident [referenceEntry i r] := by
  simp [insertReference, referenceEntry]

lemma insertClassification_eq (ident : ℕ) (c : Classification) :
    insertClassification ident c = store ident (classificationEntries c) := by
  simp [insertClassification, classificationEntries, forListed_eq_map (insertReference_eq ident)]

lemma getData_bind {α : Type} (data : Option Data) (f : Cell → Action α) :
    (getData data >>= f) = Program.ofStep (Literal.data data).step >>= fun _ => f (dataCell data) := by
  have hblob (bytes : List UInt8) : (sqlEscapeBinary bytes >>= f) =
      Program.call (.escapeBinary (some bytes)) >>= fun _ => f (.blob bytes) := by
    simp only [sqlEscapeBinary, bind_assoc, Program.pure_eq, Program.done_bind]
  cases data with
  | none =>
    simp only [getData, Literal.step, dataCell]
    generalize L.dataToString none = text
    cases text with
    | error e => rfl
    | ok string => simp [hblob]
  | some d =>
    cases d with
    | byteString bytes | charString bytes => simp [getData, dataCell, hblob]
    | char c => simp [getData, dataCell, hblob]
    | unknown | byte b | uint32 n | int n | float bits | time t =>
      simp only [getData, Literal.step, dataCell]
      generalize L.dataToString (some _) = text
      cases text with
      | error e => rfl
      | ok string => simp [hblob]

lemma insertAdditionalData_eq (ident : ℕ) (k : Kind) (i : Int) (d : AdditionalData) :
    insertAdditionalData k.parentType ident i d = store ident [additionalDataEntry k i d] := by
  simp [insertAdditionalData, additionalDataEntry, getData_bind]

lemma insertCreatetime_eq (ident : ℕ) (k : Kind) (t : Time) :
    insertCreatetime k.parentType ident t = store ident [timeEntry (.createTime k) t] := by
  simp [insertCreatetime, insertTime, timeEntry]

lemma insertDetecttime_eq (ident : ℕ) (t : Time) :
    insertDetecttime ident t = store ident [timeEntry .detectTime t] := by
  simp [insertDetecttime, insertTime, timeEntry]

lemma insertAnalyzertime_eq (ident : ℕ) (k : Kind) (t : Time) :
    insertAnalyzertime k.parentType ident t = store ident [timeEntry (.analyzerTime k) t] := by
  simp [insertAnalyzertime, insertTime, timeEntry]

lemma insertImpact_eq (ident : ℕ) (i : Impact) :
    insertImpact ident i = store ident [impactEntry i] := by
  simp [insertImpact, impactEntry]

lemma insertAction_eq (ident : ℕ) (i : Int) (a : Idmef.Action) :
    insertAction ident i a = store ident [actionEntry i a] := by
  simp [insertAction, actionEntry]

lemma insertConfidence_eq (ident : ℕ) (c : Confidence) :
    insertConfidence ident c = store ident [confidenceEntry c] := by
  simp [insertConfidence, confidenceEntry]

lemma insertAssessment_eq (ident : ℕ) (a : Assessment) :
    insertAssessment ident a = store ident (assessmentEntries a) := by
  simp [insertAssessment, assessmentEntries, forOptional_eq_map (insertImpact_eq ident),
    forOptional_eq_map (insertConfidence_eq ident), forListed_eq_map (insertAction_eq ident)]

lemma insertOverflowAlert_eq (ident : ℕ) (o : OverflowAlert) :
    insertOverflowAlert ident o = store ident [overflowAlertEntry o] := by
  simp [insertOverflowAlert, overflowAlertEntry, getData_bind]

lemma insertAlertType_eq (ident : ℕ) (t : AlertType) :
    insertAlertType ident t = store ident (alertTypeEntries t) := by
  cases t with
  | default => rfl
  | tool t => exact insertToolAlert_eq ident t
  | correlation c => exact insertCorrelationAlert_eq ident c
  | overflow o => exact insertOverflowAlert_eq ident o

lemma insertAlertBody_eq (ident : ℕ) (a : Alert) :
    insertAlertBody ident a = store ident (alertEntries a) := by
  have hc := insertCreatetime_eq ident .alert
  have hat := insertAnalyzertime_eq ident .alert
  have han := insertAnalyzer_eq ident .alert
  have had := insertAdditionalData_eq ident .alert
  simp only [Kind.parentType] at hc hat han had
  simp [insertAlertBody, alertEntries, hc, forOptional_eq_map (insertDetecttime_eq ident),
    forOptional_eq_map hat, forOptional_eq (insertAssessment_eq ident), insertAlertType_eq,
    forListed_eq han, forListed_eq (insertSource_eq ident), forListed_eq (insertTarget_eq ident),
    forOptional_eq (insertClassification_eq ident), forListed_eq_map had]

lemma insertHeartbeatBody_eq (ident : ℕ) (h : Heartbeat) :
    insertHeartbeatBody ident h = store ident (heartbeatEntries h) := by
  have hc := insertCreatetime_eq ident .heartbeat
  have hat := insertAnalyzertime_eq ident .heartbeat
  have han := insertAnalyzer_eq ident .heartbeat
  have had := insertAdditionalData_eq ident .heartbeat
  simp only [Kind.parentType] at hc hat han had
  simp [insertHeartbeatBody, heartbeatEntries, hc, forOptional_eq_map hat, forListed_eq han,
    forListed_eq_map had]

end

end Preludedb.Classic
