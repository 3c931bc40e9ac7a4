import Preludedb.Classic.Insert
import Preludedb.Foundations.Scripts

/-! The elements of a message that the classic format stores: where each one stands in the message,
the table and the index columns that follow from its place, and the columns that describe it. -/

namespace Preludedb.Classic

open Foundations Sql Idmef

def Kind.parentType : Kind → Char
  | .alert => 'A'
  | .heartbeat => 'H'

/-- The elements that own a user and a service. -/
inductive Party
  | source (i : Int)
  | target (i : Int)
  deriving DecidableEq, Repr

def Party.parentType : Party → Char
  | .source _ => 'S'
  | .target _ => 'T'

def Party.index : Party → Int
  | .source i => i
  | .target i => i

/-- The elements that own a node and a process. -/
inductive Owner
  | analyzer (k : Kind) (i : Int)
  | party (p : Party)
  deriving DecidableEq, Repr

def Owner.parentType : Owner → Char
  | .analyzer k _ => k.parentType
  | .party p => p.parentType

def Owner.index : Owner → Int
  | .analyzer _ i => i
  | .party p => p.index

/-- A stored element; an index of -1 is the second storage of a last element. -/
inductive Element
  | createTime (k : Kind)
  | detectTime
  | analyzerTime (k : Kind)
  | assessment
  | impact
  | confidence
  | action (i : Int)
  | toolAlert
  | toolAlertident (i : Int)
  | correlationAlert
  | correlationAlertident (i : Int)
  | overflowAlert
  | analyzer (k : Kind) (i : Int)
  | source (i : Int)
  | target (i : Int)
  | node (o : Owner)
  | address (o : Owner) (i : Int)
  | process (o : Owner)
  | processArg (o : Owner) (i : Int)
  | processEnv (o : Owner) (i : Int)
  | user (p : Party)
  | userId (p : Party) (i : Int)
  | service (p : Party)
  | webService (p : Party)
  | webServiceArg (p : Party) (i : Int)
  | snmpService (p : Party)
  | file (t f : Int)
  | fileAccess (t f a : Int)
  | permission (t f a p : Int)
  | accessUserId (t f a : Int)
  | linkage (t f l : Int)
  | inode (t f : Int)
  | checksum (t f c : Int)
  | classification
  | reference (i : Int)
  | additionalData (k : Kind) (i : Int)
  deriving DecidableEq, Repr

namespace Element

def table : Element → Table
  | createTime _ => .createTime
  | detectTime => .detectTime
  | analyzerTime _ => .analyzerTime
  | assessment => .assessment
  | impact => .impact
  | confidence => .confidence
  | action _ => .action
  | toolAlert => .toolAlert
  | toolAlertident _ => .alertident
  | correlationAlert => .correlationAlert
  | correlationAlertident _ => .alertident
  | overflowAlert => .overflowAlert
  | analyzer _ _ => .analyzer
  | source _ => .source
  | target _ => .target
  | node _ => .node
  | address _ _ => .address
  | process _ => .process
  | processArg _ _ => .processArg
  | processEnv _ _ => .processEnv
  | user _ => .user
  | userId _ _ => .userId
  | service _ => .service
  | webService _ => .webService
  | webServiceArg _ _ => .webServiceArg
  | snmpService _ => .snmpService
  | file _ _ => .file
  | fileAccess _ _ _ => .fileAccess
  | permission _ _ _ _ => .fileAccessPermission
  | accessUserId _ _ _ => .userId
  | linkage _ _ _ => .linkage
  | inode _ _ => .inode
  | checksum _ _ _ => .checksum
  | classification => .classification
  | reference _ => .reference
  | additionalData _ _ => .additionalData

def parentType : Element → Option Char
  | createTime k | analyzerTime k | analyzer k _ | additionalData k _ => some k.parentType
  | toolAlertident _ => some 'T'
  | correlationAlertident _ => some 'C'
  | node o | address o _ | process o | processArg o _ | processEnv o _ => some o.parentType
  | user p | userId p _ | service p | webService p | webServiceArg p _ | snmpService p =>
    some p.parentType
  | accessUserId _ _ _ => some 'F'
  | _ => none

def parents : Element → List Int
  | node o | address o _ | process o | processArg o _ | processEnv o _ => [o.index]
  | user p | service p | webService p | webServiceArg p _ | snmpService p => [p.index]
  | userId p _ => [p.index, 0, 0]
  | file t _ => [t]
  | fileAccess t f _ | linkage t f _ | inode t f | checksum t f _ => [t, f]
  | permission t f a _ | accessUserId t f a => [t, f, a]
  | _ => []

def index : Element → Option Int
  | action i | toolAlertident i | correlationAlertident i | analyzer _ i | source i | target i
  | address _ i | processArg _ i | processEnv _ i | userId _ i | webServiceArg _ i | file _ i
  | fileAccess _ _ i | permission _ _ _ i | linkage _ _ i | checksum _ _ i | reference i
  | additionalData _ i => some i
  | accessUserId _ _ _ => some 0
  | _ => none

def row (ident : ℕ) (e : Element) (fields : List (String × Cell)) : Row :=
  ⟨ident, e.parentType, e.parents, e.index, fields⟩

def insert (ident : ℕ) (e : Element) (fields : List (String × Cell)) : Request :=
  .query (.data (.insert e.table (e.row ident fields)))

end Element

/-- A literal an INSERT is prepared from: a text, a text whose error becomes a bare number, data. -/
inductive Literal
  | text (input : Option String)
  | textOr (n : Int) (input : Option String)
  | data (d : Option Data)
  deriving DecidableEq, Repr

/-- What becomes of the error of an INSERT. -/
inductive Issue
  | checked
  | checkedOr (n : Int)
  | unchecked
  | uncheckedOrNull
  deriving DecidableEq, Repr

/-- One element with its columns. -/
structure Entry where
  element : Element
  literals : List Literal
  fields : List (String × Cell)
  issue : Issue

def texts (inputs : List (Option String)) : List Literal := inputs.map .text

def numbered {α : Type} : Int → List α → List (Int × α)
  | _, [] => []
  | i, x :: xs => (i, x) :: numbered (i + 1) xs

def listed {α : Type} (xs : List α) : List (Int × α) :=
  numbered 0 xs ++ xs.getLast?.toList.map fun x => (-1, x)

section

variable [L : Libprelude]

def dataCell : Option Data → Cell
  | some (.byteString bytes) => .blob bytes
  | some (.charString bytes) => .blob bytes
  | some (.char c) => .blob [c]
  | data => match L.dataToString data with
    | .error _ => .null
    | .ok string => .blob string.toUTF8.toList

def Literal.step : Literal → Step Request SqlError
  | .text input => .must (.escapeFast input) id
  | .textOr n input => .must (.escapeFast input) fun _ => bareError n
  | .data (some (.byteString bytes)) => .must (.escapeBinary (some bytes)) id
  | .data (some (.charString bytes)) => .must (.escapeBinary (some bytes)) id
  | .data (some (.char c)) => .must (.escapeBinary (some [c])) id
  | .data d => match L.dataToString d with
    | .error e => .stop e
    | .ok string => .must (.escapeBinary (some string.toUTF8.toList)) id

/-- The statements of the null alertident that follow the failure of a tool alert without any. -/
def nullAlertident (ident : ℕ) : List Request :=
  [.escapeFast none, .escapeFast none, (Element.toolAlertident (-1)).insert ident
    [("alertident", .null), ("analyzerid", .null)]]

def Issue.step (ident : ℕ) (r : Request) : Issue → Step Request SqlError
  | .checked => .must r id
  | .checkedOr n => .must r fun _ => bareError n
  | .unchecked => .may r []
  | .uncheckedOrNull => .may r (nullAlertident ident)

namespace Entry

def insert (ident : ℕ) (e : Entry) : Request := e.element.insert ident e.fields

def steps (ident : ℕ) (e : Entry) : List (Step Request SqlError) :=
  e.literals.map Literal.step ++ [e.issue.step ident (e.insert ident)]

def store (ident : ℕ) (es : List Entry) : Action Unit := Program.script (es.flatMap (steps ident))

end Entry

def addressEntry (o : Owner) (i : Int) (a : Address) : Entry where
  element := .address o i
  literals := texts [L.enumToString .addressCategory a.category, a.ident, some a.address, a.netmask,
    a.vlanName]
  fields := [("ident", textCell a.ident),
    ("category", textCell (L.enumToString .addressCategory a.category)),
    ("vlan_name", textCell a.vlanName), ("vlan_num", getOptionalInt32 a.vlanNum),
    ("address", textCell (some a.address)), ("netmask", textCell a.netmask)]
  issue := .checked

def nodeEntries (o : Owner) (n : Node) : List Entry :=
  { element := .node o
    literals := texts [L.enumToString .nodeCategory n.category, n.ident, n.name] ++
      [.textOr (-1) n.location]
    fields := [("ident", textCell n.ident),
      ("category", textCell (L.enumToString .nodeCategory n.category)),
      ("location", textCell n.location), ("name", textCell n.name)]
    issue := .checked } ::
  (listed n.addresses).map fun a => addressEntry o a.1 a.2

def userIdEntry (e : Element) (u : UserId) : Entry where
  element := e
  literals := texts [u.ident, u.tty, L.enumToString .userIdType u.type, u.name]
  fields := [("ident", textCell u.ident), ("type", textCell (L.enumToString .userIdType u.type)),
    ("name", textCell u.name), ("number", getOptionalUint32 u.number), ("tty", textCell u.tty)]
  issue := .checked

def userEntries (p : Party) (u : User) : List Entry :=
  { element := .user p
    literals := texts [u.ident, L.enumToString .userCategory u.category]
    fields := [("ident", textCell u.ident),
      ("category", textCell (L.enumToString .userCategory u.category))]
    issue := .checked } ::
  (listed u.userIds).map fun i => userIdEntry (.userId p i.1) i.2

def stringEntry (e : Element) (column : String) (s : String) : Entry where
  element := e
  literals := texts [some s]
  fields := [(column, textCell (some s))]
  issue := .checked

def processEntries (o : Owner) (p : Process) : List Entry :=
  { element := .process o
    literals := texts [p.ident, some p.name, p.path]
    fields := [("ident", textCell p.ident), ("name", textCell (some p.name)),
      ("pid", getOptionalUint32 p.pid), ("path", textCell p.path)]
    issue := .checked } ::
  ((numbered 0 p.args).map fun a => stringEntry (.processArg o a.1) "arg" a.2) ++
  (numbered 0 p.env).map fun e => stringEntry (.processEnv o e.1) "env" e.2

def snmpServiceEntry (p : Party) (s : SnmpService) : Entry where
  element := .snmpService p
  literals := texts [s.oid, s.securityName, s.contextName, s.contextEngineId, s.command]
  fields := [("snmp_oid", textCell s.oid),
    ("message_processing_model", getOptionalUint32 s.messageProcessingModel),
    ("security_model", getOptionalUint32 s.securityModel),
    ("security_name", textCell s.securityName),
    ("security_level", getOptionalUint32 s.securityLevel),
    ("context_name", textCell s.contextName),
    ("context_engine_id", textCell s.contextEngineId), ("command", textCell s.command)]
  issue := .checked

def webServiceEntries (p : Party) (w : WebService) : List Entry :=
  { element := .webService p
    literals := [.text (some w.url), .textOr (-1) w.cgi, .text w.httpMethod]
    fields := [("url", textCell (some w.url)), ("cgi", textCell w.cgi),
      ("http_method", textCell w.httpMethod)]
    issue := .unchecked } ::
  (listed w.args).map fun a => stringEntry (.webServiceArg p a.1) "arg" a.2

def serviceTypeEntries (p : Party) : ServiceType → List Entry
  | .default => []
  | .web w => webServiceEntries p w
  | .snmp s => [snmpServiceEntry p s]

def serviceEntries (p : Party) (s : Service) : List Entry :=
  { element := .service p
    literals := texts [s.ident, s.name, s.ianaProtocolName, s.portlist, s.protocol]
    fields := [("ident", textCell s.ident), ("ip_version", getOptionalUint8 s.ipVersion),
      ("name", textCell s.name), ("port", getOptionalUint16 s.port),
      ("iana_protocol_number", getOptionalUint8 s.ianaProtocolNumber),
      ("iana_protocol_name", textCell s.ianaProtocolName), ("portlist", textCell s.portlist),
      ("protocol", textCell s.protocol)]
    issue := .checked } ::
  serviceTypeEntries p s.type

def inodeEntry (t f : Int) (n : Inode) : Entry where
  element := .inode t f
  literals := []
  fields := [("change_time", (timeToTimestamp n.changeTime).time),
    ("change_time_gmtoff", (timeToTimestamp n.changeTime).gmtoff),
    ("number", getOptionalUint32 n.number), ("major_device", getOptionalUint32 n.majorDevice),
    ("minor_device", getOptionalUint32 n.minorDevice),
    ("c_major_device", getOptionalUint32 n.cMajorDevice),
    ("c_minor_device", getOptionalUint32 n.cMinorDevice)]
  issue := .checked

def linkageEntry (t f i : Int) (l : Linkage) : Entry where
  element := .linkage t f i
  literals := texts [L.enumToString .linkageCategory l.category, some l.name, some l.path]
  fields := [("category", textCell (L.enumToString .linkageCategory l.category)),
    ("name", textCell (some l.name)), ("path", textCell (some l.path))]
  issue := .checked

def fileAccessEntries (t f i : Int) (a : FileAccess) : List Entry :=
  { element := .fileAccess t f i
    literals := []
    fields := []
    issue := .checked } ::
  ((listed a.permissions).map fun p => stringEntry (.permission t f i p.1) "permission" p.2) ++
  [userIdEntry (.accessUserId t f i) a.userId]

def checksumEntry (t f i : Int) (c : Checksum) : Entry where
  element := .checksum t f i
  literals := texts [some c.value, c.key, L.enumToString .checksumAlgorithm c.algorithm]
  fields := [("value", textCell (some c.value)), ("checksum_key", textCell c.key),
    ("algorithm", textCell (L.enumToString .checksumAlgorithm c.algorithm))]
  issue := .checked

def fileEntries (t i : Int) (f : File) : List Entry :=
  { element := .file t i
    literals := texts [L.enumToString .fileCategory f.category, f.ident, some f.name, some f.path,
      f.fileType, f.fstype.bind (L.enumToString .fileFstype)]
    fields := [("ident", textCell f.ident),
      ("category", textCell (L.enumToString .fileCategory f.category)),
      ("name", textCell (some f.name)), ("path", textCell (some f.path)),
      ("create_time", (timeToTimestamp f.createTime).time),
      ("create_time_gmtoff", (timeToTimestamp f.createTime).gmtoff),
      ("modify_time", (timeToTimestamp f.modifyTime).time),
      ("modify_time_gmtoff", (timeToTimestamp f.modifyTime).gmtoff),
      ("access_time", (timeToTimestamp f.accessTime).time),
      ("access_time_gmtoff", (timeToTimestamp f.accessTime).gmtoff),
      ("data_size", getOptionalUint64 f.dataSize), ("disk_size", getOptionalUint64 f.diskSize),
      ("fstype", textCell (f.fstype.bind (L.enumToString .fileFstype))),
      ("file_type", textCell f.fileType)]
    issue := .checked } ::
  (listed f.fileAccesses).flatMap (fun a => fileAccessEntries t i a.1 a.2) ++
  (listed f.linkages).map (fun l => linkageEntry t i l.1 l.2) ++
  f.inode.toList.map (inodeEntry t i) ++
  (listed f.checksums).map fun c => checksumEntry t i c.1 c.2

/-- What a source and a target have in common. -/
def ownedEntries (p : Party) (node : Option Node) (user : Option User) (process : Option Process)
    (service : Option Service) : List Entry :=
  node.toList.flatMap (nodeEntries (.party p)) ++ user.toList.flatMap (userEntries p) ++
    process.toList.flatMap (processEntries (.party p)) ++ service.toList.flatMap (serviceEntries p)

def sourceEntries (i : Int) (s : Source) : List Entry :=
  { element := .source i
    literals := texts [s.ident, L.enumToString .sourceSpoofed s.spoofed, s.interface]
    fields := [("ident", textCell s.ident),
      ("spoofed", textCell (L.enumToString .sourceSpoofed s.spoofed)),
      ("interface", textCell s.interface)]
    issue := .checked } ::
  ownedEntries (.source i) s.node s.user s.process s.service

def targetEntries (i : Int) (t : Target) : List Entry :=
  { element := .target i
    literals := texts [L.enumToString .targetDecoy t.decoy] ++
      [.textOr (-2) t.ident, .textOr (-2) t.interface]
    fields := [("ident", textCell t.ident),
      ("decoy", textCell (L.enumToString .targetDecoy t.decoy)),
      ("interface", textCell t.interface)]
    issue := .checkedOr (-1) } ::
  ownedEntries (.target i) t.node t.user t.process t.service ++
  (listed t.files).flatMap fun f => fileEntries i f.1 f.2

def analyzerEntries (k : Kind) (i : Int) (a : Analyzer) : List Entry :=
  { element := .analyzer k i
    literals := texts [a.analyzerid, a.class_, a.name, a.model, a.version, a.manufacturer, a.ostype,
      a.osversion]
    fields := [("analyzerid", textCell a.analyzerid), ("name", textCell a.name),
      ("manufacturer", textCell a.manufacturer), ("model", textCell a.model),
      ("version", textCell a.version), ("class", textCell a.class_),
      ("ostype", textCell a.ostype), ("osversion", textCell a.osversion)]
    issue := .checked } ::
  a.node.toList.flatMap (nodeEntries (.analyzer k i)) ++
  a.process.toList.flatMap (processEntries (.analyzer k i))

def referenceEntry (i : Int) (r : Reference) : Entry where
  element := .reference i
  literals := texts [L.enumToString .referenceOrigin r.origin, some r.url, some r.name, r.meaning]
  fields := [("origin", textCell (L.enumToString .referenceOrigin r.origin)),
    ("name", textCell (some r.name)), ("url", textCell (some r.url)),
    ("meaning", textCell r.meaning)]
  issue := .checked

def classificationEntries (c : Classification) : List Entry :=
  { element := .classification
    literals := texts [c.ident, some c.text]
    fields := [("ident", textCell c.ident), ("text", textCell (some c.text))]
    issue := .unchecked } ::
  (listed c.references).map fun r => referenceEntry r.1 r.2

def additionalDataEntry (k : Kind) (i : Int) (d : AdditionalData) : Entry where
  element := .additionalData k i
  literals := texts [L.enumToString .additionalDataType d.type, d.meaning] ++
    [.data (some d.data)]
  fields := [("type", textCell (L.enumToString .additionalDataType d.type)),
    ("meaning", textCell d.meaning), ("data", dataCell (some d.data))]
  issue := .checked

def timeEntry (e : Element) (t : Time) : Entry where
  element := e
  literals := []
  fields := [("time", (timeToTimestamp (some t)).time), ("gmtoff", (timeToTimestamp (some t)).gmtoff),
    ("usec", (timeToTimestamp (some t)).usec)]
  issue := .checked

def impactEntry (i : Impact) : Entry where
  element := .impact
  literals := texts [i.completion.bind (L.enumToString .impactCompletion),
    L.enumToString .impactType i.type, i.severity.bind (L.enumToString .impactSeverity),
    i.description]
  fields := [("severity", textCell (i.severity.bind (L.enumToString .impactSeverity))),
    ("completion", textCell (i.completion.bind (L.enumToString .impactCompletion))),
    ("type", textCell (L.enumToString .impactType i.type)),
    ("description", textCell i.description)]
  issue := .checked

def actionEntry (i : Int) (a : Idmef.Action) : Entry where
  element := .action i
  literals := texts [L.enumToString .actionCategory a.category, a.description]
  fields := [("category", textCell (L.enumToString .actionCategory a.category)),
    ("description", textCell a.description)]
  issue := .checked

def confidenceEntry (c : Confidence) : Entry where
  element := .confidence
  literals := texts [L.enumToString .confidenceRating c.rating]
  fields := [("rating", textCell (L.enumToString .confidenceRating c.rating)),
    ("confidence", .decimal (L.formatFloat c.confidence))]
  issue := .checked

def assessmentEntries (a : Assessment) : List Entry :=
  { element := .assessment
    literals := []
    fields := []
    issue := .checked } ::
  a.impact.toList.map impactEntry ++ a.confidence.toList.map confidenceEntry ++
  (listed a.actions).map fun x => actionEntry x.1 x.2

def overflowAlertEntry (o : OverflowAlert) : Entry where
  element := .overflowAlert
  literals := texts [some o.program] ++ [.data o.buffer]
  fields := [("program", textCell (some o.program)), ("size", getOptionalUint32 o.size),
    ("buffer", dataCell o.buffer)]
  issue := .checked

def alertidentEntry (e : Element) (a : Option Alertident) : Entry where
  element := e
  literals := texts [a.bind Alertident.analyzerid, a.map Alertident.alertident]
  fields := [("alertident", textCell (a.map Alertident.alertident)),
    ("analyzerid", textCell (a.bind Alertident.analyzerid))]
  issue := .checked

def toolAlertEntries (t : ToolAlert) : List Entry :=
  { element := .toolAlert
    literals := texts [some t.name, t.command]
    fields := [("name", textCell (some t.name)), ("command", textCell t.command)]
    issue := if t.alertidents = [] then .uncheckedOrNull else .unchecked } ::
  (numbered 0 t.alertidents).map fun a => alertidentEntry (.toolAlertident a.1) (some a.2)

def correlationAlertEntries (c : CorrelationAlert) : List Entry :=
  { element := .correlationAlert
    literals := texts [some c.name]
    fields := [("name", textCell (some c.name))]
    issue := .checked } ::
  (listed c.alertidents).map fun a => alertidentEntry (.correlationAlertident a.1) (some a.2)

def alertTypeEntries : AlertType → List Entry
  | .default => []
  | .tool t => toolAlertEntries t
  | .overflow o => [overflowAlertEntry o]
  | .correlation c => correlationAlertEntries c

def alertEntries (a : Alert) : List Entry :=
  timeEntry (.createTime .alert) a.createTime ::
  a.detectTime.toList.map (timeEntry .detectTime) ++
  a.analyzerTime.toList.map (timeEntry (.analyzerTime .alert)) ++
  a.assessment.toList.flatMap assessmentEntries ++
  alertTypeEntries a.type ++
  (listed a.analyzers).flatMap (fun x => analyzerEntries .alert x.1 x.2) ++
  (listed a.sources).flatMap (fun x => sourceEntries x.1 x.2) ++
  (listed a.targets).flatMap (fun x => targetEntries x.1 x.2) ++
  a.classification.toList.flatMap classificationEntries ++
  (listed a.additionalData).map fun x => additionalDataEntry .alert x.1 x.2

def heartbeatEntries (h : Heartbeat) : List Entry :=
  (listed h.analyzers).flatMap (fun x => analyzerEntries .heartbeat x.1 x.2) ++
  [timeEntry (.createTime .heartbeat) h.createTime] ++
  h.analyzerTime.toList.map (timeEntry (.analyzerTime .heartbeat)) ++
  (listed h.additionalData).map fun x => additionalDataEntry .heartbeat x.1 x.2

end

end Preludedb.Classic
