import Preludedb.Classic.Database
import Preludedb.Idmef.Message

/-! Storing a message: the INSERT statements of the classic format, in the order in which it sends
them. Each list of elements is numbered from zero, and its last element is stored once more under
the index -1. -/

namespace Preludedb.Classic

open Foundations Sql Idmef

/-- A bare negative return value. -/
def bareError (n : Int) : SqlError := preludedbError (.foreign n)

def textCell : Option String → Cell
  | none => .null
  | some s => .text s

def sqlEscape (input : Option String) : Action Cell := do
  let _ ← Program.call (.escapeFast input)
  pure (textCell input)

def sqlEscapeBinary (input : List UInt8) : Action Cell := do
  let _ ← Program.call (.escapeBinary (some input))
  pure (.blob input)

def sqlInsert (t : Table) (r : Row) : Action Unit := do
  let _ ← Program.call (.query (.data (.insert t r)))
  pure ()

def getOptionalInteger {α : Type} (toInt : α → Int) : Option α → Cell
  | none => .null
  | some n => .number (toInt n)

def getOptionalUint8 : Option UInt8 → Cell := getOptionalInteger fun n => (n.toNat : Int)
def getOptionalUint16 : Option UInt16 → Cell := getOptionalInteger fun n => (n.toNat : Int)
def getOptionalInt32 : Option Int32 → Cell := getOptionalInteger Int32.toInt
def getOptionalUint32 : Option UInt32 → Cell := getOptionalInteger fun n => (n.toNat : Int)
def getOptionalUint64 : Option UInt64 → Cell := getOptionalInteger fun n => (n.toNat : Int)

def forEach {α : Type} (f : Int → α → Action Unit) : Int → List α → Action Unit
  | _, [] => pure ()
  | index, x :: xs => do
    f index x
    forEach f (index + 1) xs

def forLast {α : Type} (f : Int → α → Action Unit) (xs : List α) : Action Unit :=
  match xs.getLast? with
  | none => pure ()
  | some last => f (-1) last

def forListed {α : Type} (f : Int → α → Action Unit) (xs : List α) : Action Unit := do
  forEach f 0 xs
  forLast f xs

def forOptional {α : Type} (f : α → Action Unit) : Option α → Action Unit
  | none => pure ()
  | some x => f x

def twoDigits (n : Int) : String :=
  (if n < 0 then "-" else "") ++ (if n.natAbs < 10 then "0" else "") ++ toString n.natAbs

/-- The default `build_timestamp_string`, which all three plugins use; a text cell has no quotes. -/
def buildTimestampString (t : Tm) : String :=
  toString (t.year + 1900) ++ "-" ++ twoDigits (t.mon + 1) ++ "-" ++ twoDigits t.mday ++ " " ++
    twoDigits t.hour ++ ":" ++ twoDigits t.min ++ ":" ++ twoDigits t.sec

section

variable [L : Libprelude]

structure Timestamp where
  time : Cell
  gmtoff : Cell
  usec : Cell

def timeToTimestamp : Option Time → Timestamp
  | none => ⟨.null, .null, .null⟩
  | some t => ⟨.text (buildTimestampString (L.gmtime t.sec)), .number t.gmtOffset.toInt,
      .number t.usec.toNat⟩

def getData (data : Option Data) : Action Cell :=
  match data with
  | some (.byteString bytes) => sqlEscapeBinary bytes
  | some (.charString bytes) => sqlEscapeBinary bytes
  | some (.char c) => sqlEscapeBinary [c]
  | data =>
    match L.dataToString data with
    | .error e => .fail e
    | .ok string => sqlEscapeBinary string.toUTF8.toList

def insertAddress (parentType : Char) (messageIdent : ℕ) (parentIndex addressIndex : Int)
    (address : Address) : Action Unit := do
  let category ← sqlEscape (L.enumToString .addressCategory address.category)
  let ident ← sqlEscape address.ident
  let addr ← sqlEscape (some address.address)
  let netmask ← sqlEscape address.netmask
  let vlanName ← sqlEscape address.vlanName
  sqlInsert .address ⟨messageIdent, some parentType, [parentIndex], some addressIndex,
    [("ident", ident), ("category", category), ("vlan_name", vlanName),
      ("vlan_num", getOptionalInt32 address.vlanNum), ("address", addr), ("netmask", netmask)]⟩

def insertNode (parentType : Char) (messageIdent : ℕ) (parentIndex : Int) (node : Node) :
    Action Unit := do
  let category ← sqlEscape (L.enumToString .nodeCategory node.category)
  let ident ← sqlEscape node.ident
  let name ← sqlEscape node.name
  let location ← (sqlEscape node.location).mapError fun _ => bareError (-1)
  sqlInsert .node ⟨messageIdent, some parentType, [parentIndex], none,
    [("ident", ident), ("category", category), ("location", location), ("name", name)]⟩
  forListed (insertAddress parentType messageIdent parentIndex) node.addresses

def insertUserId (parentType : Char) (messageIdent : ℕ)
    (parentIndex fileIndex fileAccessIndex index : Int) (userId : UserId) : Action Unit := do
  let ident ← sqlEscape userId.ident
  let tty ← sqlEscape userId.tty
  let type ← sqlEscape (L.enumToString .userIdType userId.type)
  let name ← sqlEscape userId.name
  sqlInsert .userId ⟨messageIdent, some parentType, [parentIndex, fileIndex, fileAccessIndex],
    some index, [("ident", ident), ("type", type), ("name", name),
      ("number", getOptionalUint32 userId.number), ("tty", tty)]⟩

def insertUser (parentType : Char) (messageIdent : ℕ) (parentIndex : Int) (user : User) :
    Action Unit := do
  let ident ← sqlEscape user.ident
  let category ← sqlEscape (L.enumToString .userCategory user.category)
  sqlInsert .user ⟨messageIdent, some parentType, [parentIndex], none,
    [("ident", ident), ("category", category)]⟩
  forListed (insertUserId parentType messageIdent parentIndex 0 0) user.userIds

/-- The arguments of a process and of a web service, and the environment strings. -/
def insertString (t : Table) (column : String) (parentType : Char) (messageIdent : ℕ)
    (parentIndex index : Int) (s : String) : Action Unit := do
  let tmp ← sqlEscape (some s)
  sqlInsert t ⟨messageIdent, some parentType, [parentIndex], some index, [(column, tmp)]⟩

def insertProcessArg : Char → ℕ → Int → Int → String → Action Unit := insertString .processArg "arg"
def insertProcessEnv : Char → ℕ → Int → Int → String → Action Unit := insertString .processEnv "env"

def insertProcess (parentType : Char) (messageIdent : ℕ) (parentIndex : Int) (process : Process) :
    Action Unit := do
  let ident ← sqlEscape process.ident
  let name ← sqlEscape (some process.name)
  let path ← sqlEscape process.path
  sqlInsert .process ⟨messageIdent, some parentType, [parentIndex], none,
    [("ident", ident), ("name", name), ("pid", getOptionalUint32 process.pid), ("path", path)]⟩
  -- the last argument and the last environment string are not stored again
  forEach (insertProcessArg parentType messageIdent parentIndex) 0 process.args
  forEach (insertProcessEnv parentType messageIdent parentIndex) 0 process.env

def insertSnmpService (parentType : Char) (messageIdent : ℕ) (parentIndex : Int)
    (snmpService : SnmpService) : Action Unit := do
  let oid ← sqlEscape snmpService.oid
  let securityName ← sqlEscape snmpService.securityName
  let contextName ← sqlEscape snmpService.contextName
  let contextEngineId ← sqlEscape snmpService.contextEngineId
  let command ← sqlEscape snmpService.command
  sqlInsert .snmpService ⟨messageIdent, some parentType, [parentIndex], none,
    [("snmp_oid", oid),
      ("message_processing_model", getOptionalUint32 snmpService.messageProcessingModel),
      ("security_model", getOptionalUint32 snmpService.securityModel),
      ("security_name", securityName),
      ("security_level", getOptionalUint32 snmpService.securityLevel),
      ("context_name", contextName), ("context_engine_id", contextEngineId), ("command", command)]⟩

def insertWebServiceArg : Char → ℕ → Int → Int → String → Action Unit :=
  insertString .webServiceArg "arg"

def insertWebService (parentType : Char) (messageIdent : ℕ) (parentIndex : Int)
    (webService : WebService) : Action Unit := do
  let url ← sqlEscape (some webService.url)
  let cgi ← (sqlEscape webService.cgi).mapError fun _ => bareError (-1)
  let method ← sqlEscape webService.httpMethod
  -- the result of this statement is not looked at
  let _ ← (sqlInsert .webService ⟨messageIdent, some parentType, [parentIndex], none,
    [("url", url), ("cgi", cgi), ("http_method", method)]⟩).attempt
  forListed (insertWebServiceArg parentType messageIdent parentIndex) webService.args

def insertService (parentType : Char) (messageIdent : ℕ) (parentIndex : Int) (service : Service) :
    Action Unit := do
  let ident ← sqlEscape service.ident
  let name ← sqlEscape service.name
  let ianaProtocolName ← sqlEscape service.ianaProtocolName
  let portlist ← sqlEscape service.portlist
  let protocol ← sqlEscape service.protocol
  sqlInsert .service ⟨messageIdent, some parentType, [parentIndex], none,
    [("ident", ident), ("ip_version", getOptionalUint8 service.ipVersion), ("name", name),
      ("port", getOptionalUint16 service.port),
      ("iana_protocol_number", getOptionalUint8 service.ianaProtocolNumber),
      ("iana_protocol_name", ianaProtocolName), ("portlist", portlist), ("protocol", protocol)]⟩
  match service.type with
  | .default => pure ()
  | .web webService => insertWebService parentType messageIdent parentIndex webService
  | .snmp snmpService => insertSnmpService parentType messageIdent parentIndex snmpService

def insertInode (messageIdent : ℕ) (targetIndex fileIndex : Int) (inode : Inode) : Action Unit :=
  sqlInsert .inode ⟨messageIdent, none, [targetIndex, fileIndex], none,
    [("change_time", (timeToTimestamp inode.changeTime).time),
      ("change_time_gmtoff", (timeToTimestamp inode.changeTime).gmtoff),
      ("number", getOptionalUint32 inode.number),
      ("major_device", getOptionalUint32 inode.majorDevice),
      ("minor_device", getOptionalUint32 inode.minorDevice),
      ("c_major_device", getOptionalUint32 inode.cMajorDevice),
      ("c_minor_device", getOptionalUint32 inode.cMinorDevice)]⟩

def insertLinkage (messageIdent : ℕ) (targetIndex fileIndex index : Int) (linkage : Linkage) :
    Action Unit := do
  let category ← sqlEscape (L.enumToString .linkageCategory linkage.category)
  let name ← sqlEscape (some linkage.name)
  let path ← sqlEscape (some linkage.path)
  sqlInsert .linkage ⟨messageIdent, none, [targetIndex, fileIndex], some index,
    [("category", category), ("name", name), ("path", path)]⟩

def insertFileAccessPermission (messageIdent : ℕ)
    (targetIndex fileIndex fileAccessIndex permIndex : Int) (perm : String) : Action Unit := do
  let tmp ← sqlEscape (some perm)
  sqlInsert .fileAccessPermission ⟨messageIdent, none, [targetIndex, fileIndex, fileAccessIndex],
    some permIndex, [("permission", tmp)]⟩

def insertFileAccess (messageIdent : ℕ) (targetIndex fileIndex fileAccessIndex : Int)
    (fileAccess : FileAccess) : Action Unit := do
  sqlInsert .fileAccess ⟨messageIdent, none, [targetIndex, fileIndex], some fileAccessIndex, []⟩
  forListed (insertFileAccessPermission messageIdent targetIndex fileIndex fileAccessIndex)
    fileAccess.permissions
  insertUserId 'F' messageIdent targetIndex fileIndex fileAccessIndex 0 fileAccess.userId

def insertChecksum (messageIdent : ℕ) (targetIndex fileIndex checksumIndex : Int)
    (checksum : Checksum) : Action Unit := do
  let value ← sqlEscape (some checksum.value)
  let key ← sqlEscape checksum.key
  let algorithm ← sqlEscape (L.enumToString .checksumAlgorithm checksum.algorithm)
  sqlInsert .checksum ⟨messageIdent, none, [targetIndex, fileIndex], some checksumIndex,
    [("value", value), ("checksum_key", key), ("algorithm", algorithm)]⟩

def insertFile (messageIdent : ℕ) (targetIndex fileIndex : Int) (file : File) : Action Unit := do
  let category ← sqlEscape (L.enumToString .fileCategory file.category)
  let ident ← sqlEscape file.ident
  let name ← sqlEscape (some file.name)
  let path ← sqlEscape (some file.path)
  let fileType ← sqlEscape file.fileType
  let fstype ← sqlEscape (file.fstype.bind (L.enumToString .fileFstype))
  sqlInsert .file ⟨messageIdent, none, [targetIndex], some fileIndex,
    [("ident", ident), ("category", category), ("name", name), ("path", path),
      ("create_time", (timeToTimestamp file.createTime).time),
      ("create_time_gmtoff", (timeToTimestamp file.createTime).gmtoff),
      ("modify_time", (timeToTimestamp file.modifyTime).time),
      ("modify_time_gmtoff", (timeToTimestamp file.modifyTime).gmtoff),
      ("access_time", (timeToTimestamp file.accessTime).time),
      ("access_time_gmtoff", (timeToTimestamp file.accessTime).gmtoff),
      ("data_size", getOptionalUint64 file.dataSize), ("disk_size", getOptionalUint64 file.diskSize),
      ("fstype", fstype), ("file_type", fileType)]⟩
  forListed (insertFileAccess messageIdent targetIndex fileIndex) file.fileAccesses
  forListed (insertLinkage messageIdent targetIndex fileIndex) file.linkages
  forOptional (insertInode messageIdent targetIndex fileIndex) file.inode
  forListed (insertChecksum messageIdent targetIndex fileIndex) file.checksums

def insertSource (messageIdent : ℕ) (index : Int) (source : Source) : Action Unit := do
  let ident ← sqlEscape source.ident
  let spoofed ← sqlEscape (L.enumToString .sourceSpoofed source.spoofed)
  let interface ← sqlEscape source.interface
  sqlInsert .source ⟨messageIdent, none, [], some index,
    [("ident", ident), ("spoofed", spoofed), ("interface", interface)]⟩
  forOptional (insertNode 'S' messageIdent index) source.node
  forOptional (insertUser 'S' messageIdent index) source.user
  forOptional (insertProcess 'S' messageIdent index) source.process
  forOptional (insertService 'S' messageIdent index) source.service

def insertTarget (messageIdent : ℕ) (targetIndex : Int) (target : Target) : Action Unit := do
  let decoy ← sqlEscape (L.enumToString .targetDecoy target.decoy)
  let ident ← (sqlEscape target.ident).mapError fun _ => bareError (-2)
  let interface ← (sqlEscape target.interface).mapError fun _ => bareError (-2)
  (sqlInsert .target ⟨messageIdent, none, [], some targetIndex,
    [("ident", ident), ("decoy", decoy), ("interface", interface)]⟩).mapError fun _ => bareError (-1)
  forOptional (insertNode 'T' messageIdent targetIndex) target.node
  forOptional (insertUser 'T' messageIdent targetIndex) target.user
  forOptional (insertProcess 'T' messageIdent targetIndex) target.process
  forOptional (insertService 'T' messageIdent targetIndex) target.service
  forListed (insertFile messageIdent targetIndex) target.files

def insertAnalyzer (parentType : Char) (messageIdent : ℕ) (analyzerIndex : Int)
    (analyzer : Analyzer) : Action Unit := do
  let analyzerid ← sqlEscape analyzer.analyzerid
  let class_ ← sqlEscape analyzer.class_
  let name ← sqlEscape analyzer.name
  let model ← sqlEscape analyzer.model
  let version ← sqlEscape analyzer.version
  let manufacturer ← sqlEscape analyzer.manufacturer
  let ostype ← sqlEscape analyzer.ostype
  let osversion ← sqlEscape analyzer.osversion
  sqlInsert .analyzer ⟨messageIdent, some parentType, [], some analyzerIndex,
    [("analyzerid", analyzerid), ("name", name), ("manufacturer", manufacturer), ("model", model),
      ("version", version), ("class", class_), ("ostype", ostype), ("osversion", osversion)]⟩
  forOptional (insertNode parentType messageIdent analyzerIndex) analyzer.node
  forOptional (insertProcess parentType messageIdent analyzerIndex) analyzer.process

def insertReference (messageIdent : ℕ) (referenceIndex : Int) (reference : Reference) :
    Action Unit := do
  let origin ← sqlEscape (L.enumToString .referenceOrigin reference.origin)
  let url ← sqlEscape (some reference.url)
  let name ← sqlEscape (some reference.name)
  let meaning ← sqlEscape reference.meaning
  sqlInsert .reference ⟨messageIdent, none, [], some referenceIndex,
    [("origin", origin), ("name", name), ("url", url), ("meaning", meaning)]⟩

def insertClassification (messageIdent : ℕ) (classification : Classification) : Action Unit := do
  let ident ← sqlEscape classification.ident
  let text ← sqlEscape (some classification.text)
  -- the result of this statement is not looked at
  let _ ← (sqlInsert .classification ⟨messageIdent, none, [], none,
    [("ident", ident), ("text", text)]⟩).attempt
  forListed (insertReference messageIdent) classification.references

def insertAdditionalData (parentType : Char) (messageIdent : ℕ) (adIndex : Int)
    (additionalData : AdditionalData) : Action Unit := do
  let type ← sqlEscape (L.enumToString .additionalDataType additionalData.type)
  let meaning ← sqlEscape additionalData.meaning
  let data ← getData (some additionalData.data)
  sqlInsert .additionalData ⟨messageIdent, some parentType, [], some adIndex,
    [("type", type), ("meaning", meaning), ("data", data)]⟩

/-- The create time, the detect time and the analyzer time. -/
def insertTime (t : Table) (parentType : Option Char) (messageIdent : ℕ) (time : Time) :
    Action Unit :=
  sqlInsert t ⟨messageIdent, parentType, [], none,
    [("time", (timeToTimestamp (some time)).time), ("gmtoff", (timeToTimestamp (some time)).gmtoff),
      ("usec", (timeToTimestamp (some time)).usec)]⟩

def insertCreatetime (parentType : Char) : ℕ → Time → Action Unit :=
  insertTime .createTime (some parentType)
def insertDetecttime : ℕ → Time → Action Unit := insertTime .detectTime none
def insertAnalyzertime (parentType : Char) : ℕ → Time → Action Unit :=
  insertTime .analyzerTime (some parentType)

def insertImpact (messageIdent : ℕ) (impact : Impact) : Action Unit := do
  let completion ← sqlEscape (impact.completion.bind (L.enumToString .impactCompletion))
  let type ← sqlEscape (L.enumToString .impactType impact.type)
  let severity ← sqlEscape (impact.severity.bind (L.enumToString .impactSeverity))
  let description ← sqlEscape impact.description
  sqlInsert .impact ⟨messageIdent, none, [], none,
    [("severity", severity), ("completion", completion), ("type", type),
      ("description", description)]⟩

def insertAction (messageIdent : ℕ) (actionIndex : Int) (action : Idmef.Action) : Action Unit := do
  let category ← sqlEscape (L.enumToString .actionCategory action.category)
  let description ← sqlEscape action.description
  sqlInsert .action ⟨messageIdent, none, [], some actionIndex,
    [("category", category), ("description", description)]⟩

def insertConfidence (messageIdent : ℕ) (confidence : Confidence) : Action Unit := do
  let rating ← sqlEscape (L.enumToString .confidenceRating confidence.rating)
  sqlInsert .confidence ⟨messageIdent, none, [], none,
    [("rating", rating), ("confidence", .decimal (L.formatFloat confidence.confidence))]⟩

def insertAssessment (messageIdent : ℕ) (assessment : Assessment) : Action Unit := do
  sqlInsert .assessment ⟨messageIdent, none, [], none, []⟩
  forOptional (insertImpact messageIdent) assessment.impact
  forOptional (insertConfidence messageIdent) assessment.confidence
  forListed (insertAction messageIdent) assessment.actions

def insertOverflowAlert (messageIdent : ℕ) (overflowAlert : OverflowAlert) : Action Unit := do
  let program ← sqlEscape (some overflowAlert.program)
  let buffer ← getData overflowAlert.buffer
  sqlInsert .overflowAlert ⟨messageIdent, none, [], none,
    [("program", program), ("size", getOptionalUint32 overflowAlert.size), ("buffer", buffer)]⟩

/-- The two texts are null when the alertident is. -/
def insertAlertident (parentType : Char) (messageIdent : ℕ) (alertidentIndex : Int)
    (alertident : Option Alertident) : Action Unit := do
  let analyzerid ← sqlEscape (alertident.bind Alertident.analyzerid)
  let messageid ← sqlEscape (alertident.map Alertident.alertident)
  sqlInsert .alertident ⟨messageIdent, some parentType, [], some alertidentIndex,
    [("alertident", messageid), ("analyzerid", analyzerid)]⟩

def insertToolAlert (messageIdent : ℕ) (toolAlert : ToolAlert) : Action Unit := do
  let name ← sqlEscape (some toolAlert.name)
  let command ← sqlEscape toolAlert.command
  let ret ← (sqlInsert .toolAlert ⟨messageIdent, none, [], none,
    [("name", name), ("command", command)]⟩).attempt
  forEach (fun index a => insertAlertident 'T' messageIdent index (some a)) 0 toolAlert.alertidents
  -- after the loop `ret` is that of its last turn, and the alertident is the null that ended it
  match toolAlert.alertidents, ret with
  | [], .error _ => insertAlertident 'T' messageIdent (-1) none
  | _, _ => pure ()

def insertCorrelationAlert (messageIdent : ℕ) (correlationAlert : CorrelationAlert) :
    Action Unit := do
  let name ← sqlEscape (some correlationAlert.name)
  sqlInsert .correlationAlert ⟨messageIdent, none, [], none, [("name", name)]⟩
  forListed (fun index a => insertAlertident 'C' messageIdent index (some a))
    correlationAlert.alertidents

def fieldToUint64 : Cell → Except SqlError ℕ
  | .number n => if 0 ≤ n ∧ n < 2 ^ 64 then .ok n.toNat else .error (preludedbError .invalidValue)
  | _ => .error (preludedbError .invalidValue)

/-- What follows the use of a table, a row or a field that was never set. -/
def undefinedBehaviour : SqlError := preludedbError .undefined

def identOf : Cell → Except SqlError ℕ
  | .null => .error undefinedBehaviour
  | field => fieldToUint64 field

/-- Only the errors are looked for: no result, no row and a null field are gone on with. -/
def lastIdentOf : Option Result → Action ℕ
  | none => .fail undefinedBehaviour
  | some [] => do
    let _ ← Program.call .fetchRow
    .fail undefinedBehaviour
  | some (row :: _) => do
    let _ ← Program.call .fetchRow
    let _ ← Program.call .fetchField
    Program.ofExcept (identOf (row.headD .null))

def getLastInsertIdent (k : Kind) : Action ℕ := do
  let table ← Program.call (Call.query (.data (.selectMaxIdent k)))
  lastIdentOf table

def insertMessage (k : Kind) (fields : List (String × Cell)) : Action ℕ := do
  let _ ← Program.call (.query (.data (.insertMessage k fields)))
  getLastInsertIdent k

def insertMessageMessageid (k : Kind) (messageid : Option String) : Action ℕ := do
  let tmp ← sqlEscape messageid
  insertMessage k [("messageid", tmp)]

def insertAlertType (messageIdent : ℕ) : AlertType → Action Unit
  | .default => pure ()
  | .tool toolAlert => insertToolAlert messageIdent toolAlert
  | .overflow overflowAlert => insertOverflowAlert messageIdent overflowAlert
  | .correlation correlationAlert => insertCorrelationAlert messageIdent correlationAlert

/-- What is stored under the ident of the alert. -/
def insertAlertBody (ident : ℕ) (alert : Alert) : Action Unit := do
  insertCreatetime 'A' ident alert.createTime
  forOptional (insertDetecttime ident) alert.detectTime
  forOptional (insertAnalyzertime 'A' ident) alert.analyzerTime
  forOptional (insertAssessment ident) alert.assessment
  insertAlertType ident alert.type
  forListed (insertAnalyzer 'A' ident) alert.analyzers
  forListed (insertSource ident) alert.sources
  forListed (insertTarget ident) alert.targets
  forOptional (insertClassification ident) alert.classification
  forListed (insertAdditionalData 'A' ident) alert.additionalData

def insertAlert (alert : Alert) : Action Unit := do
  let ident ← insertMessageMessageid .alert alert.messageid
  insertAlertBody ident alert

/-- What is stored under the ident of the heartbeat. -/
def insertHeartbeatBody (ident : ℕ) (heartbeat : Heartbeat) : Action Unit := do
  forListed (insertAnalyzer 'H' ident) heartbeat.analyzers
  insertCreatetime 'H' ident heartbeat.createTime
  forOptional (insertAnalyzertime 'H' ident) heartbeat.analyzerTime
  forListed (insertAdditionalData 'H' ident) heartbeat.additionalData

def insertHeartbeat (heartbeat : Heartbeat) : Action Unit := do
  let messageid ← sqlEscape heartbeat.messageid
  let ident ← insertMessage .heartbeat
    [("messageid", messageid), ("heartbeat_interval", getOptionalUint32 heartbeat.heartbeatInterval)]
  insertHeartbeatBody ident heartbeat

def insertOf : Message → Action Unit
  | .alert alert => insertAlert alert
  | .heartbeat heartbeat => insertHeartbeat heartbeat

/-- A transaction of its own around `body`, aborted when it fails; an error of the abort takes the
place of the error that led to it. -/
def inTransaction (body : Action Unit) : Action Unit := do
  let _ ← Program.call .transactionStart
  let ret ← body.attempt
  match ret with
  | .error e => do
    let _ ← Program.call .transactionAbort
    .fail e
  | .ok () => do
    let _ ← Program.call .transactionEnd
    pure ()

def classicInsert (message : Message) : Action Unit := inTransaction (insertOf message)

end

end Preludedb.Classic
