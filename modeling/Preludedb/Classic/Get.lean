import Preludedb.Classic.Fields
import Preludedb.Classic.Database

/-! Reading a message back: the SELECT statements of the classic format, in the order in which it
sends them, and the object each reader fills from the rows. -/

namespace Preludedb.Classic

open Foundations Sql Idmef

def Where.message (ident : ℕ) : Where := ⟨[ident], .any, [], .any⟩

def Where.under (parents : List Int) (ident : ℕ) : Where := ⟨[ident], .any, parents, .any⟩

def Where.typed (parentType : Char) (ident : ℕ) (parents : List Int) : Where :=
  ⟨[ident], .eq parentType, parents, .any⟩

section

variable [L : Libprelude]

def timeColumns : List String := ["time", "gmtoff", "usec"]

def getAnalyzerTime (messageIdent : ℕ) (parentType : Char) : Action (Option Time) := do
  let table ← select .analyzerTime timeColumns (.typed parentType messageIdent [])
  let time ← firstRow (fun row => getTimestamp row 0 1 (some 2)) table
  pure time.join

def getDetectTime (messageIdent : ℕ) : Action (Option Time) := do
  let table ← select .detectTime timeColumns (.message messageIdent)
  let time ← firstRow (fun row => getTimestamp row 0 1 (some 2)) table
  pure time.join

def getCreateTime (messageIdent : ℕ) (parentType : Char) : Action (Option Time) := do
  let table ← select .createTime timeColumns (.typed parentType messageIdent [])
  let time ← firstRow (fun row => getTimestamp row 0 1 (some 2)) table
  pure time.join

def newUserId : UserId := ⟨none, L.enumDefault .userIdType, none, none, none⟩

/-- A null column leaves what an earlier row has set. -/
def fillUserId (userId : UserId) (row : List Cell) : Action UserId := do
  let ident ← getString row 0
  let type ← getEnum .userIdType row 1
  let name ← getString row 2
  let number ← getUint32 row 3
  let tty ← getString row 4
  pure { ident := ident <|> userId.ident
         type := type.getD userId.type
         tty := tty <|> userId.tty
         name := name <|> userId.name
         number := number <|> userId.number }

def selectUserId (messageIdent : ℕ) (parentType : Char)
    (parentIndex fileIndex fileAccessIndex : Int) : Action (Option Result) :=
  selectOrdered .userId ["ident", "type", "name", "number", "tty"]
    (.typed parentType messageIdent [parentIndex, fileIndex, fileAccessIndex])

/-- The user ids of a user, a list. -/
def getUserIdListed (messageIdent : ℕ) (parentType : Char)
    (parentIndex fileIndex fileAccessIndex : Int) : Action (List UserId) := do
  let table ← selectUserId messageIdent parentType parentIndex fileIndex fileAccessIndex
  allRows (fun _ => fillUserId newUserId) table

/-- The user id of a file access, one object for all rows. -/
def getUserId (messageIdent : ℕ) (parentType : Char)
    (parentIndex fileIndex fileAccessIndex : Int) : Action UserId := do
  match ← selectUserId messageIdent parentType parentIndex fileIndex fileAccessIndex with
  | none => pure newUserId
  | some rows => foldRows fillUserId newUserId rows

def getUser (messageIdent : ℕ) (parentType : Char) (parentIndex : Int) : Action (Option User) := do
  let table ← select .user ["ident", "category"] (.typed parentType messageIdent [parentIndex])
  firstRow (fun row => do
    let ident ← getString row 0
    let category ← getEnum .userCategory row 1
    let userIds ← getUserIdListed messageIdent parentType parentIndex 0 0
    pure ⟨ident, category.getD (L.enumDefault .userCategory), userIds⟩) table

/-- The rows of one column; a null one is not appended. -/
def getStringListed (t : Table) (column : String) (w : Where) : Action (List String) := do
  let table ← selectOrdered t [column] w
  let strings ← allRows (fun _ row => getString row 0) table
  pure (strings.filterMap id)

/-- The index is passed as a `char`. -/
def getProcessArg (messageIdent : ℕ) (parentType : Char) (parentIndex : Int) :
    Action (List String) :=
  getStringListed .processArg "arg" (.typed parentType messageIdent [parentIndex.bmod 256])

def getProcessEnv (messageIdent : ℕ) (parentType : Char) (parentIndex : Int) :
    Action (List String) :=
  getStringListed .processEnv "env" (.typed parentType messageIdent [parentIndex])

def getProcess (messageIdent : ℕ) (parentType : Char) (parentIndex : Int) :
    Action (Option Process) := do
  let table ← select .process ["ident", "name", "pid", "path"]
    (.typed parentType messageIdent [parentIndex])
  firstRow (fun row => do
    let ident ← getString row 0
    let name ← getString row 1
    let pid ← getUint32 row 2
    let path ← getString row 3
    let args ← getProcessArg messageIdent parentType parentIndex
    let env ← getProcessEnv messageIdent parentType parentIndex
    pure ⟨ident, name.getD "", pid, path, args, env⟩) table

def getWebServiceArg (messageIdent : ℕ) (parentType : Char) (parentIndex : Int) :
    Action (List String) :=
  getStringListed .webServiceArg "arg" (.typed parentType messageIdent [parentIndex])

def getWebService (messageIdent : ℕ) (parentType : Char) (parentIndex : Int) :
    Action (Option WebService) := do
  let table ← select .webService ["url", "cgi", "http_method"]
    (.typed parentType messageIdent [parentIndex])
  firstRow (fun row => do
    let url ← getString row 0
    let cgi ← getString row 1
    let httpMethod ← getString row 2
    let args ← getWebServiceArg messageIdent parentType parentIndex
    pure ⟨url.getD "", cgi, httpMethod, args⟩) table

def getSnmpService (messageIdent : ℕ) (parentType : Char) (parentIndex : Int) :
    Action (Option SnmpService) := do
  let table ← select .snmpService ["snmp_oid", "message_processing_model", "security_model",
    "security_name", "security_level", "context_name", "context_engine_id", "command"]
    (.typed parentType messageIdent [parentIndex])
  firstRow (fun row => do
    let oid ← getString row 0
    let messageProcessingModel ← getUint32 row 1
    let securityModel ← getUint32 row 2
    let securityName ← getString row 3
    let securityLevel ← getUint32 row 4
    let contextName ← getString row 5
    let contextEngineId ← getString row 6
    let command ← getString row 7
    pure ⟨oid, messageProcessingModel, securityModel, securityName, securityLevel, contextName,
      contextEngineId, command⟩) table

/-- The type of a service is that of the part that was set last. -/
def serviceType (web : Option WebService) : Option SnmpService → ServiceType
  | some snmp => .snmp snmp
  | none => (web.map ServiceType.web).getD .default

def getService (messageIdent : ℕ) (parentType : Char) (parentIndex : Int) :
    Action (Option Service) := do
  let ret ← (select .service ["ident", "ip_version", "name", "port", "iana_protocol_number",
    "iana_protocol_name", "portlist", "protocol"]
    (.typed parentType messageIdent [parentIndex])).attempt
  match ret with
  -- an error of this query is the absence of a service
  | .error _ => pure none
  | .ok table => firstRow (fun row => do
    let ident ← getString row 0
    let ipVersion ← getUint8 row 1
    let name ← getString row 2
    let port ← getUint16 row 3
    let ianaProtocolNumber ← getUint8 row 4
    let ianaProtocolName ← getString row 5
    let portlist ← getString row 6
    let protocol ← getString row 7
    let web ← getWebService messageIdent parentType parentIndex
    let snmp ← getSnmpService messageIdent parentType parentIndex
    pure ⟨ident, ipVersion, ianaProtocolNumber, ianaProtocolName, name, port, portlist, protocol,
      serviceType web snmp⟩) table

def getAddress (messageIdent : ℕ) (parentType : Char) (parentIndex : Int) :
    Action (List Address) := do
  let table ← selectOrdered .address ["ident", "category", "vlan_name", "vlan_num", "address",
    "netmask"] (.typed parentType messageIdent [parentIndex])
  allRows (fun _ row => do
    let ident ← getString row 0
    let category ← getEnum .addressCategory row 1
    let vlanName ← getString row 2
    let vlanNum ← getUint32 row 3
    let address ← getString row 4
    let netmask ← getString row 5
    pure ⟨ident, category.getD (L.enumDefault .addressCategory), vlanName,
      vlanNum.map UInt32.toInt32, address.getD "", netmask⟩) table

def getNode (messageIdent : ℕ) (parentType : Char) (parentIndex : Int) : Action (Option Node) := do
  let table ← select .node ["ident", "category", "location", "name"]
    (.typed parentType messageIdent [parentIndex])
  firstRow (fun row => do
    let ident ← getString row 0
    let category ← getEnum .nodeCategory row 1
    let location ← getString row 2
    let name ← getString row 3
    let addresses ← getAddress messageIdent parentType parentIndex
    pure ⟨ident, category.getD (L.enumDefault .nodeCategory), location, name, addresses⟩) table

def getAnalyzer (messageIdent : ℕ) (parentType : Char) : Action (List Analyzer) := do
  let table ← selectOrdered .analyzer ["analyzerid", "name", "manufacturer", "model", "version",
    "class", "ostype", "osversion"] (.typed parentType messageIdent [])
  allRows (fun index row => do
    let analyzerid ← getString row 0
    let name ← getString row 1
    let manufacturer ← getString row 2
    let model ← getString row 3
    let version ← getString row 4
    let class_ ← getString row 5
    let ostype ← getString row 6
    let osversion ← getString row 7
    let node ← getNode messageIdent parentType index
    let process ← getProcess messageIdent parentType index
    pure ⟨analyzerid, name, manufacturer, model, version, class_, ostype, osversion, node,
      process⟩) table

def getAction (messageIdent : ℕ) : Action (List Idmef.Action) := do
  let table ← selectOrdered .action ["category", "description"] (.message messageIdent)
  allRows (fun _ row => do
    let category ← getEnum .actionCategory row 0
    let description ← getString row 1
    pure ⟨category.getD (L.enumDefault .actionCategory), description⟩) table

def getConfidence (messageIdent : ℕ) : Action (Option Confidence) := do
  let table ← select .confidence ["rating", "confidence"] (.message messageIdent)
  firstRow (fun row => do
    let rating ← getEnum .confidenceRating row 0
    let confidence ← getFloat row 1
    pure ⟨rating.getD (L.enumDefault .confidenceRating), confidence.getD 0⟩) table

def getImpact (messageIdent : ℕ) : Action (Option Impact) := do
  let table ← select .impact ["severity", "completion", "type", "description"]
    (.message messageIdent)
  firstRow (fun row => do
    let severity ← getEnum .impactSeverity row 0
    let completion ← getEnum .impactCompletion row 1
    let type ← getEnum .impactType row 2
    let description ← getString row 3
    pure ⟨severity, completion, type.getD (L.enumDefault .impactType), description⟩) table

/-- The rows of the result are not looked at. -/
def getAssessment (messageIdent : ℕ) : Action (Option Assessment) := do
  match ← select .assessment ["_message_ident"] (.message messageIdent) with
  | none => pure none
  | some _ => do
    let impact ← getImpact messageIdent
    let confidence ← getConfidence messageIdent
    let actions ← getAction messageIdent
    pure (some ⟨impact, actions, confidence⟩)

def getFileAccessPermission (messageIdent : ℕ) (targetIndex fileIndex fileAccessIndex : Int) :
    Action (List String) :=
  getStringListed .fileAccessPermission "permission"
    (.under [targetIndex, fileIndex, fileAccessIndex] messageIdent)

/-- The file accesses are numbered from zero, whatever the indices of their rows. -/
def getFileAccess (messageIdent : ℕ) (targetIndex fileIndex : Int) : Action (List FileAccess) := do
  let table ← Program.call (Call.query (.data (.count .fileAccess
    { Where.under [targetIndex, fileIndex] messageIdent with index := .ne (-1) })))
  let count ← firstRow (fun row => getUint32 row 0) table
  match count.join with
  | none => pure []
  | some count => forIndexed (fun cnt _ => do
      let userId ← getUserId messageIdent 'F' targetIndex fileIndex cnt
      let permissions ← getFileAccessPermission messageIdent targetIndex fileIndex cnt
      pure ⟨userId, permissions⟩) 0 (List.replicate count.toNat ())

def getLinkage (messageIdent : ℕ) (targetIndex fileIndex : Int) : Action (List Linkage) := do
  let table ← selectOrdered .linkage ["category", "name", "path"]
    (.under [targetIndex, fileIndex] messageIdent)
  allRows (fun _ row => do
    let category ← getEnum .linkageCategory row 0
    let name ← getString row 1
    let path ← getString row 2
    pure ⟨category.getD (L.enumDefault .linkageCategory), name.getD "", path.getD ""⟩) table

def getInode (messageIdent : ℕ) (targetIndex fileIndex : Int) : Action (Option Inode) := do
  let table ← select .inode ["change_time", "change_time_gmtoff", "number", "major_device",
    "minor_device", "c_major_device", "c_minor_device"]
    (.under [targetIndex, fileIndex] messageIdent)
  firstRow (fun row => do
    let changeTime ← getTimestamp row 0 1 none
    let number ← getUint32 row 2
    let majorDevice ← getUint32 row 3
    let minorDevice ← getUint32 row 4
    let cMajorDevice ← getUint32 row 5
    let cMinorDevice ← getUint32 row 6
    pure ⟨changeTime, number, majorDevice, minorDevice, cMajorDevice, cMinorDevice⟩) table

def getChecksum (messageIdent : ℕ) (targetIndex fileIndex : Int) : Action (List Checksum) := do
  let table ← selectOrdered .checksum ["value", "checksum_key", "algorithm"]
    (.under [targetIndex, fileIndex] messageIdent)
  allRows (fun _ row => do
    let value ← getString row 0
    let key ← getString row 1
    let algorithm ← getEnum .checksumAlgorithm row 2
    pure ⟨value.getD "", key, algorithm.getD (L.enumDefault .checksumAlgorithm)⟩) table

/-- The columns of a file, without the objects of the other tables; the sizes are read as 32-bit
numbers. -/
def getFileRow (row : List Cell) : Action File := do
  let ident ← getString row 0
  let category ← getEnum .fileCategory row 1
  let name ← getString row 2
  let path ← getString row 3
  let createTime ← getTimestamp row 4 5 none
  let modifyTime ← getTimestamp row 6 7 none
  let accessTime ← getTimestamp row 8 9 none
  let dataSize ← getUint32 row 10
  let diskSize ← getUint32 row 11
  let fstype ← getEnum .fileFstype row 12
  let fileType ← getString row 13
  pure { ident, name := name.getD "", path := path.getD "", createTime, modifyTime, accessTime
         dataSize := dataSize.map UInt32.toUInt64
         diskSize := diskSize.map UInt32.toUInt64
         fileAccesses := []
         linkages := []
         inode := none
         checksums := []
         category := category.getD (L.enumDefault .fileCategory)
         fstype, fileType }

def getFile (messageIdent : ℕ) (targetIndex : Int) : Action (List File) := do
  let table ← selectOrdered .file ["ident", "category", "name", "path", "create_time",
    "create_time_gmtoff", "modify_time", "modify_time_gmtoff", "access_time", "access_time_gmtoff",
    "data_size", "disk_size", "fstype", "file_type"] (.under [targetIndex] messageIdent)
  let files ← objectRows (fun _ => getFileRow) table
  forIndexed (fun cnt file => do
    let fileAccesses ← getFileAccess messageIdent targetIndex cnt
    let linkages ← getLinkage messageIdent targetIndex cnt
    let inode ← getInode messageIdent targetIndex cnt
    let checksums ← getChecksum messageIdent targetIndex cnt
    pure { file with fileAccesses, linkages, inode, checksums }) 0 files

def getSource (messageIdent : ℕ) : Action (List Source) := do
  let table ← selectOrdered .source ["ident", "spoofed", "interface"] (.message messageIdent)
  let sources ← objectRows (fun _ row => do
    let ident ← getString row 0
    let spoofed ← getEnum .sourceSpoofed row 1
    let interface ← getString row 2
    pure (⟨ident, spoofed.getD (L.enumDefault .sourceSpoofed), interface, none, none, none, none⟩ :
      Source)) table
  forIndexed (fun cnt (source : Source) => do
    let node ← getNode messageIdent 'S' cnt
    let user ← getUser messageIdent 'S' cnt
    let process ← getProcess messageIdent 'S' cnt
    let service ← getService messageIdent 'S' cnt
    pure { source with node, user, process, service }) 0 sources

def getTarget (messageIdent : ℕ) : Action (List Target) := do
  let table ← selectOrdered .target ["ident", "decoy", "interface"] (.message messageIdent)
  let targets ← objectRows (fun _ row => do
    let ident ← getString row 0
    let decoy ← getEnum .targetDecoy row 1
    let interface ← getString row 2
    pure (⟨ident, decoy.getD (L.enumDefault .targetDecoy), interface, none, none, none, none, []⟩ :
      Target)) table
  forIndexed (fun cnt (target : Target) => do
    let node ← getNode messageIdent 'T' cnt
    let user ← getUser messageIdent 'T' cnt
    let process ← getProcess messageIdent 'T' cnt
    let service ← getService messageIdent 'T' cnt
    let files ← getFile messageIdent cnt
    pure { target with node, user, process, service, files }) 0 targets

def unescapeBinary (field : Cell) : Action (List UInt8) := do
  let _ ← Program.call (.unescapeBinary field.bytes)
  pure field.bytes

/-- The text of a C string, up to its terminating zero. -/
def cString (value : List UInt8) : List Char :=
  (value.takeWhile (· ≠ 0)).map fun b => Char.ofNat b.toNat

/-- `sscanf`: a text of blanks is the end of the file, and another text may have no number. -/
def scanNumber (value : List UInt8) : Except SqlError (Option Int) :=
  if (cString value).all Char.isWhitespace then .error (bareError (-1))
  else .ok ((scanInteger (cString value)).map Prod.fst)

def scanReal (value : List UInt8) : Except SqlError (Option UInt32) :=
  if (cString value).all Char.isWhitespace then .error (bareError (-1))
  else .ok (L.scanFloat value)

/-- A text without a number leaves the data of the new object. -/
def additionalDataOf (value : List UInt8) : Option AdditionalDataType → Except SqlError Data
  | some .character => .ok (.char (value.headD 0))
  | some .real => (scanReal value).map fun x => (x.map Data.float).getD .unknown
  | some .byte | some .boolean =>
    (scanNumber value).map fun x => (x.map fun n => .byte (UInt8.ofInt n)).getD .unknown
  | some .integer | some .ntpstamp =>
    (scanNumber value).map fun x => (x.map fun n => .int (Int64.ofInt n)).getD .unknown
  | some .byteString => .ok (.byteString value)
  | some .portlist | some .string | some .xml => .ok (.charString value)
  | some .dateTime => (L.timeOfString value).map .time
  | some .error => .error (bareError (-1))
  | none => .ok .unknown

/-- A row without data ends the loop; the object that was appended for it stays. -/
def additionalDataRows : Result → Action (List AdditionalData)
  | [] => do
    let _ ← Program.call .fetchRow
    pure []
  | row :: rows => do
    let _ ← Program.call .fetchRow
    let type ← getEnum .additionalDataType row 0
    let type := type.getD (L.enumDefault .additionalDataType)
    let meaning ← getString row 1
    match ← rowGetField row 2 with
    | none => pure [⟨meaning, type, .unknown⟩]
    | some field => do
      let value ← unescapeBinary field
      let data ← Program.ofExcept (additionalDataOf value (L.additionalDataType type))
      let rest ← additionalDataRows rows
      pure (⟨meaning, type, data⟩ :: rest)

def getAdditionalData (messageIdent : ℕ) (parentType : Char) : Action (List AdditionalData) := do
  match ← selectOrdered .additionalData ["type", "meaning", "data"]
    (.typed parentType messageIdent []) with
  | none => pure []
  | some rows => additionalDataRows rows

def getReference (messageIdent : ℕ) : Action (List Reference) := do
  let table ← selectOrdered .reference ["origin", "name", "url", "meaning"] (.message messageIdent)
  allRows (fun _ row => do
    let origin ← getEnum .referenceOrigin row 0
    let name ← getString row 1
    let url ← getString row 2
    let meaning ← getString row 3
    pure ⟨origin.getD (L.enumDefault .referenceOrigin), name.getD "", url.getD "", meaning⟩) table

def getClassification (messageIdent : ℕ) : Action (Option Classification) := do
  let table ← select .classification ["ident", "text"] (.message messageIdent)
  firstRow (fun row => do
    let ident ← getString row 0
    let text ← getString row 1
    let references ← getReference messageIdent
    pure ⟨ident, text.getD "", references⟩) table

def getAlertident (messageIdent : ℕ) (parentType : Char) : Action (List Alertident) := do
  let table ← selectOrdered .alertident ["alertident", "analyzerid"]
    (.typed parentType messageIdent [])
  allRows (fun _ row => do
    let alertident ← getString row 0
    let analyzerid ← getString row 1
    pure ⟨alertident.getD "", analyzerid⟩) table

def getToolAlert (messageIdent : ℕ) : Action (Option ToolAlert) := do
  let table ← select .toolAlert ["name", "command"] (.message messageIdent)
  firstRow (fun row => do
    let name ← getString row 0
    let command ← getString row 1
    let alertidents ← getAlertident messageIdent 'T'
    pure ⟨name.getD "", command, alertidents⟩) table

def getCorrelationAlert (messageIdent : ℕ) : Action (Option CorrelationAlert) := do
  let table ← select .correlationAlert ["name"] (.message messageIdent)
  firstRow (fun row => do
    let name ← getString row 0
    let alertidents ← getAlertident messageIdent 'C'
    pure ⟨name.getD "", alertidents⟩) table

def getOverflowAlert (messageIdent : ℕ) : Action (Option OverflowAlert) := do
  let table ← select .overflowAlert ["program", "size", "buffer"] (.message messageIdent)
  firstRow (fun row => do
    let program ← getString row 0
    let size ← getUint32 row 1
    match ← rowGetField row 2 with
    -- the value of a null field is asked for
    | none => .fail undefinedBehaviour
    | some field => do
      let data ← unescapeBinary field
      pure ⟨program.getD "", size, some (.byteString data)⟩) table

/-- The row of a message; a result without a row is not told from one with it. -/
def messageRowOf {α : Type} (f : List Cell → Action α) : Option Result → Action α
  | none => .fail (preludedbError .invalidMessageIdent)
  | some rows => do
    let _ ← Program.call .fetchRow
    match rows with
    | [] => .fail undefinedBehaviour
    | row :: _ => f row

def getAlertMessageid (ident : ℕ) : Action (Option String) := do
  let table ← select .alert ["messageid"] (.message ident)
  messageRowOf (fun row => getString row 0) table

/-- The part that was set last is the one an alert keeps. -/
def alertType (tool : Option ToolAlert) (correlation : Option CorrelationAlert) :
    Option OverflowAlert → AlertType
  | some overflow => .overflow overflow
  | none => match correlation with
    | some correlation => .correlation correlation
    | none => (tool.map AlertType.tool).getD .default

def classicGetAlert (ident : ℕ) : Action Alert := do
  let messageid ← getAlertMessageid ident
  let assessment ← getAssessment ident
  let analyzers ← getAnalyzer ident 'A'
  let createTime ← getCreateTime ident 'A'
  let detectTime ← getDetectTime ident
  let analyzerTime ← getAnalyzerTime ident 'A'
  let sources ← getSource ident
  let targets ← getTarget ident
  let classification ← getClassification ident
  let additionalData ← getAdditionalData ident 'A'
  let tool ← getToolAlert ident
  let correlation ← getCorrelationAlert ident
  let overflow ← getOverflowAlert ident
  pure { messageid, analyzers, createTime := createTime.getD ⟨0, 0, 0⟩, classification, detectTime
         analyzerTime, sources, targets, assessment, additionalData
         type := alertType tool correlation overflow }

def getHeartbeat (ident : ℕ) : Action (Option String × Option UInt32) := do
  let table ← select .heartbeat ["messageid", "heartbeat_interval"] (.message ident)
  messageRowOf (fun row => do
    let messageid ← getString row 0
    let heartbeatInterval ← getUint32 row 1
    pure (messageid, heartbeatInterval)) table

def classicGetHeartbeat (ident : ℕ) : Action Heartbeat := do
  let (messageid, heartbeatInterval) ← getHeartbeat ident
  let analyzers ← getAnalyzer ident 'H'
  let createTime ← getCreateTime ident 'H'
  let analyzerTime ← getAnalyzerTime ident 'H'
  let additionalData ← getAdditionalData ident 'H'
  pure { messageid, analyzers, createTime := createTime.getD ⟨0, 0, 0⟩, analyzerTime
         heartbeatInterval, additionalData }

def classicGet : Kind → ℕ → Action Message
  | .alert, ident => do
    let alert ← classicGetAlert ident
    pure (.alert alert)
  | .heartbeat, ident => do
    let heartbeat ← classicGetHeartbeat ident
    pure (.heartbeat heartbeat)

end

end Preludedb.Classic
