import Preludedb.Sql.Error

/-! IDMEF messages as the storage format reads them. Enumerated attributes are the library's
integers; optional strings are pointers that may be null, and required ones are not. -/

namespace Preludedb.Idmef

/-- Values of the library's enumerated types. -/
abbrev EnumValue := Int

structure Time where
  sec : UInt32
  usec : UInt32
  gmtOffset : Int32
  deriving DecidableEq, Repr

/-- `unknown` is the data of a new object. -/
inductive Data
  | unknown
  | char (c : UInt8)
  | byte (b : UInt8)
  | uint32 (n : UInt32)
  | int (n : Int64)
  | float (bits : UInt32)
  | charString (bytes : List UInt8)
  | byteString (bytes : List UInt8)
  | time (t : Time)
  deriving DecidableEq, Repr

structure Address where
  ident : Option String
  category : EnumValue
  vlanName : Option String
  vlanNum : Option Int32
  address : String
  netmask : Option String
  deriving DecidableEq, Repr

structure Node where
  ident : Option String
  category : EnumValue
  location : Option String
  name : Option String
  addresses : List Address
  deriving DecidableEq, Repr

structure UserId where
  ident : Option String
  type : EnumValue
  tty : Option String
  name : Option String
  number : Option UInt32
  deriving DecidableEq, Repr

structure User where
  ident : Option String
  category : EnumValue
  userIds : List UserId
  deriving DecidableEq, Repr

structure Process where
  ident : Option String
  name : String
  pid : Option UInt32
  path : Option String
  args : List String
  env : List String
  deriving DecidableEq, Repr

structure WebService where
  url : String
  cgi : Option String
  httpMethod : Option String
  args : List String
  deriving DecidableEq, Repr

structure SnmpService where
  oid : Option String
  messageProcessingModel : Option UInt32
  securityModel : Option UInt32
  securityName : Option String
  securityLevel : Option UInt32
  contextName : Option String
  contextEngineId : Option String
  command : Option String
  deriving DecidableEq, Repr

inductive ServiceType
  | default
  | web (service : WebService)
  | snmp (service : SnmpService)
  deriving DecidableEq, Repr

def ServiceType.isWeb : ServiceType → Bool
  | .web _ => true
  | _ => false

structure Service where
  ident : Option String
  ipVersion : Option UInt8
  ianaProtocolNumber : Option UInt8
  ianaProtocolName : Option String
  name : Option String
  port : Option UInt16
  portlist : Option String
  protocol : Option String
  type : ServiceType
  deriving DecidableEq, Repr

structure Inode where
  changeTime : Option Time
  number : Option UInt32
  majorDevice : Option UInt32
  minorDevice : Option UInt32
  cMajorDevice : Option UInt32
  cMinorDevice : Option UInt32
  deriving DecidableEq, Repr

/-- The file of a linkage is not stored. -/
structure Linkage where
  category : EnumValue
  name : String
  path : String
  deriving DecidableEq, Repr

structure FileAccess where
  userId : UserId
  permissions : List String
  deriving DecidableEq, Repr

structure Checksum where
  value : String
  key : Option String
  algorithm : EnumValue
  deriving DecidableEq, Repr

structure File where
  ident : Option String
  name : String
  path : String
  createTime : Option Time
  modifyTime : Option Time
  accessTime : Option Time
  dataSize : Option UInt64
  diskSize : Option UInt64
  fileAccesses : List FileAccess
  linkages : List Linkage
  inode : Option Inode
  checksums : List Checksum
  category : EnumValue
  fstype : Option EnumValue
  fileType : Option String
  deriving DecidableEq, Repr

structure Source where
  ident : Option String
  spoofed : EnumValue
  interface : Option String
  node : Option Node
  user : Option User
  process : Option Process
  service : Option Service
  deriving DecidableEq, Repr

structure Target where
  ident : Option String
  decoy : EnumValue
  interface : Option String
  node : Option Node
  user : Option User
  process : Option Process
  service : Option Service
  files : List File
  deriving DecidableEq, Repr

structure Analyzer where
  analyzerid : Option String
  name : Option String
  manufacturer : Option String
  model : Option String
  version : Option String
  class_ : Option String
  ostype : Option String
  osversion : Option String
  node : Option Node
  process : Option Process
  deriving DecidableEq, Repr

structure Reference where
  origin : EnumValue
  name : String
  url : String
  meaning : Option String
  deriving DecidableEq, Repr

structure Classification where
  ident : Option String
  text : String
  references : List Reference
  deriving DecidableEq, Repr

structure AdditionalData where
  meaning : Option String
  type : EnumValue
  data : Data
  deriving DecidableEq, Repr

structure Impact where
  severity : Option EnumValue
  completion : Option EnumValue
  type : EnumValue
  description : Option String
  deriving DecidableEq, Repr

structure Action where
  category : EnumValue
  description : Option String
  deriving DecidableEq, Repr

/-- `confidence` is the bit pattern of a float. -/
structure Confidence where
  rating : EnumValue
  confidence : UInt32
  deriving DecidableEq, Repr

structure Assessment where
  impact : Option Impact
  actions : List Action
  confidence : Option Confidence
  deriving DecidableEq, Repr

structure Alertident where
  alertident : String
  analyzerid : Option String
  deriving DecidableEq, Repr

structure ToolAlert where
  name : String
  command : Option String
  alertidents : List Alertident
  deriving DecidableEq, Repr

structure CorrelationAlert where
  name : String
  alertidents : List Alertident
  deriving DecidableEq, Repr

structure OverflowAlert where
  program : String
  size : Option UInt32
  buffer : Option Data
  deriving DecidableEq, Repr

inductive AlertType
  | default
  | tool (alert : ToolAlert)
  | correlation (alert : CorrelationAlert)
  | overflow (alert : OverflowAlert)
  deriving DecidableEq, Repr

def AlertType.isTool : AlertType → Bool
  | .tool _ => true
  | _ => false

structure Alert where
  messageid : Option String
  analyzers : List Analyzer
  createTime : Time
  classification : Option Classification
  detectTime : Option Time
  analyzerTime : Option Time
  sources : List Source
  targets : List Target
  assessment : Option Assessment
  additionalData : List AdditionalData
  type : AlertType
  deriving DecidableEq, Repr

structure Heartbeat where
  messageid : Option String
  analyzers : List Analyzer
  createTime : Time
  analyzerTime : Option Time
  heartbeatInterval : Option UInt32
  additionalData : List AdditionalData
  deriving DecidableEq, Repr

inductive Message
  | alert (alert : Alert)
  | heartbeat (heartbeat : Heartbeat)
  deriving DecidableEq, Repr

inductive Enumeration
  | additionalDataType
  | referenceOrigin
  | userIdType
  | userCategory
  | addressCategory
  | nodeCategory
  | sourceSpoofed
  | targetDecoy
  | checksumAlgorithm
  | fileCategory
  | fileFstype
  | linkageCategory
  | impactSeverity
  | impactCompletion
  | impactType
  | actionCategory
  | confidenceRating
  deriving DecidableEq, Repr

/-- Broken-down time, with the fields of the C library. -/
structure Tm where
  sec : Int
  min : Int
  hour : Int
  mday : Int
  mon : Int
  year : Int
  deriving DecidableEq, Repr

/-- The kinds of additional data, `error` standing for the value of an unknown name. -/
inductive AdditionalDataType
  | error
  | string
  | byte
  | character
  | dateTime
  | integer
  | ntpstamp
  | portlist
  | real
  | boolean
  | byteString
  | xml
  deriving DecidableEq, Repr

/-- The functions of the message library and of the C library that the storage format calls:
`enumToNumeric` gives an unknown name a negative value, `enumDefault` is the value of a required
attribute of a new object, and `scanFloat` reads a number at the start of a text. -/
class Libprelude where
  enumToString : Enumeration → EnumValue → Option String
  enumToNumeric : Enumeration → String → EnumValue
  enumDefault : Enumeration → EnumValue
  additionalDataType : EnumValue → Option AdditionalDataType
  dataToString : Option Data → Except Sql.SqlError String
  timeOfString : List UInt8 → Except Sql.SqlError Time
  formatFloat : UInt32 → String
  parseFloat : String → Option UInt32
  scanFloat : List UInt8 → Option UInt32
  gmtime : UInt32 → Tm
  timegm : Tm → UInt32

/-- A library without texts. -/
@[reducible] def bareLibrary : Libprelude where
  enumToString _ _ := none
  enumToNumeric _ _ := -1
  enumDefault _ := 0
  additionalDataType _ := none
  dataToString _ := .error (Sql.preludedbError .generic)
  timeOfString _ := .error (Sql.preludedbError .generic)
  formatFloat _ := ""
  parseFloat _ := none
  scanFloat _ := none
  gmtime _ := ⟨0, 0, 0, 1, 0, 70⟩
  timegm _ := 0

def classifiedAlert : Alert where
  messageid := some "m"
  analyzers := []
  createTime := ⟨0, 0, 0⟩
  classification := some ⟨none, "login", []⟩
  detectTime := none
  analyzerTime := none
  sources := []
  targets := []
  assessment := none
  additionalData := []
  type := .default

end Preludedb.Idmef
