import Mathlib.Tactic

/-! The paths into IDMEF messages: the classes with their children, and the elements a path is made
of, from the message down to a value or an object. -/

namespace Preludedb.Idmef

inductive Class
  | alert
  | heartbeat
  | analyzer
  | node
  | address
  | process
  | source
  | target
  | user
  | userId
  | service
  | webService
  | snmpService
  | file
  | fileAccess
  | linkage
  | inode
  | checksum
  | classification
  | reference
  | assessment
  | impact
  | action
  | confidence
  | additionalData
  | toolAlert
  | correlationAlert
  | overflowAlert
  | alertident
  deriving DecidableEq, Repr

def Class.name : Class → String
  | alert => "alert"
  | heartbeat => "heartbeat"
  | analyzer => "analyzer"
  | node => "node"
  | address => "address"
  | process => "process"
  | source => "source"
  | target => "target"
  | user => "user"
  | userId => "user_id"
  | service => "service"
  | webService => "web_service"
  | snmpService => "snmp_service"
  | file => "file"
  | fileAccess => "file_access"
  | linkage => "linkage"
  | inode => "inode"
  | checksum => "checksum"
  | classification => "classification"
  | reference => "reference"
  | assessment => "assessment"
  | impact => "impact"
  | action => "action"
  | confidence => "confidence"
  | additionalData => "additional_data"
  | toolAlert => "tool_alert"
  | correlationAlert => "correlation_alert"
  | overflowAlert => "overflow_alert"
  | alertident => "alertident"

inductive ValueType
  | time
  | data
  | enum
  | other
  deriving DecidableEq, Repr

inductive ChildType
  | value (v : ValueType)
  | class (c : Class)
  deriving DecidableEq, Repr

structure Child where
  name : String
  listed : Bool
  type : ChildType
  deriving DecidableEq, Repr

namespace Child

def value (name : String) : Child := ⟨name, false, .value .other⟩
def enum (name : String) : Child := ⟨name, false, .value .enum⟩
def time (name : String) : Child := ⟨name, false, .value .time⟩
def data (name : String) : Child := ⟨name, false, .value .data⟩
def strings (name : String) : Child := ⟨name, true, .value .other⟩
def object (c : Class) : Child := ⟨c.name, false, .class c⟩
def objects (c : Class) : Child := ⟨c.name, true, .class c⟩

end Child

open Child in
def Class.children : Class → List Child
  | .alert => [value "messageid", objects .analyzer, time "create_time", object .classification,
      time "detect_time", time "analyzer_time", objects .source, objects .target,
      object .assessment, objects .additionalData, object .toolAlert, object .correlationAlert,
      object .overflowAlert]
  | .heartbeat => [value "messageid", objects .analyzer, time "create_time", time "analyzer_time",
      value "heartbeat_interval", objects .additionalData]
  | .analyzer => [value "analyzerid", value "name", value "manufacturer", value "model",
      value "version", value "class", value "ostype", value "osversion", object .node,
      object .process]
  | .node => [value "ident", enum "category", value "location", value "name", objects .address]
  | .address => [value "ident", enum "category", value "vlan_name", value "vlan_num",
      value "address", value "netmask"]
  | .process => [value "ident", value "name", value "pid", value "path", strings "arg",
      strings "env"]
  | .source => [value "ident", enum "spoofed", value "interface", object .node, object .user,
      object .process, object .service]
  | .target => [value "ident", enum "decoy", value "interface", object .node, object .user,
      object .process, object .service, objects .file]
  | .user => [value "ident", enum "category", objects .userId]
  | .userId => [value "ident", enum "type", value "tty", value "name", value "number"]
  | .service => [value "ident", value "ip_version", value "iana_protocol_number",
      value "iana_protocol_name", value "name", value "port", value "portlist", value "protocol",
      object .webService, object .snmpService]
  | .webService => [value "url", value "cgi", value "http_method", strings "arg"]
  | .snmpService => [value "oid", value "message_processing_model", value "security_model",
      value "security_name", value "security_level", value "context_name",
      value "context_engine_id", value "command"]
  | .file => [value "ident", value "name", value "path", time "create_time", time "modify_time",
      time "access_time", value "data_size", value "disk_size", objects .fileAccess,
      objects .linkage, object .inode, objects .checksum, enum "category", enum "fstype",
      value "file_type"]
  | .fileAccess => [object .userId, strings "permission"]
  | .linkage => [enum "category", value "name", value "path", object .file]
  | .inode => [time "change_time", value "number", value "major_device", value "minor_device",
      value "c_major_device", value "c_minor_device"]
  | .checksum => [value "value", value "key", enum "algorithm"]
  | .classification => [value "ident", value "text", objects .reference]
  | .reference => [enum "origin", value "name", value "url", value "meaning"]
  | .assessment => [object .impact, objects .action, object .confidence]
  | .impact => [enum "severity", enum "completion", enum "type", value "description"]
  | .action => [enum "category", value "description"]
  | .confidence => [enum "rating", value "confidence"]
  | .additionalData => [value "meaning", enum "type", data "data"]
  | .toolAlert => [value "name", value "command", objects .alertident]
  | .correlationAlert => [value "name", objects .alertident]
  | .overflowAlert => [value "program", value "size", data "buffer"]
  | .alertident => [value "alertident", value "analyzerid"]

/-- The index of an element: `forbidden` outside the lists, `undefined` for all of one. -/
inductive Index
  | forbidden
  | undefined
  | last
  | nth (n : ℕ)
  deriving DecidableEq, Repr

structure PathElement where
  name : String
  type : ChildType
  index : Index
  deriving DecidableEq, Repr

def ChildType.class? : ChildType → Option Class
  | .value _ => none
  | .class c => some c

def Child.at (child : Child) (index : Index) : PathElement := ⟨child.name, child.type, index⟩

def Class.element (c : Class) : PathElement := ⟨c.name, .class c, .forbidden⟩

/-- The elements below an object of the class. -/
inductive Leads : Class → List PathElement → Prop
  | child {c : Class} {child : Child} {index : Index} (h : child ∈ c.children)
      (hi : index = .forbidden ↔ child.listed = false) : Leads c [child.at index]
  | step {c c' : Class} {child : Child} {index : Index} {rest : List PathElement}
      (h : child ∈ c.children) (hi : index = .forbidden ↔ child.listed = false)
      (ht : child.type = .class c') (hrest : Leads c' rest) : Leads c (child.at index :: rest)

lemma alert_top : Class.alert = .alert ∨ Class.alert = .heartbeat := .inl rfl

/-- A path from a message to one of its values or objects. -/
structure Path where
  top : Class
  below : List PathElement
  message : top = .alert ∨ top = .heartbeat
  leads : Leads top below

namespace Path

def nodes (p : Path) : List PathElement := p.top.element :: p.below

def depth (p : Path) : ℕ := p.nodes.length

def getClass (p : Path) (depth : ℕ) : Option Class := p.nodes[depth]?.bind fun n => n.type.class?

def getName (p : Path) (depth : ℕ) : String := (p.nodes[depth]?.map PathElement.name).getD ""

def getIndex (p : Path) (depth : ℕ) : Index :=
  (p.nodes[depth]?.map PathElement.index).getD .forbidden

/-- The type of the value at the end of the path, if there is one. -/
def getValueType (p : Path) : Option ValueType :=
  match p.nodes.getLast?.map PathElement.type with
  | some (.value v) => some v
  | _ => none

lemma below_ne_nil (p : Path) : p.below ≠ [] := by
  obtain ⟨top, below, -, hl⟩ := p
  cases hl <;> nofun

lemma getValueType_eq_some {p : Path} {v : ValueType} :
    p.getValueType = some v ↔ ∃ n, p.below.getLast? = some n ∧ n.type = .value v := by
  have hlast : p.nodes.getLast? = p.below.getLast? :=
    List.getLast?_cons_of_ne_nil p.below_ne_nil
  rw [getValueType, hlast]
  cases p.below.getLast? with
  | none => simp
  | some n => rcases hn : n.type with v' | c <;> simp [hn]

/-- The first `depth` elements of the two paths are the same. -/
def ncompare (p q : Path) (depth : ℕ) : Bool := decide (p.nodes.take depth = q.nodes.take depth)

def compare (p q : Path) : Bool := decide (p.nodes = q.nodes)

end Path

end Preludedb.Idmef
