import Preludedb.Classic.Processes

/-! What a source and a target have in common, as it is read back: the user, the service and the
node. Enumerated attributes come back by their names, and the numbers of VLANs as unsigned ones. -/

namespace Preludedb.Classic

open Foundations Sql Idmef

section Kept

variable [L : Libprelude]

/-- The value of an enumerated attribute that is stored by its name; without a name, the one of a
new object. -/
def enumKept (e : Enumeration) (v : EnumValue) : EnumValue :=
  ((L.enumToString e v).map (L.enumToNumeric e)).getD (L.enumDefault e)

def userIdKept (u : UserId) : UserId := { u with type := enumKept .userIdType u.type }

def userKept (u : User) : User :=
  { u with category := enumKept .userCategory u.category, userIds := u.userIds.map userIdKept }

def addressKept (a : Address) : Address :=
  { a with category := enumKept .addressCategory a.category }

def nodeKept (n : Node) : Node :=
  { n with category := enumKept .nodeCategory n.category, addresses := n.addresses.map addressKept }

/-- No address has a negative VLAN number. -/
def Node.Unsigned (n : Node) : Prop := ∀ a ∈ n.addresses, ∀ v ∈ a.vlanNum, 0 ≤ v.toInt

end Kept

section Numbers

variable {α : Type} {b : Backend} {d : Database} {row : List Cell} {i : ℕ}

lemma getInteger_found {fieldTo : Cell → Except SqlError α} {n : Int} {x : Option α}
    (h : row.getD i .null = .number n) (hx : Finds b d (getInteger fieldTo row i) x) :
    ∃ a, fieldTo (.number n) = .ok a := by
  have hfield : Finds b d (rowGetField row i) _ := rowGetField_finds
  rw [h, if_neg (by nofun)] at hfield
  rw [getInteger] at hx
  have hx : Finds b d (Program.ofExcept (fieldTo (.number n)) >>= fun value => pure (some value)) x :=
    hx.after hfield
  cases hto : fieldTo (.number n) with
  | ok a => exact ⟨a, rfl⟩
  | error e =>
    rw [hto] at hx
    cases hx

lemma getUint32_kept : ((getUint32 row i).run (serve b) d).2 = d :=
  run_reads (show (getUint32 row i).Requests (Reads .alert 0) from getUint32_reads row i)

lemma fieldToUint32_ok {n : Int} {x : UInt32} (h : fieldToUint32 (.number n) = .ok x) :
    0 ≤ n ∧ n ≤ 0xffffffff := by
  rw [fieldToUint32, fieldToInteger] at h
  split at h
  next hn => exact hn
  next => cases h

lemma getUint32_vlan {x : Option Int32} (hx : ∀ v ∈ x, 0 ≤ v.toInt)
    (h : row.getD i .null = getOptionalInt32 x) :
    Finds b d (getUint32 row i) (x.map Int32.toUInt32) := by
  refine getUint32_finds (h.trans ?_)
  cases x with
  | none => rfl
  | some v =>
    have hv : 0 ≤ v.toInt := hx v rfl
    have hkept : (v.toUInt32.toNat : Int) = v.toInt := by
      rw [Int32.toNat_toUInt32_of_le (Int32.le_iff_toInt_le.mpr hv)]
      exact Int.toNat_of_nonneg hv
    exact congrArg Cell.number hkept.symm

lemma getUint32_size {x : Option UInt64} (hx : ∀ n ∈ x, n.toNat < 2 ^ 32)
    (h : row.getD i .null = getOptionalUint64 x) :
    Finds b d (getUint32 row i) (x.map UInt64.toUInt32) := by
  refine getUint32_finds (h.trans ?_)
  cases x with
  | none => rfl
  | some n =>
    have hn := hx n rfl
    have hkept : n.toUInt32.toNat = n.toNat := by
      rw [UInt64.toNat_toUInt32, Nat.mod_eq_of_lt hn]
    exact congrArg (fun k : ℕ => Cell.number k) hkept.symm

end Numbers

section Readers

variable [L : Libprelude] {b : Backend} {m : Message} {ident : ℕ} {d : Database}

lemma userIds_stored (m : Message) (p : Party) :
    StoredAs m (.userId p 0) ((usersOf m p).flatMap User.userIds) fun i => userIdEntry (.userId p i) where
  indexed := ⟨fun _ _ => rfl, fun _ _ _ => rfl⟩
  arity := nofun
  group := by
    rw [listed_flatMap (usersOf_length m p), List.map_flatMap]
    exact .inr rfl

lemma webArgs_stored (m : Message) (p : Party) :
    StoredAs m (.webServiceArg p 0) ((webServicesOf m p).flatMap WebService.args)
      fun i => stringEntry (.webServiceArg p i) "arg" where
  indexed := ⟨fun _ _ => rfl, fun _ _ _ => rfl⟩
  arity := nofun
  group := by
    rw [listed_flatMap (webServicesOf_length m p), List.map_flatMap]
    exact .inr rfl

lemma addresses_stored (m : Message) (o : Owner) :
    StoredAs m (.address o 0) ((nodesOf m o).flatMap Node.addresses) (addressEntry o) where
  indexed := ⟨fun _ _ => rfl, fun _ _ _ => rfl⟩
  arity := nofun
  group := by
    rw [listed_flatMap (nodesOf_length m o), List.map_flatMap]
    exact .inr rfl

def snmpServicesOf (m : Message) (p : Party) : List SnmpService :=
  (servicesOf m p).flatMap fun v => snmpOf v.type

omit L in
lemma snmpServicesOf_length (m : Message) (p : Party) : (snmpServicesOf m p).length ≤ 1 :=
  length_flatMap (servicesOf_length m p) fun v => snmpOf_length v.type

/-- A row of a user id is read as it was stored into a new one. -/
lemma fillUserId_finds {row : List Cell} {u : UserId} (h : row = [textCell u.ident,
    textCell (L.enumToString .userIdType u.type), textCell u.name, getOptionalUint32 u.number,
    textCell u.tty]) : Finds b d (fillUserId newUserId row) (userIdKept u) := by
  subst h
  refine (getString_finds rfl).bind ((getEnum_finds rfl).bind ((getString_finds rfl).bind ?_))
  refine (getUint32_finds rfl).bind ((getString_finds rfl).bind ?_)
  obtain ⟨ident, type, tty, name, number⟩ := u
  have hkept : ∀ {α : Type} (x : Option α), (x <|> none) = x := fun x => by cases x <;> rfl
  simp only [newUserId, hkept]
  exact .done _

variable {p : Party} (hd : Holds m ident d) (hb : Unchanged b m)

include hd hb

lemma getUserIdListed_finds (hk : kindOf m = .alert) :
    Finds b d (getUserIdListed ident p.parentType p.index 0 0)
      (((usersOf m p).flatMap User.userIds).map userIdKept) :=
  (userIds_stored m p).all_finds hd hk.symm hb fun _ _ _ => fillUserId_finds rfl

lemma getUser_finds (hk : kindOf m = .alert) : Finds b d (getUser ident p.parentType p.index)
    ((usersOf m p).head?.map userKept) := by
  have hone := eq_head_toList (usersOf_length m p)
  have hgroup : group m (.user p) = (usersOf m p).head?.toList.map fun u =>
      (⟨.user p, texts [u.ident, L.enumToString .userCategory u.category], [("ident", textCell u.ident),
        ("category", textCell (L.enumToString .userCategory u.category))], .checked⟩ : Entry) := by
    rw [← hone, List.map_eq_flatMap]
    rfl
  refine single_finds (s := .user p) hgroup hd hk.symm hb fun u hu => ?_
  have hids : (usersOf m p).flatMap User.userIds = u.userIds := by
    rw [hone, Option.mem_def.mp hu]
    exact List.flatMap_singleton _ _
  refine (getString_finds rfl).bind ((getEnum_finds rfl).bind ?_)
  refine (getUserIdListed_finds hd hb hk).bind ?_
  rw [hids]
  exact .done _

lemma getWebService_finds (hk : kindOf m = .alert) :
    Finds b d (getWebService ident p.parentType p.index) (webServicesOf m p).head? := by
  have hone := eq_head_toList (webServicesOf_length m p)
  have hgroup : group m (.webService p) = (webServicesOf m p).head?.toList.map fun w =>
      (⟨.webService p, [.text (some w.url), .textOr (-1) w.cgi, .text w.httpMethod],
        [("url", textCell (some w.url)), ("cgi", textCell w.cgi),
        ("http_method", textCell w.httpMethod)], .unchecked⟩ : Entry) := by
    rw [← hone, List.map_eq_flatMap]
    rfl
  rw [← Option.map_id_apply (x := (webServicesOf m p).head?)]
  refine single_finds (s := .webService p) hgroup hd hk.symm hb fun w hw => ?_
  have hargs : (webServicesOf m p).flatMap WebService.args = w.args := by
    rw [hone, Option.mem_def.mp hw]
    exact List.flatMap_singleton _ _
  have hfound : Finds b d (getWebServiceArg ident p.parentType p.index) w.args := by
    have hquery : Where.typed p.parentType ident [p.index] =
        (Element.webServiceArg p 0).query ident .any := rfl
    rw [← hargs, getWebServiceArg, hquery]
    exact getStringListed_finds (webArgs_stored m p) hd hk.symm hb fun _ _ => rfl
  refine (getString_finds (x := some w.url) rfl).bind ((getString_finds rfl).bind ?_)
  exact (getString_finds rfl).bind (hfound.bind (.done _))

lemma getSnmpService_finds (hk : kindOf m = .alert) :
    Finds b d (getSnmpService ident p.parentType p.index) (snmpServicesOf m p).head? := by
  have hone := eq_head_toList (snmpServicesOf_length m p)
  have hgroup : group m (.snmpService p) =
      (snmpServicesOf m p).head?.toList.map (snmpServiceEntry p) := by
    rw [← hone, snmpServicesOf, List.map_flatMap]
    rfl
  rw [← Option.map_id_apply (x := (snmpServicesOf m p).head?)]
  refine single_finds (s := .snmpService p) hgroup hd hk.symm hb fun v _ => ?_
  refine (getString_finds rfl).bind ((getUint32_finds rfl).bind ((getUint32_finds rfl).bind ?_))
  refine (getString_finds rfl).bind ((getUint32_finds rfl).bind ((getString_finds rfl).bind ?_))
  exact (getString_finds rfl).bind ((getString_finds rfl).bind (.done _))

omit L hd hb in
lemma serviceType_kept (t : ServiceType) : serviceType (webOf t).head? (snmpOf t).head? = t := by
  cases t <;> rfl

/-- A service is found as it was stored, with the part for its type. -/
lemma getService_finds (hk : kindOf m = .alert) :
    Finds b d (getService ident p.parentType p.index) (servicesOf m p).head? := by
  have hone := eq_head_toList (servicesOf_length m p)
  have hgroup : group m (.service p) = (servicesOf m p).head?.toList.map fun v =>
      (⟨.service p, texts [v.ident, v.name, v.ianaProtocolName, v.portlist, v.protocol],
        [("ident", textCell v.ident), ("ip_version", getOptionalUint8 v.ipVersion),
        ("name", textCell v.name), ("port", getOptionalUint16 v.port),
        ("iana_protocol_number", getOptionalUint8 v.ianaProtocolNumber),
        ("iana_protocol_name", textCell v.ianaProtocolName), ("portlist", textCell v.portlist),
        ("protocol", textCell v.protocol)], .checked⟩ : Entry) := by
    rw [← hone, List.map_eq_flatMap]
    rfl
  rw [← Option.map_id_apply (x := (servicesOf m p).head?)]
  refine Finds.bind (Program.Observes.attempt (single_select (s := .service p) hd hk.symm _)) ?_
  refine single_row_finds (s := .service p) hgroup hb fun v hv => ?_
  have htypes : webServicesOf m p = webOf v.type ∧ snmpServicesOf m p = snmpOf v.type := by
    rw [webServicesOf, snmpServicesOf, hone, Option.mem_def.mp hv]
    exact ⟨List.flatMap_singleton _ _, List.flatMap_singleton _ _⟩
  have hweb := getWebService_finds hd hb (p := p) hk
  have hsnmp := getSnmpService_finds hd hb (p := p) hk
  rw [htypes.1] at hweb
  rw [htypes.2] at hsnmp
  refine (getString_finds rfl).bind ((getUint8_finds rfl).bind ((getString_finds rfl).bind ?_))
  refine (getUint16_finds rfl).bind ((getUint8_finds rfl).bind ((getString_finds rfl).bind ?_))
  refine (getString_finds rfl).bind ((getString_finds rfl).bind (hweb.bind (hsnmp.bind ?_)))
  rw [serviceType_kept]
  exact .done _

variable {o : Owner}

omit hd hb in
lemma getAddress_reads (o : Owner) (i : Int) :
    (getAddress ident o.parentType i).Requests (Reads o.kind ident) := by
  refine .bind (selectOrdered_reads (.eq (selects_element (.address o 0))) rfl)
    (allRows_reads fun _ row => ?_)
  exact .bind (getString_reads row 0) fun _ => .bind (getEnum_reads _ row 1) fun _ =>
    .bind (getString_reads row 2) fun _ => .bind (getUint32_reads row 3) fun _ =>
    .bind (getString_reads row 4) fun _ => .bind (getString_reads row 5) fun _ => trivial

lemma getAddress_finds (hk : o.kind = kindOf m) (hvlan : ∀ n ∈ nodesOf m o, Node.Unsigned n) :
    Finds b d (getAddress ident o.parentType o.index)
      (((nodesOf m o).flatMap Node.addresses).map addressKept) := by
  refine (addresses_stored m o).all_finds hd hk hb fun _ a ha => ?_
  obtain ⟨n, hn, ha⟩ := List.mem_flatMap.mp ha
  refine (getString_finds rfl).bind ((getEnum_finds rfl).bind ((getString_finds rfl).bind ?_))
  refine (getUint32_vlan (hvlan n hn a ha) rfl).bind ((getString_finds (x := some a.address) rfl).bind ?_)
  refine (getString_finds rfl).bind ?_
  have hvlan : (a.vlanNum.map Int32.toUInt32).map UInt32.toInt32 = a.vlanNum := by
    rw [Option.map_map]
    exact Option.map_id_apply
  rw [hvlan]
  exact .done _

/-- The addresses of a node can be read only when no VLAN number is negative. -/
lemma getAddress_found (hk : o.kind = kindOf m) {addresses : List Address}
    (h : Finds b d (getAddress ident o.parentType o.index) addresses) :
    ∀ n ∈ nodesOf m o, Node.Unsigned n := by
  intro n hn a ha v hv
  have hmem : a ∈ (nodesOf m o).flatMap Node.addresses := List.mem_flatMap.mpr ⟨n, hn, ha⟩
  obtain ⟨-, hall⟩ := (addresses_stored m o).found hd hk hb h fun _ row =>
    .bind (getString_reads row 0) fun _ => .bind (getEnum_reads _ row 1) fun _ =>
      .bind (getString_reads row 2) fun _ => .bind (getUint32_reads row 3) fun _ =>
      .bind (getString_reads row 4) fun _ => .bind (getString_reads row 5) fun _ => trivial
  obtain ⟨i, y, hfinds⟩ := hall a hmem
  have hfinds := (hfinds.after (getString_finds (x := a.ident) rfl)).after (getEnum_finds rfl)
  have hfinds := hfinds.after (getString_finds (x := a.vlanName) rfl)
  obtain ⟨number, hnumber, -⟩ := hfinds.of_bind getUint32_kept
  have hcell : (["ident", "category", "vlan_name", "vlan_num", "address", "netmask"].map
      (rowAt ident (.address o 0) (addressEntry o) i a).column).getD 3 .null = .number v.toInt := by
    rw [Option.mem_def] at hv
    change getOptionalInt32 a.vlanNum = _
    rw [hv]
    rfl
  obtain ⟨n, hn⟩ := getInteger_found hcell hnumber
  exact (fieldToUint32_ok hn).1

omit hd hb in
lemma node_group (m : Message) (o : Owner) : group m (.node o) = (nodesOf m o).head?.toList.map fun n =>
    (⟨.node o, texts [L.enumToString .nodeCategory n.category, n.ident, n.name] ++
      [.textOr (-1) n.location], [("ident", textCell n.ident),
      ("category", textCell (L.enumToString .nodeCategory n.category)),
      ("location", textCell n.location), ("name", textCell n.name)], .checked⟩ : Entry) := by
  rw [← eq_head_toList (nodesOf_length m o), List.map_eq_flatMap]
  rfl

lemma getNode_finds (hk : o.kind = kindOf m) (hvlan : ∀ n ∈ nodesOf m o, Node.Unsigned n) :
    Finds b d (getNode ident o.parentType o.index) ((nodesOf m o).head?.map nodeKept) := by
  refine single_finds (s := .node o) (node_group m o) hd hk hb fun n hn => ?_
  have haddresses : (nodesOf m o).flatMap Node.addresses = n.addresses := by
    rw [eq_head_toList (nodesOf_length m o), Option.mem_def.mp hn]
    exact List.flatMap_singleton _ _
  refine (getString_finds rfl).bind ((getEnum_finds rfl).bind ((getString_finds rfl).bind ?_))
  refine (getString_finds rfl).bind ((getAddress_finds hd hb hk hvlan).bind ?_)
  rw [haddresses]
  exact .done _

lemma getNode_found (hk : o.kind = kindOf m) {node : Option Node}
    (h : Finds b d (getNode ident o.parentType o.index) node) :
    ∀ n ∈ nodesOf m o, Node.Unsigned n := by
  intro n hn
  have hhead : n ∈ (nodesOf m o).head? := by
    rw [eq_head_toList (nodesOf_length m o)] at hn
    exact Option.mem_toList.mp hn
  obtain ⟨z, hz⟩ := single_found (s := .node o) (node_group m o) hd hk hb h (fun row =>
    .bind (getString_reads row 0) fun _ => .bind (getEnum_reads _ row 1) fun _ =>
      .bind (getString_reads row 2) fun _ => .bind (getString_reads row 3) fun _ =>
      .bind (hk ▸ getAddress_reads o o.index) fun _ => trivial) hhead
  have hz := (hz.after (getString_finds (x := n.ident) rfl)).after (getEnum_finds rfl)
  have hz := (hz.after (getString_finds (x := n.location) rfl)).after (getString_finds (x := n.name) rfl)
  obtain ⟨addresses, haddresses, -⟩ := hz.of_bind (run_reads (getAddress_reads o o.index))
  exact getAddress_found hd hb hk haddresses n hn

end Readers

end Preludedb.Classic
