import Preludedb.Foundations.Faults
import Preludedb.Classic.Traversal
import Preludedb.Classic.Sessions

/-! The rows and the fields that are used although none has been returned: no row of a message, no
last ident, no buffer of an overflow alert, and no name or version of the format. -/

namespace Preludedb.Classic

open Foundations Sql Idmef

section Detection

/-- What the detection of the format asks the database and the format plugin for. -/
inductive Probe
  | queryFormat
  | fetchRow
  | fetchField
  | setFormat (name : String)
  | checkSchemaVersion (version : String)

def Probe.Reply : Probe → Type
  | .queryFormat => Option Result
  | _ => Unit

abbrev Detection := Program Probe SqlError Probe.Reply

/-- The value of a field without a look at whether it is null. -/
def valueOf : Cell → Detection String
  | .null => .fail undefinedBehaviour
  | field => pure field.value

/-- The name of the format is taken for the format plugin, whose version is checked. -/
def detectRow (row : List Cell) : Detection String := do
  let _ ← Program.call .fetchField
  let name ← valueOf (row.getD 0 .null)
  let _ ← Program.call (.setFormat name)
  let _ ← Program.call .fetchField
  let version ← valueOf (row.getD 1 .null)
  let _ ← Program.call (.checkSchemaVersion version)
  pure version

def detectTable : Option Result → Detection String
  | none => .fail (bareError (-1))
  | some [] => do
    let _ ← Program.call .fetchRow
    .fail undefinedBehaviour
  | some (row :: _) => do
    let _ ← Program.call .fetchRow
    detectRow row

def queryFormat : Detection (Option Result) := Program.call Probe.queryFormat

/-- The version of the format that is found in the database. -/
def autodetectFormat : Detection String := do
  let table ← queryFormat
  detectTable table

end Detection

section Readers

variable [L : Libprelude]

/-- What is asked for of the row of an overflow alert, up to its buffer. -/
def upToBuffer (row : List Cell) : Action Unit := do
  let _ ← Program.call .fetchRow
  let _ ← getString row 0
  let _ ← getUint32 row 1
  let _ ← Program.call .fetchField
  pure ()

def selectOverflowAlert (ident : ℕ) : Action (Option Result) :=
  select .overflowAlert ["program", "size", "buffer"] (.message ident)

/-- What is asked for of the row of the last ident. -/
def upToIdent : Action Unit := do
  let _ ← Program.call .fetchRow
  let _ ← Program.call .fetchField
  pure ()

/-- What is asked for of the row of the format, up to its name and its version. -/
def upToName : Detection Unit := do
  let _ ← Program.call .fetchRow
  let _ ← Program.call .fetchField
  pure ()

def upToVersion (row : List Cell) : Detection Unit := do
  let _ ← upToName
  let name ← valueOf (row.getD 0 .null)
  let _ ← Program.call (.setFormat name)
  let _ ← Program.call .fetchField
  pure ()

omit L in
lemma objectRows_never {α : Type} {f : Int → List Cell → Action α}
    (h : ∀ index row, (f index row).Never undefinedBehaviour) (table : Option Result) :
    (objectRows f table).Never undefinedBehaviour := by
  have hend : ∀ next : Action (List α), next.Never undefinedBehaviour →
      (fetchOrEnd next).Never undefinedBehaviour := by
    intro next hnext
    refine (Program.Never.call Call.fetchRow).attempt.bind fun x => ?_
    cases x with
    | error e => trivial
    | ok u => exact hnext
  have hrest : ∀ (rows : Result) (index : Int), (restRows f index rows).Never undefinedBehaviour := by
    intro rows
    induction rows with
    | nil => exact fun _ => hend _ trivial
    | cons row rows ih => exact fun index => hend _ ((h index row).bind fun _ => (ih _).bind fun _ => trivial)
  rcases table with _ | _ | ⟨row, rows⟩
  · trivial
  · exact (Program.Never.call _).bind fun _ => trivial
  · exact (Program.Never.call _).bind fun _ => (h 0 row).bind fun _ => (hrest rows 1).bind fun _ => trivial

lemma never_compositional (hL : ∀ v, L.timeOfString v ≠ .error undefinedBehaviour) :
    Compositional fun _ p => p.Never undefinedBehaviour where
  done _ := trivial
  bind hp hf := hp.bind hf
  ask r _ := .call r
  convert x h := by
    refine .ofExcept fun hx => ?_
    rcases h _ hx with he | ⟨v, hv⟩
    · exact he rfl
    · exact hL v hv
  service columns w := (Program.Never.call _).attempt
  objects _ _ _ h columns w := (Program.Never.call _).bind fun _ => objectRows_never h _

variable {σ : Type} {handle : (r : Request) → σ → Except SqlError (r.Reply Result) × σ} {s : σ}
  (hL : ∀ v, L.timeOfString v ≠ .error undefinedBehaviour)
  (hh : ∀ r s, (handle r s).1 ≠ .error undefinedBehaviour)

omit L in
include hh in
/-- The row of a message is used when none has been fetched. -/
lemma messageRowOf_evades {α : Type} {t : Table} {columns : List String} {w : Where} {f : List Cell → Action α}
    (hf : ∀ row, (f row).Never undefinedBehaviour) :
    (select t columns w >>= messageRowOf f).Evades undefinedBehaviour handle s ↔
      ¬ Program.Unfetched handle (select t columns w) (.call .fetchRow) s := by
  have hrow : ∀ row rows s, (messageRowOf f (some (row :: rows))).Evades undefinedBehaviour handle s :=
    fun row rows s => ((Program.Never.call _).bind fun _ => hf row).evades hh s
  have hnone : ∀ s, (messageRowOf f none).Evades undefinedBehaviour handle s :=
    fun s => Program.Never.evades (p := .fail _) hh (by decide : preludedbError .invalidMessageIdent ≠ undefinedBehaviour) s
  have hempty : ∀ s, (messageRowOf f (some [])).Evades undefinedBehaviour handle s ↔
      ¬ (Program.call Call.fetchRow : Action Unit).Ends handle s :=
    fun s => Program.evades_behind hh (.call Call.fetchRow)
  rw [Program.evades_rows hh (.call _), and_iff_right fun _ => hnone _, and_iff_left fun row rows _ => hrow row rows _,
    hempty, Program.Unfetched, not_and]

omit L in
lemma rowGetField_never (row : List Cell) (index : ℕ) : (rowGetField row index).Never undefinedBehaviour := by
  refine (Program.Never.call _).bind fun _ => ?_
  cases row.getD index .null <;> trivial

omit L in
lemma getString_never (row : List Cell) (index : ℕ) : (getString row index).Never undefinedBehaviour :=
  (rowGetField_never row index).bind fun _ => trivial

include hL

lemma getUint32_never (row : List Cell) (index : ℕ) : (getUint32 row index).Never undefinedBehaviour :=
  (never_compositional hL).getUint32 row index

include hh

omit hL L in
lemma getAlertMessageid_evades (ident : ℕ) : (getAlertMessageid ident).Evades undefinedBehaviour handle s ↔
    ¬ Program.Unfetched handle (select .alert ["messageid"] (.message ident)) (.call .fetchRow) s :=
  messageRowOf_evades hh fun row => getString_never row 0

lemma classicGetHeartbeat_evades (ident : ℕ) :
    (classicGetHeartbeat ident).Evades undefinedBehaviour handle s ↔ ¬ Program.Unfetched handle
      (select .heartbeat ["messageid", "heartbeat_interval"] (.message ident)) (.call .fetchRow) s := by
  rw [classicGetHeartbeat_eq,
    Program.evades_bind_never hh fun row => heartbeatParts_holds (never_compositional hL) ident row]
  exact messageRowOf_evades hh fun row => (getString_never row 0).bind fun _ =>
    (getUint32_never hL row 1).bind fun _ => trivial

/-- The buffer is unescaped before it is known to be there. -/
lemma getOverflowAlert_evades (ident : ℕ) : (getOverflowAlert ident).Evades undefinedBehaviour handle s ↔
    ¬ Program.NullIn handle (selectOverflowAlert ident) upToBuffer (fun row => row.getD 2 .null = .null) s := by
  have hupTo : ∀ row, (upToBuffer row).Never undefinedBehaviour := fun row =>
    (Program.Never.call _).bind fun _ => (getString_never row 0).bind fun _ =>
      (getUint32_never hL row 1).bind fun _ => (Program.Never.call _).bind fun _ => trivial
  have hempty : (Program.call Call.fetchRow >>= fun _ => pure none : Action (Option OverflowAlert)).Never
      undefinedBehaviour := (Program.Never.call _).bind fun _ => trivial
  have hunescape : ∀ field, (unescapeBinary field).Never undefinedBehaviour := fun _ =>
    (Program.Never.call _).bind fun _ => trivial
  refine (Program.evades_rows hh (.call _)).trans ((and_iff_right fun _ => Program.evades_done _).trans
    ((and_iff_right fun _ => hempty.evades hh _).trans ?_))
  rw [Program.not_nullIn]
  refine forall_congr' fun row => forall_congr' fun rows => imp_congr_right fun _ => ?_
  refine Program.evades_guarded hh (hupTo row) (fun hnull => ?_) fun hother => ?_
  · simp only [firstRow, upToBuffer, rowGetField, bind_assoc, hnull]
    rfl
  · refine (Program.Never.call _).bind fun _ => Program.Never.bind ?_ fun _ => trivial
    refine (getString_never row 0).bind fun _ => (getUint32_never hL row 1).bind fun _ => ?_
    rw [rowGetField, bind_assoc]
    refine (Program.Never.call _).bind fun _ => ?_
    cases hfield : row.getD 2 .null with
    | null => exact absurd hfield hother
    | _ =>
      simp only [pure_bind]
      exact (hunescape _).bind fun _ => trivial

/-- The two places in the readers of an alert. -/
lemma classicGetAlert_evades (ident : ℕ) : (classicGetAlert ident).Evades undefinedBehaviour handle s ↔
    ¬ Program.Unfetched handle (select .alert ["messageid"] (.message ident)) (.call .fetchRow) s ∧
      ∀ build, ((getAlertMessageid ident >>= alertParts ident).run handle s).1 = .ok build →
        ¬ Program.NullIn handle (selectOverflowAlert ident) upToBuffer (fun row => row.getD 2 .null = .null)
          ((getAlertMessageid ident >>= alertParts ident).run handle s).2 := by
  have hP := never_compositional hL
  rw [classicGetAlert_eq, ← bind_assoc, Program.evades_bind,
    Program.evades_bind_never hh fun messageid => alertParts_holds hP ident messageid,
    getAlertMessageid_evades hh]
  refine and_congr_right fun _ => forall_congr' fun build => imp_congr_right fun _ => ?_
  have hbuild : ∀ overflow, (pure (build overflow) : Action Alert).Never undefinedBehaviour := fun _ => trivial
  rw [Program.evades_bind_never hh hbuild, getOverflowAlert_evades hL hh]

end Readers

section Idents

variable {σ : Type} {handle : (r : Request) → σ → Except SqlError (r.Reply Result) × σ} {s : σ}
  (hh : ∀ r s, (handle r s).1 ≠ .error undefinedBehaviour)

def selectMaxIdent (k : Kind) : Action (Option Result) := Program.call (Call.query (.data (.selectMaxIdent k)))

lemma identOf_ne {field : Cell} (h : field ≠ .null) : identOf field ≠ .error undefinedBehaviour := by
  cases field with
  | null => exact absurd rfl h
  | number n =>
    simp only [identOf, fieldToUint64]
    split <;> simp [preludedbError, undefinedBehaviour]
  | _ => simp [identOf, fieldToUint64, preludedbError, undefinedBehaviour]

include hh

/-- The last ident is taken from whatever the query has answered. -/
lemma getLastInsertIdent_evades (k : Kind) : (getLastInsertIdent k).Evades undefinedBehaviour handle s ↔
    ((selectMaxIdent k).run handle s).1 ≠ .ok none ∧
      ¬ Program.Unfetched handle (selectMaxIdent k) (.call .fetchRow) s ∧
      ¬ Program.NullIn handle (selectMaxIdent k) (fun _ => upToIdent) (fun row => row.headD .null = .null) s := by
  have hupTo : upToIdent.Never undefinedBehaviour :=
    (Program.Never.call _).bind fun _ => (Program.Never.call _).bind fun _ => trivial
  have hempty : ∀ s, (lastIdentOf (some [])).Evades undefinedBehaviour handle s ↔
      ¬ (Program.call Call.fetchRow : Action Unit).Ends handle s := fun s => Program.evades_behind hh (.call _)
  change (selectMaxIdent k >>= lastIdentOf).Evades undefinedBehaviour handle s ↔ _
  rw [Program.evades_rows hh (.call _), hempty, Program.not_nullIn]
  refine and_congr (imp_congr_right fun _ => iff_of_false Program.evades_fail id) (and_congr ?_ ?_)
  · rw [Program.Unfetched, not_and]
  · refine forall_congr' fun row => forall_congr' fun rows => imp_congr_right fun _ => ?_
    refine Program.evades_guarded hh hupTo (fun hnull => ?_) fun hother => ?_
    · simp only [lastIdentOf, upToIdent, bind_assoc, hnull]
      rfl
    · exact (Program.Never.call _).bind fun _ => (Program.Never.call _).bind fun _ => .ofExcept (identOf_ne hother)

end Idents

section Detection

variable {τ : Type} {detect : (r : Probe) → τ → Except SqlError r.Reply × τ} {t : τ}

lemma valueOf_never {field : Cell} (h : field ≠ .null) : (valueOf field).Never undefinedBehaviour := by
  cases field with
  | null => exact absurd rfl h
  | _ => trivial

lemma upToName_never : upToName.Never undefinedBehaviour :=
  (Program.Never.call _).bind fun _ => (Program.Never.call _).bind fun _ => trivial

/-- The name is used before the version is asked for. -/
lemma autodetectFormat_evades (hd : ∀ r t, (detect r t).1 ≠ .error undefinedBehaviour) :
    autodetectFormat.Evades undefinedBehaviour detect t ↔
      ¬ Program.Unfetched detect queryFormat (.call .fetchRow) t ∧
      ¬ Program.NullIn detect queryFormat (fun _ => upToName) (fun row => row.getD 0 .null = .null) t ∧
      ¬ Program.NullIn detect queryFormat upToVersion
        (fun row => row.getD 0 .null ≠ .null ∧ row.getD 1 .null = .null) t := by
  have hnone : (detectTable none).Never undefinedBehaviour :=
    show bareError (-1) ≠ undefinedBehaviour by decide
  have hempty : ∀ t, (detectTable (some [])).Evades undefinedBehaviour detect t ↔
      ¬ (Program.call Probe.fetchRow : Detection Unit).Ends detect t := fun t => Program.evades_behind hd (.call _)
  rw [autodetectFormat, Program.evades_rows hd (.call _), hempty, Program.not_nullIn, Program.not_nullIn,
    and_iff_right fun _ => hnone.evades hd _, Program.Unfetched, not_and]
  refine and_congr_right fun _ => ?_
  rw [← forall_and]
  refine forall_congr' fun row => ?_
  rw [← forall_and]
  refine forall_congr' fun rows => ?_
  rw [← imp_and]
  refine imp_congr_right fun _ => ?_
  by_cases hname : row.getD 0 .null = .null
  · rw [and_iff_left fun h => h.1.1 hname, Program.evades_guarded hd upToName_never (fun _ => ?_) fun h => absurd hname h]
    simp only [detectTable, detectRow, upToName, bind_assoc, hname]
    rfl
  · rw [and_iff_right fun h => hname h.1]
    have hupTo : (upToVersion row).Never undefinedBehaviour :=
      upToName_never.bind fun _ => (valueOf_never hname).bind fun _ => (Program.Never.call _).bind fun _ =>
        (Program.Never.call _).bind fun _ => trivial
    refine Program.evades_guarded hd hupTo (fun hnull => ?_) fun hother => ?_
    · simp only [detectTable, detectRow, upToVersion, upToName, bind_assoc, hnull.2]
      rfl
    · have hversion : row.getD 1 .null ≠ .null := fun h => hother ⟨hname, h⟩
      exact (Program.Never.call _).bind fun _ => (Program.Never.call _).bind fun _ =>
        (valueOf_never hname).bind fun _ => (Program.Never.call _).bind fun _ => (Program.Never.call _).bind fun _ =>
        (valueOf_never hversion).bind fun _ => (Program.Never.call _).bind fun _ => trivial

end Detection

/-- The readers of a message, the last ident and the detection of the format use a row and a field
that have been returned, but for the results that have none. -/
theorem rows_and_fields_returned_iff [L : Libprelude] (hL : ∀ v, L.timeOfString v ≠ .error undefinedBehaviour)
    {σ τ : Type} (handle : (r : Request) → σ → Except SqlError (r.Reply Result) × σ)
    (hh : ∀ r s, (handle r s).1 ≠ .error undefinedBehaviour)
    (detect : (r : Probe) → τ → Except SqlError r.Reply × τ)
    (hd : ∀ r t, (detect r t).1 ≠ .error undefinedBehaviour) (ident : ℕ) (k : Kind) (s : σ) (t : τ) :
    ((classicGetAlert ident).Evades undefinedBehaviour handle s ↔
      ¬ Program.Unfetched handle (select .alert ["messageid"] (.message ident)) (.call .fetchRow) s ∧
      ∀ build, ((getAlertMessageid ident >>= alertParts ident).run handle s).1 = .ok build →
        ¬ Program.NullIn handle (selectOverflowAlert ident) upToBuffer (fun row => row.getD 2 .null = .null)
          ((getAlertMessageid ident >>= alertParts ident).run handle s).2) ∧
    ((classicGetHeartbeat ident).Evades undefinedBehaviour handle s ↔ ¬ Program.Unfetched handle
      (select .heartbeat ["messageid", "heartbeat_interval"] (.message ident)) (.call .fetchRow) s) ∧
    ((getLastInsertIdent k).Evades undefinedBehaviour handle s ↔
      ((selectMaxIdent k).run handle s).1 ≠ .ok none ∧
      ¬ Program.Unfetched handle (selectMaxIdent k) (.call .fetchRow) s ∧
      ¬ Program.NullIn handle (selectMaxIdent k) (fun _ => upToIdent) (fun row => row.headD .null = .null) s) ∧
    (autodetectFormat.Evades undefinedBehaviour detect t ↔
      ¬ Program.Unfetched detect queryFormat (.call .fetchRow) t ∧
      ¬ Program.NullIn detect queryFormat (fun _ => upToName) (fun row => row.getD 0 .null = .null) t ∧
      ¬ Program.NullIn detect queryFormat upToVersion
        (fun row => row.getD 0 .null ≠ .null ∧ row.getD 1 .null = .null) t) :=
  ⟨classicGetAlert_evades hL hh ident, classicGetHeartbeat_evades hL hh ident, getLastInsertIdent_evades hh k,
    autodetectFormat_evades hd⟩

/-- Every query is answered with the same result, and the rest of a database is closed. -/
def answering (table : Option Result) : (r : Request) → Unit → Except SqlError (r.Reply Result) × Unit
  | .query _, s => (.ok table, s)
  | .fetchRow, s | .fetchField, s => (.ok (), s)
  | _, s => (.error (preludedbError .connection), s)

def probed (table : Option Result) : (r : Probe) → Unit → Except SqlError r.Reply × Unit
  | .queryFormat, t => (.ok table, t)
  | .fetchRow, t | .fetchField, t | .setFormat _, t | .checkSchemaVersion _, t => (.ok (), t)

lemma answering_ne (table : Option Result) (r : Request) (s : Unit) :
    (answering table r s).1 ≠ .error undefinedBehaviour := by
  cases r <;> simp [answering, preludedbError, undefinedBehaviour]

lemma probed_ne (table : Option Result) (r : Probe) (t : Unit) :
    (probed table r t).1 ≠ .error undefinedBehaviour := by
  cases r <;> simp [probed]

lemma bareLibrary_timeOfString_ne (v : List UInt8) : bareLibrary.timeOfString v ≠ .error undefinedBehaviour :=
  fun h => absurd (Except.error.inj h) (by decide)

theorem rows_and_fields_returned_empty :
    (classicGetAlert (L := bareLibrary) 1).Evades undefinedBehaviour (answering (some [])) () ↔
      ¬ Program.Unfetched (answering (some [])) (select .alert ["messageid"] (.message 1)) (.call .fetchRow) () ∧
      ∀ build, ((getAlertMessageid 1 >>= alertParts (L := bareLibrary) 1).run (answering (some [])) ()).1 = .ok build →
        ¬ Program.NullIn (answering (some [])) (selectOverflowAlert 1) upToBuffer (fun row => row.getD 2 .null = .null)
          ((getAlertMessageid 1 >>= alertParts (L := bareLibrary) 1).run (answering (some [])) ()).2 :=
  (rows_and_fields_returned_iff (L := bareLibrary) bareLibrary_timeOfString_ne
    (answering (some [])) (answering_ne _) (probed (some [])) (probed_ne _) 1 .alert () ()).1

/-- The result that `sqlite3` returns for an ident without an alert. -/
theorem classicGetAlert_unfetched : ¬ (classicGetAlert (L := bareLibrary) 1).Evades undefinedBehaviour
    (handle .sqlite3 fun _ _ => .ok) newWorld :=
  fun h => h (by decide +kernel)

end Preludedb.Classic
