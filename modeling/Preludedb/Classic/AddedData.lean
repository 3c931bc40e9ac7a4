import Preludedb.Classic.Reading
import Preludedb.Classic.Scanning
import Preludedb.Sql.Binary

/-! The additional data of a message as it is read back. What is written follows the kind of the data,
what is read the declared type; a column that comes back without a value ends the list. -/

namespace Preludedb.Classic

open Foundations Sql Idmef

/-- The data is of the kind that is stored under the type. -/
def Matches : AdditionalDataType → Data → Prop
  | .character, .char _ => True
  | .byte, .byte _ | .boolean, .byte _ => True
  | .integer, .int _ | .ntpstamp, .int _ => True
  | .byteString, .byteString _ => True
  | .string, .charString _ | .xml, .charString _ | .portlist, .charString _ => True
  | .dateTime, .time _ => True
  | _, _ => False

/-- A payload without bytes. -/
def EmptyData (data : Data) : Prop := data = .charString [] ∨ data = .byteString []

/-- The conversions of the message library: decimal numbers, times that are read from their texts,
and types that are found under their names. -/
structure Conversions (L : Libprelude) : Prop where
  byte (n : UInt8) : L.dataToString (some (.byte n)) = .ok (toString (n.toNat : Int))
  int (n : Int64) : L.dataToString (some (.int n)) = .ok (toString n.toInt)
  time (t : Time) : ∃ s, L.dataToString (some (.time t)) = .ok s ∧ s ≠ "" ∧
    L.timeOfString s.toUTF8.toList = .ok t
  type (v : EnumValue) (kind : AdditionalDataType) : L.additionalDataType v = some kind →
    kind ≠ .error → ∃ s, L.enumToString .additionalDataType v = some s ∧ s ≠ "" ∧
      L.enumToNumeric .additionalDataType s = v

section

variable [L : Libprelude]

def Matching (x : AdditionalData) : Prop :=
  ∃ kind, L.additionalDataType x.type = some kind ∧ Matches kind x.data

/-- What is found of a list of additional data: a null meaning is none, and the first object whose
data is null is the last. -/
def dataFound (b : Backend) : List AdditionalData → List AdditionalData
  | [] => []
  | x :: xs =>
    let meaning := if b.field (textCell x.meaning) = .null then none else x.meaning
    if b.field (dataCell (some x.data)) = .null then [⟨meaning, x.type, .unknown⟩]
    else ⟨meaning, x.type, x.data⟩ :: dataFound b xs

variable {b : Backend} {d : Database}

omit L in
lemma blob_field {bytes : List UInt8} :
    b.field (.blob bytes) = if b = .sqlite3 ∧ bytes = [] then .null else .blob bytes := by
  cases b <;> cases bytes <;> rfl

omit L in
lemma text_field {s : String} :
    b.field (.text s) = if b = .sqlite3 ∧ s = "" then .null else .text s := by
  by_cases hs : s = ""
  · subst hs
    cases b <;> rfl
  · have hne : ¬ (b = .sqlite3 ∧ s = "") := fun h => hs h.2
    rw [if_neg hne, Backend.field_eq (by simpa [Cell.Empty] using hs)]

omit L in
lemma decimal_bytes_ne (n : Int) : (toString n).toUTF8.toList ≠ [] := fun h => by
  have hscan := scanNumber_text n
  rw [h] at hscan
  cases hscan

omit L in
lemma utf8_ne_nil {s : String} (h : s ≠ "") : s.toUTF8.toList ≠ [] := by
  intro hnil
  rw [text_bytes, List.flatMap_eq_nil_iff] at hnil
  obtain ⟨c, hc⟩ := List.exists_mem_of_ne_nil s.toList (by simpa using h)
  exact String.utf8EncodeChar_ne_nil (hnil c hc)

/-- The payload of a matching object is read back under its type. -/
lemma payload_read (hL : Conversions L) {x : AdditionalData} {kind : AdditionalDataType}
    (hx : Matches kind x.data) : ∃ bytes, dataCell (some x.data) = .blob bytes ∧
      additionalDataOf bytes (some kind) = .ok x.data ∧ (bytes = [] ↔ EmptyData x.data) := by
  obtain ⟨meaning, type, data⟩ := x
  cases data with
  | char c =>
    cases kind <;> first | exact False.elim hx | exact ⟨[c], rfl, rfl, by simp [EmptyData]⟩
  | charString bytes =>
    cases kind <;> first | exact False.elim hx | exact ⟨bytes, rfl, rfl, by simp [EmptyData]⟩
  | byteString bytes =>
    cases kind <;> first | exact False.elim hx | exact ⟨bytes, rfl, rfl, by simp [EmptyData]⟩
  | byte n =>
    have hcell : dataCell (some (.byte n)) = .blob (toString (n.toNat : Int)).toUTF8.toList := by
      simp only [dataCell, hL.byte]
    have hbyte : UInt8.ofInt (n.toNat : Int) = n := by
      have hlt := n.toNat_lt
      rw [UInt8.ofInt, Int.emod_eq_of_lt (by omega) (by omega), Int.toNat_natCast, UInt8.ofNat_toNat]
    have hread : (scanNumber (toString (n.toNat : Int)).toUTF8.toList).map
        (fun y => (y.map fun n => Data.byte (UInt8.ofInt n)).getD .unknown) = .ok (.byte n) := by
      rw [scanNumber_text, Except.map, Option.map_some, hbyte]
      rfl
    cases kind <;> first
      | exact False.elim hx
      | exact ⟨_, hcell, hread, iff_of_false (decimal_bytes_ne _) (by simp [EmptyData])⟩
  | int n =>
    have hcell : dataCell (some (.int n)) = .blob (toString n.toInt).toUTF8.toList := by
      simp only [dataCell, hL.int]
    have hread : (scanNumber (toString n.toInt).toUTF8.toList).map
        (fun y => (y.map fun n => Data.int (Int64.ofInt n)).getD .unknown) = .ok (.int n) := by
      rw [scanNumber_text, Except.map, Option.map_some, Int64.ofInt_toInt]
      rfl
    cases kind <;> first
      | exact False.elim hx
      | exact ⟨_, hcell, hread, iff_of_false (decimal_bytes_ne _) (by simp [EmptyData])⟩
  | time t =>
    obtain ⟨s, hs, hne, ht⟩ := hL.time t
    have hcell : dataCell (some (.time t)) = .blob s.toUTF8.toList := by
      simp only [dataCell, hs]
    have hread : (L.timeOfString s.toUTF8.toList).map Data.time = .ok (.time t) := by
      rw [ht]
      rfl
    cases kind <;> first
      | exact False.elim hx
      | exact ⟨_, hcell, hread, iff_of_false (utf8_ne_nil hne) (by simp [EmptyData])⟩
  | unknown | uint32 n | float bits => cases kind <;> cases hx

/-- The columns of an object as the back end returns them. -/
def dataRow (b : Backend) (x : AdditionalData) : List Cell :=
  [b.field (textCell (L.enumToString .additionalDataType x.type)), b.field (textCell x.meaning),
    b.field (dataCell (some x.data))]

omit L in
lemma meaning_found (x : Option String) : (if b.field (textCell x) = .null then none else some
    (b.field (textCell x))).map Cell.value = if b.field (textCell x) = .null then none else x := by
  cases x with
  | none => cases b <;> rfl
  | some s =>
    rw [textCell, text_field]
    by_cases hs : b = .sqlite3 ∧ s = ""
    · rw [if_pos hs, if_pos rfl, if_pos rfl]
      rfl
    · rw [if_neg hs, if_neg (by simp), if_neg (by simp)]
      rfl

omit L in
lemma meaning_kept (x : Option String) : (if b.field (textCell x) = .null then none else x) = x ↔
    (b = .sqlite3 → x ≠ some "") := by
  cases x with
  | none => exact iff_of_true (ite_self none) fun _ => by simp
  | some s =>
    rw [textCell, text_field]
    by_cases hs : b = .sqlite3 ∧ s = ""
    · rw [if_pos hs, if_pos rfl]
      exact iff_of_false (by simp) fun h => h hs.1 (congrArg some hs.2)
    · rw [if_neg hs, if_neg (by simp)]
      exact iff_of_true rfl fun hb he => hs ⟨hb, Option.some.inj he⟩

lemma additionalDataRows_finds (hL : Conversions L) {xs : List AdditionalData}
    (h : ∀ x ∈ xs, Matching x) :
    Finds b d (additionalDataRows (xs.map (dataRow b))) (dataFound b xs) := by
  induction xs with
  | nil => exact fetchRow_finds.bind (.done _)
  | cons x xs ih =>
    obtain ⟨kind, hkind, hx⟩ := h x List.mem_cons_self
    have hne : kind ≠ .error := by
      rintro rfl
      exact hx
    obtain ⟨name, hname, hnonempty, hnumeric⟩ := hL.type x.type kind hkind hne
    obtain ⟨bytes, hcell, hread, -⟩ := payload_read hL hx
    have htype : Finds b d (getEnum .additionalDataType (dataRow b x) 0) (some x.type) := by
      have hfield : b.field (textCell (L.enumToString .additionalDataType x.type)) = .text name := by
        rw [hname, textCell, text_field, if_neg fun h => hnonempty h.2]
      rw [← hnumeric]
      exact getEnum_finds (x := some name) hfield
    have hmeaning : Finds b d (getString (dataRow b x) 1)
        (if b.field (textCell x.meaning) = .null then none else x.meaning) := by
      rw [← meaning_found]
      exact rowGetField_finds.bind (.done _)
    have hfield : Finds b d (rowGetField (dataRow b x) 2) _ := rowGetField_finds
    have hget : (dataRow b x).getD 2 .null = b.field (.blob bytes) := congrArg b.field hcell
    rw [hget, blob_field] at hfield
    rw [List.map_cons, dataFound, hcell, blob_field]
    by_cases hnull : b = .sqlite3 ∧ bytes = []
    · rw [if_pos hnull, if_pos rfl] at hfield
      rw [if_pos hnull, if_pos rfl]
      exact fetchRow_finds.bind (htype.bind (hmeaning.bind (hfield.bind (.done _))))
    · rw [if_neg hnull, if_neg (by simp)] at hfield
      rw [if_neg hnull, if_neg (by simp)]
      refine fetchRow_finds.bind (htype.bind (hmeaning.bind (hfield.bind ?_)))
      have hunescape : Finds b d (unescapeBinary (.blob bytes)) bytes :=
        Finds.bind (Program.Observes.call rfl) (.done _)
      have hdata := (congrArg (additionalDataOf bytes) hkind).trans hread
      refine hunescape.bind (Finds.bind (Program.Observes.ofExcept hdata) ?_)
      exact (ih fun y hy => h y (List.mem_cons_of_mem _ hy)).bind (.done _)

/-- What is found is the list if no column of it is lost. -/
lemma dataFound_iff (hL : Conversions L) {xs : List AdditionalData} (h : ∀ x ∈ xs, Matching x) :
    dataFound b xs = xs ↔ (b = .sqlite3 → ∀ x ∈ xs, ¬ EmptyData x.data ∧ x.meaning ≠ some "") := by
  induction xs with
  | nil => exact iff_of_true rfl fun _ _ hx => by cases hx
  | cons x xs ih =>
    obtain ⟨kind, hkind, hx⟩ := h x List.mem_cons_self
    obtain ⟨bytes, hcell, -, hempty⟩ := payload_read hL hx
    have hrest := ih fun y hy => h y (List.mem_cons_of_mem _ hy)
    rw [dataFound, hcell, blob_field]
    by_cases hnull : b = .sqlite3 ∧ bytes = []
    · rw [if_pos hnull, if_pos rfl]
      refine iff_of_false (fun he => ?_) fun hall => ?_
      · have hdata : Data.unknown = x.data := congrArg AdditionalData.data (List.cons.inj he).1
        rw [← hdata] at hx
        cases kind <;> exact hx
      · exact (hall hnull.1 x List.mem_cons_self).1 (hempty.mp hnull.2)
    · rw [if_neg hnull, if_neg nofun, List.cons.injEq, hrest]
      have hhead : (⟨if b.field (textCell x.meaning) = .null then none else x.meaning, x.type, x.data⟩ :
          AdditionalData) = x ↔ (b = .sqlite3 → x.meaning ≠ some "") := by
        rw [← meaning_kept]
        exact ⟨fun he => congrArg AdditionalData.meaning he, fun he => by rw [he]⟩
      rw [hhead, ← imp_and]
      refine forall_congr' fun hb => ?_
      have hdata : ¬ EmptyData x.data := fun he => hnull ⟨hb, hempty.mpr he⟩
      rw [List.forall_mem_cons, and_iff_right hdata]

lemma addedData_stored (m : Message) (k : Kind) :
    StoredAs m (.additionalData k 0) (addedDataOf m k) (additionalDataEntry k) where
  indexed := ⟨fun _ _ => rfl, fun _ _ _ => rfl⟩
  arity := nofun
  group := .inr rfl

lemma getAdditionalData_finds {m : Message} {ident : ℕ} {k : Kind} (hL : Conversions L)
    (hd : Holds m ident d) (hk : k = kindOf m) (h : ∀ x ∈ addedDataOf m k, Matching x) :
    Finds b d (getAdditionalData ident k.parentType) (dataFound b (addedDataOf m k)) := by
  have hrows : ((numbered 0 (addedDataOf m k)).map fun x => project b ["type", "meaning", "data"]
      (rowAt ident (.additionalData k 0) (additionalDataEntry k) x.1 x.2)) =
        (addedDataOf m k).map (dataRow b) := by
    conv_rhs => rw [← numbered_map_snd 0 (addedDataOf m k), List.map_map]
    rfl
  have hselect := (addedData_stored m k).select (b := b) hd hk ["type", "meaning", "data"]
  rw [hrows] at hselect
  refine Finds.bind hselect ?_
  rw [Backend.result]
  by_cases hnone : ((addedDataOf m k).map (dataRow b)).isEmpty ∧ b ≠ .sqlite3
  · have hnil : addedDataOf m k = [] := by simpa using hnone.1
    rw [if_pos hnone, hnil]
    exact .done _
  · rw [if_neg hnone]
    exact additionalDataRows_finds hL h

variable {p : Pattern} {m : Message} {w : World}

/-- Each plugin unescapes what it has escaped, and the additional data of a message is read back as it
was stored if and only if the plugin is not the one of SQLite or no payload and no meaning is empty. -/
theorem getAdditionalData_iff (client : Sql.Client) (hclient : client.Lawful) (hL : Conversions L)
    (h : Stored b p m w d) (hm : ∀ x ∈ addedDataOf m (kindOf m), Matching x) :
    (∀ input, (serverValue client b (pluginEscapeBinary client b input)).map
      (fun value => pluginUnescapeBinary client b (serverColumn client b value)) = some input) ∧
    (readBack b p m w (getAdditionalData (d.counter (kindOf m)) (kindOf m).parentType) =
        .ok (addedDataOf m (kindOf m)) ↔
      (b = .sqlite3 → ∀ x ∈ addedDataOf m (kindOf m), ¬ EmptyData x.data ∧ x.meaning ≠ some "")) := by
  obtain ⟨d', hd, hw⟩ := h.holds
  refine ⟨pluginUnescapeBinary_escape hclient b, ?_⟩
  rw [readBack_iff h.faultless hw (getAdditionalData_reads (kindOf m)), ← dataFound_iff hL hm]
  have hfinds := getAdditionalData_finds (b := b) hL hd rfl hm
  constructor
  · intro hread
    exact hfinds.unique hread
  · intro hkept
    rwa [hkept] at hfinds

end

/-- The types of additional data with their numbers and names. -/
def typeNames : List (EnumValue × AdditionalDataType × String) :=
  [(0, .string, "string"), (1, .byte, "byte"), (2, .character, "character"),
    (3, .dateTime, "date-time"), (4, .integer, "integer"), (5, .ntpstamp, "ntpstamp"),
    (6, .portlist, "portlist"), (7, .real, "real"), (8, .boolean, "boolean"),
    (9, .byteString, "byte-string"), (10, .xml, "xml")]

/-- A time as one number, for a text that can be read back. -/
def timeNumber (t : Time) : ℕ :=
  (t.sec.toNat * 2 ^ 32 + t.usec.toNat) * 2 ^ 32 + t.gmtOffset.toUInt32.toNat

def numberTime (n : ℕ) : Time :=
  ⟨UInt32.ofNat (n / 2 ^ 64), UInt32.ofNat (n / 2 ^ 32 % 2 ^ 32), (UInt32.ofNat (n % 2 ^ 32)).toInt32⟩

@[reducible] def dataLibrary : Libprelude :=
  { bareLibrary with
    enumToString := fun e v => match e with
      | .additionalDataType => (typeNames.find? fun r => r.1 = v).map fun r => r.2.2
      | _ => none
    enumToNumeric := fun _ s => ((typeNames.find? fun r => r.2.2 = s).map fun r => r.1).getD (-1)
    additionalDataType := fun v => (typeNames.find? fun r => r.1 = v).map fun r => r.2.1
    dataToString := fun data => match data with
      | some (.byte n) => .ok (toString (n.toNat : Int))
      | some (.int n) => .ok (toString n.toInt)
      | some (.time t) => .ok (toString (timeNumber t : Int))
      | _ => .error (preludedbError .generic)
    timeOfString := fun bytes => (scanNumber bytes).map fun n => numberTime (n.getD 0).toNat }

lemma numberTime_number (t : Time) : numberTime (timeNumber t) = t := by
  obtain ⟨sec, usec, offset⟩ := t
  have hsec := sec.toNat_lt
  have husec := usec.toNat_lt
  have hoffset := offset.toUInt32.toNat_lt
  have h64 : timeNumber ⟨sec, usec, offset⟩ / 2 ^ 64 = sec.toNat := by
    simp only [timeNumber]
    omega
  have h32 : timeNumber ⟨sec, usec, offset⟩ / 2 ^ 32 % 2 ^ 32 = usec.toNat := by
    simp only [timeNumber]
    omega
  have h0 : timeNumber ⟨sec, usec, offset⟩ % 2 ^ 32 = offset.toUInt32.toNat := by
    simp only [timeNumber]
    omega
  rw [numberTime, h64, h32, h0, UInt32.ofNat_toNat, UInt32.ofNat_toNat, UInt32.ofNat_toNat]
  rfl

lemma dataLibrary_conversions : Conversions dataLibrary where
  byte _ := rfl
  int _ := rfl
  time t := by
    refine ⟨_, rfl, fun hempty => decimal_bytes_ne (timeNumber t) ?_, ?_⟩
    · rw [hempty, text_bytes]
      rfl
    · have hread : (scanNumber (toString (timeNumber t : Int)).toUTF8.toList).map
          (fun n => numberTime (n.getD 0).toNat) = .ok t := by
        rw [scanNumber_text, Except.map, Option.getD_some, Int.toNat_natCast, numberTime_number]
      exact hread
  type v kind h _ := by
    obtain ⟨r, hr, -⟩ := Option.map_eq_some_iff.mp h
    have hv : r.1 = v := of_decide_eq_true (List.find?_some (p := fun (r : EnumValue × AdditionalDataType × String) => decide (r.1 = v)) hr)
    have hmem := List.mem_of_find?_eq_some hr
    have hnames : ∀ r ∈ typeNames, r.2.2 ≠ "" ∧
        ((typeNames.find? fun r' => r'.2.2 = r.2.2).map fun r => r.1).getD (-1) = r.1 := by decide
    obtain ⟨hne, hnumeric⟩ := hnames r hmem
    exact ⟨r.2.2, congrArg (Option.map fun r => r.2.2) hr, hne, hnumeric.trans hv⟩

/-- An alert with an empty text and a number. -/
def describedAlert : Alert :=
  { classifiedAlert with
    additionalData := [⟨some "comment", 0, .charString []⟩, ⟨some "uid", 4, .int 0⟩] }

lemma describedAlert_matching :
    ∀ x ∈ addedDataOf (.alert describedAlert) .alert, Matching (L := dataLibrary) x := fun x hx => by
  rcases List.mem_cons.mp hx with rfl | hx
  · exact ⟨.string, rfl, trivial⟩
  · obtain rfl := List.mem_singleton.mp hx
    exact ⟨.integer, rfl, trivial⟩

theorem getAdditionalData_described :
    readBack (L := dataLibrary) .mysql (fun _ _ => .ok) (.alert describedAlert) newWorld
      (getAdditionalData (L := dataLibrary) 1 'A') =
        .ok [⟨some "comment", 0, .charString []⟩, ⟨some "uid", 4, .int 0⟩] := by
  have hstored : Stored (L := dataLibrary) .mysql (fun _ _ => .ok) (.alert describedAlert) newWorld
      Database.empty := .first (L := dataLibrary) (by decide +kernel)
  exact (getAdditionalData_iff (L := dataLibrary) plainClient plainClient_lawful
    dataLibrary_conversions hstored describedAlert_matching).2.mpr nofun

/-- With SQLite, the empty text ends the list, and the number behind it is lost. -/
theorem getAdditionalData_empty_text :
    readBack (L := dataLibrary) .sqlite3 (fun _ _ => .ok) (.alert describedAlert) newWorld
      (getAdditionalData (L := dataLibrary) 1 'A') ≠
        .ok [⟨some "comment", 0, .charString []⟩, ⟨some "uid", 4, .int 0⟩] := by
  intro h
  have hstored : Stored (L := dataLibrary) .sqlite3 (fun _ _ => .ok) (.alert describedAlert) newWorld
      Database.empty := .first (L := dataLibrary) (by decide +kernel)
  obtain ⟨d, hd, hw⟩ := Stored.holds (L := dataLibrary) hstored
  have hread := (readBack_iff (L := dataLibrary) (Stored.faultless (L := dataLibrary) hstored) hw
    (getAdditionalData_reads (L := dataLibrary) .alert)).mp h
  have hfound := getAdditionalData_finds (L := dataLibrary) (b := .sqlite3) dataLibrary_conversions hd rfl
    describedAlert_matching
  cases hread.unique hfound

end Preludedb.Classic
