import Preludedb.Classic.ColumnCounts
import Preludedb.Classic.Get
import Preludedb.Classic.Queries
import Preludedb.Sql.Numerals

/-! The values of a result row as the callback of the caller gets them: a time takes the columns
that are counted for its path. -/

namespace Preludedb.Classic.Values

open Sql Idmef

section Rows

/-- The bytes of a field that is not null. -/
abbrev SqlField := List UInt8

/-- `fields` are those that have been fetched, `fetch` is the function of the plugin. -/
structure SqlRow where
  columnCount : ℕ
  fields : ℕ → Option (Option SqlField)
  fetch : ℕ → Except SqlError (Option SqlField)

def SqlRow.getField (row : SqlRow) (columnNum : ℕ) : Except SqlError (Option SqlField) :=
  if row.columnCount ≤ columnNum then .error (preludedbErrorVerbose .index
    s!"Attempt to access invalid column `{columnNum}` (max is `{row.columnCount}`)")
  else match row.fields columnNum with
    | some field => .ok field
    | none => row.fetch columnNum

/-- A column that is there when so many are counted, and null otherwise. -/
def SqlRow.getCounted (row : SqlRow) (counted : Prop) [Decidable counted] (columnNum : ℕ) :
    Except SqlError (Option SqlField) := if counted then row.getField columnNum else .ok none

end Rows

variable [L : Libprelude]

section Code

/-- The pointer to a time that was never made is not set. -/
inductive TimePointer
  | made (t : Time)
  | unset
  deriving DecidableEq, Repr

def fieldGmtoff (long : LongSize) : Option SqlField → Except SqlError Int32
  | none => .ok 0
  | some field => (sqlFieldTo long .int32 (cString field)).map Int32.ofInt

/-- What a failed conversion returns is that of the fetch, a success. -/
def fieldUsec (long : LongSize) : Option SqlField → Option UInt32
  | none => some 0
  | some field => (sqlFieldTo long .uint32 (cString field)).toOption.map fun n => UInt32.ofNat n.toNat

/-- A new time keeps its value when the text of the field is not understood. -/
def getValueTime (long : LongSize) (selected : SelectedPath) (row : SqlRow) (field : SqlField) (cnt : ℕ) :
    Except SqlError (ℕ × TimePointer) :=
  let numField := classicGetPathColumnCount selected
  (row.getCounted (1 < numField) (cnt + 1)).bind fun gmtoff =>
    (fieldGmtoff long gmtoff).bind fun gmtoff =>
      (row.getCounted (2 < numField) (cnt + 2)).map fun usec =>
        match fieldUsec long usec with
        | none => (1, .unset)
        | some usec => (1 + (if 1 < numField then 1 else 0) + (if 2 < numField then 1 else 0),
            .made ((timeFromTimestamp (String.ofList (cString field)) gmtoff usec).toOption.getD ⟨0, 0, 0⟩))

inductive HandedType
  | string
  | float
  | int64
  | data
  | time
  | other
  deriving DecidableEq, Repr

inductive Handed
  | null
  | value (value : List UInt8) (type : HandedType)
  | time (time : TimePointer)
  deriving DecidableEq, Repr

def dataType : Option AdditionalDataType → Except SqlError HandedType
  | some .string | some .character | some .portlist | some .xml => .ok .string
  | some .real => .ok .float
  | some .integer | some .boolean | some .ntpstamp => .ok .int64
  | some .byte | some .byteString | none => .ok .data
  | some .dateTime => .ok .time
  | some .error => .error (bareError (-1))

/-- `none` leaves the field as it is. -/
def getData (unescape : SqlField → Except SqlError (List UInt8)) (row : SqlRow) (field : SqlField) (cnt : ℕ)
    (selected : SelectedPath) : Except SqlError (Option (HandedType × List UInt8)) :=
  if classicGetPathColumnCount selected ≠ 2 then .ok none
  else (row.getField (cnt + 1)).bind fun
    | none => .ok none
    | some typefield =>
      let dtype := L.enumToNumeric .additionalDataType (String.ofList (cString typefield))
      if dtype < 0 then .error (preludedbError (.foreign dtype))
      else (dataType (L.additionalDataType dtype)).bind fun type => (unescape field).map fun unescaped =>
        some (type, unescaped)

/-- What a call returns, and what it has handed to the callback. -/
structure Got where
  ret : Except SqlError ℕ
  handed : Option Handed

def Got.failed (e : SqlError) : Got := ⟨.error e, none⟩

def Got.of (cb : Handed → Except SqlError ℕ) (retrieved : ℕ) (h : Handed) : Got :=
  ⟨(cb h).map fun _ => retrieved, some h⟩

def getValue (long : LongSize) (unescape : SqlField → Except SqlError (List UInt8)) (row : SqlRow) (cnt : ℕ)
    (selected : SelectedPath) (cb : Handed → Except SqlError ℕ) : Got :=
  match row.getField cnt with
  | .error e => .failed e
  | .ok none => ⟨cb .null, some .null⟩
  | .ok (some field) =>
    match selected.object.getValueType with
    | some .time =>
      match getValueTime long selected row field cnt with
      | .error e => .failed e
      | .ok (ret, time) => .of cb (1 + ret) (.time time)
    | some .data =>
      match getData unescape row field cnt selected with
      | .error e => .failed e
      | .ok none => .of cb 1 (.value field .data)
      | .ok (some (.time, unescaped)) =>
        match L.timeOfString unescaped with
        | .error e => .failed e
        | .ok time => .of cb 2 (.time (.made time))
      | .ok (some (type, unescaped)) => .of cb 2 (.value unescaped type)
    | some .enum => .of cb 1 (.value field .string)
    | _ => .of cb 1 (.value field .other)

end Code

section Decoding

/-- The text denotes a value of the type. -/
def Denotes (type : IntegerType) (field : SqlField) (v : Int) : Prop :=
  decimalValue (cString field) = some v ∧ type.Holds v

def Understood (field : SqlField) : Prop := scanTimestamp (String.ofList (cString field)) ≠ none

/-- A column that is not counted or null is zero. -/
def Decoded (row : SqlRow) (counted : Prop) [Decidable counted] (columnNum : ℕ) (type : IntegerType) (v : Int) :
    Prop :=
  ∃ column, row.getCounted counted columnNum = .ok column ∧
    (column = none ∧ v = 0 ∨ ∃ field, column = some field ∧ Denotes type field v)

def DecodedTime (row : SqlRow) (selected : SelectedPath) (cnt : ℕ) (t : Time) : Prop :=
  (∃ field tm, row.getField cnt = .ok (some field) ∧ scanTimestamp (String.ofList (cString field)) = some tm ∧
    t.sec = L.timegm tm) ∧
  (∃ v, Decoded row (1 < classicGetPathColumnCount selected) (cnt + 1) .int32 v ∧ t.gmtOffset = Int32.ofInt v) ∧
  ∃ v, Decoded row (2 < classicGetPathColumnCount selected) (cnt + 2) .uint32 v ∧ t.usec = UInt32.ofNat v.toNat

def InvalidInteger (row : SqlRow) (counted : Prop) [Decidable counted] (columnNum : ℕ) (type : IntegerType) : Prop :=
  ∃ field, row.getCounted counted columnNum = .ok (some field) ∧ ∀ v, ¬ Denotes type field v

/-- A column of the path holds a text that is no integer or no timestamp. -/
def InvalidText (row : SqlRow) (selected : SelectedPath) (cnt : ℕ) : Prop :=
  (∃ field, row.getField cnt = .ok (some field) ∧ ¬ Understood field) ∨
  InvalidInteger row (1 < classicGetPathColumnCount selected) (cnt + 1) .int32 ∨
  InvalidInteger row (2 < classicGetPathColumnCount selected) (cnt + 2) .uint32

/-- A time is handed over only if it was decoded, and an invalid text is an error that hands over nothing. -/
structure Got.Decodes (got : Got) (row : SqlRow) (selected : SelectedPath) (cnt : ℕ) : Prop where
  decoded (h : Handed) : got.handed = some h → h = .null ∨ ∃ t, h = .time (.made t) ∧ DecodedTime row selected cnt t
  invalid : InvalidText row selected cnt → (∃ e, got.ret = .error e) ∧ got.handed = none

end Decoding

section Claims

variable {long : LongSize} {type : IntegerType} {row : SqlRow} {selected : SelectedPath} {cnt : ℕ}
  {field : SqlField} {v : Int}

/-- The reading ends with an error: a fetch fails, or the offset of a time that is there is refused. -/
def Stops (long : LongSize) (row : SqlRow) (selected : SelectedPath) (cnt : ℕ) : Prop :=
  (∃ e, row.getField cnt = .error e) ∨ (∃ field, row.getField cnt = .ok (some field)) ∧
    ((∃ e, row.getCounted (1 < classicGetPathColumnCount selected) (cnt + 1) = .error e) ∨
    (∃ field e, row.getCounted (1 < classicGetPathColumnCount selected) (cnt + 1) = .ok (some field) ∧
      sqlFieldTo long .int32 (cString field) = .error e) ∨
    ∃ e, row.getCounted (2 < classicGetPathColumnCount selected) (cnt + 2) = .error e)

/-- The microseconds begin with a minus sign. -/
def MinusUsec (row : SqlRow) (selected : SelectedPath) (cnt : ℕ) : Prop :=
  ∃ field, row.getCounted (2 < classicGetPathColumnCount selected) (cnt + 2) = .ok (some field) ∧
    (cString field).head? = some '-'

omit L in
/-- A text that denotes a value is converted to it, but a text with a minus sign by no unsigned type. -/
lemma sqlFieldTo_of_denotes (hminus : 0 ≤ type.min → (cString field).head? ≠ some '-') (h : Denotes type field v) :
    sqlFieldTo long type (cString field) = .ok v := by
  obtain ⟨hv, hholds⟩ := h
  generalize cString field = text at *
  cases text with
  | nil => cases hv
  | cons c text =>
    cases hc : isspace c with
    | true =>
      rw [decimalValue_blank hc] at hv
      cases hv
    | false =>
      refine (convertsExactly_plain hc ?_ v).mpr ⟨hv, hholds⟩
      rintro hmin rfl
      exact hminus hmin rfl

omit L in
lemma fieldGmtoff_decoded {column : Option SqlField} {gmtoff : Int32} {counted : Prop} [Decidable counted]
    (hcolumn : row.getCounted counted cnt = .ok column) (h : fieldGmtoff long column = .ok gmtoff)
    (hvalid : ¬ InvalidInteger row counted cnt .int32) :
    ∃ v, Decoded row counted cnt .int32 v ∧ gmtoff = Int32.ofInt v := by
  cases column with
  | none => exact ⟨0, ⟨none, hcolumn, .inl ⟨rfl, rfl⟩⟩, (Except.ok.inj h).symm⟩
  | some field =>
    obtain ⟨v, hv⟩ : ∃ v, Denotes .int32 field v := by
      by_contra hnone
      push Not at hnone
      exact hvalid ⟨field, hcolumn, hnone⟩
    refine ⟨v, ⟨some field, hcolumn, .inr ⟨field, rfl, hv⟩⟩, ?_⟩
    rw [fieldGmtoff, sqlFieldTo_of_denotes (fun hmin => absurd hmin (by decide)) hv] at h
    exact (Except.ok.inj h).symm

omit L in
lemma fieldUsec_decoded {column : Option SqlField} {usec : UInt32} {counted : Prop} [Decidable counted]
    (hcolumn : row.getCounted counted cnt = .ok column) (h : fieldUsec long column = some usec)
    (hvalid : ¬ InvalidInteger row counted cnt .uint32) :
    (∃ v, Decoded row counted cnt .uint32 v ∧ usec = UInt32.ofNat v.toNat) ∧
      ∀ field, row.getCounted counted cnt = .ok (some field) → (cString field).head? ≠ some '-' := by
  cases column with
  | none =>
    refine ⟨⟨0, ⟨none, hcolumn, .inl ⟨rfl, rfl⟩⟩, (Option.some.inj h).symm⟩, fun field hfield => ?_⟩
    cases hcolumn.symm.trans hfield
  | some field =>
    obtain ⟨v, hv⟩ : ∃ v, Denotes .uint32 field v := by
      by_contra hnone
      push Not at hnone
      exact hvalid ⟨field, hcolumn, hnone⟩
    have hminus : (cString field).head? ≠ some '-' := by
      intro hhead
      rw [fieldUsec, sqlFieldTo, if_pos ⟨by decide, hhead⟩] at h
      cases h
    refine ⟨⟨v, ⟨some field, hcolumn, .inr ⟨field, rfl, hv⟩⟩, ?_⟩, fun field' hfield' => ?_⟩
    · rw [fieldUsec, sqlFieldTo_of_denotes (fun _ => hminus) hv] at h
      exact (Option.some.inj h).symm
    · cases hcolumn.symm.trans hfield'
      exact hminus

omit L in
lemma fieldUsec_refused {column : Option SqlField} (hcolumn : row.getCounted
    (2 < classicGetPathColumnCount selected) (cnt + 2) = .ok column) (h : fieldUsec long column = none)
    (hvalid : ¬ InvalidInteger row (2 < classicGetPathColumnCount selected) (cnt + 2) .uint32) :
    ¬ ¬ MinusUsec row selected cnt := by
  cases column with
  | none => cases h
  | some field =>
    obtain ⟨v, hv⟩ : ∃ v, Denotes .uint32 field v := by
      by_contra hnone
      push Not at hnone
      exact hvalid ⟨field, hcolumn, hnone⟩
    rw [not_not]
    by_contra hminus
    have hhead : (cString field).head? ≠ some '-' := fun hhead => hminus ⟨field, hcolumn, hhead⟩
    rw [fieldUsec, sqlFieldTo_of_denotes (fun _ => hhead) hv] at h
    cases h

/-- The time that is made of valid columns. -/
lemma decodedTime_made {gmtoffColumn usecColumn : Option SqlField} {gmtoff : Int32} {usec : UInt32}
    (hfield : row.getField cnt = .ok (some field))
    (hgmtoff : row.getCounted (1 < classicGetPathColumnCount selected) (cnt + 1) = .ok gmtoffColumn)
    (hconverted : fieldGmtoff long gmtoffColumn = .ok gmtoff)
    (husec : row.getCounted (2 < classicGetPathColumnCount selected) (cnt + 2) = .ok usecColumn)
    (hconversion : fieldUsec long usecColumn = some usec) (hvalid : ¬ InvalidText row selected cnt) :
    DecodedTime row selected cnt
      ((timeFromTimestamp (String.ofList (cString field)) gmtoff usec).toOption.getD ⟨0, 0, 0⟩) := by
  obtain ⟨tm, htm⟩ : ∃ tm, scanTimestamp (String.ofList (cString field)) = some tm := by
    rw [← Option.ne_none_iff_exists']
    exact fun hnone => hvalid (.inl ⟨field, hfield, fun h => h hnone⟩)
  obtain ⟨v, hv, hgmt⟩ := fieldGmtoff_decoded hgmtoff hconverted fun h => hvalid (.inr (.inl h))
  obtain ⟨⟨w, hw, hus⟩, -⟩ := fieldUsec_decoded husec hconversion fun h => hvalid (.inr (.inr h))
  rw [timeFromTimestamp, htm]
  exact ⟨⟨field, tm, hfield, htm, rfl⟩, ⟨v, hv, hgmt⟩, w, hw, hus⟩

/-- What the columns of the offset and of the microseconds come to, unless the reading ends there. -/
lemma getValueTime_cases (field : SqlField) (hfield : row.getField cnt = .ok (some field)) :
    (Stops long row selected cnt ∧ ∃ e, getValueTime long selected row field cnt = .error e) ∨
    (¬ Stops long row selected cnt ∧ ∃ gmtoffColumn gmtoff usecColumn,
      row.getCounted (1 < classicGetPathColumnCount selected) (cnt + 1) = .ok gmtoffColumn ∧
      fieldGmtoff long gmtoffColumn = .ok gmtoff ∧
      row.getCounted (2 < classicGetPathColumnCount selected) (cnt + 2) = .ok usecColumn) := by
  have hthere : ∃ field, row.getField cnt = .ok (some field) := ⟨field, hfield⟩
  rw [getValueTime]
  rcases hgmtoff : row.getCounted (1 < classicGetPathColumnCount selected) (cnt + 1) with e | column
  · exact .inl ⟨.inr ⟨hthere, .inl ⟨e, hgmtoff⟩⟩, e, rfl⟩
  rcases hconverted : fieldGmtoff long column with e | gmtoff
  · refine .inl ⟨.inr ⟨hthere, .inr (.inl ?_)⟩, e, ?_⟩
    · cases column with
      | none => cases hconverted
      | some offset =>
        rcases hoffset : sqlFieldTo long .int32 (cString offset) with e' | v
        · exact ⟨offset, e', hgmtoff, hoffset⟩
        · rw [fieldGmtoff, hoffset] at hconverted
          cases hconverted
    · simp only [Except.bind, hconverted]
  rcases husec : row.getCounted (2 < classicGetPathColumnCount selected) (cnt + 2) with e | usec
  · refine .inl ⟨.inr ⟨hthere, .inr (.inr ⟨e, husec⟩)⟩, e, ?_⟩
    simp only [Except.bind, hconverted, Except.map]
  · refine .inr ⟨?_, column, gmtoff, usec, rfl, hconverted, rfl⟩
    rintro (⟨e, he⟩ | ⟨-, ⟨e, he⟩ | ⟨offset, e, hoffset, hrefused⟩ | ⟨e, he⟩⟩)
    · cases hfield.symm.trans he
    · cases hgmtoff.symm.trans he
    · cases hgmtoff.symm.trans hoffset
      rw [fieldGmtoff, hrefused] at hconverted
      cases hconverted
    · cases husec.symm.trans he

lemma getValueTime_goes {gmtoffColumn usecColumn : Option SqlField} {gmtoff : Int32}
    (hgmtoff : row.getCounted (1 < classicGetPathColumnCount selected) (cnt + 1) = .ok gmtoffColumn)
    (hconverted : fieldGmtoff long gmtoffColumn = .ok gmtoff)
    (husec : row.getCounted (2 < classicGetPathColumnCount selected) (cnt + 2) = .ok usecColumn) :
    (fieldUsec long usecColumn = none → getValueTime long selected row field cnt = .ok (1, .unset)) ∧
    ∀ usec, fieldUsec long usecColumn = some usec → ∃ retrieved, getValueTime long selected row field cnt =
      .ok (retrieved,
        .made ((timeFromTimestamp (String.ofList (cString field)) gmtoff usec).toOption.getD ⟨0, 0, 0⟩)) := by
  rw [getValueTime]
  simp only [hgmtoff, husec, Except.bind, hconverted, Except.map]
  refine ⟨fun hnone => ?_, fun usec hsome => ?_⟩
  · rw [hnone]
  · rw [hsome]
    exact ⟨_, rfl⟩

lemma Got.failed_decodes (e : SqlError) : (Got.failed e).Decodes row selected cnt where
  decoded _ h := by cases h
  invalid _ := ⟨⟨e, rfl⟩, rfl⟩

variable {unescape : SqlField → Except SqlError (List UInt8)} {cb : Handed → Except SqlError ℕ}

/-- A failed conversion of the microseconds and a text that is no time are no errors of the call. -/
theorem getValue_decodes_iff (htime : selected.object.getValueType = some .time) :
    (getValue long unescape row cnt selected cb).Decodes row selected cnt ↔
      Stops long row selected cnt ∨ ¬ InvalidText row selected cnt ∧
        (row.getField cnt = .ok none ∨ ¬ MinusUsec row selected cnt) := by
  rw [getValue]
  rcases hfield : row.getField cnt with e | (_ | field)
  · exact iff_of_true (Got.failed_decodes e) (.inl (.inl ⟨e, hfield⟩))
  · have hgoes : ¬ Stops long row selected cnt := by
      rintro (⟨e, he⟩ | ⟨⟨field, he⟩, -⟩) <;> cases hfield.symm.trans he
    simp only [hgoes, false_or, true_or, and_true]
    constructor
    · intro h hinvalid
      cases (h.invalid hinvalid).2
    · intro hvalid
      exact ⟨fun h hh => .inl (Option.some.inj hh).symm, fun hinvalid => absurd hinvalid hvalid⟩
  · rw [htime]
    dsimp only
    rcases getValueTime_cases field hfield with
      ⟨hstops, e, he⟩ | ⟨hgoes, gmtoffColumn, gmtoff, usecColumn, hgmtoff, hconverted, husec⟩
    · rw [he]
      exact iff_of_true (Got.failed_decodes e) (.inl hstops)
    obtain ⟨hunset, hmade⟩ := @getValueTime_goes _ _ _ _ _ field _ _ _ hgmtoff hconverted husec
    have hnull : ¬ (.ok (some field) : Except SqlError (Option SqlField)) = .ok none := by
      intro h
      cases h
    simp only [hgoes, hnull, false_or]
    rcases hconversion : fieldUsec long usecColumn with _ | usec
    · rw [hunset hconversion]
      refine iff_of_false (fun h => ?_) ?_
      · rcases h.decoded (.time .unset) rfl with hnull | ⟨t, ht, -⟩
        · cases hnull
        · cases ht
      · rintro ⟨hvalid, hminus⟩
        exact fieldUsec_refused husec hconversion (fun h => hvalid (.inr (.inr h))) hminus
    · obtain ⟨retrieved, htime⟩ := hmade usec hconversion
      rw [htime]
      constructor
      · intro h
        have hvalid : ¬ InvalidText row selected cnt := by
          intro hinvalid
          cases (h.invalid hinvalid).2
        refine ⟨hvalid, ?_⟩
        rintro ⟨field, hcolumn, hhead⟩
        exact (fieldUsec_decoded husec hconversion fun h => hvalid (.inr (.inr h))).2 field hcolumn hhead
      · rintro ⟨hvalid, -⟩
        refine ⟨fun h hh => .inr ⟨_, (Option.some.inj hh).symm, ?_⟩, fun hinvalid => absurd hinvalid hvalid⟩
        exact decodedTime_made hfield hgmtoff hconverted husec hconversion hvalid

def fetchedRow (texts : List String) : SqlRow :=
  ⟨texts.length, fun i => (texts[i]?).map fun text => some text.toUTF8.toList, fun _ => .ok none⟩

def createTime : SelectedPath := .new (.idmefPath (createTimePath .alert)) ⟨false, false, false⟩

omit L in
/-- A time with its three columns. -/
theorem getValue_decodes_three :
    (getValue (L := bareLibrary) .lp64 .ok (fetchedRow ["2012-08-05 09:07:30", "3600", "25"]) 0 createTime
      fun _ => .ok 0).Decodes (L := bareLibrary) (fetchedRow ["2012-08-05 09:07:30", "3600", "25"]) createTime 0 := by
  refine (getValue_decodes_iff (L := bareLibrary) (by decide)).mpr (.inr ⟨?_, .inr ?_⟩)
  · rintro (⟨field, hfield, hunknown⟩ | ⟨field, hfield, hnone⟩ | ⟨field, hfield, hnone⟩)
    · obtain rfl : "2012-08-05 09:07:30".toUTF8.toList = field := by cases hfield; rfl
      exact hunknown (by rw [Understood]; decide +kernel)
    · obtain rfl : "3600".toUTF8.toList = field := by cases hfield; rfl
      exact hnone 3600 ⟨by decide +kernel, by decide, by decide⟩
    · obtain rfl : "25".toUTF8.toList = field := by cases hfield; rfl
      exact hnone 25 ⟨by decide +kernel, by decide, by decide⟩
  · rintro ⟨field, hfield, hhead⟩
    obtain rfl : "25".toUTF8.toList = field := by cases hfield; rfl
    exact absurd hhead (by decide +kernel)

omit L in
/-- The microseconds are no integer. -/
theorem getValue_unset_time :
    ¬ (getValue (L := bareLibrary) .lp64 .ok (fetchedRow ["2012-08-05 09:07:30", "3600", "x"]) 0 createTime
      fun _ => .ok 0).Decodes (L := bareLibrary) (fetchedRow ["2012-08-05 09:07:30", "3600", "x"]) createTime 0 := by
  intro h
  have hhanded : (getValue (L := bareLibrary) .lp64 .ok (fetchedRow ["2012-08-05 09:07:30", "3600", "x"]) 0 createTime
    fun _ => .ok 0).handed = some (.time .unset) := by decide +kernel
  have hdecoded := Got.Decodes.decoded (L := bareLibrary) h (.time .unset) hhanded
  rcases hdecoded with hnull | ⟨t, ht, -⟩
  · cases hnull
  · cases ht

end Claims

end Preludedb.Classic.Values
