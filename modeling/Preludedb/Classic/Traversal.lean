import Preludedb.Classic.Get

/-! A property of programs that the readers of a message inherit from the requests and the
conversions they are made of. -/

namespace Preludedb.Classic

open Foundations Sql Idmef

/-- Every error that answers a request ends the program. -/
def Prompt {α : Type} (p : Action α) : Prop := p.FailStop fun _ => True

/-- Nothing but fields of a row is asked for. -/
def OnlyFields {α : Type} (p : Action α) : Prop := p.Requests (· = .fetchField)

/-- The tables of the objects that a reader goes over once more. -/
def revisited : List Table := [.source, .target, .file]

/-- The tables whose row or field is used without a look at whether there is one. -/
def unguarded : List Table := [.alert, .heartbeat, .overflowAlert]

/-- What the other readers ask for. -/
def Asked : Request → Prop
  | .query (.data (.select t _ _ _)) => t ∉ unguarded
  | .query (.data (.count _ _)) | .fetchRow | .fetchField | .unescapeBinary _ => True
  | _ => False

/-- The errors of a conversion are those of the library for times, or have a code of their own. -/
def Converted [L : Libprelude] {α : Type} (x : Except SqlError α) : Prop :=
  ∀ e, x = .error e → e ≠ undefinedBehaviour ∨ ∃ v, L.timeOfString v = .error e

structure Compositional [L : Libprelude] (P : ∀ α : Type, Action α → Prop) : Prop where
  done {α : Type} (a : α) : P α (.done a)
  bind {α β : Type} {p : Action α} {f : α → Action β} (hp : P α p) (hf : ∀ a, P β (f a)) : P β (p >>= f)
  ask (r : Request) (h : Asked r) : P (r.Reply Result) (Program.call r)
  convert {α : Type} (x : Except SqlError α) (h : Converted x) : P α (Program.ofExcept x)
  service (columns : List String) (w : Where) : P _ (select .service columns w).attempt
  objects {α : Type} {t : Table} {f : Int → List Cell → Action α} (ht : t ∈ revisited)
    (hp : ∀ index row, Prompt (f index row)) (hf : ∀ index row, OnlyFields (f index row))
    (h : ∀ index row, P α (f index row)) (columns : List String) (w : Where) :
    P _ (selectOrdered t columns w >>= objectRows f)

section Conversions

variable [L : Libprelude] {α : Type}

lemma converted_of_ne {x : Except SqlError α} (h : ∀ e, x = .error e → e ≠ undefinedBehaviour) : Converted x :=
  fun e he => Or.inl (h e he)

lemma fieldToInteger_converted {β : Type} (min max : Int) (c : Cell) (g : Int → β) :
    Converted ((fieldToInteger min max c).map g) := by
  refine converted_of_ne fun e he => ?_
  rw [fieldToInteger.eq_def] at he
  split at he
  · split at he
    · cases he
    · cases he
      decide
  · cases he
    decide

lemma fieldToFloat_converted (c : Cell) : Converted (fieldToFloat c) := by
  refine converted_of_ne fun e he => ?_
  rw [fieldToFloat] at he
  split at he
  · cases he
    decide
  · cases he

lemma timeFromTimestamp_converted (timeBuf : String) (gmtoff : Int32) (usec : UInt32) :
    Converted (timeFromTimestamp timeBuf gmtoff usec) := by
  refine converted_of_ne fun e he => ?_
  rw [timeFromTimestamp] at he
  split at he
  · cases he
    simp [undefinedBehaviour, preludedbErrorVerbose, preludedbError]
  · cases he

lemma bare_converted : Converted (.error (bareError (-1)) : Except SqlError α) := by
  refine converted_of_ne fun e he => ?_
  cases he
  decide

lemma ok_converted (a : α) : Converted (.ok a : Except SqlError α) := fun e he => (by cases he)

lemma scan_converted {β : Type} (value : List UInt8) (x : β) (g : β → Data) : Converted
    ((if (cString value).all Char.isWhitespace then .error (bareError (-1)) else .ok x : Except SqlError β).map g) := by
  split
  · exact bare_converted
  · exact ok_converted _

lemma additionalDataOf_converted (value : List UInt8) (type : Option AdditionalDataType) :
    Converted (additionalDataOf value type) := by
  cases type with
  | none => exact ok_converted _
  | some type =>
    cases type with
    | dateTime =>
      intro e he
      rw [additionalDataOf] at he
      cases ht : L.timeOfString value with
      | error e' =>
        rw [ht] at he
        cases he
        exact Or.inr ⟨value, ht⟩
      | ok t =>
        rw [ht] at he
        cases he
    | real => exact scan_converted value _ _
    | byte | boolean => exact scan_converted value _ _
    | integer | ntpstamp => exact scan_converted value _ _
    | error => exact bare_converted
    | _ => exact ok_converted _

end Conversions

section Rows

variable {α β : Type}

lemma prompt_call (r : Request) : Prompt (Program.call r) := .call _ r

lemma prompt_ofExcept (x : Except SqlError α) : Prompt (Program.ofExcept x) := by
  cases x <;> trivial

lemma Prompt.bind {p : Action α} {f : α → Action β} (hp : Prompt p) (hf : ∀ a, Prompt (f a)) :
    Prompt (p >>= f) :=
  Program.FailStop.bind hp hf

lemma rowGetField_prompt (row : List Cell) (index : ℕ) : Prompt (rowGetField row index) := by
  refine (prompt_call .fetchField).bind fun _ => ?_
  cases row.getD index .null <;> trivial

lemma getString_prompt (row : List Cell) (index : ℕ) : Prompt (getString row index) :=
  (rowGetField_prompt row index).bind fun _ => trivial

lemma getInteger_prompt (fieldTo : Cell → Except SqlError α) (row : List Cell) (index : ℕ) :
    Prompt (getInteger fieldTo row index) := by
  refine (rowGetField_prompt row index).bind fun field => ?_
  cases field with
  | none => trivial
  | some field => exact (prompt_ofExcept _).bind fun _ => trivial

lemma getNeeded_prompt (fieldTo : Cell → Except SqlError α) (row : List Cell) (index : ℕ) :
    Prompt (getNeeded fieldTo row index) := by
  refine (getInteger_prompt fieldTo row index).bind fun value => ?_
  cases value <;> trivial

lemma OnlyFields.bind {β : Type} {p : Action α} {f : α → Action β} (hp : OnlyFields p)
    (hf : ∀ a, OnlyFields (f a)) : OnlyFields (p >>= f) :=
  Program.Requests.bind hp hf

lemma rowGetField_fields (row : List Cell) (index : ℕ) : OnlyFields (rowGetField row index) := by
  refine OnlyFields.bind (Program.Requests.call rfl) fun _ => ?_
  cases row.getD index .null <;> trivial

lemma getString_fields (row : List Cell) (index : ℕ) : OnlyFields (getString row index) :=
  (rowGetField_fields row index).bind fun _ => trivial

lemma getInteger_fields (fieldTo : Cell → Except SqlError α) (row : List Cell) (index : ℕ) :
    OnlyFields (getInteger fieldTo row index) := by
  refine (rowGetField_fields row index).bind fun field => ?_
  cases field with
  | none => trivial
  | some field => exact OnlyFields.bind (.ofExcept _) fun _ => trivial

lemma getNeeded_fields (fieldTo : Cell → Except SqlError α) (row : List Cell) (index : ℕ) :
    OnlyFields (getNeeded fieldTo row index) := by
  refine (getInteger_fields fieldTo row index).bind fun value => ?_
  cases value <;> trivial

variable [L : Libprelude]

lemma getEnum_prompt (e : Enumeration) (row : List Cell) (index : ℕ) : Prompt (getEnum e row index) :=
  (rowGetField_prompt row index).bind fun _ => trivial

lemma getTimestamp_prompt (row : List Cell) (time gmtoff : ℕ) (usec : Option ℕ) :
    Prompt (getTimestamp row time gmtoff usec) := by
  refine (rowGetField_prompt row time).bind fun field => ?_
  cases field with
  | none => trivial
  | some field =>
    refine (getNeeded_prompt _ row gmtoff).bind fun _ => ?_
    cases usec with
    | none =>
      exact Prompt.bind (p := .done _) trivial fun _ => (prompt_ofExcept _).bind fun _ =>
        (prompt_ofExcept _).bind fun _ => trivial
    | some index =>
      exact (getNeeded_prompt _ row index).bind fun _ => (prompt_ofExcept _).bind fun _ =>
        (prompt_ofExcept _).bind fun _ => trivial

lemma getEnum_fields (e : Enumeration) (row : List Cell) (index : ℕ) : OnlyFields (getEnum e row index) :=
  (rowGetField_fields row index).bind fun _ => trivial

lemma getTimestamp_fields (row : List Cell) (time gmtoff : ℕ) :
    OnlyFields (getTimestamp row time gmtoff none) := by
  refine (rowGetField_fields row time).bind fun field => ?_
  cases field with
  | none => trivial
  | some field =>
    exact (getNeeded_fields _ row gmtoff).bind fun _ => OnlyFields.bind (p := .done _) trivial fun _ =>
      OnlyFields.bind (.ofExcept _) fun _ => OnlyFields.bind (.ofExcept _) fun _ => trivial

lemma getFileRow_prompt (row : List Cell) : Prompt (getFileRow row) :=
  (getString_prompt row 0).bind fun _ => (getEnum_prompt _ row 1).bind fun _ =>
    (getString_prompt row 2).bind fun _ => (getString_prompt row 3).bind fun _ =>
    (getTimestamp_prompt row 4 5 none).bind fun _ => (getTimestamp_prompt row 6 7 none).bind fun _ =>
    (getTimestamp_prompt row 8 9 none).bind fun _ => (getInteger_prompt _ row 10).bind fun _ =>
    (getInteger_prompt _ row 11).bind fun _ => (getEnum_prompt _ row 12).bind fun _ =>
    (getString_prompt row 13).bind fun _ => trivial

lemma getFileRow_fields (row : List Cell) : OnlyFields (getFileRow row) :=
  (getString_fields row 0).bind fun _ => (getEnum_fields _ row 1).bind fun _ =>
    (getString_fields row 2).bind fun _ => (getString_fields row 3).bind fun _ =>
    (getTimestamp_fields row 4 5).bind fun _ => (getTimestamp_fields row 6 7).bind fun _ =>
    (getTimestamp_fields row 8 9).bind fun _ => (getInteger_fields _ row 10).bind fun _ =>
    (getInteger_fields _ row 11).bind fun _ => (getEnum_fields _ row 12).bind fun _ =>
    (getString_fields row 13).bind fun _ => trivial

end Rows

section Rules

variable [L : Libprelude] {P : ∀ α : Type, Action α → Prop} (hP : Compositional P) {α β : Type}

include hP

lemma Compositional.select {t : Table} (ht : t ∉ unguarded) (columns : List String) (w : Where) :
    P _ (select t columns w) :=
  hP.ask (.query (.data (.select t columns w false))) ht

lemma Compositional.selectOrdered {t : Table} (ht : t ∉ unguarded) (columns : List String) (w : Where) :
    P _ (selectOrdered t columns w) :=
  hP.ask (.query (.data (.select t columns { w with index := .ne (-1) } true))) ht

lemma Compositional.rowGetField (row : List Cell) (index : ℕ) : P _ (rowGetField row index) := by
  refine hP.bind (hP.ask .fetchField trivial) fun _ => ?_
  cases row.getD index .null <;> exact hP.done _

lemma Compositional.getString (row : List Cell) (index : ℕ) : P _ (getString row index) :=
  hP.bind (hP.rowGetField row index) fun _ => hP.done _

lemma Compositional.getInteger {fieldTo : Cell → Except SqlError α} (h : ∀ c, Converted (fieldTo c))
    (row : List Cell) (index : ℕ) : P _ (getInteger fieldTo row index) := by
  refine hP.bind (hP.rowGetField row index) fun field => ?_
  cases field with
  | none => exact hP.done _
  | some field => exact hP.bind (hP.convert _ (h field)) fun _ => hP.done _

lemma Compositional.getUint8 (row : List Cell) (index : ℕ) : P _ (getUint8 row index) :=
  hP.getInteger (fun c => fieldToInteger_converted _ _ c _) row index

lemma Compositional.getUint16 (row : List Cell) (index : ℕ) : P _ (getUint16 row index) :=
  hP.getInteger (fun c => fieldToInteger_converted _ _ c _) row index

lemma Compositional.getUint32 (row : List Cell) (index : ℕ) : P _ (getUint32 row index) :=
  hP.getInteger (fun c => fieldToInteger_converted _ _ c _) row index

lemma Compositional.getNeeded {fieldTo : Cell → Except SqlError α} (h : ∀ c, Converted (fieldTo c))
    (row : List Cell) (index : ℕ) : P _ (getNeeded fieldTo row index) := by
  refine hP.bind (hP.getInteger h row index) fun value => ?_
  cases value with
  | none => exact hP.convert _ bare_converted
  | some value => exact hP.done _

lemma Compositional.getEnum (e : Enumeration) (row : List Cell) (index : ℕ) : P _ (getEnum e row index) :=
  hP.bind (hP.rowGetField row index) fun _ => hP.done _

lemma Compositional.getTimestamp (row : List Cell) (time gmtoff : ℕ) (usec : Option ℕ) :
    P _ (getTimestamp row time gmtoff usec) := by
  refine hP.bind (hP.rowGetField row time) fun field => ?_
  cases field with
  | none => exact hP.done _
  | some field =>
    refine hP.bind (hP.getNeeded (fun c => ok_converted c) row gmtoff) fun gmtoffField => ?_
    have hrest : ∀ usec : UInt32, P _ (do
        let gmtoff ← Program.ofExcept (fieldToInt32 gmtoffField)
        let time ← Program.ofExcept (timeFromTimestamp field.value gmtoff usec)
        pure (some time) : Action (Option Time)) := fun usec =>
      hP.bind (hP.convert _ (fieldToInteger_converted _ _ gmtoffField _)) fun gmtoff =>
        hP.bind (hP.convert _ (timeFromTimestamp_converted _ _ _)) fun _ => hP.done _
    cases usec with
    | none => exact hP.bind (hP.done _) hrest
    | some index => exact hP.bind (hP.getNeeded (fun c => fieldToInteger_converted _ _ c _) row index) hrest

lemma Compositional.firstRow {f : List Cell → Action α} (hf : ∀ row, P _ (f row)) (table : Option Result) :
    P _ (firstRow f table) := by
  rcases table with _ | _ | ⟨row, rows⟩
  · exact hP.done _
  · exact hP.bind (hP.ask .fetchRow trivial) fun _ => hP.done _
  · exact hP.bind (hP.ask .fetchRow trivial) fun _ => hP.bind (hf row) fun _ => hP.done _

lemma Compositional.allRows {f : Int → List Cell → Action α} (hf : ∀ index row, P _ (f index row))
    (table : Option Result) : P _ (allRows f table) := by
  have hrows : ∀ (rows : Result) (index : Int), P _ (forRows f index rows) := by
    intro rows
    induction rows with
    | nil => exact fun _ => hP.bind (hP.ask .fetchRow trivial) fun _ => hP.done _
    | cons row rows ih =>
      exact fun index => hP.bind (hP.ask .fetchRow trivial) fun _ => hP.bind (hf index row) fun _ =>
        hP.bind (ih (index + 1)) fun _ => hP.done _
  cases table with
  | none => exact hP.done _
  | some rows => exact hrows rows 0

lemma Compositional.foldRows {f : α → List Cell → Action α} (hf : ∀ value row, P _ (f value row)) (value : α)
    (rows : Result) : P _ (foldRows f value rows) := by
  induction rows generalizing value with
  | nil => exact hP.bind (hP.ask .fetchRow trivial) fun _ => hP.done _
  | cons row rows ih =>
    exact hP.bind (hP.ask .fetchRow trivial) fun _ => hP.bind (hf value row) fun value => ih value

lemma Compositional.forIndexed {f : Int → α → Action β} (hf : ∀ index x, P _ (f index x)) (index : Int)
    (xs : List α) : P _ (forIndexed f index xs) := by
  induction xs generalizing index with
  | nil => exact hP.done _
  | cons x xs ih => exact hP.bind (hf index x) fun _ => hP.bind (ih (index + 1)) fun _ => hP.done _

lemma Compositional.getStringListed {t : Table} (ht : t ∉ unguarded) (column : String) (w : Where) :
    P _ (getStringListed t column w) :=
  hP.bind (hP.selectOrdered ht _ w) fun _ =>
    hP.bind (hP.allRows (fun _ row => hP.getString row 0) _) fun _ => hP.done _

end Rules

section Readers

variable [L : Libprelude] {P : ∀ α : Type, Action α → Prop} (hP : Compositional P) (ident : ℕ)

include hP

/-- The three readers of a time. -/
lemma time_holds {t : Table} (ht : t ∉ unguarded) (w : Where) : P _ (do
    let table ← select t timeColumns w
    let time ← firstRow (fun row => getTimestamp row 0 1 (some 2)) table
    pure time.join : Action (Option Time)) :=
  hP.bind (hP.select ht _ w) fun table =>
    hP.bind (hP.firstRow (fun row => hP.getTimestamp row 0 1 (some 2)) table) fun _ => hP.done _

lemma fillUserId_holds (userId : UserId) (row : List Cell) : P _ (fillUserId userId row) :=
  hP.bind (hP.getString row 0) fun _ => hP.bind (hP.getEnum _ row 1) fun _ =>
    hP.bind (hP.getString row 2) fun _ => hP.bind (hP.getUint32 row 3) fun _ =>
    hP.bind (hP.getString row 4) fun _ => hP.done _

lemma getUserId_holds (c : Char) (i j l : Int) : P _ (getUserId ident c i j l) := by
  refine hP.bind (hP.selectOrdered (show Table.userId ∉ unguarded by decide) _ _) fun table => ?_
  cases table with
  | none => exact hP.done _
  | some rows => exact hP.foldRows (fillUserId_holds hP) newUserId rows

lemma getUser_holds (c : Char) (i : Int) : P _ (getUser ident c i) := by
  have hids : P _ (getUserIdListed ident c i 0 0) :=
    hP.bind (hP.selectOrdered (show Table.userId ∉ unguarded by decide) _ _)
      (hP.allRows fun _ => fillUserId_holds hP newUserId)
  refine hP.bind (hP.select (by decide) _ _) (hP.firstRow fun row => ?_)
  exact hP.bind (hP.getString row 0) fun _ => hP.bind (hP.getEnum _ row 1) fun _ =>
    hP.bind hids fun _ => hP.done _

lemma getProcess_holds (c : Char) (i : Int) : P _ (getProcess ident c i) := by
  refine hP.bind (hP.select (by decide) _ _) (hP.firstRow fun row => ?_)
  exact hP.bind (hP.getString row 0) fun _ => hP.bind (hP.getString row 1) fun _ =>
    hP.bind (hP.getUint32 row 2) fun _ => hP.bind (hP.getString row 3) fun _ =>
    hP.bind (hP.getStringListed (by decide) _ _) fun _ =>
    hP.bind (hP.getStringListed (by decide) _ _) fun _ => hP.done _

lemma getWebService_holds (c : Char) (i : Int) : P _ (getWebService ident c i) := by
  refine hP.bind (hP.select (by decide) _ _) (hP.firstRow fun row => ?_)
  exact hP.bind (hP.getString row 0) fun _ => hP.bind (hP.getString row 1) fun _ =>
    hP.bind (hP.getString row 2) fun _ => hP.bind (hP.getStringListed (by decide) _ _) fun _ => hP.done _

lemma getSnmpService_holds (c : Char) (i : Int) : P _ (getSnmpService ident c i) := by
  refine hP.bind (hP.select (by decide) _ _) (hP.firstRow fun row => ?_)
  exact hP.bind (hP.getString row 0) fun _ => hP.bind (hP.getUint32 row 1) fun _ =>
    hP.bind (hP.getUint32 row 2) fun _ => hP.bind (hP.getString row 3) fun _ =>
    hP.bind (hP.getUint32 row 4) fun _ => hP.bind (hP.getString row 5) fun _ =>
    hP.bind (hP.getString row 6) fun _ => hP.bind (hP.getString row 7) fun _ => hP.done _

lemma getService_holds (c : Char) (i : Int) : P _ (getService ident c i) := by
  refine hP.bind (hP.service _ _) fun ret => ?_
  cases ret with
  | error e => exact hP.done _
  | ok table =>
    refine hP.firstRow (fun row => ?_) table
    exact hP.bind (hP.getString row 0) fun _ => hP.bind (hP.getUint8 row 1) fun _ =>
      hP.bind (hP.getString row 2) fun _ => hP.bind (hP.getUint16 row 3) fun _ =>
      hP.bind (hP.getUint8 row 4) fun _ => hP.bind (hP.getString row 5) fun _ =>
      hP.bind (hP.getString row 6) fun _ => hP.bind (hP.getString row 7) fun _ =>
      hP.bind (getWebService_holds hP ident c i) fun _ => hP.bind (getSnmpService_holds hP ident c i) fun _ =>
      hP.done _

lemma getNode_holds (c : Char) (i : Int) : P _ (getNode ident c i) := by
  have haddress : P _ (getAddress ident c i) := by
    refine hP.bind (hP.selectOrdered (by decide) _ _) (hP.allRows fun _ row => ?_)
    exact hP.bind (hP.getString row 0) fun _ => hP.bind (hP.getEnum _ row 1) fun _ =>
      hP.bind (hP.getString row 2) fun _ => hP.bind (hP.getUint32 row 3) fun _ =>
      hP.bind (hP.getString row 4) fun _ => hP.bind (hP.getString row 5) fun _ => hP.done _
  refine hP.bind (hP.select (by decide) _ _) (hP.firstRow fun row => ?_)
  exact hP.bind (hP.getString row 0) fun _ => hP.bind (hP.getEnum _ row 1) fun _ =>
    hP.bind (hP.getString row 2) fun _ => hP.bind (hP.getString row 3) fun _ =>
    hP.bind haddress fun _ => hP.done _

lemma getAnalyzer_holds (c : Char) : P _ (getAnalyzer ident c) := by
  refine hP.bind (hP.selectOrdered (by decide) _ _) (hP.allRows fun index row => ?_)
  exact hP.bind (hP.getString row 0) fun _ => hP.bind (hP.getString row 1) fun _ =>
    hP.bind (hP.getString row 2) fun _ => hP.bind (hP.getString row 3) fun _ =>
    hP.bind (hP.getString row 4) fun _ => hP.bind (hP.getString row 5) fun _ =>
    hP.bind (hP.getString row 6) fun _ => hP.bind (hP.getString row 7) fun _ =>
    hP.bind (getNode_holds hP ident c index) fun _ => hP.bind (getProcess_holds hP ident c index) fun _ => hP.done _

lemma getAssessment_holds : P _ (getAssessment ident) := by
  have haction : P _ (getAction ident) := by
    refine hP.bind (hP.selectOrdered (by decide) _ _) (hP.allRows fun _ row => ?_)
    exact hP.bind (hP.getEnum _ row 0) fun _ => hP.bind (hP.getString row 1) fun _ => hP.done _
  have hconfidence : P _ (getConfidence ident) := by
    refine hP.bind (hP.select (by decide) _ _) (hP.firstRow fun row => ?_)
    exact hP.bind (hP.getEnum _ row 0) fun _ => hP.bind (hP.getInteger fieldToFloat_converted row 1) fun _ => hP.done _
  have himpact : P _ (getImpact ident) := by
    refine hP.bind (hP.select (by decide) _ _) (hP.firstRow fun row => ?_)
    exact hP.bind (hP.getEnum _ row 0) fun _ => hP.bind (hP.getEnum _ row 1) fun _ =>
      hP.bind (hP.getEnum _ row 2) fun _ => hP.bind (hP.getString row 3) fun _ => hP.done _
  refine hP.bind (hP.select (by decide) _ _) fun table => ?_
  cases table with
  | none => exact hP.done _
  | some _ => exact hP.bind himpact fun _ => hP.bind hconfidence fun _ => hP.bind haction fun _ => hP.done _

lemma getFileAccess_holds (i j : Int) : P _ (getFileAccess ident i j) := by
  refine hP.bind (hP.ask (.query (.data (.count _ _))) trivial) fun table =>
    hP.bind (hP.firstRow (fun row => hP.getUint32 row 0) table) fun count => ?_
  cases count.join with
  | none => exact hP.done _
  | some count =>
    refine hP.forIndexed (fun cnt _ => ?_) 0 _
    exact hP.bind (getUserId_holds hP ident 'F' i j cnt) fun _ =>
      hP.bind (hP.getStringListed (by decide) _ _) fun _ => hP.done _

lemma getLinkage_holds (i j : Int) : P _ (getLinkage ident i j) := by
  refine hP.bind (hP.selectOrdered (by decide) _ _) (hP.allRows fun _ row => ?_)
  exact hP.bind (hP.getEnum _ row 0) fun _ => hP.bind (hP.getString row 1) fun _ =>
    hP.bind (hP.getString row 2) fun _ => hP.done _

lemma getInode_holds (i j : Int) : P _ (getInode ident i j) := by
  refine hP.bind (hP.select (by decide) _ _) (hP.firstRow fun row => ?_)
  exact hP.bind (hP.getTimestamp row 0 1 none) fun _ => hP.bind (hP.getUint32 row 2) fun _ =>
    hP.bind (hP.getUint32 row 3) fun _ => hP.bind (hP.getUint32 row 4) fun _ =>
    hP.bind (hP.getUint32 row 5) fun _ => hP.bind (hP.getUint32 row 6) fun _ => hP.done _

lemma getChecksum_holds (i j : Int) : P _ (getChecksum ident i j) := by
  refine hP.bind (hP.selectOrdered (by decide) _ _) (hP.allRows fun _ row => ?_)
  exact hP.bind (hP.getString row 0) fun _ => hP.bind (hP.getString row 1) fun _ =>
    hP.bind (hP.getEnum _ row 2) fun _ => hP.done _

lemma getFileRow_holds (row : List Cell) : P _ (getFileRow row) :=
  hP.bind (hP.getString row 0) fun _ => hP.bind (hP.getEnum _ row 1) fun _ =>
    hP.bind (hP.getString row 2) fun _ => hP.bind (hP.getString row 3) fun _ =>
    hP.bind (hP.getTimestamp row 4 5 none) fun _ => hP.bind (hP.getTimestamp row 6 7 none) fun _ =>
    hP.bind (hP.getTimestamp row 8 9 none) fun _ => hP.bind (hP.getUint32 row 10) fun _ =>
    hP.bind (hP.getUint32 row 11) fun _ => hP.bind (hP.getEnum _ row 12) fun _ =>
    hP.bind (hP.getString row 13) fun _ => hP.done _

lemma getFile_holds (i : Int) : P _ (getFile ident i) := by
  rw [getFile, ← bind_assoc]
  refine hP.bind (hP.objects (show Table.file ∈ revisited by decide) (fun _ => getFileRow_prompt)
    (fun _ => getFileRow_fields) (fun _ => getFileRow_holds hP) _ _) fun files =>
      hP.forIndexed (fun cnt file => ?_) 0 files
  exact hP.bind (getFileAccess_holds hP ident i cnt) fun _ => hP.bind (getLinkage_holds hP ident i cnt) fun _ =>
    hP.bind (getInode_holds hP ident i cnt) fun _ => hP.bind (getChecksum_holds hP ident i cnt) fun _ => hP.done _

lemma getSource_holds : P _ (getSource ident) := by
  rw [getSource, ← bind_assoc]
  refine hP.bind (hP.objects (show Table.source ∈ revisited by decide) (fun _ row => ?_) (fun _ row => ?_)
    (fun _ row => ?_) _ _) fun sources => hP.forIndexed (fun cnt source => ?_) 0 sources
  · exact (getString_prompt row 0).bind fun _ => (getEnum_prompt _ row 1).bind fun _ =>
      (getString_prompt row 2).bind fun _ => trivial
  · exact (getString_fields row 0).bind fun _ => (getEnum_fields _ row 1).bind fun _ =>
      (getString_fields row 2).bind fun _ => trivial
  · exact hP.bind (hP.getString row 0) fun _ => hP.bind (hP.getEnum _ row 1) fun _ =>
      hP.bind (hP.getString row 2) fun _ => hP.done _
  · exact hP.bind (getNode_holds hP ident 'S' cnt) fun _ => hP.bind (getUser_holds hP ident 'S' cnt) fun _ =>
      hP.bind (getProcess_holds hP ident 'S' cnt) fun _ => hP.bind (getService_holds hP ident 'S' cnt) fun _ =>
      hP.done _

lemma getTarget_holds : P _ (getTarget ident) := by
  rw [getTarget, ← bind_assoc]
  refine hP.bind (hP.objects (show Table.target ∈ revisited by decide) (fun _ row => ?_) (fun _ row => ?_)
    (fun _ row => ?_) _ _) fun targets => hP.forIndexed (fun cnt target => ?_) 0 targets
  · exact (getString_prompt row 0).bind fun _ => (getEnum_prompt _ row 1).bind fun _ =>
      (getString_prompt row 2).bind fun _ => trivial
  · exact (getString_fields row 0).bind fun _ => (getEnum_fields _ row 1).bind fun _ =>
      (getString_fields row 2).bind fun _ => trivial
  · exact hP.bind (hP.getString row 0) fun _ => hP.bind (hP.getEnum _ row 1) fun _ =>
      hP.bind (hP.getString row 2) fun _ => hP.done _
  · exact hP.bind (getNode_holds hP ident 'T' cnt) fun _ => hP.bind (getUser_holds hP ident 'T' cnt) fun _ =>
      hP.bind (getProcess_holds hP ident 'T' cnt) fun _ => hP.bind (getService_holds hP ident 'T' cnt) fun _ =>
      hP.bind (getFile_holds hP ident cnt) fun _ => hP.done _

lemma additionalDataRows_holds (rows : Result) : P _ (additionalDataRows rows) := by
  induction rows with
  | nil => exact hP.bind (hP.ask .fetchRow trivial) fun _ => hP.done _
  | cons row rows ih =>
    refine hP.bind (hP.ask .fetchRow trivial) fun _ => hP.bind (hP.getEnum _ row 0) fun _ =>
      hP.bind (hP.getString row 1) fun _ => hP.bind (hP.rowGetField row 2) fun field => ?_
    cases field with
    | none => exact hP.done _
    | some field =>
      exact hP.bind (hP.bind (hP.ask (.unescapeBinary _) trivial) fun _ => hP.done _) fun _ =>
        hP.bind (hP.convert _ (additionalDataOf_converted _ _)) fun _ => hP.bind ih fun _ => hP.done _

lemma getAdditionalData_holds (c : Char) : P _ (getAdditionalData ident c) := by
  refine hP.bind (hP.selectOrdered (show Table.additionalData ∉ unguarded by decide) _ _) fun table => ?_
  cases table with
  | none => exact hP.done _
  | some rows => exact additionalDataRows_holds hP rows

lemma getClassification_holds : P _ (getClassification ident) := by
  have hreference : P _ (getReference ident) := by
    refine hP.bind (hP.selectOrdered (by decide) _ _) (hP.allRows fun _ row => ?_)
    exact hP.bind (hP.getEnum _ row 0) fun _ => hP.bind (hP.getString row 1) fun _ =>
      hP.bind (hP.getString row 2) fun _ => hP.bind (hP.getString row 3) fun _ => hP.done _
  refine hP.bind (hP.select (by decide) _ _) (hP.firstRow fun row => ?_)
  exact hP.bind (hP.getString row 0) fun _ => hP.bind (hP.getString row 1) fun _ =>
    hP.bind hreference fun _ => hP.done _

lemma getAlertident_holds (c : Char) : P _ (getAlertident ident c) := by
  refine hP.bind (hP.selectOrdered (by decide) _ _) (hP.allRows fun _ row => ?_)
  exact hP.bind (hP.getString row 0) fun _ => hP.bind (hP.getString row 1) fun _ => hP.done _

lemma getToolAlert_holds : P _ (getToolAlert ident) := by
  refine hP.bind (hP.select (by decide) _ _) (hP.firstRow fun row => ?_)
  exact hP.bind (hP.getString row 0) fun _ => hP.bind (hP.getString row 1) fun _ =>
    hP.bind (getAlertident_holds hP ident 'T') fun _ => hP.done _

lemma getCorrelationAlert_holds : P _ (getCorrelationAlert ident) := by
  refine hP.bind (hP.select (by decide) _ _) (hP.firstRow fun row => ?_)
  exact hP.bind (hP.getString row 0) fun _ => hP.bind (getAlertident_holds hP ident 'C') fun _ => hP.done _

end Readers

section Messages

variable [L : Libprelude]

/-- An alert from its row on, up to the overflow alert. -/
def alertParts (ident : ℕ) (messageid : Option String) : Action (Option OverflowAlert → Alert) := do
  let assessment ← getAssessment ident
  let analyzers ← getAnalyzer ident 'A'
  let createTime ← getCreateTime ident 'A'
  let detectTime ← getDetectTime ident
  let analyzerTime ← getAnalyzerTime ident 'A'
  let sources ← getSource ident
  let targets ← getTarget ident
  let classification ← getClassification ident
  let additionalData ← getAdditionalData ident 'A'
  let tool ← getToolAlert ident
  let correlation ← getCorrelationAlert ident
  pure fun overflow =>
    { messageid, analyzers, createTime := createTime.getD ⟨0, 0, 0⟩, classification, detectTime
      analyzerTime, sources, targets, assessment, additionalData
      type := alertType tool correlation overflow }

def heartbeatParts (ident : ℕ) (row : Option String × Option UInt32) : Action Heartbeat := do
  let analyzers ← getAnalyzer ident 'H'
  let createTime ← getCreateTime ident 'H'
  let analyzerTime ← getAnalyzerTime ident 'H'
  let additionalData ← getAdditionalData ident 'H'
  pure { messageid := row.1, analyzers, createTime := createTime.getD ⟨0, 0, 0⟩, analyzerTime
         heartbeatInterval := row.2, additionalData }

lemma classicGetAlert_eq (ident : ℕ) : classicGetAlert ident = (do
    let messageid ← getAlertMessageid ident
    let build ← alertParts ident messageid
    let overflow ← getOverflowAlert ident
    pure (build overflow)) := by
  simp only [classicGetAlert, alertParts, bind_assoc, pure_bind]

lemma classicGetHeartbeat_eq (ident : ℕ) :
    classicGetHeartbeat ident = getHeartbeat ident >>= heartbeatParts ident := rfl

variable {P : ∀ α : Type, Action α → Prop} (hP : Compositional P) (ident : ℕ)

include hP

lemma alertParts_holds (messageid : Option String) : P _ (alertParts ident messageid) :=
  hP.bind (getAssessment_holds hP ident) fun _ => hP.bind (getAnalyzer_holds hP ident 'A') fun _ =>
    hP.bind (time_holds hP (by decide) _) fun _ => hP.bind (time_holds hP (by decide) _) fun _ =>
    hP.bind (time_holds hP (by decide) _) fun _ => hP.bind (getSource_holds hP ident) fun _ =>
    hP.bind (getTarget_holds hP ident) fun _ => hP.bind (getClassification_holds hP ident) fun _ =>
    hP.bind (getAdditionalData_holds hP ident 'A') fun _ => hP.bind (getToolAlert_holds hP ident) fun _ =>
    hP.bind (getCorrelationAlert_holds hP ident) fun _ => hP.done _

lemma heartbeatParts_holds (row : Option String × Option UInt32) : P _ (heartbeatParts ident row) :=
  hP.bind (getAnalyzer_holds hP ident 'H') fun _ => hP.bind (time_holds hP (by decide) _) fun _ =>
    hP.bind (time_holds hP (by decide) _) fun _ => hP.bind (getAdditionalData_holds hP ident 'H') fun _ => hP.done _

end Messages

end Preludedb.Classic
