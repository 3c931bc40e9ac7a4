import Preludedb.Classic.Get
import Preludedb.Classic.Restores

/-! Reading one message while others come and go: the statements of the readers, the rows they
select, and what the storage and the deletion of another message do to these rows. -/

namespace Preludedb.Classic

open Foundations Sql Idmef

variable {k : Kind} {ident : ℕ} {t : Table} {w : Where}

/-- Rows that pass the test belong to messages of kind `k`. -/
def Covers (k : Kind) (t : Table) (test : TypeTest) : Prop :=
  ∀ parentType, test.holds parentType = true → selects (deleteQueries k) t parentType = true

lemma Covers.eq {c : Char} (h : selects (deleteQueries k) t (some c) = true) :
    Covers k t (.eq c) := by
  intro parentType hp
  obtain rfl : parentType = some c := by simpa [TypeTest.holds] using hp
  exact h

/-- The requests a reader of the message may issue. -/
inductive Reads (k : Kind) (ident : ℕ) : Request → Prop
  | select {t : Table} {w : Where} (columns : List String) (ordered : Bool)
      (hc : Covers k t w.parentType) (hi : w.idents = [ident]) :
      Reads k ident (.query (.data (.select t columns w ordered)))
  | count {t : Table} {w : Where} (hc : Covers k t w.parentType) (hi : w.idents = [ident]) :
      Reads k ident (.query (.data (.count t w)))
  | fetchRow : Reads k ident .fetchRow
  | fetchField : Reads k ident .fetchField
  | unescapeBinary (input : List UInt8) : Reads k ident (.unescapeBinary input)

lemma Reads.inner {r : Request} (h : Reads k ident r) : r.inner = true := by
  cases h <;> rfl

/-- The condition selects no row of another message. -/
def OnlyOf (k : Kind) (ident : ℕ) (t : Table) (w : Where) : Prop :=
  ∀ r : Row, r.messageIdent ≠ ident ∨ RowOf k.other t r → w.holds r = false

/-- A statement that changes nothing and sees no row of another message. -/
def Restricted (k : Kind) (ident : ℕ) : Request → Prop
  | .query (.data (.select t _ w _)) | .query (.data (.count t w)) => OnlyOf k ident t w
  | .query _ => False
  | _ => True

lemma holds_imp {r : Row} (hc : Covers k t w.parentType) (hi : w.idents = [ident])
    (hw : w.holds r = true) :
    r.messageIdent = ident ∧ selects (deleteQueries k) t r.parentType = true := by
  simp only [Where.holds, hi, Bool.and_eq_true, List.contains_iff_mem, List.mem_singleton] at hw
  exact ⟨hw.1.1.1, hc r.parentType hw.1.1.2⟩

lemma Covers.onlyOf (hc : Covers k t w.parentType) (hi : w.idents = [ident]) :
    OnlyOf k ident t w := by
  intro r h
  by_contra hw
  obtain ⟨hident, hsel⟩ := holds_imp hc hi (Bool.not_eq_false _ ▸ hw)
  rcases h with h | h
  · exact h hident
  · rw [h.selects_other] at hsel
    cases hsel

lemma Reads.restricted {r : Request} (h : Reads k ident r) : Restricted k ident r := by
  cases h with
  | select columns ordered hc hi | count hc hi => exact hc.onlyOf hi
  | fetchRow | fetchField | unescapeBinary input => trivial

section Rules

variable {α β : Type}

lemma select_reads {columns : List String} (hc : Covers k t w.parentType) (hi : w.idents = [ident]) :
    (select t columns w).Requests (Reads k ident) := .call (.select columns false hc hi)

lemma selectOrdered_reads {columns : List String} (hc : Covers k t w.parentType)
    (hi : w.idents = [ident]) : (selectOrdered t columns w).Requests (Reads k ident) :=
  .call (.select columns true hc hi)

lemma rowGetField_reads (row : List Cell) (index : ℕ) :
    (rowGetField row index).Requests (Reads k ident) := by
  refine .bind (.call .fetchField) fun _ => ?_
  split <;> trivial

lemma getString_reads (row : List Cell) (index : ℕ) :
    (getString row index).Requests (Reads k ident) :=
  .bind (rowGetField_reads row index) fun _ => trivial

lemma getInteger_reads (fieldTo : Cell → Except SqlError α) (row : List Cell) (index : ℕ) :
    (getInteger fieldTo row index).Requests (Reads k ident) := by
  refine .bind (rowGetField_reads row index) fun field => ?_
  cases field with
  | none => trivial
  | some field => exact .bind (.ofExcept _) fun _ => trivial

lemma getNeeded_reads (fieldTo : Cell → Except SqlError α) (row : List Cell) (index : ℕ) :
    (getNeeded fieldTo row index).Requests (Reads k ident) := by
  refine .bind (getInteger_reads fieldTo row index) fun value => ?_
  cases value <;> trivial

lemma getUint32_reads (row : List Cell) (index : ℕ) :
    (getUint32 row index).Requests (Reads k ident) := getInteger_reads _ row index

lemma unescapeBinary_reads (field : Cell) : (unescapeBinary field).Requests (Reads k ident) :=
  .bind (.call (.unescapeBinary field.bytes)) fun _ => trivial

lemma firstRow_reads {f : List Cell → Action α} (hf : ∀ row, (f row).Requests (Reads k ident))
    (table : Option Result) : (firstRow f table).Requests (Reads k ident) := by
  cases table with
  | none => trivial
  | some rows =>
    refine .bind (.call .fetchRow) fun _ => ?_
    cases rows with
    | nil => trivial
    | cons row rows => exact .bind (hf row) fun _ => trivial

lemma forRows_reads {f : Int → List Cell → Action α}
    (hf : ∀ index row, (f index row).Requests (Reads k ident)) (index : Int) (rows : Result) :
    (forRows f index rows).Requests (Reads k ident) := by
  induction rows generalizing index with
  | nil => exact .bind (.call .fetchRow) fun _ => trivial
  | cons row rows ih =>
    exact .bind (.call .fetchRow) fun _ => .bind (hf index row) fun _ =>
      .bind (ih (index + 1)) fun _ => trivial

lemma allRows_reads {f : Int → List Cell → Action α}
    (hf : ∀ index row, (f index row).Requests (Reads k ident)) (table : Option Result) :
    (allRows f table).Requests (Reads k ident) := by
  cases table with
  | none => trivial
  | some rows => exact forRows_reads hf 0 rows

lemma fetchOrEnd_reads {next : Action (List α)} (h : next.Requests (Reads k ident)) :
    (fetchOrEnd next).Requests (Reads k ident) :=
  .bind (Program.Requests.call .fetchRow).attempt fun x => by
    cases x with
    | error e => trivial
    | ok a => exact h

lemma restRows_reads {f : Int → List Cell → Action α}
    (hf : ∀ index row, (f index row).Requests (Reads k ident)) (index : Int) (rows : Result) :
    (restRows f index rows).Requests (Reads k ident) := by
  induction rows generalizing index with
  | nil => exact fetchOrEnd_reads trivial
  | cons row rows ih =>
    exact fetchOrEnd_reads (.bind (hf index row) fun _ => .bind (ih (index + 1)) fun _ => trivial)

lemma objectRows_reads {f : Int → List Cell → Action α}
    (hf : ∀ index row, (f index row).Requests (Reads k ident)) (table : Option Result) :
    (objectRows f table).Requests (Reads k ident) := by
  cases table with
  | none => trivial
  | some rows =>
    cases rows with
    | nil => exact .bind (.call .fetchRow) fun _ => trivial
    | cons row rows =>
      exact .bind (.call .fetchRow) fun _ => .bind (hf 0 row) fun _ =>
        .bind (restRows_reads hf 1 rows) fun _ => trivial

lemma foldRows_reads {f : α → List Cell → Action α}
    (hf : ∀ value row, (f value row).Requests (Reads k ident)) (value : α) (rows : Result) :
    (foldRows f value rows).Requests (Reads k ident) := by
  induction rows generalizing value with
  | nil => exact .bind (.call .fetchRow) fun _ => trivial
  | cons row rows ih =>
    exact .bind (.call .fetchRow) fun _ => .bind (hf value row) fun value => ih value

lemma forIndexed_reads {f : Int → α → Action β}
    (hf : ∀ index x, (f index x).Requests (Reads k ident)) (index : Int) (xs : List α) :
    (forIndexed f index xs).Requests (Reads k ident) := by
  induction xs generalizing index with
  | nil => trivial
  | cons x xs ih =>
    exact .bind (hf index x) fun _ => .bind (ih (index + 1)) fun _ => trivial

lemma messageRowOf_reads {f : List Cell → Action α} (hf : ∀ row, (f row).Requests (Reads k ident))
    (table : Option Result) : (messageRowOf f table).Requests (Reads k ident) := by
  cases table with
  | none => trivial
  | some rows =>
    refine .bind (.call .fetchRow) fun _ => ?_
    cases rows with
    | nil => trivial
    | cons row rows => exact hf row

lemma getStringListed_reads {column : String} (hc : Covers k t w.parentType)
    (hi : w.idents = [ident]) : (getStringListed t column w).Requests (Reads k ident) :=
  .bind (selectOrdered_reads hc hi) fun _ =>
    .bind (allRows_reads (fun _ row => getString_reads row 0) _) fun _ => trivial

variable [L : Libprelude]

lemma getEnum_reads (e : Enumeration) (row : List Cell) (index : ℕ) :
    (getEnum e row index).Requests (Reads k ident) :=
  .bind (rowGetField_reads row index) fun _ => trivial

lemma getTimestamp_reads (row : List Cell) (time gmtoff : ℕ) (usec : Option ℕ) :
    (getTimestamp row time gmtoff usec).Requests (Reads k ident) := by
  refine .bind (rowGetField_reads row time) fun field => ?_
  cases field with
  | none => trivial
  | some field =>
    refine .bind (getNeeded_reads _ row gmtoff) fun _ => ?_
    cases usec with
    | none => exact .bind trivial fun _ => .bind (.ofExcept _) fun _ => .bind (.ofExcept _) fun _ => trivial
    | some index =>
      exact .bind (getNeeded_reads _ row index) fun _ =>
        .bind (.ofExcept _) fun _ => .bind (.ofExcept _) fun _ => trivial

end Rules

section Readers

variable [L : Libprelude]

lemma getTime_reads (hc : Covers k t w.parentType) (hi : w.idents = [ident]) :
    (do let table ← select t timeColumns w
        let time ← firstRow (fun row => getTimestamp row 0 1 (some 2)) table
        pure time.join : Action (Option Time)).Requests (Reads k ident) :=
  .bind (select_reads hc hi) fun table =>
    .bind (firstRow_reads (fun row => getTimestamp_reads row 0 1 (some 2)) table) fun _ => trivial

lemma getAnalyzerTime_reads (k : Kind) :
    (getAnalyzerTime ident k.parentType).Requests (Reads k ident) :=
  getTime_reads (.eq (selects_element (.analyzerTime k))) rfl

lemma getDetectTime_reads : (getDetectTime ident).Requests (Reads .alert ident) :=
  getTime_reads (fun _ _ => rfl) rfl

lemma getCreateTime_reads (k : Kind) :
    (getCreateTime ident k.parentType).Requests (Reads k ident) :=
  getTime_reads (.eq (selects_element (.createTime k))) rfl

lemma fillUserId_reads (userId : UserId) (row : List Cell) :
    (fillUserId userId row).Requests (Reads k ident) :=
  .bind (getString_reads row 0) fun _ => .bind (getEnum_reads _ row 1) fun _ =>
    .bind (getString_reads row 2) fun _ => .bind (getUint32_reads row 3) fun _ =>
    .bind (getString_reads row 4) fun _ => trivial

omit L in
lemma selectUserId_reads (c : Char) (i j l : Int) :
    (selectUserId ident c i j l).Requests (Reads .alert ident) :=
  selectOrdered_reads (.eq rfl) rfl

lemma getUserIdListed_reads (c : Char) (i j l : Int) :
    (getUserIdListed ident c i j l).Requests (Reads .alert ident) :=
  .bind (selectUserId_reads c i j l) (allRows_reads fun _ => fillUserId_reads newUserId)

lemma getUserId_reads (c : Char) (i j l : Int) :
    (getUserId ident c i j l).Requests (Reads .alert ident) := by
  refine .bind (selectUserId_reads c i j l) fun table => ?_
  cases table with
  | none => trivial
  | some rows => exact foldRows_reads fillUserId_reads newUserId rows

lemma getUser_reads (c : Char) (i : Int) : (getUser ident c i).Requests (Reads .alert ident) := by
  refine .bind (select_reads (.eq rfl) rfl) (firstRow_reads fun row => ?_)
  exact .bind (getString_reads row 0) fun _ => .bind (getEnum_reads _ row 1) fun _ =>
    .bind (getUserIdListed_reads c i 0 0) fun _ => trivial

omit L in
lemma getProcess_reads (o : Owner) (i : Int) :
    (getProcess ident o.parentType i).Requests (Reads o.kind ident) := by
  have hp : Covers o.kind .process (.eq o.parentType) := .eq (selects_element (.process o))
  have ha : Covers o.kind .processArg (.eq o.parentType) := .eq (selects_element (.processArg o 0))
  have he : Covers o.kind .processEnv (.eq o.parentType) := .eq (selects_element (.processEnv o 0))
  refine .bind (select_reads hp rfl) (firstRow_reads fun row => ?_)
  exact .bind (getString_reads row 0) fun _ => .bind (getString_reads row 1) fun _ =>
    .bind (getUint32_reads row 2) fun _ => .bind (getString_reads row 3) fun _ =>
    .bind (getStringListed_reads ha rfl) fun _ => .bind (getStringListed_reads he rfl) fun _ => trivial

omit L in
lemma getWebService_reads (c : Char) (i : Int) :
    (getWebService ident c i).Requests (Reads .alert ident) := by
  refine .bind (select_reads (.eq rfl) rfl) (firstRow_reads fun row => ?_)
  exact .bind (getString_reads row 0) fun _ => .bind (getString_reads row 1) fun _ =>
    .bind (getString_reads row 2) fun _ => .bind (getStringListed_reads (.eq rfl) rfl) fun _ => trivial

omit L in
lemma getSnmpService_reads (c : Char) (i : Int) :
    (getSnmpService ident c i).Requests (Reads .alert ident) := by
  refine .bind (select_reads (.eq rfl) rfl) (firstRow_reads fun row => ?_)
  exact .bind (getString_reads row 0) fun _ => .bind (getUint32_reads row 1) fun _ =>
    .bind (getUint32_reads row 2) fun _ => .bind (getString_reads row 3) fun _ =>
    .bind (getUint32_reads row 4) fun _ => .bind (getString_reads row 5) fun _ =>
    .bind (getString_reads row 6) fun _ => .bind (getString_reads row 7) fun _ => trivial

omit L in
lemma getService_reads (c : Char) (i : Int) :
    (getService ident c i).Requests (Reads .alert ident) := by
  refine .bind (select_reads (.eq rfl) rfl).attempt fun ret => ?_
  cases ret with
  | error e => trivial
  | ok table =>
    refine firstRow_reads (fun row => ?_) table
    exact .bind (getString_reads row 0) fun _ => .bind (getInteger_reads _ row 1) fun _ =>
      .bind (getString_reads row 2) fun _ => .bind (getInteger_reads _ row 3) fun _ =>
      .bind (getInteger_reads _ row 4) fun _ => .bind (getString_reads row 5) fun _ =>
      .bind (getString_reads row 6) fun _ => .bind (getString_reads row 7) fun _ =>
      .bind (getWebService_reads c i) fun _ => .bind (getSnmpService_reads c i) fun _ => trivial

lemma getNode_reads (o : Owner) (i : Int) :
    (getNode ident o.parentType i).Requests (Reads o.kind ident) := by
  have hn : Covers o.kind .node (.eq o.parentType) := .eq (selects_element (.node o))
  have ha : Covers o.kind .address (.eq o.parentType) := .eq (selects_element (.address o 0))
  have haddress : (getAddress ident o.parentType i).Requests (Reads o.kind ident) := by
    refine .bind (selectOrdered_reads ha rfl) (allRows_reads fun _ row => ?_)
    exact .bind (getString_reads row 0) fun _ => .bind (getEnum_reads _ row 1) fun _ =>
      .bind (getString_reads row 2) fun _ => .bind (getUint32_reads row 3) fun _ =>
      .bind (getString_reads row 4) fun _ => .bind (getString_reads row 5) fun _ => trivial
  refine .bind (select_reads hn rfl) (firstRow_reads fun row => ?_)
  exact .bind (getString_reads row 0) fun _ => .bind (getEnum_reads _ row 1) fun _ =>
    .bind (getString_reads row 2) fun _ => .bind (getString_reads row 3) fun _ =>
    .bind haddress fun _ => trivial

lemma getAnalyzer_reads (k : Kind) :
    (getAnalyzer ident k.parentType).Requests (Reads k ident) := by
  have hc : Covers k .analyzer (.eq k.parentType) := .eq (selects_element (.analyzer k 0))
  refine .bind (selectOrdered_reads hc rfl) (allRows_reads fun index row => ?_)
  exact .bind (getString_reads row 0) fun _ => .bind (getString_reads row 1) fun _ =>
    .bind (getString_reads row 2) fun _ => .bind (getString_reads row 3) fun _ =>
    .bind (getString_reads row 4) fun _ => .bind (getString_reads row 5) fun _ =>
    .bind (getString_reads row 6) fun _ => .bind (getString_reads row 7) fun _ =>
    .bind (getNode_reads (.analyzer k index) index) fun _ =>
    .bind (getProcess_reads (.analyzer k index) index) fun _ => trivial

lemma getAction_reads : (getAction ident).Requests (Reads .alert ident) := by
  refine .bind (selectOrdered_reads (fun _ _ => rfl) rfl) (allRows_reads fun _ row => ?_)
  exact .bind (getEnum_reads _ row 0) fun _ => .bind (getString_reads row 1) fun _ => trivial

lemma getConfidence_reads : (getConfidence ident).Requests (Reads .alert ident) := by
  refine .bind (select_reads (fun _ _ => rfl) rfl) (firstRow_reads fun row => ?_)
  exact .bind (getEnum_reads _ row 0) fun _ => .bind (getInteger_reads _ row 1) fun _ => trivial

lemma getImpact_reads : (getImpact ident).Requests (Reads .alert ident) := by
  refine .bind (select_reads (fun _ _ => rfl) rfl) (firstRow_reads fun row => ?_)
  exact .bind (getEnum_reads _ row 0) fun _ => .bind (getEnum_reads _ row 1) fun _ =>
    .bind (getEnum_reads _ row 2) fun _ => .bind (getString_reads row 3) fun _ => trivial

lemma getAssessment_reads : (getAssessment ident).Requests (Reads .alert ident) := by
  refine .bind (select_reads (fun _ _ => rfl) rfl) fun table => ?_
  cases table with
  | none => trivial
  | some _ =>
    exact .bind getImpact_reads fun _ => .bind getConfidence_reads fun _ =>
      .bind getAction_reads fun _ => trivial

lemma getFileAccess_reads (i j : Int) : (getFileAccess ident i j).Requests (Reads .alert ident) := by
  refine .bind (.call (.count (fun _ _ => rfl) rfl)) fun table =>
    .bind (firstRow_reads (fun row => getUint32_reads row 0) table) fun count => ?_
  cases count.join with
  | none => trivial
  | some count =>
    refine forIndexed_reads (fun cnt _ => ?_) 0 _
    exact .bind (getUserId_reads 'F' i j cnt) fun _ =>
      .bind (getStringListed_reads (fun _ _ => rfl) rfl) fun _ => trivial

lemma getLinkage_reads (i j : Int) : (getLinkage ident i j).Requests (Reads .alert ident) := by
  refine .bind (selectOrdered_reads (fun _ _ => rfl) rfl) (allRows_reads fun _ row => ?_)
  exact .bind (getEnum_reads _ row 0) fun _ => .bind (getString_reads row 1) fun _ =>
    .bind (getString_reads row 2) fun _ => trivial

lemma getInode_reads (i j : Int) : (getInode ident i j).Requests (Reads .alert ident) := by
  refine .bind (select_reads (fun _ _ => rfl) rfl) (firstRow_reads fun row => ?_)
  exact .bind (getTimestamp_reads row 0 1 none) fun _ => .bind (getUint32_reads row 2) fun _ =>
    .bind (getUint32_reads row 3) fun _ => .bind (getUint32_reads row 4) fun _ =>
    .bind (getUint32_reads row 5) fun _ => .bind (getUint32_reads row 6) fun _ => trivial

lemma getChecksum_reads (i j : Int) : (getChecksum ident i j).Requests (Reads .alert ident) := by
  refine .bind (selectOrdered_reads (fun _ _ => rfl) rfl) (allRows_reads fun _ row => ?_)
  exact .bind (getString_reads row 0) fun _ => .bind (getString_reads row 1) fun _ =>
    .bind (getEnum_reads _ row 2) fun _ => trivial

lemma getFileRow_reads (row : List Cell) : (getFileRow row).Requests (Reads k ident) :=
  .bind (getString_reads row 0) fun _ => .bind (getEnum_reads _ row 1) fun _ =>
    .bind (getString_reads row 2) fun _ => .bind (getString_reads row 3) fun _ =>
    .bind (getTimestamp_reads row 4 5 none) fun _ => .bind (getTimestamp_reads row 6 7 none) fun _ =>
    .bind (getTimestamp_reads row 8 9 none) fun _ => .bind (getUint32_reads row 10) fun _ =>
    .bind (getUint32_reads row 11) fun _ => .bind (getEnum_reads _ row 12) fun _ =>
    .bind (getString_reads row 13) fun _ => trivial

lemma getFile_reads (i : Int) : (getFile ident i).Requests (Reads .alert ident) := by
  refine .bind (selectOrdered_reads (fun _ _ => rfl) rfl) fun table =>
    .bind (objectRows_reads (fun _ => getFileRow_reads) table) (forIndexed_reads (fun cnt _ => ?_) 0)
  exact .bind (getFileAccess_reads i cnt) fun _ => .bind (getLinkage_reads i cnt) fun _ =>
    .bind (getInode_reads i cnt) fun _ => .bind (getChecksum_reads i cnt) fun _ => trivial

lemma getSource_reads : (getSource ident).Requests (Reads .alert ident) := by
  refine .bind (selectOrdered_reads (fun _ _ => rfl) rfl) fun table =>
    .bind (objectRows_reads (fun _ row => ?_) table) (forIndexed_reads (fun cnt _ => ?_) 0)
  · exact .bind (getString_reads row 0) fun _ => .bind (getEnum_reads _ row 1) fun _ =>
      .bind (getString_reads row 2) fun _ => trivial
  · exact .bind (getNode_reads (.party (.source cnt)) cnt) fun _ =>
      .bind (getUser_reads 'S' cnt) fun _ =>
      .bind (getProcess_reads (.party (.source cnt)) cnt) fun _ =>
      .bind (getService_reads 'S' cnt) fun _ => trivial

lemma getTarget_reads : (getTarget ident).Requests (Reads .alert ident) := by
  refine .bind (selectOrdered_reads (fun _ _ => rfl) rfl) fun table =>
    .bind (objectRows_reads (fun _ row => ?_) table) (forIndexed_reads (fun cnt _ => ?_) 0)
  · exact .bind (getString_reads row 0) fun _ => .bind (getEnum_reads _ row 1) fun _ =>
      .bind (getString_reads row 2) fun _ => trivial
  · exact .bind (getNode_reads (.party (.target cnt)) cnt) fun _ =>
      .bind (getUser_reads 'T' cnt) fun _ =>
      .bind (getProcess_reads (.party (.target cnt)) cnt) fun _ =>
      .bind (getService_reads 'T' cnt) fun _ => .bind (getFile_reads cnt) fun _ => trivial

lemma additionalDataRows_reads (rows : Result) :
    (additionalDataRows rows).Requests (Reads k ident) := by
  induction rows with
  | nil => exact .bind (.call .fetchRow) fun _ => trivial
  | cons row rows ih =>
    refine .bind (.call .fetchRow) fun _ => .bind (getEnum_reads _ row 0) fun _ =>
      .bind (getString_reads row 1) fun _ => .bind (rowGetField_reads row 2) fun field => ?_
    cases field with
    | none => trivial
    | some field =>
      exact .bind (unescapeBinary_reads field) fun _ => .bind (.ofExcept _) fun _ =>
        .bind ih fun _ => trivial

lemma getAdditionalData_reads (k : Kind) :
    (getAdditionalData ident k.parentType).Requests (Reads k ident) := by
  have hc : Covers k .additionalData (.eq k.parentType) := .eq (selects_element (.additionalData k 0))
  refine .bind (selectOrdered_reads hc rfl) fun table => ?_
  cases table with
  | none => trivial
  | some rows => exact additionalDataRows_reads rows

lemma getClassification_reads : (getClassification ident).Requests (Reads .alert ident) := by
  have hreference : (getReference ident).Requests (Reads .alert ident) := by
    refine .bind (selectOrdered_reads (fun _ _ => rfl) rfl) (allRows_reads fun _ row => ?_)
    exact .bind (getEnum_reads _ row 0) fun _ => .bind (getString_reads row 1) fun _ =>
      .bind (getString_reads row 2) fun _ => .bind (getString_reads row 3) fun _ => trivial
  refine .bind (select_reads (fun _ _ => rfl) rfl) (firstRow_reads fun row => ?_)
  exact .bind (getString_reads row 0) fun _ => .bind (getString_reads row 1) fun _ =>
    .bind hreference fun _ => trivial

omit L in
lemma getAlertident_reads (c : Char) : (getAlertident ident c).Requests (Reads .alert ident) := by
  refine .bind (selectOrdered_reads (.eq rfl) rfl) (allRows_reads fun _ row => ?_)
  exact .bind (getString_reads row 0) fun _ => .bind (getString_reads row 1) fun _ => trivial

omit L in
lemma getToolAlert_reads : (getToolAlert ident).Requests (Reads .alert ident) := by
  refine .bind (select_reads (fun _ _ => rfl) rfl) (firstRow_reads fun row => ?_)
  exact .bind (getString_reads row 0) fun _ => .bind (getString_reads row 1) fun _ =>
    .bind (getAlertident_reads 'T') fun _ => trivial

omit L in
lemma getCorrelationAlert_reads : (getCorrelationAlert ident).Requests (Reads .alert ident) := by
  refine .bind (select_reads (fun _ _ => rfl) rfl) (firstRow_reads fun row => ?_)
  exact .bind (getString_reads row 0) fun _ => .bind (getAlertident_reads 'C') fun _ => trivial

omit L in
lemma getOverflowAlert_reads : (getOverflowAlert ident).Requests (Reads .alert ident) := by
  refine .bind (select_reads (fun _ _ => rfl) rfl) (firstRow_reads fun row => ?_)
  refine .bind (getString_reads row 0) fun _ => .bind (getUint32_reads row 1) fun _ =>
    .bind (rowGetField_reads row 2) fun field => ?_
  cases field with
  | none => trivial
  | some field => exact .bind (unescapeBinary_reads field) fun _ => trivial

lemma classicGetAlert_reads : (classicGetAlert ident).Requests (Reads .alert ident) := by
  have hmessageid : (getAlertMessageid ident).Requests (Reads .alert ident) :=
    .bind (select_reads (fun _ _ => rfl) rfl) (messageRowOf_reads fun row => getString_reads row 0)
  exact .bind hmessageid fun _ => .bind getAssessment_reads fun _ =>
    .bind (getAnalyzer_reads .alert) fun _ => .bind (getCreateTime_reads .alert) fun _ =>
    .bind getDetectTime_reads fun _ => .bind (getAnalyzerTime_reads .alert) fun _ =>
    .bind getSource_reads fun _ => .bind getTarget_reads fun _ =>
    .bind getClassification_reads fun _ => .bind (getAdditionalData_reads .alert) fun _ =>
    .bind getToolAlert_reads fun _ => .bind getCorrelationAlert_reads fun _ =>
    .bind getOverflowAlert_reads fun _ => trivial

lemma classicGetHeartbeat_reads :
    (classicGetHeartbeat ident).Requests (Reads .heartbeat ident) := by
  have hmessage : (getHeartbeat ident).Requests (Reads .heartbeat ident) := by
    refine .bind (select_reads (fun _ _ => rfl) rfl) (messageRowOf_reads fun row => ?_)
    exact .bind (getString_reads row 0) fun _ => .bind (getUint32_reads row 1) fun _ => trivial
  exact .bind hmessage fun _ => .bind (getAnalyzer_reads .heartbeat) fun _ =>
    .bind (getCreateTime_reads .heartbeat) fun _ => .bind (getAnalyzerTime_reads .heartbeat) fun _ =>
    .bind (getAdditionalData_reads .heartbeat) fun _ => trivial

lemma classicGet_reads (k : Kind) (ident : ℕ) :
    (classicGet k ident).Requests (Reads k ident) := by
  cases k with
  | alert => exact .bind classicGetAlert_reads fun _ => trivial
  | heartbeat => exact .bind classicGetHeartbeat_reads fun _ => trivial

end Readers

section Rows

variable {b : Backend} {d d' : Database}

/-- The row is one of the message, for the deletion of the message. -/
def mine (k : Kind) (ident : ℕ) (t : Table) (r : Row) : Bool :=
  decide (r.messageIdent = ident) && selects (deleteQueries k) t r.parentType

def rowsOf (k : Kind) (ident : ℕ) (d : Database) (t : Table) : List Row :=
  (d.tables t).filter (mine k ident t)

lemma filter_holds (hc : Covers k t w.parentType) (hi : w.idents = [ident]) :
    (d.tables t).filter w.holds = (rowsOf k ident d t).filter w.holds := by
  rw [rowsOf, List.filter_filter]
  refine List.filter_congr fun r _ => ?_
  cases hw : w.holds r with
  | false => rfl
  | true =>
    obtain ⟨hident, hsel⟩ := holds_imp hc hi hw
    simp [mine, hident, hsel]

/-- A reader sees the rows of its message, and leaves all rows. -/
lemma Reads.serve {r : Request} (hr : Reads k ident r) (h : rowsOf k ident d = rowsOf k ident d') :
    (Classic.serve b r d).1 = (Classic.serve b r d').1 ∧ (Classic.serve b r d).2 = d ∧
      (Classic.serve b r d').2 = d' := by
  have hfilter {t : Table} {w : Where} (hc : Covers k t w.parentType) (hi : w.idents = [ident]) :
      (d.tables t).filter w.holds = (d'.tables t).filter w.holds := by
    rw [filter_holds hc hi, filter_holds hc hi, h]
  cases hr with
  | @select t w columns ordered hc hi =>
    have hselect : d.select t w ordered = d'.select t w ordered := by
      rw [Database.select, Database.select, hfilter hc hi]
    have hexec : exec b d (.select t columns w ordered) = exec b d' (.select t columns w ordered) := by
      rw [exec, exec, hselect]
    exact ⟨congrArg (fun x : Option Result × List Write => Except.ok x.1) hexec, rfl, rfl⟩
  | @count t w hc hi =>
    have hcount : (d.tables t).countP w.holds = (d'.tables t).countP w.holds := by
      rw [List.countP_eq_length_filter, List.countP_eq_length_filter, hfilter hc hi]
    have hexec : exec b d (.count t w) = exec b d' (.count t w) := by
      rw [exec, exec, hcount]
    exact ⟨congrArg (fun x : Option Result × List Write => Except.ok x.1) hexec, rfl, rfl⟩
  | fetchRow | fetchField | unescapeBinary input => exact ⟨rfl, rfl, rfl⟩

lemma run_of_rowsOf {α : Type} {a : Action α} (hq : a.Requests (Reads k ident))
    (h : rowsOf k ident d = rowsOf k ident d') :
    (a.run (serve b) d).1 = (a.run (serve b) d').1 :=
  (hq.run_related (serve b) (serve b) (R := fun d d' => rowsOf k ident d = rowsOf k ident d')
    (fun r d d' hr h => by
      obtain ⟨hx, hd, hd'⟩ := hr.serve (b := b) h
      exact ⟨hx, by rw [hd, hd', h]⟩) h).1

/-- The queries that delete the messages of the two kinds pass over each other's rows. -/
lemma selects_disjoint {parentType : Option Char}
    (h : selects (deleteQueries k) t parentType = true) :
    selects (deleteQueries k.other) t parentType = false := by
  have hheartbeat : ∀ q ∈ deleteHeartbeatQueries, q.2.holds parentType = true →
      selects deleteAlertQueries q.1 parentType = false := by
    intro q hq hp
    have htest : parentType = some 'H' ∨ q = (.heartbeat, .any) := by
      fin_cases hq <;> first | exact .inr rfl | exact .inl (by simpa [TypeTest.holds] using hp)
    rcases htest with rfl | rfl
    · fin_cases hq <;> rfl
    · rfl
  have hselects : ¬ (selects deleteHeartbeatQueries t parentType = true ∧
      selects deleteAlertQueries t parentType = true) := by
    rintro ⟨hh, ha⟩
    obtain ⟨q, hq, hp⟩ := List.any_eq_true.mp hh
    obtain ⟨rfl, htest⟩ : q.1 = t ∧ q.2.holds parentType = true := by simpa using hp
    rw [hheartbeat q hq htest] at ha
    cases ha
  cases k with
  | alert => exact Bool.eq_false_iff.mpr fun hh => hselects ⟨hh, h⟩
  | heartbeat => exact Bool.eq_false_iff.mpr fun ha => hselects ⟨h, ha⟩

/-- No row belongs to two messages. -/
lemma mine_eq_false {k' : Kind} {ident' : ℕ} {r : Row} (hother : (k', ident') ≠ (k, ident))
    (h : mine k' ident' t r = true) : mine k ident t r = false := by
  obtain ⟨rfl, hsel⟩ : r.messageIdent = ident' ∧ selects (deleteQueries k') t r.parentType = true := by
    simpa [mine] using h
  by_cases hk : k' = k
  · subst hk
    have hident : r.messageIdent ≠ ident := fun hi => hother (congrArg (Prod.mk k') hi)
    rw [mine, decide_eq_false hident, Bool.false_and]
  · have hk' : k = k'.other := by cases k <;> cases k' <;> first | rfl | exact absurd rfl hk
    rw [mine, hk', selects_disjoint hsel, Bool.and_false]

lemma RowOf.mine {r : Row} (h : RowOf k t r) : Classic.mine k r.messageIdent t r = true := by
  rw [Classic.mine, h.selects, decide_eq_true rfl]
  rfl

lemma rowsOf_insert {r : Row} (h : mine k ident t r = false) :
    rowsOf k ident (d.write (.insert t r)) = rowsOf k ident d := by
  funext t'
  exact TableWrite.filter_apply_insert fun ht => ht ▸ h

lemma rowsOf_delete {q : Row → Bool} (h : ∀ r, mine k ident t r = true → q r = false) :
    rowsOf k ident (d.write (.delete t q)) = rowsOf k ident d := by
  funext t'
  refine TableWrite.filter_apply_delete fun ht r hr => ?_
  subst ht
  exact h r hr

variable {k' : Kind} {ident' : ℕ}

lemma Stores.rowsOf {r : Request} (hr : Stores k' ident' r) (hother : (k', ident') ≠ (k, ident)) :
    Classic.rowsOf k ident (Classic.serve b r d).2 = Classic.rowsOf k ident d := by
  cases hr with
  | escapeFast input | escapeBinary input => rfl
  | insert e fields h =>
    have hrow : RowOf k' e.table (e.row ident' fields) := .inr ⟨e, h, rfl, rfl⟩
    exact rowsOf_insert (mine_eq_false hother hrow.mine)

lemma deletion_rowsOf (hother : (k', ident') ≠ (k, ident)) (queries : List (Table × TypeTest))
    (hq : queries ⊆ deleteQueries k') :
    rowsOf k ident ((Program.calls (queries.map (deletion [ident']))).run (serve b) d).2 =
      rowsOf k ident d := by
  rw [deletions_serve]
  simp only
  induction queries generalizing d with
  | nil => rfl
  | cons q queries ih =>
    obtain ⟨hmem, hrest⟩ := List.cons_subset.mp hq
    rw [List.map_cons, List.foldl_cons, ih hrest]
    refine rowsOf_delete fun r hr => ?_
    by_contra hw
    obtain ⟨hident, htest⟩ : r.messageIdent = ident' ∧ q.2.holds r.parentType = true := by
      simpa [Where.holds, IndexTest.holds, List.isPrefixOf] using hw
    have hmine : mine k' ident' q.1 r = true := by
      rw [mine, decide_eq_true hident, selects, List.any_eq_true.mpr ⟨q, hmem, by simp [htest]⟩]
      rfl
    rw [mine_eq_false hother hmine] at hr
    cases hr

variable [L : Libprelude]

lemma insertOf_rowsOf (m : Message) (hother : (kindOf m, d.counter (kindOf m)) ≠ (k, ident)) :
    rowsOf k ident ((insertOf m).run (serve b) d).2 = rowsOf k ident d := by
  have hescape : serve b (.escapeFast (messageidOf m)) d = (.ok (), d) := rfl
  have htop := insertMessage_serve b d (kindOf m) (topFields m)
  have hrow : RowOf (kindOf m) (kindOf m).table (messageRow d (kindOf m) (topFields m)) :=
    .inl ⟨rfl, rfl⟩
  have hinsert : rowsOf k ident (d.write (.insert (kindOf m).table
      (messageRow d (kindOf m) (topFields m)))) = rowsOf k ident d :=
    rowsOf_insert (mine_eq_false hother hrow.mine)
  rw [insertOf_eq, Program.run_bind, Program.run_call, hescape]
  simp only [Program.run_bind]
  rcases hid : fieldToUint64 (.number (d.counter (kindOf m))) with e | i
  · rw [hid] at htop
    rw [htop]
    exact hinsert
  · obtain ⟨-, rfl⟩ := fieldToUint64_natCast.mp hid
    rw [hid] at htop
    rw [htop]
    have hstore : (Entry.store (d.counter (kindOf m)) (entriesOf m)).Requests
        (Stores (kindOf m) (d.counter (kindOf m))) := store_requests (entriesOf_fits m)
    exact hstore.run_preserves (serve b) (I := fun d' => rowsOf k ident d' = rowsOf k ident d)
      (fun r d' hr h => (hr.rowsOf hother).trans h) hinsert

end Rows

/-- What another client of the format does: it stores a message that is not given the ident of the
one that is read, or deletes one that is not stored under it. -/
inductive Elsewhere [L : Libprelude] (k : Kind) (ident : ℕ) (d : Database) : Action Unit → Prop
  | insert (m : Message) (h : (kindOf m, d.counter (kindOf m)) ≠ (k, ident)) :
      Elsewhere k ident d (classicInsert m)
  | delete (k' : Kind) (ident' : ℕ) (h : (k', ident') ≠ (k, ident)) :
      Elsewhere k ident d (classicDelete k' ident')

section

variable [L : Libprelude] {b : Backend} {p : Pattern} {world : World} {d : Database}

lemma Elsewhere.rowsOf {a : Action Unit} (ha : Elsewhere k ident d a) (hp : Faultless p)
    (h : Serving d world.session) :
    ∃ d', Serving d' (run b p a world).2.session ∧
      Classic.rowsOf k ident d' = Classic.rowsOf k ident d := by
  cases ha with
  | insert m hother =>
    obtain ⟨d', hd', hcases⟩ := inTransaction_serving (b := b) hp
      ((insertOf_requests m).mono fun r hr => hr.inner) h
    refine ⟨d', hd', ?_⟩
    rcases hcases with rfl | rfl
    · rfl
    · exact insertOf_rowsOf m hother
  | delete k' ident' hother =>
    have hinner : (Program.calls ((deleteQueries k').map (deletion [ident'])) :
        Action Unit).Requests fun r => r.inner = true :=
      Program.calls_requests fun r hr => by
        obtain ⟨q, -, rfl⟩ := List.mem_map.mp hr
        rfl
    obtain ⟨d', hd', hcases⟩ := inTransaction_serving (b := b) hp hinner h
    rw [classicDelete_eq, deleteMessage]
    refine ⟨d', hd', ?_⟩
    rcases hcases with rfl | rfl
    · rfl
    · exact deletion_rowsOf hother (deleteQueries k') (List.Subset.refl _)

/-- A message is read the same before and after another one is stored or deleted, and no SELECT of
its reader sees a row of another message. -/
theorem classicGet_isolated (k : Kind) (ident : ℕ) :
    (classicGet k ident).Requests (Restricted k ident) ∧
      ∀ (b : Backend) (p : Pattern) (d : Database) (w : World) (a : Action Unit), Faultless p →
        Serving d w.session → Elsewhere k ident d a →
        (run b p (classicGet k ident) (run b p a w).2).1 = (run b p (classicGet k ident) w).1 := by
  have hreads := classicGet_reads k ident
  refine ⟨hreads.mono fun r hr => hr.restricted, fun b p d w a hp h ha => ?_⟩
  have hinner := hreads.mono fun r hr => hr.inner
  obtain ⟨d', hd', hrows⟩ := ha.rowsOf (b := b) hp h
  rw [(hd'.run (b := b) hp hinner).1, (h.run (b := b) hp hinner).1]
  exact run_of_rowsOf hreads hrows

end

/-- A stored alert and the heartbeat that gets the same ident. -/
theorem classicGet_isolated_same_ident :
    let stored := (run .mysql (fun _ _ => .ok)
      (classicInsert (L := bareLibrary) (.alert classifiedAlert)) newWorld).2
    (run .mysql (fun _ _ => .ok) (classicGet (L := bareLibrary) .alert 1)
      (run .mysql (fun _ _ => .ok)
        (classicInsert (L := bareLibrary) (.heartbeat ⟨none, [], ⟨0, 0, 0⟩, none, none, []⟩))
        stored).2).1 =
    (run .mysql (fun _ _ => .ok) (classicGet (L := bareLibrary) .alert 1) stored).1 := by
  have hp : Faultless fun _ _ => .ok := fun _ _ => rfl
  have hnew : Serving Database.empty newWorld.session := .idle rfl rfl rfl rfl
  obtain ⟨d, hd, -⟩ := inTransaction_serving (b := .mysql) hp
    ((insertOf_requests (L := bareLibrary) (.alert classifiedAlert)).mono fun r hr => hr.inner) hnew
  exact (classicGet_isolated (L := bareLibrary) .alert 1).2 .mysql _ d _ _ hp hd
    (.insert (L := bareLibrary) _ fun h => by cases congrArg Prod.fst h)

end Preludedb.Classic
