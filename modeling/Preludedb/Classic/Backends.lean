import Preludedb.Foundations.Agreement
import Preludedb.Classic.Isolation

/-! Reading the same content through the three SQL plugins. They give the readers the same rows,
but not the same answer to a SELECT without rows, nor the same field where a text is empty. -/

namespace Preludedb.Classic

open Foundations Sql Idmef

variable {k : Kind} {ident : ℕ} {t : Table} {w : Where} {d : Database} {b b' : Backend}
  {texts : List ℕ}

/-- A field without bytes that is not null. -/
def Cell.Empty (c : Cell) : Prop := c = .text "" ∨ c = .blob []

instance (c : Cell) : Decidable c.Empty := inferInstanceAs (Decidable (_ ∨ _))

/-- The columns of the required attributes, which a new object has as empty texts. -/
def requiredTexts : Table → List String
  | .process => ["name"]
  | .webService => ["url"]
  | .address => ["address"]
  | .linkage => ["name", "path"]
  | .checksum => ["value"]
  | .reference => ["name", "url"]
  | .classification => ["text"]
  | .alertident => ["alertident"]
  | .toolAlert => ["name"]
  | .correlationAlert => ["name"]
  | .overflowAlert => ["program"]
  | .file => ["name", "path"]
  | _ => []

/-- No optional attribute of the message is stored as an empty text. -/
def NoEmptyText (k : Kind) (ident : ℕ) (d : Database) : Prop :=
  ∀ t, ∀ r ∈ rowsOf k ident d t, ∀ name, (r.column name).Empty → name ∈ requiredTexts t

section Cells

lemma Row.column_not_empty {r : Row} (h : ∀ f ∈ r.fields, ¬ f.2.Empty) (name : String) :
    ¬ (r.column name).Empty := by
  unfold Row.column
  split
  · simp [Cell.Empty]
  · simp [Cell.Empty]
  · cases r.index <;> simp [Cell.Empty]
  · cases hf : r.fields.lookup name with
    | none => simp [Cell.Empty]
    | some c =>
      obtain ⟨before, after, hfields, -⟩ := List.lookup_eq_some_iff.mp hf
      exact h (name, c) (by simp [hfields])

lemma Backend.field_eq {c : Cell} (h : ¬ c.Empty) : b.field c = c := by
  cases b with
  | mysql | pgsql => rfl
  | sqlite3 =>
    unfold Backend.field
    split
    · exact absurd (.inl rfl) h
    · exact absurd (.inr rfl) h
    · rfl

lemma Backend.field_value (c : Cell) : (b.field c).value = c.value := by
  cases b with
  | mysql | pgsql => rfl
  | sqlite3 =>
    unfold Backend.field
    split <;> rfl

/-- Two rows a reader cannot tell apart, the required texts aside: there a null field and an empty
text may meet. -/
structure SameRow (texts : List ℕ) (row row' : List Cell) : Prop where
  field : ∀ i, texts.contains i = false → row.getD i .null = row'.getD i .null
  value : ∀ i, (row.getD i .null).value = (row'.getD i .null).value

lemma project_getD {columns : List String} {r : Row} (i : ℕ) :
    (project b columns r).getD i .null =
      (columns[i]?.map fun name => b.field (r.column name)).getD .null := by
  rw [project, List.getD_eq_getElem?_getD, List.getElem?_map]

/-- The positions of the required texts among the columns of a SELECT. -/
def textsAt (t : Table) (columns : List String) : List ℕ :=
  (List.range columns.length).filter fun i => (requiredTexts t).contains (columns.getD i "")

lemma sameRow_project {columns : List String} {r : Row}
    (hr : ∀ name, (r.column name).Empty → name ∈ requiredTexts t)
    (ht : textsAt t columns = texts) :
    SameRow texts (project b columns r) (project b' columns r) := by
  constructor
  · intro i hi
    rw [project_getD, project_getD]
    by_cases hlen : i < columns.length
    · have hname : ¬ (r.column columns[i]).Empty := fun he => by
        have htext : i ∈ texts := by
          rw [← ht, textsAt]
          simpa [hlen] using hr _ he
        simp [htext] at hi
      rw [List.getElem?_eq_getElem hlen, Option.map_some, Option.map_some, Backend.field_eq hname,
        Backend.field_eq hname]
    · rw [List.getElem?_eq_none (by omega)]
      rfl
  · intro i
    rw [project_getD, project_getD]
    cases columns[i]? with
    | none => rfl
    | some name => exact (Backend.field_value _).trans (Backend.field_value _).symm

/-- Two results with the same rows; no result and a result without rows are not told apart. -/
def SameRows (texts : List ℕ) (table table' : Option Result) : Prop :=
  List.Forall₂ (SameRow texts) (table.getD []) (table'.getD [])

lemma Backend.result_getD (rows : Result) : (b.result rows).getD [] = rows := by
  unfold Backend.result
  split
  next h => rw [List.isEmpty_iff.mp h.1]; rfl
  next => rfl

lemma Backend.result_of_ne_nil {rows : Result} (h : rows ≠ []) : b.result rows = some rows := by
  rw [Backend.result, if_neg fun hr => h (List.isEmpty_iff.mp hr.1)]

lemma mem_select {r : Row} {ordered : Bool} (h : r ∈ d.select t w ordered) :
    r ∈ d.tables t ∧ w.holds r = true := by
  cases ordered with
  | false => exact List.mem_filter.mp h
  | true => exact List.mem_filter.mp (List.mem_mergeSort.mp h)

lemma forall₂_map {α β : Type} {R : β → β → Prop} {f g : α → β} {xs : List α}
    (h : ∀ x ∈ xs, R (f x) (g x)) : List.Forall₂ R (xs.map f) (xs.map g) := by
  rw [List.forall₂_map_left_iff, List.forall₂_map_right_iff]
  exact List.forall₂_same.mpr h

end Cells

section Rules

variable {α β : Type}

/-- Reading the content through two plugins. -/
abbrev SameRead {α β : Type} (b b' : Backend) (d : Database) (post : α → β → Prop) (p : Action α)
    (q : Action β) : Prop :=
  Program.Agree (serve b) (serve b') d d post p q

lemma rowGetField_same {row row' : List Cell} {i : ℕ} (h : row.getD i .null = row'.getD i .null) :
    SameRead b b' d Eq (rowGetField row i) (rowGetField row' i) := by
  unfold rowGetField
  refine .next (.call rfl rfl (.ok rfl)) fun _ => ?_
  rw [h]
  split <;> exact .done rfl

lemma getString_same {row row' : List Cell} {i : ℕ} (h : row.getD i .null = row'.getD i .null) :
    SameRead b b' d Eq (getString row i) (getString row' i) :=
  .next (rowGetField_same h) fun _ => .done rfl

/-- A required text is the same; only that it is null may differ. -/
lemma getText_same {row row' : List Cell} {i : ℕ}
    (h : (row.getD i .null).value = (row'.getD i .null).value) :
    SameRead b b' d (fun x y => x.getD "" = y.getD "") (getString row i) (getString row' i) := by
  have hfield : SameRead b b' d (fun x y => (x.map Cell.value).getD "" = (y.map Cell.value).getD "")
      (rowGetField row i) (rowGetField row' i) := by
    unfold rowGetField
    refine .next (.call rfl rfl (.ok rfl)) fun _ => ?_
    generalize row.getD i .null = c at h ⊢
    generalize row'.getD i .null = c' at h ⊢
    cases c <;> cases c' <;> exact .done h
  exact .bind hfield fun _ _ h => .done h

lemma getInteger_same (fieldTo : Cell → Except SqlError α) {row row' : List Cell} {i : ℕ}
    (h : row.getD i .null = row'.getD i .null) :
    SameRead b b' d Eq (getInteger fieldTo row i) (getInteger fieldTo row' i) := by
  refine .next (rowGetField_same h) fun field => ?_
  cases field with
  | none => exact .done rfl
  | some field => exact .next (.ofExcept (.refl _)) fun _ => .done rfl

lemma getNeeded_same (fieldTo : Cell → Except SqlError α) {row row' : List Cell} {i : ℕ}
    (h : row.getD i .null = row'.getD i .null) :
    SameRead b b' d Eq (getNeeded fieldTo row i) (getNeeded fieldTo row' i) := by
  refine .next (getInteger_same fieldTo h) fun value => ?_
  cases value with
  | none => exact .fail _
  | some value => exact .done rfl

lemma unescapeBinary_same (field : Cell) :
    SameRead b b' d Eq (unescapeBinary field) (unescapeBinary field) :=
  .next (.call rfl rfl (.ok rfl)) fun _ => .done rfl

variable {table table' : Option Result}

/-- A reader that takes no result for a result without rows. -/
lemma rows_same {f : Option Result → Action α} (h : SameRows texts table table')
    (hnone : ∀ b : Backend, (f none).run (serve b) d = (f (some [])).run (serve b) d)
    (hf : ∀ {rows rows' : Result}, List.Forall₂ (SameRow texts) rows rows' →
      SameRead b b' d Eq (f (some rows)) (f (some rows'))) :
    SameRead b b' d Eq (f table) (f table') := by
  have hrun : ∀ (b : Backend) (table : Option Result),
      (f table).run (serve b) d = (f (some (table.getD []))).run (serve b) d := fun b table => by
    cases table with
    | none => exact hnone b
    | some rows => rfl
  exact (hf h).congr (hrun b table) (hrun b' table')

lemma firstRow_same {f : List Cell → Action α} (h : SameRows texts table table')
    (hf : ∀ {row row'}, SameRow texts row row' → SameRead b b' d Eq (f row) (f row')) :
    SameRead b b' d Eq (firstRow f table) (firstRow f table') := by
  refine rows_same h (fun _ => rfl) fun h => .next (.call rfl rfl (.ok rfl)) fun _ => ?_
  cases h with
  | nil => exact .done rfl
  | cons hrow _ => exact .next (hf hrow) fun _ => .done rfl

lemma forRows_same {f : Int → List Cell → Action α} {rows rows' : Result}
    (h : List.Forall₂ (SameRow texts) rows rows')
    (hf : ∀ index {row row'}, SameRow texts row row' →
      SameRead b b' d Eq (f index row) (f index row')) (index : Int) :
    SameRead b b' d Eq (forRows f index rows) (forRows f index rows') := by
  induction h generalizing index with
  | nil => exact .next (.call rfl rfl (.ok rfl)) fun _ => .done rfl
  | cons hrow _ ih =>
    exact .next (.call rfl rfl (.ok rfl)) fun _ => .next (hf index hrow) fun _ =>
      .next (ih (index + 1)) fun _ => .done rfl

lemma allRows_same {f : Int → List Cell → Action α} (h : SameRows texts table table')
    (hf : ∀ index {row row'}, SameRow texts row row' →
      SameRead b b' d Eq (f index row) (f index row')) :
    SameRead b b' d Eq (allRows f table) (allRows f table') :=
  rows_same h (fun _ => rfl) fun h => forRows_same h hf 0

lemma restRows_run (f : Int → List Cell → Action α) (index : Int) (rows : Result) (d : Database) :
    (restRows f index rows).run (serve b) d = (forRows f index rows).run (serve b) d := by
  induction rows generalizing index d with
  | nil => rfl
  | cons row rows ih =>
    have hrest : (f index row >>= fun value => restRows f (index + 1) rows >>= fun values =>
        pure (value :: values)).run (serve b) d = (f index row >>= fun value =>
          forRows f (index + 1) rows >>= fun values => pure (value :: values)).run (serve b) d :=
      Program.run_bind_congr rfl fun value d => Program.run_bind_congr (ih (index + 1) d) fun _ _ => rfl
    exact hrest

/-- A server answers every fetch, so the two loops read the same. -/
lemma objectRows_run (f : Int → List Cell → Action α) (table : Option Result) (d : Database) :
    (objectRows f table).run (serve b) d = (allRows f table).run (serve b) d := by
  cases table with
  | none => rfl
  | some rows =>
    cases rows with
    | nil => rfl
    | cons row rows =>
      have hrest : (f 0 row >>= fun value => restRows f 1 rows >>= fun values =>
          pure (value :: values)).run (serve b) d = (f 0 row >>= fun value =>
            forRows f (0 + 1) rows >>= fun values => pure (value :: values)).run (serve b) d :=
        Program.run_bind_congr rfl fun value d => Program.run_bind_congr (restRows_run f 1 rows d) fun _ _ => rfl
      exact hrest

lemma objectRows_same {f : Int → List Cell → Action α} (h : SameRows texts table table')
    (hf : ∀ index {row row'}, SameRow texts row row' →
      SameRead b b' d Eq (f index row) (f index row')) :
    SameRead b b' d Eq (objectRows f table) (objectRows f table') :=
  (allRows_same h hf).congr (objectRows_run f table d) (objectRows_run f table' d)

lemma foldRows_same {f : α → List Cell → Action α} {rows rows' : Result}
    (h : List.Forall₂ (SameRow texts) rows rows')
    (hf : ∀ value {row row'}, SameRow texts row row' →
      SameRead b b' d Eq (f value row) (f value row')) (value : α) :
    SameRead b b' d Eq (foldRows f value rows) (foldRows f value rows') := by
  induction h generalizing value with
  | nil => exact .next (.call rfl rfl (.ok rfl)) fun _ => .done rfl
  | cons hrow _ ih =>
    exact .next (.call rfl rfl (.ok rfl)) fun _ => .next (hf value hrow) fun value => ih value

lemma forIndexed_same {f : Int → α → Action β}
    (hf : ∀ index x, SameRead b b' d Eq (f index x) (f index x)) (index : Int) (xs : List α) :
    SameRead b b' d Eq (forIndexed f index xs) (forIndexed f index xs) := by
  induction xs generalizing index with
  | nil => exact .done rfl
  | cons x xs ih =>
    exact .next (hf index x) fun _ => .next (ih (index + 1)) fun _ => .done rfl

/-- A statement that writes nothing. -/
lemma data_run {q : Stmt} (hq : (exec b d q).2 = []) :
    (Program.call (Call.query (.data q)) : Action (Option Result)).run (serve b) d =
      (.ok (exec b d q).1, d) := by
  have hserve : serve b (Call.query (.data q)) d = (.ok (exec b d q).1, d) := by
    simp [serve, engine, Engine.perform, hq]
  exact (serve_run_call b (Call.query (.data q)) d).trans hserve

lemma data_same {q : Stmt} {post : Option Result → Option Result → Prop}
    (hq : (exec b d q).2 = []) (hq' : (exec b' d q).2 = [])
    (h : post (exec b d q).1 (exec b' d q).1) :
    SameRead b b' d post (Program.call (Call.query (.data q)))
      (Program.call (Call.query (.data q))) :=
  (Program.Agree.done h).congr (data_run hq) (data_run hq')

lemma selected_same {columns : List String} {ordered : Bool} (hd : NoEmptyText k ident d)
    (hc : Covers k t w.parentType) (hi : w.idents = [ident]) (ht : textsAt t columns = texts) :
    SameRows texts (exec b d (.select t columns w ordered)).1
      (exec b' d (.select t columns w ordered)).1 := by
  have hrows : ∀ r ∈ d.select t w ordered,
      SameRow texts (project b columns r) (project b' columns r) := fun r hr => by
    obtain ⟨hmem, hw⟩ := mem_select hr
    obtain ⟨hident, hsel⟩ := holds_imp hc hi hw
    have hmine : r ∈ rowsOf k ident d t := List.mem_filter.mpr ⟨hmem, by simp [mine, hident, hsel]⟩
    exact sameRow_project (hd t r hmine) ht
  simpa only [SameRows, exec, Backend.result_getD] using forall₂_map hrows

lemma select_same (texts : List ℕ) {columns : List String} (hd : NoEmptyText k ident d)
    (hc : Covers k t w.parentType) (hi : w.idents = [ident]) (ordered : Bool)
    (ht : textsAt t columns = texts) :
    SameRead b b' d (SameRows texts)
      (Program.call (Call.query (.data (.select t columns w ordered))))
      (Program.call (Call.query (.data (.select t columns w ordered)))) :=
  data_same rfl rfl (selected_same hd hc hi ht)

/-- The same, from a table without required texts. -/
lemma selectPlain_same {columns : List String} (hd : NoEmptyText k ident d)
    (hc : Covers k t w.parentType) (hi : w.idents = [ident]) (ordered : Bool)
    (ht : requiredTexts t = []) :
    SameRead b b' d (SameRows [])
      (Program.call (Call.query (.data (.select t columns w ordered))))
      (Program.call (Call.query (.data (.select t columns w ordered)))) :=
  select_same [] hd hc hi ordered (by simp [textsAt, ht])

end Rules

section Readers

variable [L : Libprelude] {row row' : List Cell}

lemma getEnum_same (e : Enumeration) {i : ℕ} (h : row.getD i .null = row'.getD i .null) :
    SameRead b b' d Eq (getEnum e row i) (getEnum e row' i) :=
  .next (rowGetField_same h) fun _ => .done rfl

lemma getTimestamp_same {time gmtoff : ℕ} {usec : Option ℕ}
    (ht : row.getD time .null = row'.getD time .null)
    (hg : row.getD gmtoff .null = row'.getD gmtoff .null)
    (hu : ∀ i ∈ usec, row.getD i .null = row'.getD i .null) :
    SameRead b b' d Eq (getTimestamp row time gmtoff usec) (getTimestamp row' time gmtoff usec) := by
  refine .next (rowGetField_same ht) fun field => ?_
  cases field with
  | none => exact .done rfl
  | some field =>
    refine .next (getNeeded_same _ hg) fun gmtoffField => ?_
    cases usec with
    | none =>
      exact .next (.done rfl) fun _ => .next (.ofExcept (.refl _)) fun _ =>
        .next (.ofExcept (.refl _)) fun _ => .done rfl
    | some i =>
      exact .next (getNeeded_same _ (hu i rfl)) fun _ => .next (.ofExcept (.refl _)) fun _ =>
        .next (.ofExcept (.refl _)) fun _ => .done rfl

namespace SameRow

variable (h : SameRow texts row row')
include h

omit L in
lemma string (i : ℕ) (hi : texts.contains i = false) :
    SameRead b b' d Eq (getString row i) (getString row' i) :=
  getString_same (h.field i hi)

omit L in
lemma uint32 (i : ℕ) (hi : texts.contains i = false) :
    SameRead b b' d Eq (getUint32 row i) (getUint32 row' i) :=
  getInteger_same _ (h.field i hi)

lemma enum (e : Enumeration) (i : ℕ) (hi : texts.contains i = false) :
    SameRead b b' d Eq (getEnum e row i) (getEnum e row' i) :=
  getEnum_same e (h.field i hi)

lemma timestamp (time gmtoff : ℕ) (ht : texts.contains time = false)
    (hg : texts.contains gmtoff = false) :
    SameRead b b' d Eq (getTimestamp row time gmtoff none) (getTimestamp row' time gmtoff none) :=
  getTimestamp_same (h.field time ht) (h.field gmtoff hg) fun _ hi => by cases hi

end SameRow

variable (hd : NoEmptyText k ident d)
include hd

omit L in
lemma getStringListed_same {column : String} (hc : Covers k t w.parentType) (hi : w.idents = [ident])
    (ht : (requiredTexts t).contains column = false) :
    SameRead b b' d Eq (getStringListed t column w) (getStringListed t column w) := by
  have htexts : textsAt t [column] = [] := by simpa [textsAt] using ht
  exact .bind (select_same [] hd (w := { w with index := .ne (-1) }) hc hi true htexts) fun _ _ h =>
    .next (allRows_same h fun _ _ _ hr => hr.string 0 rfl) fun _ => .done rfl

lemma getTime_same (hc : Covers k t w.parentType) (hi : w.idents = [ident])
    (ht : requiredTexts t = []) :
    SameRead b b' d Eq
      (do let table ← select t timeColumns w
          let time ← firstRow (fun row => getTimestamp row 0 1 (some 2)) table
          pure time.join : Action (Option Time))
      (do let table ← select t timeColumns w
          let time ← firstRow (fun row => getTimestamp row 0 1 (some 2)) table
          pure time.join : Action (Option Time)) :=
  .bind (selectPlain_same hd hc hi false ht) fun _ _ h =>
    .next (firstRow_same h fun hr => getTimestamp_same (hr.field 0 rfl) (hr.field 1 rfl)
      fun i _ => hr.field i rfl) fun _ => .done rfl

lemma getAnalyzerTime_same : SameRead b b' d Eq (getAnalyzerTime ident k.parentType)
    (getAnalyzerTime ident k.parentType) :=
  getTime_same hd (.eq (selects_element (.analyzerTime k))) rfl rfl

lemma getCreateTime_same : SameRead b b' d Eq (getCreateTime ident k.parentType)
    (getCreateTime ident k.parentType) :=
  getTime_same hd (.eq (selects_element (.createTime k))) rfl rfl

omit hd in
lemma fillUserId_same (h : SameRow texts row row') (userId : UserId) (ht : texts = []) :
    SameRead b b' d Eq (fillUserId userId row) (fillUserId userId row') := by
  subst ht
  exact .next (h.string 0 rfl) fun _ => .next (h.enum _ 1 rfl) fun _ => .next (h.string 2 rfl) fun _ =>
    .next (h.uint32 3 rfl) fun _ => .next (h.string 4 rfl) fun _ => .done rfl

omit L in
lemma getProcess_same (o : Owner) (hk : o.kind = k) (i : Int) :
    SameRead b b' d Eq (getProcess ident o.parentType i) (getProcess ident o.parentType i) := by
  subst hk
  have hp : Covers o.kind .process (.eq o.parentType) := .eq (selects_element (.process o))
  have ha : Covers o.kind .processArg (.eq o.parentType) := .eq (selects_element (.processArg o 0))
  have he : Covers o.kind .processEnv (.eq o.parentType) := .eq (selects_element (.processEnv o 0))
  refine .bind (select_same [1] hd hp rfl false rfl) fun _ _ h => firstRow_same h fun h => ?_
  refine .next (h.string 0 rfl) fun _ => .bind (getText_same (h.value 1)) fun name name' hname =>
    .next (h.uint32 2 rfl) fun _ => .next (h.string 3 rfl) fun _ =>
    .next (getStringListed_same hd ha rfl rfl) fun _ =>
    .next (getStringListed_same hd he rfl rfl) fun _ => ?_
  exact .done (by rw [hname])

lemma getNode_same (o : Owner) (hk : o.kind = k) (i : Int) :
    SameRead b b' d Eq (getNode ident o.parentType i) (getNode ident o.parentType i) := by
  subst hk
  have hn : Covers o.kind .node (.eq o.parentType) := .eq (selects_element (.node o))
  have ha : Covers o.kind .address (.eq o.parentType) := .eq (selects_element (.address o 0))
  have haddress : SameRead b b' d Eq (getAddress ident o.parentType i)
      (getAddress ident o.parentType i) := by
    refine .bind (select_same [4] hd ha rfl true rfl) fun _ _ h =>
      allRows_same h fun _ _ _ h => ?_
    refine .next (h.string 0 rfl) fun _ => .next (h.enum _ 1 rfl) fun _ => .next (h.string 2 rfl) fun _ =>
      .next (h.uint32 3 rfl) fun _ => .bind (getText_same (h.value 4)) fun address address' haddress =>
      .next (h.string 5 rfl) fun _ => ?_
    exact .done (by rw [haddress])
  refine .bind (selectPlain_same hd hn rfl false rfl) fun _ _ h => firstRow_same h fun h => ?_
  exact .next (h.string 0 rfl) fun _ => .next (h.enum _ 1 rfl) fun _ => .next (h.string 2 rfl) fun _ =>
    .next (h.string 3 rfl) fun _ => .next haddress fun _ => .done rfl

lemma getAnalyzer_same :
    SameRead b b' d Eq (getAnalyzer ident k.parentType) (getAnalyzer ident k.parentType) := by
  have hc : Covers k .analyzer (.eq k.parentType) := .eq (selects_element (.analyzer k 0))
  refine .bind (selectPlain_same hd hc rfl true rfl) fun _ _ h =>
    allRows_same h fun index _ _ h => ?_
  exact .next (h.string 0 rfl) fun _ => .next (h.string 1 rfl) fun _ => .next (h.string 2 rfl) fun _ =>
    .next (h.string 3 rfl) fun _ => .next (h.string 4 rfl) fun _ => .next (h.string 5 rfl) fun _ =>
    .next (h.string 6 rfl) fun _ => .next (h.string 7 rfl) fun _ =>
    .next (getNode_same hd (.analyzer k index) rfl index) fun _ =>
    .next (getProcess_same hd (.analyzer k index) rfl index) fun _ => .done rfl

lemma getAdditionalData_same :
    SameRead b b' d Eq (getAdditionalData ident k.parentType)
      (getAdditionalData ident k.parentType) := by
  have hc : Covers k .additionalData (.eq k.parentType) := .eq (selects_element (.additionalData k 0))
  have hrows : ∀ {rows rows' : Result}, List.Forall₂ (SameRow []) rows rows' →
      SameRead b b' d Eq (additionalDataRows rows) (additionalDataRows rows') := fun h => by
    induction h with
    | nil => exact .next (.call rfl rfl (.ok rfl)) fun _ => .done rfl
    | cons h _ ih =>
      refine .next (.call rfl rfl (.ok rfl)) fun _ => .next (h.enum _ 0 rfl) fun _ =>
        .next (h.string 1 rfl) fun _ => .next (rowGetField_same (h.field 2 rfl)) fun field => ?_
      cases field with
      | none => exact .done rfl
      | some field =>
        exact .next (unescapeBinary_same field) fun _ => .next (.ofExcept (.refl _)) fun _ =>
          .next ih fun _ => .done rfl
  refine .bind (selectPlain_same hd hc rfl true rfl) fun _ _ h => ?_
  apply rows_same h
  · exact fun _ => rfl
  · exact hrows

end Readers

section Alerts

variable [L : Libprelude] (hd : NoEmptyText .alert ident d)
include hd

lemma getDetectTime_same : SameRead b b' d Eq (getDetectTime ident) (getDetectTime ident) :=
  getTime_same hd (fun _ _ => rfl) rfl rfl

lemma getUserIdListed_same (c : Char) (i j l : Int) :
    SameRead b b' d Eq (getUserIdListed ident c i j l) (getUserIdListed ident c i j l) :=
  .bind (selectPlain_same hd (.eq rfl) rfl true rfl) fun _ _ h =>
    allRows_same h fun _ _ _ h => fillUserId_same h newUserId rfl

lemma getUserId_same (c : Char) (i j l : Int) :
    SameRead b b' d Eq (getUserId ident c i j l) (getUserId ident c i j l) := by
  refine .bind (selectPlain_same hd (.eq rfl) rfl true rfl) fun _ _ h => ?_
  apply rows_same h
  · exact fun _ => rfl
  · exact fun h => foldRows_same h (fun userId _ _ h => fillUserId_same h userId rfl) newUserId

lemma getUser_same (c : Char) (i : Int) :
    SameRead b b' d Eq (getUser ident c i) (getUser ident c i) := by
  refine .bind (selectPlain_same hd (.eq rfl) rfl false rfl) fun _ _ h =>
    firstRow_same h fun h => ?_
  exact .next (h.string 0 rfl) fun _ => .next (h.enum _ 1 rfl) fun _ =>
    .next (getUserIdListed_same hd c i 0 0) fun _ => .done rfl

omit L in
lemma getWebService_same (c : Char) (i : Int)
    (hc : selects (deleteQueries .alert) .webService (some c) = true)
    (ha : selects (deleteQueries .alert) .webServiceArg (some c) = true) :
    SameRead b b' d Eq (getWebService ident c i) (getWebService ident c i) := by
  refine .bind (select_same [0] hd (.eq hc) rfl false rfl) fun _ _ h =>
    firstRow_same h fun h => ?_
  refine .bind (getText_same (h.value 0)) fun url url' hurl => .next (h.string 1 rfl) fun _ =>
    .next (h.string 2 rfl) fun _ => .next (getStringListed_same hd (.eq ha) rfl rfl) fun _ => ?_
  exact .done (by rw [hurl])

omit L in
lemma getSnmpService_same (c : Char) (i : Int) :
    SameRead b b' d Eq (getSnmpService ident c i) (getSnmpService ident c i) := by
  refine .bind (selectPlain_same hd (.eq rfl) rfl false rfl) fun _ _ h =>
    firstRow_same h fun h => ?_
  exact .next (h.string 0 rfl) fun _ => .next (h.uint32 1 rfl) fun _ => .next (h.uint32 2 rfl) fun _ =>
    .next (h.string 3 rfl) fun _ => .next (h.uint32 4 rfl) fun _ => .next (h.string 5 rfl) fun _ =>
    .next (h.string 6 rfl) fun _ => .next (h.string 7 rfl) fun _ => .done rfl

omit L in
lemma getService_same (c : Char) (i : Int) :
    SameRead b b' d Eq (getService ident c i) (getService ident c i) := by
  refine .bind (selectPlain_same hd (.eq rfl) rfl false rfl).attempt fun _ _ h => ?_
  cases h with
  | error e => exact .done rfl
  | ok h =>
    refine firstRow_same h fun h => ?_
    exact .next (h.string 0 rfl) fun _ => .next (getInteger_same _ (h.field 1 rfl)) fun _ =>
      .next (h.string 2 rfl) fun _ => .next (getInteger_same _ (h.field 3 rfl)) fun _ =>
      .next (getInteger_same _ (h.field 4 rfl)) fun _ => .next (h.string 5 rfl) fun _ =>
      .next (h.string 6 rfl) fun _ => .next (h.string 7 rfl) fun _ =>
      .next (getWebService_same hd c i rfl rfl) fun _ => .next (getSnmpService_same hd c i) fun _ =>
      .done rfl

lemma getAction_same : SameRead b b' d Eq (getAction ident) (getAction ident) := by
  refine .bind (selectPlain_same hd (fun _ _ => rfl) rfl true rfl) fun _ _ h =>
    allRows_same h fun _ _ _ h => ?_
  exact .next (h.enum _ 0 rfl) fun _ => .next (h.string 1 rfl) fun _ => .done rfl

lemma getConfidence_same : SameRead b b' d Eq (getConfidence ident) (getConfidence ident) := by
  refine .bind (selectPlain_same hd (fun _ _ => rfl) rfl false rfl) fun _ _ h =>
    firstRow_same h fun h => ?_
  exact .next (h.enum _ 0 rfl) fun _ => .next (getInteger_same _ (h.field 1 rfl)) fun _ => .done rfl

lemma getImpact_same : SameRead b b' d Eq (getImpact ident) (getImpact ident) := by
  refine .bind (selectPlain_same hd (fun _ _ => rfl) rfl false rfl) fun _ _ h =>
    firstRow_same h fun h => ?_
  exact .next (h.enum _ 0 rfl) fun _ => .next (h.enum _ 1 rfl) fun _ => .next (h.enum _ 2 rfl) fun _ =>
    .next (h.string 3 rfl) fun _ => .done rfl

lemma getFileAccess_same (i j : Int) :
    SameRead b b' d Eq (getFileAccess ident i j) (getFileAccess ident i j) := by
  have hcount : SameRead b b' d Eq
      (Program.call (Call.query (.data (.count .fileAccess
        { Where.under [i, j] ident with index := .ne (-1) }))))
      (Program.call (Call.query (.data (.count .fileAccess
        { Where.under [i, j] ident with index := .ne (-1) })))) := data_same rfl rfl rfl
  have hrow : ∀ row, SameRow [] row row := fun row => ⟨fun _ _ => rfl, fun _ => rfl⟩
  have hrows : ∀ table : Option Result, SameRows [] table table := fun table =>
    List.forall₂_same.mpr fun row _ => hrow row
  refine .next hcount fun table =>
    .next (firstRow_same (hrows table) fun h => h.uint32 0 rfl) fun count => ?_
  cases count.join with
  | none => exact .done rfl
  | some count =>
    refine forIndexed_same (fun cnt _ => ?_) 0 _
    exact .next (getUserId_same hd 'F' i j cnt) fun _ =>
      .next (getStringListed_same hd (fun _ _ => rfl) rfl rfl) fun _ => .done rfl

lemma getLinkage_same (i j : Int) :
    SameRead b b' d Eq (getLinkage ident i j) (getLinkage ident i j) := by
  refine .bind (select_same [1, 2] hd (fun _ _ => rfl) rfl true rfl) fun _ _ h =>
    allRows_same h fun _ _ _ h => ?_
  refine .next (h.enum _ 0 rfl) fun _ => .bind (getText_same (h.value 1)) fun name name' hname =>
    .bind (getText_same (h.value 2)) fun path path' hpath => ?_
  exact .done (by rw [hname, hpath])

lemma getInode_same (i j : Int) :
    SameRead b b' d Eq (getInode ident i j) (getInode ident i j) := by
  refine .bind (selectPlain_same hd (fun _ _ => rfl) rfl false rfl) fun _ _ h =>
    firstRow_same h fun h => ?_
  exact .next (h.timestamp 0 1 rfl rfl) fun _ => .next (h.uint32 2 rfl) fun _ => .next (h.uint32 3 rfl) fun _ =>
    .next (h.uint32 4 rfl) fun _ => .next (h.uint32 5 rfl) fun _ => .next (h.uint32 6 rfl) fun _ => .done rfl

lemma getChecksum_same (i j : Int) :
    SameRead b b' d Eq (getChecksum ident i j) (getChecksum ident i j) := by
  refine .bind (select_same [0] hd (fun _ _ => rfl) rfl true rfl) fun _ _ h =>
    allRows_same h fun _ _ _ h => ?_
  refine .bind (getText_same (h.value 0)) fun value value' hvalue => .next (h.string 1 rfl) fun _ =>
    .next (h.enum _ 2 rfl) fun _ => ?_
  exact .done (by rw [hvalue])

lemma getFile_same (i : Int) : SameRead b b' d Eq (getFile ident i) (getFile ident i) := by
  have hrow : ∀ {row row' : List Cell}, SameRow [2, 3] row row' →
      SameRead b b' d Eq (getFileRow row) (getFileRow row') := fun h => by
    refine .next (h.string 0 rfl) fun _ => .next (h.enum _ 1 rfl) fun _ =>
      .bind (getText_same (h.value 2)) fun name name' hname =>
      .bind (getText_same (h.value 3)) fun path path' hpath => .next (h.timestamp 4 5 rfl rfl) fun _ =>
      .next (h.timestamp 6 7 rfl rfl) fun _ => .next (h.timestamp 8 9 rfl rfl) fun _ => .next (h.uint32 10 rfl) fun _ =>
      .next (h.uint32 11 rfl) fun _ => .next (h.enum _ 12 rfl) fun _ => .next (h.string 13 rfl) fun _ => ?_
    exact .done (by rw [hname, hpath])
  refine .bind (select_same [2, 3] hd (fun _ _ => rfl) rfl true rfl) fun _ _ h =>
    .next (objectRows_same h fun _ _ _ h => hrow h) fun files => forIndexed_same (fun cnt _ => ?_) 0 files
  exact .next (getFileAccess_same hd i cnt) fun _ => .next (getLinkage_same hd i cnt) fun _ =>
    .next (getInode_same hd i cnt) fun _ => .next (getChecksum_same hd i cnt) fun _ => .done rfl

lemma getSource_same : SameRead b b' d Eq (getSource ident) (getSource ident) := by
  refine .bind (selectPlain_same hd (fun _ _ => rfl) rfl true rfl) fun _ _ h =>
    .next (objectRows_same h fun _ _ _ h => ?_) fun sources => forIndexed_same (fun cnt _ => ?_) 0 sources
  · exact .next (h.string 0 rfl) fun _ => .next (h.enum _ 1 rfl) fun _ => .next (h.string 2 rfl) fun _ => .done rfl
  · exact .next (getNode_same hd (.party (.source cnt)) rfl cnt) fun _ =>
      .next (getUser_same hd 'S' cnt) fun _ =>
      .next (getProcess_same hd (.party (.source cnt)) rfl cnt) fun _ =>
      .next (getService_same hd 'S' cnt) fun _ => .done rfl

lemma getTarget_same : SameRead b b' d Eq (getTarget ident) (getTarget ident) := by
  refine .bind (selectPlain_same hd (fun _ _ => rfl) rfl true rfl) fun _ _ h =>
    .next (objectRows_same h fun _ _ _ h => ?_) fun targets => forIndexed_same (fun cnt _ => ?_) 0 targets
  · exact .next (h.string 0 rfl) fun _ => .next (h.enum _ 1 rfl) fun _ => .next (h.string 2 rfl) fun _ => .done rfl
  · exact .next (getNode_same hd (.party (.target cnt)) rfl cnt) fun _ =>
      .next (getUser_same hd 'T' cnt) fun _ =>
      .next (getProcess_same hd (.party (.target cnt)) rfl cnt) fun _ =>
      .next (getService_same hd 'T' cnt) fun _ => .next (getFile_same hd cnt) fun _ => .done rfl

lemma getClassification_same :
    SameRead b b' d Eq (getClassification ident) (getClassification ident) := by
  have hreference : SameRead b b' d Eq (getReference ident) (getReference ident) := by
    refine .bind (select_same [1, 2] hd (fun _ _ => rfl) rfl true rfl) fun _ _ h =>
      allRows_same h fun _ _ _ h => ?_
    refine .next (h.enum _ 0 rfl) fun _ => .bind (getText_same (h.value 1)) fun name name' hname =>
      .bind (getText_same (h.value 2)) fun url url' hurl => .next (h.string 3 rfl) fun _ => ?_
    exact .done (by rw [hname, hurl])
  refine .bind (select_same [1] hd (fun _ _ => rfl) rfl false rfl) fun _ _ h =>
    firstRow_same h fun h => ?_
  refine .next (h.string 0 rfl) fun _ => .bind (getText_same (h.value 1)) fun text text' htext =>
    .next hreference fun _ => ?_
  exact .done (by rw [htext])

omit L in
lemma getAlertident_same (c : Char) (hc : selects (deleteQueries .alert) .alertident (some c) = true) :
    SameRead b b' d Eq (getAlertident ident c) (getAlertident ident c) := by
  refine .bind (select_same [0] hd (.eq hc) rfl true rfl) fun _ _ h =>
    allRows_same h fun _ _ _ h => ?_
  refine .bind (getText_same (h.value 0)) fun alertident alertident' halertident =>
    .next (h.string 1 rfl) fun _ => ?_
  exact .done (by rw [halertident])

omit L in
lemma getToolAlert_same : SameRead b b' d Eq (getToolAlert ident) (getToolAlert ident) := by
  refine .bind (select_same [0] hd (fun _ _ => rfl) rfl false rfl) fun _ _ h =>
    firstRow_same h fun h => ?_
  refine .bind (getText_same (h.value 0)) fun name name' hname => .next (h.string 1 rfl) fun _ =>
    .next (getAlertident_same hd 'T' rfl) fun _ => ?_
  exact .done (by rw [hname])

omit L in
lemma getCorrelationAlert_same :
    SameRead b b' d Eq (getCorrelationAlert ident) (getCorrelationAlert ident) := by
  refine .bind (select_same [0] hd (fun _ _ => rfl) rfl false rfl) fun _ _ h =>
    firstRow_same h fun h => ?_
  refine .bind (getText_same (h.value 0)) fun name name' hname =>
    .next (getAlertident_same hd 'C' rfl) fun _ => ?_
  exact .done (by rw [hname])

omit L in
lemma getOverflowAlert_same :
    SameRead b b' d Eq (getOverflowAlert ident) (getOverflowAlert ident) := by
  refine .bind (select_same [0] hd (fun _ _ => rfl) rfl false rfl) fun _ _ h =>
    firstRow_same h fun h => ?_
  refine .bind (getText_same (h.value 0)) fun program program' hprogram => .next (h.uint32 1 rfl) fun _ =>
    .next (rowGetField_same (h.field 2 rfl)) fun field => ?_
  cases field with
  | none => exact .fail _
  | some field => exact .next (unescapeBinary_same field) fun _ => .done (by rw [hprogram])

end Alerts

section Messages

/-- The SELECT on a table that holds nothing but rows of messages of the kind. -/
lemma select_message (ht : ∀ parentType, selects (deleteQueries k) t parentType = true) :
    d.select t (.message ident) false = rowsOf k ident d t := by
  refine List.filter_congr fun r _ => ?_
  simp [Where.message, Where.holds, TypeTest.holds, IndexTest.holds, mine, ht, eq_comm]

lemma selects_table (k : Kind) (parentType : Option Char) :
    selects (deleteQueries k) k.table parentType = true := by
  cases k <;> rfl

/-- With a row, all plugins answer with a result. -/
lemma select_found {columns : List String} (hd : NoEmptyText k ident d)
    (ht : ∀ parentType, selects (deleteQueries k) t parentType = true)
    (hplain : requiredTexts t = []) (h : rowsOf k ident d t ≠ []) :
    SameRead b b' d (fun table table' => SameRows [] table table' ∧ table.isSome ∧ table'.isSome)
      (select t columns (.message ident)) (select t columns (.message ident)) := by
  have hsome : ∀ b : Backend, (exec b d (.select t columns (.message ident) false)).1.isSome :=
    fun b => by
      have hrows : (rowsOf k ident d t).map (project b columns) ≠ [] := by simpa using h
      rw [exec, select_message ht, Backend.result_of_ne_nil hrows]
      rfl
  have htexts : textsAt t columns = [] := by simp [textsAt, hplain]
  exact data_same rfl rfl ⟨selected_same hd (fun _ _ => ht _) rfl htexts, hsome b, hsome b'⟩

/-- Without one, `sqlite3` alone answers with a result. -/
lemma select_absent {columns : List String}
    (ht : ∀ parentType, selects (deleteQueries k) t parentType = true)
    (h : rowsOf k ident d t = []) :
    (select t columns (.message ident)).run (serve b) d =
      (.ok (if b = .sqlite3 then some [] else none), d) := by
  have hexec : exec b d (.select t columns (.message ident) false) =
      (if b = .sqlite3 then some [] else none, []) := by
    rw [exec, select_message ht, h]
    cases b <;> rfl
  have hrun := data_run (b := b) (d := d) (q := .select t columns (.message ident) false) rfl
  rw [hexec] at hrun
  exact hrun

variable [L : Libprelude]

omit L in
lemma messageRowOf_same {α : Type} {f : List Cell → Action α} {table table' : Option Result}
    (h : SameRows texts table table' ∧ table.isSome ∧ table'.isSome)
    (hf : ∀ {row row'}, SameRow texts row row' → SameRead b b' d Eq (f row) (f row')) :
    SameRead b b' d Eq (messageRowOf f table) (messageRowOf f table') := by
  obtain ⟨h, hs, hs'⟩ := h
  obtain ⟨rows, rfl⟩ := Option.isSome_iff_exists.mp hs
  obtain ⟨rows', rfl⟩ := Option.isSome_iff_exists.mp hs'
  refine .next (.call rfl rfl (.ok rfl)) fun _ => ?_
  cases (h : List.Forall₂ (SameRow texts) rows rows') with
  | nil => exact .fail _
  | cons hrow _ => exact hf hrow

lemma getAssessment_same (hd : NoEmptyText .alert ident d)
    (h : rowsOf .alert ident d .assessment ≠ []) :
    SameRead b b' d Eq (getAssessment ident) (getAssessment ident) := by
  refine .bind (select_found hd (fun _ => rfl) rfl h) fun table table' htable => ?_
  obtain ⟨-, hs, hs'⟩ := htable
  obtain ⟨rows, rfl⟩ := Option.isSome_iff_exists.mp hs
  obtain ⟨rows', rfl⟩ := Option.isSome_iff_exists.mp hs'
  exact .next (getImpact_same hd) fun _ => .next (getConfidence_same hd) fun _ =>
    .next (getAction_same hd) fun _ => .done rfl

lemma classicGetAlert_same (hd : NoEmptyText .alert ident d)
    (hm : rowsOf .alert ident d .alert ≠ []) (ha : rowsOf .alert ident d .assessment ≠ []) :
    SameRead b b' d Eq (classicGetAlert ident) (classicGetAlert ident) := by
  have hmessageid : SameRead b b' d Eq (getAlertMessageid ident) (getAlertMessageid ident) :=
    .bind (select_found hd (selects_table .alert) rfl hm) fun _ _ h =>
      messageRowOf_same h fun h => h.string 0 rfl
  exact .next hmessageid fun _ => .next (getAssessment_same hd ha) fun _ =>
    .next (getAnalyzer_same hd) fun _ => .next (getCreateTime_same hd) fun _ =>
    .next (getDetectTime_same hd) fun _ => .next (getAnalyzerTime_same hd) fun _ =>
    .next (getSource_same hd) fun _ => .next (getTarget_same hd) fun _ =>
    .next (getClassification_same hd) fun _ => .next (getAdditionalData_same hd) fun _ =>
    .next (getToolAlert_same hd) fun _ => .next (getCorrelationAlert_same hd) fun _ =>
    .next (getOverflowAlert_same hd) fun _ => .done rfl

lemma classicGetHeartbeat_same (hd : NoEmptyText .heartbeat ident d)
    (hm : rowsOf .heartbeat ident d .heartbeat ≠ []) :
    SameRead b b' d Eq (classicGetHeartbeat ident) (classicGetHeartbeat ident) := by
  have hmessage : SameRead b b' d Eq (getHeartbeat ident) (getHeartbeat ident) := by
    refine .bind (select_found hd (selects_table .heartbeat) rfl hm) fun _ _ h =>
      messageRowOf_same h fun h => ?_
    exact .next (h.string 0 rfl) fun _ => .next (h.uint32 1 rfl) fun _ => .done rfl
  exact .next hmessage fun _ => .next (getAnalyzer_same hd) fun _ =>
    .next (getCreateTime_same hd) fun _ => .next (getAnalyzerTime_same hd) fun _ =>
    .next (getAdditionalData_same hd) fun _ => .done rfl

/-- The content of a message that the plugins cannot answer differently about. -/
structure ReadAlike (k : Kind) (ident : ℕ) (d : Database) : Prop where
  message : rowsOf k ident d k.table ≠ []
  assessment : k = .alert → rowsOf k ident d .assessment ≠ []
  texts : NoEmptyText k ident d

lemma classicGet_same (h : ReadAlike k ident d) :
    SameRead b b' d Eq (classicGet k ident) (classicGet k ident) := by
  cases k with
  | alert => exact .next (classicGetAlert_same h.texts h.message (h.assessment rfl)) fun _ => .done rfl
  | heartbeat => exact .next (classicGetHeartbeat_same h.texts h.message) fun _ => .done rfl

section

variable {p p' : Pattern} {world world' : World}

lemma run_classicGet (hp : Faultless p) (h : Serving d world.session) :
    (run b p (classicGet k ident) world).1 = ((classicGet k ident).run (serve b) d).1 :=
  (h.run (b := b) hp ((classicGet_reads k ident).mono fun _ hr => hr.inner)).1

lemma classicGet_absent (h : rowsOf k ident d k.table = []) :
    ((classicGet k ident).run (serve b) d).1 =
      .error (if b = .sqlite3 then undefinedBehaviour else preludedbError .invalidMessageIdent) := by
  have hmessage : ∀ {α : Type} (columns : List String) (f : List Cell → Action α),
      (select k.table columns (.message ident) >>= messageRowOf f).run (serve b) d =
        (.error (if b = .sqlite3 then undefinedBehaviour else preludedbError .invalidMessageIdent),
          d) := fun columns f => by
    rw [Program.run_bind, select_absent (selects_table k) h]
    cases b <;> rfl
  cases k with
  | alert => exact congrArg Prod.fst (Program.run_bind_error (Program.run_bind_error (hmessage _ _)))
  | heartbeat => exact congrArg Prod.fst (Program.run_bind_error (Program.run_bind_error (hmessage _ _)))

omit L in
lemma run_reads {α : Type} {a : Action α} (h : a.Requests (Reads k ident)) :
    (a.run (serve b) d).2 = d :=
  h.run_preserves (serve b) (I := fun d' => d' = d)
    (fun _ _ hr hd => (hr.serve (b := b) rfl).2.1.trans hd) rfl

/-- An alert without rows in the table of assessments is read with one by `sqlite3` alone. -/
lemma classicGet_assessment (h : rowsOf .alert ident d .assessment = []) {m : Message}
    (hm : ((classicGet .alert ident).run (serve b) d).1 = .ok m) :
    ∃ a, m = .alert a ∧ a.assessment.isSome = decide (b = .sqlite3) := by
  obtain ⟨a, ha, hm⟩ := Program.run_bind_ok.mp hm
  obtain rfl : Message.alert a = m := by simpa using hm
  refine ⟨a, rfl, ?_⟩
  obtain ⟨messageid, -, ha⟩ := Program.run_bind_ok.mp ha
  have hmessageid : ((getAlertMessageid ident).run (serve b) d).2 = d :=
    run_reads (k := .alert) (.bind (select_reads (fun _ _ => rfl) rfl)
      (messageRowOf_reads fun row => getString_reads row 0))
  rw [hmessageid] at ha
  obtain ⟨assessment, hassessment, ha⟩ := Program.run_bind_ok.mp ha
  obtain ⟨analyzers, -, ha⟩ := Program.run_bind_ok.mp ha
  obtain ⟨createTime, -, ha⟩ := Program.run_bind_ok.mp ha
  obtain ⟨detectTime, -, ha⟩ := Program.run_bind_ok.mp ha
  obtain ⟨analyzerTime, -, ha⟩ := Program.run_bind_ok.mp ha
  obtain ⟨sources, -, ha⟩ := Program.run_bind_ok.mp ha
  obtain ⟨targets, -, ha⟩ := Program.run_bind_ok.mp ha
  obtain ⟨classification, -, ha⟩ := Program.run_bind_ok.mp ha
  obtain ⟨additionalData, -, ha⟩ := Program.run_bind_ok.mp ha
  obtain ⟨tool, -, ha⟩ := Program.run_bind_ok.mp ha
  obtain ⟨correlation, -, ha⟩ := Program.run_bind_ok.mp ha
  obtain ⟨overflow, -, ha⟩ := Program.run_bind_ok.mp ha
  have hkept : assessment = a.assessment := by
    cases ha
    rfl
  rw [← hkept]
  rw [getAssessment, Program.run_bind, select_absent (k := .alert) (fun _ => rfl) h] at hassessment
  cases b with
  | mysql | pgsql =>
    cases hassessment
    rfl
  | sqlite3 =>
    obtain ⟨impact, -, hassessment⟩ := Program.run_bind_ok.mp hassessment
    obtain ⟨confidence, -, hassessment⟩ := Program.run_bind_ok.mp hassessment
    obtain ⟨actions, -, hassessment⟩ := Program.run_bind_ok.mp hassessment
    cases hassessment
    rfl

end

end Messages

/-- A session after the storage of a message in an empty database. -/
def storedWorld (m : Message) : World :=
  (run .mysql (fun _ _ => .ok) (classicInsert (L := bareLibrary) m) newWorld).2

def isAssessed : Message → Bool
  | .alert a => a.assessment.isSome
  | .heartbeat _ => false

def isNamed : Message → Bool
  | .alert a => a.messageid.isSome
  | .heartbeat h => h.messageid.isSome

end Preludedb.Classic
