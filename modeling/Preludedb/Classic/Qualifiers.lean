import Preludedb.Foundations.Drafts
import Preludedb.Classic.Queries
import Preludedb.Sql.Numerals

/-! The tables that the columns in a query's texts are qualified with, and the tables that are joined:
whatever fails while the paths are resolved, the joins go with the texts. -/

namespace Preludedb.Classic

open Foundations Sql Idmef

section Names

/-- `t%d` of an unsigned number. -/
def aliasName (id : ℕ) : String := "t" ++ toString ((id : Int).bmod (2 ^ 32))

def tableAlias : Option ℕ → String
  | none => "top_table"
  | some id => aliasName id

def Column.written (c : Column) : SqlText := words [tableAlias c.table ++ "." ++ c.name]

def columnsWritten : List Column → SqlText
  | [] => []
  | [c] => c.written
  | c :: cs => c.written ++ comma ++ columnsWritten cs

/-- What stands before the point of a qualified name. -/
def qualifierOf : Token Lexeme → Option String
  | .atom (.word s) => if '.' ∈ s.toList then some (String.ofList (s.toList.takeWhile (· ≠ '.'))) else none
  | _ => none

def qualifiers (t : SqlText) : List String := t.filterMap qualifierOf

end Names

section Joins

/-- `_parentN_index = n`, or `_index = n` -/
def IndexConstraint.toText (c : IndexConstraint) (name : String) : SqlText :=
  words [name ++ (match c.level with
    | none => "._index"
    | some level => s!"._parent{level}_index"), if c.equal then "=" else "!="] ++ number c.value

def JoinedTable.alias (table : JoinedTable) : String := aliasName table.aliasedTableName

/-- The condition of the join. -/
def JoinedTable.condition (table : JoinedTable) : SqlText :=
  (match table.parentType with
    | none => []
    | some c => words [table.alias ++ "._parent_type", "="] ++ literal (String.ofList [c]) ++ words ["AND"]) ++
  words [table.alias ++ "._message_ident", "=", "top_table._ident"] ++
  table.indexConstraints.flatMap fun c => words ["AND"] ++ c.toText table.alias

def JoinedTable.toText (table : JoinedTable) : SqlText :=
  words ["LEFT", "JOIN", table.tableName, "AS", table.alias, "ON"] ++ paren table.condition

/-- `classic_sql_join_to_string` -/
def Join.toText (join : Join) : SqlText :=
  words [join.topTable, "AS", "top_table"] ++ join.tables.flatMap JoinedTable.toText

def wordOf : Token Lexeme → Option String
  | .atom (.word s) => some s
  | _ => none

/-- The names that are given by `AS`. -/
def aliases : SqlText → List String
  | [] => []
  | x :: t => (if wordOf x = some "AS" then (t.head?.bind wordOf).toList else []) ++ aliases t

end Joins

section Resolving

/-- A new table needs one top class. -/
def Join.withTopClass (join : Join) (p : Path) : Option Join :=
  match join.topClass with
  | none => some { join with topClass := some p.top }
  | some c => if p.top ≠ c then none else some join

/-- The number is taken before the conditions on the indexes are written. -/
def draftTable (p : Path) (tableName : String) : Draft Join (Token Lexeme) :=
  Draft.allocate.andThen <| Draft.allocate.andThen <| Draft.given fun join =>
    (Draft.change fun join => some { join with nextId := join.nextId + 1 }).andThen <| Draft.allocate.andThen <|
      Draft.change fun after => some { after with tables := after.tables ++ [.of p tableName join.nextId] }

/-- `classic_sql_join_new_table` -/
def draftNewTable (p : Path) (tableName : String) : Draft Join (Token Lexeme) :=
  (Draft.change fun join => join.withTopClass p).andThen (draftTable p tableName)

/-- `_classic_path_resolve`, where any allocation and any write can fail. -/
def draftPathResolve (p : Path) (context : FieldContext) : Draft Join (Token Lexeme) :=
  if p.depth = 2 ∧ p.getValueType ≠ some .time then
    .put (columnsWritten ((defaultFieldName p context).map (Column.mk none)))
  else .given fun join =>
    match join.lookupTable p with
    | some table => .put (columnsWritten ((fieldName p context).map (Column.mk (some table.aliasedTableName))))
    | none => Draft.allocate.andThen <| (draftNewTable p (tableName p)).andThen <|
        .put (columnsWritten ((fieldName p context).map (Column.mk (some join.nextId))))

variable [R : Rendering] (b : Backend)

/-- `preludedb_selected_object_to_string`: the arguments of most functions are texts of their own. -/
def draftObject (selected : SelectedPath) : SelectedObject → Draft Join (Token Lexeme)
  | .string s => .put (R.readText s)
  | .int n => .put (number n)
  | .idmefPath p => draftPathResolve p (getFieldContext selected)
  | .extract arg type => Draft.allocate.andThen <| (draftObject selected arg).into fun field =>
      .putOk (buildTimeExtractString b field type 0)
  | .interval arg value unit => Draft.allocate.andThen <| Draft.allocate.andThen <|
      (draftObject selected arg).into fun field => (draftObject selected value).into fun value =>
        .putOk (buildTimeIntervalString b field value unit)
  | .timezone arg tzvalue => Draft.allocate.andThen <| (draftObject selected arg).into fun field =>
      .putOk (buildTimeTimezoneString b field tzvalue)
  | .oneArg f arg => (Draft.put (words [f.toString] ++ [.open])).ignoring <|
      (draftObject selected arg).followed (.put [.close])

/-- What a time constraint compares the extracted part with. -/
def comparisonText (type : TimeConstraint) (op : CriterionOperator) (value : Int) : Except SqlError SqlText :=
  match getOperatorString b op with
  | none => .error (preludedbError .generic)
  | some name =>
    let wday := if b = .sqlite3 then value.tmod 7 else value.tmod 7 + 1
    let value := if type = .wday then wday else value
    .ok (words name ++ if b = .mysql then literal (toString value) else number value)

def draftTimeConstraint (field : SqlText) (op : CriterionOperator) (x : TimeConstraint × Int) :
    Draft Join (Token Lexeme) :=
  (Draft.putOk (buildTimeExtractString b field x.1 0)).andThen (.putOk (comparisonText b x.1 op x.2))

/-- `build_criterion_broken_down_time_equal` -/
def draftTimes (field : SqlText) (op : CriterionOperator) : List (TimeConstraint × Int) → Draft Join (Token Lexeme)
  | [] => .skip
  | [x] => draftTimeConstraint b field op x
  | x :: xs => (draftTimeConstraint b field op x).andThen <| (Draft.put (words ["AND"])).andThen (draftTimes field op xs)

def draftCriterionValue (field : SqlText) (op : CriterionOperator) : CriterionValue → Draft Join (Token Lexeme)
  | .value v => .putOk (buildCriterionFixedValue b field op v)
  | .regex s => .putOk (buildCriterionRegex b field op s)
  | .brokenDownTime lt =>
    if op = .equal then draftTimes b field op (timeTable lt)
    else if op = .notEqual then (Draft.put (words ["NOT"] ++ [.open])).andThen <|
      (draftTimes b field .equal (timeTable lt)).andThen (.put [.close])
    else .putOk (.error (preludedbError .query))

/-- `preludedb_sql_build_criterion_string` -/
def draftCriterionString (field : SqlText) (op : CriterionOperator) (value : CriterionValue) :
    Draft Join (Token Lexeme) :=
  if op = .null ∨ op = .notNull then .put (field ++ operatorWords b op)
  else if op.isNot then
    (Draft.put ([.open] ++ field ++ operatorWords b .null ++ words ["OR"])).andThen <|
      (draftCriterionValue b field op value).andThen (.put [.close])
  else draftCriterionValue b field op value

def draftCriterion (criterion : Criterion) : Draft Join (Token Lexeme) :=
  Draft.allocate.andThen <| (draftPathResolve criterion.path .where).into fun field =>
    draftCriterionString b field criterion.operator criterion.value

/-- `classic_path_resolve_criteria` -/
def draftCriteria : Criteria → Draft Join (Token Lexeme)
  | .null => .skip
  | .node criterion and or =>
    let conjunction := (draftCriterion b criterion).andThen
      (if and.isNull then .skip else (Draft.put (words ["AND"])).andThen (draftCriteria and))
    if or.isNull then conjunction
    else (Draft.put [.open, .open]).andThen <| conjunction.andThen <|
      (Draft.put ([.close] ++ words ["OR"] ++ [.open])).andThen <| (draftCriteria or).andThen
        (.put [.close, .close])

end Resolving

section Runs

/-- The texts of a query, up to where they have been written. -/
structure Generation where
  fields : SqlText
  orderBy : SqlText
  groupBy : SqlText
  fieldCount : ℕ
  condition : SqlText
  join : Join

namespace Generation

def new : Generation := ⟨[], [], [], 0, [], .new⟩

def texts (g : Generation) : SqlText := g.fields ++ g.orderBy ++ g.groupBy ++ g.condition

def separator (t : SqlText) : Draft Join (Token Lexeme) := if t = [] then .skip else .put comma

def draftGroup (g : Generation) (flags : SelectedPathFlags) : Draft Join (Token Lexeme) :=
  if flags.groupBy then (separator g.groupBy).andThen (.put (number (g.fieldCount + 1))) else .skip

def draftOrder (g : Generation) (flags : SelectedPathFlags) : Draft Join (Token Lexeme) :=
  if flags.orderAsc || flags.orderDesc then (separator g.orderBy).andThen
    (.put (number (g.fieldCount + 1) ++ words [if flags.orderAsc then "ASC" else "DESC"]))
  else .skip

/-- `sql_select_add_options`: a column is counted when its options are written. -/
def addOptions (flags : SelectedPathFlags) (faults : Faults) : ℕ → ℕ → Generation → Generation
  | _, 0, g => g
  | clock, count + 1, g =>
    let group := g.draftGroup flags faults clock g.join
    let grouped := { g with groupBy := g.groupBy ++ group.text, join := group.state }
    if group.done then
      let order := grouped.draftOrder flags faults group.clock grouped.join
      let ordered := { grouped with orderBy := grouped.orderBy ++ order.text, join := order.state }
      if order.done then
        addOptions flags faults order.clock count { ordered with fieldCount := ordered.fieldCount + 1 }
      else ordered
    else grouped

end Generation

variable [R : Rendering] (b : Backend)

/-- The texts of a selected object that are copied as they are. -/
def SelectedObject.copiedText : SelectedObject → SqlText
  | .string s => R.readText s
  | .int _ | .idmefPath _ => []
  | .extract arg _ | .oneArg _ arg => arg.copiedText
  | .timezone arg tzvalue => arg.copiedText ++ R.readText s!"'{tzvalue}'"
  | .interval arg value _ => arg.copiedText ++ value.copiedText

/-- The field of the idents, a selected path, and a tree of criteria. -/
inductive Resolution
  | ident
  | select (selected : SelectedPath)
  | criteria (criteria : Criteria)

def Resolution.copiedText : Resolution → SqlText
  | .select selected => selected.object.copiedText
  | _ => []

/-- The order of the idents is that of a selected path. -/
def Resolution.order (messageType : Kind) (order : ResultIdentsOrder) : Resolution :=
  let descending := decide (order = .byCreateTimeDesc)
  .select (.new (.idmefPath (createTimePath messageType)) ⟨!descending, descending, false⟩)

namespace Generation

def addField (g : Generation) (text : SqlText) (faults : Faults) : Generation :=
  let r := ((separator g.fields).andThen (.put text)) faults 0 g.join
  { g with fields := g.fields ++ r.text, fieldCount := if r.done then g.fieldCount + 1 else g.fieldCount,
           join := r.state }

def addSelected (g : Generation) (selected : SelectedPath) (faults : Faults) : Generation :=
  let r := ((separator g.fields).andThen (draftObject b selected selected.object)) faults 0 g.join
  let added := { g with fields := g.fields ++ r.text, join := r.state }
  if r.done then added.addOptions selected.flags faults r.clock selected.columnCount else added

def addCriteria (g : Generation) (criteria : Criteria) (faults : Faults) : Generation :=
  let r := draftCriteria b criteria faults 0 g.join
  { g with condition := g.condition ++ r.text, join := r.state }

def perform (g : Generation) (faults : Faults) : Resolution → Generation
  | .ident => g.addField (words ["DISTINCT"] ++ paren (words ["top_table._ident"])) faults
  | .select selected => g.addSelected b selected faults
  | .criteria criteria => g.addCriteria b criteria faults

/-- Every resolution has its own faults, and the next is made whatever became of it. -/
def run : Generation → List (Resolution × Faults) → Generation
  | g, [] => g
  | g, (r, faults) :: rest => (g.perform b faults r).run rest

end Generation

end Runs

section Texts

variable [R : Rendering] {P : Token Lexeme → Prop} {b : Backend} {t u field value : SqlText} {ws : List String}

def Spoken (P : Token Lexeme → Prop) (t : SqlText) : Prop := ∀ x ∈ t, P x

omit R in
lemma Spoken.append (h : Spoken P t) (h' : Spoken P u) : Spoken P (t ++ u) := List.forall_mem_append.mpr ⟨h, h'⟩

/-- Only qualified names need to be allowed. -/
def Ignores (P : Token Lexeme → Prop) : Prop := ∀ x, qualifierOf x = none → P x

namespace Ignores

omit R in
lemma words (hP : Ignores P) (h : ∀ w ∈ ws, '.' ∉ w.toList) : Spoken P (Sql.words ws) := by
  intro x hx
  obtain ⟨w, hw, rfl⟩ := List.mem_map.mp hx
  exact hP _ (if_neg (h w hw))

omit R in
lemma word (hP : Ignores P) {w : String} (h : '.' ∉ w.toList) : Spoken P (Sql.words [w]) :=
  hP.words (List.forall_mem_singleton.mpr h)

omit R in
lemma token (hP : Ignores P) {x : Token Lexeme} (h : qualifierOf x = none) : Spoken P [x] :=
  List.forall_mem_singleton.mpr (hP x h)

omit R in
lemma literal (hP : Ignores P) (s : String) : Spoken P (Sql.literal s) := hP.token rfl

omit R in
lemma number (hP : Ignores P) (n : Int) : Spoken P (Sql.number n) := hP.token rfl

omit R in
lemma comma (hP : Ignores P) : Spoken P Sql.comma := hP.token rfl

omit R in
lemma paren (hP : Ignores P) (h : Spoken P t) : Spoken P (Sql.paren t) :=
  (hP.token rfl).append (h.append (hP.token rfl))

omit R in
lemma call (hP : Ignores P) {name : String} (hn : '.' ∉ name.toList) (h : Spoken P t) :
    Spoken P (Sql.call name t) := (hP.word hn).append (hP.paren h)

omit R in
lemma extractText (hP : Ignores P) (hf : Spoken P field) {type : TimeConstraint}
    (h : Sql.extractText b type field = some t) : Spoken P t := by
  have hcall : ∀ name : String, '.' ∉ name.toList → Spoken P (Sql.call name field) := fun _ hn => hP.call hn hf
  have hpart : ∀ part : String, '.' ∉ part.toList → Spoken P (extractPart part field) := fun part hn =>
    hP.call (by decide) ((hP.words (by
      intro w hw
      rcases List.mem_cons.mp hw with rfl | hw
      · exact hn
      · rw [List.mem_singleton.mp hw]
        decide)).append hf)
  have htime : ∀ format, Spoken P (strftime format field) := fun format =>
    hP.call (by decide) (((hP.literal _).append hP.comma).append hf)
  have hsum : ∀ (w : String) (n : Int), '.' ∉ w.toList → ∀ t, Spoken P t →
      Spoken P (t ++ Sql.words [w] ++ Sql.number n) := fun w n hw t ht =>
    (ht.append (hP.word hw)).append (hP.number n)
  cases b with
  | mysql =>
    cases type with
    | quarter | yday | mday | wday =>
      cases h
      exact hcall _ (by decide)
    | msec =>
      cases h
      exact hP.paren (hsum _ _ (by decide) _ (hpart _ (by decide)))
    | _ =>
      cases h
      exact hpart _ (by decide)
  | pgsql =>
    cases type with
    | wday =>
      cases h
      exact hP.paren (hsum _ _ (by decide) _ (hpart _ (by decide)))
    | _ =>
      cases h
      exact hpart _ (by decide)
  | sqlite3 =>
    cases type with
    | quarter | wday =>
      cases h
      exact hP.paren (hsum _ _ (by decide) _ (hP.paren (hsum _ _ (by decide) _ (htime _))))
    | msec =>
      cases h
      exact hsum _ _ (by decide) _ (hP.paren (((htime _).append (hP.word (by decide))).append (htime _)))
    | usec => cases h
    | _ =>
      cases h
      exact hsum _ _ (by decide) _ (htime _)

lemma timeExtract (hP : Ignores P) (hf : Spoken P field) {type : TimeConstraint}
    (h : buildTimeExtractString b field type 0 = .ok t) : Spoken P t := by
  have hoffset : atOffset b field 0 = field := by
    unfold atOffset
    exact if_pos rfl
  rw [buildTimeExtractString, hoffset] at h
  split_ifs at h
  cases htext : Sql.extractText b type field with
  | none =>
    rw [htext] at h
    cases h
  | some text =>
    rw [htext] at h
    cases h
    exact hP.extractText hf htext

omit R in
lemma unitWord {unit : IntervalUnit} {name : String} (h : Sql.unitWord b unit = some name) : '.' ∉ name.toList := by
  cases b <;> cases unit <;> cases h <;> decide

omit R in
lemma timeInterval (hP : Ignores P) (hf : Spoken P field) (hv : Spoken P value) {unit : IntervalUnit}
    (h : buildTimeIntervalString b field value unit = .ok t) : Spoken P t := by
  rw [buildTimeIntervalString] at h
  cases hname : Sql.unitWord b unit with
  | none =>
    rw [hname] at h
    cases h
  | some name =>
    rw [hname] at h
    cases b with
    | mysql =>
      cases h
      exact hP.paren (((hf.append (hP.words (by decide))).append hv).append (hP.word (unitWord hname)))
    | pgsql =>
      cases h
      exact hP.paren ((hf.append (hP.word (by decide))).append
        (hP.paren ((hv.append (hP.words (by decide))).append (hP.literal _))))
    | sqlite3 =>
      cases h
      exact hP.call (by decide) ((((hf.append hP.comma).append hv).append (hP.word (by decide))).append (hP.literal _))

lemma timeTimezone (hP : Ignores P) (hf : Spoken P field) {tzvalue : String}
    (hcopied : Spoken P (R.readText s!"'{tzvalue}'"))
    (h : buildTimeTimezoneString b field tzvalue = .ok t) : Spoken P t := by
  cases b with
  | mysql =>
    cases h
    exact hP.call (by decide) ((((hf.append hP.comma).append (hP.literal _)).append hP.comma).append hcopied)
  | pgsql =>
    cases h
    exact hP.call (by decide) ((hcopied.append hP.comma).append
      (hP.call (by decide) (((hP.literal _).append hP.comma).append hf)))
  | sqlite3 => cases h

omit R in
lemma operator (hP : Ignores P) {op : CriterionOperator} {ws : List String}
    (h : getOperatorString b op = some ws) : Spoken P (Sql.words ws) := by
  refine hP.words ?_
  cases b <;> cases op <;> cases h <;> decide

omit R in
lemma operatorWords (hP : Ignores P) (op : CriterionOperator) : Spoken P (Sql.operatorWords b op) := by
  rw [Sql.operatorWords]
  cases h : getOperatorString b op with
  | none => exact fun x hx => absurd hx List.not_mem_nil
  | some ws => exact hP.operator h

omit R in
lemma constraint (hP : Ignores P) (hf : Spoken P field) (hv : Spoken P value) {op : CriterionOperator}
    (h : buildConstraintString b field op value = .ok t) : Spoken P t := by
  have hplain : ∀ ws, getOperatorString b op = some ws → Spoken P (field ++ Sql.words ws ++ value) := fun ws hws =>
    (hf.append (hP.operator hws)).append hv
  have hlower : ∀ ws, (∀ w ∈ ws, '.' ∉ w.toList) →
      Spoken P (Sql.call "lower" field ++ Sql.words ws ++ Sql.call "lower" value) := fun ws hws =>
    ((hP.call (by decide) hf).append (hP.words hws)).append (hP.call (by decide) hv)
  cases hws : getOperatorString b op with
  | none =>
    cases b with
    | pgsql =>
      simp only [buildConstraintString, hws] at h
      split_ifs at h
      · cases h
        exact hlower _ (by decide)
      · cases h
        exact hlower _ (by decide)
    | _ =>
      simp only [buildConstraintString, hws] at h
      cases h
  | some ws =>
    cases b with
    | sqlite3 =>
      simp only [buildConstraintString, hws] at h
      split_ifs at h
      · cases h
        exact ((hP.call (by decide) hf).append (hP.operator hws)).append (hP.call (by decide) hv)
      · cases h
        exact hplain ws hws
    | _ =>
      simp only [buildConstraintString, hws] at h
      cases h
      exact hplain ws hws

omit R in
lemma comparison (hP : Ignores P) {type : TimeConstraint} {op : CriterionOperator} {n : Int}
    (h : comparisonText b type op n = .ok t) : Spoken P t := by
  rw [comparisonText] at h
  cases hws : getOperatorString b op with
  | none =>
    rw [hws] at h
    cases h
  | some ws =>
    rw [hws] at h
    cases h
    refine (hP.operator hws).append ?_
    by_cases hb : b = .mysql
    · rw [if_pos hb]
      exact hP.literal _
    · rw [if_neg hb]
      exact hP.number _

lemma fixedSqlValue (hP : Ignores P) {v : IdmefValue} {op : CriterionOperator}
    (h : buildCriterionFixedSqlValue v op = .ok t) : Spoken P t := by
  cases v with
  | time time =>
    rw [buildCriterionFixedSqlValue] at h
    cases htime : R.timestamp time with
    | error e =>
      rw [htime] at h
      cases h
    | ok text =>
      rw [htime] at h
      cases h
      exact hP.literal _
  | _ =>
    obtain ⟨text, -, h⟩ := ok_of_bind h
    obtain ⟨escaped, -, h⟩ := ok_of_bind h
    cases h
    exact hP.literal _

lemma fixedValue (hP : Ignores P) (hf : Spoken P field) {v : IdmefValue} {op : CriterionOperator}
    (h : buildCriterionFixedValue b field op v = .ok t) : Spoken P t := by
  obtain ⟨value, hvalue, h⟩ := ok_of_bind h
  exact hP.constraint hf (hP.fixedSqlValue hvalue) h

lemma regex (hP : Ignores P) (hf : Spoken P field) {s : String} {op : CriterionOperator}
    (h : buildCriterionRegex b field op s = .ok t) : Spoken P t := by
  obtain ⟨escaped, -, h⟩ := ok_of_bind h
  exact hP.constraint hf (hP.literal _) h

end Ignores

end Texts

section Vocabularies

lemma printed_mem {v : Int} {c : Char} (h : c ∈ printed v) : c = '-' ∨ c.isDigit = true := by
  rcases lt_or_ge v 0 with hv | hv
  · rw [printed_neg hv] at h
    exact (List.mem_cons.mp h).imp id ((toDigits_digits _).all c)
  · rw [printed_nonneg hv] at h
    exact .inr ((toDigits_digits _).all c h)

lemma aliasName_mem {id : ℕ} {c : Char} (h : c ∈ (aliasName id).toList) : c = 't' ∨ c = '-' ∨ c.isDigit = true := by
  rw [aliasName, String.toList_append, List.mem_append] at h
  exact h.imp List.mem_singleton.mp printed_mem

lemma aliasName_no_point (id : ℕ) : '.' ∉ (aliasName id).toList := fun h =>
  absurd (aliasName_mem h) (by decide)

lemma aliasName_ne {id : ℕ} {s : String} {c : Char} (hc : c ∈ s.toList)
    (hn : ¬ (c = 't' ∨ c = '-' ∨ c.isDigit = true)) : aliasName id ≠ s := by
  rintro rfl
  exact hn (aliasName_mem hc)

lemma tableAlias_no_point (table : Option ℕ) : '.' ∉ (tableAlias table).toList := by
  cases table with
  | none => decide
  | some id => exact aliasName_no_point id

lemma qualifierOf_qualified {s : String} (hs : '.' ∉ s.toList) (name : String) :
    qualifierOf (.atom (.word (s ++ "." ++ name))) = some s := by
  have htext : (s ++ "." ++ name).toList = s.toList ++ '.' :: name.toList := by simp
  have htake : (s.toList ++ '.' :: name.toList).takeWhile (· ≠ '.') = s.toList := by
    have hplain : ∀ c ∈ s.toList, decide (c ≠ '.') = true := fun c hc =>
      decide_eq_true fun h => hs (by rwa [h] at hc)
    rw [List.takeWhile_append_of_pos hplain, List.takeWhile_cons_of_neg (by simp), List.append_nil]
  rw [qualifierOf, htext, if_pos (by simp), htake, String.ofList_toList]

lemma printed_injective {v w : Int} (h : toString v = toString w) : v = w := by
  have hv := decimalValue_printed v
  rw [printed, h] at hv
  exact Option.some.inj (hv.symm.trans (decimalValue_printed w))

/-- As many numbers as a signed one has. -/
lemma aliasName_injective {id id' : ℕ} (h : id < 2 ^ 31) (h' : id' < 2 ^ 31) (heq : aliasName id = aliasName id') :
    id = id' := by
  have hbmod : ∀ n : ℕ, n < 2 ^ 31 → (n : Int).bmod (2 ^ 32) = n := by
    intro n hn
    apply Int.bmod_eq_of_le_mul_two
    · omega
    · omega
  have htext : (aliasName id).toList = (aliasName id').toList := by rw [heq]
  rw [aliasName, aliasName, String.toList_append, String.toList_append] at htext
  have hnumber := printed_injective (String.toList_injective (List.append_cancel_left htext))
  rw [hbmod id h, hbmod id' h'] at hnumber
  exact Int.ofNat_inj.mp hnumber

/-- The tables have different numbers, all of them taken before. -/
structure Join.Numbered (join : Join) : Prop where
  nodup : (join.tables.map JoinedTable.aliasedTableName).Nodup
  below (t : JoinedTable) : t ∈ join.tables → t.aliasedTableName < join.nextId
  named (t : JoinedTable) : t ∈ join.tables → t.tableName = Classic.tableName t.path

/-- Names are qualified with the tables of the join, or are among the given ones. -/
def joinedNames (copied : List String) : Vocabulary Join (Token Lexeme) where
  Valid join := join.Numbered
  Extends join join' := join.tables ⊆ join'.tables
  Allows join x := ∀ q, qualifierOf x = some q → q = "top_table" ∨ (∃ t ∈ join.tables, q = t.alias) ∨ q ∈ copied
  refl join := List.Subset.refl join.tables
  trans h h' := List.Subset.trans h h'
  mono h hx q hq := (hx q hq).imp id fun hx => hx.imp (fun ⟨t, ht, hqt⟩ => ⟨t, h ht, hqt⟩) id

variable {copied : List String} {join : Join}

lemma allows_ignores : Ignores ((joinedNames copied).Allows join) := fun x hx q hq => by
  rw [hx] at hq
  cases hq

lemma column_allowed {table : Option ℕ} (h : ∀ id ∈ table, ∃ t ∈ join.tables, t.aliasedTableName = id) (name : String) :
    Spoken ((joinedNames copied).Allows join) (Column.mk table name).written := by
  refine List.forall_mem_singleton.mpr fun q hq => ?_
  rw [qualifierOf_qualified (tableAlias_no_point table)] at hq
  obtain rfl := Option.some.inj hq
  cases table with
  | none => exact .inl rfl
  | some id =>
    obtain ⟨t, ht, rfl⟩ := h id rfl
    exact .inr (.inl ⟨t, ht, rfl⟩)

lemma columns_allowed {table : Option ℕ} (h : ∀ id ∈ table, ∃ t ∈ join.tables, t.aliasedTableName = id)
    (names : List String) :
    Spoken ((joinedNames copied).Allows join) (columnsWritten (names.map (Column.mk table))) := by
  induction names with
  | nil => exact fun x hx => absurd hx List.not_mem_nil
  | cons name names ih =>
    cases names with
    | nil => exact column_allowed h name
    | cons name' names => exact ((column_allowed h name).append allows_ignores.comma).append ih

lemma lookupTable_mem {p : Path} {table : JoinedTable} (h : join.lookupTable p = some table) : table ∈ join.tables :=
  List.mem_of_find?_eq_some h

/-- The number is taken by a failure too, and the table is added by none. -/
lemma draftTable_cases (p : Path) (name : String) (faults : Faults) (n : ℕ) (join : Join) :
    (draftTable p name faults n join).text = [] ∧
    (((draftTable p name faults n join).done = false ∧
      (draftTable p name faults n join).state.tables = join.tables ∧
      join.nextId ≤ (draftTable p name faults n join).state.nextId) ∨
    ((draftTable p name faults n join).done = true ∧ (draftTable p name faults n join).state =
      { join with tables := join.tables ++ [.of p name join.nextId], nextId := join.nextId + 1 })) := by
  have htaken : ∀ m, ((Draft.change fun join : Join => some { join with nextId := join.nextId + 1 }).andThen <|
      Draft.allocate.andThen <| Draft.change fun after =>
        some { after with tables := after.tables ++ [.of p name join.nextId] } : Draft Join (Token Lexeme)) faults m join =
      (Draft.allocate.andThen (Draft.change fun after =>
        some { after with tables := after.tables ++ [.of p name join.nextId] }) : Draft Join (Token Lexeme)) faults m
        { join with nextId := join.nextId + 1 } := fun m => Draft.change_andThen rfl _ faults m
  rw [draftTable]
  rcases hstruct : faults n with _ | k
  · rw [Draft.allocate_andThen hstruct]
    rcases hstring : faults (n + 1) with _ | k
    · rw [Draft.allocate_andThen hstring, Draft.given, htaken]
      rcases hindexes : faults (n + 1 + 1) with _ | k
      · rw [Draft.allocate_andThen hindexes]
        exact ⟨rfl, .inr ⟨rfl, rfl⟩⟩
      · rw [Draft.allocate_andThen_fails hindexes]
        exact ⟨rfl, .inl ⟨rfl, rfl, Nat.le_succ _⟩⟩
    · rw [Draft.allocate_andThen_fails hstring]
      exact ⟨rfl, .inl ⟨rfl, rfl, le_rfl⟩⟩
  · rw [Draft.allocate_andThen_fails hstruct]
    exact ⟨rfl, .inl ⟨rfl, rfl, le_rfl⟩⟩

lemma draftNewTable_cases (p : Path) (name : String) (faults : Faults) (n : ℕ) (join : Join) :
    (draftNewTable p name faults n join).text = [] ∧
    (((draftNewTable p name faults n join).done = false ∧
      (draftNewTable p name faults n join).state.tables = join.tables ∧
      join.nextId ≤ (draftNewTable p name faults n join).state.nextId) ∨
    ((draftNewTable p name faults n join).done = true ∧
      (draftNewTable p name faults n join).state =
        ⟨some p.top, join.tables ++ [.of p name join.nextId], join.nextId + 1⟩)) := by
  rw [draftNewTable]
  rcases htop : join.withTopClass p with _ | join'
  · rw [Draft.change_andThen_fails htop]
    exact ⟨rfl, .inl ⟨rfl, rfl, le_rfl⟩⟩
  · rw [Draft.change_andThen htop]
    obtain rfl : join' = { join with topClass := some p.top } := by
      rw [Join.withTopClass] at htop
      split at htop
      · exact (Option.some.inj htop).symm
      · split_ifs at htop with hne
        rename_i hclass
        rw [not_not.mp hne, ← hclass]
        exact (Option.some.inj htop).symm
    exact draftTable_cases p name faults n { join with topClass := some p.top }

lemma draftNewTable_keeps {p : Path} (hs : join.Numbered) :
    (draftNewTable p (tableName p)).Keeps (joinedNames copied) join := by
  intro faults n
  obtain ⟨htext, ⟨-, htables, hnext⟩ | ⟨-, hstate⟩⟩ := draftNewTable_cases p (tableName p) faults n join
  · rw [htext]
    refine ⟨⟨?_, fun t ht => ?_, fun t ht => ?_⟩, ?_, fun x hx => absurd hx List.not_mem_nil⟩
    · rw [htables]
      exact hs.nodup
    · rw [htables] at ht
      exact (hs.below t ht).trans_le hnext
    · rw [htables] at ht
      exact hs.named t ht
    · exact fun t ht => htables.symm ▸ ht
  · rw [htext, hstate]
    refine ⟨⟨?_, fun t ht => ?_, fun t ht => ?_⟩, List.subset_append_left _ _, fun x hx => absurd hx List.not_mem_nil⟩
    · rw [List.map_append, List.map_singleton, List.nodup_append]
      refine ⟨hs.nodup, List.nodup_singleton _, fun id hid id' hid' heq => ?_⟩
      obtain ⟨t, ht, hid⟩ := List.mem_map.mp hid
      rw [← hid, List.mem_singleton.mp hid'] at heq
      exact absurd heq (hs.below t ht).ne
    · rcases List.mem_append.mp ht with ht | ht
      · exact Nat.lt_succ_of_lt (hs.below t ht)
      · rw [List.mem_singleton.mp ht]
        exact Nat.lt_succ_self _
    · rcases List.mem_append.mp ht with ht | ht
      · exact hs.named t ht
      · rw [List.mem_singleton.mp ht]
        rfl

lemma draftPathResolve_keeps (p : Path) (context : FieldContext) (hs : join.Numbered) :
    (draftPathResolve p context).Keeps (joinedNames copied) join := by
  rw [draftPathResolve]
  split_ifs
  · exact .put hs (columns_allowed (by simp) _)
  · refine .given ?_
    cases hlookup : join.lookupTable p with
    | some table =>
      refine .put hs (columns_allowed (fun id hid => ?_) _)
      exact ⟨table, lookupTable_mem hlookup, Option.some.inj hid⟩
    | none =>
      refine (Draft.Keeps.allocate hs).andThen_of_done fun faults n _ => ?_
      rw [Draft.allocate_state]
      refine (draftNewTable_keeps hs).andThen_of_done fun faults n hdone => ?_
      have hvalid := (@draftNewTable_keeps copied _ p hs faults n).1
      refine .put hvalid (columns_allowed (fun id hid => ?_) _)
      obtain ⟨-, ⟨hfailed, -⟩ | ⟨-, hstate⟩⟩ := draftNewTable_cases p (tableName p) faults n join
      · rw [hfailed] at hdone
        cases hdone
      · rw [hstate]
        exact ⟨.of p (tableName p) join.nextId, by simp, Option.some.inj hid⟩

lemma copied_allowed {t : SqlText} (h : qualifiers t ⊆ copied) : Spoken ((joinedNames copied).Allows join) t := by
  intro x hx q hq
  exact .inr (.inr (h (List.mem_filterMap.mpr ⟨x, hx, hq⟩)))

lemma qualifiers_append (t u : SqlText) : qualifiers (t ++ u) = qualifiers t ++ qualifiers u := List.filterMap_append

variable [R : Rendering] {b : Backend}

lemma draftObject_keeps (selected : SelectedPath) {object : SelectedObject} (hc : qualifiers object.copiedText ⊆ copied)
    (hs : join.Numbered) : (draftObject b selected object).Keeps (joinedNames copied) join := by
  induction object generalizing join with
  | string s => exact .put hs (copied_allowed hc)
  | int n => exact .put hs (allows_ignores.number n)
  | idmefPath p => exact draftPathResolve_keeps p _ hs
  | extract arg type ih =>
    refine (Draft.Keeps.allocate hs).andThen fun join hs _ => (ih hc hs).into fun join hs _ field hfield => ?_
    exact .putOk hs fun t ht => allows_ignores.timeExtract hfield ht
  | interval arg value unit iha ihv =>
    rw [SelectedObject.copiedText, qualifiers_append, List.append_subset] at hc
    refine (Draft.Keeps.allocate hs).andThen fun join hs _ => (Draft.Keeps.allocate hs).andThen fun join hs _ =>
      (iha hc.1 hs).into fun join hs _ field hfield => (ihv hc.2 hs).into fun join' hs' hextends value hvalue => ?_
    have hfield' : Spoken ((joinedNames copied).Allows join') field := fun x hx =>
      (joinedNames copied).mono hextends (hfield x hx)
    exact .putOk hs' fun t ht => allows_ignores.timeInterval hfield' hvalue ht
  | timezone arg tzvalue ih =>
    rw [SelectedObject.copiedText, qualifiers_append, List.append_subset] at hc
    refine (Draft.Keeps.allocate hs).andThen fun join hs _ => (ih hc.1 hs).into fun join hs _ field hfield => ?_
    exact .putOk hs fun t ht => allows_ignores.timeTimezone hfield (copied_allowed hc.2) ht
  | oneArg f arg ih =>
    have hname : '.' ∉ f.toString.toList := by cases f <;> decide
    refine (Draft.Keeps.put hs ((allows_ignores.word hname).append (allows_ignores.token rfl))).ignoring
      fun join hs _ => (ih hc hs).followed fun join hs _ => .put hs (allows_ignores.token rfl)

lemma draftTimeConstraint_keeps {field : SqlText} (hf : Spoken ((joinedNames copied).Allows join) field)
    (op : CriterionOperator) (x : TimeConstraint × Int) (hs : join.Numbered) :
    (draftTimeConstraint b field op x).Keeps (joinedNames copied) join :=
  (Draft.Keeps.putOk hs fun _ ht => allows_ignores.timeExtract hf ht).andThen fun _ hs _ =>
    .putOk hs fun _ ht => allows_ignores.comparison ht

lemma draftTimes_keeps {field : SqlText} (hf : Spoken ((joinedNames copied).Allows join) field)
    (op : CriterionOperator) (xs : List (TimeConstraint × Int)) (hs : join.Numbered) :
    (draftTimes b field op xs).Keeps (joinedNames copied) join := by
  induction xs generalizing join with
  | nil => exact .skip hs
  | cons x xs ih =>
    cases xs with
    | nil => exact draftTimeConstraint_keeps hf op x hs
    | cons y ys =>
      refine (draftTimeConstraint_keeps hf op x hs).andThen fun join' hs' hextends =>
        (Draft.Keeps.put hs' (allows_ignores.word (by decide))).andThen fun join'' hs'' hextends' => ih ?_ hs''
      exact fun x hx => (joinedNames copied).mono ((joinedNames copied).trans hextends hextends') (hf x hx)

lemma draftCriterionValue_keeps {field : SqlText} (hf : Spoken ((joinedNames copied).Allows join) field)
    (op : CriterionOperator) (value : CriterionValue) (hs : join.Numbered) :
    (draftCriterionValue b field op value).Keeps (joinedNames copied) join := by
  cases value with
  | value v => exact .putOk hs fun _ ht => allows_ignores.fixedValue hf ht
  | regex s => exact .putOk hs fun _ ht => allows_ignores.regex hf ht
  | brokenDownTime lt =>
    rw [draftCriterionValue]
    split_ifs
    · exact draftTimes_keeps hf op _ hs
    · refine (Draft.Keeps.put hs ((allows_ignores.word (by decide)).append (allows_ignores.token rfl))).andThen
        fun join' hs' hextends => (draftTimes_keeps (fun x hx => ?_) .equal _ hs').andThen fun _ hs _ =>
          .put hs (allows_ignores.token rfl)
      exact (joinedNames copied).mono hextends (hf x hx)
    · exact .putOk hs fun t ht => by cases ht

lemma draftCriterionString_keeps {field : SqlText} (hf : Spoken ((joinedNames copied).Allows join) field)
    (op : CriterionOperator) (value : CriterionValue) (hs : join.Numbered) :
    (draftCriterionString b field op value).Keeps (joinedNames copied) join := by
  rw [draftCriterionString]
  split_ifs
  · exact .put hs (hf.append (allows_ignores.operatorWords op))
  · have hfront : Spoken ((joinedNames copied).Allows join)
        ([.open] ++ field ++ operatorWords b .null ++ words ["OR"]) :=
      (((allows_ignores.token rfl).append hf).append (allows_ignores.operatorWords _)).append
        (allows_ignores.word (by decide))
    refine (Draft.Keeps.put hs hfront).andThen fun join' hs' hextends =>
      (draftCriterionValue_keeps (fun x hx => ?_) op value hs').andThen fun _ hs _ =>
        .put hs (allows_ignores.token rfl)
    exact (joinedNames copied).mono hextends (hf x hx)
  · exact draftCriterionValue_keeps hf op value hs

lemma draftCriterion_keeps (criterion : Criterion) (hs : join.Numbered) :
    (draftCriterion b criterion).Keeps (joinedNames copied) join :=
  (Draft.Keeps.allocate hs).andThen fun _ hs _ => (draftPathResolve_keeps _ _ hs).into fun _ hs _ _ hfield =>
    draftCriterionString_keeps hfield _ _ hs

lemma draftCriteria_keeps (criteria : Criteria) (hs : join.Numbered) :
    (draftCriteria b criteria).Keeps (joinedNames copied) join := by
  induction criteria generalizing join with
  | null => exact .skip hs
  | node criterion and or iha iho =>
    have hconjunction : ∀ {join : Join}, join.Numbered → ((draftCriterion b criterion).andThen
        (if and.isNull then .skip else (Draft.put (words ["AND"])).andThen (draftCriteria b and))).Keeps
          (joinedNames copied) join := by
      intro join hs
      refine (draftCriterion_keeps criterion hs).andThen fun join hs _ => ?_
      split_ifs
      · exact .skip hs
      · exact (Draft.Keeps.put hs (allows_ignores.word (by decide))).andThen fun _ hs _ => iha hs
    rw [draftCriteria]
    by_cases hor : or.isNull
    · rw [if_pos hor]
      exact hconjunction hs
    · have hopen : ∀ {join : Join}, Spoken ((joinedNames copied).Allows join) [.open, .open] := fun {join} =>
        (allows_ignores.token (x := .open) rfl).append (allows_ignores.token rfl)
      have hmiddle : ∀ {join : Join},
          Spoken ((joinedNames copied).Allows join) ([.close] ++ words ["OR"] ++ [.open]) := fun {join} =>
        ((allows_ignores.token rfl).append (allows_ignores.word (by decide))).append (allows_ignores.token rfl)
      have hclose : ∀ {join : Join}, Spoken ((joinedNames copied).Allows join) [.close, .close] := fun {join} =>
        (allows_ignores.token (x := .close) rfl).append (allows_ignores.token rfl)
      rw [if_neg hor]
      exact (Draft.Keeps.put hs hopen).andThen fun _ hs _ => (hconjunction hs).andThen fun _ hs _ =>
        (Draft.Keeps.put hs hmiddle).andThen fun _ hs _ => (iho hs).andThen fun _ hs _ => .put hs hclose

end Vocabularies

section Aliases

variable {t u : SqlText} {join : Join}

lemma aliases_append (h : ∀ x ∈ t, wordOf x ≠ some "AS") : aliases (t ++ u) = aliases u := by
  induction t with
  | nil => rfl
  | cons x t ih =>
    rw [List.cons_append, aliases, if_neg (h x List.mem_cons_self), List.nil_append]
    exact ih fun y hy => h y (List.mem_cons_of_mem _ hy)

lemma aliases_as (t : SqlText) :
    aliases (.atom (.word "AS") :: t) = (t.head?.bind wordOf).toList ++ aliases t := by
  have has : wordOf (.atom (.word "AS")) = some "AS" := rfl
  rw [aliases, if_pos has]

lemma tableName_prelude (p : Path) : ∃ s, tableName p = "Prelude_" ++ s := by
  have hdefault : ∀ p : Path, ∃ s, defaultTableName p = "Prelude_" ++ s := fun p => ⟨_, rfl⟩
  have hmessage : ∀ p : Path, ∃ s, messageTableName p = "Prelude_" ++ s := fun p => by
    unfold messageTableName
    split_ifs
    · exact ⟨"CreateTime", rfl⟩
    · exact ⟨"DetectTime", rfl⟩
    · exact ⟨"AnalyzerTime", rfl⟩
    · exact hdefault p
  have hall : ∀ c ∈ classes, ∀ p : Path, ∃ s, c.2.resolveTableName p = "Prelude_" ++ s := by
    intro c hc p
    simp only [classes, List.mem_cons, List.not_mem_nil, or_false] at hc
    rcases hc with rfl | rfl | rfl | rfl | rfl | rfl | rfl | rfl | rfl
    · exact hmessage p
    · exact hmessage p
    · change ∃ s, processTableName p = "Prelude_" ++ s
      unfold processTableName
      split_ifs
      · exact ⟨"ProcessArg", rfl⟩
      · exact ⟨"ProcessEnv", rfl⟩
      · exact ⟨"Process", rfl⟩
    · exact hdefault p
    · change ∃ s, webServiceTableName p = "Prelude_" ++ s
      unfold webServiceTableName
      split_ifs
      · exact ⟨"WebServiceArg", rfl⟩
      · exact ⟨"WebService", rfl⟩
    · exact hdefault p
    · exact hdefault p
    · change ∃ s, fileAccessTableName p = "Prelude_" ++ s
      unfold fileAccessTableName
      split_ifs
      · exact ⟨"FileAccess_Permission", rfl⟩
      · exact ⟨"FileAccess", rfl⟩
    · exact hdefault p
  rw [tableName, searchPath]
  cases hfind : classes.find? fun c => parentClass p = some c.1 with
  | none => exact hdefault p
  | some c => exact hall c (List.mem_of_find?_eq_some hfind) p

lemma tableName_ne (p : Path) : tableName p ≠ "AS" := by
  obtain ⟨s, hs⟩ := tableName_prelude p
  intro h
  have htext := congrArg String.toList (hs.symm.trans h)
  rw [String.toList_append] at htext
  exact absurd (congrArg List.length htext) (by simp)

lemma words_not_as {ws : List String} (h : ∀ w ∈ ws, w ≠ "AS") : ∀ x ∈ words ws, wordOf x ≠ some "AS" := by
  intro x hx
  obtain ⟨w, hw, rfl⟩ := List.mem_map.mp hx
  exact fun heq => h w hw (Option.some.inj heq)

lemma alias_not_as (table : JoinedTable) (s : String) : table.alias ++ s ≠ "AS" := by
  intro h
  have hhead : 't' ∈ (table.alias ++ s).toList := by
    rw [String.toList_append, JoinedTable.alias, aliasName, String.toList_append]
    exact List.mem_append_left _ (List.mem_append_left _ (List.mem_singleton_self _))
  rw [h] at hhead
  exact absurd hhead (by decide)

lemma condition_not_as (table : JoinedTable) : ∀ x ∈ table.condition, wordOf x ≠ some "AS" := by
  have hconstraint : ∀ c : IndexConstraint, ∀ x ∈ words ["AND"] ++ c.toText table.alias, wordOf x ≠ some "AS" := by
    intro c x hx
    rcases List.mem_append.mp hx with hx | hx
    · exact words_not_as (by decide) x hx
    rcases List.mem_append.mp hx with hx | hx
    · refine words_not_as (fun w hw => ?_) x hx
      rcases List.mem_cons.mp hw with rfl | hw
      · exact alias_not_as table _
      · rw [List.mem_singleton.mp hw]
        split_ifs <;> decide
    · rw [List.mem_singleton.mp hx]
      exact fun h => by cases h
  intro x hx
  rcases List.mem_append.mp hx with hx | hx
  · rcases List.mem_append.mp hx with hx | hx
    · cases hparent : table.parentType with
      | none =>
        rw [hparent] at hx
        cases hx
      | some c =>
        rw [hparent] at hx
        rcases List.mem_append.mp hx with hx | hx
        · rcases List.mem_append.mp hx with hx | hx
          · refine words_not_as (fun w hw => ?_) x hx
            rcases List.mem_cons.mp hw with rfl | hw
            · exact alias_not_as table _
            · rw [List.mem_singleton.mp hw]
              decide
          · rw [List.mem_singleton.mp hx]
            exact fun h => by cases h
        · exact words_not_as (by decide) x hx
    · refine words_not_as (fun w hw => ?_) x hx
      rcases List.mem_cons.mp hw with rfl | hw
      · exact alias_not_as table _
      · have hrest : ∀ w ∈ ["=", "top_table._ident"], w ≠ "AS" := by decide
        exact hrest w hw
  · obtain ⟨c, -, hx⟩ := List.mem_flatMap.mp hx
    exact hconstraint c x hx

lemma aliases_table {table : JoinedTable} (hname : table.tableName ≠ "AS") (t : SqlText) :
    aliases (table.toText ++ t) = table.alias :: aliases t := by
  have hfront : ∀ x ∈ words ["LEFT", "JOIN", table.tableName], wordOf x ≠ some "AS" := words_not_as (by simp [hname])
  have hrest : ∀ x ∈ words [table.alias, "ON"] ++ paren table.condition, wordOf x ≠ some "AS" := by
    intro x hx
    rcases List.mem_append.mp hx with hx | hx
    · refine words_not_as (fun w hw => ?_) x hx
      rcases List.mem_cons.mp hw with rfl | hw
      · simpa using alias_not_as table ""
      · rw [List.mem_singleton.mp hw]
        decide
    · rcases List.mem_cons.mp hx with rfl | hx
      · exact fun h => by cases h
      rcases List.mem_append.mp hx with hx | hx
      · exact condition_not_as table x hx
      · rw [List.mem_singleton.mp hx]
        exact fun h => by cases h
  have htext : table.toText ++ t = words ["LEFT", "JOIN", table.tableName] ++ (.atom (.word "AS") ::
      ((words [table.alias, "ON"] ++ paren table.condition) ++ t)) := by
    simp [JoinedTable.toText, words]
  rw [htext, aliases_append hfront, aliases_as, aliases_append hrest]
  rfl

/-- The names of the tables, in order. -/
lemma aliases_toText (h : join.Numbered) : aliases join.toText = "top_table" :: join.tables.map JoinedTable.alias := by
  have htables : ∀ tables : List JoinedTable, (∀ t ∈ tables, t.tableName ≠ "AS") →
      aliases (tables.flatMap JoinedTable.toText) = tables.map JoinedTable.alias := by
    intro tables hnames
    induction tables with
    | nil => rfl
    | cons table tables ih =>
      rw [List.flatMap_cons, aliases_table (hnames table List.mem_cons_self), List.map_cons,
        ih fun t ht => hnames t (List.mem_cons_of_mem _ ht)]
  have hfront : ∀ x ∈ words [join.topTable], wordOf x ≠ some "AS" := words_not_as fun w hw => by
    rw [List.mem_singleton.mp hw, Join.topTable]
    split_ifs <;> decide
  have htext : join.toText = words [join.topTable] ++ (.atom (.word "AS") ::
      (words ["top_table"] ++ join.tables.flatMap JoinedTable.toText)) := rfl
  rw [htext, aliases_append hfront, aliases_as, aliases_append (words_not_as (by decide)),
    htables join.tables fun t ht => by rw [h.named t ht]; exact tableName_ne t.path]
  rfl

lemma alias_nodup (h : join.Numbered) (hnext : join.nextId ≤ 2 ^ 31) : (join.tables.map JoinedTable.alias).Nodup := by
  have hmap : join.tables.map JoinedTable.alias = (join.tables.map JoinedTable.aliasedTableName).map aliasName := by
    rw [List.map_map]
    rfl
  rw [hmap]
  refine h.nodup.map_on fun id hid id' hid' heq => ?_
  obtain ⟨t, ht, rfl⟩ := List.mem_map.mp hid
  obtain ⟨t', ht', rfl⟩ := List.mem_map.mp hid'
  exact aliasName_injective ((h.below t ht).trans_le hnext) ((h.below t' ht').trans_le hnext) heq

lemma alias_joined_once (h : join.Numbered) (hnext : join.nextId ≤ 2 ^ 31) {t : JoinedTable} (ht : t ∈ join.tables) :
    (aliases join.toText).count t.alias = 1 := by
  have hne : t.alias ≠ "top_table" := aliasName_ne (c := 'o') (by decide) (by decide)
  rw [aliases_toText h, List.count_cons_of_ne hne.symm]
  exact List.count_eq_one_of_mem (alias_nodup h hnext) (List.mem_map.mpr ⟨t, ht, rfl⟩)

end Aliases

section Soundness

variable {copied : List String} {g : Generation} {t : SqlText} {join : Join}

/-- The texts name tables of the join, which have different numbers. -/
structure Generation.Sound (copied : List String) (g : Generation) : Prop where
  numbered : g.join.Numbered
  fields : Spoken ((joinedNames copied).Allows g.join) g.fields
  orderBy : Spoken ((joinedNames copied).Allows g.join) g.orderBy
  groupBy : Spoken ((joinedNames copied).Allows g.join) g.groupBy
  condition : Spoken ((joinedNames copied).Allows g.join) g.condition

lemma Spoken.extends {join' : Join} (h : Spoken ((joinedNames copied).Allows join) t)
    (hextends : (joinedNames copied).Extends join join') : Spoken ((joinedNames copied).Allows join') t :=
  fun x hx => (joinedNames copied).mono hextends (h x hx)

lemma Generation.Sound.new : Generation.new.Sound copied where
  numbered := ⟨List.nodup_nil, fun _ ht => absurd ht List.not_mem_nil, fun _ ht => absurd ht List.not_mem_nil⟩
  fields _ hx := absurd hx List.not_mem_nil
  orderBy _ hx := absurd hx List.not_mem_nil
  groupBy _ hx := absurd hx List.not_mem_nil
  condition _ hx := absurd hx List.not_mem_nil

/-- The join of a sound generation is extended. -/
lemma Generation.Sound.moved (h : g.Sound copied) (hs : join.Numbered)
    (hextends : (joinedNames copied).Extends g.join join) : ({ g with join := join } : Generation).Sound copied where
  numbered := hs
  fields := h.fields.extends hextends
  orderBy := h.orderBy.extends hextends
  groupBy := h.groupBy.extends hextends
  condition := h.condition.extends hextends

variable (w : Draft Join (Token Lexeme)) (faults : Faults) (n : ℕ)

lemma separator_keeps (t : SqlText) (hs : join.Numbered) : (Generation.separator t).Keeps (joinedNames copied) join := by
  rw [Generation.separator]
  split_ifs
  · exact .skip hs
  · exact .put hs allows_ignores.comma

lemma draftGroup_keeps (flags : SelectedPathFlags) (hs : g.join.Numbered) :
    (g.draftGroup flags).Keeps (joinedNames copied) g.join := by
  rw [Generation.draftGroup]
  split_ifs
  · exact (separator_keeps _ hs).andThen fun _ hs _ => .put hs (allows_ignores.number _)
  · exact .skip hs

lemma draftOrder_keeps (flags : SelectedPathFlags) (hs : g.join.Numbered) :
    (g.draftOrder flags).Keeps (joinedNames copied) g.join := by
  have hword : '.' ∉ (if flags.orderAsc then "ASC" else "DESC").toList := by
    cases flags.orderAsc <;> decide
  rw [Generation.draftOrder]
  by_cases hordered : (flags.orderAsc || flags.orderDesc) = true
  · rw [if_pos hordered]
    exact (separator_keeps _ hs).andThen fun _ hs _ =>
      .put hs ((allows_ignores.number _).append (allows_ignores.word hword))
  · rw [if_neg hordered]
    exact .skip hs

section Writing

variable {w : Draft Join (Token Lexeme)} (faults : Faults) (n : ℕ)

lemma Generation.Sound.writeFields (h : g.Sound copied) (hw : w.Keeps (joinedNames copied) g.join) (count : ℕ) :
    ({ g with fields := g.fields ++ (w faults n g.join).text, join := (w faults n g.join).state,
              fieldCount := count } : Generation).Sound copied := by
  obtain ⟨hs, hextends, htext⟩ := hw faults n
  have hmoved := h.moved hs hextends
  exact ⟨hs, hmoved.fields.append htext, hmoved.orderBy, hmoved.groupBy, hmoved.condition⟩

lemma Generation.Sound.writeOrder (h : g.Sound copied) (hw : w.Keeps (joinedNames copied) g.join) :
    ({ g with orderBy := g.orderBy ++ (w faults n g.join).text, join := (w faults n g.join).state } :
      Generation).Sound copied := by
  obtain ⟨hs, hextends, htext⟩ := hw faults n
  have hmoved := h.moved hs hextends
  exact ⟨hs, hmoved.fields, hmoved.orderBy.append htext, hmoved.groupBy, hmoved.condition⟩

lemma Generation.Sound.writeGroup (h : g.Sound copied) (hw : w.Keeps (joinedNames copied) g.join) :
    ({ g with groupBy := g.groupBy ++ (w faults n g.join).text, join := (w faults n g.join).state } :
      Generation).Sound copied := by
  obtain ⟨hs, hextends, htext⟩ := hw faults n
  have hmoved := h.moved hs hextends
  exact ⟨hs, hmoved.fields, hmoved.orderBy, hmoved.groupBy.append htext, hmoved.condition⟩

lemma Generation.Sound.writeCondition (h : g.Sound copied) (hw : w.Keeps (joinedNames copied) g.join) :
    ({ g with condition := g.condition ++ (w faults n g.join).text, join := (w faults n g.join).state } :
      Generation).Sound copied := by
  obtain ⟨hs, hextends, htext⟩ := hw faults n
  have hmoved := h.moved hs hextends
  exact ⟨hs, hmoved.fields, hmoved.orderBy, hmoved.groupBy, hmoved.condition.append htext⟩

end Writing

lemma addOptions_sound (flags : SelectedPathFlags) (faults : Faults) (clock count : ℕ) (h : g.Sound copied) :
    (g.addOptions flags faults clock count).Sound copied := by
  induction count generalizing clock g with
  | zero => exact h
  | succ count ih =>
    have hgrouped := h.writeGroup faults clock (draftGroup_keeps flags h.numbered)
    rw [Generation.addOptions]
    dsimp only
    split_ifs
    · have hordered := hgrouped.writeOrder faults (g.draftGroup flags faults clock g.join).clock
        (draftOrder_keeps flags hgrouped.numbered)
      refine ih _ ⟨hordered.numbered, hordered.fields, hordered.orderBy, hordered.groupBy, hordered.condition⟩
    · exact hgrouped.writeOrder faults (g.draftGroup flags faults clock g.join).clock
        (draftOrder_keeps flags hgrouped.numbered)
    · exact hgrouped

variable [R : Rendering] {b : Backend} {faults : Faults}

lemma perform_sound {r : Resolution} (hc : qualifiers r.copiedText ⊆ copied) (h : g.Sound copied) :
    (g.perform b faults r).Sound copied := by
  cases r with
  | ident =>
    refine h.writeFields faults 0 ((separator_keeps _ h.numbered).andThen fun join hs _ => .put hs ?_) _
    have hident : Spoken ((joinedNames copied).Allows join) (words ["top_table._ident"]) :=
      @column_allowed copied join none (by simp) "_ident"
    exact (allows_ignores.word (by decide)).append (allows_ignores.paren hident)
  | select selected =>
    have hadded := h.writeFields faults 0 ((separator_keeps g.fields h.numbered).andThen fun join hs _ =>
      draftObject_keeps (b := b) selected hc hs) g.fieldCount
    rw [Generation.perform, Generation.addSelected]
    split_ifs
    · exact addOptions_sound _ _ _ _ hadded
    · exact hadded
  | criteria criteria => exact h.writeCondition faults 0 (draftCriteria_keeps criteria h.numbered)

lemma run_sound {ops : List (Resolution × Faults)} (hc : ∀ op ∈ ops, qualifiers op.1.copiedText ⊆ copied)
    (h : g.Sound copied) : (g.run b ops).Sound copied := by
  induction ops generalizing g with
  | nil => exact h
  | cons op ops ih =>
    obtain ⟨r, faults⟩ := op
    exact ih (fun op hop => hc op (List.mem_cons_of_mem _ hop))
      (perform_sound (hc (r, faults) List.mem_cons_self) h)

def noFaults : Faults := fun _ => none

end Soundness

section Overflow

variable [R : Rendering] {b : Backend} {g : Generation} {k : ℕ}

/-- The step that writes the conditions on the indexes fails. -/
def indexFault : Faults := fun n => if n = 4 then some 0 else none

def joinedText (k : ℕ) : Join := ⟨some .alert, [.of textPath (tableName textPath) 0], k⟩

def selectTime : Resolution := .select (.new (.idmefPath (createTimePath .alert)) ⟨false, false, false⟩)

omit R in
lemma draftPathResolve_taken : (draftPathResolve (createTimePath .alert) .select) indexFault 1 (joinedText k) =
    ⟨false, [], joinedText (k + 1), 5⟩ := by
  have hjoined : ¬ ((createTimePath .alert).depth = 2 ∧ (createTimePath .alert).getValueType ≠ some .time) := by decide
  have hlookup : (joinedText k).lookupTable (createTimePath .alert) = none := by rfl
  rw [draftPathResolve, if_neg hjoined, Draft.given, hlookup]
  rfl

/-- A number is taken for a table that is not joined. -/
lemma perform_taken (hf : g.fields ≠ []) (hjoin : g.join = joinedText k) :
    (g.perform b indexFault selectTime).fields ≠ [] ∧ (g.perform b indexFault selectTime).join = joinedText (k + 1) := by
  have hwritten : ((Generation.separator g.fields).andThen (draftPathResolve (createTimePath .alert) .select)) indexFault 0
      g.join = ⟨false, comma, joinedText (k + 1), 5⟩ := by
    have hcomma : (Draft.put comma : Draft Join (Token Lexeme)) indexFault 0 (joinedText k) =
        ⟨true, comma, joinedText k, 1⟩ := rfl
    rw [hjoin, Generation.separator, if_neg hf, Draft.andThen, hcomma]
    simp only [draftPathResolve_taken, if_true, List.append_nil]
  have hperform : ∀ r, r = ((Generation.separator g.fields).andThen (draftPathResolve (createTimePath .alert) .select))
      indexFault 0 g.join → r.done = false →
        g.perform b indexFault selectTime = { g with fields := g.fields ++ r.text, join := r.state } := by
    rintro r rfl hdone
    exact if_neg fun h => Bool.false_ne_true (hdone.symm.trans h)
  rw [hperform _ hwritten.symm rfl]
  exact ⟨by simp [hf], rfl⟩

lemma run_cons (r : Resolution) (faults : Faults) (rest : List (Resolution × Faults)) :
    g.run b ((r, faults) :: rest) = (g.perform b faults r).run b rest := rfl

lemma run_taken (n : ℕ) (rest : List (Resolution × Faults)) (hf : g.fields ≠ []) (hjoin : g.join = joinedText k) :
    ∃ g' : Generation, g'.fields ≠ [] ∧ g'.join = joinedText (k + n) ∧
      g.run b (List.replicate n (selectTime, indexFault) ++ rest) = g'.run b rest := by
  induction n generalizing g k with
  | zero => exact ⟨g, hf, hjoin, rfl⟩
  | succ n ih =>
    obtain ⟨hf', hjoin'⟩ := perform_taken (b := b) hf hjoin
    obtain ⟨g', hfields, hnumber, hrun⟩ := ih hf' hjoin'
    refine ⟨g', hfields, ?_, ?_⟩
    · rw [hnumber, Nat.add_assoc, Nat.add_comm 1 n]
    · rw [List.replicate_succ, List.cons_append]
      exact hrun

/-- A table is joined under the number that is taken. -/
lemma perform_joins (hf : g.fields ≠ []) (hjoin : g.join = joinedText k) :
    (g.perform b noFaults selectTime).join.tables = [.of textPath (tableName textPath) 0,
      .of (createTimePath .alert) (tableName (createTimePath .alert)) k] := by
  have hjoined : ¬ ((createTimePath .alert).depth = 2 ∧ (createTimePath .alert).getValueType ≠ some .time) := by decide
  have hlookup : (joinedText k).lookupTable (createTimePath .alert) = none := by rfl
  have hresolved : ∃ text, (draftPathResolve (createTimePath .alert) .select) noFaults 1 (joinedText k) =
      ⟨true, text, ⟨some .alert, [.of textPath (tableName textPath) 0,
        .of (createTimePath .alert) (tableName (createTimePath .alert)) k], k + 1⟩, 6⟩ := by
    rw [draftPathResolve, if_neg hjoined, Draft.given, hlookup]
    exact ⟨_, rfl⟩
  obtain ⟨text, htext⟩ := hresolved
  have hcomma : (Draft.put comma : Draft Join (Token Lexeme)) noFaults 0 (joinedText k) =
      ⟨true, comma, joinedText k, 1⟩ := rfl
  have hwritten : ((Generation.separator g.fields).andThen (draftPathResolve (createTimePath .alert) .select)) noFaults 0
      g.join = ⟨true, comma ++ text, ⟨some .alert, [.of textPath (tableName textPath) 0,
        .of (createTimePath .alert) (tableName (createTimePath .alert)) k], k + 1⟩, 6⟩ := by
    rw [hjoin, Generation.separator, if_neg hf, Draft.andThen, hcomma]
    simp only [htext, if_true]
  have hperform : ∀ r, r = ((Generation.separator g.fields).andThen (draftPathResolve (createTimePath .alert) .select))
      noFaults 0 g.join → r.done = true → (g.perform b noFaults selectTime).join = r.state := by
    rintro r rfl hdone
    exact congrArg Generation.join (if_pos hdone)
  rw [hperform _ hwritten.symm rfl]

/-- A path is resolved, then the table of another is not joined as often as there are numbers, and then it is. -/
def overflowing : List (Resolution × Faults) :=
  (.select (.new (.idmefPath textPath) ⟨false, false, false⟩), noFaults) ::
    (List.replicate (2 ^ 32 - 1) (selectTime, indexFault) ++ [(selectTime, noFaults)])

end Overflow

section Agreement

/-! Without a fault the texts are those of the query, as long as the numbers are those of a signed integer. -/

variable {join join' : Join} {p : Path} {context : FieldContext} {cs : List Column} {t : SqlText}

lemma aliasName_small {id : ℕ} (h : id < 2 ^ 31) : aliasName id = s!"t{id}" := by
  have hbmod : (id : Int).bmod (2 ^ 32) = id := by
    apply Int.bmod_eq_of_le_mul_two
    · omega
    · omega
  rw [aliasName, hbmod]
  rfl

lemma column_written {c : Column} (h : ∀ id ∈ c.table, id < 2 ^ 31) : c.written = c.toText := by
  obtain ⟨table, name⟩ := c
  cases table with
  | none => rfl
  | some id =>
    rw [Column.written, tableAlias, aliasName_small (h id rfl)]
    rfl

lemma columns_written (h : ∀ c ∈ cs, ∀ id ∈ c.table, id < 2 ^ 31) : columnsWritten cs = columnsText cs := by
  induction cs with
  | nil => rfl
  | cons c cs ih =>
    have hc := column_written (h c List.mem_cons_self)
    have hcs := ih fun c hc => h c (List.mem_cons_of_mem _ hc)
    cases cs with
    | nil => exact hc
    | cons c' cs =>
      change c.written ++ comma ++ columnsWritten (c' :: cs) = c.toText ++ comma ++ columnsText (c' :: cs)
      rw [hc, hcs]

/-- A join that the paths have been resolved with, and the numbers it has taken. -/
lemma newTable_eq {table : JoinedTable} {name : String} (h : join.newTable p name = .ok (table, join')) :
    join.withTopClass p = some { join with topClass := some p.top } ∧ table = .of p name join.nextId ∧
      join' = ⟨some p.top, join.tables ++ [.of p name join.nextId], join.nextId + 1⟩ := by
  rw [Join.newTable] at h
  rw [Join.withTopClass]
  cases htop : join.topClass with
  | none =>
    simp only [htop] at h
    cases h
    exact ⟨rfl, rfl, rfl⟩
  | some c =>
    simp only [htop] at h
    split_ifs at h with hc
    cases h
    refine ⟨(if_neg hc).trans ?_, rfl, rfl⟩
    rw [not_not.mp hc, ← htop]

lemma draftNewTable_writes {table : JoinedTable} {name : String} (h : join.newTable p name = .ok (table, join')) :
    (draftNewTable p name).Writes join [] join' := by
  obtain ⟨htop, -, rfl⟩ := newTable_eq h
  intro n
  refine ⟨n + 1 + 1 + 1, ?_⟩
  rw [draftNewTable, Draft.change_andThen htop]
  rfl

lemma pathResolve_numbered (hs : join.Numbered) (h : pathResolve p context join = .ok (cs, join')) :
    join'.Numbered ∧ join.nextId ≤ join'.nextId ∧ ∀ c ∈ cs, ∀ id ∈ c.table, id < join'.nextId := by
  have hcolumns : ∀ (table : Option ℕ) (names : List String) (n : ℕ), (∀ id ∈ table, id < n) →
      ∀ c ∈ names.map (Column.mk table), ∀ id ∈ c.table, id < n := by
    intro table names n htable c hc id hid
    obtain ⟨name, -, rfl⟩ := List.mem_map.mp hc
    exact htable id hid
  rw [pathResolve] at h
  split_ifs at h
  · cases h
    exact ⟨hs, le_rfl, hcolumns none _ _ (by simp)⟩
  · cases hlookup : join.lookupTable p with
    | some table =>
      rw [hlookup] at h
      cases h
      refine ⟨hs, le_rfl, hcolumns _ _ _ fun id hid => ?_⟩
      rw [← Option.some.inj hid]
      exact hs.below table (lookupTable_mem hlookup)
    | none =>
      rw [hlookup] at h
      obtain ⟨⟨table, join₁⟩, hnew, h⟩ := ok_of_bind h
      cases h
      obtain ⟨htop, rfl, rfl⟩ := newTable_eq hnew
      have hkeeps := (@draftNewTable_keeps [] _ p hs (fun _ => none) 0).1
      obtain ⟨m, hm⟩ := draftNewTable_writes hnew 0
      rw [hm] at hkeeps
      refine ⟨hkeeps, Nat.le_succ _, hcolumns _ _ _ fun id hid => ?_⟩
      rw [← Option.some.inj hid]
      exact Nat.lt_succ_self _

lemma draftPathResolve_writes (hs : join.Numbered) (h : pathResolve p context join = .ok (cs, join'))
    (hnext : join'.nextId ≤ 2 ^ 31) : (draftPathResolve p context).Writes join (columnsText cs) join' := by
  obtain ⟨-, -, hids⟩ := pathResolve_numbered hs h
  have hcs := columns_written fun c hc id hid => (hids c hc id hid).trans_le hnext
  rw [← hcs]
  rw [pathResolve] at h
  rw [draftPathResolve]
  split_ifs at h with hd
  · cases h
    rw [if_pos hd]
    exact .put
  · rw [if_neg hd]
    intro n
    rw [Draft.given]
    cases hlookup : join.lookupTable p with
    | some table =>
      rw [hlookup] at h
      cases h
      exact Draft.Writes.put n
    | none =>
      rw [hlookup] at h
      obtain ⟨⟨table, join₁⟩, hnew, h⟩ := ok_of_bind h
      cases h
      obtain ⟨-, rfl, -⟩ := newTable_eq hnew
      exact Draft.Writes.allocate.andThen ((draftNewTable_writes hnew).andThen .put) n

variable [R : Rendering] {b : Backend} {selected : SelectedPath} {object : SelectedObject}

lemma selectedObjectToString_numbered (hs : join.Numbered)
    (h : selectedObjectToString b selected object join = .ok (t, join')) :
    join'.Numbered ∧ join.nextId ≤ join'.nextId := by
  induction object generalizing join t join' with
  | string s | int n =>
    cases h
    exact ⟨hs, le_rfl⟩
  | idmefPath p =>
    obtain ⟨⟨cs, join₁⟩, hcs, h⟩ := ok_of_bind h
    cases h
    obtain ⟨hnumbered, hle, -⟩ := pathResolve_numbered hs hcs
    exact ⟨hnumbered, hle⟩
  | extract arg type ih | timezone arg tzvalue ih =>
    obtain ⟨⟨field, join₁⟩, hfield, h⟩ := ok_of_bind h
    obtain ⟨text, -, h⟩ := ok_of_bind h
    cases h
    exact ih hs hfield
  | interval arg value unit iha ihv =>
    obtain ⟨⟨field, join₁⟩, hfield, h⟩ := ok_of_bind h
    obtain ⟨⟨value', join₂⟩, hvalue, h⟩ := ok_of_bind h
    obtain ⟨text, -, h⟩ := ok_of_bind h
    cases h
    obtain ⟨hs₁, hle₁⟩ := iha hs hfield
    obtain ⟨hs₂, hle₂⟩ := ihv hs₁ hvalue
    exact ⟨hs₂, hle₁.trans hle₂⟩
  | oneArg f arg ih =>
    obtain ⟨⟨field, join₁⟩, hfield, h⟩ := ok_of_bind h
    cases h
    exact ih hs hfield

lemma draftObject_writes (hs : join.Numbered) (h : selectedObjectToString b selected object join = .ok (t, join'))
    (hnext : join'.nextId ≤ 2 ^ 31) : (draftObject b selected object).Writes join t join' := by
  induction object generalizing join t join' with
  | string s | int n =>
    cases h
    exact .put
  | idmefPath p =>
    obtain ⟨⟨cs, join₁⟩, hcs, h⟩ := ok_of_bind h
    cases h
    exact draftPathResolve_writes hs hcs hnext
  | extract arg type ih =>
    obtain ⟨⟨field, join₁⟩, hfield, h⟩ := ok_of_bind h
    obtain ⟨text, htext, h⟩ := ok_of_bind h
    cases h
    exact Draft.Writes.allocate.andThen ((ih hs hfield hnext).into (.putOk htext))
  | timezone arg tzvalue ih =>
    obtain ⟨⟨field, join₁⟩, hfield, h⟩ := ok_of_bind h
    obtain ⟨text, htext, h⟩ := ok_of_bind h
    cases h
    exact Draft.Writes.allocate.andThen ((ih hs hfield hnext).into (.putOk htext))
  | interval arg value unit iha ihv =>
    obtain ⟨⟨field, join₁⟩, hfield, h⟩ := ok_of_bind h
    obtain ⟨⟨value', join₂⟩, hvalue, h⟩ := ok_of_bind h
    obtain ⟨text, htext, h⟩ := ok_of_bind h
    cases h
    obtain ⟨hs₁, -⟩ := selectedObjectToString_numbered hs hfield
    obtain ⟨-, hle⟩ := selectedObjectToString_numbered hs₁ hvalue
    exact Draft.Writes.allocate.andThen (Draft.Writes.allocate.andThen
      ((iha hs hfield (hle.trans hnext)).into ((ihv hs₁ hvalue hnext).into (.putOk htext))))
  | oneArg f arg ih =>
    obtain ⟨⟨field, join₁⟩, hfield, h⟩ := ok_of_bind h
    cases h
    have hwrites := (Draft.Writes.put (s := join) (t := words [f.toString] ++ [.open])).ignoring
      ((ih hs hfield hnext).followed (.put (t := [.close])))
    have htext : words [f.toString] ++ [.open] ++ (field ++ [.close]) = call f.toString field := by
      simp [call, paren]
    rwa [htext] at hwrites

variable {field : SqlText} {op : CriterionOperator}

lemma draftTimeConstraint_writes {x : TimeConstraint × Int}
    (h : buildTimeConstraintString b field x.1 op x.2 0 = .ok t) :
    (draftTimeConstraint b field op x).Writes join t join := by
  obtain ⟨extracted, hextracted, h⟩ := ok_of_bind h
  cases hname : getOperatorString b op with
  | none =>
    rw [hname] at h
    cases h
  | some name =>
    rw [hname] at h
    cases h
    have hcomparison := comparisonText.eq_def b x.1 op x.2
    rw [hname] at hcomparison
    have hwrites := (Draft.Writes.putOk (s := join) hextracted).andThen (.putOk hcomparison)
    rw [← List.append_assoc] at hwrites
    exact hwrites

lemma draftTimes_writes {xs : List (TimeConstraint × Int)} {ts : List SqlText}
    (h : (xs.mapM fun x => buildTimeConstraintString b field x.1 op x.2 0) = .ok ts) :
    (draftTimes b field op xs).Writes join (joinAnd ts) join := by
  induction xs generalizing ts with
  | nil =>
    cases h
    exact .skip
  | cons x xs ih =>
    rw [List.mapM_cons] at h
    obtain ⟨t, ht, h⟩ := ok_of_bind h
    obtain ⟨rest, hrest, h⟩ := ok_of_bind h
    cases h
    cases xs with
    | nil =>
      cases hrest
      exact draftTimeConstraint_writes ht
    | cons y ys =>
      have hne : rest ≠ [] := by
        rintro rfl
        rw [List.mapM_cons] at hrest
        obtain ⟨u, hu, hus⟩ := ok_of_bind hrest
        obtain ⟨us, hus, hcons⟩ := ok_of_bind hus
        cases hcons
      obtain ⟨r, rest, rfl⟩ := List.exists_cons_of_ne_nil hne
      have hwrites := (@draftTimeConstraint_writes join _ _ _ _ _ _ ht).andThen (Draft.Writes.andThen
        (.put (t := words ["AND"])) (ih hrest))
      rw [← List.append_assoc] at hwrites
      exact hwrites

lemma draftCriterionValue_writes {value : CriterionValue} (h : buildCriterionValue b field op value = .ok t) :
    (draftCriterionValue b field op value).Writes join t join := by
  cases value with
  | value v => exact .putOk h
  | regex s => exact .putOk h
  | brokenDownTime lt =>
    have htimes : ∀ {op : CriterionOperator} {text : SqlText},
        buildCriterionBrokenDownTimeEqual b field op lt = .ok text →
          (draftTimes b field op (timeTable lt)).Writes join text join := by
      intro op text htext
      rw [buildCriterionBrokenDownTimeEqual] at htext
      cases hts : (timeTable lt).mapM fun x => buildTimeConstraintString b field x.1 op x.2 0 with
      | error e =>
        rw [hts] at htext
        cases htext
      | ok ts =>
        rw [hts] at htext
        cases htext
        exact draftTimes_writes hts
    rw [buildCriterionValue, buildCriterionBrokenDownTime] at h
    rw [draftCriterionValue]
    split_ifs at h with hequal hnot
    · rw [if_pos hequal]
      exact htimes h
    · rw [if_neg hequal, if_pos hnot]
      obtain ⟨text, htext, h⟩ := ok_of_bind h
      cases h
      have hwrites := (Draft.Writes.put (s := join) (t := words ["NOT"] ++ [.open])).andThen
        ((htimes htext).andThen (.put (t := [.close])))
      have hnot : words ["NOT"] ++ [.open] ++ (text ++ [.close]) = words ["NOT"] ++ paren text := by simp [paren]
      rwa [hnot] at hwrites

lemma draftCriterionString_writes {value : CriterionValue} (h : buildCriterionString b field op value = .ok t) :
    (draftCriterionString b field op value).Writes join t join := by
  rw [buildCriterionString] at h
  rw [draftCriterionString]
  split_ifs at h with hnull hnot
  · cases h
    rw [if_pos hnull]
    exact .put
  · obtain ⟨text, htext, h⟩ := ok_of_bind h
    cases h
    rw [if_neg hnull, if_pos hnot]
    have hwrites := (Draft.Writes.put (s := join)
      (t := [.open] ++ field ++ operatorWords b .null ++ words ["OR"])).andThen
        ((draftCriterionValue_writes htext).andThen (.put (t := [.close])))
    have hparen : [.open] ++ field ++ operatorWords b .null ++ words ["OR"] ++ (text ++ [.close]) =
        paren (field ++ operatorWords b .null ++ words ["OR"] ++ text) := by simp [paren]
    rwa [hparen] at hwrites
  · obtain ⟨text, htext, h⟩ := ok_of_bind h
    cases h
    rw [if_neg hnull, if_neg hnot]
    exact draftCriterionValue_writes htext

/-- Without a fault a text is written as it is built, and the numbers only grow. -/
def WrittenOut (w : Draft Join (Token Lexeme)) (join : Join) (t : SqlText) (join' : Join) : Prop :=
  join'.Numbered ∧ join.nextId ≤ join'.nextId ∧ (join'.nextId ≤ 2 ^ 31 → w.Writes join t join')

omit R in
lemma WrittenOut.andThen {w w' : Draft Join (Token Lexeme)} {join'' : Join} {u : SqlText} (h : WrittenOut w join t join')
    (h' : WrittenOut w' join' u join'') : WrittenOut (w.andThen w') join (t ++ u) join'' :=
  ⟨h'.1, h.2.1.trans h'.2.1, fun hnext => (h.2.2 (h'.2.1.trans hnext)).andThen (h'.2.2 hnext)⟩

omit R in
lemma WrittenOut.put (hs : join.Numbered) : WrittenOut (.put t) join t join := ⟨hs, le_rfl, fun _ => .put⟩

lemma draftCriterion_writtenOut {criterion : Criterion} (hs : join.Numbered)
    (h : classicPathResolveCriterion b criterion join = .ok (t, join')) :
    WrittenOut (draftCriterion b criterion) join t join' := by
  obtain ⟨⟨cs, join₁⟩, hcs, h⟩ := ok_of_bind h
  obtain ⟨text, htext, h⟩ := ok_of_bind h
  cases h
  obtain ⟨hs', hle, -⟩ := pathResolve_numbered hs hcs
  exact ⟨hs', hle, fun hnext => Draft.Writes.allocate.andThen
    ((draftPathResolve_writes hs hcs hnext).into (draftCriterionString_writes htext))⟩

/-- The condition that is written without a fault is that of the query. -/
lemma draftCriteria_writtenOut {criteria : Criteria} (hs : join.Numbered)
    (h : classicPathResolveCriteria b criteria join = .ok (t, join')) :
    WrittenOut (draftCriteria b criteria) join t join' := by
  induction criteria generalizing join t join' with
  | null =>
    cases h
    exact ⟨hs, le_rfl, fun _ => .skip⟩
  | node criterion and or iha iho =>
    obtain ⟨⟨leaf, join₁⟩, hleaf, h⟩ := ok_of_bind h
    obtain ⟨⟨text₂, join₂⟩, hand, h⟩ := ok_of_bind h
    have hfirst := draftCriterion_writtenOut hs hleaf
    have hconjunction : WrittenOut ((draftCriterion b criterion).andThen
        (if and.isNull then .skip else (Draft.put (words ["AND"])).andThen (draftCriteria b and))) join text₂ join₂ := by
      cases hna : and.isNull with
      | true =>
        rw [hna] at hand
        cases hand
        have hskip : WrittenOut (.skip : Draft Join (Token Lexeme)) join₁ [] join₁ := ⟨hfirst.1, le_rfl, fun _ => .skip⟩
        have hboth := hfirst.andThen hskip
        rwa [List.append_nil] at hboth
      | false =>
        rw [hna] at hand
        obtain ⟨⟨sub, join₃⟩, hsub, hand⟩ := ok_of_bind hand
        cases hand
        have hboth := hfirst.andThen ((WrittenOut.put (t := words ["AND"]) hfirst.1).andThen (iha hfirst.1 hsub))
        rwa [← List.append_assoc] at hboth
    rw [draftCriteria]
    cases hno : or.isNull with
    | true =>
      rw [hno] at h
      cases h
      exact hconjunction
    | false =>
      rw [hno] at h
      obtain ⟨⟨sub, join₃⟩, hsub, h⟩ := ok_of_bind h
      cases h
      have hlast := iho hconjunction.1 hsub
      have hall := (WrittenOut.put (t := [.open, .open]) hs).andThen (hconjunction.andThen
        ((WrittenOut.put (t := [.close] ++ words ["OR"] ++ [.open]) hconjunction.1).andThen
          (hlast.andThen (WrittenOut.put (t := [.close, .close]) hlast.1))))
      have htext : [.open, .open] ++ (text₂ ++ ([.close] ++ words ["OR"] ++ [.open] ++ (sub ++ [.close, .close]))) =
          paren (paren text₂ ++ words ["OR"] ++ paren sub) := by simp [paren]
      rwa [htext] at hall

/-- The selected object that is written without a fault is that of the query. -/
lemma draftObject_writtenOut (hs : join.Numbered) (h : selectedObjectToString b selected object join = .ok (t, join')) :
    WrittenOut (draftObject b selected object) join t join' :=
  ⟨(selectedObjectToString_numbered hs h).1, (selectedObjectToString_numbered hs h).2, draftObject_writes hs h⟩

end Agreement

end Preludedb.Classic
