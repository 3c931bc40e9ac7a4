import Preludedb.Paths.Parsing

/-! The objects that are parsed have the arguments that their functions read: the clause that is written
for one, and the type of its value, are those of an object that can have no others. -/

namespace Preludedb.Paths

open Foundations Idmef Sql Classic

section Reading

def timeConstraints : List TimeConstraint :=
  [.year, .month, .yday, .mday, .wday, .hour, .min, .sec, .msec, .usec, .quarter]

def intervalUnits : List IntervalUnit := [.year, .quarter, .month, .day, .hour, .min, .sec]

def timeConstraintOf (code : Int) : Option TimeConstraint :=
  timeConstraints.find? fun t => timeConstraintCode t == code

def intervalUnitOf (code : Int) : Option IntervalUnit := intervalUnits.find? fun u => intervalUnitCode u == code

namespace SelectedNode

def isFunction : SelectedNode → Bool
  | idmefPath _ | string _ | int _ => false
  | function _ _ => true

/-- `*(const int *) preludedb_selected_object_get_data(object)`; there may be no such argument. -/
def intData : Option SelectedNode → Except SqlError Int
  | some (int n) => .ok n
  | _ => .error (preludedbError .undefined)

def stringData : Option SelectedNode → Except SqlError String
  | some (string s) => .ok s
  | _ => .error (preludedbError .undefined)

/-- The first argument is read whether there is one or not. -/
@[simp] def getValueType : SelectedNode → Except SqlError (Option ValueType)
  | idmefPath p => .ok p.getValueType
  | string _ | int _ | function .count _ | function .extract _ => .ok (some .other)
  | function .interval _ | function .timezone _ => .ok (some .time)
  | function _ [] => .error (preludedbError .undefined)
  | function _ (arg :: _) => arg.getValueType

end SelectedNode

/-- The names of the functions that are written as they are. -/
def funcToString : FunctionType → Option String
  | .avg => some "AVG"
  | .count => some "COUNT"
  | .max => some "MAX"
  | .min => some "MIN"
  | .interval => some "INTERVAL"
  | _ => none

variable [R : Rendering]

/-- The plugins refuse a constraint that is none. -/
def extractString (b : Backend) (field : SqlText) (code : Int) : Except SqlError SqlText :=
  match timeConstraintOf code with
  | some type => buildTimeExtractString b field type 0
  | none => .error (preludedbError .generic)

def intervalString (b : Backend) (field value : SqlText) (code : Int) : Except SqlError SqlText :=
  match intervalUnitOf code with
  | some unit => buildTimeIntervalString b field value unit
  | none => .error (preludedbError .generic)

open SelectedNode in
/-- `preludedb_selected_object_to_string` for an object of any shape. -/
@[simp] def nodeToString (b : Backend) (context : FieldContext) :
    SelectedNode → Join → Except SqlError (SqlText × Join)
  | .string s, join => .ok (R.readText s, join)
  | .int n, join => .ok (number n, join)
  | .idmefPath p, join => do
    let (columns, join) ← pathResolve p context join
    pure (columnsText columns, join)
  | .function _ [], _ => .error (preludedbError .undefined)
  | .function .extract (arg :: args), join => do
    let (field, join) ← nodeToString b context arg join
    pure (← extractString b field (← intData args.head?), join)
  | .function .interval (arg :: args), join => do
    let (field, join) ← nodeToString b context arg join
    match args with
    | [] => .error (preludedbError .undefined)
    | value :: units => do
      let (value, join) ← nodeToString b context value join
      pure (← intervalString b field value (← intData units.head?), join)
  | .function .timezone (arg :: args), join => do
    let (field, join) ← nodeToString b context arg join
    pure (← buildTimeTimezoneString b field (← stringData args.head?), join)
  | .function type (arg :: _), join => match funcToString type with
    | none => .error (preludedbErrorVerbose .generic "Unknown function enumeration")
    | some func => do
      let (field, join) ← nodeToString b context arg join
      pure (call func field, join)

/-- The fields of a path are those of a function when the object is one, or is grouped by. -/
def nodeContext (object : SelectedNode) (flags : SelectedPathFlags) : FieldContext :=
  if object.isFunction || flags.groupBy then .function else .select

def addSelectedText (b : Backend) (object : SelectedNode) (flags : SelectedPathFlags) (join : Join) :
    Except SqlError (SqlText × Join) :=
  nodeToString b (nodeContext object flags) object join

end Reading

section Shapes

def functionType : OneArgFunction → FunctionType
  | .min => .min
  | .max => .max
  | .count => .count
  | .avg => .avg

/-- The arguments in the order they are pushed in. -/
@[simp] def nodeOf : SelectedObject → SelectedNode
  | .idmefPath p => .idmefPath p
  | .string s => .string s
  | .int n => .int n
  | .oneArg f arg => .function (functionType f) [nodeOf arg]
  | .extract arg type => .function .extract [nodeOf arg, .int (timeConstraintCode type)]
  | .interval arg value unit => .function .interval [nodeOf arg, nodeOf value, .int (intervalUnitCode unit)]
  | .timezone arg tzvalue => .function .timezone [nodeOf arg, .string tzvalue]

@[simp] lemma timeConstraintOf_code (t : TimeConstraint) : timeConstraintOf (timeConstraintCode t) = some t := by
  cases t <;> rfl

@[simp] lemma intervalUnitOf_code (u : IntervalUnit) : intervalUnitOf (intervalUnitCode u) = some u := by
  cases u <;> rfl

section Codes

variable {s : String} {code : Int} {k : Keyword}

lemma getFilter_ok {table : List (String × Int)} (h : getFilter table s = .ok code) : ∃ e ∈ table, e.2 = code := by
  unfold getFilter at h
  cases hfind : table.find? (fun e => e.1 == s) with
  | none => simp [hfind] at h
  | some e =>
    simp only [hfind, Except.ok.injEq] at h
    exact ⟨e, List.mem_of_find?_eq_some hfind, h⟩

lemma getExtractFilter_ok (h : getExtractFilter s = .ok code) : ∃ t, timeConstraintCode t = code := by
  have hall : ∀ e ∈ extractFilterTable, ∃ t ∈ timeConstraints, timeConstraintCode t = e.2 := by decide
  obtain ⟨e, he, rfl⟩ := getFilter_ok h
  obtain ⟨t, -, ht⟩ := hall e he
  exact ⟨t, ht⟩

lemma getIntervalFilter_ok (h : getIntervalFilter s = .ok code) : ∃ u, intervalUnitCode u = code := by
  have hall : ∀ e ∈ intervalFilterTable, ∃ u ∈ intervalUnits, intervalUnitCode u = e.2 := by decide
  obtain ⟨e, he, rfl⟩ := getFilter_ok h
  obtain ⟨u, -, hu⟩ := hall e he
  exact ⟨u, hu⟩

lemma modifier_some (h : modifier k = some code) : ∃ t, timeConstraintCode t = code := by
  cases k <;> first | exact ⟨_, Option.some.inj h⟩ | cases h

lemma oneargfunc_some {type : FunctionType} (h : oneargfunc k = some type) : ∃ f, functionType f = type := by
  cases k
  case min => exact ⟨.min, Option.some.inj h⟩
  case max => exact ⟨.max, Option.some.inj h⟩
  case count => exact ⟨.count, Option.some.inj h⟩
  case avg => exact ⟨.avg, Option.some.inj h⟩
  all_goals cases h

end Codes

/-- Every object that is derived has the arguments of its functions. -/
lemma exists_nodeOf {n : Nonterminal} {ts : List Terminal} {v : SelectedNode} (h : Derives n ts v) :
    ∃ o, nodeOf o = v := by
  induction h with
  | idmef => exact ⟨.idmefPath _, rfl⟩
  | string => exact ⟨.string _, rfl⟩
  | number => exact ⟨.int _, rfl⟩
  | onearg hk _ ih =>
    obtain ⟨f, rfl⟩ := oneargfunc_some hk
    obtain ⟨o, rfl⟩ := ih
    exact ⟨.oneArg f o, rfl⟩
  | extractfunc _ hs ih =>
    obtain ⟨t, rfl⟩ := getExtractFilter_ok hs
    obtain ⟨o, rfl⟩ := ih
    exact ⟨.extract o t, rfl⟩
  | intervalfunc _ _ hs ih ih' =>
    obtain ⟨u, rfl⟩ := getIntervalFilter_ok hs
    obtain ⟨o, rfl⟩ := ih
    obtain ⟨o', rfl⟩ := ih'
    exact ⟨.interval o o' u, rfl⟩
  | timezonefunc _ ih =>
    obtain ⟨o, rfl⟩ := ih
    exact ⟨.timezone o _, rfl⟩
  | plain _ ih => exact ih
  | modified _ hk ih =>
    obtain ⟨t, rfl⟩ := modifier_some hk
    obtain ⟨o, rfl⟩ := ih
    exact ⟨.extract o t, rfl⟩

variable {o : SelectedObject}

lemma nodeOf_isFunction : (nodeOf o).isFunction = o.isFunction := by
  cases o <;> rfl

lemma nodeOf_getValueType : (nodeOf o).getValueType = .ok o.getValueType := by
  induction o with
  | oneArg f arg ih =>
    cases f
    case count => rfl
    all_goals exact ih
  | _ => rfl

variable [R : Rendering] {b : Backend}

lemma nodeToString_nodeOf (selected : SelectedPath) (join : Join) :
    nodeToString b (getFieldContext selected) (nodeOf o) join = selectedObjectToString b selected o join := by
  induction o generalizing join with
  | idmefPath p => rfl
  | string s => rfl
  | int n => rfl
  | oneArg f arg ih =>
    cases f <;> simp [functionType, funcToString, selectedObjectToString, OneArgFunction.toString, ih]
  | extract arg type ih =>
    simp [selectedObjectToString, extractString, SelectedNode.intData, ih, ok_bind]
  | interval arg value unit ih ih' =>
    simp [selectedObjectToString, intervalString, SelectedNode.intData, ih, ih', ok_bind]
  | timezone arg tzvalue ih =>
    simp [selectedObjectToString, SelectedNode.stringData, ih, ok_bind]

end Shapes

section Faults

/-- What is read is there. -/
def Defined {α : Type} (x : Except SqlError α) : Prop := ∀ e, x = .error e → e.code ≠ .undefined

variable {α β : Type}

lemma Defined.ok (a : α) : Defined (.ok a : Except SqlError α) := fun e h => by cases h

lemma Defined.error {e : SqlError} (h : e.code ≠ .undefined) : Defined (.error e : Except SqlError α) := fun e' h' => by
  cases h'
  exact h

lemma Defined.bind {x : Except SqlError α} {f : α → Except SqlError β} (hx : Defined x) (hf : ∀ a, Defined (f a)) :
    Defined (x >>= f) := by
  intro e h
  cases x with
  | error e' =>
    cases h
    exact hx e rfl
  | ok a => exact hf a e h

lemma pathResolve_defined {p : Path} {context : FieldContext} {join : Join} : Defined (pathResolve p context join) := by
  have hnew : ∀ tableName, Defined (join.newTable p tableName) := by
    intro tableName
    unfold Join.newTable
    cases join.topClass with
    | none => exact .ok _
    | some c =>
      dsimp only
      split_ifs
      · exact .error (fun h => by cases h)
      · exact .ok _
  unfold pathResolve
  split_ifs
  · exact .ok _
  · cases join.lookupTable p with
    | some table => exact .ok _
    | none => exact .bind (hnew _) fun _ => .ok _

variable [R : Rendering] {b : Backend} {selected : SelectedPath}

lemma extract_defined {field : SqlText} {type : TimeConstraint} : Defined (buildTimeExtractString b field type 0) := by
  unfold buildTimeExtractString
  split_ifs
  · cases extractText b type (atOffset b field 0) with
    | some text => exact .ok _
    | none => exact .error (fun h => by cases h)
  · exact .error (fun h => by cases h)

omit R in
lemma interval_defined {field value : SqlText} {unit : IntervalUnit} :
    Defined (buildTimeIntervalString b field value unit) := by
  unfold buildTimeIntervalString
  cases unitWord b unit with
  | none => exact .error (fun h => by cases h)
  | some name => cases b <;> exact .ok _

lemma timezone_defined {field : SqlText} {tzvalue : String} : Defined (buildTimeTimezoneString b field tzvalue) := by
  cases b
  case sqlite3 => exact .error (fun h => by cases h)
  all_goals exact .ok _

lemma selectedObjectToString_defined (o : SelectedObject) (join : Join) :
    Defined (selectedObjectToString b selected o join) := by
  induction o generalizing join with
  | idmefPath p => exact .bind pathResolve_defined fun _ => .ok _
  | string s => exact .ok _
  | int n => exact .ok _
  | oneArg f arg ih => exact .bind (ih join) fun _ => .ok _
  | extract arg type ih => exact .bind (ih join) fun _ => .bind extract_defined fun _ => .ok _
  | interval arg value unit ih ih' =>
    exact .bind (ih join) fun x => .bind (ih' x.2) fun _ => .bind interval_defined fun _ => .ok _
  | timezone arg tzvalue ih => exact .bind (ih join) fun _ => .bind timezone_defined fun _ => .ok _

end Faults

section Accepted

variable [PathReader] [R : Rendering]

/-- An object that is read from a text has every argument that is read of it: its value has a type, and
its text is that of the object whose functions can have no other arguments. -/
theorem pathSelectionParse_written (long : LongSize) (str : String) (v : SelectedNode) (f : SelectedPathFlags)
    (h : pathSelectionParse long str = .ok (v, f)) :
    ∃ o, v.isFunction = o.isFunction ∧ v.getValueType = .ok o.getValueType ∧
      ∀ b join, addSelectedText b v f join = selectedObjectToString b (.new o f) o join ∧
        Defined (addSelectedText b v f join) := by
  obtain ⟨ts, hv⟩ := derives_of_expressions (expressions_of_parse h)
  obtain ⟨o, rfl⟩ := exists_nodeOf hv
  refine ⟨o, nodeOf_isFunction, nodeOf_getValueType, fun b join => ?_⟩
  have htext : addSelectedText b (nodeOf o) f join = selectedObjectToString b (.new o f) o join := by
    have hcontext : nodeContext (nodeOf o) f = getFieldContext (.new o f) := by
      rw [nodeContext, nodeOf_isFunction]
      rfl
    rw [addSelectedText, hcontext]
    exact nodeToString_nodeOf _ _
  exact ⟨htext, htext ▸ selectedObjectToString_defined o join⟩

end Accepted

/-- A library that knows no path. -/
@[reducible] def pathlessReader : PathReader where
  pathNewFast _ := .error (preludedbError .generic)

/-- `extract(5, 'hour') /group_by` -/
theorem pathSelectionParse_written_hour :
    ∃ o : SelectedObject, true = o.isFunction ∧ .ok (some .other) = (.ok o.getValueType : Except SqlError _) ∧
      ∀ b join, addSelectedText (R := plainRendering) b (.function .extract [.int 5, .int 5]) ⟨false, false, true⟩ join =
          selectedObjectToString (R := plainRendering) b (.new o ⟨false, false, true⟩) o join ∧
        Defined (addSelectedText (R := plainRendering) b (.function .extract [.int 5, .int 5]) ⟨false, false, true⟩ join) :=
  @pathSelectionParse_written pathlessReader plainRendering .lp64 "extract(5, 'hour') /group_by" _ _ rfl

end Preludedb.Paths
