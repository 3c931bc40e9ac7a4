import Preludedb.Classic.Criteria
import Preludedb.Classic.SharedRows

/-! The queries for values and for message idents, and the table that each is asked of. -/

namespace Preludedb.Classic

open Foundations Sql Idmef

/-- `alert.create_time` or `heartbeat.create_time`. -/
def createTimePath (messageType : Kind) : Path where
  top := messageType.class
  below := [timeOf "create_time"]
  message := by cases messageType <;> decide
  leads := .child (by cases messageType <;> decide) (by decide)

inductive ResultIdentsOrder
  | none
  | byCreateTimeDesc
  | byCreateTimeAsc
  deriving DecidableEq, Repr

structure Query where
  distinct : Bool
  select : Select
  join : Join
  condition : Option SqlText
  limit : Int
  offset : Int

section Building

/-- The name of the table that is aliased `top_table`. -/
def Join.topTable (join : Join) : String :=
  if join.topClass = some .alert then "Prelude_Alert" else "Prelude_Heartbeat"

variable [R : Rendering] (b : Backend)

/-- There is no WHERE clause without criteria. -/
def whereClause (criteria : Criteria) (join : Join) : Except SqlError (Option SqlText × Join) :=
  if criteria.isNull then .ok (none, join)
  else do
    let (condition, join) ← classicPathResolveCriteria b criteria join
    pure (some condition, join)

def getMessageIdentsSetOrder (messageType : Kind) (order : ResultIdentsOrder) (select : Select)
    (join : Join) : Except SqlError (Select × Join) :=
  let descending := decide (order = .byCreateTimeDesc)
  select.addSelected b (.new (.idmefPath (createTimePath messageType)) ⟨!descending, descending, false⟩)
    join

def getMessageIdents (messageType : Kind) (criteria : Criteria) (order : ResultIdentsOrder)
    (limit offset : Int) : Except SqlError Query := do
  let join := Join.new.setTopClass messageType.class
  let select := Select.new.addField (words ["DISTINCT"] ++ paren (words ["top_table._ident"]))
  let (select, join) ← (if order = .none then .ok (select, join)
    else getMessageIdentsSetOrder b messageType order select join)
  let (condition, join) ← whereClause b criteria join
  pure ⟨false, select, join, condition, limit, offset⟩

def classicGetValues (selection : PathSelection) (criteria : Criteria) (distinct : Bool)
    (limit offset : Int) : Except SqlError Query := do
  let (select, join) ← Select.new.addSelection b selection.selecteds .new
  let (condition, join) ← whereClause b criteria join
  pure ⟨distinct, select, join, condition, limit, offset⟩

end Building

/-- What is asked for: values, or the idents of the messages of one class. -/
inductive Retrieval
  | values (selection : PathSelection) (criteria : Criteria) (distinct : Bool) (limit offset : Int)
  | idents (messageType : Kind) (criteria : Criteria) (order : ResultIdentsOrder) (limit offset : Int)

section Mentioned

def SelectedObject.paths : SelectedObject → List Path
  | .idmefPath p => [p]
  | .string _ | .int _ => []
  | .oneArg _ arg | .extract arg _ | .timezone arg _ => arg.paths
  | .interval arg value _ => arg.paths ++ value.paths

namespace Retrieval

def build [R : Rendering] (b : Backend) : Retrieval → Except SqlError Query
  | values selection criteria distinct limit offset =>
    classicGetValues b selection criteria distinct limit offset
  | idents messageType criteria order limit offset =>
    getMessageIdents b messageType criteria order limit offset

/-- The paths of the selection, the order and the criteria. -/
def mentioned : Retrieval → List Path
  | values selection criteria _ _ _ =>
    (selection.selecteds.flatMap fun s => s.object.paths) ++ criteria.paths
  | idents messageType criteria order _ _ =>
    (if order = .none then [] else [createTimePath messageType]) ++ criteria.paths

/-- The class that is set for the messages, or else that of the first path with a joined table, or
else that of the heartbeats. -/
def topClass (r : Retrieval) : Idmef.Class :=
  let joined := (r.mentioned.find? fun p => decide (Joined p)).map Path.top
  match r with
  | values _ _ _ _ _ => joined.getD .heartbeat
  | idents messageType _ _ _ _ => messageType.class

end Retrieval

/-- The table of the messages of the class the path begins with. -/
def topTableOf (p : Path) : String := if p.top = .alert then "Prelude_Alert" else "Prelude_Heartbeat"

end Mentioned

section Resolving

/-- The paths are resolved one after the other. -/
inductive Resolves : Join → List Path → Join → Prop
  | nil {join : Join} : Resolves join [] join
  | cons {join join₁ join₂ : Join} {p : Path} {ps : List Path} {context : FieldContext}
      {cs : List Column} (h : pathResolve p context join = .ok (cs, join₁))
      (rest : Resolves join₁ ps join₂) : Resolves join (p :: ps) join₂

variable {join join' join₁ join₂ : Join} {p q : Path} {ps qs : List Path} {c : Idmef.Class}

lemma Resolves.append (h : Resolves join ps join₁) (h' : Resolves join₁ qs join₂) :
    Resolves join (ps ++ qs) join₂ := by
  induction h with
  | nil => exact h'
  | cons hp _ ih => exact .cons hp (ih h')

lemma Resolves.single {context : FieldContext} {cs : List Column}
    (h : pathResolve p context join = .ok (cs, join')) : Resolves join [p] join' :=
  .cons h .nil

/-- The tables are of the top class, which is known as soon as there is one. -/
def Join.Rooted (join : Join) : Prop := ∀ t ∈ join.tables, join.topClass = some t.path.top

lemma matchesPath_top (h : matchesPath p q = true) : p.top = q.top := by
  have hdepth : 2 ≤ p.depth := by
    rw [Path.depth, Path.nodes, List.length_cons]
    have hbelow := List.length_pos_iff.mpr p.below_ne_nil
    omega
  have helement : p.nodes.head? = q.nodes.head? := by
    rw [matchesPath, Bool.and_eq_true] at h
    obtain ⟨-, hm⟩ := h
    split at hm
    case isTrue => exact congrArg List.head? (of_decide_eq_true hm)
    case isFalse =>
      have htake := congrArg List.head? (of_decide_eq_true hm)
      rwa [List.head?_take, List.head?_take, if_neg (by omega), if_neg (by omega)] at htake
  have htop := Option.some.inj helement
  simp only [Class.element, PathElement.mk.injEq, ChildType.class.injEq] at htop
  exact htop.2.1

/-- A joined path decides the top class, or is of it; another one does not touch it. -/
lemma pathResolve_topClass {context : FieldContext} {cs : List Column} (hr : join.Rooted)
    (h : pathResolve p context join = .ok (cs, join')) :
    join'.Rooted ∧ join'.topClass = (if Joined p then some p.top else join.topClass) ∧
      (Joined p → ∀ c, join.topClass = some c → p.top = c) := by
  unfold pathResolve at h
  split at h
  case isTrue hd =>
    cases h
    exact ⟨hr, (if_neg fun hj => hj hd).symm, fun hj => absurd hd hj⟩
  case isFalse hj =>
    have hjoined : Joined p := hj
    rw [if_pos hjoined]
    split at h
    case h_1 t ht =>
      cases h
      have hmatches : matchesPath p t.path = true :=
        List.find?_some (p := fun t : JoinedTable => matchesPath p t.path) ht
      have htop := matchesPath_top hmatches
      have hclass := hr t (List.mem_of_find?_eq_some ht)
      refine ⟨hr, by rw [hclass, htop], fun _ c hc => ?_⟩
      rw [hclass] at hc
      exact htop.trans (Option.some.inj hc)
    case h_2 =>
      obtain ⟨⟨t, join₁⟩, ht, h⟩ := ok_of_bind h
      cases h
      have hadded : join' = ⟨some p.top, join.tables ++ [.of p (tableName p) join.nextId],
          join.nextId + 1⟩ ∧ ∀ c, join.topClass = some c → p.top = c := by
        unfold Join.newTable at ht
        split at ht
        case h_1 hnone =>
          cases ht
          refine ⟨rfl, fun c hc => ?_⟩
          rw [hnone] at hc
          cases hc
        case h_2 c hc =>
          split at ht
          · cases ht
          case isFalse heq =>
            cases ht
            refine ⟨rfl, fun c' hc' => ?_⟩
            rw [hc] at hc'
            exact (not_not.mp heq).trans (Option.some.inj hc')
      obtain ⟨rfl, htop⟩ := hadded
      refine ⟨fun t ht => ?_, rfl, fun _ => htop⟩
      rcases List.mem_append.mp ht with ht | ht
      · have hclass := hr t ht
        exact congrArg some (htop _ hclass)
      · cases List.mem_singleton.mp ht
        rfl

/-- The top class is the one that is set, or that of the first joined path. -/
lemma Resolves.topClass (h : Resolves join ps join') (hr : join.Rooted) :
    join'.Rooted ∧
      join'.topClass = (join.topClass <|> (ps.find? fun p => decide (Joined p)).map Path.top) ∧
      ∀ p ∈ ps, Joined p → join'.topClass = some p.top := by
  induction h with
  | nil => exact ⟨hr, by simp, List.forall_mem_nil _⟩
  | @cons join join₁ join₂ p ps context cs hp _ ih =>
    obtain ⟨hr₁, hclass, hsame⟩ := pathResolve_topClass hr hp
    obtain ⟨hr₂, hclass₂, hjoined⟩ := ih hr₁
    by_cases hj : Joined p
    · rw [if_pos hj] at hclass
      have hdecided : join₂.topClass = some p.top := by
        rw [hclass₂, hclass]
        rfl
      refine ⟨hr₂, ?_, List.forall_mem_cons.mpr ⟨fun _ => hdecided, hjoined⟩⟩
      have hfirst : (p :: ps).find? (fun p => decide (Joined p)) = some p := by simp [hj]
      rw [hfirst, hdecided, Option.map_some]
      rcases ht : join.topClass with _ | c
      · rfl
      · exact congrArg some (hsame hj c ht)
    · rw [if_neg hj] at hclass
      refine ⟨hr₂, ?_, List.forall_mem_cons.mpr ⟨fun hj' => absurd hj' hj, hjoined⟩⟩
      have hfirst : (p :: ps).find? (fun p => decide (Joined p)) =
          ps.find? fun p => decide (Joined p) := by simp [hj]
      rw [hfirst, hclass₂, hclass]

variable [R : Rendering] {b : Backend}

lemma selectedObjectToString_resolves {selected : SelectedPath} {object : SelectedObject}
    {text : SqlText} (h : selectedObjectToString b selected object join = .ok (text, join')) :
    Resolves join object.paths join' := by
  induction object generalizing join join' text with
  | string s =>
    cases h
    exact .nil
  | int n =>
    cases h
    exact .nil
  | idmefPath p =>
    obtain ⟨⟨cs, join₁⟩, hcs, h⟩ := ok_of_bind h
    cases h
    exact .single hcs
  | oneArg f arg ih =>
    obtain ⟨⟨field, join₁⟩, hfield, h⟩ := ok_of_bind h
    cases h
    exact ih hfield
  | extract arg type ih =>
    obtain ⟨⟨field, join₁⟩, hfield, h⟩ := ok_of_bind h
    obtain ⟨text', -, h⟩ := ok_of_bind h
    cases h
    exact ih hfield
  | timezone arg tzvalue ih =>
    obtain ⟨⟨field, join₁⟩, hfield, h⟩ := ok_of_bind h
    obtain ⟨text', -, h⟩ := ok_of_bind h
    cases h
    exact ih hfield
  | interval arg value unit ih ih' =>
    obtain ⟨⟨field, join₁⟩, hfield, h⟩ := ok_of_bind h
    obtain ⟨⟨value', join₂⟩, hvalue, h⟩ := ok_of_bind h
    obtain ⟨text', -, h⟩ := ok_of_bind h
    cases h
    exact (ih hfield).append (ih' hvalue)

lemma addSelected_resolves {select select' : Select} {selected : SelectedPath}
    (h : select.addSelected b selected join = .ok (select', join')) :
    Resolves join selected.object.paths join' := by
  obtain ⟨⟨text, join₁⟩, htext, h⟩ := ok_of_bind h
  cases h
  exact selectedObjectToString_resolves htext

lemma addSelection_resolves {select select' : Select} {selecteds : List SelectedPath}
    (h : select.addSelection b selecteds join = .ok (select', join')) :
    Resolves join (selecteds.flatMap fun s => s.object.paths) join' := by
  induction selecteds generalizing select join with
  | nil =>
    cases h
    exact .nil
  | cons selected selecteds ih =>
    obtain ⟨⟨select₁, join₁⟩, hselected, h⟩ := ok_of_bind h
    exact (addSelected_resolves hselected).append (ih h)

lemma classicPathResolveCriteria_resolves {criteria : Criteria} {text : SqlText}
    (h : classicPathResolveCriteria b criteria join = .ok (text, join')) :
    Resolves join criteria.paths join' := by
  have hnull : ∀ {criteria : Criteria}, criteria.isNull = true → criteria.paths = [] := by
    rintro (_ | _) hn
    · rfl
    · cases hn
  induction criteria generalizing join join' text with
  | null =>
    cases h
    exact .nil
  | node criterion and or iha iho =>
    obtain ⟨⟨leaf, join₁⟩, hleaf, h⟩ := ok_of_bind h
    obtain ⟨⟨text₂, join₂⟩, hand, h⟩ := ok_of_bind h
    have hcriterion : Resolves join [criterion.path] join₁ := by
      obtain ⟨⟨cs, join₁⟩, hcs, hleaf⟩ := ok_of_bind hleaf
      obtain ⟨text', -, hleaf⟩ := ok_of_bind hleaf
      cases hleaf
      exact .single hcs
    have hconjunction : Resolves join₁ and.paths join₂ := by
      split at hand
      case isTrue hn =>
        cases hand
        rw [hnull hn]
        exact .nil
      case isFalse =>
        obtain ⟨⟨sub, join₃⟩, hsub, hand⟩ := ok_of_bind hand
        cases hand
        exact iha hsub
    refine hcriterion.append (hconjunction.append ?_)
    cases hn : or.isNull with
    | true =>
      rw [hn] at h
      cases h
      rw [hnull hn]
      exact .nil
    | false =>
      rw [hn] at h
      obtain ⟨⟨sub, join₃⟩, hsub, h⟩ := ok_of_bind h
      cases h
      exact iho hsub

lemma whereClause_resolves {criteria : Criteria} {condition : Option SqlText}
    (h : whereClause b criteria join = .ok (condition, join')) :
    Resolves join criteria.paths join' := by
  unfold whereClause at h
  split at h
  case isTrue hn =>
    cases h
    cases criteria with
    | null => exact .nil
    | node _ _ _ => cases hn
  case isFalse =>
    obtain ⟨⟨text, join₁⟩, htext, h⟩ := ok_of_bind h
    cases h
    exact classicPathResolveCriteria_resolves htext

end Resolving

section Tables

variable {p : Path} {r : Retrieval} {q : Query}

/-- There are two classes of messages, and one table for each. -/
lemma topTable_iff {join : Join} {c : Idmef.Class} (h : join.topClass.getD .heartbeat = c)
    (hc : c = .alert ∨ c = .heartbeat) : join.topTable = topTableOf p ↔ p.top = c := by
  have hclass : join.topClass = some .alert ↔ c = .alert := by
    rw [← h]
    cases join.topClass <;> simp
  unfold Join.topTable topTableOf
  rcases hc with rfl | rfl <;> rcases p.message with hp | hp
  · simp [hclass, hp]
  · simp [hclass, hp]
  · simp [hclass, hp]
  · simp [hclass, hp]

lemma Retrieval.topClass_message (r : Retrieval) : r.topClass = .alert ∨ r.topClass = .heartbeat := by
  cases r with
  | idents messageType =>
    cases messageType with
    | alert => exact .inl rfl
    | heartbeat => exact .inr rfl
  | values selection criteria =>
    rw [topClass]
    cases ((values selection criteria _ _ _).mentioned.find? fun p => decide (Joined p)) with
    | none => exact .inr rfl
    | some p => exact p.message

variable [R : Rendering] {b : Backend}

/-- All the paths that are mentioned are resolved, beginning with the class that is set. -/
lemma Retrieval.build_resolves (h : r.build b = .ok q) :
    ∃ join, join.Rooted ∧ Resolves join r.mentioned q.join ∧
      (join.topClass <|> (r.mentioned.find? fun p => decide (Joined p)).map Path.top).getD .heartbeat =
        r.topClass := by
  cases r with
  | values selection criteria distinct limit offset =>
    obtain ⟨⟨select, join⟩, hselect, h⟩ := ok_of_bind h
    obtain ⟨⟨condition, join'⟩, hcondition, h⟩ := ok_of_bind h
    cases h
    exact ⟨.new, List.forall_mem_nil _,
      (addSelection_resolves hselect).append (whereClause_resolves hcondition), rfl⟩
  | idents messageType criteria order limit offset =>
    obtain ⟨⟨select, join⟩, horder, h⟩ := ok_of_bind h
    obtain ⟨⟨condition, join'⟩, hcondition, h⟩ := ok_of_bind h
    cases h
    refine ⟨Join.new.setTopClass messageType.class, List.forall_mem_nil _,
      Resolves.append ?_ (whereClause_resolves hcondition), rfl⟩
    split at horder
    case isTrue ho =>
      cases horder
      rw [if_pos ho]
      exact .nil
    case isFalse ho =>
      rw [if_neg ho]
      exact addSelected_resolves horder

/-- The table of the messages is that of every path mentioned exactly when the paths to the columns
of the messages themselves, which are not checked, are of the top class; joined paths of two classes
are never in one query. -/
theorem build_topTable_iff (b : Backend) (r : Retrieval) (q : Query) (h : r.build b = .ok q) :
    ((∀ p ∈ r.mentioned, q.join.topTable = topTableOf p) ↔
      ∀ p ∈ r.mentioned, ¬ Joined p → p.top = r.topClass) ∧
    ∀ p ∈ r.mentioned, ∀ p' ∈ r.mentioned, Joined p → Joined p' → p.top = p'.top := by
  obtain ⟨join, hr, hresolves, htop⟩ := r.build_resolves h
  obtain ⟨-, hclass, hjoined⟩ := hresolves.topClass hr
  rw [← hclass] at htop
  have htable : ∀ p, q.join.topTable = topTableOf p ↔ p.top = r.topClass := fun p =>
    topTable_iff htop r.topClass_message
  have hjoinedTop : ∀ p ∈ r.mentioned, Joined p → p.top = r.topClass := fun p hp hj => by
    rw [← htop, hjoined p hp hj, Option.getD_some]
  refine ⟨⟨fun hall p hp _ => (htable p).mp (hall p hp), fun hdirect p hp => ?_⟩, ?_⟩
  · by_cases hj : Joined p
    · exact (htable p).mpr (hjoinedTop p hp hj)
    · exact (htable p).mpr (hdirect p hp hj)
  · intro p hp p' hp' hj hj'
    rw [hjoinedTop p hp hj, hjoinedTop p' hp' hj']

end Tables

section Examples

def selectionOf (ps : List Path) : PathSelection :=
  (ps.map fun p => SelectedPath.new (.idmefPath p) noFlags).foldl PathSelection.add .new

theorem build_topTable_text :
    ∃ q, (Retrieval.values (selectionOf [textPath]) .null false (-1) (-1)).build
        (R := plainRendering) .mysql = .ok q ∧
      (((∀ p ∈ [textPath], q.join.topTable = topTableOf p) ↔
        ∀ p ∈ [textPath], ¬ Joined p → p.top = .alert) ∧
      ∀ p ∈ [textPath], ∀ p' ∈ [textPath], Joined p → Joined p' → p.top = p'.top) :=
  ⟨_, rfl, build_topTable_iff (R := plainRendering) .mysql
    (.values (selectionOf [textPath]) .null false (-1) (-1)) _ rfl⟩

/-- The message ids of the alerts are read from the heartbeats, and a column of the alerts is taken
with the joined table of a heartbeat. -/
theorem build_topTable_messageid :
    (∃ q, (Retrieval.values (selectionOf [messageidPath]) .null false (-1) (-1)).build
        (R := plainRendering) .mysql = .ok q ∧ q.join.topTable = "Prelude_Heartbeat" ∧
      topTableOf messageidPath = "Prelude_Alert") ∧
    ∃ q, (Retrieval.values (selectionOf [messageidPath, createTimePath .heartbeat]) .null false
        (-1) (-1)).build (R := plainRendering) .mysql = .ok q ∧
      messageidPath.top ≠ (createTimePath .heartbeat).top :=
  ⟨⟨_, rfl, rfl, rfl⟩, _, rfl, by decide⟩

end Examples

end Preludedb.Classic
