import Preludedb.Foundations.Journals
import Preludedb.Classic.Queries

/-! The memory that the query for message idents is built in. Each call of a library may fail, and
the objects of the query are created and destroyed one by one. -/

namespace Preludedb.Classic.Releases

open Foundations Foundations.Program Sql Idmef

/-- The objects that `get_message_idents` holds. -/
inductive Part
  | query
  | where
  | join
  | select
  deriving DecidableEq, Repr

instance : Fintype Part := ⟨{.query, .where, .join, .select}, fun o => by cases o <;> simp⟩

/-- The objects of the functions it calls. -/
inductive Helper
  | fieldName
  | object
  | selectedPath
  deriving DecidableEq, Repr

inductive BuildStep
  | addField
  | addSelected (path : Idmef.Path) (order : ResultIdentsOrder)
  | resolvePath (path : Idmef.Path)
  | buildCriterion (criterion : Criterion)
  | cat (text : String)
  | catWhere
  | fieldsToString
  | joinToString
  | modifiersToString
  | limitOffset (limit offset : Int)
  | sqlQuery

inductive BuildCall
  | new (o : Part)
  | destroy (o : Part)
  | newHelper (h : Helper)
  | destroyHelper (h : Helper)
  | step (s : BuildStep)

abbrev Builder (α : Type) := Program BuildCall SqlError (fun _ => Unit) α

section Functions

def destroy (o : Part) : Builder Unit := notify (.destroy o)

def step (s : BuildStep) : Builder Unit := call (.step s)

def unlessTrue (absent : Bool) (p : Builder Unit) : Builder Unit := if absent then .done () else p

/-- The exit that most errors go to; the WHERE clause is destroyed if there is one. -/
def releaseAll (hasWhere : Bool) : Builder Unit := do
  destroy .query
  unlessTrue (!hasWhere) (destroy .where)
  destroy .join
  destroy .select

/-- A selected path is destroyed with its object. -/
def setOrder (messageType : Kind) (order : ResultIdentsOrder) : Builder Unit := do
  call (.newHelper .object)
  onError (call (.newHelper .selectedPath)) (notify (.destroyHelper .object))
  endWith (step (.addSelected (createTimePath messageType) order)) (do
    notify (.destroyHelper .object)
    notify (.destroyHelper .selectedPath))

def resolveCriterion (criterion : Criterion) : Builder Unit := do
  call (.newHelper .fieldName)
  endWith (do
    step (.resolvePath criterion.path)
    step (.buildCriterion criterion)) (notify (.destroyHelper .fieldName))

def resolveCriteria : Criteria → Builder Unit
  | .null => .done ()
  | .node criterion and or => do
    unlessTrue or.isNull (step (.cat "(("))
    resolveCriterion criterion
    unlessTrue and.isNull (do
      step (.cat " AND ")
      resolveCriteria and)
    unlessTrue or.isNull (do
      step (.cat ") OR (")
      resolveCriteria or
      step (.cat "))"))

/-- What is created before the order and the criteria are looked at. -/
def prepare : Builder Unit := do
  call (.new .query)
  onError (call (.new .join)) (destroy .query)
  onError (call (.new .select)) (do
    destroy .query
    destroy .join)
  onError (step .addField) (releaseAll false)

/-- An error of the order is returned at once. -/
def addOrder (messageType : Kind) (order : ResultIdentsOrder) : Builder Unit :=
  unlessTrue (decide (order = .none)) (setOrder messageType order)

def newWhere : Builder Unit := onError (call (.new .where)) (releaseAll false)

/-- The WHERE clause is destroyed before the exit is taken. -/
def addCriteria (criteria : Criteria) : Builder Unit :=
  unlessTrue criteria.isNull (do
    newWhere
    onError (resolveCriteria criteria) (do
      destroy .where
      releaseAll true))

def sendQuery (hasWhere : Bool) (limit offset : Int) : Builder Unit := do
  step (.cat "SELECT ")
  step .fieldsToString
  step (.cat " FROM ")
  step .joinToString
  unlessTrue (!hasWhere) (do
    step (.cat " WHERE ")
    step .catWhere)
  step .modifiersToString
  step (.limitOffset limit offset)
  step .sqlQuery

def getMessageIdentsReleasing (messageType : Kind) (criteria : Criteria) (limit offset : Int)
    (order : ResultIdentsOrder) : Builder Unit := do
  prepare
  addOrder messageType order
  addCriteria criteria
  endWith (sendQuery (!criteria.isNull) limit offset) (releaseAll (!criteria.isNull))

end Functions

section Events

inductive Event
  | created (o : Part)
  | released (o : Part)
  deriving DecidableEq, Repr

def Event.object : Event → Part
  | created o | released o => o

def record : BuildCall → Except SqlError Unit → List Event
  | .new o, .ok _ => [.created o]
  | .destroy o, _ => [.released o]
  | _, _ => []

/-- The object was not created, or it was created and then released once. -/
def ReleasedOnce (events : List Event) (o : Part) : Prop :=
  events.filter (fun e => decide (e.object = o)) = [] ∨
    events.filter (fun e => decide (e.object = o)) = [.created o, .released o]

instance (events : List Event) (o : Part) : Decidable (ReleasedOnce events o) :=
  inferInstanceAs (Decidable (_ ∨ _))

def AllReleased (events : List Event) : Prop := ∀ o, ReleasedOnce events o

instance (events : List Event) : Decidable (AllReleased events) :=
  inferInstanceAs (Decidable (∀ o, ReleasedOnce events o))

end Events

section Quiet

/-- The calls that neither create nor destroy a part of the query. -/
def Quiet : BuildCall → Prop
  | .new _ | .destroy _ => False
  | _ => True

lemma record_quiet (r : BuildCall) (x : Except SqlError Unit) (h : Quiet r) : record r x = [] := by
  cases r with
  | new o | destroy o => cases h
  | newHelper h | destroyHelper h | step s => rfl

lemma step_quiet (s : BuildStep) : (step s).Requests Quiet := .call trivial

lemma helper_quiet (h : Helper) : (notify (.destroyHelper h) : Builder Unit).Requests Quiet :=
  ⟨trivial, fun _ => trivial⟩

lemma setOrder_quiet (messageType : Kind) (order : ResultIdentsOrder) :
    (setOrder messageType order).Requests Quiet := by
  have hrelease := (helper_quiet .object).bind fun _ => helper_quiet .selectedPath
  have hpath := (Requests.call (Q := Quiet) (r := BuildCall.newHelper .selectedPath) trivial).onError
    (helper_quiet .object)
  exact (Requests.call trivial).bind fun _ => hpath.bind fun _ => (step_quiet _).endWith hrelease

lemma resolveCriterion_quiet (criterion : Criterion) : (resolveCriterion criterion).Requests Quiet := by
  have hbuild := (step_quiet (.resolvePath criterion.path)).bind fun _ => step_quiet (.buildCriterion criterion)
  exact (Requests.call trivial).bind fun _ => hbuild.endWith (helper_quiet .fieldName)

lemma unlessTrue_quiet {p : Builder Unit} (absent : Bool) (h : p.Requests Quiet) :
    (unlessTrue absent p).Requests Quiet := by
  cases absent
  · exact h
  · trivial

lemma resolveCriteria_quiet (criteria : Criteria) : (resolveCriteria criteria).Requests Quiet := by
  induction criteria with
  | null => trivial
  | node criterion and or iha iho =>
    have hand := (step_quiet (.cat " AND ")).bind fun _ => iha
    have hor := (step_quiet (.cat ") OR (")).bind fun _ => iho.bind fun _ => step_quiet (.cat "))")
    exact (unlessTrue_quiet or.isNull (step_quiet _)).bind fun _ =>
      (resolveCriterion_quiet criterion).bind fun _ => (unlessTrue_quiet and.isNull hand).bind fun _ =>
        unlessTrue_quiet or.isNull hor

lemma sendQuery_quiet (hasWhere : Bool) (limit offset : Int) :
    (sendQuery hasWhere limit offset).Requests Quiet := by
  have hwhere := (step_quiet (.cat " WHERE ")).bind fun _ => step_quiet .catWhere
  have hsend := (step_quiet .modifiersToString).bind fun _ =>
    (step_quiet (.limitOffset limit offset)).bind fun _ => step_quiet .sqlQuery
  exact (step_quiet (.cat "SELECT ")).bind fun _ => (step_quiet .fieldsToString).bind fun _ =>
    (step_quiet (.cat " FROM ")).bind fun _ => (step_quiet .joinToString).bind fun _ =>
      (unlessTrue_quiet (!hasWhere) hwhere).bind fun _ => hsend

end Quiet

section Running

variable {σ : Type} (handle : BuildCall → σ → Except SqlError Unit × σ) {s s' : σ}

/-- The events of a run. -/
def events (p : Builder Unit) (s : σ) : List Event := p.journal (fun r => handle r) record s

/-- Once the first program has run without an error, the second one has none. -/
def SucceedsAfter (s : σ) (before after : Builder Unit) : Prop :=
  ∀ s', before.run (fun r => handle r) s = (.ok (), s') → (after.run (fun r => handle r) s').1 = .ok ()

lemma releaseAll_run (hasWhere : Bool) (s : σ) :
    ∃ s', (releaseAll hasWhere).run (fun r => handle r) s = (.ok (), s') := by
  cases hasWhere <;> exact ⟨_, rfl⟩

variable {handle}

lemma releaseAll_events (hasWhere : Bool) : events handle (releaseAll hasWhere) s =
    .released .query :: ((if hasWhere then [.released .where] else []) ++ [.released .join, .released .select]) := by
  cases hasWhere <;> rfl

lemma quiet_events {p : Builder Unit} (h : p.Requests Quiet) : events handle p s = [] :=
  h.journal_nil record_quiet

lemma events_bind_ok {p q : Builder Unit} (h : p.run (fun r => handle r) s = (.ok (), s')) :
    events handle (p >>= fun _ => q) s = events handle p s ++ events handle q s' :=
  journal_bind_ok h

lemma events_bind_error {p q : Builder Unit} {e : SqlError} (h : p.run (fun r => handle r) s = (.error e, s')) :
    events handle (p >>= fun _ => q) s = events handle p s :=
  journal_bind_error h

/-- A program ends with what it has made, or with an error after some other events. -/
def Leads (handle : BuildCall → σ → Except SqlError Unit × σ) (s : σ) (made : List Event)
    (failed : List Event → Prop) (p : Builder Unit) : Prop :=
  (∃ s', p.run (fun r => handle r) s = (.ok (), s') ∧ events handle p s = made) ∨
    ∃ e s', p.run (fun r => handle r) s = (.error e, s') ∧ failed (events handle p s)

lemma Leads.bind {made made' : List Event} {failed failed' failed'' : List Event → Prop} {p q : Builder Unit}
    (hp : Leads handle s made failed p) (hq : ∀ s', Leads handle s' made' failed' q)
    (hfirst : ∀ l, failed l → failed'' l) (hsecond : ∀ l, failed' l → failed'' (made ++ l)) :
    Leads handle s (made ++ made') failed'' (p >>= fun _ => q) := by
  obtain ⟨s', hrun, hmade⟩ | ⟨e, s', hrun, hfailed⟩ := hp
  · have hnext : (p >>= fun _ => q).run (fun r => handle r) s = q.run (fun r => handle r) s' := by
      rw [run_bind, hrun]
    obtain ⟨s'', hrest, hmade'⟩ | ⟨e, s'', hrest, hfailed'⟩ := hq s'
    · refine Or.inl ⟨s'', hnext.trans hrest, ?_⟩
      rw [events_bind_ok hrun, hmade, hmade']
    · refine Or.inr ⟨e, s'', hnext.trans hrest, ?_⟩
      rw [events_bind_ok hrun, hmade]
      exact hsecond _ hfailed'
  · refine Or.inr ⟨e, s', run_bind_error hrun, ?_⟩
    rw [events_bind_error hrun]
    exact hfirst _ hfailed

/-- What a failed program leaves is the cleaning. -/
lemma Leads.onError {made cleaned : List Event} {p cleanup : Builder Unit}
    (hp : Leads handle s made (· = []) p) (hrun : ∀ s, ∃ s', cleanup.run (fun r => handle r) s = (.ok (), s'))
    (hclean : ∀ s, events handle cleanup s = cleaned) :
    Leads handle s made (· = cleaned) (Program.onError p cleanup) := by
  obtain ⟨s', h, hmade⟩ | ⟨e, s', h, hfailed⟩ := hp
  · exact Or.inl ⟨s', run_onError_ok h, (journal_onError_ok h).trans hmade⟩
  · obtain ⟨s'', hs⟩ := hrun s'
    have hjournal : events handle (Program.onError p cleanup) s = events handle p s ++ events handle cleanup s' :=
      journal_onError_error h hs
    refine Or.inr ⟨e, s'', run_onError_error h hs, ?_⟩
    rw [hjournal, hfailed, hclean, List.nil_append]

lemma leads_new (o : Part) : Leads handle s [.created o] (· = []) (call (.new o)) := by
  have hcall := run_call (fun r => handle r) (BuildCall.new o) s
  rcases h : handle (.new o) s with ⟨e | u, s'⟩
  · rw [h] at hcall
    refine Or.inr ⟨e, s', hcall, ?_⟩
    rw [events, journal_call, h]
    rfl
  · rw [h] at hcall
    refine Or.inl ⟨s', hcall, ?_⟩
    rw [events, journal_call, h]
    rfl

lemma leads_quiet {p : Builder Unit} (hp : p.Requests Quiet) : Leads handle s [] (· = []) p := by
  rcases h : p.run (fun r => handle r) s with ⟨e | u, s'⟩
  · exact Or.inr ⟨e, s', h, quiet_events hp⟩
  · exact Or.inl ⟨s', h, quiet_events hp⟩

lemma leads_prepare : Leads handle s [.created .query, .created .join, .created .select] AllReleased prepare := by
  have hjoin : ∀ s, Leads handle s [.created .join] (· = [.released .query])
      (onError (call (.new .join)) (destroy .query)) :=
    fun s => (leads_new .join).onError (fun s => ⟨_, rfl⟩) (fun s => rfl)
  have hselect : ∀ s, Leads handle s [.created .select] (· = [.released .query, .released .join])
      (onError (call (.new .select)) (destroy .query >>= fun _ => destroy .join)) :=
    fun s => (leads_new .select).onError (fun s => ⟨_, rfl⟩) (fun s => rfl)
  have hfield : ∀ s, Leads handle s [] (· = [.released .query, .released .join, .released .select])
      (onError (step .addField) (releaseAll false)) :=
    fun s => (leads_quiet (step_quiet .addField)).onError (releaseAll_run handle false)
      (fun s => releaseAll_events false)
  have hlast : ∀ s, Leads handle s [.created .select]
      (fun l => AllReleased ([.created .query, .created .join] ++ l)) (_ >>= fun _ => _) :=
    fun s => (hselect s).bind hfield (by rintro _ rfl; decide) (by rintro _ rfl; decide)
  have hall : ∀ s, Leads handle s [.created .join, .created .select]
      (fun l => AllReleased ([.created .query] ++ l)) (_ >>= fun _ => _) :=
    fun s => (hjoin s).bind hlast (by rintro _ rfl; decide) (fun l h => h)
  exact (leads_new .query).bind hall (by rintro _ rfl; decide) (fun l h => h)

/-- The steps up to the creation of the WHERE clause. -/
def beforeCriteria (messageType : Kind) (order : ResultIdentsOrder) : Builder Unit := do
  prepare
  addOrder messageType order
  newWhere

variable {messageType : Kind} {order : ResultIdentsOrder} {criteria : Criteria} {limit offset : Int}

lemma succeedsAfter_of_error {before after : Builder Unit} {e : SqlError}
    (h : before.run (fun r => handle r) s = (.error e, s')) : SucceedsAfter handle s before after := by
  intro s'' hs
  rw [h] at hs
  cases hs

lemma succeedsAfter_iff {before after : Builder Unit} (h : before.run (fun r => handle r) s = (.ok (), s')) :
    SucceedsAfter handle s before after ↔ (after.run (fun r => handle r) s').1 = .ok () := by
  refine ⟨fun hs => hs s' h, fun hs s'' hrun => ?_⟩
  cases h.symm.trans hrun
  exact hs

/-- The order is chosen, and nothing of it is recorded. -/
lemma addOrder_quiet : (addOrder messageType order).Requests Quiet :=
  unlessTrue_quiet _ (setOrder_quiet messageType order)

lemma addOrder_run (h : order ≠ .none) : addOrder messageType order = setOrder messageType order := by
  simp [addOrder, unlessTrue, h]

/-- The query is sent, and everything is released whether that fails or not. -/
lemma sendQuery_events (hasWhere : Bool) : events handle (endWith (sendQuery hasWhere limit offset)
    (releaseAll hasWhere)) s = .released .query ::
      ((if hasWhere then [.released .where] else []) ++ [.released .join, .released .select]) := by
  have hsend : events handle (sendQuery hasWhere limit offset) s = [] := quiet_events (sendQuery_quiet _ _ _)
  obtain ⟨s', hrun⟩ := releaseAll_run handle hasWhere ((sendQuery hasWhere limit offset).run (fun r => handle r) s).2
  have hend : events handle (endWith (sendQuery hasWhere limit offset) (releaseAll hasWhere)) s =
      events handle (sendQuery hasWhere limit offset) s ++ events handle (releaseAll hasWhere) _ :=
    journal_endWith hrun
  rw [hend, hsend, releaseAll_events, List.nil_append]

/-- What the criteria and the query leave, once the order is chosen. -/
lemma criteria_released (limit offset : Int) (hnull : criteria.isNull = false) :
    AllReleased ([.created .query, .created .join, .created .select] ++
      events handle (addCriteria criteria >>= fun _ =>
        endWith (sendQuery (!criteria.isNull) limit offset) (releaseAll (!criteria.isNull))) s) ↔
      SucceedsAfter handle s newWhere (resolveCriteria criteria) := by
  have hadd : addCriteria criteria = newWhere >>= fun _ =>
      onError (resolveCriteria criteria) (destroy .where >>= fun _ => releaseAll true) := by
    rw [addCriteria, hnull]
    rfl
  have hnew : Leads handle s [.created .where] (· = [.released .query, .released .join, .released .select]) newWhere :=
    (leads_new .where).onError (releaseAll_run handle false) (fun s => releaseAll_events false)
  have hresolve : ∀ s, events handle (resolveCriteria criteria) s = [] :=
    fun s => quiet_events (resolveCriteria_quiet criteria)
  rw [hadd, bind_assoc]
  obtain ⟨s₁, hrun, hmade⟩ | ⟨e, s₁, hrun, hfailed⟩ := hnew
  · rw [events_bind_ok hrun, hmade, succeedsAfter_iff hrun]
    rcases hcriteria : (resolveCriteria criteria).run (fun r => handle r) s₁ with ⟨e | u, s₂⟩
    · obtain ⟨s₃, hclean⟩ : ∃ s', (destroy .where >>= fun _ => releaseAll true).run (fun r => handle r) s₂ =
          (.ok (), s') := ⟨_, rfl⟩
      have hcleaned : events handle (destroy .where >>= fun _ => releaseAll true) s₂ =
          [.released .where, .released .query, .released .where, .released .join, .released .select] := rfl
      have hleft : events handle (onError (resolveCriteria criteria) (destroy .where >>= fun _ => releaseAll true)) s₁ =
          events handle (resolveCriteria criteria) s₁ ++ events handle (destroy .where >>= fun _ => releaseAll true) s₂ :=
        journal_onError_error hcriteria hclean
      rw [events_bind_error (run_onError_error hcriteria hclean), hleft, hresolve, hcleaned]
      exact iff_of_false (by decide) (fun h => by cases h)
    · have hleft : events handle (onError (resolveCriteria criteria) (destroy .where >>= fun _ => releaseAll true)) s₁ =
          events handle (resolveCriteria criteria) s₁ := journal_onError_ok hcriteria
      rw [events_bind_ok (run_onError_ok hcriteria), hleft, hresolve, hnull, sendQuery_events]
      exact iff_of_true (by decide) rfl
  · rw [events_bind_error hrun, hfailed]
    exact iff_of_true (by decide) (succeedsAfter_of_error hrun)

/-- Everything that was created is released once, unless the order or the criteria fail: an error of
the first leaves three parts behind, and an error of the second destroys the WHERE clause twice. -/
theorem getMessageIdents_releases_iff (handle : BuildCall → σ → Except SqlError Unit × σ) (s : σ)
    (messageType : Kind) (criteria : Criteria) (limit offset : Int) (order : ResultIdentsOrder) :
    AllReleased (events handle (getMessageIdentsReleasing messageType criteria limit offset order) s) ↔
      (order ≠ .none → SucceedsAfter handle s prepare (setOrder messageType order)) ∧
      (criteria.isNull = false →
        SucceedsAfter handle s (beforeCriteria messageType order) (resolveCriteria criteria)) := by
  obtain ⟨s₁, hprepare, hmade⟩ | ⟨e, s₁, hprepare, hfailed⟩ : Leads handle s _ _ _ := leads_prepare
  · have hbefore : (beforeCriteria messageType order).run (fun r => handle r) s =
        (addOrder messageType order >>= fun _ => newWhere).run (fun r => handle r) s₁ := by
      rw [beforeCriteria, run_bind, hprepare]
    rw [getMessageIdentsReleasing, events_bind_ok hprepare, hmade, succeedsAfter_iff hprepare]
    have hquiet : events handle (addOrder messageType order) s₁ = [] := quiet_events addOrder_quiet
    rcases horder : (addOrder messageType order).run (fun r => handle r) s₁ with ⟨e | u, s₂⟩
    · have hne : order ≠ .none := by
        rintro rfl
        cases horder
      rw [events_bind_error horder, hquiet, ← addOrder_run hne, horder]
      exact iff_of_false (by decide) (fun h => absurd (h.1 hne) (by simp))
    · have hchosen : order ≠ .none → ((setOrder messageType order).run (fun r => handle r) s₁).1 = .ok () := by
        intro hne
        rw [← addOrder_run hne, horder]
      have hafter : SucceedsAfter handle s (beforeCriteria messageType order) (resolveCriteria criteria) ↔
          SucceedsAfter handle s₂ newWhere (resolveCriteria criteria) := by
        rw [SucceedsAfter, hbefore, run_bind, horder]
        rfl
      rw [events_bind_ok horder, hquiet, List.nil_append, hafter]
      cases hnull : criteria.isNull with
      | false =>
        have hreleased : _ ↔ SucceedsAfter handle s₂ newWhere (resolveCriteria criteria) :=
          criteria_released limit offset hnull
        rw [hnull] at hreleased
        rw [hreleased]
        exact ⟨fun h => ⟨hchosen, fun _ => h⟩, fun h => h.2 rfl⟩
      | true =>
        have hadd : addCriteria criteria = .done () := by
          rw [addCriteria, hnull]
          rfl
        have hsent : events handle (endWith (sendQuery false limit offset) (releaseAll false)) s₂ = _ :=
          sendQuery_events false
        rw [hadd, done_bind, Bool.not_true, hsent]
        exact iff_of_true (by decide) ⟨hchosen, fun h => (by cases h)⟩
  · have hbefore : (beforeCriteria messageType order).run (fun r => handle r) s = (.error e, s₁) :=
      run_bind_error hprepare
    rw [getMessageIdentsReleasing, events_bind_error hprepare]
    exact iff_of_true hfailed ⟨fun _ => succeedsAfter_of_error hprepare, fun _ => succeedsAfter_of_error hbefore⟩

/-- The calls succeed, but for a path of another class: its table has no place in the join. -/
def rootedAt (messageType : Kind) : BuildCall → Unit → Except SqlError Unit × Unit
  | .step (.resolvePath path), _ =>
    (if path.top = messageType.class then .ok () else .error (preludedbError (.foreign (-1))), ())
  | _, _ => (.ok (), ())

/-- The alerts are searched for the creation time of a heartbeat. -/
def otherClass : Criteria := .node ⟨createTimePath .heartbeat, .equal, .regex ""⟩ .null .null

theorem where_released_twice : ¬ ∀ (messageType : Kind) (criteria : Criteria) (limit offset : Int)
    (order : ResultIdentsOrder),
    AllReleased (events (rootedAt messageType)
      (getMessageIdentsReleasing messageType criteria limit offset order) ()) := by
  intro h
  have hevents : events (rootedAt .alert) (getMessageIdentsReleasing .alert otherClass (-1) (-1) .none) () =
      [.created .query, .created .join, .created .select, .created .where,
        .released .where, .released .query, .released .where, .released .join, .released .select] := rfl
  have hreleased := h .alert otherClass (-1) (-1) .none
  rw [hevents] at hreleased
  exact absurd hreleased (by decide)

end Running

end Preludedb.Classic.Releases
