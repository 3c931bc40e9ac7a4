import Preludedb.Classic.Isolation
import Preludedb.Classic.Restores

/-! The deletion of several messages: with one set of idents for all of them, or one by one. -/

namespace Preludedb.Classic

open Foundations Sql Idmef

section Sets

variable {b : Backend} {k : Kind} {idents : List ℕ} {d : Database} {t : Table} {r : Row}

/-- The rows that are left without the messages of the kind with these idents. -/
def withoutRows (k : Kind) (idents : List ℕ) (d : Database) (t : Table) : List Row :=
  (d.tables t).filter fun r => !idents.any fun i => mine k i t r

lemma any_mine (k : Kind) (idents : List ℕ) (t : Table) (r : Row) :
    (idents.any fun i => mine k i t r) =
      (decide (r.messageIdent ∈ idents) && selects (deleteQueries k) t r.parentType) := by
  induction idents with
  | nil => simp
  | cons i is ih =>
    rw [List.any_cons, ih, mine]
    by_cases hi : r.messageIdent = i
    · simp [hi]
    · simp [hi]

/-- The rows that the queries for a set of idents delete. -/
lemma deleted_set (queries : List (Table × TypeTest)) (idents : List ℕ) :
    TableWrite.deleted t (queries.map fun q => (q.1, Where.holds ⟨idents, q.2, [], .any⟩)) r =
      (decide (r.messageIdent ∈ idents) && selects queries t r.parentType) := by
  have hholds (q : Table × TypeTest) : Where.holds ⟨idents, q.2, [], .any⟩ r =
      (decide (r.messageIdent ∈ idents) && q.2.holds r.parentType) := by
    simp [Where.holds, IndexTest.holds, List.isPrefixOf]
  by_cases h : r.messageIdent ∈ idents <;>
    simp [TableWrite.deleted, selects, Function.comp_def, hholds, h]

def deletedSet (k : Kind) (idents : List ℕ) (d : Database) : Database :=
  ((deleteQueries k).map fun q => TableWrite.delete q.1 (Where.holds ⟨idents, q.2, [], .any⟩)).foldl
    Database.write d

lemma deletedSet_tables (k : Kind) (idents : List ℕ) (d : Database) :
    (deletedSet k idents d).tables = withoutRows k idents d := by
  funext t
  rw [deletedSet, Database.foldl_write_tables]
  have hdelete := TableWrite.foldl_delete ((deleteQueries k).map fun q =>
    (q.1, Where.holds ⟨idents, q.2, [], .any⟩)) d.tables t
  rw [List.map_map] at hdelete
  refine Eq.trans hdelete ?_
  apply List.filter_congr
  intro r _
  rw [deleted_set, any_mine]

lemma foldl_delete_counter (ws : List (Table × (Row → Bool))) (d : Database) :
    ((ws.map fun w => TableWrite.delete w.1 w.2).foldl Database.write d).counter = d.counter := by
  induction ws generalizing d with
  | nil => rfl
  | cons w ws ih => exact ih (d.write (.delete w.1 w.2))

lemma deletedSet_counter (k : Kind) (idents : List ℕ) (d : Database) :
    (deletedSet k idents d).counter = d.counter := by
  have hcounter := foldl_delete_counter ((deleteQueries k).map fun q =>
    (q.1, Where.holds ⟨idents, q.2, [], .any⟩)) d
  rw [List.map_map] at hcounter
  exact hcounter

lemma database_eq {d d' : Database} (htables : d.tables = d'.tables) (hcounter : d.counter = d'.counter) :
    d = d' := by
  cases d
  cases d'
  cases htables
  cases hcounter
  rfl

lemma deletedSet_nil (k : Kind) (d : Database) : deletedSet k [] d = d := by
  apply database_eq
  · rw [deletedSet_tables]
    funext t
    simp [withoutRows]
  · exact deletedSet_counter k [] d

/-- One ident after the other is the same as all of them together. -/
lemma deletedSet_cons (k : Kind) (i : ℕ) (is : List ℕ) (d : Database) :
    deletedSet k is (deletedSet k [i] d) = deletedSet k (i :: is) d := by
  apply database_eq
  · rw [deletedSet_tables, deletedSet_tables]
    funext t
    rw [withoutRows, deletedSet_tables, withoutRows, List.filter_filter, withoutRows]
    apply List.filter_congr
    intro r _
    simp [Bool.and_comm]
  · rw [deletedSet_counter, deletedSet_counter, deletedSet_counter]

end Sets

section Lists

variable {b : Backend} {k : Kind} {idents : List ℕ} {d : Database}

/-- `IN ()` is no condition for MySQL and PostgreSQL. -/
def emptySet : Request → Bool
  | .query (.data (.delete _ w)) => w.idents.isEmpty
  | _ => false

/-- A server that answers every statement it can parse. -/
def serveParsed (b : Backend) (r : Request) (d : Database) : Except SqlError (r.Reply Result) × Database :=
  if emptySet r = true ∧ b ≠ .sqlite3 then (.error (preludedbError .query), d) else serve b r d

def classicDeleteFromList (k : Kind) (idents : List ℕ) : Action ℕ := do
  deleteMessage (deleteQueries k) idents
  pure idents.length

def classicDeleteAlertFromList : List ℕ → Action ℕ := classicDeleteFromList .alert

def classicDeleteHeartbeatFromList : List ℕ → Action ℕ := classicDeleteFromList .heartbeat

def deleteEach (delete : ℕ → Action Unit) : List ℕ → Action Unit
  | [] => pure ()
  | i :: is => do
    delete i
    deleteEach delete is

/-- `_preludedb_plugin_format_delete_alert_from_list` and its sibling without a function of the
plugin for lists. -/
def pluginFormatDeleteFromList (k : Kind) (idents : List ℕ) : Action ℕ := do
  deleteEach (classicDelete k) idents
  pure idents.length

lemma inTransaction_parse {body : Action Unit} {u : Except SqlError Unit} {d' : Database}
    (h : body.run (serveParsed b) d = (u, d')) : (inTransaction body).run (serveParsed b) d = (u, d') := by
  have hstart : serveParsed b .transactionStart d = (.ok (), d) := if_neg (by simp [emptySet])
  have hend : ∀ d, serveParsed b .transactionEnd d = (.ok (), d) := fun d => if_neg (by simp [emptySet])
  have habort : ∀ d, serveParsed b .transactionAbort d = (.ok (), d) := fun d => if_neg (by simp [emptySet])
  rw [inTransaction, Program.run_bind, Program.run_call, hstart]
  simp only [Program.run_bind, Program.run_attempt, h]
  cases u with
  | error e => simp only [Program.run_bind, Program.run_call, habort, Program.run_fail]
  | ok u => simp only [Program.run_bind, Program.run_call, hend, Program.pure_eq, Program.run_done]

lemma deletions_parse (h : idents ≠ [] ∨ b = .sqlite3) (queries : List (Table × TypeTest)) (d : Database) :
    (Program.calls (queries.map (deletion idents))).run (serveParsed b) d =
      (.ok (), (queries.map fun q => TableWrite.delete q.1 (Where.holds ⟨idents, q.2, [], .any⟩)).foldl
        Database.write d) := by
  induction queries generalizing d with
  | nil => rfl
  | cons q queries ih =>
    have hq : serveParsed b (deletion idents q) d =
        (.ok none, d.write (.delete q.1 (Where.holds ⟨idents, q.2, [], .any⟩))) := by
      apply if_neg
      rintro ⟨hempty, hb⟩
      exact h.elim (fun hne => hne (List.isEmpty_iff.mp hempty)) hb
    rw [List.map_cons, Program.calls, Program.run_bind, Program.run_call, hq]
    exact ih _

lemma deleteMessage_parse (h : idents ≠ [] ∨ b = .sqlite3) (d : Database) :
    (deleteMessage (deleteQueries k) idents).run (serveParsed b) d = (.ok (), deletedSet k idents d) :=
  inTransaction_parse (deletions_parse h _ d)

lemma deleteMessage_refused (hb : b ≠ .sqlite3) (d : Database) :
    (deleteMessage (deleteQueries k) []).run (serveParsed b) d = (.error (preludedbError .query), d) := by
  apply inTransaction_parse
  have hrefused : ∀ q, serveParsed b (deletion [] q) d = (.error (preludedbError .query), d) := fun q =>
    if_pos ⟨rfl, hb⟩
  cases k with
  | alert =>
    rw [deleteQueries, deleteAlertQueries, List.map_cons, Program.calls, Program.run_bind,
      Program.run_call, hrefused]
  | heartbeat =>
    rw [deleteQueries, deleteHeartbeatQueries, List.map_cons, Program.calls, Program.run_bind,
      Program.run_call, hrefused]

lemma classicDelete_parse (i : ℕ) (d : Database) :
    (classicDelete k i).run (serveParsed b) d = (.ok (), deletedSet k [i] d) := by
  rw [classicDelete_eq]
  exact deleteMessage_parse (.inl (List.cons_ne_nil _ _)) d

lemma deleteEach_parse (idents : List ℕ) (d : Database) :
    (deleteEach (classicDelete k) idents).run (serveParsed b) d = (.ok (), deletedSet k idents d) := by
  induction idents generalizing d with
  | nil =>
    rw [deletedSet_nil]
    rfl
  | cons i is ih =>
    rw [deleteEach, Program.run_bind, classicDelete_parse]
    simp only
    rw [ih, deletedSet_cons]

end Lists

section Results

/-- What one call of `preludedb_result_idents_get` returns. -/
inductive IdentReply
  | ident (n : ℕ)
  | done
  | failed (e : SqlError)
  deriving DecidableEq, Repr

/-- The loop of `get_string_from_result_ident`, where `ident` is the variable the idents are stored
in: an error counts as an ident, and leaves the variable as it was. -/
def readIdents (replies : ℕ → IdentReply) : ℕ → ℕ → ℕ → Option (List ℕ)
  | 0, _, _ => none
  | fuel + 1, i, ident => match replies i with
    | .done => some []
    | .ident n => (readIdents replies fuel (i + 1) n).map (n :: ·)
    | .failed _ => (readIdents replies fuel (i + 1) ident).map (ident :: ·)

def classicDeleteIdents (k : Kind) (idents : List ℕ) : Action ℕ :=
  if idents = [] then pure 0
  else do
    deleteMessage (deleteQueries k) idents
    pure idents.length

/-- `classic_delete_alert_from_result_idents` and its sibling; `none` while the loop runs. -/
def classicDeleteFromResultIdents (k : Kind) (replies : ℕ → IdentReply) (junk fuel : ℕ) :
    Action (Option ℕ) :=
  match readIdents replies fuel 0 junk with
  | none => pure none
  | some idents => do
    let count ← classicDeleteIdents k idents
    pure (some count)

/-- The loop of `_preludedb_plugin_format_delete_alert_from_result_idents` and its sibling. -/
def deleteIdents (k : Kind) (replies : ℕ → IdentReply) : ℕ → ℕ → ℕ → Action (Option ℕ)
  | 0, _, _ => pure none
  | fuel + 1, count, ident => match replies count with
    | .done => pure (some count)
    | .ident n => do
      classicDelete k n
      deleteIdents k replies fuel (count + 1) n
    | .failed _ => do
      classicDelete k ident
      deleteIdents k replies fuel (count + 1) ident

def pluginFormatDeleteFromResultIdents (k : Kind) (replies : ℕ → IdentReply) (junk fuel : ℕ) :
    Action (Option ℕ) :=
  deleteIdents k replies fuel 0 junk

inductive Version
  | classic
  | pluginFormat
  deriving DecidableEq, Repr

def deleteFromResultIdents : Version → Kind → (ℕ → IdentReply) → ℕ → ℕ → Action (Option ℕ)
  | .classic => classicDeleteFromResultIdents
  | .pluginFormat => pluginFormatDeleteFromResultIdents

/-- The idents are read, and then the end. -/
def ReadsAll (replies : ℕ → IdentReply) (idents : List ℕ) : Prop :=
  (∀ i (h : i < idents.length), replies i = .ident (idents.get ⟨i, h⟩)) ∧ replies idents.length = .done

/-- The idents are read, and then an error. -/
def FailsAfter (replies : ℕ → IdentReply) (idents : List ℕ) (e : SqlError) : Prop :=
  (∀ i (h : i < idents.length), replies i = .ident (idents.get ⟨i, h⟩)) ∧
    replies idents.length = .failed e

/-- The deletion ends. It has deleted the messages of the result and returns their number where all
idents can be read; it returns the error and has deleted no other message where one cannot. -/
def DeletesResult (v : Version) (b : Backend) (k : Kind) (replies : ℕ → IdentReply) (junk : ℕ)
    (d : Database) : Prop :=
  ∃ fuel out d', (deleteFromResultIdents v k replies junk fuel).run (serveParsed b) d = (out, d') ∧
    out ≠ .ok none ∧
    (∀ idents, ReadsAll replies idents → out = .ok (some idents.length) ∧ d' = deletedSet k idents d) ∧
    ∀ idents e, FailsAfter replies idents e → out = .error e ∧
      ∀ i, (∀ n, replies n ≠ .ident i) → rowsOf k i d' = rowsOf k i d

variable {b : Backend} {k : Kind} {replies : ℕ → IdentReply} {junk : ℕ} {idents : List ℕ}
  {d : Database} {e : SqlError}

lemma deleteIdents_some {fuel count ident : ℕ} (h : readIdents replies fuel count ident = some idents) :
    (deleteIdents k replies fuel count ident).run (serveParsed b) d =
      (.ok (some (count + idents.length)), deletedSet k idents d) := by
  induction fuel generalizing count ident idents d with
  | zero => cases h
  | succ fuel ih =>
    have hdelete : ∀ n idents, readIdents replies fuel (count + 1) n = some idents → ∀ i,
        (classicDelete k i >>= fun _ => deleteIdents k replies fuel (count + 1) n).run (serveParsed b) d =
          (.ok (some (count + (i :: idents).length)), deletedSet k (i :: idents) d) := by
      intro n idents hn i
      have hcount : count + (i :: idents).length = count + 1 + idents.length := by
        rw [List.length_cons]
        omega
      rw [Program.run_bind, classicDelete_parse, hcount, ← deletedSet_cons k i idents]
      exact ih hn
    rw [readIdents] at h
    rw [deleteIdents]
    cases hreply : replies count with
    | done =>
      rw [hreply] at h
      cases h
      rw [deletedSet_nil]
      rfl
    | ident n =>
      rw [hreply] at h
      obtain ⟨rest, hrest, rfl⟩ := Option.map_eq_some_iff.mp h
      exact hdelete n rest hrest n
    | failed e =>
      rw [hreply] at h
      obtain ⟨rest, hrest, rfl⟩ := Option.map_eq_some_iff.mp h
      exact hdelete ident rest hrest ident

lemma deleteIdents_none {fuel count ident : ℕ} (h : readIdents replies fuel count ident = none) :
    ((deleteIdents k replies fuel count ident).run (serveParsed b) d).1 = .ok none := by
  induction fuel generalizing count ident d with
  | zero => rfl
  | succ fuel ih =>
    rw [readIdents] at h
    rw [deleteIdents]
    cases hreply : replies count with
    | done =>
      rw [hreply] at h
      cases h
    | ident n =>
      rw [hreply] at h
      simp only
      rw [Program.run_bind, classicDelete_parse]
      exact ih (Option.map_eq_none_iff.mp h)
    | failed e =>
      rw [hreply] at h
      simp only
      rw [Program.run_bind, classicDelete_parse]
      exact ih (Option.map_eq_none_iff.mp h)

lemma classicDeleteIdents_parse (idents : List ℕ) (d : Database) :
    (classicDeleteIdents k idents).run (serveParsed b) d = (.ok idents.length, deletedSet k idents d) := by
  unfold classicDeleteIdents
  split
  case isTrue hnil =>
    rw [hnil, deletedSet_nil]
    rfl
  case isFalse hne =>
    rw [Program.run_bind, deleteMessage_parse (.inl hne)]
    rfl

/-- The two versions do the same with the idents that the loop takes from the result. -/
lemma deleteFromResultIdents_some {fuel : ℕ} (v : Version)
    (h : readIdents replies fuel 0 junk = some idents) :
    (deleteFromResultIdents v k replies junk fuel).run (serveParsed b) d =
      (.ok (some idents.length), deletedSet k idents d) := by
  cases v with
  | classic =>
    rw [deleteFromResultIdents, classicDeleteFromResultIdents, h]
    simp only
    rw [Program.run_bind, classicDeleteIdents_parse]
    rfl
  | pluginFormat =>
    have hrun := deleteIdents_some (b := b) (k := k) (d := d) h
    rw [Nat.zero_add] at hrun
    exact hrun

lemma deleteFromResultIdents_none {fuel : ℕ} (v : Version)
    (h : readIdents replies fuel 0 junk = none) :
    ((deleteFromResultIdents v k replies junk fuel).run (serveParsed b) d).1 = .ok none := by
  cases v with
  | classic =>
    rw [deleteFromResultIdents, classicDeleteFromResultIdents, h]
    rfl
  | pluginFormat => exact deleteIdents_none h

lemma readIdents_all {i ident : ℕ} (h : ∀ j (hj : j < idents.length), replies (i + j) =
    .ident (idents.get ⟨j, hj⟩)) (hdone : replies (i + idents.length) = .done) :
    readIdents replies (idents.length + 1) i ident = some idents := by
  induction idents generalizing i ident with
  | nil =>
    rw [List.length_nil, Nat.add_zero] at hdone
    rw [List.length_nil, readIdents, hdone]
  | cons n rest ih =>
    have hhead := h 0 (by simp)
    have htail : ∀ j (hj : j < rest.length), replies (i + 1 + j) = .ident (rest.get ⟨j, hj⟩) := by
      intro j hj
      have hnext := h (j + 1) (by simpa using hj)
      rw [show i + 1 + j = i + (j + 1) by omega]
      exact hnext
    have hend : replies (i + 1 + rest.length) = .done := by
      rw [show i + 1 + rest.length = i + (n :: rest).length by simp; omega]
      exact hdone
    rw [List.length_cons, readIdents, show replies i = .ident n from hhead]
    simp only
    rw [ih htail hend, Option.map_some]

lemma exists_done {fuel i ident : ℕ} (h : readIdents replies fuel i ident = some idents) :
    ∃ n, replies n = .done := by
  induction fuel generalizing i ident idents with
  | zero => cases h
  | succ fuel ih =>
    rw [readIdents] at h
    cases hreply : replies i with
    | done => exact ⟨i, hreply⟩
    | ident n =>
      rw [hreply] at h
      obtain ⟨rest, hrest, -⟩ := Option.map_eq_some_iff.mp h
      exact ih hrest
    | failed e =>
      rw [hreply] at h
      obtain ⟨rest, hrest, -⟩ := Option.map_eq_some_iff.mp h
      exact ih hrest

/-- The idents before the first reply that is none. -/
lemma exists_idents {m : ℕ} (h : ∀ i < m, ∃ n, replies i = .ident n) : ∃ idents : List ℕ,
    idents.length = m ∧ ∀ i (hi : i < idents.length), replies i = .ident (idents.get ⟨i, hi⟩) := by
  choose f hf using h
  refine ⟨List.ofFn fun i : Fin m => f i i.2, by simp, ?_⟩
  intro i hi
  rw [List.length_ofFn] at hi
  rw [hf i hi]
  simp

lemma length_le {idents' : List ℕ}
    (h : ∀ i (hi : i < idents.length), replies i = .ident (idents.get ⟨i, hi⟩))
    (h' : ∀ n, replies idents'.length ≠ .ident n) : idents.length ≤ idents'.length := by
  by_contra hlt
  exact h' _ (h idents'.length (by omega))

lemma ReadsAll.unique {idents' : List ℕ} (h : ReadsAll replies idents) (h' : ReadsAll replies idents') :
    idents = idents' := by
  have hle := length_le h.1 (fun n hn => by cases hn.symm.trans h'.2)
  have hge := length_le h'.1 (fun n hn => by cases hn.symm.trans h.2)
  apply List.ext_get (le_antisymm hle hge)
  intro i hi hi'
  have hsame := (h.1 i hi).symm.trans (h'.1 i hi')
  exact IdentReply.ident.inj hsame

theorem deleteFromResultIdents_iff (v : Version) (b : Backend) (k : Kind) (replies : ℕ → IdentReply)
    (junk : ℕ) (d : Database) :
    DeletesResult v b k replies junk d ↔ ∃ idents, ReadsAll replies idents := by
  constructor
  · rintro ⟨fuel, out, d', hrun, hout, -, hfails⟩
    cases hread : readIdents replies fuel 0 junk with
    | none =>
      have hnone := deleteFromResultIdents_none (b := b) (k := k) (d := d) v hread
      rw [hrun] at hnone
      exact absurd hnone hout
    | some idents =>
      have hsome := deleteFromResultIdents_some (b := b) (k := k) (d := d) v hread
      rw [hrun] at hsome
      -- the first reply that is no ident is the end or an error, and the run returns no error
      have hstop : ∃ n, ∀ i, replies n ≠ .ident i := by
        obtain ⟨n, hn⟩ := exists_done hread
        exact ⟨n, fun i hi => by cases hn.symm.trans hi⟩
      classical
      have hbefore : ∀ i < Nat.find hstop, ∃ n, replies i = .ident n := by
        intro i hi
        have hident := Nat.find_min hstop hi
        push Not at hident
        exact hident
      obtain ⟨first, hlength, hfirst⟩ := exists_idents hbefore
      have hlast := Nat.find_spec hstop
      rw [← hlength] at hlast
      cases hreply : replies first.length with
      | ident n => exact absurd hreply (hlast n)
      | done => exact ⟨first, hfirst, hreply⟩
      | failed e =>
        have herror := (hfails first e ⟨hfirst, hreply⟩).1
        rw [(Prod.mk.inj hsome).1] at herror
        cases herror
  · rintro ⟨idents, hall, hdone⟩
    have hread : readIdents replies (idents.length + 1) 0 junk = some idents := by
      apply readIdents_all
      · intro j hj
        rw [Nat.zero_add]
        exact hall j hj
      · rw [Nat.zero_add]
        exact hdone
    refine ⟨_, _, _, deleteFromResultIdents_some v hread, by simp, ?_, ?_⟩
    · intro idents' hreads
      obtain rfl := hreads.unique ⟨hall, hdone⟩
      exact ⟨rfl, rfl⟩
    · rintro idents' e ⟨hall', hfailed⟩
      have hle := length_le hall' (fun n hn => by cases hn.symm.trans hdone)
      have hge := length_le hall (fun n hn => by cases hn.symm.trans hfailed)
      rw [le_antisymm hle hge, hdone] at hfailed
      cases hfailed

theorem deleteFromResultIdents_failed :
    ¬ DeletesResult .classic .mysql .alert
        (fun n => if n = 0 then .failed (preludedbError .generic) else .done) 5 Database.empty ∧
      ¬ DeletesResult .pluginFormat .mysql .alert
        (fun n => if n = 0 then .failed (preludedbError .generic) else .done) 5 Database.empty := by
  constructor
  all_goals
    rw [deleteFromResultIdents_iff]
    rintro ⟨idents, hall, hdone⟩
    cases idents with
    | nil => cases hdone
    | cons i is =>
      have hfirst := hall 0 (by simp)
      cases hfirst

end Results

end Preludedb.Classic
