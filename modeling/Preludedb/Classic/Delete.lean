import Preludedb.Classic.Issued
import Preludedb.Classic.Sessions

/-! The deletion of stored messages: one DELETE for each table a message of the kind may have rows
in, with a test on the parent type where messages of both kinds share the table. -/

namespace Preludedb.Classic

open Foundations Sql Idmef

def deleteAlertQueries : List (Table × TypeTest) :=
  [(.action, .any), (.additionalData, .eq 'A'), (.address, .ne 'H'), (.alert, .any),
    (.alertident, .any), (.analyzer, .eq 'A'), (.analyzerTime, .eq 'A'), (.assessment, .any),
    (.classification, .any), (.reference, .any), (.confidence, .any), (.correlationAlert, .any),
    (.createTime, .eq 'A'), (.detectTime, .any), (.file, .any), (.fileAccess, .any),
    (.fileAccessPermission, .any), (.impact, .any), (.inode, .any), (.checksum, .any),
    (.linkage, .any), (.node, .ne 'H'), (.overflowAlert, .any), (.process, .ne 'H'),
    (.processArg, .ne 'H'), (.processEnv, .ne 'H'), (.snmpService, .any), (.service, .any),
    (.source, .any), (.target, .any), (.toolAlert, .any), (.user, .any), (.userId, .any),
    (.webService, .any), (.webServiceArg, .any)]

def deleteHeartbeatQueries : List (Table × TypeTest) :=
  [(.additionalData, .eq 'H'), (.address, .eq 'H'), (.analyzer, .eq 'H'), (.analyzerTime, .eq 'H'),
    (.createTime, .eq 'H'), (.node, .eq 'H'), (.process, .eq 'H'), (.processArg, .eq 'H'),
    (.processEnv, .eq 'H'), (.heartbeat, .any)]

def deleteQueries : Kind → List (Table × TypeTest)
  | .alert => deleteAlertQueries
  | .heartbeat => deleteHeartbeatQueries

def deletion (idents : List ℕ) (q : Table × TypeTest) : Request :=
  .query (.data (.delete q.1 ⟨idents, q.2, [], .any⟩))

def deleteMessage (queries : List (Table × TypeTest)) (idents : List ℕ) : Action Unit :=
  inTransaction (Program.calls (queries.map (deletion idents)))

def classicDeleteAlert (ident : ℕ) : Action Unit := deleteMessage deleteAlertQueries [ident]

def classicDeleteHeartbeat (ident : ℕ) : Action Unit := deleteMessage deleteHeartbeatQueries [ident]

def classicDelete : Kind → ℕ → Action Unit
  | .alert => classicDeleteAlert
  | .heartbeat => classicDeleteHeartbeat

lemma classicDelete_eq (k : Kind) (ident : ℕ) :
    classicDelete k ident = deleteMessage (deleteQueries k) [ident] := by
  cases k <;> rfl

def Kind.other : Kind → Kind
  | .alert => .heartbeat
  | .heartbeat => .alert

/-- A row that a message of kind `k` can have in the table `t`. -/
def RowOf (k : Kind) (t : Table) (r : Row) : Prop :=
  t = k.table ∧ r.parentType = none ∨
    ∃ e : Element, e.kind = k ∧ e.table = t ∧ e.parentType = r.parentType

/-- Some query is about the table and passes its test on the parent type. -/
def selects (queries : List (Table × TypeTest)) (t : Table) (parentType : Option Char) : Bool :=
  queries.any fun q => q.1 = t && q.2.holds parentType

/-- The queries of a kind reach every element of its messages. -/
lemma selects_element (e : Element) :
    selects (deleteQueries e.kind) e.table e.parentType = true := by
  cases e with
  | createTime k | analyzerTime k | analyzer k i | additionalData k i => cases k <;> rfl
  | node o | address o i | process o | processArg o i | processEnv o i =>
    rcases o with ⟨k, i⟩ | ⟨i | i⟩
    · cases k <;> rfl
    · rfl
    · rfl
  | user p | userId p i | service p | webService p | webServiceArg p i | snmpService p =>
    cases p <;> rfl
  | _ => rfl

/-- They reach no element of the messages of the other kind. -/
lemma selects_other (e : Element) :
    selects (deleteQueries e.kind.other) e.table e.parentType = false := by
  cases e with
  | createTime k | analyzerTime k | analyzer k i | additionalData k i => cases k <;> rfl
  | node o | address o i | process o | processArg o i | processEnv o i =>
    rcases o with ⟨k, i⟩ | ⟨i | i⟩
    · cases k <;> rfl
    · rfl
    · rfl
  | user p | userId p i | service p | webService p | webServiceArg p i | snmpService p =>
    cases p <;> rfl
  | _ => rfl

lemma selects_top (k k' : Kind) : selects (deleteQueries k) k'.table none = decide (k = k') := by
  cases k <;> cases k' <;> rfl

variable {k : Kind} {t : Table} {r : Row} {ident : ℕ}

lemma RowOf.selects (h : RowOf k t r) : selects (deleteQueries k) t r.parentType = true := by
  rcases h with ⟨rfl, hp⟩ | ⟨e, rfl, rfl, hp⟩
  · rw [hp, selects_top, decide_eq_true rfl]
  · rw [← hp]
    exact selects_element e

lemma RowOf.selects_other (h : RowOf k.other t r) :
    Classic.selects (deleteQueries k) t r.parentType = false := by
  have hk : k = k.other.other := by cases k <;> rfl
  rcases h with ⟨rfl, hp⟩ | ⟨e, he, rfl, hp⟩
  · rw [hp, selects_top, decide_eq_false]
    cases k <;> nofun
  · rw [← hp, hk, ← he]
    exact Classic.selects_other e

/-- The rows that the queries for one ident delete. -/
lemma deleted_eq (queries : List (Table × TypeTest)) :
    TableWrite.deleted t (queries.map fun q => (q.1, Where.holds ⟨[ident], q.2, [], .any⟩)) r =
      (decide (r.messageIdent = ident) && selects queries t r.parentType) := by
  have hholds (q : Table × TypeTest) : Where.holds ⟨[ident], q.2, [], .any⟩ r =
      (decide (r.messageIdent = ident) && q.2.holds r.parentType) := by
    simp [Where.holds, IndexTest.holds, List.isPrefixOf]
  by_cases h : r.messageIdent = ident <;>
    simp [TableWrite.deleted, selects, Function.comp_def, hholds, h]

end Preludedb.Classic
