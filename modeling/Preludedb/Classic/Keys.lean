import Preludedb.Classic.Shapes
import Preludedb.Classic.Restores

/-! The primary keys of the classic schema. The rows of a message have different keys, so that a
server which enforces them refuses no insertion under a fresh ident. -/

namespace Preludedb.Classic

open Foundations Sql Idmef

inductive KeyColumn
  | parentType
  | messageIdent
  | parent (n : ℕ)
  | index
  deriving DecidableEq, Repr

def Table.primaryKey : Table → List KeyColumn
  | alert | heartbeat => [.messageIdent]
  | toolAlert | correlationAlert | overflowAlert | classification => [.messageIdent]
  | impact | confidence | assessment | detectTime => [.messageIdent]
  | reference | source | target | action => [.messageIdent, .index]
  | alertident | analyzer | additionalData => [.parentType, .messageIdent, .index]
  | createTime | analyzerTime => [.parentType, .messageIdent]
  | file => [.messageIdent, .parent 0, .index]
  | inode => [.messageIdent, .parent 0, .parent 1]
  | fileAccess | linkage | checksum => [.messageIdent, .parent 0, .parent 1, .index]
  | fileAccessPermission => [.messageIdent, .parent 0, .parent 1, .parent 2, .index]
  | node | user | process | service | webService | snmpService =>
    [.parentType, .messageIdent, .parent 0]
  | address | processArg | processEnv | webServiceArg =>
    [.parentType, .messageIdent, .parent 0, .index]
  | userId => [.parentType, .messageIdent, .parent 0, .parent 1, .parent 2, .index]

inductive KeyValue
  | type (c : Option Char)
  | number (n : Option Int)
  deriving DecidableEq, Repr

def Row.keyValue (r : Row) : KeyColumn → KeyValue
  | .parentType => .type r.parentType
  | .messageIdent => .number (some r.messageIdent)
  | .parent n => .number r.parents[n]?
  | .index => .number r.index

/-- The table and the values of its key columns. -/
def keyOf (w : Table × Row) : Table × List KeyValue := (w.1, w.1.primaryKey.map w.2.keyValue)

namespace Element

def kindAt : Char → Option Kind
  | 'A' => some .alert
  | 'H' => some .heartbeat
  | _ => none

def partyAt (i : Int) : Char → Option Party
  | 'S' => some (.source i)
  | 'T' => some (.target i)
  | _ => none

def ownerAt (i : Int) (c : Char) : Option Owner :=
  ((kindAt c).map fun k => .analyzer k i).orElse fun _ => (partyAt i c).map .party

/-- The element that a key belongs to. -/
def ofKey : Table → List KeyValue → Option Element
  | .createTime, [.type (some c), _] => (kindAt c).map .createTime
  | .detectTime, _ => some .detectTime
  | .analyzerTime, [.type (some c), _] => (kindAt c).map .analyzerTime
  | .assessment, _ => some .assessment
  | .impact, _ => some .impact
  | .confidence, _ => some .confidence
  | .action, [_, .number (some i)] => some (.action i)
  | .toolAlert, _ => some .toolAlert
  | .correlationAlert, _ => some .correlationAlert
  | .overflowAlert, _ => some .overflowAlert
  | .alertident, [.type (some 'T'), _, .number (some i)] => some (.toolAlertident i)
  | .alertident, [.type (some 'C'), _, .number (some i)] => some (.correlationAlertident i)
  | .analyzer, [.type (some c), _, .number (some i)] => (kindAt c).map fun k => .analyzer k i
  | .source, [_, .number (some i)] => some (.source i)
  | .target, [_, .number (some i)] => some (.target i)
  | .node, [.type (some c), _, .number (some i)] => (ownerAt i c).map .node
  | .address, [.type (some c), _, .number (some i), .number (some j)] =>
    (ownerAt i c).map fun o => .address o j
  | .process, [.type (some c), _, .number (some i)] => (ownerAt i c).map .process
  | .processArg, [.type (some c), _, .number (some i), .number (some j)] =>
    (ownerAt i c).map fun o => .processArg o j
  | .processEnv, [.type (some c), _, .number (some i), .number (some j)] =>
    (ownerAt i c).map fun o => .processEnv o j
  | .user, [.type (some c), _, .number (some i)] => (partyAt i c).map .user
  | .userId, [.type (some 'F'), _, .number (some t), .number (some f), .number (some a), _] =>
    some (.accessUserId t f a)
  | .userId, [.type (some c), _, .number (some i), _, _, .number (some j)] =>
    (partyAt i c).map fun p => .userId p j
  | .service, [.type (some c), _, .number (some i)] => (partyAt i c).map .service
  | .webService, [.type (some c), _, .number (some i)] => (partyAt i c).map .webService
  | .webServiceArg, [.type (some c), _, .number (some i), .number (some j)] =>
    (partyAt i c).map fun p => .webServiceArg p j
  | .snmpService, [.type (some c), _, .number (some i)] => (partyAt i c).map .snmpService
  | .file, [_, .number (some t), .number (some f)] => some (.file t f)
  | .fileAccess, [_, .number (some t), .number (some f), .number (some a)] =>
    some (.fileAccess t f a)
  | .fileAccessPermission, [_, .number (some t), .number (some f), .number (some a),
      .number (some p)] => some (.permission t f a p)
  | .linkage, [_, .number (some t), .number (some f), .number (some l)] => some (.linkage t f l)
  | .inode, [_, .number (some t), .number (some f)] => some (.inode t f)
  | .checksum, [_, .number (some t), .number (some f), .number (some c)] => some (.checksum t f c)
  | .classification, _ => some .classification
  | .reference, [_, .number (some i)] => some (.reference i)
  | .additionalData, [.type (some c), _, .number (some i)] =>
    (kindAt c).map fun k => .additionalData k i
  | _, _ => none

lemma ofKey_keyOf (ident : ℕ) (e : Element) (fields : List (String × Cell)) :
    ofKey e.table (keyOf (e.table, e.row ident fields)).2 = some e := by
  cases e with
  | createTime k | analyzerTime k | analyzer k _ | additionalData k _ => cases k <;> rfl
  | node o | address o _ | process o | processArg o _ | processEnv o _ =>
    rcases o with ⟨k, i⟩ | p
    · cases k <;> rfl
    · cases p <;> rfl
  | user p | userId p _ | service p | webService p | webServiceArg p _ | snmpService p =>
    cases p <;> rfl
  | _ => rfl

/-- The primary key of a row says which element it describes. -/
lemma keyOf_injective {ident : ℕ} {e e' : Element} {fields fields' : List (String × Cell)}
    (h : keyOf (e.table, e.row ident fields) = keyOf (e'.table, e'.row ident fields')) : e = e' := by
  obtain ⟨ht, hv⟩ := Prod.mk.inj h
  have he := ofKey_keyOf ident e fields
  have he' := ofKey_keyOf ident e' fields'
  simp only at ht
  rw [keyOf, hv, ht] at he
  exact Option.some.inj (he.symm.trans he')

end Element

section Nodup

variable [L : Libprelude] {ident : ℕ} {m : Message}

/-- The key of an element's row. -/
def Element.key (ident : ℕ) (e : Element) : Table × List KeyValue := keyOf (e.table, e.row ident [])

omit L in
lemma Element.key_eq (ident : ℕ) (e : Element) (fields : List (String × Cell)) :
    keyOf (e.table, e.row ident fields) = e.key ident := rfl

omit L in
lemma Element.key_injective (ident : ℕ) : (Element.key ident).Injective := fun _ _ h =>
  Element.keyOf_injective h

omit L in
lemma Element.table_ne (e : Element) (k : Kind) : e.table ≠ k.table := by
  cases k <;> cases e <;> nofun

lemma keys_eq : (entriesOf m).map (keyOf ∘ entryWrite ident) =
    ((entriesOf m).map Entry.element).map (Element.key ident) := by
  rw [List.map_map]
  rfl

lemma rowsFor_keys (m : Message) (ident : ℕ) : ((rowsFor m ident).map keyOf).Nodup := by
  rw [rowsFor, List.map_cons, List.map_map, keys_eq, List.nodup_cons]
  refine ⟨fun h => ?_, (elements_nodup m).map (Element.key_injective ident)⟩
  obtain ⟨e, -, he⟩ := List.mem_map.mp h
  exact e.table_ne (kindOf m) (congrArg Prod.fst he)

omit L in
lemma singleton_of_length {α : Type} {l : List α} {x : α} (h : l.length ≤ 1) (hx : x ∈ l) : l = [x] := by
  match l, h with
  | [], _ => cases hx
  | [y], _ => rw [List.mem_singleton.mp hx]

/-- The row an INSERT of an element writes. -/
def storedRow : Request → Option (Table × Row)
  | .query (.data (.insert t r)) => some (t, r)
  | _ => none

def keysOf (rs : List Request) : List (Table × List KeyValue) :=
  rs.filterMap fun r => (storedRow r).map keyOf

/-- The elements whose rows the entry may write. -/
def Entry.elements (e : Entry) : List Element :=
  e.element :: if e.issue = .uncheckedOrNull then [.toolAlertident (-1)] else []

omit L in
lemma keysOf_append (rs rs' : List Request) : keysOf (rs ++ rs') = keysOf rs ++ keysOf rs' :=
  List.filterMap_append

lemma keysOf_literals (ls : List Literal) : keysOf ((ls.map Literal.step).flatMap Step.requests) = [] := by
  refine List.filterMap_eq_nil_iff.mpr fun r hr => ?_
  obtain ⟨s, hs, hr⟩ := List.mem_flatMap.mp hr
  obtain ⟨l, -, rfl⟩ := List.mem_map.mp hs
  cases l with
  | text input | textOr n input => cases List.mem_singleton.mp hr; rfl
  | data d =>
    rcases Literal.step_data d with ⟨bytes, h⟩ | ⟨e, -, h⟩ <;> rw [h] at hr
    · cases List.mem_singleton.mp hr
      rfl
    · cases hr

lemma keysOf_steps (e : Entry) : keysOf ((e.steps ident).flatMap Step.requests) =
    e.elements.map (Element.key ident) := by
  rw [Entry.steps, List.flatMap_append, keysOf_append, keysOf_literals, Entry.elements]
  cases e.issue <;> rfl

lemma null_element {e : Entry} (he : e ∈ entriesOf m) (hi : e.issue = .uncheckedOrNull) :
    e.element = .toolAlert ∧ ∀ i, group m (.toolAlertident i) = [] := by
  have hgroup : e ∈ group m e.element := by
    rw [← inGroup_entriesOf]
    exact List.mem_filter.mpr ⟨he, decide_eq_true rfl⟩
  have hunchecked : e.element.table.unchecked = true := by
    rw [← (entriesOf_fits m e he).passes, hi]
    rfl
  cases hs : e.element with
  | classification =>
    rw [hs] at hgroup
    obtain ⟨c, -, hc⟩ := List.mem_flatMap.mp hgroup
    rw [List.mem_singleton.mp hc] at hi
    cases hi
  | webService p =>
    rw [hs] at hgroup
    obtain ⟨w, -, hw⟩ := List.mem_flatMap.mp hgroup
    rw [List.mem_singleton.mp hw] at hi
    cases hi
  | toolAlert =>
    rw [hs] at hgroup
    obtain ⟨ty, hty, hgroup⟩ := List.mem_flatMap.mp hgroup
    obtain ⟨t, ht, hhead⟩ := List.mem_flatMap.mp hgroup
    rw [List.mem_singleton.mp hhead] at hi
    have hnone : t.alertidents = [] := by
      by_contra hne
      rw [if_neg hne] at hi
      cases hi
    have htypes : typesOf m = [ty] := singleton_of_length (typesOf_length m) hty
    have htools : toolOf ty = [t] := singleton_of_length (toolOf_length ty) ht
    refine ⟨rfl, fun i => ?_⟩
    rw [group, htypes, List.flatMap_singleton, htools, List.flatMap_singleton, hnone]
    rfl
  | _ => rw [hs] at hunchecked; cases hunchecked

lemma null_entries (m : Message) :
    ((entriesOf m).filter fun e => decide (e.issue = .uncheckedOrNull)).length ≤ 1 := by
  have hfilter : ((entriesOf m).filter fun e => decide (e.issue = .uncheckedOrNull)).Sublist
      (entriesOf m) := List.filter_sublist
  have hsub := (elements_nodup m).sublist (hfilter.map Entry.element)
  have hall : ∀ e ∈ ((entriesOf m).filter fun e => decide (e.issue = .uncheckedOrNull)).map
      Entry.element, e = .toolAlert := by
    intro e he
    obtain ⟨x, hx, rfl⟩ := List.mem_map.mp he
    obtain ⟨hx, hi⟩ := List.mem_filter.mp hx
    exact (null_element hx (of_decide_eq_true hi)).1
  rw [List.eq_replicate_of_mem hall, List.nodup_replicate, List.length_map] at hsub
  exact hsub

/-- Even with the row that follows the failure of a tool alert, no element is stored twice. -/
lemma stored_nodup (m : Message) : ((entriesOf m).flatMap Entry.elements).Nodup := by
  have hperm := List.map_append_flatMap_perm (entriesOf m) Entry.element fun e =>
    if e.issue = .uncheckedOrNull then [Element.toolAlertident (-1)] else []
  refine hperm.nodup_iff.mp (List.nodup_append'.mpr ⟨elements_nodup m, ?_, ?_⟩)
  · have hnulls : ((entriesOf m).flatMap fun e =>
        if e.issue = .uncheckedOrNull then [Element.toolAlertident (-1)] else []) =
        ((entriesOf m).filter fun e => decide (e.issue = .uncheckedOrNull)).map fun _ =>
          .toolAlertident (-1) := by
      induction entriesOf m with
      | nil => rfl
      | cons e es ih =>
        rw [List.flatMap_cons, ih, List.filter_cons]
        by_cases hi : e.issue = .uncheckedOrNull <;> simp [hi]
    rw [hnulls]
    exact nodup_of_length (by rw [List.length_map]; exact null_entries m)
  · intro e he hnull
    obtain ⟨x, hx, hif⟩ := List.mem_flatMap.mp hnull
    split at hif
    case isTrue hi =>
      obtain rfl := List.mem_singleton.mp hif
      obtain ⟨y, hy, hye⟩ := List.mem_map.mp he
      have hin : y ∈ inGroup (.toolAlertident (-1)) (entriesOf m) :=
        List.mem_filter.mpr ⟨hy, by rw [hye]; exact decide_eq_true rfl⟩
      rw [inGroup_entriesOf, (null_element hx hi).2] at hin
      cases hin
    case isFalse => cases hif

end Nodup

section Servers

variable (b : Backend) (faults : ℕ → Request → Option SqlError) (dup : SqlError)

/-- The row a request would write to the database. -/
def writtenRow (d : Database) : Request → Option (Table × Row)
  | .query (.data (.insert t r)) => some (t, r)
  | .query (.data (.insertMessage k fields)) => some (k.table, messageRow d k fields)
  | _ => none

/-- The request writes a row whose key the table already has. -/
def Duplicates (d : Database) (r : Request) : Prop :=
  ∃ w ∈ writtenRow d r, ∃ r' ∈ d.tables w.1, keyOf (w.1, r') = keyOf w

instance (d : Database) (r : Request) : Decidable (Duplicates d r) :=
  inferInstanceAs (Decidable (∃ w ∈ writtenRow d r, ∃ r' ∈ d.tables w.1, keyOf (w.1, r') = keyOf w))

/-- A server on which some requests fail, without effect, with the number of requests made. -/
def faulty (r : Request) (s : Database × ℕ) : Except SqlError (r.Reply Result) × (Database × ℕ) :=
  match faults s.2 r with
  | some e => (.error e, (s.1, s.2 + 1))
  | none => ((serve b r s.1).1, ((serve b r s.1).2, s.2 + 1))

/-- The same server, with the primary keys of the schema enforced. -/
def keyed (r : Request) (s : Database × ℕ) : Except SqlError (r.Reply Result) × (Database × ℕ) :=
  if Duplicates s.1 r then (.error dup, (s.1, s.2 + 1)) else faulty b faults r s

variable {b faults dup} {d : Database} {k : Kind} {ident : ℕ}

lemma keyed_eq {r : Request} {s : Database × ℕ} (h : ¬ Duplicates s.1 r) :
    keyed b faults dup r s = faulty b faults r s := if_neg h

lemma keyValue_eq {t : Table} {r r' : Row} (h : keyOf (t, r) = keyOf (t, r')) {c : KeyColumn}
    (hc : c ∈ t.primaryKey) : r.keyValue c = r'.keyValue c :=
  List.map_inj_left.mp (Prod.mk.inj h).2 c hc

lemma messageIdent_mem (t : Table) : .messageIdent ∈ t.primaryKey := by
  cases t <;> simp [Table.primaryKey]

lemma messageIdent_eq {t : Table} {r r' : Row} (h : keyOf (t, r) = keyOf (t, r')) :
    r.messageIdent = r'.messageIdent := by
  have hvalue := keyValue_eq h (messageIdent_mem t)
  simpa [Row.keyValue] using hvalue

lemma parentType_mem {t : Table} (h : t.typed = true) : .parentType ∈ t.primaryKey := by
  cases t <;> first | exact List.mem_cons_self | cases h

/-- The keys of a message's rows are not those of rows that were there under a fresh ident. -/
lemma Fresh.key_ne (hf : Fresh k ident d) {e : Element} (he : e.kind = k) {t : Table} {r : Row}
    (hr : r ∈ d.tables t) : keyOf (t, r) ≠ e.key ident := by
  intro h
  obtain rfl : t = e.table := congrArg Prod.fst h
  have hrow := hf e.table r hr (messageIdent_eq h)
  have hselects := selects_element e
  rw [he] at hselects
  have hne : r.parentType ≠ e.parentType := fun hp => by
    rw [← hp, hrow.selects_other] at hselects
    cases hselects
  cases htyped : e.table.typed with
  | true =>
    have hvalue := keyValue_eq h (parentType_mem htyped)
    exact hne (by simpa [Row.keyValue, Element.row] using hvalue)
  | false =>
    have hnone : ∀ {e' : Element}, e'.table = e.table → e'.parentType = none := fun {e'} ht => by
      have hsome : e'.parentType.isSome = false := by rw [e'.typed, ht, htyped]
      simpa using hsome
    rcases hrow with ⟨htop, -⟩ | ⟨e', -, ht, hp⟩
    · exact e.table_ne _ htop
    · exact hne (by rw [← hp, hnone ht, hnone rfl])

lemma not_duplicates_top (fields : List (String × Cell)) :
    ¬ Duplicates d (.query (.data (.insertMessage k fields))) := by
  rintro ⟨w, hw, r', hr', hkey⟩
  cases hw
  exact absurd (messageIdent_eq hkey) (d.fresh k r' hr').ne

/-- What a script of the message has made: only rows of requests it has issued have its keys. -/
def Made (all past : List Request) (s : Database × ℕ) : Prop :=
  ∀ t, ∀ r ∈ s.1.tables t, keyOf (t, r) ∈ keysOf all → keyOf (t, r) ∈ keysOf past

lemma keysOf_cons_insert (e : Element) (fields : List (String × Cell)) (rs : List Request) :
    keysOf (e.insert ident fields :: rs) = e.key ident :: keysOf rs := rfl

variable {all : List Request}

lemma made_append {past rs : List Request} {s : Database × ℕ} (h : Made all past s) :
    Made all (past ++ rs) s := fun t r hr hkey => by
  rw [keysOf_append]
  exact List.mem_append_left _ (h t r hr hkey)

lemma mem_inserted_row {t t' : Table} {r r' : Row} (h : r' ∈ (d.write (.insert t r)).tables t') :
    r' ∈ d.tables t' ∨ t' = t ∧ r' = r := by
  by_cases ht : t' = t
  · subst ht
    simpa [TableWrite.apply] using h
  · rw [Database.write_tables, TableWrite.apply, Function.update_of_ne ht] at h
    exact .inl h

lemma keyed_agrees (hall : ∀ r ∈ all, Stores k ident r) (hnodup : (keysOf all).Nodup) :
    Program.Agrees (faulty b faults) (keyed b faults dup) (Made all) all where
  skipped past rs s h := made_append h
  answer past r rest s hsplit h := by
    refine (keyed_eq ?_).symm
    rintro ⟨w, hw, r', hr', hkey⟩
    rcases hall r (by simp [hsplit]) with input | input | ⟨e, fields, he⟩
    · cases hw
    · cases hw
    · cases hw
      rw [hsplit, keysOf_append, keysOf_cons_insert, List.nodup_append'] at hnodup
      obtain ⟨-, -, hdisjoint⟩ := hnodup
      have hmem : keyOf (e.table, r') ∈ keysOf all := by
        rw [hkey, hsplit, keysOf_append, keysOf_cons_insert]
        exact List.mem_append_right _ List.mem_cons_self
      have hpast := h e.table r' hr' hmem
      rw [hkey] at hpast
      exact hdisjoint hpast List.mem_cons_self
  made past r rest s hsplit h := by
    rw [faulty]
    split
    · exact made_append h
    rcases hall r (by simp [hsplit]) with input | input | ⟨e, fields, he⟩
    · exact made_append h
    · exact made_append h
    · intro t r' hr' hkey
      rw [keysOf_append]
      rcases mem_inserted_row hr' with hr' | ⟨rfl, rfl⟩
      · exact List.mem_append_left _ (h t r' hr' hkey)
      · exact List.mem_append_right _ List.mem_cons_self

/-- The ident that is given out is that of the row just written, when there is an answer. -/
lemma insertMessage_faulty {fields : List (String × Cell)} {n i : ℕ} {s' : Database × ℕ}
    (h : (insertMessage k fields).run (faulty b faults) (d, n) = (.ok i, s')) :
    i = d.counter k ∧ s'.1 = d.write (.insert k.table (messageRow d k fields)) := by
  have hrequests : (insertMessage k fields).Requests fun _ => True :=
    insertMessage_requests trivial trivial trivial trivial
  have hsucceeds : (insertMessage k fields).Succeeds (faulty b faults) (fun _ => True) (d, n) :=
    (insertMessage_failStop (fun _ => True) k fields).succeeds_all hrequests
      (fun _ _ _ _ hnot => absurd trivial hnot) (congrArg Prod.fst h)
  obtain ⟨hresult, hstate⟩ := hrequests.run_answered (serve b) (R := fun s d => s.1 = d)
    (fun r s t _ hst hok => by
      subst hst
      rw [faulty] at hok ⊢
      split at hok
      case h_1 e he => exact absurd rfl (hok e)
      case h_2 he => exact ⟨rfl, rfl⟩) (rfl : (d, n).1 = d) hsucceeds
  rw [h, insertMessage_serve] at hresult hstate
  simp only at hresult hstate
  exact ⟨(fieldToUint64_natCast.mp hresult.symm).2, hstate⟩

lemma insertMessage_keyed (fields : List (String × Cell)) (n : ℕ) :
    (insertMessage k fields).run (keyed b faults dup) (d, n) =
      (insertMessage k fields).run (faulty b faults) (d, n) := by
  have hident : (getLastInsertIdent k).Requests fun r => ∀ d, writtenRow d r = none := by
    refine .bind (.call fun _ => rfl) fun table => ?_
    rcases table with _ | _ | ⟨row, rows⟩
    · trivial
    · exact .bind (.call fun _ => rfl) fun _ => trivial
    · exact .bind (.call fun _ => rfl) fun _ => .bind (.call fun _ => rfl) fun _ => .ofExcept _
  have hrest : ∀ s, (getLastInsertIdent k).run (keyed b faults dup) s =
      (getLastInsertIdent k).run (faulty b faults) s := fun s => by
    obtain ⟨hresult, hstate⟩ := hident.run_related (keyed b faults dup) (faulty b faults) (R := Eq)
      (fun r s t hr hst => by
        have hnot : ¬ Duplicates s.1 r := by
          rintro ⟨w, hw, -⟩
          rw [hr] at hw
          cases hw
        rw [keyed_eq hnot, hst]
        exact ⟨rfl, rfl⟩) (rfl : s = s)
    exact Prod.ext hresult hstate
  rw [insertMessage, Program.run_bind, Program.run_bind, Program.run_call, Program.run_call,
    keyed_eq (not_duplicates_top fields)]
  rcases faulty b faults (.query (.data (.insertMessage k fields))) (d, n) with ⟨e | x, s'⟩
  · rfl
  · exact hrest s'

variable [L : Libprelude]

lemma keysOf_all (m : Message) : keysOf (((entriesOf m).flatMap (Entry.steps ident)).flatMap Step.requests) =
    ((entriesOf m).flatMap Entry.elements).map (Element.key ident) := by
  induction entriesOf m with
  | nil => rfl
  | cons e es ih =>
    rw [List.flatMap_cons, List.flatMap_append, keysOf_append, keysOf_steps, ih, List.flatMap_cons,
      List.map_append]

lemma stored_kind {m : Message} {e : Element} (h : e ∈ (entriesOf m).flatMap Entry.elements) :
    e.kind = kindOf m := by
  obtain ⟨x, hx, he⟩ := List.mem_flatMap.mp h
  have hfits := entriesOf_fits m x hx
  rcases List.mem_cons.mp he with rfl | he
  · exact hfits.kind
  · split at he
    case isTrue hi =>
      rw [hfits.null hi, List.mem_singleton.mp he]
      rfl
    case isFalse => cases he

/-- Nothing but the top row is there when the entries are stored. -/
lemma store_keyed {m : Message} {s : Database × ℕ} (hf : Fresh (kindOf m) ident d)
    (hs : ∀ t, ∀ r ∈ s.1.tables t, r ∈ d.tables t ∨ t = (kindOf m).table) :
    (Entry.store ident (entriesOf m)).run (faulty b faults) s =
      (Entry.store ident (entriesOf m)).run (keyed b faults dup) s := by
  have hall : ∀ r ∈ ((entriesOf m).flatMap (Entry.steps ident)).flatMap Step.requests,
      Stores (kindOf m) ident r := by
    simp only [List.forall_mem_flatMap]
    exact fun e he st hst => Entry.steps_requests (entriesOf_fits m e he) st hst
  have hnodup := (stored_nodup m).map (Element.key_injective ident)
  rw [← keysOf_all] at hnodup
  refine Program.script_agree (keyed_agrees hall hnodup) (List.nil_append _).symm ?_
  intro t r hr hkey
  rw [keysOf_all] at hkey
  obtain ⟨e, he, hkey⟩ := List.mem_map.mp hkey
  rcases hs t r hr with hr | rfl
  · exact absurd hkey.symm (hf.key_ne (stored_kind he) hr)
  · exact absurd (congrArg Prod.fst hkey) (e.table_ne _)

end Servers

end Preludedb.Classic
