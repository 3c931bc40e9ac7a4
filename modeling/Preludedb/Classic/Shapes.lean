import Preludedb.Classic.Groups

/-! The forms that groups of rows have, and what follows for a message as a whole: no element of it
is stored twice. -/

namespace Preludedb.Classic

open Foundations Sql Idmef

/-- How the elements of a group are stored: alone, one after the other, or so and the last one once
more under the index -1. -/
inductive Arity
  | single
  | numbered
  | listed
  deriving DecidableEq, Repr

def Element.arity : Element → Arity
  | processArg _ _ | processEnv _ _ | toolAlertident _ => .numbered
  | action _ | correlationAlertident _ | analyzer _ _ | source _ | target _ | address _ _ | userId _ _
  | webServiceArg _ _ | file _ _ | fileAccess _ _ _ | permission _ _ _ _ | linkage _ _ _
  | checksum _ _ _ | reference _ | additionalData _ _ => .listed
  | _ => .single

/-- The entries of the values of one list. -/
structure Indexed {α : Type} (s : Element) (mk : Int → α → Entry) : Prop where
  element : ∀ i x, (mk i x).element = s.withIndex i
  fields : ∀ i j x, (mk i x).fields = (mk j x).fields

def Shaped (s : Element) (es : List Entry) : Prop :=
  match s.arity with
  | .single => es.length ≤ 1
  | .numbered => ∃ (α : Type) (xs : List α) (mk : Int → α → Entry), Indexed s mk ∧
      es = (numbered 0 xs).map fun x => mk x.1 x.2
  | .listed => ∃ (α : Type) (xs : List α) (mk : Int → α → Entry), Indexed s mk ∧
      es = (listed xs).map fun x => mk x.1 x.2

section Shapes

variable {s : Element} {α β : Type}

lemma Shaped.numbered (mk : Int → α → Entry) (hs : s.arity = .numbered) (h : Indexed s mk) (xs : List α) :
    Shaped s ((numbered 0 xs).map fun x => mk x.1 x.2) := by
  rw [Shaped, hs]
  exact ⟨α, xs, mk, h, rfl⟩

lemma Shaped.listed (mk : Int → α → Entry) (hs : s.arity = .listed) (h : Indexed s mk) (xs : List α) :
    Shaped s ((listed xs).map fun x => mk x.1 x.2) := by
  rw [Shaped, hs]
  exact ⟨α, xs, mk, h, rfl⟩

lemma Shaped.single {es : List Entry} (hs : s.arity = .single) (h : es.length ≤ 1) : Shaped s es := by
  rwa [Shaped, hs]

lemma Shaped.none (s : Element) : Shaped s [] := by
  have hindexed : Indexed s fun i (_ : Empty) => ⟨s.withIndex i, [], [], .checked⟩ := ⟨fun _ _ => rfl, fun _ _ _ => rfl⟩
  cases hs : s.arity with
  | single => exact .single hs (Nat.zero_le _)
  | numbered => exact .numbered _ hs hindexed []
  | listed => exact .listed _ hs hindexed []

lemma Shaped.flatMap {l : List β} {g : β → List Entry} (hl : l.length ≤ 1) (h : ∀ x, Shaped s (g x)) :
    Shaped s (l.flatMap g) := by
  match l, hl with
  | [], _ => exact .none s
  | [x], _ => 
    rw [List.flatMap_singleton]
    exact h x

end Shapes

section Lengths

variable (m : Message)

lemma toList_length {α : Type} (x : Option α) : x.toList.length ≤ 1 := by cases x <;> simp

lemma length_flatMap {α β : Type} {l : List α} {g : α → List β} (hl : l.length ≤ 1)
    (h : ∀ x, (g x).length ≤ 1) : (l.flatMap g).length ≤ 1 := by
  match l, hl with
  | [], _ => exact Nat.zero_le _
  | [x], _ =>
    rw [List.flatMap_singleton]
    exact h x

lemma length_map {α β : Type} {l : List α} {g : α → β} (hl : l.length ≤ 1) : (l.map g).length ≤ 1 := by
  rwa [List.length_map]

lemma alertsOf_length : (alertsOf m).length ≤ 1 := by cases m <;> simp [alertsOf]

lemma heartbeatsOf_length : (heartbeatsOf m).length ≤ 1 := by cases m <;> simp [heartbeatsOf]

lemma createTimesOf_length (k : Kind) : (createTimesOf m k).length ≤ 1 := by
  cases k with
  | alert => exact length_map (alertsOf_length m)
  | heartbeat => exact length_map (heartbeatsOf_length m)

lemma analyzerTimesOf_length (k : Kind) : (analyzerTimesOf m k).length ≤ 1 := by
  cases k with
  | alert => exact length_flatMap (alertsOf_length m) fun a => toList_length _
  | heartbeat => exact length_flatMap (heartbeatsOf_length m) fun h => toList_length _

lemma assessmentsOf_length : (assessmentsOf m).length ≤ 1 :=
  length_flatMap (alertsOf_length m) fun _ => toList_length _

lemma classificationsOf_length : (classificationsOf m).length ≤ 1 :=
  length_flatMap (alertsOf_length m) fun _ => toList_length _

lemma typesOf_length : (typesOf m).length ≤ 1 := length_map (alertsOf_length m)

lemma nodesOf_length (o : Owner) : (nodesOf m o).length ≤ 1 := by
  rcases o with ⟨k, i⟩ | ⟨i⟩ | ⟨i⟩ <;> exact length_flatMap (chosen_length _ _) fun _ => toList_length _

lemma processesOf_length (o : Owner) : (processesOf m o).length ≤ 1 := by
  rcases o with ⟨k, i⟩ | ⟨i⟩ | ⟨i⟩ <;> exact length_flatMap (chosen_length _ _) fun _ => toList_length _

lemma usersOf_length (p : Party) : (usersOf m p).length ≤ 1 := by
  cases p <;> exact length_flatMap (chosen_length _ _) fun _ => toList_length _

lemma servicesOf_length (p : Party) : (servicesOf m p).length ≤ 1 := by
  cases p <;> exact length_flatMap (chosen_length _ _) fun _ => toList_length _

lemma webOf_length (t : ServiceType) : (webOf t).length ≤ 1 := by cases t <;> simp [webOf]

lemma snmpOf_length (t : ServiceType) : (snmpOf t).length ≤ 1 := by cases t <;> simp [snmpOf]

lemma webServicesOf_length (p : Party) : (webServicesOf m p).length ≤ 1 :=
  length_flatMap (servicesOf_length m p) fun v => webOf_length v.type

lemma toolOf_length (t : AlertType) : (toolOf t).length ≤ 1 := by cases t <;> simp [toolOf]

lemma correlationOf_length (t : AlertType) : (correlationOf t).length ≤ 1 := by
  cases t <;> simp [correlationOf]

lemma overflowOf_length (t : AlertType) : (overflowOf t).length ≤ 1 := by cases t <;> simp [overflowOf]

end Lengths

variable [L : Libprelude] (m : Message)

/-- Every group has the form that its elements' arity says. -/
lemma group_shaped (s : Element) : Shaped s (group m s) := by
  have hassessment := assessmentsOf_length m
  have htype := typesOf_length m
  have hclassification := classificationsOf_length m
  cases s with
  | createTime k => exact .single rfl (length_map (createTimesOf_length m k))
  | analyzerTime k => exact .single rfl (length_map (analyzerTimesOf_length m k))
  | detectTime =>
    exact .single rfl (length_flatMap (alertsOf_length m) fun _ => length_map (toList_length _))
  | assessment => exact .single rfl (length_flatMap hassessment fun _ => List.length_take_le _ _)
  | impact | confidence =>
    exact .single rfl (length_flatMap hassessment fun _ => length_map (toList_length _))
  | action i => exact .flatMap hassessment fun _ => .listed _ rfl ⟨fun _ _ => rfl, fun _ _ _ => rfl⟩ _
  | toolAlert =>
    exact .single rfl (length_flatMap htype fun t =>
      length_flatMap (toolOf_length t) fun _ => List.length_take_le _ _)
  | toolAlertident i =>
    exact .flatMap htype fun t => .flatMap (toolOf_length t) fun _ =>
      .numbered (fun i y => alertidentEntry (.toolAlertident i) (some y)) rfl
        ⟨fun _ _ => rfl, fun _ _ _ => rfl⟩ _
  | correlationAlert =>
    exact .single rfl (length_flatMap htype fun t =>
      length_flatMap (correlationOf_length t) fun _ => List.length_take_le _ _)
  | correlationAlertident i =>
    exact .flatMap htype fun t => .flatMap (correlationOf_length t) fun _ =>
      .listed (fun i y => alertidentEntry (.correlationAlertident i) (some y)) rfl
        ⟨fun _ _ => rfl, fun _ _ _ => rfl⟩ _
  | overflowAlert =>
    exact .single rfl (length_flatMap htype fun t => length_map (overflowOf_length t))
  | analyzer k i => exact .listed _ rfl ⟨fun _ _ => rfl, fun _ _ _ => rfl⟩ _
  | source i | target i | file t i => exact .listed _ rfl ⟨fun _ _ => rfl, fun _ _ _ => rfl⟩ _
  | additionalData k i => exact .listed _ rfl ⟨fun _ _ => rfl, fun _ _ _ => rfl⟩ _
  | fileAccess t f i => exact .listed _ rfl ⟨fun _ _ => rfl, fun _ _ _ => rfl⟩ _
  | node o => exact .single rfl (length_flatMap (nodesOf_length m o) fun _ => List.length_take_le _ _)
  | address o i =>
    exact .flatMap (nodesOf_length m o) fun _ => .listed _ rfl ⟨fun _ _ => rfl, fun _ _ _ => rfl⟩ _
  | process o =>
    exact .single rfl (length_flatMap (processesOf_length m o) fun _ => List.length_take_le _ _)
  | processArg o i =>
    exact .flatMap (processesOf_length m o) fun _ =>
      .numbered (fun i => stringEntry (.processArg o i) "arg") rfl ⟨fun _ _ => rfl, fun _ _ _ => rfl⟩ _
  | processEnv o i =>
    exact .flatMap (processesOf_length m o) fun _ =>
      .numbered (fun i => stringEntry (.processEnv o i) "env") rfl ⟨fun _ _ => rfl, fun _ _ _ => rfl⟩ _
  | user p => exact .single rfl (length_flatMap (usersOf_length m p) fun _ => List.length_take_le _ _)
  | userId p i =>
    exact .flatMap (usersOf_length m p) fun _ =>
      .listed (fun i => userIdEntry (.userId p i)) rfl ⟨fun _ _ => rfl, fun _ _ _ => rfl⟩ _
  | service p =>
    exact .single rfl (length_flatMap (servicesOf_length m p) fun _ => List.length_take_le _ _)
  | webService p =>
    exact .single rfl (length_flatMap (webServicesOf_length m p) fun _ => List.length_take_le _ _)
  | webServiceArg p i =>
    exact .flatMap (webServicesOf_length m p) fun _ =>
      .listed (fun i => stringEntry (.webServiceArg p i) "arg") rfl ⟨fun _ _ => rfl, fun _ _ _ => rfl⟩ _
  | snmpService p =>
    exact .single rfl (length_flatMap (servicesOf_length m p) fun v => length_map (snmpOf_length v.type))
  | permission t f b i =>
    exact .flatMap (chosen_length _ _) fun _ =>
      .listed (fun i => stringEntry (.permission t f b i) "permission") rfl ⟨fun _ _ => rfl, fun _ _ _ => rfl⟩ _
  | accessUserId t f b => exact .single rfl (length_map (chosen_length _ _))
  | linkage t f i | checksum t f i =>
    exact .flatMap (chosen_length _ _) fun _ => .listed _ rfl ⟨fun _ _ => rfl, fun _ _ _ => rfl⟩ _
  | inode t f =>
    exact .single rfl (length_flatMap (chosen_length _ _) fun _ => length_map (toList_length _))
  | classification =>
    exact .single rfl (length_flatMap hclassification fun _ => List.length_take_le _ _)
  | reference i =>
    exact .flatMap hclassification fun _ => .listed _ rfl ⟨fun _ _ => rfl, fun _ _ _ => rfl⟩ _

omit L in
lemma Element.withIndex_injective {s : Element} (hs : s.arity ≠ .single) : s.withIndex.Injective := by
  intro i j h
  cases s <;> first | exact absurd rfl hs | (cases h; rfl)

omit L in
lemma nodup_of_length {α : Type} {l : List α} (h : l.length ≤ 1) : l.Nodup := by
  match l, h with
  | [], _ => exact .nil
  | [x], _ => exact List.nodup_singleton x

omit L in
lemma Shaped.nodup {s : Element} {es : List Entry} (h : Shaped s es) : (es.map Entry.element).Nodup := by
  have hindexed : ∀ {α : Type} {mk : Int → α → Entry} {xs : List (Int × α)}, s.arity ≠ .single →
      Indexed s mk → (xs.map Prod.fst).Nodup →
      ((xs.map fun x => mk x.1 x.2).map Entry.element).Nodup := by
    intro α mk xs hs hmk hxs
    have helements : (xs.map fun x => mk x.1 x.2).map Entry.element =
        (xs.map Prod.fst).map s.withIndex := by
      simp only [List.map_map, Function.comp_def, hmk.element]
    rw [helements]
    exact hxs.map (Element.withIndex_injective hs)
  rw [Shaped] at h
  cases hs : s.arity with
  | single =>
    rw [hs] at h
    exact nodup_of_length (by rwa [List.length_map])
  | numbered =>
    rw [hs] at h
    obtain ⟨α, xs, mk, hmk, rfl⟩ := h
    have hnumbered := (numbered_sorted 0 xs).imp fun h => ne_of_lt h
    exact hindexed (hs ▸ nofun) hmk (List.pairwise_map.mpr hnumbered)
  | listed =>
    rw [hs] at h
    obtain ⟨α, xs, mk, hmk, rfl⟩ := h
    exact hindexed (hs ▸ nofun) hmk (listed_nodup xs)

/-- The elements of a message are stored once each. -/
lemma elements_nodup : ((entriesOf m).map Entry.element).Nodup := by
  rw [List.nodup_iff_sublist]
  intro e htwice
  have hgroup := (group_shaped m e).nodup
  rw [← inGroup_entriesOf] at hgroup
  obtain ⟨es, hes, htwo⟩ := List.sublist_map_iff.mp htwice
  have hin : inGroup e es = es := List.filter_eq_self.mpr fun x hx => by
    have helement : x.element ∈ [e, e] := htwo ▸ List.mem_map_of_mem hx
    have heq : x.element = e := by simpa using helement
    exact decide_eq_true (by rw [heq])
  have hsub : es.Sublist (inGroup e (entriesOf m)) := hin ▸ hes.filter _
  exact List.nodup_iff_sublist.mp hgroup e (htwo ▸ hsub.map Entry.element)

end Preludedb.Classic
