import Mathlib.Tactic

/-! A transactional store as one client session sees it: durable data, and the writes of the
transaction the session has open. -/

namespace Foundations

structure Store (δ ω : Type) where
  durable : δ
  pending : Option (List ω)

namespace Store

variable {δ ω : Type} (apply : δ → ω → δ) (s : Store δ ω)

def view : δ := (s.pending.getD []).foldl apply s.durable

/-- A transaction that is still open when another one begins is committed first. -/
def start : Store δ ω := ⟨s.view apply, some []⟩

def commit : Store δ ω := ⟨s.view apply, none⟩

def rollback : Store δ ω := ⟨s.durable, none⟩

def write (ws : List ω) : Store δ ω :=
  match s.pending with
  | none => ⟨ws.foldl apply s.durable, none⟩
  | some ps => ⟨s.durable, some (ps ++ ws)⟩

@[simp] lemma start_durable : (s.start apply).durable = s.view apply := rfl
@[simp] lemma start_pending : (s.start apply).pending = some [] := rfl
@[simp] lemma start_view : (s.start apply).view apply = s.view apply := rfl
@[simp] lemma commit_durable : (s.commit apply).durable = s.view apply := rfl
@[simp] lemma commit_pending : (s.commit apply).pending = none := rfl
@[simp] lemma commit_view : (s.commit apply).view apply = s.view apply := rfl
@[simp] lemma rollback_durable : s.rollback.durable = s.durable := rfl
@[simp] lemma rollback_pending : s.rollback.pending = none := rfl

lemma view_closed (h : s.pending = none) : s.view apply = s.durable := by
  simp [view, h]

@[simp] lemma write_view (ws : List ω) :
    (s.write apply ws).view apply = ws.foldl apply (s.view apply) := by
  cases hp : s.pending with
  | none => simp [write, view, hp]
  | some ps => simp [write, view, hp, List.foldl_append]

lemma write_open {ps : List ω} (h : s.pending = some ps) (ws : List ω) :
    s.write apply ws = ⟨s.durable, some (ps ++ ws)⟩ := by
  simp [write, h]

end Store

end Foundations
