import Mathlib.Data.List.Basic
import Mathlib.Tactic.Common

/-! Quoted literals: a text between quotes, in which a quote is doubled or stands after an escape
character. -/

namespace Foundations

structure Quoting (α : Type*) where
  quote : α
  /-- The character that changes the meaning of the next one, where there is one. -/
  escape : Option α
  unescape : α → α

namespace Quoting

variable {α : Type*} {k : Quoting α}

/-- The texts that stand for a character inside a literal. -/
inductive Encodes (k : Quoting α) : α → List α → Prop
  | plain (x : α) (hquote : x ≠ k.quote) (hescape : some x ≠ k.escape) : Encodes k x [x]
  | doubled : Encodes k k.quote [k.quote, k.quote]
  | escaped (e y : α) (hescape : k.escape = some e) : Encodes k (k.unescape y) [e, y]

lemma Encodes.length {x : α} {text : List α} (h : k.Encodes x text) : 1 ≤ text.length ∧ text.length ≤ 2 := by
  cases h <;> simp

lemma flatMap_length {encode : α → List α} {xs : List α} (hxs : ∀ x ∈ xs, k.Encodes x (encode x)) :
    xs.length ≤ (xs.flatMap encode).length ∧ (xs.flatMap encode).length ≤ 2 * xs.length := by
  induction xs with
  | nil => simp
  | cons x xs ih =>
    have hx := (hxs x List.mem_cons_self).length
    have hrec := ih fun y hy => hxs y (List.mem_cons_of_mem x hy)
    simp only [List.flatMap_cons, List.length_append, List.length_cons]
    omega

variable [DecidableEq α]

/-- The value of a literal from after its first quote on, and what follows its last one. -/
def scan (k : Quoting α) : List α → Option (List α × List α)
  | [] => none
  | [x] => if x = k.quote then some ([], []) else none
  | x :: y :: rest =>
    if some x = k.escape then (scan k rest).map (fun p => (k.unescape y :: p.1, p.2))
    else if x ≠ k.quote then (scan k (y :: rest)).map (fun p => (x :: p.1, p.2))
    else if y = k.quote then (scan k rest).map (fun p => (k.quote :: p.1, p.2))
    else some ([], y :: rest)

def complete (read : List α × List α) : Option (List α) :=
  if read.2 = [] then some read.1 else none

/-- The value of a text that is one literal. -/
def literal (k : Quoting α) : List α → Option (List α)
  | x :: rest => if x = k.quote then (scan k rest).bind complete else none
  | [] => none

variable (hk : some k.quote ≠ k.escape)

include hk

lemma scan_end {rest : List α} (hrest : rest.head? ≠ some k.quote) :
    scan k (k.quote :: rest) = some ([], rest) := by
  cases rest with
  | nil => simp [scan]
  | cons y rest =>
    have hy : y ≠ k.quote := fun h => hrest (by simp [h])
    simp [scan, hk, hy]

lemma scan_encoded {x : α} {text : List α} (hx : k.Encodes x text) {rest : List α} (hrest : rest ≠ []) :
    scan k (text ++ rest) = (scan k rest).map fun p => (x :: p.1, p.2) := by
  cases hx with
  | plain x hquote hescape =>
    obtain ⟨y, rest, rfl⟩ := List.exists_cons_of_ne_nil hrest
    simp [scan, hescape, hquote]
  | doubled => simp [scan, hk]
  | escaped e y hescape => simp [scan, hescape]

/-- A text made of the texts of its characters is read back up to the quote after it. -/
lemma scan_flatMap {encode : α → List α} {xs : List α} (hxs : ∀ x ∈ xs, k.Encodes x (encode x))
    {rest : List α} (hrest : rest.head? ≠ some k.quote) :
    scan k (xs.flatMap encode ++ k.quote :: rest) = some (xs, rest) := by
  induction xs with
  | nil => exact scan_end hk hrest
  | cons x xs ih =>
    have hrec := ih fun y hy => hxs y (List.mem_cons_of_mem x hy)
    rw [List.flatMap_cons, List.append_assoc,
      scan_encoded hk (hxs x List.mem_cons_self) (by simp), hrec, Option.map_some]

lemma literal_flatMap {encode : α → List α} {xs : List α} (hxs : ∀ x ∈ xs, k.Encodes x (encode x)) :
    k.literal (k.quote :: (xs.flatMap encode ++ [k.quote])) = some xs := by
  rw [literal, if_pos rfl, scan_flatMap hk hxs (by simp), Option.bind_some, complete, if_pos rfl]

end Quoting

end Foundations
