import Preludedb.Sql.Escapes

/-! The test by which the escape functions tell that the size of their output does not fit in a
`size_t`: the size that wrapped around is compared with that of the input. -/

namespace Preludedb.Sql

open Foundations Foundations.Buffers Classic

/-- What the test is for: an input is refused when the exact size of the output does not fit in a
`size_t` of `w` bits, and otherwise every write is inside of what was allocated. -/
def SizeGuarded (w k inputSize : ℕ) (tooLong : SqlError) (escaped : Option (Except SqlError (Buffer UInt8))) : Prop :=
  (escaped = some (.error tooLong) ↔ 2 ^ w ≤ 2 * inputSize + k) ∧ escaped ≠ none

section Wrapping

variable {w n k : ℕ}

/-- The doubled size wraps around once, or twice for the last sizes. -/
lemma wrapped_cases (hw : 3 ≤ w) (hn : n < 2 ^ w) (hk : k ≤ 4) :
    2 * n + k < 2 ^ w ∧ (n * 2 + k) % 2 ^ w = 2 * n + k ∨
      2 ^ w ≤ 2 * n + k ∧ 2 * n + k < 2 * 2 ^ w ∧ (n * 2 + k) % 2 ^ w + 2 ^ w = 2 * n + k ∨
      2 * 2 ^ w ≤ 2 * n + k ∧ (n * 2 + k) % 2 ^ w + 2 * 2 ^ w = 2 * n + k := by
  have hsize : 2 ^ 3 ≤ 2 ^ w := Nat.pow_le_pow_right (by norm_num) hw
  have hcomm : n * 2 + k = 2 * n + k := by ring
  rw [hcomm]
  rcases lt_or_ge (2 * n + k) (2 ^ w) with hfits | honce
  · exact .inl ⟨hfits, Nat.mod_eq_of_lt hfits⟩
  refine .inr ?_
  have hmod := Nat.mod_eq_sub_mod honce
  rcases lt_or_ge (2 * n + k) (2 * 2 ^ w) with hlt | htwice
  · have hrest : (2 * n + k - 2 ^ w) % 2 ^ w = 2 * n + k - 2 ^ w := Nat.mod_eq_of_lt (by omega)
    exact .inl ⟨honce, hlt, by omega⟩
  · have hagain := Nat.mod_eq_sub_mod (show 2 ^ w ≤ 2 * n + k - 2 ^ w by omega)
    have hrest : (2 * n + k - 2 ^ w - 2 ^ w) % 2 ^ w = 2 * n + k - 2 ^ w - 2 ^ w := Nat.mod_eq_of_lt (by omega)
    exact .inr ⟨htwice, by omega⟩

/-- The test misses one size: the one that wraps around to less than the exact size and still to
more than the input. -/
lemma wrapped_le_iff (hw : 3 ≤ w) (hn : n < 2 ^ w) (hk : k = 3 ∨ k = 4) :
    ((n * 2 + k) % 2 ^ w ≤ n ↔ 2 ^ w ≤ 2 * n + k) ↔ n + k ≠ 2 ^ w + 1 := by
  have hsize : 2 ^ 3 ≤ 2 ^ w := Nat.pow_le_pow_right (by norm_num) hw
  obtain ⟨hfits, hmod⟩ | ⟨honce, hlt, hmod⟩ | ⟨htwice, hmod⟩ := wrapped_cases hw hn (show k ≤ 4 by omega)
  · rw [hmod]
    omega
  · omega
  · omega

end Wrapping

section Guards

variable {w n : ℕ} {input : List UInt8}

lemma sizeGuarded_of_rejects {k : ℕ} {tooLong : SqlError} {escaped : Option (Except SqlError (Buffer UInt8))}
    (hw : 3 ≤ w) (hn : n < 2 ^ w) (hk : k = 3 ∨ k = 4)
    (hrejects : escaped = some (.error tooLong) ↔ (n * 2 + k) % 2 ^ w ≤ n)
    (hfits : 2 * n + k < 2 ^ w → escaped ≠ none) :
    SizeGuarded w k n tooLong escaped ↔ n + k ≠ 2 ^ w + 1 := by
  rw [SizeGuarded, hrejects, wrapped_le_iff hw hn hk, and_iff_left_of_imp]
  intro hsize
  rcases lt_or_ge (2 * n + k) (2 ^ w) with hlt | hge
  · exact hfits hlt
  · rw [hrejects.mpr (((wrapped_le_iff hw hn hk).mpr hsize).mpr hge)]
    exact Option.some_ne_none _

lemma escapeBinary_rejects : escapeBinary w input n = some (.error (preludedbError .generic)) ↔
    (n * 2 + 4) % 2 ^ w ≤ n := by
  rw [escapeBinary]
  split_ifs with h
  · exact iff_of_true rfl h
  · refine iff_of_false (fun hrejected => ?_) h
    obtain ⟨first, -, hrejected⟩ := Option.bind_eq_some_iff.mp hrejected
    obtain ⟨second, -, hrejected⟩ := Option.bind_eq_some_iff.mp hrejected
    obtain ⟨digits, -, hrejected⟩ := Option.bind_eq_some_iff.mp hrejected
    obtain ⟨quote, -, hrejected⟩ := Option.bind_eq_some_iff.mp hrejected
    obtain ⟨cells, -, hrejected⟩ := Option.bind_eq_some_iff.mp hrejected
    cases Option.some.inj hrejected

section Into

variable {tooLong : SqlError} {escapeString : List UInt8 → List UInt8 × Option SqlError}
  (hlength : (escapeString (input.take n)).1.length ≤ 2 * n) (hread : n ≤ input.length)

lemma escapeInto_rejects (hother : ∀ e ∈ (escapeString (input.take n)).2, e ≠ tooLong) :
    escapeInto w tooLong escapeString input n = some (.error tooLong) ↔ (n * 2 + 3) % 2 ^ w ≤ n := by
  rw [escapeInto]
  split_ifs with h hinput
  · exact iff_of_true rfl h
  · exact iff_of_false (fun hrejected => by cases hrejected) h
  · refine iff_of_false (fun hrejected => ?_) h
    obtain ⟨first, -, hrejected⟩ := Option.bind_eq_some_iff.mp hrejected
    obtain ⟨second, -, hrejected⟩ := Option.bind_eq_some_iff.mp hrejected
    cases herror : (escapeString (input.take n)).2 with
    | some e =>
      rw [herror] at hrejected
      exact hother e herror (Except.error.inj (Option.some.inj hrejected))
    | none =>
      rw [herror] at hrejected
      obtain ⟨cells, -, hrejected⟩ := Option.map_eq_some_iff.mp hrejected
      cases hrejected

include hlength hread

/-- The text that the library writes fits, with its zero, whether it is then closed or not. -/
lemma escapeInto_defined (hfits : 2 * n + 3 < 2 ^ w) : escapeInto w tooLong escapeString input n ≠ none := by
  have hmod : (n * 2 + 3) % 2 ^ w = n * 2 + 3 := Nat.mod_eq_of_lt (by omega)
  cases herror : (escapeString (input.take n)).2 with
  | none =>
    rw [escapeInto_eq hread (by omega) (by omega) herror]
    exact Option.some_ne_none _
  | some e =>
    have hfirst : put (filled (n * 2 + 3) []) _ (39 : UInt8) = _ := put_filled [] 39 (by simp)
    have hputs : puts (filled (n * 2 + 3) [39]) _ ((escapeString (input.take n)).1 ++ [0]) = _ :=
      puts_filled [39] _ (by simp; omega)
    rw [List.nil_append, List.length_nil, filled_nil] at hfirst
    rw [List.length_singleton, List.singleton_append, ← List.cons_append] at hputs
    rw [escapeInto, hmod, if_neg (by omega), if_neg (by omega)]
    simp only [hfirst, hputs, herror, Option.bind_eq_bind, Option.bind_some, Option.elim_some]
    exact Option.some_ne_none _

end Into

end Guards

/-- The three functions and the one size that each of them lets through. -/
theorem escape_sizes_guarded_iff {F : EscapeFunctions} (hF : F.Documented) {w : ℕ} (hw : 3 ≤ w) (input : List UInt8)
    (n : ℕ) (hn : n < 2 ^ w) (hread : n ≤ input.length) :
    (SizeGuarded w 4 n (preludedbError .generic) (escapeBinary w input n) ↔ n ≠ 2 ^ w - 3) ∧
    (SizeGuarded w 3 n (preludedbError (.foreign (-1))) (mysqlSqlEscapeBinary F w input n) ↔ n ≠ 2 ^ w - 2) ∧
    (SizeGuarded w 3 n (preludedbError .generic) (pgsqlSqlEscape F w input n) ↔ n ≠ 2 ^ w - 2) := by
  have hsize : 2 ^ 3 ≤ 2 ^ w := Nat.pow_le_pow_right (by norm_num) hw
  have htake : (input.take n).length = n := by rw [List.length_take, Nat.min_eq_left hread]
  have hbefore : (beforeZero (input.take n)).length ≤ n :=
    (List.takeWhile_prefix _).length_le.trans_eq htake
  refine ⟨?_, ?_, ?_⟩
  · rw [sizeGuarded_of_rejects hw hn (.inr rfl) escapeBinary_rejects fun hfits => ?_]
    · omega
    · rw [escapeBinary_eq hread (by omega)]
      exact Option.some_ne_none _
  · have hbound := (mysql_bounds hF (input.take n)).2
    rw [htake] at hbound
    rw [mysqlSqlEscapeBinary, sizeGuarded_of_rejects hw hn (.inl rfl) (escapeInto_rejects fun e he => by cases he)
      (escapeInto_defined hbound hread)]
    omega
  · have hbound := (pgsql_bounds hF (input.take n)).2
    rw [pgsqlSqlEscape, sizeGuarded_of_rejects hw hn (.inl rfl) (escapeInto_rejects fun e he => ?_)
      (escapeInto_defined (by simp only; omega) hread)]
    · omega
    · simp only at he
      split_ifs at he
      · cases he
        simp [preludedbErrorVerbose, preludedbError]
      · cases he

theorem escape_sizes_guarded_abc :
    (SizeGuarded 64 4 3 (preludedbError .generic) (escapeBinary 64 [97, 98, 99] 3) ↔ 3 ≠ 2 ^ 64 - 3) ∧
    (SizeGuarded 64 3 3 (preludedbError (.foreign (-1))) (mysqlSqlEscapeBinary asciiFunctions 64 [97, 98, 99] 3) ↔
      3 ≠ 2 ^ 64 - 2) ∧
    (SizeGuarded 64 3 3 (preludedbError .generic) (pgsqlSqlEscape asciiFunctions 64 [97, 98, 99] 3) ↔ 3 ≠ 2 ^ 64 - 2) :=
  escape_sizes_guarded_iff asciiFunctions_documented (by decide) [97, 98, 99] 3 (by decide) (by decide)

/-- The size wraps around to 2^64 - 2, which is more than the input. -/
theorem escapeBinary_accepts_overflow : ¬ ∀ (w : ℕ), w = 32 ∨ w = 64 → ∀ (input : List UInt8) (n : ℕ), n < 2 ^ w →
    n ≤ input.length → SizeGuarded w 4 n (preludedbError .generic) (escapeBinary w input n) := by
  intro h
  have hguarded := h 64 (.inr rfl) (List.replicate (2 ^ 64 - 3) 0) (2 ^ 64 - 3) (by norm_num)
    (by rw [List.length_replicate])
  have hrejected := escapeBinary_rejects.mp (hguarded.1.mpr (by norm_num))
  norm_num at hrejected

end Preludedb.Sql
