import Preludedb.Sql.RowTables

/-! The number of rows of a result asked for between the calls for its rows. Where the plugin has no
function for it, the rows that are left are fetched, and the calls that follow find none of them. -/

namespace Preludedb.Sql

open Foundations Classic

namespace RowTable

variable {ρ : Type}

def withCount (c : ℕ) (t : RowTable ρ) : RowTable ρ := { t with rowCount := c }

section Frame

variable (b : Backend) (source : List ρ) (c : ℕ) (t : RowTable ρ)

lemma newRow_withCount (i : ℕ) (data : ρ) : (t.withCount c).newRow i data = (t.newRow i data).map (withCount c) := by
  simp only [newRow]
  split_ifs with h h' h' <;> first | rfl | contradiction

lemma fetchForward_withCount (n : ℕ) (reply : RowReply ρ) :
    fetchForward source n (t.withCount c) reply =
      (fetchForward source n t reply).map (Prod.map id (withCount c)) := by
  induction n generalizing t reply with
  | zero => rfl
  | succ n ih =>
    cases hdata : source[t.cursor]? with
    | none =>
      have hdata' : source[(t.withCount c).cursor]? = none := hdata
      rw [fetchForward, fetchForward, hdata, hdata']
      rfl
    | some data =>
      have hdata' : source[(t.withCount c).cursor]? = some data := hdata
      have hnew := newRow_withCount c { t with cursor := t.cursor + 1 } t.nrow data
      change ({ t.withCount c with cursor := (t.withCount c).cursor + 1 } : RowTable ρ).newRow (t.withCount c).nrow data
        = _ at hnew
      rw [fetchForward, fetchForward, hdata, hdata']
      simp only [hnew]
      cases ({ t with cursor := t.cursor + 1 } : RowTable ρ).newRow t.nrow data with
      | none => rfl
      | some u => exact ih u _

lemma pluginFetchRow_withCount (i : ℕ) : (t.withCount c).pluginFetchRow b source i =
    (t.pluginFetchRow b source i).map (Prod.map id (withCount c)) := by
  cases b with
  | pgsql =>
    simp only [pluginFetchRow]
    cases source[i]? with
    | none => rfl
    | some data =>
      simp only [newRow_withCount]
      cases t.newRow i data <;> rfl
  | mysql | sqlite3 => exact fetchForward_withCount source c t _ _

lemma getRow_withCount (i : UInt32) : (t.withCount c).getRow b source i =
    (t.getRow b source i).map (Prod.map id (withCount c)) := by
  obtain ⟨k, hk⟩ : ∃ k, k = if i = -1 then t.nrow else i.toNat := ⟨_, rfl⟩
  cases hc : t.cached k with
  | some row => rw [getRow_cached hk hc, getRow_cached (t := t.withCount c) hk hc, Option.map_some, Prod.map_apply, id]
  | none =>
    cases hd : t.done with
    | true =>
      have hnrow : (t.withCount c).nrow = t.nrow := rfl
      have hcached : (t.withCount c).cached k = none := hc
      have hdone : (t.withCount c).done = true := hd
      simp only [getRow]
      rw [hnrow, ← hk, hc, hcached, hd, hdone]
      rfl
    | false =>
      rw [getRow_fetched hk hc hd, getRow_fetched (t := t.withCount c) hk hc hd, pluginFetchRow_withCount]
      rcases t.pluginFetchRow b source k with _ | ⟨reply, u⟩
      · rfl
      · cases reply <;> rfl

lemma step_withCount (call : RowCall) : call.step b source (t.withCount c) =
    (call.step b source t).map (Prod.map id (withCount c)) := by
  cases call with
  | getRow i => exact getRow_withCount b source c t i
  | fetchRow => exact getRow_withCount b source c t (-1)

/-- The calls for rows leave the number of rows as it is. -/
lemma step_rowCount {call : RowCall} {reply : RowReply ρ} {t' : RowTable ρ}
    (h : call.step b source t = some (reply, t')) : t'.rowCount = t.rowCount := by
  have hframe := step_withCount b source t.rowCount t call
  have hsame : t.withCount t.rowCount = t := rfl
  rw [hsame, h] at hframe
  have ht' : t' = t'.withCount t.rowCount := congrArg Prod.snd (Option.some.inj hframe)
  rw [ht']
  rfl

lemma replies_withCount (calls : List RowCall) : Answers.replies (RowCall.step b source) (t.withCount c) calls =
    Answers.replies (RowCall.step b source) t calls :=
  Answers.replies_frame (fun t call => step_withCount b source c t call) calls

end Frame

/-- What the call for the number of rows should do: return the number and leave the calls after it
what they would have returned. -/
def CountedUnnoticed (unsupported : Int → Bool) (b : Backend) (source : List ρ) (t : RowTable ρ) : Prop :=
  ∃ t', t.getRowCount unsupported b source = some (source.length, t') ∧ ∀ calls,
    Answers.replies (RowCall.step b source) t' calls = Answers.replies (RowCall.step b source) t calls

/-- The plugin has a function that returns the number, and it is not taken for the lack of one. -/
def PluginCounts (unsupported : Int → Bool) (b : Backend) (n : ℕ) : Prop :=
  b ≠ .sqlite3 ∧ n < 2 ^ 32 ∧ (2 ^ 31 ≤ n → unsupported ((n : Int) - 2 ^ 32) = false)

section Counts

variable {unsupported : Int → Bool} {b : Backend} {source : List ρ} {t : RowTable ρ}

lemma toInt32_small {n : ℕ} (h : n < 2 ^ 31) : (UInt32.ofNat n).toInt32.toInt = n := by
  rw [UInt32.toInt32_ofNat', Int32.toInt_ofNat', Int.bmod_def]
  norm_num at h ⊢
  omega

lemma toInt32_large {n : ℕ} (h : 2 ^ 31 ≤ n) (h' : n < 2 ^ 32) :
    (UInt32.ofNat n).toInt32.toInt = (n : Int) - 2 ^ 32 := by
  rw [UInt32.toInt32_ofNat', Int32.toInt_ofNat', Int.bmod_def]
  norm_num
  omega

lemma ofInt_large {n : ℕ} (h' : n < 2 ^ 32) : (UInt32.ofInt ((n : Int) - 2 ^ 32)).toNat = n := by
  have hmod : ((n : Int) - 2 ^ 32) % 2 ^ 32 = n := by
    norm_num at h' ⊢
    omega
  rw [UInt32.ofInt, hmod, Int.toNat_natCast, UInt32.toNat_ofNat_of_lt' h']

lemma toNat_lt_top {i : UInt32} (hi : i ≠ -1) : i.toNat + 1 < 2 ^ 32 := by
  have hlt := i.toNat_lt
  have hne : i.toNat ≠ (-1 : UInt32).toNat := fun h => hi (UInt32.toNat_inj.mp h)
  have htop : (-1 : UInt32).toNat = 2 ^ 32 - 1 := rfl
  omega

/-- Another number in the table goes unnoticed. -/
lemma getRowCount_counts (h : PluginCounts unsupported b source.length) (ht : t.rowCount = 0) :
    CountedUnnoticed unsupported b source t := by
  obtain ⟨hb, hN, hlarge⟩ := h
  have hplugin : pluginRowCount b source = some (UInt32.ofNat source.length).toInt32.toInt := by
    cases b with
    | sqlite3 => exact absurd rfl hb
    | mysql | pgsql => rfl
  by_cases hsmall : source.length < 2 ^ 31
  · refine ⟨t.withCount source.length, ?_, replies_withCount b source _ t⟩
    simp only [getRowCount]
    rw [if_neg (not_not.mpr ht), hplugin, toInt32_small hsmall]
    rfl
  · have hcount := hlarge (Nat.le_of_not_lt hsmall)
    refine ⟨t, ?_, fun _ => rfl⟩
    simp only [getRowCount]
    rw [if_neg (not_not.mpr ht), hplugin, toInt32_large (Nat.le_of_not_lt hsmall) hN]
    have hnegative : ¬ (0 : Int) ≤ (source.length : Int) - 2 ^ 32 := by
      norm_num
      omega
    simp only [hnegative, if_false, hcount, Bool.false_eq_true, not_false_eq_true, if_true, ofInt_large hN]

/-- The rows that are left are fetched. -/
lemma getRowCount_emulated (h : ¬ PluginCounts unsupported b source.length) (hN : source.length < 2 ^ 32)
    (ht : t.rowCount = 0) : t.getRowCount unsupported b source =
      (t.fetchAll b source (source.length + 1)).map fun t' => (t'.nrow, t'.withCount t'.nrow) := by
  simp only [getRowCount]
  rw [if_neg (not_not.mpr ht)]
  cases hb : decide (b = .sqlite3) with
  | true =>
    rw [of_decide_eq_true hb]
    rfl
  | false =>
    have hne := of_decide_eq_false hb
    have hplugin : pluginRowCount b source = some (UInt32.ofNat source.length).toInt32.toInt := by
      cases b with
      | sqlite3 => exact absurd rfl hne
      | mysql | pgsql => rfl
    have hlarge : 2 ^ 31 ≤ source.length ∧ unsupported ((source.length : Int) - 2 ^ 32) = true := by
      by_contra hsupported
      refine h ⟨hne, hN, fun hl => ?_⟩
      cases hu : unsupported ((source.length : Int) - 2 ^ 32) with
      | false => rfl
      | true => exact absurd ⟨hl, hu⟩ hsupported
    rw [hplugin, toInt32_large hlarge.1 hN]
    have hnegative : ¬ (0 : Int) ≤ (source.length : Int) - 2 ^ 32 := by
      norm_num
      omega
    simp only [hnegative, if_false, hlarge.2, not_true_eq_false]
    rfl

/-- A number of 32 bits is that of no longer result. -/
lemma getRowCount_lt {count : ℕ} {t' : RowTable ρ} (hb : b ≠ .pgsql) (h : t.Forward source) (ht : t.rowCount = 0)
    (hcount : t.getRowCount unsupported b source = some (count, t')) : count < 2 ^ 32 := by
  have hemulated : ((t.fetchAll b source (source.length + 1)).map fun u =>
      (u.nrow, { u with rowCount := u.nrow })) = some (count, t') → count < 2 ^ 32 := by
    intro hall
    obtain ⟨u, hu, hut⟩ := Option.map_eq_some_iff.mp hall
    cases hut
    exact (h.fetchAll hb (by omega) hu).1.nrow_lt
  simp only [RowTable.getRowCount] at hcount
  rw [if_neg (not_not.mpr ht)] at hcount
  cases hplugin : pluginRowCount b source with
  | none =>
    rw [hplugin] at hcount
    exact hemulated hcount
  | some c =>
    rw [hplugin] at hcount
    simp only at hcount
    split_ifs at hcount with hc
    · cases hcount
      have hle : c < 2 ^ 31 := by
        have hc' : c = (UInt32.ofNat source.length).toInt32.toInt := by
          cases b <;> cases hplugin <;> rfl
        rw [hc']
        exact Int32.toInt_lt _
      norm_num at hle ⊢
      omega
    · exact hemulated hcount
    · cases hcount
      exact UInt32.toNat_lt _

end Counts

section Ends

variable {unsupported : Int → Bool} {b : Backend} {source : List ρ} {t : RowTable ρ}

/-- A call for a row of a table that has them all. -/
lemma Forward.getRow_complete (hb : b ≠ .pgsql) (h : t.Forward source) (hn : t.nrow = source.length) {i : UInt32}
    {k : ℕ} (hk : k = if i = -1 then t.nrow else i.toNat) (hle : k ≤ source.length) :
    t.getRow b source i = some (served source k, if k = source.length then { t with done := true } else t) := by
  by_cases hlt : k = source.length
  · have hc : t.cached k = none := cached_eq_none (by omega)
    rw [if_pos hlt, served_none hlt.ge]
    cases hd : t.done with
    | true =>
      obtain ⟨reply, hget, hreply⟩ : ∃ reply, t.getRow b source i = some (reply, t) ∧ _ := getRow_done hk hc hd
      have hnone : reply = .none := (hreply.resolve_right fun hr => hr.1 (hlt.trans hn.symm)).2
      have hsame : ({ t with done := true } : RowTable ρ) = t := by rw [← hd]
      rw [hget, hnone, hsame]
    | false =>
      have hpass : k + 1 - t.nrow = 1 := by omega
      have hend : source[t.cursor]? = none := List.getElem?_eq_none (by rw [h.cursor_eq]; omega)
      rw [getRow_fetched hk hc hd, pluginFetchRow_forward hb, hpass, RowTable.fetchForward, hend]
  · rw [if_neg hlt]
    obtain ⟨row, hc, hrow⟩ := h.cached_row (i := k) (by omega)
    rw [getRow_cached hk hc, hrow]

lemma Forward.fetchRow_complete (hb : b ≠ .pgsql) (h : t.Forward source) (hn : t.nrow = source.length) :
    t.fetchRow b source = some (.none, { t with done := true }) := by
  have hget := h.getRow_complete hb hn (i := -1) (k := t.nrow) (if_pos rfl).symm hn.le
  rw [if_pos hn, served_none hn.ge] at hget
  exact hget

/-- With 2^32 - 2 rows no call has an index behind the last row but one. -/
lemma Forward.replies_done (hb : b ≠ .pgsql) (h : t.Forward source) (hn : t.nrow = source.length)
    (hN : 2 ^ 32 ≤ source.length + 2) (calls : List RowCall) :
    Answers.replies (RowCall.step b source) { t with done := true } calls =
      Answers.replies (RowCall.step b source) t calls := by
  induction calls with
  | nil => rfl
  | cons call calls ih =>
    have hdone := h.mark_done hn
    obtain ⟨i, hi⟩ : ∃ i, ∀ u : RowTable ρ, call.step b source u = u.getRow b source i := by
      cases call with
      | getRow i => exact ⟨i, fun _ => rfl⟩
      | fetchRow => exact ⟨-1, fun _ => rfl⟩
    obtain ⟨k, hk⟩ : ∃ k, k = if i = -1 then t.nrow else i.toNat := ⟨_, rfl⟩
    have hle : k ≤ source.length := by
      rw [hk]
      split_ifs with htop
      · exact hn.le
      · have hlt := toNat_lt_top htop
        omega
    have hget := (hi t).trans (h.getRow_complete hb hn hk hle)
    have hget' := (hi _).trans (hdone.getRow_complete hb hn hk hle)
    rw [Answers.replies_cons hget, Answers.replies_cons hget']
    by_cases hlt : k = source.length
    · rw [if_pos hlt, if_pos hlt]
    · rw [if_neg hlt, if_neg hlt, ih]

/-- The emulation goes unnoticed at the end alone. -/
lemma emulated_unnoticed_iff (h : ¬ PluginCounts unsupported b source.length) (hb : b ≠ .pgsql)
    (hN : source.length < 2 ^ 32) (ht : t.rowCount = 0) (hf : t.Forward source) :
    CountedUnnoticed unsupported b source t ↔
      t.done = true ∨ t.nrow = source.length ∧ 2 ^ 32 ≤ source.length + 2 := by
  obtain ⟨u, hu⟩ := hf.fetchAll_replied hN hb (source.length + 1)
  obtain ⟨huf, hud⟩ := hf.fetchAll hb (by omega) hu
  have hun := huf.done_all hud
  have hcount : t.getRowCount unsupported b source = some (source.length, u.withCount source.length) := by
    rw [getRowCount_emulated h hN ht, hu, Option.map_some, hun]
  have hiff : CountedUnnoticed unsupported b source t ↔ ∀ calls,
      Answers.replies (RowCall.step b source) u calls = Answers.replies (RowCall.step b source) t calls := by
    rw [CountedUnnoticed, hcount]
    constructor
    · rintro ⟨t', ht', hsame⟩ calls
      cases ht'
      rw [← hsame, replies_withCount]
    · exact fun hsame => ⟨_, rfl, fun calls => by rw [replies_withCount, hsame]⟩
  rw [hiff]
  constructor
  · intro hsame
    cases hd : t.done with
    | true => exact .inl rfl
    | false =>
      refine .inr ?_
      have hn : t.nrow = source.length := by
        by_contra hn
        have hlt : t.nrow < source.length := lt_of_le_of_ne hf.nrow_le hn
        obtain ⟨reply, t', hfetch⟩ := hf.getRow_replied hN hb (-1)
        have hreply := (hf.fetchRow hb hfetch).2.1
        have hend := huf.fetchRow_complete hb hun
        have hcalls := hsame [.fetchRow]
        rw [Answers.replies_cons (l := RowCall.fetchRow) hend, Answers.replies_cons (l := RowCall.fetchRow) hfetch,
          hreply, served_row (List.getElem?_eq_getElem hlt)] at hcalls
        cases hcalls
      refine ⟨hn, ?_⟩
      by_contra hsmall
      have hindex : (UInt32.ofNat (source.length + 1)).toNat = source.length + 1 :=
        UInt32.toNat_ofNat_of_lt' (show source.length + 1 < 2 ^ 32 by omega)
      have htop : UInt32.ofNat (source.length + 1) ≠ -1 := by
        intro htop
        rw [htop] at hindex
        have hmax : (-1 : UInt32).toNat = 2 ^ 32 - 1 := rfl
        omega
      have hk : source.length + 1 = if UInt32.ofNat (source.length + 1) = -1 then t.nrow
          else (UInt32.ofNat (source.length + 1)).toNat := by rw [if_neg htop, hindex]
      have hk' : source.length + 1 = if UInt32.ofNat (source.length + 1) = -1 then u.nrow
          else (UInt32.ofNat (source.length + 1)).toNat := by rw [if_neg htop, hindex]
      obtain ⟨reply, t', hget⟩ := hf.getRow_replied hN hb (UInt32.ofNat (source.length + 1))
      have hnone : reply = .none := by
        have hc : t.cached (source.length + 1) = none := cached_eq_none (by omega)
        have hend : source[t.cursor]? = none := List.getElem?_eq_none (by rw [hf.cursor_eq]; omega)
        rw [getRow_fetched hk hc hd, pluginFetchRow_forward hb, hn] at hget
        have hpass : source.length + 1 + 1 - source.length = 2 := by omega
        rw [hpass, RowTable.fetchForward, hend] at hget
        cases hget
        rfl
      obtain ⟨reply', hget', hreply'⟩ : ∃ reply', u.getRow b source (UInt32.ofNat (source.length + 1)) = some (reply', u)
          ∧ _ := getRow_done hk' (cached_eq_none (by omega)) hud
      have herror := hreply'.resolve_left fun hr => absurd (hr.1.trans hun) (by omega)
      obtain ⟨e, he⟩ := herror.2
      have hcalls := hsame [.getRow (UInt32.ofNat (source.length + 1))]
      rw [Answers.replies_cons (l := RowCall.getRow _) hget', Answers.replies_cons (l := RowCall.getRow _) hget,
        hnone, he] at hcalls
      cases hcalls
  · have hend : ∀ n, t.nrow = source.length → t.fetchAll b source (n + 1) = some { t with done := true } := by
      intro n hn
      rw [fetchAll, hf.fetchRow_complete hb hn]
      rfl
    rintro (hd | ⟨hn, htop⟩) calls
    · have hsame : ({ t with done := true } : RowTable ρ) = t := by rw [← hd]
      rw [hend _ (hf.done_all hd), hsame] at hu
      cases hu
      rfl
    · rw [hend _ hn] at hu
      cases hu
      exact hf.replies_done hb hn htop calls

end Ends

end RowTable

/-- At every point of a sequence of calls for rows. -/
theorem getRowCount_unnoticed_iff {ρ : Type} (unsupported : Int → Bool) (b : Backend) (source : List ρ)
    (hp : b = .pgsql → source.length < 2 ^ 31) (calls : List RowCall) {t : RowTable ρ}
    (ht : Answers.after (RowCall.step b source) RowTable.new calls = some t) :
    t.CountedUnnoticed unsupported b source ↔
      RowTable.PluginCounts unsupported b source.length ∨ t.done = true ∨
        t.nrow = source.length ∧ 2 ^ 32 ≤ source.length + 2 := by
  have hcount : t.rowCount = 0 := Answers.after_of_invariant (J := fun t => t.rowCount = 0)
    (fun t call _ _ h hstep => (RowTable.step_rowCount b source t hstep).trans h) rfl ht
  by_cases h : RowTable.PluginCounts unsupported b source.length
  · exact iff_of_true (RowTable.getRowCount_counts h hcount) (.inl h)
  have hb : b ≠ .pgsql := by
    intro hb
    have hsmall := hp hb
    exact h ⟨by rw [hb]; decide, by omega, fun hlarge => by omega⟩
  have hf : t.Forward source := Answers.after_of_invariant (J := fun t => t.Forward source)
    (fun t call answer t' h hstep => (RowTable.step_forward unsupported hb h
      (show (TableCall.row call).step unsupported b source t = some (.inl answer, t') from
        Option.map_eq_some_iff.mpr ⟨_, hstep, rfl⟩)).1)
    (RowTable.new_forward source) ht
  rw [or_iff_right h]
  by_cases hN : source.length < 2 ^ 32
  · exact RowTable.emulated_unnoticed_iff h hb hN hcount hf
  · refine iff_of_false ?_ ?_
    · rintro ⟨t', ht', -⟩
      exact hN (RowTable.getRowCount_lt hb hf hcount ht')
    · have hlt := hf.nrow_lt
      rintro (hd | ⟨hn, -⟩)
      · rw [hf.done_all hd] at hlt
        exact hN hlt
      · rw [hn] at hlt
        exact hN hlt

theorem getRowCount_unnoticed_mysql :
    (⟨[some ⟨0, "a"⟩], 0, false, 1⟩ : RowTable String).CountedUnnoticed (fun _ => true) .mysql ["a", "b"] ↔
      RowTable.PluginCounts (fun _ => true) .mysql 2 ∨ false = true ∨ 1 = 2 ∧ 2 ^ 32 ≤ 2 + 2 :=
  getRowCount_unnoticed_iff (fun _ => true) .mysql ["a", "b"] (fun h => by cases h) [.fetchRow] rfl

/-- The row of a result of SQLite is gone once it has been counted. -/
theorem getRowCount_takes_row : ¬ ∀ (b : Backend) (source : List String) (calls : List RowCall) (t : RowTable String),
    Answers.after (RowCall.step b source) RowTable.new calls = some t →
      t.CountedUnnoticed (fun _ => true) b source := by
  intro h
  obtain ⟨t', ht', hsame⟩ := h .sqlite3 ["a"] [] RowTable.new rfl
  have hcount : (RowTable.new : RowTable String).getRowCount (fun _ => true) .sqlite3 ["a"] =
      some (1, ⟨[some ⟨0, "a"⟩], 1, true, 1⟩) := by decide
  rw [hcount] at ht'
  cases ht'
  exact absurd (hsame [.fetchRow]) (by decide)

end Preludedb.Sql
