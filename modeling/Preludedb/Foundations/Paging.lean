import Mathlib.Tactic

/-! Pages of a list of items, some of which cannot be processed: each page begins behind as many items
as have been processed, and every item that is fetched is taken from a limit. -/

namespace Foundations.Paging

variable {ok : ℕ → Bool} {n size : ℕ} {limit : Option ℕ}

/-- The items from `a` to `b` that can be processed. -/
def hits (ok : ℕ → Bool) (a b : ℕ) : List ℕ := (List.range' a (b - a)).filter ok

/-- The end of the page that begins at `c`; there are `n` items. -/
def pageEnd (n size : ℕ) (limit : Option ℕ) (c : ℕ) : ℕ := min (c + limit.elim size (min size)) n

/-- What the turns process, behind `c` items that have been; `none` when `fuel` turns do not suffice. -/
@[simp] def turns (ok : ℕ → Bool) (n size : ℕ) : ℕ → Option ℕ → ℕ → Option (List ℕ)
  | 0, _, _ => none
  | fuel + 1, limit, c =>
    if pageEnd n size limit c ≤ c then some []
    else (turns ok n size fuel (limit.map fun l => l - (pageEnd n size limit c - c))
      (c + (hits ok c (pageEnd n size limit c)).length)).map (hits ok c (pageEnd n size limit c) ++ ·)

def Ends (ok : ℕ → Bool) (n size : ℕ) (limit : Option ℕ) (c : ℕ) (done : List ℕ) : Prop :=
  ∃ fuel, turns ok n size fuel limit c = some done

/-- The page behind the first `c` items, which have been taken from the limit. -/
lemma pageEnd_left {m c : ℕ} (hm : m = limit.elim n fun l => min l n) (hc : c ≤ m) :
    pageEnd n size (limit.map fun l => l - c) c = min (c + size) m := by
  rw [pageEnd, hm]
  cases limit with
  | none => rfl
  | some l =>
    rw [Option.elim_some] at hm
    have hcl : c ≤ l := hc.trans (hm ▸ Nat.min_le_left l n)
    rw [Option.map_some, Option.elim_some, Option.elim_some, ← Nat.add_min_add_left, Nat.add_sub_cancel' hcl,
      Nat.min_assoc]

section Hits

variable {a b c i : ℕ}

lemma mem_hits : i ∈ hits ok a b ↔ a ≤ i ∧ i < b ∧ ok i = true := by
  rw [hits, List.mem_filter, List.mem_range'_1, ← and_assoc]
  refine and_congr_left fun _ => ?_
  omega

lemma hits_append (hab : a ≤ b) (hbc : b ≤ c) : hits ok a b ++ hits ok b c = hits ok a c := by
  have hsplit : List.range' a (c - a) = List.range' a (b - a) ++ List.range' b (c - b) := by
    have hb : b = a + (b - a) := by omega
    have hlen : c - a = (b - a) + (c - b) := by omega
    rw [hlen, ← List.range'_append_1, ← hb]
  rw [hits, hits, hits, hsplit, List.filter_append]

lemma hits_nodup : (hits ok a b).Nodup := List.Nodup.filter _ List.nodup_range'

lemma hits_length_le : (hits ok a b).length ≤ b - a := by
  have hle := List.length_filter_le ok (List.range' a (b - a))
  rwa [List.length_range'] at hle

lemma hits_eq_nil : hits ok a b = [] ↔ ∀ i, a ≤ i → i < b → ok i = false := by
  rw [List.eq_nil_iff_forall_not_mem]
  refine forall_congr' fun i => ?_
  rw [mem_hits]
  cases ok i <;> simp

lemma hits_of_le (h : b ≤ a) : hits ok a b = [] := hits_eq_nil.mpr fun i hai hib => by omega

lemma hits_full : (hits ok a b).length = b - a ↔ ∀ i, a ≤ i → i < b → ok i = true := by
  have hlength := List.length_filter_eq_length_iff (p := ok) (l := List.range' a (b - a))
  rw [List.length_range'] at hlength
  rw [hits, hlength]
  refine forall_congr' fun i => ?_
  rw [List.mem_range'_1]
  constructor
  · exact fun h hai hib => h (by omega)
  · exact fun h hi => h hi.1 (by omega)

end Hits

section Turns

variable {c : ℕ} {done done' : List ℕ}

lemma turns_mono {fuel fuel' : ℕ} (h : turns ok n size fuel limit c = some done) (hle : fuel ≤ fuel') :
    turns ok n size fuel' limit c = some done := by
  induction fuel generalizing fuel' limit c done with
  | zero => cases h
  | succ fuel ih =>
    obtain ⟨fuel', rfl⟩ := Nat.exists_eq_add_of_le' hle
    rw [turns] at h
    rw [← Nat.add_assoc, turns]
    split at h
    · rw [if_pos (by assumption)]
      exact h
    · rw [if_neg (by assumption)]
      obtain ⟨rest, hrest, rfl⟩ := Option.map_eq_some_iff.mp h
      rw [ih hrest (by omega)]
      rfl

lemma Ends.unique (h : Ends ok n size limit c done) (h' : Ends ok n size limit c done') : done = done' := by
  obtain ⟨fuel, h⟩ := h
  obtain ⟨fuel', h'⟩ := h'
  have hmax := turns_mono h (Nat.le_max_left fuel fuel')
  rw [turns_mono h' (Nat.le_max_right fuel fuel')] at hmax
  exact (Option.some.inj hmax).symm

lemma ends_done (h : pageEnd n size limit c ≤ c) : Ends ok n size limit c [] := by
  refine ⟨1, ?_⟩
  rw [turns, if_pos h]

lemma ends_page (h : c < pageEnd n size limit c) : Ends ok n size limit c done ↔
    ∃ rest, done = hits ok c (pageEnd n size limit c) ++ rest ∧
      Ends ok n size (limit.map fun l => l - (pageEnd n size limit c - c))
        (c + (hits ok c (pageEnd n size limit c)).length) rest := by
  constructor
  · rintro ⟨fuel, hfuel⟩
    cases fuel with
    | zero => cases hfuel
    | succ fuel =>
      rw [turns, if_neg (by omega)] at hfuel
      obtain ⟨rest, hrest, rfl⟩ := Option.map_eq_some_iff.mp hfuel
      exact ⟨rest, rfl, fuel, hrest⟩
  · rintro ⟨rest, rfl, fuel, hrest⟩
    refine ⟨fuel + 1, ?_⟩
    rw [turns, if_neg (by omega), hrest]
    rfl

lemma ends_lt (h : Ends ok n size limit c done) : ∀ i ∈ done, i < n := by
  obtain ⟨fuel, h⟩ := h
  induction fuel generalizing limit c done with
  | zero => cases h
  | succ fuel ih =>
    rw [turns] at h
    split at h
    · cases h
      exact List.forall_mem_nil _
    · obtain ⟨rest, hrest, rfl⟩ := Option.map_eq_some_iff.mp h
      intro i hi
      rcases List.mem_append.mp hi with hi | hi
      · exact (mem_hits.mp hi).2.1.trans_le (Nat.min_le_right _ _)
      · exact ih hrest i hi

/-- A page of which nothing can be processed is fetched until nothing is left of the limit. -/
lemma ends_of_no_hit {l : ℕ} (h : hits ok c (pageEnd n size (some l) c) = []) :
    Ends ok n size (some l) c [] := by
  induction l using Nat.strong_induction_on with
  | _ l ih =>
    by_cases hend : pageEnd n size (some l) c ≤ c
    · exact ends_done hend
    · refine (ends_page (by omega)).mpr ⟨[], by rw [h]; rfl, ?_⟩
      rw [h]
      have hless : l - (pageEnd n size (some l) c - c) < l := by
        rw [pageEnd, Option.elim_some] at hend ⊢
        omega
      refine ih _ hless (hits_eq_nil.mpr fun i hi hic => hits_eq_nil.mp h i hi ?_)
      simp only [pageEnd, Option.elim_some] at hic ⊢
      omega

end Turns

section Skipping

/-- Behind the first `e` items, each of the first `m` that can be processed is processed once. -/
def Skips (ok : ℕ → Bool) (n size : ℕ) (limit : Option ℕ) (m e : ℕ) : Prop :=
  ∃ done, Ends ok n size limit (hits ok 0 e).length done ∧ (hits ok 0 e ++ done).Perm (hits ok 0 m)

/-- Behind the first `e` items nothing is left to be processed, and the next page has nothing that can
be. -/
def Settled (ok : ℕ → Bool) (n size m e l : ℕ) : Prop :=
  hits ok e m = [] ∧
    hits ok (hits ok 0 e).length (pageEnd n size (some l) (hits ok 0 e).length) = []

variable {m e e' r l : ℕ}

lemma hits_length_self : (hits ok 0 e).length ≤ e := hits_length_le

lemma hits_before (h : ∀ i < r, ok i = true) : (hits ok 0 r).length = r :=
  hits_full.mpr fun i _ hi => h i hi

/-- The next page, when nothing of it has been processed before. -/
lemma skips_page (hnone : hits ok (hits ok 0 e).length e = [])
    (hpage : pageEnd n size limit (hits ok 0 e).length = e') (hle : e ≤ e')
    (hlt : (hits ok 0 e).length < e') : Skips ok n size limit m e ↔
      Skips ok n size (limit.map fun l => l - (e' - (hits ok 0 e).length)) m e' := by
  have hhits : hits ok (hits ok 0 e).length e' = hits ok e e' := by
    rw [← hits_append hits_length_self hle, hnone, List.nil_append]
  have hall : hits ok 0 e ++ hits ok e e' = hits ok 0 e' := hits_append (Nat.zero_le e) hle
  have hcount : (hits ok 0 e).length + (hits ok e e').length = (hits ok 0 e').length := by
    rw [← List.length_append, hall]
  have hends := fun done => @ends_page ok n size limit _ done (hpage.symm ▸ hlt)
  rw [hpage, hhits, hcount] at hends
  constructor
  · rintro ⟨done, hdone, hperm⟩
    obtain ⟨rest, rfl, hrest⟩ := (hends done).mp hdone
    rw [← List.append_assoc, hall] at hperm
    exact ⟨rest, hrest, hperm⟩
  · rintro ⟨rest, hrest, hperm⟩
    refine ⟨hits ok e e' ++ rest, (hends _).mpr ⟨rest, rfl, hrest⟩, ?_⟩
    rwa [← List.append_assoc, hall]

lemma skips_stuck (hem : e ≤ m)
    (h : hits ok (hits ok 0 e).length (pageEnd n size (some l) (hits ok 0 e).length) = []) :
    Skips ok n size (some l) m e ↔ hits ok e m = [] := by
  have hall : hits ok 0 e ++ hits ok e m = hits ok 0 m := hits_append (Nat.zero_le e) hem
  constructor
  · rintro ⟨done, hdone, hperm⟩
    rw [hdone.unique (ends_of_no_hit h), List.append_nil, ← hall] at hperm
    have hlength := hperm.length_eq
    rw [List.length_append] at hlength
    exact List.length_eq_zero_iff.mp (by omega)
  · intro hrest
    refine ⟨[], ends_of_no_hit h, ?_⟩
    rw [List.append_nil, ← hall, hrest, List.append_nil]

/-- When an item has been processed behind one that could not be, the next page has nothing that can
be: it begins among the items that have been fetched. -/
lemma no_hit_of_skips {p : ℕ} (hrp : r < p) (hpe : p < e) (hr : ok r = false) (hp : ok p = true)
    (h : Skips ok n size limit m e) :
    hits ok (hits ok 0 e).length (pageEnd n size limit (hits ok 0 e).length) = [] := by
  by_contra hne
  obtain ⟨i, hi⟩ := List.exists_mem_of_ne_nil _ hne
  obtain ⟨hci, hie, hok⟩ := mem_hits.mp hi
  obtain ⟨done, hdone, hperm⟩ := h
  obtain ⟨rest, rfl, -⟩ := (ends_page (by omega)).mp hdone
  have hnodup : (hits ok 0 e ++ (hits ok (hits ok 0 e).length
      (pageEnd n size limit (hits ok 0 e).length) ++ rest)).Nodup := hperm.nodup_iff.mpr hits_nodup
  have hapart : ∀ j, j ∈ hits ok 0 e → j ∉ hits ok (hits ok 0 e).length
      (pageEnd n size limit (hits ok 0 e).length) := fun j hj hj' =>
    (List.nodup_append.mp hnodup).2.2 j hj j (List.mem_append_left _ hj') rfl
  have hei : e ≤ i := by
    by_contra hlt
    exact hapart i (mem_hits.mpr ⟨Nat.zero_le i, by omega, hok⟩) hi
  -- the page goes beyond what has been fetched, and what it fetches again could not be processed
  have hnone : hits ok (hits ok 0 e).length e = [] := hits_eq_nil.mpr fun j hcj hje => by
    by_contra hj
    have hok' : ok j = true := Bool.not_eq_false _ ▸ hj
    exact hapart j (mem_hits.mpr ⟨Nat.zero_le j, hje, hok'⟩) (mem_hits.mpr ⟨hcj, by omega, hok'⟩)
  have hfull : (hits ok 0 (hits ok 0 e).length).length = (hits ok 0 e).length := by
    have hall := @hits_append ok 0 (hits ok 0 e).length e (Nat.zero_le _) hits_length_self
    rw [hnone, List.append_nil] at hall
    rw [hall]
  have hcr : (hits ok 0 e).length ≤ r := by
    by_contra hlt
    have hok' := hits_full.mp hfull r (Nat.zero_le r) (by omega)
    rw [hr] at hok'
    cases hok'
  have hp' := hits_eq_nil.mp hnone p (by omega) hpe
  rw [hp] at hp'
  cases hp'

lemma skips_settled {p : ℕ} (hrp : r < p) (hpe : p < e) (hr : ok r = false) (hp : ok p = true)
    (hem : e ≤ m) : Skips ok n size (some l) m e ↔ Settled ok n size m e l := by
  constructor
  · intro h
    have hnone := no_hit_of_skips hrp hpe hr hp h
    exact ⟨(skips_stuck hem hnone).mp h, hnone⟩
  · rintro ⟨hrest, hnone⟩
    exact (skips_stuck hem hnone).mpr hrest

/-- The items behind the first that cannot be processed: none of them can be, or they are settled
behind its page, or behind the page that begins with it. -/
def Recovers (ok : ℕ → Bool) (n size limit r : ℕ) : Prop :=
  let m := min limit n
  let e := min ((r / size + 1) * size) m
  let e' := min (r + min size (limit - e)) n
  hits ok r m = [] ∨ Settled ok n size m e (limit - e) ∨
    hits ok r e = [] ∧ Settled ok n size m e' (limit - e - (e' - r))

lemma hits_nil_mono {a b c d : ℕ} (h : hits ok a b = []) (hac : a ≤ c) (hdb : d ≤ b) : hits ok c d = [] :=
  hits_eq_nil.mpr fun i hci hid => hits_eq_nil.mp h i (by omega) (by omega)

lemma hits_nil_join {a b c d : ℕ} (h : hits ok a b = []) (h' : hits ok c d = []) (hcb : c ≤ b) :
    hits ok a d = [] :=
  hits_eq_nil.mpr fun i hai hid => by
    by_cases hib : i < b
    · exact hits_eq_nil.mp h i hai hib
    · exact hits_eq_nil.mp h' i (by omega) hid

/-- An item behind the first that cannot be processed. -/
lemma exists_mixed {b : ℕ} (hfail : ok r = false) (h : hits ok r b ≠ []) :
    ∃ p, r < p ∧ p < b ∧ ok p = true := by
  obtain ⟨p, hp⟩ := List.exists_mem_of_ne_nil _ h
  obtain ⟨hrp, hpb, hok⟩ := mem_hits.mp hp
  refine ⟨p, lt_of_le_of_ne hrp ?_, hpb, hok⟩
  rintro rfl
  rw [hfail] at hok
  cases hok

section Limited

variable {C : ℕ} (hbefore : ∀ i < r, ok i = true)

include hbefore in
lemma hits_length_first {b : ℕ} (hrb : r ≤ b) (hnone : hits ok r b = []) : (hits ok 0 b).length = r := by
  rw [← hits_append (Nat.zero_le r) hrb, hnone, List.append_nil]
  exact hits_before hbefore

include hbefore in
/-- The page that begins with the first item that cannot be processed. -/
lemma skips_again (hfail : ok r = false) (hre : r ≤ e) (hem : e ≤ m) (hnone : hits ok r e = [])
    (hpage : min (r + min size l) n = e') (hr : r < n) (hem' : e' ≤ m) :
    Skips ok n size (some l) m e ↔ hits ok r m = [] ∨ Settled ok n size m e' (l - (e' - r)) := by
  have hlength := hits_length_first hbefore hre hnone
  have hre' : r ≤ e' := hpage ▸ le_min (Nat.le_add_right _ _) hr.le
  have hend : pageEnd n size (some l) (hits ok 0 e).length = e' := by
    rw [hlength, ← hpage]
    rfl
  by_cases hle : e' ≤ e
  · have hstuck : hits ok (hits ok 0 e).length (pageEnd n size (some l) (hits ok 0 e).length) = [] := by
      rw [hend, hlength]
      exact hits_nil_mono hnone le_rfl hle
    rw [skips_stuck hem hstuck]
    constructor
    · exact fun h => .inl (hits_nil_join hnone h le_rfl)
    · rintro (h | ⟨h, -⟩)
      · exact hits_nil_mono h hre le_rfl
      · exact hits_nil_mono h hle le_rfl
  · rw [skips_page (by rwa [hlength]) hend (by omega) (by omega), hlength, Option.map_some]
    by_cases hmixed : hits ok r e' = []
    · have hlength' := hits_length_first hbefore (by omega) hmixed
      have hless : min (r + min size (l - (e' - r))) n ≤ e' := by
        rw [← hpage]
        exact min_le_min_right n (Nat.add_le_add_left (min_le_min_left size (Nat.sub_le _ _)) r)
      have hstuck : hits ok (hits ok 0 e').length
          (pageEnd n size (some (l - (e' - r))) (hits ok 0 e').length) = [] := by
        rw [hlength', pageEnd, Option.elim_some]
        exact hits_nil_mono hmixed le_rfl hless
      rw [skips_stuck hem' hstuck]
      constructor
      · exact fun h => .inl (hits_nil_join hmixed h le_rfl)
      · rintro (h | ⟨h, -⟩)
        · exact hits_nil_mono h (by omega) le_rfl
        · exact h
    · obtain ⟨p, hrp, hpe, hp⟩ := exists_mixed hfail hmixed
      rw [skips_settled hrp hpe hfail hp hem']
      exact (or_iff_right fun h => hmixed (hits_nil_mono h le_rfl hem')).symm

variable (hr : r < min C n)

include hr hbefore in
/-- The pages before the first item that cannot be processed. -/
lemma skips_before (k : ℕ) (hk : k * size ≤ r) :
    Skips ok n size (some C) m 0 ↔ Skips ok n size (some (C - k * size)) m (k * size) := by
  induction k with
  | zero => rw [Nat.zero_mul, Nat.sub_zero]
  | succ k ih =>
    have hsucc : (k + 1) * size = k * size + size := Nat.succ_mul k size
    rw [ih (by omega)]
    have hlength : (hits ok 0 (k * size)).length = k * size :=
      hits_before fun i hi => hbefore i (by omega)
    by_cases hzero : size = 0
    · subst hzero
      rfl
    · have hle : (k + 1) * size ≤ min C n := hk.trans hr.le
      have hend := @pageEnd_left n size (some C) (min C n) (k * size) rfl (by omega)
      rw [Option.map_some, ← hsucc, Nat.min_eq_left hle] at hend
      have hpage : pageEnd n size (some (C - k * size)) (hits ok 0 (k * size)).length = (k + 1) * size :=
        hlength.symm ▸ hend
      rw [skips_page (hits_of_le hlength.ge) hpage (by omega) (by omega), hlength]
      have hleft : C - k * size - ((k + 1) * size - k * size) = C - (k + 1) * size := by omega
      rw [Option.map_some, hleft]

include hr hbefore in
lemma skips_first (hsize : 0 < size) (hfail : ok r = false) :
    Skips ok n size (some C) (min C n) 0 ↔ Recovers ok n size C r := by
  have hq : r / size * size ≤ r := Nat.div_mul_le_self r size
  have hq' : r < r / size * size + size := Nat.lt_div_mul_add hsize
  have hsucc : (r / size + 1) * size = r / size * size + size := Nat.succ_mul _ size
  rw [skips_before hbefore hr _ hq, Recovers]
  generalize r / size * size = a at hq hq' hsucc ⊢
  rw [hsucc]
  have hlength : (hits ok 0 a).length = a := hits_before fun i hi => hbefore i (by omega)
  have hpage : pageEnd n size (some (C - a)) (hits ok 0 a).length = min (a + size) (min C n) := by
    rw [hlength]
    exact @pageEnd_left n size (some C) _ a rfl (hq.trans hr.le)
  have hrn : r < n := hr.trans_le (Nat.min_le_right C n)
  have hre : r < min (a + size) (min C n) := lt_min hq' hr
  have hem : min (a + size) (min C n) ≤ min C n := Nat.min_le_right _ _
  generalize he : min (a + size) (min C n) = e at hpage hre hem ⊢
  have heC : e ≤ C := hem.trans (Nat.min_le_left C n)
  rw [skips_page (hits_of_le hlength.ge) hpage (by omega) (by omega), hlength, Option.map_some]
  have hleft : C - a - (e - a) = C - e := by omega
  rw [hleft]
  have hagain : min (r + min size (C - e)) n ≤ min C n := by
    have hsum : r + min size (C - e) ≤ C :=
      (Nat.add_le_add_left (Nat.min_le_right size (C - e)) r).trans (by omega)
    exact le_min ((Nat.min_le_left _ n).trans hsum) (Nat.min_le_right _ n)
  by_cases hmixed : hits ok r e = []
  · rw [skips_again hbefore hfail hre.le hem hmixed rfl hrn hagain]
    constructor
    · exact Or.imp_right fun h => .inr ⟨hmixed, h⟩
    · rintro (h | ⟨h, -⟩ | ⟨-, h⟩)
      · exact .inl h
      · exact .inl (hits_nil_join hmixed h le_rfl)
      · exact .inr h
  · obtain ⟨p, hrp, hpe, hp⟩ := exists_mixed hfail hmixed
    rw [skips_settled hrp hpe hfail hp hem]
    refine ⟨fun h => .inr (.inl h), ?_⟩
    rintro (h | h | ⟨h, -⟩)
    · exact absurd (hits_nil_mono h le_rfl hem) hmixed
    · exact h
    · exact absurd h hmixed

end Limited

section Unlimited

/-- Nothing is left behind the last item. -/
lemma skips_all (hm : m = (limit.elim n fun l => min l n)) (hsize : 0 < size) (hok : ∀ i < m, ok i = true)
    (he : e ≤ m) : Skips ok n size (limit.map fun l => l - e) m e := by
  have hlength : (hits ok 0 e).length = e := hits_before fun i hi => hok i (by omega)
  induction hk : m - e using Nat.strong_induction_on generalizing e with
  | _ k ih =>
    by_cases hend : e = m
    · subst hend
      refine ⟨[], ends_done ?_, by rw [List.append_nil]⟩
      rw [hlength, pageEnd_left hm le_rfl]
      exact Nat.min_le_right _ _
    · have hpage := @pageEnd_left n size limit m e hm he
      have hlt : e < min (e + size) m := lt_min (by omega) (by omega)
      have hem : min (e + size) m ≤ m := Nat.min_le_right _ _
      generalize min (e + size) m = e' at hpage hlt hem
      have hleft : ((limit.map fun l => l - e).map fun l => l - (e' - e)) = limit.map fun l => l - e' := by
        rw [Option.map_map]
        congr 1
        funext l
        change l - e - (e' - e) = l - e'
        omega
      rw [skips_page (hits_of_le hlength.ge) (by rw [hlength, hpage]) (by omega) (by omega), hlength, hleft]
      exact ih (m - e') (by omega) (by omega) (hits_before fun i hi => hok i (by omega)) rfl

lemma ends_unlimited {c : ℕ} {done : List ℕ} (hsize : 0 < size) (hc : c ≤ n)
    (h : Ends ok n size none c done) : c + done.length = n := by
  obtain ⟨fuel, h⟩ := h
  induction fuel generalizing c done with
  | zero => cases h
  | succ fuel ih =>
    have hpage : pageEnd n size none c = min (c + size) n := rfl
    rw [turns, hpage] at h
    split at h
    · cases h
      rw [List.length_nil]
      omega
    · obtain ⟨rest, hrest, rfl⟩ := Option.map_eq_some_iff.mp h
      have hle := @hits_length_le ok c (min (c + size) n)
      have hall := ih (by omega) hrest
      rw [List.length_append]
      omega

lemma skips_unlimited (hsize : 0 < size) : Skips ok n size none n 0 ↔ ∀ i < n, ok i = true := by
  constructor
  · rintro ⟨done, hdone, hperm⟩
    rw [hits_of_le le_rfl, List.length_nil] at hdone
    have hall := ends_unlimited hsize (Nat.zero_le n) hdone
    have hlength := hperm.length_eq
    rw [hits_of_le le_rfl, List.nil_append] at hlength
    have hfull : (hits ok 0 n).length = n - 0 := by omega
    exact fun i hi => hits_full.mp hfull i (Nat.zero_le i) hi
  · intro hok
    exact @skips_all ok n size none n 0 rfl hsize hok (Nat.zero_le n)

lemma skips_zero : Skips ok n 0 limit m 0 ↔ hits ok 0 m = [] := by
  have hdone : Ends ok n 0 limit (hits ok 0 0).length [] := by
    refine ends_done ?_
    rw [pageEnd]
    cases limit with
    | none =>
      rw [Option.elim_none]
      omega
    | some C =>
      rw [Option.elim_some]
      omega
  constructor
  · rintro ⟨done, h, hperm⟩
    rw [h.unique hdone, hits_of_le le_rfl] at hperm
    exact hperm.nil_eq.symm
  · intro h
    refine ⟨[], hdone, ?_⟩
    rw [h, hits_of_le le_rfl]
    exact List.Perm.refl _

end Unlimited

/-- All of the first items are processed, but for those that cannot be, exactly when all can be, or
there is a limit and the items are settled behind the first that cannot. -/
theorem skips_iff (hm : m = limit.elim n fun l => min l n) : Skips ok n size limit m 0 ↔
    if size = 0 then hits ok 0 m = []
    else (∀ i < m, ok i = true) ∨ ∃ l r, limit = some l ∧ r < m ∧ ok r = false ∧ (∀ i < r, ok i = true) ∧
      Recovers ok n size l r := by
  split
  · next hzero =>
    subst hzero
    exact skips_zero
  · next hsize =>
    have hpos : 0 < size := Nat.pos_of_ne_zero hsize
    by_cases hok : ∀ i < m, ok i = true
    · have hall := skips_all hm hpos hok (Nat.zero_le m)
      have hsame : (limit.map fun l => l - 0) = limit := Option.map_id'
      rw [hsame] at hall
      exact iff_of_true hall (.inl hok)
    · rw [or_iff_right hok]
      have hex : ∃ r, ¬ (r < m → ok r = true) := not_forall.mp hok
      have hfind := Nat.find_spec hex
      have hmin := fun i (hi : i < Nat.find hex) => not_not.mp (Nat.find_min hex hi)
      generalize Nat.find hex = r at hfind hmin
      obtain ⟨hrm, hr⟩ := Classical.not_imp.mp hfind
      have hfail : ok r = false := Bool.not_eq_true _ ▸ hr
      have hbefore : ∀ i < r, ok i = true := fun i hi => hmin i hi (by omega)
      cases limit with
      | none =>
        rw [Option.elim_none] at hm
        subst hm
        rw [skips_unlimited hpos]
        refine iff_of_false hok ?_
        rintro ⟨l, r, hl, -⟩
        cases hl
      | some C =>
        rw [Option.elim_some] at hm
        subst hm
        rw [skips_first hbefore hrm hpos hfail]
        constructor
        · exact fun h => ⟨C, r, rfl, hrm, hfail, hbefore, h⟩
        · rintro ⟨l, r', hl, hrm', hfail', hbefore', h⟩
          cases hl
          have hsame : r = r' := by
            rcases Nat.lt_trichotomy r r' with hlt | heq | hlt
            · rw [hbefore' r hlt] at hfail
              cases hfail
            · exact heq
            · rw [hbefore r' hlt] at hfail'
              cases hfail'
          exact hsame ▸ h

end Skipping

end Foundations.Paging
