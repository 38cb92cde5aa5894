import Mathlib.Data.List.Sort
import Mathlib.Data.List.TakeWhile
import ReplicaControl.Proofs.Merge.Workload

/-!
# Where the entries of a merged list stand

`mergeKeyed` gives the baseline, entry by entry under its overrides, with the added entries
between (specification, section 4.3). The baseline may have any order and repeat keys, so a place
is given by what is around it (`Placed`): every entry before an added one has a lesser key, and the
next entry of the baseline has a greater one.

- **One added entry** (`merge_cons_right`): it is put before the first greater one.
- **All added entries** (`placed_merge`): they are where `Placed` says, and no other list has them
  there (`eq_merge_of_placed`).
- **With a cursor** (`putAdded`, `placeFrom`): put in one by one, each from behind the one before,
  they give the same list (`foldl_putAdded`), at the places that a search from the start finds
  (`placeFrom_foldl_putAdded`).
- **Merged lists** (`mergeKeyed_interleaves`): `mergeKeyed` is the only list that `Interleaves` its
  two sides.
-/

namespace ReplicaControl

/-- The first added entry `o` comes behind the entries of `base` that are `le` to it, in a row from
the start. -/
theorem merge_cons_right {α : Type} {le : α → α → Bool} (base added : List α) (o : α) :
    base.merge (o :: added) le =
      base.takeWhile (le · o) ++ o :: (base.dropWhile (le · o)).merge added le := by
  induction base with
  | nil => simp
  | cons a base ih =>
    rw [List.cons_merge_cons, List.takeWhile_cons, List.dropWhile_cons]
    by_cases h : le a o = true
    · simp only [if_pos h, ih, List.cons_append]
    · simp only [if_neg h, List.nil_append]

/-- If `taken ++ x :: rest` is split at an entry `o` that is not in `taken`, then `o` is `x` or is
in `rest`. -/
theorem eq_or_exists_of_append_cons {α : Type} {taken rest before after : List α} {x o : α}
    (h : taken ++ x :: rest = before ++ o :: after) (ho : o ∉ taken) :
    (before = taken ∧ o = x ∧ after = rest) ∨
      ∃ between, before = taken ++ x :: between ∧ rest = between ++ o :: after := by
  rw [List.append_eq_append_iff] at h
  obtain ⟨_ | ⟨y, between⟩, hbefore, hrest⟩ | ⟨_ | ⟨y, left⟩, htaken, hrest⟩ := h
  · obtain ⟨rfl, rfl⟩ := List.cons.inj hrest
    exact .inl ⟨by simpa using hbefore, rfl, rfl⟩
  · obtain ⟨rfl, hbetween⟩ := List.cons.inj hrest
    exact .inr ⟨between, hbefore, hbetween⟩
  · obtain ⟨rfl, rfl⟩ := List.cons.inj hrest
    exact .inl ⟨by simpa using htaken.symm, rfl, rfl⟩
  · obtain ⟨rfl, -⟩ := List.cons.inj hrest
    exact absurd (by simp [htaken]) ho

/-! ## Places among the entries of a baseline -/

section Places

variable {α κ : Type} [Ord κ] {key : α → κ} {keys : List κ} {base added : List α}

theorem forall_mem_split (key : α → κ) {P : α → Prop} (h : ∀ a ∈ base, P a) (o : α) :
    (∀ a ∈ base.takeWhile (precedes key · o), P a) ∧
      ∀ a ∈ base.dropWhile (precedes key · o), P a := by
  rwa [← List.forall_mem_append, List.takeWhile_append_dropWhile]

theorem precedes_eq_false_iff [Std.OrientedOrd κ] {a o : α} :
    precedes key a o = false ↔ compare (key o) (key a) = .lt := by
  rw [precedes, ← Std.OrientedCmp.gt_iff_lt]
  cases compare (key a) (key o) <;> simp

theorem precedes_eq_true_iff [Std.LawfulEqOrd κ] {a o : α} (hne : key a ≠ key o) :
    precedes key a o = true ↔ compare (key a) (key o) = .lt := by
  have hne : compare (key a) (key o) ≠ .eq := fun h => hne (Std.LawfulEqOrd.eq_of_compare h)
  rw [precedes]
  cases h : compare (key a) (key o) <;> simp_all

theorem precedes_total [Std.OrientedOrd κ] (a o : α) :
    (precedes key a o || precedes key o a) = true := by
  rw [precedes, precedes, Std.OrientedOrd.eq_swap (a := key a)]
  cases compare (key o) (key a) <;> rfl

theorem precedes_trans [Std.TransOrd κ] {a b c : α} (hab : precedes key a b = true)
    (hbc : precedes key b c = true) : precedes key a c = true :=
  Std.TransCmp.isLE_trans hab hbc

variable [DecidableEq κ]

/-- Sorted by whether their keys are in `keys`, the entries of the merged list are those of the two
sides, in their order. -/
theorem filter_merge (hbase : ∀ a ∈ base, key a ∈ keys) (hadded : ∀ o ∈ added, key o ∉ keys) :
    (base.merge added (precedes key)).filter (key · ∈ keys) = base ∧
      (base.merge added (precedes key)).filter (key · ∉ keys) = added := by
  induction added generalizing base with
  | nil => simpa using hbase
  | cons o added ih =>
    obtain ⟨ho, hrest⟩ := List.forall_mem_cons.mp hadded
    obtain ⟨htake, hdrop⟩ := forall_mem_split key hbase o
    obtain ⟨hleft, hright⟩ := ih hdrop hrest
    rw [merge_cons_right, List.filter_append, List.filter_append]
    constructor
    · rw [List.filter_eq_self.mpr (by simpa using htake),
        List.filter_cons_of_neg (by simpa using ho), hleft, List.takeWhile_append_dropWhile]
    · rw [List.filter_eq_nil_iff.mpr (by simpa using htake),
        List.filter_cons_of_pos (by simpa using ho), hright, List.nil_append]

/-- Every entry before one whose key is not in `keys` has a lesser key, and the next entry with one
of `keys` has a greater key. -/
def Placed (key : α → κ) (keys : List κ) (l : List α) : Prop :=
  ∀ before o after, l = before ++ o :: after → key o ∉ keys →
    (∀ e ∈ before, compare (key e) (key o) = .lt) ∧
      ∀ a ∈ after.find? (key · ∈ keys), compare (key o) (key a) = .lt

variable [Std.TransOrd κ] [Std.LawfulEqOrd κ]

/-- If the keys of `base` are in `keys`, and those of `added` are not and ascend, then merging gives
a list that is `Placed`. -/
theorem placed_merge (hbase : ∀ a ∈ base, key a ∈ keys) (hadded : ∀ o ∈ added, key o ∉ keys)
    (hascending : added.Pairwise fun o o' => compare (key o) (key o') = .lt) :
    Placed key keys (base.merge added (precedes key)) := by
  intro before o after h ho
  induction added generalizing base before with
  | nil =>
    rw [List.merge_right] at h
    exact absurd (hbase o (by simp [h])) ho
  | cons o₁ added ih =>
    obtain ⟨ho₁, hrest⟩ := List.forall_mem_cons.mp hadded
    obtain ⟨hleast, hascending⟩ := List.pairwise_cons.mp hascending
    obtain ⟨htake, hdrop⟩ := forall_mem_split key hbase o₁
    have hlt : ∀ a ∈ base.takeWhile (precedes key · o₁), compare (key a) (key o₁) = .lt := by
      intro a ha
      have hne : key a ≠ key o₁ := fun heq => ho₁ (heq ▸ htake a ha)
      exact (precedes_eq_true_iff hne).mp (List.mem_takeWhile_imp (p := (precedes key · o₁)) ha)
    rw [merge_cons_right] at h
    -- The entry is the first of the added ones, or a later one.
    obtain ⟨rfl, rfl, rfl⟩ | ⟨between, rfl, hbetween⟩ :=
      eq_or_exists_of_append_cons h fun hmem => ho (htake o hmem)
    -- First: the next entry of the baseline is the one at which `takeWhile` stopped.
    · refine ⟨hlt, fun a ha => ?_⟩
      rw [← List.head?_filter, (filter_merge hdrop hrest).1, Option.mem_def] at ha
      have hnot := List.head?_dropWhile_not (precedes key · o) base
      rw [ha] at hnot
      exact precedes_eq_false_iff.mp hnot
    -- Later: what is before it is what was taken for `o₁`, then `o₁`, then what `ih` speaks of.
    · obtain ⟨hbefore, hafter⟩ := ih hdrop hrest hascending between hbetween
      have hmem : o ∈ added := by
        have hmerged : o ∈ (base.dropWhile (precedes key · o₁)).merge added (precedes key) := by
          simp [hbetween]
        exact (List.mem_merge.mp hmerged).resolve_left fun hmem => ho (hdrop o hmem)
      refine ⟨List.forall_mem_append.mpr ⟨fun e he => ?_, ?_⟩, hafter⟩
      · exact Std.TransCmp.lt_trans (hlt e he) (hleast o hmem)
      · exact List.forall_mem_cons.mpr ⟨hleast o hmem, hbefore⟩

/-- A list that is `Placed` is determined by its entries with and without keys in `keys`. -/
theorem eq_merge_of_placed {l : List α} (h : Placed key keys l)
    (hbase : l.filter (key · ∈ keys) = base) (hadded : l.filter (key · ∉ keys) = added) :
    l = base.merge added (precedes key) := by
  induction l generalizing base added with
  | nil => simp [← hbase, ← hadded]
  | cons x l ih =>
    have htail : Placed key keys l := fun before o after heq ho => by
      obtain ⟨hbefore, hafter⟩ := h (x :: before) o after (by rw [heq, List.cons_append]) ho
      exact ⟨fun e he => hbefore e (List.mem_cons_of_mem x he), hafter⟩
    -- The head is the next one of the baseline or the next added one. `Placed` says which of the
    -- two heads `List.merge` takes: the lesser one.
    by_cases hx : key x ∈ keys
    · rw [List.filter_cons_of_pos (by simpa using hx)] at hbase
      rw [List.filter_cons_of_neg (by simpa using hx)] at hadded
      subst hbase
      have hl := ih htail rfl hadded
      cases added with
      | nil =>
        rw [List.merge_right] at hl ⊢
        rw [← hl]
      | cons o added =>
        have ho : o ∈ l.filter (key · ∉ keys) := by rw [hadded]; exact List.mem_cons_self
        obtain ⟨hmem, hno⟩ := List.mem_filter.mp ho
        have hno : key o ∉ keys := by simpa using hno
        -- The first added entry is somewhere behind `x`, so `x` is among the lesser ones before it.
        obtain ⟨before, after, heq⟩ := List.append_of_mem hmem
        have hlt := (h (x :: before) o after (by rw [heq, List.cons_append]) hno).1 x
          List.mem_cons_self
        have hne : key x ≠ key o := fun heq => hno (heq ▸ hx)
        rw [List.cons_merge_cons, if_pos ((precedes_eq_true_iff hne).mpr hlt), ← hl]
    · rw [List.filter_cons_of_neg (by simpa using hx)] at hbase
      rw [List.filter_cons_of_pos (by simpa using hx)] at hadded
      subst hadded
      have hl := ih htail hbase rfl
      cases base with
      | nil =>
        rw [List.nil_merge] at hl ⊢
        rw [← hl]
      | cons a base =>
        -- The added entry `x` comes before `a`, the next one of the baseline, whose key is greater.
        have hnext : l.find? (key · ∈ keys) = some a := by rw [← List.head?_filter, hbase]; rfl
        have hgt := (h [] x l rfl hx).2 a hnext
        rw [List.cons_merge_cons, if_neg (by simp [precedes_eq_false_iff.mpr hgt]), ← hl]

end Places

/-! ## Places found from a cursor on -/

section Cursor

variable {α κ : Type} [Ord κ] {key : α → κ}

/-- The index at which `o` goes into `l`: before the first entry from `cursor` on that has a greater
key, or at the end. -/
def placeFrom (key : α → κ) (cursor : Nat) (l : List α) (o : α) : Nat :=
  cursor + (l.drop cursor).findIdx fun e => !precedes key e o

/-- Puts `o` in its place (`placeFrom`) and moves the cursor behind it. -/
def putAdded (key : α → κ) (state : List α × Nat) (o : α) : List α × Nat :=
  (state.1.insertIdx (placeFrom key state.2 state.1 o) o, placeFrom key state.2 state.1 o + 1)

theorem placeFrom_append (key : α → κ) (passed l : List α) (o : α) :
    placeFrom key passed.length (passed ++ l) o =
      (passed ++ l.takeWhile (precedes key · o)).length := by
  have hlength : (l.takeWhile (precedes key · o)).length =
      l.findIdx fun e => !precedes key e o := by
    rw [List.takeWhile_eq_take_findIdx_not, List.length_take]
    exact Nat.min_eq_left List.findIdx_le_length
  rw [placeFrom, List.drop_left, List.length_append, hlength]

/-- If the entries of `passed` go before `o`, the cursor behind them finds the place that a search
from the start finds. -/
theorem placeFrom_zero {passed : List α} {o : α} (h : ∀ e ∈ passed, precedes key e o = true)
    (l : List α) :
    placeFrom key 0 (passed ++ l) o = placeFrom key passed.length (passed ++ l) o := by
  have hzero := placeFrom_append key [] (passed ++ l) o
  rw [List.takeWhile_append_of_pos h, List.nil_append, List.nil_append] at hzero
  rwa [← placeFrom_append] at hzero

theorem insertIdx_append (passed l : List α) (o : α) :
    (passed ++ l).insertIdx passed.length o = passed ++ o :: l := by
  induction passed with
  | nil => rfl
  | cons e passed ih => simp [ih]

/-- With the cursor behind `passed`, `putAdded` passes the entries that go before `o`, and `o`. -/
theorem putAdded_append (passed l : List α) (o : α) :
    putAdded key (passed ++ l, passed.length) o =
      (passed ++ l.takeWhile (precedes key · o) ++ [o] ++ l.dropWhile (precedes key · o),
        (passed ++ l.takeWhile (precedes key · o) ++ [o]).length) := by
  have hl : passed ++ l =
      passed ++ l.takeWhile (precedes key · o) ++ l.dropWhile (precedes key · o) := by
    rw [List.append_assoc, List.takeWhile_append_dropWhile]
  rw [putAdded, placeFrom_append]
  refine Prod.ext ?_ (by simp [Nat.add_assoc])
  show (passed ++ l).insertIdx _ o = _
  rw [hl, insertIdx_append, List.append_assoc _ [o], List.singleton_append]

/-- Put in one by one by `putAdded`, the `added` entries give the merged list. -/
theorem foldl_putAdded (added passed l : List α) :
    (added.foldl (putAdded key) (passed ++ l, passed.length)).1 =
      passed ++ l.merge added (precedes key) := by
  induction added generalizing passed l with
  | nil => rw [List.foldl_nil, List.merge_right]
  | cons o added ih =>
    rw [List.foldl_cons, putAdded_append, ih, merge_cons_right]
    simp

/-- If the added entries ascend, and all of `passed` goes before them, then every place that the
cursor finds is the one that a search from the start finds. -/
theorem placeFrom_foldl_putAdded [Std.TransOrd κ] {done rest : List α} {o : α} (passed l : List α)
    (hascending : (done ++ o :: rest).Pairwise fun o o' => precedes key o o' = true)
    (hpassed : ∀ e ∈ passed, ∀ o' ∈ done ++ o :: rest, precedes key e o' = true) :
    placeFrom key 0 (done.foldl (putAdded key) (passed ++ l, passed.length)).1 o =
      placeFrom key (done.foldl (putAdded key) (passed ++ l, passed.length)).2
        (done.foldl (putAdded key) (passed ++ l, passed.length)).1 o := by
  induction done generalizing passed l with
  | nil => exact placeFrom_zero (fun e he => hpassed e he o (by simp)) l
  | cons o₁ done ih =>
    obtain ⟨hleast, hascending⟩ := List.pairwise_cons.mp hascending
    rw [List.foldl_cons, putAdded_append]
    -- Now passed: what was before, the entries that `o₁` was put behind, and `o₁` itself, which is
    -- least among the added ones.
    refine ih _ _ hascending fun e he o' ho' => ?_
    rcases List.mem_append.mp he with he | he
    · rcases List.mem_append.mp he with he | he
      · exact hpassed e he o' (List.mem_cons_of_mem _ ho')
      · have hle := List.mem_takeWhile_imp (p := (precedes key · o₁)) he
        exact precedes_trans hle (hleast o' ho')
    · rw [List.mem_singleton.mp he]
      exact hleast o' ho'

end Cursor

/-! ## Merged lists -/

section Keyed

variable {α κ : Type} [Ord κ] [DecidableEq κ] {key : α → κ} {base override merged : List α}

/-- What a list holds, and where, if it is `base` with `override` laid over it by `key`. -/
structure Interleaves [Merge α] (key : α → κ) (base override merged : List α) : Prop where
  /-- Without the added entries it is `base`, each entry merged with the last override that has its
  key. -/
  kept : merged.filter (key · ∈ base.map key) =
    base.map fun a => (lastOf? key override (key a)).elim a (merge a)
  /-- A key that `base` lacks is there once, with its last override, if it has one. -/
  added : ∀ k ∉ base.map key, merged.filter (key · = k) = (lastOf? key override k).toList
  /-- The added entries ascend by their keys. -/
  ascending : (merged.filter (key · ∉ base.map key)).Pairwise fun o o' =>
    compare (key o) (key o') = .lt
  /-- What is before an added entry has lesser keys; the next entry of `base` has a greater one. -/
  placed : Placed key (base.map key) merged

variable [Std.TransOrd κ] [Std.LawfulEqOrd κ]

theorem mem_addedEntries_iff_lastOf? {o : α} : o ∈ addedEntries key base override ↔
    lastOf? key override (key o) = some o ∧ key o ∉ base.map key := by
  rw [mem_addedEntries, get?_byKey]
  simp [eq_comm]

theorem pairwise_addedEntries :
    (addedEntries key base override).Pairwise fun o o' => compare (key o) (key o') = .lt := by
  have hvalues : (byKey key override).values.Pairwise fun o o' =>
      compare (key o) (key o') = .lt := by
    refine List.pairwise_map.mpr ((byKey key override).ascending.imp_of_mem fun he he' hlt => ?_)
    rwa [(key_of_get?_byKey (Dict.get?_eq_some_iff.mpr he)).1,
      (key_of_get?_byKey (Dict.get?_eq_some_iff.mpr he')).1]
  exact hvalues.filter _

omit [DecidableEq κ] [Std.LawfulEqOrd κ] in
/-- Two lists that strictly ascend by `key` are equal if they have the same entries. -/
theorem eq_of_pairwise_of_mem (key : α → κ) {l l' : List α}
    (h : l.Pairwise fun o o' => compare (key o) (key o') = .lt)
    (h' : l'.Pairwise fun o o' => compare (key o) (key o') = .lt) (hmem : ∀ e, e ∈ l ↔ e ∈ l') :
    l = l' := by
  have : Std.Irrefl fun o o' : α => compare (key o) (key o') = .lt :=
    ⟨fun o hlt => by simp [Std.ReflOrd.compare_self] at hlt⟩
  have : Std.Antisymm fun o o' : α => compare (key o) (key o') = .lt :=
    ⟨fun _ _ hlt hgt => absurd hgt (Std.OrientedCmp.not_lt_of_lt hlt)⟩
  exact h.eq_of_mem_iff h' hmem

variable [Merge α]

theorem mergeMatched_eq : mergeMatched key base override =
    base.map fun a => (lastOf? key override (key a)).elim a (merge a) := by
  refine List.map_congr_left fun a _ => ?_
  rw [get?_byKey]
  cases lastOf? key override (key a) <;> rfl

theorem interleaves_mergeKeyed (hkey : KeepsKey key) (base override : List α) :
    Interleaves key base override (mergeKeyed key base override) := by
  have hmatched : ∀ a ∈ mergeMatched key base override, key a ∈ base.map key := fun a ha => by
    rw [← map_key_mergeMatched hkey]
    exact List.mem_map_of_mem ha
  have hadded : ∀ o ∈ addedEntries key base override, key o ∉ base.map key :=
    fun o ho => (mem_addedEntries_iff_lastOf?.mp ho).2
  obtain ⟨hleft, hright⟩ := filter_merge hmatched hadded
  refine ⟨hleft.trans mergeMatched_eq, fun k hk => ?_, hright ▸ pairwise_addedEntries,
    placed_merge hmatched hadded pairwise_addedEntries⟩
  -- A key that the baseline lacks is only among `addedEntries`, which holds its last override.
  have hfilter : (mergeKeyed key base override).filter (key · = k) =
      (addedEntries key base override).filter (key · = k) := by
    rw [← hright, List.filter_filter]
    refine List.filter_congr fun e _ => ?_
    by_cases he : key e = k <;> simp [he, hk]
  rw [hfilter]
  refine eq_of_pairwise_of_mem key (pairwise_addedEntries.filter _) ?_ fun e => ?_
  · cases lastOf? key override k <;> simp
  · rw [List.mem_filter, mem_addedEntries_iff_lastOf?, Option.mem_toList]
    constructor
    · rintro ⟨⟨hlast, -⟩, he⟩
      rwa [← of_decide_eq_true he]
    · intro hlast
      obtain rfl := (key_of_lastOf? hlast).1
      exact ⟨⟨hlast, hk⟩, by simp⟩

/-- `mergeKeyed` is the only list that `Interleaves` the two sides. -/
theorem Interleaves.eq_mergeKeyed (h : Interleaves key base override merged) :
    merged = mergeKeyed key base override := by
  refine eq_merge_of_placed h.placed (h.kept.trans mergeMatched_eq.symm) ?_
  refine eq_of_pairwise_of_mem key h.ascending pairwise_addedEntries fun e => ?_
  rw [mem_addedEntries_iff_lastOf?, List.mem_filter, decide_eq_true_eq]
  refine and_congr_left fun he => ?_
  have hmem : e ∈ merged ↔ e ∈ merged.filter (key · = key e) := by simp
  rw [hmem, h.added _ he, Option.mem_toList]

/-- A baseline in the order of its keys gives a list in the order of its keys. -/
theorem pairwise_mergeKeyed (hkey : KeepsKey key)
    (hbase : base.Pairwise fun a a' => (compare (key a) (key a')).isLE = true) :
    (mergeKeyed key base override).Pairwise fun e e' => (compare (key e) (key e')).isLE = true := by
  have hmatched : (mergeMatched key base override).Pairwise fun a a' =>
      precedes key a a' = true := by
    have hkeys : (mergeMatched key base override).map key = base.map key :=
      map_key_mergeMatched hkey
    have hle : (base.map key).Pairwise fun k k' => (compare k k').isLE = true :=
      List.pairwise_map.mpr hbase
    exact List.pairwise_map.mp (hkeys ▸ hle)
  have hadded : (addedEntries key base override).Pairwise fun o o' => precedes key o o' = true :=
    pairwise_addedEntries.imp fun hlt => by rw [precedes, hlt]; rfl
  exact List.pairwise_merge (fun _ _ _ => precedes_trans) precedes_total _ _ hmatched hadded

/-- `mergeKeyed` as it is done with a cursor, which puts in the `addedEntries` one by one. -/
structure PutInPlace (key : α → κ) (base override : List α) : Prop where
  /-- The `addedEntries`, each put in by `putAdded`, give the merged list. -/
  foldl : ((addedEntries key base override).foldl (putAdded key)
    (mergeMatched key base override, 0)).1 = mergeKeyed key base override
  /-- The place that the cursor finds for `o` is the one that a search from the start finds. -/
  place : ∀ done o rest, addedEntries key base override = done ++ o :: rest →
    placeFrom key (done.foldl (putAdded key) (mergeMatched key base override, 0)).2
        (done.foldl (putAdded key) (mergeMatched key base override, 0)).1 o =
      placeFrom key 0 (done.foldl (putAdded key) (mergeMatched key base override, 0)).1 o

theorem putInPlace (base override : List α) : PutInPlace key base override where
  foldl := foldl_putAdded _ [] _
  place done o rest h := by
    have hascending : (addedEntries key base override).Pairwise fun o o' =>
        precedes key o o' = true :=
      pairwise_addedEntries.imp fun hlt => by rw [precedes, hlt]; rfl
    rw [h] at hascending
    exact (placeFrom_foldl_putAdded [] _ hascending nofun).symm

end Keyed

/-- Merging keeps the keys by which the lists of `StatefulSet` and `Service` are merged. -/
structure WorkloadKeysKept : Prop where
  ports : KeepsKey portKey
  env : KeepsKey (α := EnvVar) (·.name)
  volumeMounts : KeepsKey mountKey
  containers : KeepsKey (α := Container) (·.name)
  matchExpressions : KeepsKey (α := LabelSelectorRequirement) (·.key)
  imagePullSecrets : KeepsKey (α := LocalObjectReference) (·.name)
  items : KeepsKey (α := KeyToPath) (·.key)
  volumes : KeepsKey (α := Volume) (·.name)
  hostAliases : KeepsKey (α := HostAlias) (·.ip)
  tolerations : KeepsKey tolerationKey
  topologySpreadConstraints : KeepsKey (α := TopologySpreadConstraint) (·.topologyKey)
  volumeClaimTemplates : KeepsKey (α := Claim) (·.metadata.name)
  servicePorts : KeepsKey (α := ServicePort) (·.name)

theorem workloadKeysKept : WorkloadKeysKept where
  ports := portKey_keepsKey
  env := EnvVar.keepsKey
  volumeMounts := mountKey_keepsKey
  containers := Container.keepsKey
  matchExpressions := LabelSelectorRequirement.keepsKey
  imagePullSecrets := LocalObjectReference.keepsKey
  items := KeyToPath.keepsKey
  volumes := Volume.keepsKey
  hostAliases := HostAlias.keepsKey
  tolerations := tolerationKey_keepsKey
  topologySpreadConstraints := TopologySpreadConstraint.keepsKey
  volumeClaimTemplates := Claim.keepsKey
  servicePorts := ServicePort.keepsKey

/-- Whatever the order of `base` and however often keys are repeated, `mergeKeyed` is the only list
that `Interleaves` the two sides, it is sorted if `base` is, and a cursor that moves behind each
entry it puts in misses no place (`PutInPlace`). Merging keeps the keys of all lists of workloads.
-/
theorem mergeKeyed_interleaves :
    (∀ {α κ : Type} [Merge α] [Ord κ] [DecidableEq κ] [Std.TransOrd κ] [Std.LawfulEqOrd κ]
      {key : α → κ}, KeepsKey key → ∀ base override : List α,
        (∀ merged, merged = mergeKeyed key base override ↔ Interleaves key base override merged) ∧
        ((base.Pairwise fun a a' => (compare (key a) (key a')).isLE = true) →
          (mergeKeyed key base override).Pairwise fun e e' =>
            (compare (key e) (key e')).isLE = true) ∧
        PutInPlace key base override) ∧
    WorkloadKeysKept := by
  refine ⟨fun hkey base override => ⟨fun merged => ⟨?_, fun h => h.eq_mergeKeyed⟩,
    pairwise_mergeKeyed hkey, putInPlace base override⟩, workloadKeysKept⟩
  rintro rfl
  exact interleaves_mergeKeyed hkey base override

/-- Variables in no order, one of them twice. -/
def muddled : List EnvVar := [{ name := "z" }, { name := "b", value := "1" }, { name := "b" }]

/-- Overrides of `muddled`: one is matched, two are added, of which one is repeated. -/
def repeatedExtras : List EnvVar :=
  [{ name := "c", value := "2" }, { name := "b", value := "3" }, { name := "a" },
   { name := "c", value := "4" }]

theorem mergeKeyed_interleaves_muddled :
    KeepsKey (α := EnvVar) (·.name) ∧ Interleaves (·.name) muddled repeatedExtras
      [{ name := "a" }, { name := "c", value := "4" }, { name := "z" },
       { name := "b", value := "3" }, { name := "b", value := "3" }] := by
  have hkey : KeepsKey (α := EnvVar) (·.name) := EnvVar.keepsKey
  obtain ⟨hiff, -, hput⟩ := mergeKeyed_interleaves.1 hkey muddled repeatedExtras
  refine ⟨hkey, (hiff _).mp ?_⟩
  rw [← hput.foldl]
  decide +kernel

end ReplicaControl
