import Mathlib.Data.String.Basic
import ReplicaControl.Proofs.Merge.Keyed

/-!
# The union of lists of texts is a merge by key

A text can be taken for an entry that is its own key. Two entries with the same key are then the
same text, and the baseline's stays as it is (`keepText`). What `mergeKeyed` makes of such entries
is what `uniteTexts` makes of the texts (`uniteTexts_eq`), so that the places of the added ones are
known.

- **Added texts** (`uniteTexts_eq_merge`): sorted and freed of repetitions they ascend strictly
  (`pairwise_eraseReps`), and are what `addedEntries` gives.
- **Unions** (`Unites`): what `uniteTexts` holds, and in which order (`unites_uniteTexts`).
- **With a cursor** (`foldl_putAdded_id`): the texts can be put in one by one.
-/

namespace ReplicaControl

/-- A sorted list ascends strictly without its repetitions. -/
theorem pairwise_eraseReps {α : Type} [BEq α] [LawfulBEq α] [Ord α] [Std.TransOrd α]
    [Std.LawfulEqOrd α] {as : List α} (h : as.Pairwise fun a b => precedes id a b = true) :
    as.eraseReps.Pairwise fun a b => compare a b = .lt := by
  cases as with
  | nil => exact .nil
  | cons a as =>
    induction as generalizing a with
    | nil => exact List.pairwise_singleton _ a
    | cons b as ih =>
      obtain ⟨hleast, htail⟩ := List.pairwise_cons.mp h
      rw [eraseReps_cons_cons]
      split
      · rename_i hab
        obtain rfl := eq_of_beq hab
        exact ih a htail
      · rename_i hab
        have hne : id a ≠ id b := fun heq => hab (beq_iff_eq.mpr heq)
        have hlt : compare (id a) (id b) = .lt :=
          (precedes_eq_true_iff hne).mp (hleast b List.mem_cons_self)
        refine List.pairwise_cons.mpr ⟨fun x hx => ?_, ih b htail⟩
        -- `a < b`, and what follows `b` is not less than `b`.
        rcases List.mem_cons.mp (mem_eraseReps.mp hx) with rfl | hmem
        · exact hlt
        · exact Std.TransCmp.lt_of_lt_of_isLE hlt ((List.pairwise_cons.mp htail).1 x hmem)

section Texts

variable {base override : List String}

/-! ## The added texts -/

theorem lastOf?_id (ts : List String) (t : String) :
    lastOf? id ts t = if t ∈ ts then some t else none := by
  split
  · rename_i h
    have hsome : lastOf? id ts t ≠ none := mt lastOf?_eq_none_iff.mp (by simpa using h)
    obtain ⟨u, hu⟩ := Option.ne_none_iff_exists'.mp hsome
    rw [hu, show u = t from (key_of_lastOf? hu).1]
  · rename_i h
    exact lastOf?_eq_none_iff.mpr (by simpa using h)

theorem mem_addedEntries_id {t : String} :
    t ∈ addedEntries id base override ↔ t ∈ override ∧ t ∉ base := by
  rw [mem_addedEntries_iff_lastOf?, List.map_id, id_eq, lastOf?_id]
  simp

/-- The texts that `uniteTexts` sorts and frees of repetitions are the `addedEntries`. -/
theorem uniteTexts_eq_merge :
    uniteTexts base override = base.merge (addedEntries id base override) (precedes id) := by
  have hsorted : ((override.filter (!base.contains ·)).mergeSort (precedes id)).Pairwise
      fun t t' => precedes id t t' = true :=
    List.pairwise_mergeSort (fun _ _ _ => precedes_trans) precedes_total _
  rw [uniteTexts]
  congr 1
  refine eq_of_pairwise_of_mem id (pairwise_eraseReps hsorted) pairwise_addedEntries fun t => ?_
  rw [mem_eraseReps, List.mem_mergeSort, mem_addedEntries_id]
  simp

/-! ## Texts as entries -/

/-- Of two texts that are one entry the baseline's is kept. -/
local instance keepText : Merge String := ⟨fun base _ => base⟩

theorem keepsKey_id : KeepsKey (id : String → String) := fun _ _ h => h

theorem mergeMatched_id : mergeMatched id base override = base := by
  rw [mergeMatched_eq]
  refine (List.map_congr_left fun t _ => ?_).trans (List.map_id base)
  cases lastOf? id override (id t) <;> rfl

theorem uniteTexts_eq : uniteTexts base override = mergeKeyed id base override := by
  rw [uniteTexts_eq_merge, mergeKeyed, mergeMatched_id]

/-! ## What a union holds -/

/-- What a list holds, and in which order, if it is the union of `base` and `override`. -/
structure Unites (base override united : List String) : Prop where
  /-- Without the added texts it is `base`, with its repetitions. -/
  kept : united.filter (· ∈ base) = base
  /-- A text that `base` lacks is there once if `override` has it. -/
  added : ∀ t ∉ base, united.count t = if t ∈ override then 1 else 0
  /-- The added texts are in ascending order. -/
  ascending : (united.filter (· ∉ base)).Pairwise (· < ·)
  /-- What is before an added text is less; the next text of `base` is greater. -/
  placed : ∀ before t after, united = before ++ t :: after → t ∉ base →
    (∀ u ∈ before, u < t) ∧ ∀ u ∈ after.find? (· ∈ base), t < u
  /-- A sorted baseline gives a sorted list. -/
  sorted : base.Pairwise (· ≤ ·) → united.Pairwise (· ≤ ·)

theorem unites_uniteTexts : Unites base override (uniteTexts base override) := by
  rw [uniteTexts_eq]
  have h := interleaves_mergeKeyed keepsKey_id base override
  have hkept := h.kept.trans mergeMatched_eq.symm
  have hascending := h.ascending
  simp only [id_eq, List.map_id] at hkept hascending
  rw [mergeMatched_id] at hkept
  -- Each field is the one of `Interleaves` for the keys `id`, with `≤` and `<` for `compare`.
  refine ⟨hkept, fun t ht => ?_, hascending.imp compare_lt_iff_lt.mp, ?_, fun hsorted => ?_⟩
  · have hadded := congrArg List.length (h.added t (by simpa using ht))
    rw [lastOf?_id] at hadded
    rw [List.count_eq_countP, List.countP_eq_length_filter]
    refine hadded.trans ?_
    split <;> rfl
  · intro before t after heq ht
    have hplaced := h.placed before t after heq (by simpa using ht)
    simp only [id_eq, List.map_id, compare_lt_iff_lt] at hplaced
    exact hplaced
  · have hle : base.Pairwise fun t t' => (compare (id t) (id t')).isLE = true :=
      hsorted.imp Std.LawfulBCmp.isLE_iff_le.mpr
    exact (pairwise_mergeKeyed keepsKey_id hle).imp Std.LawfulBCmp.isLE_iff_le.mp

/-- The texts that only `override` has, put in by `putAdded` in ascending order, give the union. -/
theorem foldl_putAdded_id {added : List String} (hascending : added.Pairwise (· < ·))
    (hmem : ∀ t, t ∈ added ↔ t ∈ override ∧ t ∉ base) :
    (added.foldl (putAdded id) (base, 0)).1 = uniteTexts base override := by
  have hadded : added = addedEntries id base override := by
    refine eq_of_pairwise_of_mem id (hascending.imp compare_lt_iff_lt.mpr) pairwise_addedEntries ?_
    exact fun t => (hmem t).trans mem_addedEntries_id.symm
  rw [uniteTexts_eq_merge, hadded]
  exact foldl_putAdded _ [] base

/-- `uniteTexts` is `mergeKeyed` with every text as its own key, whatever the order of the lists and
however often texts are repeated. It keeps `base` and adds what that lacks, once and in order
(`Unites`), in the same places if a cursor moves behind each text that is put in. Laid again,
`override` adds nothing. -/
theorem uniteTexts_eq_mergeKeyed (base override : List String) :
    uniteTexts base override = mergeKeyed id base override ∧
    Unites base override (uniteTexts base override) ∧
    (∀ added : List String, added.Pairwise (· < ·) →
      (∀ t, t ∈ added ↔ t ∈ override ∧ t ∉ base) →
      (added.foldl (putAdded id) (base, 0)).1 = uniteTexts base override) ∧
    uniteTexts (uniteTexts base override) override = uniteTexts base override :=
  ⟨uniteTexts_eq, unites_uniteTexts, fun _ => foldl_putAdded_id,
    uniteTexts_uniteTexts base override⟩

/-- `base` is sorted and repeats a text; `override` has no order and repeats one too. -/
theorem uniteTexts_eq_mergeKeyed_repeated :
    ["c", "e"].Pairwise (· < ·) ∧
    (∀ t, t ∈ ["c", "e"] ↔ t ∈ ["e", "c", "b", "c"] ∧ t ∉ ["b", "b", "d"]) ∧
    ["b", "b", "d"].Pairwise (· ≤ ·) ∧
    uniteTexts ["b", "b", "d"] ["e", "c", "b", "c"] = ["b", "b", "c", "d", "e"] ∧
    ["b", "b", "c", "d", "e"].Pairwise (· ≤ ·) := by
  have hascending : ["c", "e"].Pairwise (· < ·) := by decide
  have hmem : ∀ t, t ∈ ["c", "e"] ↔ t ∈ ["e", "c", "b", "c"] ∧ t ∉ ["b", "b", "d"] := by
    intro t
    simp only [List.mem_cons, List.not_mem_nil, or_false]
    constructor
    · rintro (rfl | rfl) <;> decide
    · rintro ⟨rfl | rfl | rfl | rfl, hnot⟩ <;> simp_all
  have hbase : ["b", "b", "d"].Pairwise (· ≤ ·) := by decide
  obtain ⟨-, hunites, hput, -⟩ := uniteTexts_eq_mergeKeyed ["b", "b", "d"] ["e", "c", "b", "c"]
  have hunion : uniteTexts ["b", "b", "d"] ["e", "c", "b", "c"] = ["b", "b", "c", "d", "e"] := by
    rw [← hput ["c", "e"] hascending hmem]
    decide
  refine ⟨hascending, hmem, hbase, hunion, ?_⟩
  rw [← hunion]
  exact hunites.sorted hbase

end Texts

end ReplicaControl
