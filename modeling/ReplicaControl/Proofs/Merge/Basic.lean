import Mathlib.Data.List.Nodup
import ReplicaControl.Merge.Container
import ReplicaControl.Proofs.Dict

/-!
# Overrides that can be laid again

An override is *repeatable* if it changes nothing when it is laid over itself, nor when it is laid
over a baseline that it was laid over before (specification, section 8). A record is repeatable if
its fields are, each for the way in which the record merges it.

- **Scalars** (`prefer_prefer_left`, `vacant_prefer`) and optional records (`Repeatable.option`).
- **Sets of texts** (`uniteTexts_self`, `uniteTexts_uniteTexts`): texts that are in the baseline
  already change nothing (`uniteTexts_of_subset`).
- **Keyed lists** (`DistinctKeys.repeatable`): a list whose keys are distinct is repeatable if its
  entries are and merging keeps keys (`KeepsKey`). What `byKey` finds is the last entry with the
  key (`lastOf?`, `get?_byKey`).
-/

namespace ReplicaControl

/-- `override` changes nothing when `lay` puts it over itself, or over a baseline for a second time.
-/
structure Repeatable {α : Type} (lay : α → α → α) (override : α) : Prop where
  self : lay override override = override
  again (base : α) : lay (lay base override) override = lay base override

/-- What `prefer` took from an override it takes again. -/
@[simp] theorem prefer_prefer_left {α : Type} [Vacant α] (base override : α) :
    prefer base (prefer base override) = prefer base override := by
  by_cases h : isVacant override
  · simp [(isVacant_iff override).mp h]
  · simp [prefer, h]

theorem vacant_prefer {α : Type} [Vacant α] (override : α) : prefer vacant override = override := by
  by_cases h : isVacant override
  · simp [(isVacant_iff override).mp h]
  · simp [prefer, h]

theorem Repeatable.option {α : Type} [Merge α] {override : Option α}
    (h : ∀ o ∈ override, Repeatable merge o) : Repeatable merge override := by
  cases override with
  | none => exact ⟨rfl, fun base => by cases base <;> rfl⟩
  | some o =>
    have ho := h o rfl
    refine ⟨congrArg some ho.self, fun base => ?_⟩
    cases base with
    | none => exact congrArg some ho.self
    | some b => exact congrArg some (ho.again b)

/-! ## Sets of texts -/

section Repetitions

variable {α : Type} [BEq α]

theorem eraseReps_loop (a : α) (as done : List α) :
    List.eraseRepsBy.loop (· == ·) a as done = done.reverse ++ (a :: as).eraseReps := by
  rw [List.eraseReps, List.eraseRepsBy]
  induction as generalizing a done with
  | nil => simp [List.eraseRepsBy.loop]
  | cons b as ih =>
    simp only [List.eraseRepsBy.loop]
    split
    · exact ih a done
    · rw [ih b (a :: done), ih b [a]]
      simp

/-- `eraseReps` leaves the first of two equal entries in a row. -/
theorem eraseReps_cons_cons (a b : α) (as : List α) :
    (a :: b :: as).eraseReps =
      if a == b then (a :: as).eraseReps else a :: (b :: as).eraseReps := by
  show List.eraseRepsBy.loop _ a (b :: as) [] = _
  rw [List.eraseRepsBy.loop]
  cases a == b
  · exact eraseReps_loop b as [a]
  · rfl

/-- `eraseReps` drops no entry altogether. -/
theorem mem_eraseReps [LawfulBEq α] {x : α} {as : List α} : x ∈ as.eraseReps ↔ x ∈ as := by
  cases as with
  | nil => rfl
  | cons a as =>
    induction as generalizing a with
    | nil => rfl
    | cons b as ih =>
      rw [eraseReps_cons_cons]
      split
      · rename_i hab
        obtain rfl := eq_of_beq hab
        simp [ih]
      · simp [ih]

end Repetitions

theorem mem_uniteTexts {base override : List String} {t : String} (h : t ∈ override) :
    t ∈ uniteTexts base override := by
  refine List.mem_merge.mpr ?_
  by_cases hb : t ∈ base
  · exact .inl hb
  · exact .inr (mem_eraseReps.mpr (by simp [h, hb]))

/-- `uniteTexts` adds nothing if the baseline has all texts of the override. -/
theorem uniteTexts_of_subset {base override : List String} (h : override ⊆ base) :
    uniteTexts base override = base := by
  have hnone : override.filter (!base.contains ·) = [] := by
    refine List.filter_eq_nil_iff.mpr fun t ht => ?_
    simpa using h ht
  rw [uniteTexts, hnone]
  simp [List.eraseReps, List.eraseRepsBy]

@[simp] theorem uniteTexts_self (ts : List String) : uniteTexts ts ts = ts :=
  uniteTexts_of_subset (List.Subset.refl _)

@[simp] theorem uniteTexts_uniteTexts (base override : List String) :
    uniteTexts (uniteTexts base override) override = uniteTexts base override :=
  uniteTexts_of_subset fun _ => mem_uniteTexts

/-! ## Lists of entries with keys -/

/-- No two entries of `as` have the same `key`. -/
def DistinctKeys {α κ : Type} (key : α → κ) (as : List α) : Prop := (as.map key).Nodup

instance {α κ : Type} [DecidableEq κ] (key : α → κ) (as : List α) :
    Decidable (DistinctKeys key as) :=
  inferInstanceAs (Decidable (as.map key).Nodup)

/-- The last entry of `as` that has the key `k`: the one that `byKey` keeps. -/
def lastOf? {α κ : Type} [DecidableEq κ] (key : α → κ) (as : List α) (k : κ) : Option α :=
  as.reverse.find? (key · == k)

section LastOf

variable {α κ : Type} [DecidableEq κ] {key : α → κ} {as : List α} {k : κ}

theorem key_of_lastOf? {a : α} (h : lastOf? key as k = some a) : key a = k ∧ a ∈ as :=
  ⟨by simpa using List.find?_some h, List.mem_reverse.mp (List.mem_of_find?_eq_some h)⟩

theorem lastOf?_eq_none_iff : lastOf? key as k = none ↔ k ∉ as.map key := by
  simp [lastOf?]

theorem lastOf?_concat (key : α → κ) (as : List α) (a : α) (k : κ) :
    lastOf? key (as ++ [a]) k = if key a = k then some a else lastOf? key as k := by
  by_cases h : key a = k <;> simp [lastOf?, h]

end LastOf

section Keyed

variable {α κ : Type} [Ord κ] [Std.TransOrd κ] [Std.LawfulEqOrd κ] [DecidableEq κ]
  {key : α → κ} {base override : List α}

/-- `byKey` finds the last entry that has the key. -/
theorem get?_byKey (key : α → κ) (as : List α) (k : κ) :
    (byKey key as).get? k = lastOf? key as k := by
  rw [byKey, Dict.get?_ofList, lastOf?, ← List.map_reverse]
  induction as.reverse with
  | nil => rfl
  | cons a as ih =>
    rw [List.map_cons, List.lookup_cons, List.find?_cons, BEq.comm (a := k), ih]

theorem key_of_get?_byKey {k : κ} {o : α} (h : (byKey key override).get? k = some o) :
    key o = k ∧ o ∈ override :=
  key_of_lastOf? ((get?_byKey key override k).symm.trans h)

theorem mem_addedEntries {o : α} : o ∈ addedEntries key base override ↔
    (byKey key override).get? (key o) = some o ∧ ∀ a ∈ base, key a ≠ key o := by
  have hvalues : o ∈ (byKey key override).values ↔ (byKey key override).get? (key o) = some o := by
    rw [Dict.values, List.mem_map]
    constructor
    · rintro ⟨⟨k, _⟩, hmem, rfl⟩
      have hget := Dict.get?_eq_some_iff.mpr hmem
      rwa [(key_of_get?_byKey hget).1]
    · exact fun hget => ⟨(key o, o), Dict.get?_eq_some_iff.mp hget, rfl⟩
  simp [addedEntries, hvalues]

variable [Merge α]

/-- `mergeKeyed` changes nothing if the baseline has every key of the override (`hadded`), and
merging with an override leaves the entry as it is (`hmatched`). -/
theorem mergeKeyed_eq_self
    (hadded : ∀ o, (byKey key override).get? (key o) = some o → ∃ a ∈ base, key a = key o)
    (hmatched : ∀ a ∈ base, ∀ o, (byKey key override).get? (key a) = some o → merge a o = a) :
    mergeKeyed key base override = base := by
  have hnone : addedEntries key base override = [] := by
    refine List.eq_nil_iff_forall_not_mem.mpr fun o ho => ?_
    obtain ⟨hget, hne⟩ := mem_addedEntries.mp ho
    obtain ⟨a, ha, hk⟩ := hadded o hget
    exact hne a ha hk
  have hid : mergeMatched key base override = base := by
    refine (List.map_congr_left fun a ha => ?_).trans (List.map_id base)
    cases hget : (byKey key override).get? (key a) with
    | none => rfl
    | some o => exact hmatched a ha o hget
  rw [mergeKeyed, hnone, hid, List.merge_right]

@[simp] theorem mergeKeyed_nil (base : List α) : mergeKeyed key base [] = base := by
  refine mergeKeyed_eq_self (fun o h => ?_) fun a _ o h => ?_
  · cases (key_of_get?_byKey h).2
  · cases (key_of_get?_byKey h).2

omit [Std.LawfulEqOrd κ] [DecidableEq κ] in
/-- An entry of `mergeKeyed` is one of the baseline without override, one merged with its override,
or one of `addedEntries`. -/
theorem mem_mergeKeyed {e : α} : e ∈ mergeKeyed key base override ↔
    (e ∈ base ∧ (byKey key override).get? (key e) = none) ∨
    (∃ a ∈ base, ∃ o, (byKey key override).get? (key a) = some o ∧ merge a o = e) ∨
    e ∈ addedEntries key base override := by
  rw [mergeKeyed, List.mem_merge, mergeMatched, List.mem_map, ← or_assoc]
  refine or_congr_left ?_
  constructor
  · rintro ⟨a, ha, he⟩
    split at he
    · rename_i o hget
      exact .inr ⟨a, ha, o, hget, he⟩
    · rename_i hget
      exact .inl ⟨he ▸ ha, he ▸ hget⟩
  · rintro (⟨he, hget⟩ | ⟨a, ha, o, hget, he⟩)
    · exact ⟨e, he, by simp [hget]⟩
    · exact ⟨a, ha, by simp [hget, he]⟩

/-- `merge` of two entries with the same key has that key. -/
def KeepsKey (key : α → κ) : Prop := ∀ a o : α, key a = key o → key (merge a o) = key o

/-- An override with distinct keys is repeatable by `mergeKeyed` if all its entries are by `merge`.
-/
theorem DistinctKeys.repeatable (hdistinct : DistinctKeys key override)
    (hkey : KeepsKey key) (hentries : ∀ o ∈ override, Repeatable merge o) :
    Repeatable (mergeKeyed key) override where
  self := by
    refine mergeKeyed_eq_self (fun o hget => ?_) fun a ha o hget => ?_
    · exact ⟨o, (key_of_get?_byKey hget).2, rfl⟩
    · obtain ⟨hk, ho⟩ := key_of_get?_byKey hget
      obtain rfl : o = a := List.inj_on_of_nodup_map hdistinct ho ha hk
      exact (hentries o ho).self
  again base := by
    refine mergeKeyed_eq_self (fun o hget => ?_) fun e he o hget => ?_
    -- The key of an override is in the list already: its entry was matched, or added, the first
    -- time.
    · by_cases h : ∃ a ∈ base, key a = key o
      · obtain ⟨a, ha, hk⟩ := h
        exact ⟨merge a o, mem_mergeKeyed.mpr (.inr (.inl ⟨a, ha, o, hk ▸ hget, rfl⟩)), hkey a o hk⟩
      · have hadded := mem_addedEntries.mpr ⟨hget, fun a ha hk => h ⟨a, ha, hk⟩⟩
        exact ⟨o, mem_mergeKeyed.mpr (.inr (.inr hadded)), rfl⟩
    · -- An entry that the first merge left alone has no override; the others have met theirs.
      obtain ⟨-, hnone⟩ | ⟨a, ha, o', hget', rfl⟩ | hadded := mem_mergeKeyed.mp he
      · simp [hnone] at hget
      · obtain ⟨hk, ho⟩ := key_of_get?_byKey hget'
        rw [hkey a o' hk.symm, hk, hget'] at hget
        cases hget
        exact (hentries o ho).again a
      · rw [(mem_addedEntries.mp hadded).1] at hget
        cases hget
        exact (hentries e (key_of_get?_byKey (mem_addedEntries.mp hadded).1).2).self

end Keyed

end ReplicaControl
