import Mathlib.Data.List.Nodup
import ReplicaControl.Dict

/-!
# Look-ups in dictionaries

A `Dict` is determined by its look-ups, and every operation is determined by what it does to them.

- **Look-ups** (`get?_eq_some_iff`): they find exactly the entries, and dictionaries with the same
  look-ups are equal (`ext_get?`).
- **Operations**: `get?_erase` for what an erasure changes, `get?_ofList` for the last entry of a
  key that counts, `get?_union` for the entries of an override that do.
- **Order** (`toList_ofList_perm`, `ofList_eq_of_perm`): a list with distinct keys has the same
  dictionary in any order.
- **Maps are merged** by `union`; `union_self` and `union_union` say that the same entries again
  change nothing (specification, section 4.3).
-/

namespace ReplicaControl.Dict

variable {κ α : Type}

/-- In a list with distinct keys `List.lookup` finds every entry. -/
theorem lookup_eq_some_iff_mem [DecidableEq κ] {l : List (κ × α)} (hl : (l.map (·.1)).Nodup) {k : κ}
    {a : α} : l.lookup k = some a ↔ (k, a) ∈ l := by
  constructor
  · intro h
    obtain ⟨l₁, l₂, rfl, -⟩ := List.lookup_eq_some_iff.mp h
    simp
  · intro h
    obtain ⟨l₁, l₂, rfl⟩ := List.append_of_mem h
    refine List.lookup_eq_some_iff.mpr ⟨l₁, l₂, rfl, fun e he => ?_⟩
    rw [List.map_append, List.nodup_append] at hl
    have hne := hl.2.2 e.1 (List.mem_map_of_mem he) k (by simp)
    simpa using Ne.symm hne

variable [Ord κ]

section Lookup

variable [Std.LawfulEqOrd κ]

theorem keys_nodup (d : Dict κ α) : d.keys.Nodup := by
  refine List.pairwise_map.mpr (d.ascending.imp fun {a b} h heq => ?_)
  rw [heq, Std.ReflOrd.compare_self] at h
  cases h

/-- A look-up finds exactly the entries. -/
theorem get?_eq_some_iff {d : Dict κ α} {k : κ} {a : α} :
    d.get? k = some a ↔ (k, a) ∈ d.toList := by
  unfold get?
  constructor
  · intro h
    obtain ⟨e, he, rfl⟩ := Option.map_eq_some_iff.mp h
    have hk := List.find?_some he
    simp only [beq_iff_eq, Std.LawfulEqOrd.compare_eq_iff_eq] at hk
    rw [hk]
    exact List.mem_of_find?_eq_some he
  · intro h
    cases hf : d.toList.find? fun e => compare k e.1 == .eq with
    | none => simpa using List.find?_eq_none.mp hf _ h
    | some e =>
      have hk := List.find?_some hf
      simp only [beq_iff_eq, Std.LawfulEqOrd.compare_eq_iff_eq] at hk
      have he : e = (k, a) :=
        List.inj_on_of_nodup_map d.keys_nodup (List.mem_of_find?_eq_some hf) h hk.symm
      rw [he, Option.map_some]

/-- `erase` changes the value at its own key only. -/
theorem get?_erase [Std.TransOrd κ] [DecidableEq κ] (d : Dict κ α) (k j : κ) :
    (d.erase k).get? j = if j = k then none else d.get? j := by
  refine Option.ext fun a => ?_
  rw [get?_eq_some_iff, erase, List.mem_filter]
  by_cases hj : j = k
  · simp [hj]
  · simp [hj, Ne.symm hj, ← get?_eq_some_iff]

end Lookup

section Ordered

variable [Std.TransOrd κ]

/-- Dictionaries with the same entries are equal: the order of `toList` is given by the keys. -/
theorem ext_mem {d e : Dict κ α} (h : ∀ x, x ∈ d.toList ↔ x ∈ e.toList) : d = e := by
  have ne_of_lt : ∀ x y : κ × α, compare x.1 y.1 = .lt → x ≠ y := by
    rintro x y hlt rfl
    rw [Std.ReflOrd.compare_self] at hlt
    cases hlt
  refine ext (List.Perm.eq_of_pairwise (fun a b _ _ hab hba => ?_) d.ascending e.ascending
    ((List.perm_ext_iff_of_nodup ?_ ?_).mpr h))
  · exact absurd hba (Std.OrientedCmp.not_lt_of_lt hab)
  · exact d.ascending.imp (ne_of_lt _ _)
  · exact e.ascending.imp (ne_of_lt _ _)

variable [Std.LawfulEqOrd κ]

/-- Dictionaries with the same `get?` are equal. -/
theorem ext_get? {d e : Dict κ α} (h : ∀ k, d.get? k = e.get? k) : d = e := by
  refine ext_mem fun x => ?_
  rw [← get?_eq_some_iff (k := x.1), ← get?_eq_some_iff (k := x.1), h]

variable [DecidableEq κ]

/-- Insertions one after the other: the last one of a key counts, so the list is searched in
`reverse`. -/
theorem get?_foldl_insert (l : List (κ × α)) (d : Dict κ α) (k : κ) :
    (l.foldl (fun d e => d.insert e.1 e.2) d).get? k = (l.reverse.lookup k).or (d.get? k) := by
  induction l generalizing d with
  | nil => rfl
  | cons e r ih =>
    have he : [e].lookup k = if k = e.1 then some e.2 else none := by
      obtain ⟨j, a⟩ := e
      by_cases hk : k = j <;> simp [hk]
    rw [List.foldl_cons, ih, get?_insert, List.reverse_cons, List.lookup_append, Option.or_assoc, he]
    split <;> rfl

theorem get?_ofList (l : List (κ × α)) (k : κ) : (ofList l).get? k = l.reverse.lookup k := by
  rw [ofList, get?_foldl_insert, get?_empty, Option.or_none]

/-- In `ofList l` every entry of a list with distinct keys counts. -/
theorem get?_ofList_eq_some_iff {l : List (κ × α)} (hl : (l.map (·.1)).Nodup) {k : κ} {a : α} :
    (ofList l).get? k = some a ↔ (k, a) ∈ l := by
  have hreverse : (l.reverse.map (·.1)).Nodup := by
    rw [List.map_reverse]
    exact List.nodup_reverse.mpr hl
  rw [get?_ofList, lookup_eq_some_iff_mem hreverse, List.mem_reverse]

/-- The entries of `ofList l` are entries of `l`. -/
theorem mem_of_mem_toList_ofList {l : List (κ × α)} {e : κ × α} (h : e ∈ (ofList l).toList) :
    e ∈ l := by
  have hlookup := get?_eq_some_iff.mpr h
  rw [get?_ofList] at hlookup
  obtain ⟨l₁, l₂, hl, -⟩ := List.lookup_eq_some_iff.mp hlookup
  have hmem : e ∈ l.reverse := by rw [hl]; simp
  exact List.mem_reverse.mp hmem

/-- `ofList l` has the entries of a list with distinct keys, in another order perhaps. -/
theorem toList_ofList_perm {l : List (κ × α)} (hl : (l.map (·.1)).Nodup) :
    (ofList l).toList.Perm l := by
  refine (List.perm_ext_iff_of_nodup (ofList l).keys_nodup.of_map hl.of_map).mpr fun e => ?_
  rw [← get?_ofList_eq_some_iff hl, ← get?_eq_some_iff]

/-- `d` is the dictionary of its entries in any order. -/
theorem ofList_eq_of_perm {d : Dict κ α} {l : List (κ × α)} (h : l.Perm d.toList) :
    ofList l = d := by
  have hl : (l.map (·.1)).Nodup := (h.map _).nodup_iff.mpr d.keys_nodup
  exact ext_mem fun e => ((toList_ofList_perm hl).trans h).mem_iff

theorem get?_ofList_eq_none_iff {l : List (κ × α)} {k : κ} :
    (ofList l).get? k = none ↔ k ∉ l.map (·.1) := by
  rw [get?_ofList, List.lookup_eq_none_iff]
  simp only [List.mem_reverse, bne_iff_ne, ne_eq, List.mem_map, not_exists, not_and]
  exact ⟨fun h x hx hk => h x hx hk.symm, fun h x hx hk => h x hx hk.symm⟩

/-- In a union the entries of `override` count. -/
@[simp] theorem get?_union (base override : Dict κ α) (k : κ) :
    (base.union override).get? k = (override.get? k).or (base.get? k) := by
  have h : override.toList.reverse.lookup k = override.get? k := by
    rw [← get?_ofList, ofList_toList]
  rw [union, get?_foldl_insert, h]

@[simp] theorem union_self (d : Dict κ α) : d.union d = d := by
  refine ext_get? fun k => ?_
  rw [get?_union]
  cases d.get? k <;> rfl

@[simp] theorem union_union (base override : Dict κ α) :
    (base.union override).union override = base.union override := by
  refine ext_get? fun k => ?_
  simp only [get?_union]
  cases override.get? k <;> rfl

end Ordered

@[simp] theorem union_empty [Std.TransOrd κ] (d : Dict κ α) : d.union empty = d := rfl

end ReplicaControl.Dict
