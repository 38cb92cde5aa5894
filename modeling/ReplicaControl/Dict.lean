/-!
# Vacant values

A field that was not given holds the *vacant* value of its type: the empty text, zero, `false`,
the empty list, `none`. Writers leave vacant fields out, and an override with a vacant field keeps
what it is laid over (specification, sections 4.3 and 10.1).

- `Vacant`: the class, with a test for the vacant value.
- `prefer`: the merge of scalars. `prefer_vacant`, `prefer_self` and `prefer_prefer` are the laws
  that every other merge inherits.
-/

namespace ReplicaControl

/-- A type with one value that stands for "not given". -/
class Vacant (α : Type) where
  /-- The value of a field that was not given. -/
  vacant : α
  /-- Whether a value is `vacant`. -/
  isVacant : α → Bool
  isVacant_iff : ∀ a, isVacant a = true ↔ a = vacant

export Vacant (vacant isVacant isVacant_iff)

attribute [simp] isVacant_iff

section

variable {α : Type} [Vacant α]

@[simp] theorem isVacant_vacant : isVacant (vacant : α) = true :=
  (isVacant_iff _).mpr rfl

/-- `override`, unless it is vacant: an override wins only if it is not empty. -/
def prefer (base override : α) : α := if isVacant override then base else override

@[simp] theorem prefer_vacant (base : α) : prefer base vacant = base := by
  simp [prefer]

@[simp] theorem prefer_self (a : α) : prefer a a = a := by
  simp [prefer]

@[simp] theorem prefer_prefer (base override : α) :
    prefer (prefer base override) override = prefer base override := by
  unfold prefer
  split <;> rfl

end

namespace Vacant

/-- The chosen value `a` as the vacant one, recognised by decidable equality. -/
@[reducible]
def ofDecidableEq {α : Type} [DecidableEq α] (a : α) : Vacant α where
  vacant := a
  isVacant b := decide (b = a)
  isVacant_iff := by simp

instance : Vacant String := ofDecidableEq ""
instance : Vacant Bool := ofDecidableEq false
instance : Vacant UInt16 := ofDecidableEq 0
instance : Vacant UInt32 := ofDecidableEq 0
instance : Vacant UInt64 := ofDecidableEq 0
instance : Vacant Int32 := ofDecidableEq 0
instance : Vacant Int64 := ofDecidableEq 0

instance {α : Type} : Vacant (Option α) where
  vacant := none
  isVacant := Option.isNone
  isVacant_iff := by simp

instance {α : Type} : Vacant (List α) where
  vacant := []
  isVacant := List.isEmpty
  isVacant_iff := by simp

end Vacant

/-!
## Dictionaries in key order

A `Dict κ α` holds its entries in strictly ascending key order, so two dictionaries with the same
look-ups are equal, and `Dict.toList` is the order in which they are written. Documents and secrets
are the same byte for byte whatever the order in which their entries came (sections 3 and 10.1).

- `Dict.get?_insert`: what an insertion changes.
- `Dict.ofList_toList`: a dictionary is the dictionary of its own entries.
-/

/-- Pairs are compared by their first components, then by their second: a namespace, then a name. -/
instance Dict.pairOrder {α β : Type} [Ord α] [Ord β] : Ord (α × β) := lexOrd

/-- Entries in strictly ascending key order. -/
structure Dict (κ : Type) (α : Type) [Ord κ] where
  toList : List (κ × α) := []
  ascending : toList.Pairwise fun a b => compare a.1 b.1 = .lt := by exact .nil

namespace Dict

variable {κ α : Type} [Ord κ]

@[ext] theorem ext {d e : Dict κ α} (h : d.toList = e.toList) : d = e := by
  cases d
  cases e
  cases h
  rfl

instance [DecidableEq κ] [DecidableEq α] : DecidableEq (Dict κ α) := fun d e =>
  decidable_of_decidable_of_iff (p := d.toList = e.toList) ⟨ext, fun h => h ▸ rfl⟩

def empty : Dict κ α := {}

def isEmpty (d : Dict κ α) : Bool := d.toList.isEmpty

def keys (d : Dict κ α) : List κ := d.toList.map (·.1)

/-- The values of `d`, in the order of their keys. -/
def values (d : Dict κ α) : List α := d.toList.map (·.2)

/-- The value of `d` at the key `k`. -/
def get? (d : Dict κ α) (k : κ) : Option α :=
  (d.toList.find? fun e => compare k e.1 == .eq).map (·.2)

def contains (d : Dict κ α) (k : κ) : Bool := (d.get? k).isSome

instance : Vacant (Dict κ α) where
  vacant := empty
  isVacant := isEmpty
  isVacant_iff d := by
    constructor
    · intro h
      exact ext (by simpa [isEmpty, empty] using h)
    · rintro rfl
      rfl

@[simp] theorem get?_empty (k : κ) : (empty : Dict κ α).get? k = none := rfl

/-- Sets the value at `k` of the ascending list `l`, keeping it ascending. -/
def insertEntry (k : κ) (a : α) : List (κ × α) → List (κ × α)
  | [] => [(k, a)]
  | e :: r =>
    match compare k e.1 with
    | .lt => (k, a) :: e :: r
    | .eq => (k, a) :: r
    | .gt => e :: insertEntry k a r

theorem mem_insertEntry {k : κ} {a : α} {l : List (κ × α)} {x : κ × α}
    (h : x ∈ insertEntry k a l) : x = (k, a) ∨ x ∈ l := by
  induction l with
  | nil => simpa [insertEntry] using h
  | cons e r ih =>
    unfold insertEntry at h
    split at h
    · simpa using h
    · rcases List.mem_cons.mp h with h | h
      · exact .inl h
      · exact .inr (List.mem_cons_of_mem _ h)
    · rcases List.mem_cons.mp h with h | h
      · exact .inr (h ▸ List.mem_cons_self)
      · exact (ih h).imp_right (List.mem_cons_of_mem _)

theorem find?_insertEntry [Std.LawfulEqOrd κ] [DecidableEq κ] (k j : κ) (a : α) (l : List (κ × α)) :
    ((insertEntry k a l).find? fun e => compare j e.1 == .eq) =
      if j = k then some (k, a) else l.find? fun e => compare j e.1 == .eq := by
  induction l with
  | nil => by_cases hj : j = k <;> simp [insertEntry, hj]
  | cons e r ih =>
    unfold insertEntry
    split
    · by_cases hj : j = k <;> simp [List.find?_cons, hj]
    · next hk =>
      have hk : k = e.1 := by simpa using hk
      by_cases hj : j = k
      · simp [hj]
      · have : j ≠ e.1 := hk ▸ hj
        simp [hj, this]
    · next hk =>
      rw [List.find?_cons, ih, List.find?_cons]
      by_cases hj : j = k
      · subst hj
        simp [hk]
      · simp [hj]

section Ordered

variable [Std.TransOrd κ]

theorem ascending_insertEntry (k : κ) (a : α) {l : List (κ × α)}
    (h : l.Pairwise fun a b => compare a.1 b.1 = .lt) :
    (insertEntry k a l).Pairwise fun a b => compare a.1 b.1 = .lt := by
  induction l with
  | nil => simp [insertEntry]
  | cons e r ih =>
    obtain ⟨he, hr⟩ := List.pairwise_cons.mp h
    unfold insertEntry
    split
    · next hk =>
      refine List.pairwise_cons.mpr ⟨fun x hx => ?_, h⟩
      rcases List.mem_cons.mp hx with rfl | hx
      · exact hk
      · exact Std.TransCmp.lt_trans hk (he x hx)
    · next hk =>
      refine List.pairwise_cons.mpr ⟨fun x hx => ?_, hr⟩
      exact Std.TransCmp.lt_of_eq_of_lt hk (he x hx)
    · next hk =>
      refine List.pairwise_cons.mpr ⟨fun x hx => ?_, ih hr⟩
      rcases mem_insertEntry hx with rfl | hx
      · exact Std.OrientedCmp.lt_of_gt hk
      · exact he x hx

/-- `d` with the value at `k` set to `a`. -/
def insert (d : Dict κ α) (k : κ) (a : α) : Dict κ α :=
  ⟨insertEntry k a d.toList, ascending_insertEntry k a d.ascending⟩

/-- The dictionary of the entries `l`; the last entry of a key counts. -/
def ofList (l : List (κ × α)) : Dict κ α := l.foldl (fun d e => d.insert e.1 e.2) empty

/-- The entries of `base` and `override`, those of `override` where both have a key. -/
def union (base override : Dict κ α) : Dict κ α :=
  override.toList.foldl (fun d e => d.insert e.1 e.2) base

/-- `d` without the key `k`. -/
def erase (d : Dict κ α) (k : κ) : Dict κ α :=
  ⟨d.toList.filter fun e => compare k e.1 != .eq, d.ascending.filter _⟩

/-- `insert` changes the value at its own key only. -/
theorem get?_insert [Std.LawfulEqOrd κ] [DecidableEq κ] (d : Dict κ α) (k j : κ) (a : α) :
    (d.insert k a).get? j = if j = k then some a else d.get? j := by
  unfold get? insert
  simp only [find?_insertEntry]
  split <;> rfl

/-- An entry above every other one is put last, so that `ofList` of an ascending list appends. -/
theorem insertEntry_append {l : List (κ × α)} {e : κ × α}
    (h : ∀ x ∈ l, compare x.1 e.1 = .lt) : insertEntry e.1 e.2 l = l ++ [e] := by
  induction l with
  | nil => rfl
  | cons x r ih =>
    have hx : compare e.1 x.1 = .gt := Std.OrientedCmp.gt_of_lt (h x List.mem_cons_self)
    simp [insertEntry, hx, ih fun y hy => h y (List.mem_cons_of_mem _ hy)]

theorem toList_foldl_insert (l : List (κ × α)) (d : Dict κ α)
    (h : (d.toList ++ l).Pairwise fun a b => compare a.1 b.1 = .lt) :
    (l.foldl (fun d e => d.insert e.1 e.2) d).toList = d.toList ++ l := by
  induction l generalizing d with
  | nil => simp
  | cons e r ih =>
    have hd : (d.insert e.1 e.2).toList = d.toList ++ [e] :=
      insertEntry_append fun x hx => (List.pairwise_append.mp h).2.2 x hx e List.mem_cons_self
    rw [List.foldl_cons, ih _ (by simpa [hd] using h), hd, List.append_assoc]
    rfl

/-- A dictionary is the dictionary of its own entries. -/
@[simp] theorem ofList_toList (d : Dict κ α) : ofList d.toList = d :=
  ext (by simpa [ofList, empty] using toList_foldl_insert d.toList empty d.ascending)

end Ordered

end Dict

end ReplicaControl
