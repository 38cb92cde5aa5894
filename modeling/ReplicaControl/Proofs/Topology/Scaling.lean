import Mathlib.Logic.Function.Iterate
import ReplicaControl.Topology.Scaling

/-!
# Scaling goes one member at a time

A pass starts from the number of members that the pass before it ran (specification, section 10.2).
Only a set without members jumps to its full size. A set that has members loses the last one only
where none are desired, so a run makes no jump, and takes as many passes as members are missing or
left over.

- `toInt_nextMembers`: 32 bits hold the next number, whatever the two numbers are.
- `Underway`: what every pass of a run starts from. `Underway.nextMembers_cases`: where it goes.
- `distance_membersAfter`: how far a run is from the desired number after any number of passes.
- `scales_one_at_a_time`: how long a run takes, and when it is said to be scaling.
-/

namespace ReplicaControl.Scaling

variable {current desired : Int32}

/-! ## One pass -/

/-- The rule of `nextMembers` for numbers of any size. -/
def nextCount (current desired : Int) : Int :=
  if current = 0 ∨ current = desired then desired
  else if desired < current then current - 1
  else current + 1

theorem toInt_sub_one (h : desired < current) : (current - 1).toInt = current.toInt - 1 := by
  have hdesired := desired.le_toInt
  have hcurrent := current.toInt_lt
  rw [Int32.lt_iff_toInt_lt] at h
  rw [Int32.toInt_sub, Int32.toInt_one]
  exact Int.bmod_eq_of_le (by omega) (by omega)

theorem toInt_add_one (h : current < desired) : (current + 1).toInt = current.toInt + 1 := by
  have hcurrent := current.le_toInt
  have hdesired := desired.toInt_lt
  rw [Int32.lt_iff_toInt_lt] at h
  rw [Int32.toInt_add, Int32.toInt_one]
  exact Int.bmod_eq_of_le (by omega) (by omega)

theorem eq_zero_iff_toInt : current = 0 ↔ current.toInt = 0 := by
  rw [← Int32.toInt_inj, Int32.toInt_zero]

/-- 32 bits hold `nextMembers`: a number is lowered only if another one is less, and raised only if
another one is greater. -/
theorem toInt_nextMembers (current desired : Int32) :
    (nextMembers current desired).toInt = nextCount current.toInt desired.toInt := by
  have hjump : (current = 0 ∨ current = desired) ↔
      (current.toInt = 0 ∨ current.toInt = desired.toInt) := by
    rw [eq_zero_iff_toInt, Int32.toInt_inj]
  unfold nextMembers nextCount
  by_cases h : current = 0 ∨ current = desired
  · rw [if_pos h, if_pos (hjump.mp h)]
  · have hcount := mt hjump.mpr h
    rw [if_neg h, if_neg hcount]
    -- A step down stays at `desired` or above it, a step up at it or below: neither overflows.
    by_cases hless : desired < current
    · rw [if_pos hless, if_pos (Int32.lt_iff_toInt_lt.mp hless)]
      exact toInt_sub_one hless
    · rw [if_neg hless, if_neg (mt Int32.lt_iff_toInt_lt.mpr hless)]
      have hgreater : current < desired := by
        rw [Int32.lt_iff_toInt_lt] at hless ⊢
        omega
      exact toInt_add_one hgreater

/-- A set has members, or `desired` of them, even if that is none. -/
def Underway (current desired : Int32) : Prop := 1 ≤ current ∨ current = desired

/-- The next number is one closer to `desired`, which is followed by itself. -/
theorem Underway.nextMembers_cases (h : Underway current desired) :
    (current.toInt < desired.toInt ∧
      (nextMembers current desired).toInt = current.toInt + 1) ∨
    (current.toInt = desired.toInt ∧ (nextMembers current desired).toInt = current.toInt) ∨
    (desired.toInt < current.toInt ∧
      (nextMembers current desired).toInt = current.toInt - 1) := by
  have hcurrent : 1 ≤ current.toInt ∨ current.toInt = desired.toInt :=
    h.imp Int32.le_iff_toInt_le.mp Int32.toInt_inj.mpr
  rw [toInt_nextMembers, nextCount]
  rcases Int.lt_trichotomy current.toInt desired.toInt with hlt | heq | hgt
  · rw [if_neg (by omega), if_neg (by omega)]
    exact .inl ⟨hlt, rfl⟩
  · rw [if_pos (.inr heq), heq]
    exact .inr (.inl ⟨rfl, rfl⟩)
  · rw [if_neg (by omega), if_pos hgt]
    exact .inr (.inr ⟨hgt, rfl⟩)

theorem Underway.toInt_nextMembers (h : Underway current desired) :
    (nextMembers current desired).toInt =
      current.toInt + (desired.toInt - current.toInt).sign := by
  obtain ⟨hlt, hnext⟩ | ⟨heq, hnext⟩ | ⟨hgt, hnext⟩ := h.nextMembers_cases
  · rw [hnext, Int.sign_eq_one_of_pos (by omega)]
  · rw [hnext, heq, Int.sub_self, Int.sign_zero, Int.add_zero]
  · rw [hnext, Int.sign_eq_neg_one_of_neg (by omega), Int.sub_eq_add_neg]

/-- `Underway` is kept: a pass takes the last member only if none are desired. -/
theorem Underway.next (h : Underway current desired) (hdesired : 0 ≤ desired) :
    Underway (nextMembers current desired) desired := by
  have hnext := h.nextMembers_cases
  rw [Int32.le_iff_toInt_le, Int32.toInt_zero] at hdesired
  rw [Underway, Int32.le_iff_toInt_le, Int32.toInt_one, ← Int32.toInt_inj] at h ⊢
  omega

/-- How many members are missing from `desired` or left over. -/
def distance (current desired : Int32) : Nat := (desired.toInt - current.toInt).natAbs

theorem distance_eq_zero_iff : distance current desired = 0 ↔ current = desired := by
  rw [distance, Int.natAbs_eq_zero, Int.sub_eq_zero, Int32.toInt_inj, eq_comm]

theorem Underway.distance_nextMembers (h : Underway current desired) :
    distance (nextMembers current desired) desired = distance current desired - 1 := by
  have hnext := h.nextMembers_cases
  rw [distance, distance]
  omega

/-! ## Runs of passes -/

/-- The number of members after `passes`, each of which starts from the number before it. -/
def membersAfter (current desired : Int32) (passes : Nat) : Int32 :=
  (nextMembers · desired)^[passes] current

theorem membersAfter_succ (current desired : Int32) (passes : Nat) :
    membersAfter current desired (passes + 1) =
      nextMembers (membersAfter current desired passes) desired :=
  Function.iterate_succ_apply' _ _ _

theorem Underway.membersAfter (h : Underway current desired) (hdesired : 0 ≤ desired)
    (passes : Nat) : Underway (membersAfter current desired passes) desired := by
  induction passes with
  | zero => exact h
  | succ passes ih =>
    rw [membersAfter_succ]
    exact ih.next hdesired

/-- Every pass lowers `distance` by one, until there is none. -/
theorem distance_membersAfter (h : Underway current desired) (hdesired : 0 ≤ desired)
    (passes : Nat) :
    distance (membersAfter current desired passes) desired = distance current desired - passes := by
  induction passes with
  | zero => rfl
  | succ passes ih =>
    rw [membersAfter_succ, (h.membersAfter hdesired passes).distance_nextMembers, ih, Nat.sub_sub]

theorem membersAfter_eq_iff (h : Underway current desired) (hdesired : 0 ≤ desired)
    (passes : Nat) :
    membersAfter current desired passes = desired ↔ distance current desired ≤ passes := by
  rw [← distance_eq_zero_iff, distance_membersAfter h hdesired, Nat.sub_eq_zero_iff_le]

/-- The next number never overflows. A set that has members has as many as desired after as many
passes as the two numbers differ by (`distance`), and no sooner; each of these passes adds or takes
one member. It is said to be scaling in all of them but the last, and not in any later pass. -/
theorem scales_one_at_a_time :
    (∀ current desired : Int32,
      (nextMembers current desired).toInt = nextCount current.toInt desired.toInt) ∧
    ∀ {current desired : Int32}, 1 ≤ current → 0 ≤ desired → ∀ passes : Nat,
      (membersAfter current desired passes = desired ↔ distance current desired ≤ passes) ∧
      (membersAfter current desired (passes + 1)).toInt =
        (membersAfter current desired passes).toInt +
          (desired.toInt - (membersAfter current desired passes).toInt).sign ∧
      (isScaling (membersAfter current desired passes) desired = true ↔
        passes + 1 < distance current desired) := by
  refine ⟨toInt_nextMembers, fun {current desired} hcurrent hdesired passes => ?_⟩
  have h : Underway current desired := .inl hcurrent
  refine ⟨membersAfter_eq_iff h hdesired passes, ?_, ?_⟩
  · rw [membersAfter_succ]
    exact (h.membersAfter hdesired passes).toInt_nextMembers
  · rw [isScaling, ← membersAfter_succ, bne_iff_ne, Ne, membersAfter_eq_iff h hdesired, Nat.not_le]

/-- Three members go, one in each pass. -/
theorem scales_one_at_a_time_down :
    (1 : Int32) ≤ 3 ∧ (0 : Int32) ≤ 0 ∧ membersAfter 3 0 3 = 0 ∧ membersAfter 3 0 2 ≠ 0 ∧
      isScaling (membersAfter 3 0 1) 0 = true ∧ isScaling (membersAfter 3 0 2) 0 = false := by
  have hcurrent : (1 : Int32) ≤ 3 := by decide
  have hdesired : (0 : Int32) ≤ 0 := by decide
  have hrun := scales_one_at_a_time.2 hcurrent hdesired
  refine ⟨hcurrent, hdesired, (hrun 3).1.mpr (by decide), ?_, ?_, ?_⟩
  · exact mt (hrun 2).1.mp (by decide)
  · exact (hrun 1).2.2.mpr (by decide)
  · exact Bool.eq_false_iff.mpr (mt (hrun 2).2.2.mp (by decide))

end ReplicaControl.Scaling
