import Mathlib.Data.List.Nodup
import ReplicaControl.Convergence
import ReplicaControl.Proofs.Dict
import ReplicaControl.Proofs.Text
import ReplicaControl.Topology.Build

/-!
# The names of pods

Members and arbiters of a replica set have distinct names: an ordinal is read back from its decimal
text, and no decimal text begins like the mark of an arbiter in `<name>-arb-<i>`. So the states of
pods are told apart by their names, `podNames_nodup`.
-/

namespace ReplicaControl

theorem Decimal.str_injective : Function.Injective Decimal.str := fun _ _ h =>
  Decimal.text_inj.mp (String.ofList_injective h)

/-- The text of a number begins with no letter. -/
theorem Decimal.text_ne_cons {c : Char} (hc : Digit.ofChar? c = none) (n : Nat) (cs : List Char) :
    Decimal.text n ≠ c :: cs := by
  intro h
  have hread := Decimal.read?_text n
  rw [h] at hread
  simp [Decimal.read?, Decimal.span, hc] at hread

variable {name : String}

theorem memberName_injective (name : String) : Function.Injective (memberName name) := by
  intro i j h
  exact Decimal.str_injective (String.append_right_inj _ |>.mp h)

theorem arbiterName_injective (name : String) : Function.Injective (arbiterName name) := by
  intro i j h
  exact Decimal.str_injective (String.append_right_inj _ |>.mp h)

/-- `memberName` and `arbiterName` have no text in common. -/
theorem memberName_ne_arbiterName (i j : Nat) : memberName name i ≠ arbiterName name j := by
  intro h
  have hlist := congrArg String.toList h
  simp only [memberName, arbiterName, Decimal.str, String.toList_append, List.append_assoc,
    String.toList_ofList] at hlist
  have htext : Decimal.text i = 'a' :: ['r', 'b', '-'] ++ Decimal.text j := by
    simpa using List.append_cancel_left hlist
  exact Decimal.text_ne_cons (by decide) i _ htext

/-- `podNames` of a replica set are distinct. -/
theorem podNames_nodup (name : String) (members arbiters : Nat) :
    ((List.range members).map (memberName name) ++
      (List.range arbiters).map (arbiterName name)).Nodup := by
  refine List.nodup_append.mpr ⟨List.nodup_range.map (memberName_injective name),
    List.nodup_range.map (arbiterName_injective name), fun a ha b hb => ?_⟩
  obtain ⟨i, -, rfl⟩ := List.mem_map.mp ha
  obtain ⟨j, -, rfl⟩ := List.mem_map.mp hb
  exact memberName_ne_arbiterName i j

/-!
## Reports of agents

What a pod's annotation says (specification, sections 4.5 and 6), and what the operator makes of it.

- **Texts** (`WritesVersion`, `reportedVersion?_eq_some_iff`): the reports that write a version; by
  `reportedVersion?_str` an agent that writes the decimal text of a version reports that version.
- **Pods** (`Cluster.reported?`, `Cluster.observed`): the version that a pod reports, and what is
  known of a pod whose look-up does not fail.
- **Look-ups** (`Cluster.podStatesOf_eq`, `Cluster.podStates_eq`): the first one that fails is the
  outcome; otherwise every pod is told as it is observed.
- **Agents at work** (`Cluster.report`, `Cluster.deletePod`, `Cluster.createPod`): which reports
  each of them changes.
-/

/-! ## The text of a report -/

theorem Digit.isBlank_toChar (d : Digit) : Text.isBlank d.toChar = false := by
  revert d
  decide

theorem Digit.toChar_ne_plus (d : Digit) : d.toChar ≠ '+' := by
  revert d
  decide

theorem isBlank_of_mem_signed {sign : List Char} {ds : List Digit}
    (hsign : sign = [] ∨ sign = ['+']) :
    ∀ c ∈ sign ++ ds.map Digit.toChar, Text.isBlank c = false := by
  intro c hc
  rcases List.mem_append.mp hc with hc | hc
  · rcases hsign with rfl | rfl
    · cases hc
    · rw [List.mem_singleton.mp hc]
      decide
  · obtain ⟨d, -, rfl⟩ := List.mem_map.mp hc
    exact d.isBlank_toChar

/-- `report` writes `v`: digits of that value, with an optional `+` before them and blanks around
them. -/
def WritesVersion (report : String) (v : UInt64) : Prop :=
  ∃ (before sign : List Char) (ds : List Digit) (after : List Char),
    report.toList = before ++ (sign ++ ds.map Digit.toChar) ++ after ∧
      (∀ c ∈ before, Text.isBlank c = true) ∧ (∀ c ∈ after, Text.isBlank c = true) ∧
      (sign = [] ∨ sign = ['+']) ∧ ds ≠ [] ∧ Decimal.value ds = v.toNat

/-- `reportedVersion?` reads the reports that write a version, as `WritesVersion` says. -/
theorem reportedVersion?_eq_some_iff {report : String} {v : UInt64} :
    reportedVersion? report = some v ↔ WritesVersion report v := by
  unfold reportedVersion?
  extract_lets digits
  have hread : Decimal.read? digits = some v.toNat ↔ ∃ ds : List Digit, ds ≠ [] ∧
      digits = ds.map Digit.toChar ∧ Decimal.value ds = v.toNat := Decimal.read?_eq_some_iff
  refine Iff.trans (b := Decimal.read? digits = some v.toNat) ?_ (hread.trans ?_)
  -- What is read fits 64 bits, as `v` does.
  · cases Decimal.read? digits with
    | none => simp
    | some n =>
      have hv : v.toNat < Nat.pow 2 64 := v.toNat_lt
      simp only [Option.ite_none_right_eq_some, Option.some.injEq]
      constructor
      · rintro ⟨hn, rfl⟩
        exact (UInt64.toNat_ofNat_of_lt hn).symm
      · rintro rfl
        exact ⟨hv, UInt64.ofNat_toNat⟩
  -- What is left is the text around the digits: blanks, and at most one sign.
  unfold digits
  constructor
  · rintro ⟨ds, hne, hds, hvalue⟩
    obtain ⟨before, after, htext, hbefore, hafter⟩ := Text.exists_eq_append_trim report.toList
    split at hds
    · next cs hplus =>
      rw [hplus, hds] at htext
      exact ⟨before, ['+'], ds, after, htext, hbefore, hafter, .inr rfl, hne, hvalue⟩
    · rw [hds] at htext
      exact ⟨before, [], ds, after, htext, hbefore, hafter, .inl rfl, hne, hvalue⟩
  · rintro ⟨before, sign, ds, after, htext, hbefore, hafter, hsign, hne, hvalue⟩
    refine ⟨ds, hne, ?_, hvalue⟩
    rw [htext, Text.trim_append hbefore (isBlank_of_mem_signed hsign) hafter]
    rcases hsign with rfl | rfl
    · obtain ⟨d, ds, rfl⟩ := List.exists_cons_of_ne_nil hne
      split
      · next hplus => exact absurd (List.cons.inj hplus).1 d.toChar_ne_plus
      · rfl
    · rfl

/-- An agent that writes the decimal text of `v` reports `v`. -/
@[simp] theorem reportedVersion?_str (v : UInt64) :
    reportedVersion? (Decimal.str v.toNat) = some v := by
  refine reportedVersion?_eq_some_iff.mpr ⟨[], [], Decimal.digits v.toNat, [], ?_, nofun, nofun,
    .inl rfl, Decimal.digits_ne_nil _, Decimal.value_digits _⟩
  simp [Decimal.str, Decimal.text]

namespace Cluster

variable (c : Cluster)

/-! ## What is known of pods -/

/-- The version that `pod` reports. -/
def reported? (namespaceName pod : String) : Option UInt64 :=
  ((c.pods.get? (namespaceName, pod)).bind (·.get? agentVersionKey)).bind reportedVersion?

/-- Whether `pod` exists. -/
def hasPod (namespaceName pod : String) : Bool := (c.pods.get? (namespaceName, pod)).isSome

/-- The fault of the look-up of `pod`. -/
def podFault? (namespaceName pod : String) : Option ClientError :=
  (c.podFailures.get? (namespaceName, pod)).map .api

/-- What is known of `pod` if its look-up does not fail. -/
def observed (namespaceName : String) (target : UInt64) (isArbiter : Bool) (pod : String) :
    PodState :=
  ⟨pod, c.hasPod namespaceName pod, c.reported? namespaceName pod == some target, isArbiter⟩

theorem podState_eq (namespaceName : String) (target : UInt64) (isArbiter : Bool) (pod : String) :
    c.podState namespaceName target isArbiter pod =
      match c.podFault? namespaceName pod with
      | some e => .error e
      | none => .ok (c.observed namespaceName target isArbiter pod) := by
  unfold podState pod? podFault? observed hasPod reported? Pod.hasReached
  cases c.podFailures.get? (namespaceName, pod) with
  | some message => rfl
  | none =>
    cases c.pods.get? (namespaceName, pod) with
    | none => rfl
    | some annotations =>
      cases h : annotations.get? agentVersionKey <;> simp [h]

/-- The first look-up that fails is the outcome; otherwise every pod is told as it is `observed`. -/
theorem podStatesOf_eq (namespaceName : String) (target : UInt64) (isArbiter : Bool)
    (pods : List String) :
    c.podStatesOf namespaceName target isArbiter pods =
      match pods.findSome? (c.podFault? namespaceName) with
      | some e => .error e
      | none => .ok (pods.map (c.observed namespaceName target isArbiter)) := by
  induction pods with
  | nil => rfl
  | cons pod pods ih =>
    rw [podStatesOf, podState_eq, List.findSome?_cons]
    cases c.podFault? namespaceName pod with
    | some e => rfl
    | none =>
      simp only [ih]
      cases pods.findSome? (c.podFault? namespaceName) <;> rfl

/-- `podStates` fails with the first look-up that fails, of the members and then of the arbiters. -/
theorem podStates_eq (namespaceName name : String) (members arbiters : Nat) (target : UInt64) :
    let memberPods := (List.range members).map (memberName name)
    let arbiterPods := (List.range arbiters).map (arbiterName name)
    c.podStates namespaceName name members arbiters target =
      match (memberPods ++ arbiterPods).findSome? (c.podFault? namespaceName) with
      | some e => .error e
      | none => .ok (memberPods.map (c.observed namespaceName target false) ++
          arbiterPods.map (c.observed namespaceName target true)) := by
  intro memberPods arbiterPods
  rw [podStates, podStatesOf_eq, podStatesOf_eq, List.findSome?_append]
  cases memberPods.findSome? (c.podFault? namespaceName) with
  | some e => rfl
  | none =>
    cases arbiterPods.findSome? (c.podFault? namespaceName) <;> rfl

/-! ## Agents at work -/

/-- The cluster where the agent of `pod`, if there is one, reports `version`. -/
def report (namespaceName pod : String) (version : UInt64) : Cluster :=
  match c.pods.get? (namespaceName, pod) with
  | some annotations =>
    let text := Decimal.str version.toNat
    c.insertPod ⟨namespaceName, pod, annotations.insert agentVersionKey text⟩
  | none => c

/-- The cluster without `pod`. -/
def deletePod (namespaceName pod : String) : Cluster :=
  { c with pods := c.pods.erase (namespaceName, pod) }

/-- The cluster with `pod`, whose agent has reported nothing yet. -/
def createPod (pod : Pod) : Cluster :=
  c.insertPod { pod with annotations := pod.annotations.erase agentVersionKey }

variable {c}

/-- `report` changes what that pod reports. -/
theorem reported?_report {namespaceName pod namespaceName' pod' : String} {version : UInt64} :
    (c.report namespaceName pod version).reported? namespaceName' pod' =
      if namespaceName' = namespaceName ∧ pod' = pod ∧ c.hasPod namespaceName pod then some version
      else c.reported? namespaceName' pod' := by
  unfold report hasPod
  cases h : c.pods.get? (namespaceName, pod) with
  | none => simp
  | some annotations =>
    unfold reported? insertPod
    rw [Dict.get?_insert]
    by_cases hkey : namespaceName' = namespaceName ∧ pod' = pod
    · simp [hkey, Dict.get?_insert]
    · rw [if_neg (by simpa using hkey), if_neg (by simpa using hkey)]

/-- A pod that `deletePod` removed reports nothing. -/
theorem reported?_deletePod {namespaceName pod namespaceName' pod' : String} :
    (c.deletePod namespaceName pod).reported? namespaceName' pod' =
      if namespaceName' = namespaceName ∧ pod' = pod then none
      else c.reported? namespaceName' pod' := by
  unfold deletePod reported?
  rw [Dict.get?_erase]
  by_cases hkey : namespaceName' = namespaceName ∧ pod' = pod <;> simp [hkey]

/-- A pod that `createPod` added reports nothing. -/
theorem reported?_createPod {pod : Pod} {namespaceName' pod' : String} :
    (c.createPod pod).reported? namespaceName' pod' =
      if namespaceName' = pod.namespaceName ∧ pod' = pod.name then none
      else c.reported? namespaceName' pod' := by
  unfold createPod reported? insertPod
  rw [Dict.get?_insert]
  by_cases hkey : namespaceName' = pod.namespaceName ∧ pod' = pod.name <;>
    simp [hkey, Dict.get?_erase]

end Cluster

end ReplicaControl
