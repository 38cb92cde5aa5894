import ReplicaControl.Proofs.Convergence.Reports

/-!
# When a replica set has converged

The members are looked up in the order of their ordinals, and the first look-up that fails decides.
If none fails, the members have converged if none of them exists, or if every one of them exists and
reports the version that is wanted (specification, section 4.5). No other pod matters.

- **Look-ups** (`Cluster.FailsWith`, `Cluster.IsMissing`, `Cluster.Reports`): what the look-up of a
  pod tells, said of `Cluster.getPod`.
- **Counting** (`Cluster.haveReached_length_iff`): what the count of missing pods decides.
- **Verdicts** (`Cluster.allReached_eq_error_iff`, `Cluster.allReached_eq_ok_iff`): when
  `Cluster.allReached` fails, and what it tells.
- **Frame** (`Cluster.allReached_congr`): only the look-ups of the members matter.
- `Cluster.allReached_verdict`: the verdicts, and what they do not depend on.
-/

namespace ReplicaControl

/-- Whether the error only says that there is no such object, the `NotFound` of section 10.1. -/
def ClientError.isNotFound : ClientError → Bool
  | notFound .. => true
  | api _ => false

/-- `findSome?` among numbers finds what it finds at the least of them. -/
theorem findSome?_range_eq_some_iff {α : Type} {f : Nat → Option α} {n : Nat} {a : α} :
    (List.range n).findSome? f = some a ↔ ∃ i < n, f i = some a ∧ ∀ j < i, f j = none := by
  induction n with
  | zero => simp
  | succ n ih =>
    have hnone : (List.range n).findSome? f = none ↔ ∀ j < n, f j = none := by
      simp [List.findSome?_eq_none_iff]
    rw [List.range_succ, List.findSome?_append, Option.or_eq_some_iff, ih, hnone]
    constructor
    · rintro (⟨i, hi, hfound⟩ | ⟨hbefore, hlast⟩)
      · exact ⟨i, by omega, hfound⟩
      · exact ⟨n, by omega, by simpa using hlast, hbefore⟩
    · rintro ⟨i, hi, hfound, hbefore⟩
      rcases Nat.lt_succ_iff_lt_or_eq.mp hi with hi | rfl
      · exact .inl ⟨i, hi, hfound, hbefore⟩
      · exact .inr ⟨hbefore, by simpa using hfound⟩

namespace Cluster

variable {c c' : Cluster} {namespaceName name pod : String} {n : Nat} {target v : UInt64}
  {e : ClientError}

/-! ## What a look-up tells -/

/-- The look-up of `pod` fails with `e`, and not because there is no such pod. -/
def FailsWith (c : Cluster) (namespaceName pod : String) (e : ClientError) : Prop :=
  c.getPod namespaceName pod = .error e ∧ e.isNotFound = false

/-- The look-up of `pod` finds none. -/
def IsMissing (c : Cluster) (namespaceName pod : String) : Prop :=
  ∃ e, c.getPod namespaceName pod = .error e ∧ e.isNotFound = true

/-- `pod` exists, and its annotation writes `v`. -/
def Reports (c : Cluster) (namespaceName pod : String) (v : UInt64) : Prop :=
  ∃ p report, c.getPod namespaceName pod = .ok p ∧
    p.annotations.get? agentVersionKey = some report ∧ WritesVersion report v

theorem getPod_eq (c : Cluster) (namespaceName pod : String) :
    c.getPod namespaceName pod =
      match c.podFault? namespaceName pod with
      | some e => .error e
      | none =>
        match c.pods.get? (namespaceName, pod) with
        | some annotations => .ok ⟨namespaceName, pod, annotations⟩
        | none => .error (.notFound "pod" namespaceName pod) := by
  unfold getPod pod? podFault?
  cases c.podFailures.get? (namespaceName, pod) with
  | some message => rfl
  | none => cases c.pods.get? (namespaceName, pod) <;> rfl

theorem podFault?_eq_some_iff :
    c.podFault? namespaceName pod = some e ↔ c.FailsWith namespaceName pod e := by
  have hapi : ∀ e, c.podFault? namespaceName pod = some e → e.isNotFound = false := by
    intro e he
    obtain ⟨message, -, rfl⟩ := Option.map_eq_some_iff.mp he
    rfl
  rw [FailsWith, getPod_eq]
  cases hfault : c.podFault? namespaceName pod with
  | some e' =>
    have he' := hapi e' hfault
    simp only [Option.some.injEq, Except.error.injEq]
    constructor
    · rintro rfl
      exact ⟨rfl, he'⟩
    · exact And.left
  | none =>
    -- Without a fault the look-up fails only for a pod that is missing.
    cases c.pods.get? (namespaceName, pod) with
    | some annotations => simp
    | none =>
      simp only [reduceCtorEq, Except.error.injEq, false_iff, not_and]
      rintro rfl
      simp [ClientError.isNotFound]

theorem podFault?_eq_none_iff :
    c.podFault? namespaceName pod = none ↔ ∀ e, ¬c.FailsWith namespaceName pod e := by
  simp only [← podFault?_eq_some_iff, Option.eq_none_iff_forall_ne_some, ne_eq]

theorem hasPod_eq_false_iff (h : c.podFault? namespaceName pod = none) :
    c.hasPod namespaceName pod = false ↔ c.IsMissing namespaceName pod := by
  rw [hasPod, IsMissing, getPod_eq, h]
  cases c.pods.get? (namespaceName, pod) <;> simp [ClientError.isNotFound]

theorem reported?_eq_some_iff (h : c.podFault? namespaceName pod = none) :
    c.reported? namespaceName pod = some v ↔ c.Reports namespaceName pod v := by
  rw [reported?, Reports, getPod_eq, h]
  cases c.pods.get? (namespaceName, pod) with
  | none => simp
  | some annotations => simp [Option.bind_eq_some_iff, reportedVersion?_eq_some_iff]

/-! ## Verdicts -/

/-- `missingPods?` tells the missing pods in their order if no pod that exists lags behind. -/
theorem missingPods?_eq (states : List PodState) :
    missingPods? states =
      if ∀ s ∈ states, s.found = true → s.reachedGoalState = true then
        some ((states.filter (!·.found)).map (·.podName))
      else none := by
  induction states with
  | nil => rfl
  | cons s states ih =>
    rw [missingPods?, ih]
    cases hfound : s.found with
    | false =>
      by_cases hreached : ∀ s ∈ states, s.found = true → s.reachedGoalState = true <;>
        simp [hfound, hreached]
    | true => cases hreached : s.reachedGoalState <;> simp [hfound, hreached]

/-- If `states` has one for every member, the members have converged if none of them exists, or if
every one exists and has reached the version. -/
theorem haveReached_length_iff (states : List PodState) :
    haveReached states.length states = true ↔ (∀ s ∈ states, s.found = false) ∨
      ∀ s ∈ states, s.found = true ∧ s.reachedGoalState = true := by
  rw [haveReached, missingPods?_eq]
  by_cases hlag : ∀ s ∈ states, s.found = true → s.reachedGoalState = true
  · -- All that counts now is how many pods are missing: all of them, or none.
    have hall : (states.filter (!·.found)).length = states.length ↔
        ∀ s ∈ states, s.found = false := by simp
    have hnone : (∀ s ∈ states, s.found = true) ↔
        ∀ s ∈ states, s.found = true ∧ s.reachedGoalState = true :=
      forall₂_congr fun s hs => (and_iff_left_of_imp (hlag s hs)).symm
    simp [if_pos hlag, hall, ← hnone]
  · simp only [if_neg hlag, Bool.false_eq_true, false_iff, not_or]
    refine ⟨fun h => hlag fun s hs hfound => ?_, fun h => hlag fun s hs _ => (h s hs).2⟩
    simp [h s hs] at hfound

/-- A pod that reports exists (`hasPod`). -/
theorem hasPod_of_reported? (h : c.reported? namespaceName pod = some v) :
    c.hasPod namespaceName pod = true := by
  unfold reported? at h
  unfold hasPod
  cases hpod : c.pods.get? (namespaceName, pod) with
  | none => simp [hpod] at h
  | some annotations => rfl

/-- The members of a replica set have converged: none of them exists yet, or every one of them
reports `target`. -/
def HaveConverged (c : Cluster) (namespaceName name : String) (n : Nat) (target : UInt64) : Prop :=
  (∀ i < n, c.IsMissing namespaceName (memberName name i)) ∨
    ∀ i < n, c.Reports namespaceName (memberName name i) target

/-- The first look-up that fails is the outcome; otherwise the members are told as they are
`observed`. -/
theorem allReached_eq (c : Cluster) (namespaceName name : String) (n : Nat) (target : UInt64) :
    c.allReached namespaceName name n target =
      match (List.range n).findSome? fun i => c.podFault? namespaceName (memberName name i) with
      | some e => .error e
      | none => .ok (haveReached n ((List.range n).map fun i =>
          c.observed namespaceName target false (memberName name i))) := by
  have hstates := c.podStates_eq namespaceName name n 0 target
  simp only [List.range_zero, List.map_nil, List.append_nil, List.findSome?_map,
    List.map_map] at hstates
  rw [allReached, hstates]
  simp only [Function.comp_def]
  cases (List.range n).findSome? fun i => c.podFault? namespaceName (memberName name i) <;> rfl

theorem allReached_eq_error_iff : c.allReached namespaceName name n target = .error e ↔
    ∃ i < n, c.FailsWith namespaceName (memberName name i) e ∧
      ∀ j < i, ∀ e', ¬c.FailsWith namespaceName (memberName name j) e' := by
  have hfirst : (List.range n).findSome?
      (fun i => c.podFault? namespaceName (memberName name i)) = some e ↔
        ∃ i < n, c.FailsWith namespaceName (memberName name i) e ∧
          ∀ j < i, ∀ e', ¬c.FailsWith namespaceName (memberName name j) e' := by
    rw [findSome?_range_eq_some_iff]
    simp only [podFault?_eq_some_iff, podFault?_eq_none_iff]
  rw [allReached_eq, ← hfirst]
  cases (List.range n).findSome? fun i => c.podFault? namespaceName (memberName name i) <;> simp

/-- If no look-up fails, `haveReached` is true of the members that are observed if and only if they
have converged. -/
theorem haveReached_observed_iff
    (h : ∀ i < n, c.podFault? namespaceName (memberName name i) = none) :
    haveReached n ((List.range n).map fun i =>
      c.observed namespaceName target false (memberName name i)) = true ↔
        c.HaveConverged namespaceName name n target := by
  have hmissing : (∀ i < n, c.hasPod namespaceName (memberName name i) = false) ↔
      ∀ i < n, c.IsMissing namespaceName (memberName name i) :=
    forall₂_congr fun i hi => hasPod_eq_false_iff (h i hi)
  have hreports : (∀ i < n, c.hasPod namespaceName (memberName name i) = true ∧
      c.reported? namespaceName (memberName name i) = some target) ↔
        ∀ i < n, c.Reports namespaceName (memberName name i) target :=
    forall₂_congr fun i hi =>
      (and_iff_right_of_imp hasPod_of_reported?).trans (reported?_eq_some_iff (h i hi))
  have hverdict := haveReached_length_iff ((List.range n).map fun i =>
    c.observed namespaceName target false (memberName name i))
  rw [List.length_map, List.length_range] at hverdict
  rw [HaveConverged, ← hmissing, ← hreports, hverdict]
  simp [observed]

theorem allReached_eq_ok_iff {b : Bool} : c.allReached namespaceName name n target = .ok b ↔
    (∀ i < n, ∀ e, ¬c.FailsWith namespaceName (memberName name i) e) ∧
      (b = true ↔ c.HaveConverged namespaceName name n target) := by
  simp only [← podFault?_eq_none_iff]
  rw [allReached_eq]
  cases hfirst : (List.range n).findSome? fun i => c.podFault? namespaceName (memberName name i) with
  | some e =>
    obtain ⟨i, hi, hfault, -⟩ := findSome?_range_eq_some_iff.mp hfirst
    refine iff_of_false nofun fun h => ?_
    rw [h.1 i hi] at hfault
    cases hfault
  | none =>
    have hnone : ∀ i < n, c.podFault? namespaceName (memberName name i) = none := by
      simpa [List.findSome?_eq_none_iff] using hfirst
    rw [← haveReached_observed_iff hnone, Except.ok.injEq, Bool.eq_iff_iff]
    exact ⟨fun h => ⟨hnone, h.symm⟩, fun h => h.2.symm⟩

/-! ## What does not matter -/

/-- `allReached` depends on the look-ups of the members only. -/
theorem allReached_congr
    (h : ∀ i < n, c'.getPod namespaceName (memberName name i) =
      c.getPod namespaceName (memberName name i)) :
    c'.allReached namespaceName name n target = c.allReached namespaceName name n target := by
  have hfails : ∀ i < n, ∀ e, c'.FailsWith namespaceName (memberName name i) e ↔
      c.FailsWith namespaceName (memberName name i) e := by
    intro i hi e
    rw [FailsWith, FailsWith, h i hi]
  have hconverged : c'.HaveConverged namespaceName name n target ↔
      c.HaveConverged namespaceName name n target := by
    refine or_congr (forall₂_congr fun i hi => ?_) (forall₂_congr fun i hi => ?_)
    · rw [IsMissing, IsMissing, h i hi]
    · rw [Reports, Reports, h i hi]
  -- Either outcome is told by the look-ups alone, so it carries over.
  cases houtcome : c.allReached namespaceName name n target with
  | error e =>
    obtain ⟨i, hi, hfault, hbefore⟩ := allReached_eq_error_iff.mp houtcome
    exact allReached_eq_error_iff.mpr ⟨i, hi, (hfails i hi e).mpr hfault, fun j hj e' h =>
      hbefore j hj e' ((hfails j (by omega) e').mp h)⟩
  | ok b =>
    obtain ⟨hnone, hb⟩ := allReached_eq_ok_iff.mp houtcome
    exact allReached_eq_ok_iff.mpr ⟨fun i hi e h => hnone i hi e ((hfails i hi e).mp h),
      hb.trans hconverged.symm⟩

theorem getPod_insertPod_of_ne {p : Pod} (h : (namespaceName, pod) ≠ (p.namespaceName, p.name)) :
    (c.insertPod p).getPod namespaceName pod = c.getPod namespaceName pod := by
  unfold getPod pod? insertPod
  simp only [Dict.get?_insert, if_neg h]

theorem getPod_deletePod_of_ne {namespaceName' pod' : String}
    (h : (namespaceName, pod) ≠ (namespaceName', pod')) :
    (c.deletePod namespaceName' pod').getPod namespaceName pod = c.getPod namespaceName pod := by
  unfold getPod pod? deletePod
  simp only [Dict.get?_erase, if_neg h]

theorem getPod_failPod_of_ne {namespaceName' pod' : String} (message : String)
    (h : (namespaceName, pod) ≠ (namespaceName', pod')) :
    (c.failPod namespaceName' pod' message).getPod namespaceName pod =
      c.getPod namespaceName pod := by
  unfold getPod pod? failPod
  simp only [Dict.get?_insert, if_neg h]

/-- A pod that reports the decimal text of `v` has reached `v` only. -/
theorem reports_iff_of_str {p : Pod} (hpod : c.getPod namespaceName pod = .ok p)
    (htext : p.annotations.get? agentVersionKey = some (Decimal.str v.toNat)) :
    (p.hasReached target = true ↔ v = target) ∧
      (c.Reports namespaceName pod target ↔ v = target) := by
  constructor
  · simp [Pod.hasReached, htext]
  · simp [Reports, hpod, htext, ← reportedVersion?_eq_some_iff]

/-- The failing look-up of the least ordinal is the outcome. If no look-up fails, the outcome is
whether the members have converged (`HaveConverged`): none of them exists, or every one of them
exists and reports the version. Only the look-ups of the members matter, and so no change to another
pod, such as an arbiter, does. -/
theorem allReached_verdict (c : Cluster) (namespaceName name : String) (n : Nat)
    (target : UInt64) :
    let member := memberName name
    let outcome := c.allReached namespaceName name n target
    (∀ e, outcome = .error e ↔ ∃ i < n, c.FailsWith namespaceName (member i) e ∧
      ∀ j < i, ∀ e', ¬c.FailsWith namespaceName (member j) e') ∧
    (outcome = .ok true ↔ (∀ i < n, ∀ e, ¬c.FailsWith namespaceName (member i) e) ∧
      c.HaveConverged namespaceName name n target) ∧
    (outcome = .ok false ↔ (∀ i < n, ∀ e, ¬c.FailsWith namespaceName (member i) e) ∧
      ¬c.HaveConverged namespaceName name n target) ∧
    (∀ c' : Cluster,
      (∀ i < n, c'.getPod namespaceName (member i) = c.getPod namespaceName (member i)) →
        c'.allReached namespaceName name n target = outcome) ∧
    (∀ (p : Pod) message, (∀ i < n, (namespaceName, member i) ≠ (p.namespaceName, p.name)) →
      (c.insertPod p).allReached namespaceName name n target = outcome ∧
      (c.deletePod p.namespaceName p.name).allReached namespaceName name n target = outcome ∧
      (c.failPod p.namespaceName p.name message).allReached namespaceName name n target =
        outcome) ∧
    (∀ i j, member i ≠ arbiterName name j) ∧
    ∀ pod p v, c.getPod namespaceName pod = .ok p →
      p.annotations.get? agentVersionKey = some (Decimal.str v.toNat) →
        (p.hasReached target = true ↔ v = target) ∧
          (c.Reports namespaceName pod target ↔ v = target) := by
  intro member outcome
  refine ⟨fun e => allReached_eq_error_iff, ?_, ?_, fun c' => allReached_congr, ?_,
    memberName_ne_arbiterName, fun pod p v => reports_iff_of_str⟩
  · rw [allReached_eq_ok_iff]
    simp [member]
  · rw [allReached_eq_ok_iff]
    simp [member]
  · intro p message h
    exact ⟨allReached_congr fun i hi => getPod_insertPod_of_ne (h i hi),
      allReached_congr fun i hi => getPod_deletePod_of_ne (h i hi),
      allReached_congr fun i hi => getPod_failPod_of_ne message (h i hi)⟩

/-- Two members report version 7, one does not exist, the look-ups of two fail, and an arbiter is
behind. -/
def mixedMembers : Cluster where
  pods := .ofList
    [(("db", "rs-0"), .ofList [(agentVersionKey, " 07")]),
     (("db", "rs-1"), .ofList [(agentVersionKey, "+7")]),
     (("db", "rs-arb-0"), .ofList [(agentVersionKey, "6")])]
  podFailures := .ofList [(("db", "rs-4"), "timed out"), (("db", "rs-3"), "refused")]

/-- A failing look-up counts for five members and a missing pod for three, but neither does for two,
and the arbiter never does. -/
theorem allReached_verdict_mixed :
    (∃ i < 5, mixedMembers.FailsWith "db" (memberName "rs" i) (.api "refused")) ∧
      ¬mixedMembers.HaveConverged "db" "rs" 3 7 ∧ mixedMembers.HaveConverged "db" "rs" 2 7 ∧
      ({ mixedMembers with secretWrites := 1 } : Cluster).allReached "db" "rs" 2 7 = .ok true ∧
      (mixedMembers.failPod "db" "rs-arb-0" "gone").allReached "db" "rs" 2 7 = .ok true ∧
      ¬mixedMembers.Reports "db" "rs-arb-0" 7 := by
  have hfive : mixedMembers.allReached "db" "rs" 5 7 = .error (.api "refused") := by
    decide +kernel
  have hthree : mixedMembers.allReached "db" "rs" 3 7 = .ok false := by decide +kernel
  have htwo : mixedMembers.allReached "db" "rs" 2 7 = .ok true := by decide +kernel
  have hother : ∀ i < 2, ("db", memberName "rs" i) ≠ ("db", "rs-arb-0") := by decide +kernel
  have harbiter : mixedMembers.getPod "db" "rs-arb-0" =
      .ok ⟨"db", "rs-arb-0", .ofList [(agentVersionKey, "6")]⟩ := by decide +kernel
  obtain ⟨hfails, -⟩ := allReached_verdict mixedMembers "db" "rs" 5 7
  obtain ⟨-, -, hmissing, -⟩ := allReached_verdict mixedMembers "db" "rs" 3 7
  obtain ⟨-, hreached, -, hcongr, hchange, -, hreports⟩ :=
    allReached_verdict mixedMembers "db" "rs" 2 7
  obtain ⟨i, hi, hfault, -⟩ := (hfails _).mp hfive
  exact ⟨⟨i, hi, hfault⟩, (hmissing.mp hthree).2, (hreached.mp htwo).2,
    (hcongr { mixedMembers with secretWrites := 1 } fun _ _ => rfl).trans htwo,
    (hchange ⟨"db", "rs-arb-0", .empty⟩ "gone" hother).2.2.trans htwo,
    fun h => absurd ((hreports _ _ 6 harbiter (by decide +kernel)).2.mp h) (by decide)⟩

end Cluster

end ReplicaControl
