import ReplicaControl.Proofs.Convergence.Reports
import ReplicaControl.Proofs.Port.Pass

/-!
# Rolling out changes of ports

Passes of the operator, reports of agents, and pods that come and go, in any order. A pass looks at
the pods, assigns ports, and gives the document the version that follows. Agents never receive more
than one change of a port at a time: the invariant of section 4.4 of the specification, over whole
runs.

- **Events** (`Rollout.step`, `Rollout.run`): what each event does, and what a run of events does.
- **Invariant** (`Rollout.Consistent`): processes have distinct names, and no pod reports a version
  that the document has not reached. `Consistent.step` and `Consistent.run` keep it.
- **One step** (`Rollout.pass_of_moved`): what a pass that changes a port must have seen.
- `port_changes_one_at_a_time`: a pass that changes a port changes only that one, when every pod has
  reported the document's version, and the next pass that does so waits until every pod has
  reported again.
-/

namespace ReplicaControl

open PortAssignment

/-! ## Content and versions -/

/-- Processes that are equal by `==` have the same `port`. -/
theorem Process.port_eq_of_beq {p q : Process} (h : (p == q) = true) : p.port = q.port := by
  simp only [BEq.beq, instBEqProcess.beq, instBEqProcessArguments.beq, Bool.and_eq_true] at h
  obtain ⟨-, -, ⟨hnet, -⟩, -⟩ := h
  exact congrArg NetOptions.port (of_decide_eq_true hnet)

theorem ports_eq_of_beq {ps qs : List Process} (h : (qs == ps) = true) :
    ∀ x ∈ ps.zip qs, x.2.port = x.1.port := by
  induction ps generalizing qs with
  | nil => simp
  | cons p ps ih =>
    cases qs with
    | nil => simp
    | cons q qs =>
      rw [List.cons_beq_cons, Bool.and_eq_true] at h
      intro x hx
      rcases List.mem_cons.mp hx with rfl | hx
      · exact Process.port_eq_of_beq h.1
      · exact ih h.2 x hx

namespace Document

/-- Documents of equal contents differ in no port, so `moved` has none. -/
theorem moved_eq_nil_of_contentEquals {d d' : Document} (h : d'.contentEquals d = true) :
    d.moved d' = [] := by
  have hbeq : (d'.processes == d.processes) = true := by
    simp only [contentEquals, Bool.and_eq_true] at h
    exact h.1.1.1
  rw [moved, List.map_eq_nil_iff, List.filter_eq_nil_iff]
  intro x hx
  simp [ports_eq_of_beq hbeq x hx]

@[simp] theorem moved_self (d : Document) : d.moved d = [] := by
  rw [moved, List.zip, List.zipWith_self, List.filter_map]
  simp

/-- `versionedAfter` gives the version of the previous document, or the next one. -/
theorem version_versionedAfter (d d' : Document) :
    (d'.versionedAfter (some d)).version = d.version ∨
      (d'.versionedAfter (some d)).version = d.version + 1 := by
  unfold versionedAfter
  dsimp only
  split
  · exact .inl rfl
  · exact .inr rfl

/-- A change of a port (`moved`) makes a new version. -/
theorem version_versionedAfter_of_moved {d d' : Document} (h : d.moved d' ≠ []) :
    (d'.versionedAfter (some d)).version = d.version + 1 := by
  have hne : d'.contentEquals d = false := by
    by_contra heq
    exact h (moved_eq_nil_of_contentEquals (by simpa using heq))
  simp [versionedAfter, hne]

end Document

/-! ## Events -/

/-- The replica set whose pods a pass of `Rollout.step` looks at. -/
structure Fleet where
  namespaceName : String
  name : String
  members : Nat
  arbiters : Nat

/-- The pods of a fleet: `members` of them, then the arbiters. -/
def Fleet.podNames (f : Fleet) : List String :=
  (List.range f.members).map (memberName f.name) ++ (List.range f.arbiters).map (arbiterName f.name)

/-- What happens to a `Rollout`. -/
inductive Event where
  /-- The agent of a pod reports the version of the document. -/
  | report (namespaceName pod : String)
  | delete (namespaceName pod : String)
  /-- A pod is created. Its agent has reported nothing yet. -/
  | create (pod : Pod)
  /-- A pass of the operator. -/
  | pass (fleet : Fleet) (expected : UInt16)

/-- A `document`, and the `cluster` whose agents apply it. -/
structure Rollout where
  document : Document
  cluster : Cluster

namespace Rollout

/-- What is known of the pods of `f`. -/
def states (r : Rollout) (f : Fleet) : Except ClientError (List PodState) :=
  r.cluster.podStates f.namespaceName f.name f.members f.arbiters r.document.version

/-- What one `Event` does. A pod that does not exist reports nothing, and a pass in which a look-up
fails changes nothing. -/
def step (r : Rollout) : Event → Rollout
  | .report namespaceName pod =>
    { r with cluster := r.cluster.report namespaceName pod r.document.version }
  | .delete namespaceName pod => { r with cluster := r.cluster.deletePod namespaceName pod }
  | .create pod => { r with cluster := r.cluster.createPod pod }
  | .pass fleet expected =>
    match r.states fleet with
    | .ok states =>
      { r with document :=
          (PortAssignment.pass expected states r.document).versionedAfter (some r.document) }
    | .error _ => r

/-- What `events` do, one after the other. -/
def run (r : Rollout) (events : List Event) : Rollout := events.foldl step r

/-- Processes have distinct names, and no pod reports a version above that of `document`. -/
structure Consistent (r : Rollout) : Prop where
  names_nodup : r.document.processNames.Nodup
  reported_le : ∀ namespaceName pod v,
    r.cluster.reported? namespaceName pod = some v → v ≤ r.document.version

variable {r : Rollout}

/-! ## Steps -/

/-- The states of a pass are those of `podNames`, one for each. -/
theorem states_eq_ok {f : Fleet} {states : List PodState} (h : r.states f = .ok states) :
    PortAssignment.podNames states = f.podNames ∧ ∀ s ∈ states,
      s.found = r.cluster.hasPod f.namespaceName s.podName ∧
      s.reachedGoalState =
        (r.cluster.reported? f.namespaceName s.podName == some r.document.version) := by
  rw [Rollout.states, Cluster.podStates_eq] at h
  split at h
  · cases h
  · cases h
    constructor
    · simp only [PortAssignment.podNames, Fleet.podNames, List.map_append, List.map_map]
      rfl
    · intro s hs
      rcases List.mem_append.mp hs with hs | hs
      all_goals
        obtain ⟨pod, -, rfl⟩ := List.mem_map.mp hs
        exact ⟨rfl, rfl⟩

/-- The document after an event: the same, or the one after a `pass`. -/
theorem document_step (r : Rollout) (e : Event) :
    (r.step e).document = r.document ∨ ∃ fleet expected states, e = .pass fleet expected ∧
      r.states fleet = .ok states ∧ (r.step e).document =
        (PortAssignment.pass expected states r.document).versionedAfter (some r.document) := by
  cases e with
  | report namespaceName pod => exact .inl rfl
  | delete namespaceName pod => exact .inl rfl
  | create pod => exact .inl rfl
  | pass fleet expected =>
    cases h : r.states fleet with
    | error e => exact .inl (by simp [step, h])
    | ok states => exact .inr ⟨fleet, expected, states, rfl, h, by simp [step, h]⟩

/-- The version that `pod` reports after an event: that of the document if the event is its report,
and otherwise the one that it reported before, if any. -/
theorem reported?_step {e : Event} {namespaceName pod : String} {v : UInt64}
    (h : (r.step e).cluster.reported? namespaceName pod = some v) :
    (e = .report namespaceName pod ∧ v = r.document.version) ∨
      r.cluster.reported? namespaceName pod = some v := by
  -- One case for each event; only a report gives a pod another version.
  cases e with
  | report namespaceName' pod' =>
    simp only [step, Cluster.reported?_report] at h
    split at h
    · next hkey =>
      obtain ⟨rfl, rfl, -⟩ := hkey
      exact .inl ⟨rfl, (Option.some.inj h).symm⟩
    · exact .inr h
  | delete namespaceName' pod' =>
    simp only [step, Cluster.reported?_deletePod] at h
    split at h
    · cases h
    · exact .inr h
  | create pod' =>
    simp only [step, Cluster.reported?_createPod] at h
    split at h
    · cases h
    · exact .inr h
  | pass fleet expected =>
    right
    unfold step at h
    cases hs : r.states fleet <;> simpa [hs] using h

/-- A pass that changes a port (`moved`) saw every pod. It moves one pod, and every pod that exists
reports the version of `document`. -/
theorem pass_of_moved (hd : r.document.processNames.Nodup) {f : Fleet} {expected : UInt16}
    (h : r.document.moved (r.step (.pass f expected)).document ≠ []) :
    (∃ pod, r.document.moved (r.step (.pass f expected)).document = [pod]) ∧
      (∀ pod ∈ f.podNames, r.cluster.hasPod f.namespaceName pod = true →
        r.cluster.reported? f.namespaceName pod = some r.document.version) ∧
      (r.step (.pass f expected)).document.version = r.document.version + 1 := by
  rcases document_step r (.pass f expected) with hsame | ⟨f', expected', states, he, hok, hdoc⟩
  · rw [hsame, Document.moved_self] at h
    exact absurd rfl h
  · cases he
    obtain ⟨hnames, hstates⟩ := states_eq_ok hok
    have hpods : (PortAssignment.podNames states).Nodup := hnames ▸ podNames_nodup ..
    rw [hdoc] at h ⊢
    have hmoved : r.document.moved ((PortAssignment.pass expected states r.document).versionedAfter
        (some r.document)) = (movedPod? expected states r.document).toList := moved_pass hd hpods
    have hversion := Document.version_versionedAfter_of_moved h
    rw [hmoved] at h ⊢
    -- A pod was moved, so the pass was not held: the gate says what the states say.
    cases hm : movedPod? expected states r.document with
    | none => rw [hm] at h; exact absurd rfl h
    | some pod =>
      obtain ⟨hheld, -, -⟩ := movedPod?_eq_some hm
      refine ⟨⟨pod, rfl⟩, fun other hother hexists => ?_, hversion⟩
      rw [← hnames] at hother
      obtain ⟨s, hs, rfl⟩ := List.mem_map.mp hother
      obtain ⟨hfound, hreached⟩ := hstates s hs
      have hnot := List.any_eq_false.mp hheld s hs
      rw [hfound, hexists, hreached] at hnot
      simpa using hnot

theorem processNames_step (r : Rollout) (e : Event) :
    (r.step e).document.processNames = r.document.processNames := by
  rcases document_step r e with hsame | ⟨f, expected, states, -, hok, hdoc⟩
  · rw [hsame]
  · have hpods : (PortAssignment.podNames states).Nodup :=
      (states_eq_ok hok).1 ▸ podNames_nodup ..
    rw [hdoc]
    exact processNames_pass hpods

theorem version_step (r : Rollout) (e : Event) :
    (r.step e).document.version = r.document.version ∨
      (r.step e).document.version = r.document.version + 1 := by
  rcases document_step r e with hsame | ⟨f, expected, states, -, -, hdoc⟩
  · rw [hsame]
    exact .inl rfl
  · rw [hdoc]
    exact Document.version_versionedAfter _ _

theorem toNat_add_one {v : UInt64} (hv : v.toNat + 1 < UInt64.size) :
    (v + 1).toNat = v.toNat + 1 := by
  rw [UInt64.toNat_add, UInt64.toNat_one]
  exact Nat.mod_eq_of_lt hv

/-- Below the largest version, an event raises the version by at most one. -/
theorem toNat_version_step (e : Event) (hv : r.document.version.toNat + 1 < UInt64.size) :
    r.document.version.toNat ≤ (r.step e).document.version.toNat ∧
      (r.step e).document.version.toNat ≤ r.document.version.toNat + 1 := by
  rcases version_step r e with h | h <;> rw [h]
  · omega
  · rw [toNat_add_one hv]
    omega

/-- No pod of `c` reports more than `version` if no entry of its pods does. -/
theorem reported?_le_of_entries {c : Cluster} {version : UInt64}
    (h : ∀ e ∈ c.pods.toList,
      ((e.2.get? agentVersionKey).bind reportedVersion?).all (· ≤ version) = true)
    (namespaceName pod : String) (v : UInt64) (hv : c.reported? namespaceName pod = some v) :
    v ≤ version := by
  unfold Cluster.reported? at hv
  cases hp : c.pods.get? (namespaceName, pod) with
  | none => rw [hp] at hv; cases hv
  | some annotations =>
    have hall := h _ (Dict.get?_eq_some_iff.mp hp)
    rw [hp, Option.bind_some] at hv
    rw [hv] at hall
    simpa using hall

/-! ## Runs -/

theorem run_cons (r : Rollout) (e : Event) (es : List Event) : r.run (e :: es) = (r.step e).run es :=
  rfl

theorem processNames_run (r : Rollout) (es : List Event) :
    (r.run es).document.processNames = r.document.processNames := by
  induction es generalizing r with
  | nil => rfl
  | cons e es ih => rw [run_cons, ih, processNames_step]

/-- Below the largest version, a run raises the version by at most one for each event of `es`. -/
theorem toNat_version_run {es : List Event}
    (hv : r.document.version.toNat + es.length < UInt64.size) :
    r.document.version.toNat ≤ (r.run es).document.version.toNat ∧
      (r.run es).document.version.toNat ≤ r.document.version.toNat + es.length := by
  induction es generalizing r with
  | nil => exact ⟨Nat.le_refl _, Nat.le_refl _⟩
  | cons e es ih =>
    rw [List.length_cons] at hv ⊢
    have hstep := toNat_version_step e (r := r) (by omega)
    have hrest := ih (r := r.step e) (by omega)
    rw [run_cons]
    omega

theorem Consistent.step (h : r.Consistent) (hv : r.document.version.toNat + 1 < UInt64.size)
    (e : Event) :
    (r.step e).Consistent where
  names_nodup := (processNames_step r e).symm ▸ h.names_nodup
  reported_le namespaceName pod v hr := by
    have hle := (toNat_version_step e hv).1
    rw [← UInt64.le_iff_toNat_le] at hle
    rcases reported?_step hr with ⟨-, rfl⟩ | hr
    · exact hle
    · exact UInt64.le_trans (h.reported_le namespaceName pod v hr) hle

/-- Below the largest version, a run leaves a `Consistent` rollout. -/
theorem Consistent.run (h : r.Consistent) {es : List Event}
    (hv : r.document.version.toNat + es.length < UInt64.size) : (r.run es).Consistent := by
  induction es generalizing r with
  | nil => exact h
  | cons e es ih =>
    rw [List.length_cons] at hv
    have hstep := toNat_version_step e (r := r) (by omega)
    exact ih (h.step (by omega) e) (by omega)

/-- No pod reports the version that a pass has just given to `document`. -/
theorem Consistent.reported?_lt_of_pass (h : r.Consistent) {f : Fleet} {e : UInt16} {n p : String}
    {v : UInt64}
    (hnext : (r.step (.pass f e)).document.version.toNat = r.document.version.toNat + 1)
    (hv : (r.step (.pass f e)).cluster.reported? n p = some v) :
    v < (r.step (.pass f e)).document.version := by
  have hle : v ≤ r.document.version := by
    rcases reported?_step hv with ⟨he, -⟩ | hv
    · cases he
    · exact h.reported_le n p v hv
  rw [UInt64.le_iff_toNat_le] at hle
  rw [UInt64.lt_iff_toNat_lt]
  omega

/-- A pod that reports a version not below `bound`, and did not at first, has reported in between.
-/
theorem report_mem_of_reported? {namespaceName pod : String} {bound v : UInt64} {es : List Event}
    (hold : ∀ v, r.cluster.reported? namespaceName pod = some v → v < bound)
    (hv : (r.run es).cluster.reported? namespaceName pod = some v) :
    v < bound ∨ .report namespaceName pod ∈ es := by
  induction es generalizing r with
  | nil => exact .inl (hold v hv)
  | cons e es ih =>
    by_cases he : e = .report namespaceName pod
    · exact .inr (he ▸ List.mem_cons_self)
    · refine (ih (r := r.step e) (fun w hw => ?_) hv).imp_right (List.mem_cons_of_mem _)
      rcases reported?_step hw with ⟨rfl, -⟩ | hw
      · exact absurd rfl he
      · exact hold w hw

/-- In every run, a pass that changes the port of a process that had one changes exactly one such
port (`Document.moved`). It does so only when every pod of its fleet that exists reports the
document's version, and it raises that version by one. The next pass that changes such a port waits
until every pod of its fleet that exists has reported anew. -/
theorem port_changes_one_at_a_time {start : Rollout} (hstart : start.Consistent)
    (before : List Event) (fleet : Fleet) (expected : UInt16) :
    let r := start.run before
    let r' := r.step (.pass fleet expected)
    r.document.moved r'.document ≠ [] →
      (∃ pod, r.document.moved r'.document = [pod]) ∧
      (∀ pod ∈ fleet.podNames, r.cluster.hasPod fleet.namespaceName pod = true →
        r.cluster.reported? fleet.namespaceName pod = some r.document.version) ∧
      r'.document.version = r.document.version + 1 ∧
      (r.document.version.toNat + 1 < UInt64.size →
        r'.document.version.toNat = r.document.version.toNat + 1) ∧
      ∀ (between : List Event) (fleet' : Fleet) (expected' : UInt16),
        start.document.version.toNat + before.length + 1 + between.length < UInt64.size →
        let s := r'.run between
        s.document.moved (s.step (.pass fleet' expected')).document ≠ [] →
          ∀ pod ∈ fleet'.podNames, s.cluster.hasPod fleet'.namespaceName pod = true →
            .report fleet'.namespaceName pod ∈ between := by
  intro r r' hmoved
  have hnames : r.document.processNames.Nodup :=
    (processNames_run start before).symm ▸ hstart.names_nodup
  obtain ⟨hone, hall, hversion⟩ := pass_of_moved hnames hmoved
  have hnext : r.document.version.toNat + 1 < UInt64.size →
      r'.document.version.toNat = r.document.version.toNat + 1 := by
    intro hv
    rw [hversion, toNat_add_one hv]
  refine ⟨hone, hall, hversion, hnext, ?_⟩
  intro between fleet' expected' hv s hmoved' pod hpod hexists
  have hr : r.document.version.toNat ≤ start.document.version.toNat + before.length :=
    (toNat_version_run (by omega)).2
  have hr' := hnext (by omega)
  have hs : r'.document.version.toNat ≤ s.document.version.toNat :=
    (toNat_version_run (by omega)).1
  -- No pod reports the new version yet, so whoever reports it later has an event in between.
  have hconsistent : r.Consistent := hstart.run (by omega)
  have hold : ∀ v, r'.cluster.reported? fleet'.namespaceName pod = some v →
      v < r'.document.version := fun v => hconsistent.reported?_lt_of_pass hr'
  have hnames' : s.document.processNames.Nodup := by
    rw [processNames_run, processNames_step]
    exact hnames
  have hreported := (pass_of_moved hnames' hmoved').2.1 pod hpod hexists
  rcases report_mem_of_reported? hold hreported with hlt | hmem
  · rw [UInt64.lt_iff_toNat_lt] at hlt
    omega
  · exact hmem

/-- Two members and an arbiter that all listen on port 1000. One of the agents is behind, one has
not reported yet. -/
def behind : Rollout where
  document := { Document.ofPorts [("rs-0", 1000), ("rs-1", 1000), ("rs-arb-0", 1000)] with
    version := 5 }
  cluster :=
    { pods := .ofList
        [(("db", "rs-0"), .ofList [(agentVersionKey, "4")]),
         (("db", "rs-1"), .empty),
         (("db", "rs-arb-0"), .ofList [(agentVersionKey, "5")])] }

/-- Once all agents have reported, the first member is moved. When the target changes after that,
the first member is moved again, but only after every agent has reported again. -/
theorem port_changes_one_at_a_time_behind :
    let fleet : Fleet := ⟨"db", "rs", 2, 1⟩
    let before : List Event := [.pass fleet 2000, .report "db" "rs-0", .report "db" "rs-1"]
    let between : List Event := [.pass fleet 3000, .report "db" "rs-0", .report "db" "rs-1",
      .report "db" "rs-arb-0"]
    let r := behind.run before
    let r' := r.step (.pass fleet 2000)
    let s := r'.run between
    behind.Consistent ∧ r.document.moved r'.document ≠ [] ∧
      s.document.moved (s.step (.pass fleet 3000)).document ≠ [] ∧
      (∃ pod, r.document.moved r'.document = [pod]) ∧
      r.cluster.reported? "db" "rs-1" = some r.document.version ∧
      r'.document.version = r.document.version + 1 ∧
      .report "db" "rs-arb-0" ∈ between := by
  intro fleet before between r r' s
  have hstart : behind.Consistent :=
    ⟨by decide +kernel, reported?_le_of_entries (by decide +kernel)⟩
  have hmoved : r.document.moved r'.document ≠ [] := by decide +kernel
  have hmoved' : s.document.moved (s.step (.pass fleet 3000)).document ≠ [] := by decide +kernel
  obtain ⟨hone, hall, hversion, -, hnext⟩ :=
    port_changes_one_at_a_time hstart before fleet 2000 hmoved
  exact ⟨hstart, hmoved, hmoved', hone, hall "rs-1" (by decide +kernel) (by decide +kernel), hversion,
    hnext between fleet 3000 (by decide +kernel) hmoved' "rs-arb-0" (by decide +kernel)
      (by decide +kernel)⟩

end Rollout

end ReplicaControl
