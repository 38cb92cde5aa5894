import Mathlib.Data.List.Perm.Subperm
import ReplicaControl.Proofs.Convergence.Reports
import ReplicaControl.Proofs.Document.References

/-!
# The pods of built documents

A built document has one process for each pod of its topology and lists all pods in one replica set
(specification, section 4.1). Hooks may rename processes, but the references of the document are
checked, so that they can do no more than swap names.

- `Topology.processNames_perm_of_build`: the processes are named for the pods, in some order.
- `Topology.replicaSets_of_build`: the replica set lists the pods, members before arbiters.
- `Topology.exists_build_iff`: which topologies have a document, if no hook renames a process
  (`Topology.HooksKeep`).
- `Topology.build_pods`: all of it, and that pods are looked up in the order of the processes.
- `Topology.hostnames_shared`: hooks may give two processes the same host.
-/

namespace ReplicaControl

/-- `m` is listed as a member that votes. -/
def ReplicaSetMember.IsVoter (m : ReplicaSetMember) : Prop :=
  m.priority = .round false 1 ∧ m.arbiterOnly = false ∧ m.votes = 1

/-- `m` is listed as a pod that only takes part as an arbiter, without a vote (section 10.2). -/
def ReplicaSetMember.IsArbiter (m : ReplicaSetMember) : Prop :=
  m.priority = .round false 0 ∧ m.arbiterOnly = true ∧ m.votes = 0

/-- The `PodState` that is told of a pod bears the pod's name. -/
theorem Cluster.map_podName_observed (c : Cluster) (namespaceName : String) (target : UInt64)
    (arbiter : Bool) (pods : List String) :
    (pods.map (c.observed namespaceName target arbiter)).map (·.podName) = pods := by
  rw [List.map_map]
  exact List.map_id pods

namespace Topology

variable {t : Topology} {d : Document}

/-! ## Pods -/

theorem nodup_podNames (t : Topology) : t.podNames.Nodup := podNames_nodup t.name _ _

/-- `hostname` gives distinct pods distinct hosts. -/
theorem hostname_injective (t : Topology) : Function.Injective t.hostname := by
  intro pod pod' h
  exact String.append_left_inj _ |>.mp (String.append_left_inj _ |>.mp h)

/-- All of `podNames` have an index of 32 bits. -/
theorem length_podNames_lt (t : Topology) : t.podNames.length < 2 ^ 32 := by
  have hmembers := t.members.toInt_lt
  have harbiters := t.arbiters.toInt_lt
  rw [podNames, List.length_append, memberNames, arbiterNames, List.length_map, List.length_map,
    List.length_range, List.length_range]
  omega

/-! ## Processes -/

/-- Processes of distinct names that include all pods are named for `podNames`, each for one. -/
theorem processNames_perm (h : t.unversioned.HasSoundReferences) :
    t.unversioned.processNames.Perm t.podNames := by
  have hsubset : t.podNames ⊆ t.unversioned.processNames := by
    intro pod hpod
    obtain ⟨index, hindex, rfl⟩ := List.mem_iff_getElem.mp hpod
    exact h.host_mem t.replicaSet (List.mem_singleton_self _) _
      (List.mem_mapIdx.mpr ⟨index, hindex, rfl⟩)
  have hlength : t.unversioned.processNames.length = t.podNames.length := by
    rw [Document.processNames, List.length_map, unversioned, List.length_mapIdx]
  exact ((List.subperm_of_subset t.nodup_podNames hsubset).perm_of_length_le
    (Nat.le_of_eq hlength)).symm

theorem processNames_perm_of_build (h : t.build = .ok d) : d.processNames.Perm t.podNames := by
  obtain ⟨-, hreferences, rfl⟩ := build_eq_ok_iff.mp h
  exact processNames_perm (Document.checkReferences_eq_ok_iff.mp hreferences)

/-- The hooks leave what `f` tells of the processes as it was, on the processes of this topology. -/
def HooksKeep {α : Type} (t : Topology) (f : Process → α) : Prop :=
  ∀ index pod, t.podNames[index]? = some pod → f (t.process index pod) = f (t.plainProcess pod)

/-- Hooks each of which leaves `f` of any process alone satisfy `HooksKeep`. -/
theorem hooksKeep_of_forall {α : Type} {f : Process → α}
    (h : ∀ hook ∈ t.hooks, ∀ index p, f (hook index p) = f p) : t.HooksKeep f := by
  intro index pod _
  exact process_induction (P := fun p => f p = f (t.plainProcess pod)) rfl
    (fun hook hhook index p hp => (h hook hhook index p).trans hp) index

theorem hooksKeep_of_hooks_eq {α : Type} {f : Process → α} {size : Single}
    (h : t.hooks = [capFirst size]) (hf : ∀ p : Process, f (p.withCacheSizeGb size) = f p) :
    t.HooksKeep f := by
  refine hooksKeep_of_forall fun hook hmem index p => ?_
  rw [h] at hmem
  obtain rfl := List.mem_singleton.mp hmem
  unfold capFirst
  split
  · exact hf p
  · rfl

/-- By `HooksKeep`, `f` of the processes is `f` of what is built for the pods. -/
theorem HooksKeep.map_processes {α : Type} {f : Process → α} (h : t.HooksKeep f) :
    t.unversioned.processes.map f = t.podNames.map fun pod => f (t.plainProcess pod) := by
  refine List.ext_getElem? fun index => ?_
  rw [unversioned, List.getElem?_map, List.getElem?_mapIdx, List.getElem?_map, Option.map_map]
  exact Option.map_congr (h index)

theorem name_plainProcess (t : Topology) (pod : String) : (t.plainProcess pod).name = pod := by
  unfold plainProcess
  cases CacheSize.forVersion? t.version t.memoryLimitBytes <;> rfl

theorem hostname_plainProcess (t : Topology) (pod : String) :
    (t.plainProcess pod).hostname = t.hostname pod := by
  unfold plainProcess
  cases CacheSize.forVersion? t.version t.memoryLimitBytes <;> rfl

/-- If no hook renames a process, `processNames` are `podNames`, in their order. -/
theorem processNames_eq (h : t.HooksKeep (·.name)) : t.unversioned.processNames = t.podNames := by
  rw [Document.processNames, h.map_processes]
  simp only [name_plainProcess, List.map_id']

/-- If no hook changes a host, the processes have the hosts that `hostname` gives to the pods. -/
theorem hostnames_eq (h : t.HooksKeep (·.hostname)) :
    t.unversioned.processes.map (·.hostname) = t.podNames.map t.hostname := by
  rw [h.map_processes]
  simp only [hostname_plainProcess]

/-! ## The replica set -/

/-- The pods are listed in their order, each under its index, members as `IsVoter` and the others as
`IsArbiter`. -/
theorem listing_spec (t : Topology) {index : Nat} (hindex : index < t.podNames.length)
    (pod : String) :
    (t.listing index pod).id.toNat = index ∧
      if index < t.members.toInt.toNat then (t.listing index pod).IsVoter
      else (t.listing index pod).IsArbiter := by
  -- The index is cut to 32 bits, which loses nothing.
  have hid : index.toUInt32.toNat = index := by
    have hlength := t.length_podNames_lt
    simp only [Nat.toUInt32, UInt32.toNat_ofNat']
    omega
  refine ⟨hid, ?_⟩
  unfold listing
  split
  · next hmember =>
    have harbiter : ¬t.members.toInt.toNat ≤ index := Nat.not_le.mpr hmember
    exact ⟨if_neg harbiter, decide_eq_false harbiter, if_neg harbiter⟩
  · next hmember =>
    have harbiter : t.members.toInt.toNat ≤ index := Nat.not_lt.mp hmember
    exact ⟨if_pos harbiter, decide_eq_true harbiter, if_pos harbiter⟩

theorem map_host_replicaSet (t : Topology) : t.replicaSet.members.map (·.host) = t.podNames := by
  refine List.ext_getElem? fun index => ?_
  rw [replicaSet, List.getElem?_map, List.getElem?_mapIdx, Option.map_map]
  exact Option.map_id'

/-- A built document has one replica set, which lists `podNames` in their order: first the members,
which vote, and then the arbiters. -/
theorem replicaSets_of_build (h : t.build = .ok d) :
    ∃ rs, d.replicaSets = [rs] ∧ rs.members.map (·.host) = t.memberNames ++ t.arbiterNames ∧
      ∀ index m, rs.members[index]? = some m → m.id.toNat = index ∧
        if index < t.members.toInt.toNat then m.IsVoter else m.IsArbiter := by
  obtain ⟨-, -, rfl⟩ := build_eq_ok_iff.mp h
  refine ⟨t.replicaSet, rfl, t.map_host_replicaSet, fun index m hm => ?_⟩
  rw [replicaSet, List.getElem?_mapIdx] at hm
  obtain ⟨pod, hpod, rfl⟩ := Option.map_eq_some_iff.mp hm
  obtain ⟨hindex, -⟩ := List.getElem?_eq_some_iff.mp hpod
  exact t.listing_spec hindex pod

/-! ## Topologies that have a document -/

theorem validate_eq_ok_iff : t.validate = .ok () ↔
    t.name ≠ "" ∧ 0 ≤ t.members ∧ (t.arbiters = 0 ∨ 0 < t.arbiters ∧ t.arbiters < t.members) := by
  unfold validate
  split
  · next hname => simp [String.isEmpty_iff.mp hname]
  · next hname =>
    have hname : t.name ≠ "" := fun h => hname (by simp [h])
    split
    · next hmembers => simp [Int32.not_le.mpr hmembers]
    · next hmembers =>
      have hmembers : 0 ≤ t.members := Int32.not_lt.mp hmembers
      split
      -- The arbiters are what is left to be refused.
      · next harbiters =>
        refine iff_of_false nofun fun h => ?_
        obtain ⟨-, -, h⟩ := h
        grind
      · next harbiters =>
        refine iff_of_true rfl ⟨hname, hmembers, ?_⟩
        grind

/-- If no hook renames a process, `build` succeeds if and only if the name and the counts are valid:
no reference can break. -/
theorem exists_build_iff (h : t.HooksKeep (·.name)) : (∃ d, t.build = .ok d) ↔
    t.name ≠ "" ∧ 0 ≤ t.members ∧ (t.arbiters = 0 ∨ 0 < t.arbiters ∧ t.arbiters < t.members) := by
  rw [← validate_eq_ok_iff]
  constructor
  · rintro ⟨d, hd⟩
    exact (build_eq_ok_iff.mp hd).1
  · intro hvalid
    have hsound : t.unversioned.HasSoundReferences := by
      refine ⟨processNames_eq h ▸ t.nodup_podNames, fun rs hrs m hm => ?_⟩
      obtain rfl := List.mem_singleton.mp hrs
      rw [processNames_eq h, ← t.map_host_replicaSet]
      exact List.mem_map_of_mem hm
    exact ⟨_, build_eq_ok_iff.mpr ⟨hvalid, Document.checkReferences_eq_ok_iff.mpr hsound, rfl⟩⟩

/-- `Cluster.podStates` looks pods up in the order in which a topology names them: the first look-up
that fails is the outcome. -/
theorem podStates_podNames (t : Topology) (c : Cluster) (namespaceName : String) (target : UInt64) :
    (c.podStates namespaceName t.name t.members.toInt.toNat t.arbiters.toInt.toNat target).map
        (·.map (·.podName)) =
      match t.podNames.findSome? (c.podFault? namespaceName) with
      | some e => .error e
      | none => .ok t.podNames := by
  rw [Cluster.podStates_eq]
  show Except.map _ (match t.podNames.findSome? (c.podFault? namespaceName) with
    | some e => _
    | none => _) = _
  cases t.podNames.findSome? (c.podFault? namespaceName) with
  | some e => rfl
  | none =>
    refine congrArg Except.ok (List.map_append.trans ?_)
    rw [Cluster.map_podName_observed, Cluster.map_podName_observed]
    rfl

/-- Whatever the hooks of `t` do, a built document names its processes for `podNames`, and its one
replica set lists the pods in their order, members that vote before arbiters that do not. If no hook
renames a process, `build` succeeds if and only if the name and the counts are valid; then names are
distinct, and so are hosts unless a hook changes one, and the states of the pods are told in the
order of the processes. -/
theorem build_pods (t : Topology) :
    (∀ d, t.build = .ok d → d.processNames.Perm (t.memberNames ++ t.arbiterNames) ∧
      ∃ rs, d.replicaSets = [rs] ∧ rs.members.map (·.host) = t.memberNames ++ t.arbiterNames ∧
        ∀ index m, rs.members[index]? = some m → m.id.toNat = index ∧
          if index < t.members.toInt.toNat then m.IsVoter else m.IsArbiter) ∧
      (t.HooksKeep (·.name) →
        ((∃ d, t.build = .ok d) ↔ t.name ≠ "" ∧ 0 ≤ t.members ∧
          (t.arbiters = 0 ∨ 0 < t.arbiters ∧ t.arbiters < t.members)) ∧
        ∀ d, t.build = .ok d → d.processNames.Nodup ∧
          (t.HooksKeep (·.hostname) → (d.processes.map (·.hostname)).Nodup) ∧
          ∀ (c : Cluster) (namespaceName : String) (target : UInt64),
            (c.podStates namespaceName t.name t.members.toInt.toNat t.arbiters.toInt.toNat
                target).map (·.map (·.podName)) =
              match d.processNames.findSome? (c.podFault? namespaceName) with
              | some e => .error e
              | none => .ok d.processNames) := by
  refine ⟨fun d hd => ⟨processNames_perm_of_build hd, replicaSets_of_build hd⟩, fun hnames =>
    ⟨exists_build_iff hnames, fun d hd => ?_⟩⟩
  obtain ⟨-, -, rfl⟩ := build_eq_ok_iff.mp hd
  have hpods : (t.unversioned.versionedAfter t.previous).processNames = t.podNames :=
    processNames_eq hnames
  rw [hpods]
  refine ⟨t.nodup_podNames, fun hhosts => ?_, t.podStates_podNames⟩
  show (t.unversioned.processes.map (·.hostname)).Nodup
  rw [hostnames_eq hhosts]
  exact t.nodup_podNames.map t.hostname_injective

/-- Two members whose hook swaps their names. -/
def swapped : Topology where
  name := "rs"
  namespaceName := "db"
  members := 2
  version := "6.0.5"
  hooks := [fun index p => { p with name := memberName "rs" (1 - index) }]

/-- The hook of `swapped` swaps the names of two members, but not their places in the replica set;
that of `trio` leaves names and hosts of three pods as they are. -/
theorem build_pods_swapped_trio :
    (∃ d rs, swapped.build = .ok d ∧ d.processNames = ["rs-1", "rs-0"] ∧
      d.processNames.Perm ["rs-0", "rs-1"] ∧ d.replicaSets = [rs] ∧
      rs.members.map (·.host) = ["rs-0", "rs-1"]) ∧
    ∃ d, trio.build = .ok d ∧ (d.processes.map (·.hostname)).Nodup ∧
      (({} : Cluster).podStates "db" "rs" 2 1 1).map (·.map (·.podName)) = .ok d.processNames := by
  have hswapped : swapped.build = .ok (swapped.unversioned.versionedAfter none) :=
    build_eq_ok (by simp [validate, swapped]) (by decide +kernel)
  have hpods : swapped.memberNames ++ swapped.arbiterNames = ["rs-0", "rs-1"] := by
    decide +kernel
  obtain ⟨hperm, rs, hrs, hhosts, -⟩ := (build_pods swapped).1 _ hswapped
  have hnames : trio.HooksKeep (·.name) := hooksKeep_of_hooks_eq rfl fun _ => rfl
  have hhostnames : trio.HooksKeep (·.hostname) := hooksKeep_of_hooks_eq rfl fun _ => rfl
  obtain ⟨-, hdistinct, hstates⟩ := ((build_pods trio).2 hnames).2 _ build_trio
  exact ⟨⟨_, rs, hswapped, by decide +kernel, hpods ▸ hperm, hrs, hpods ▸ hhosts⟩,
    _, build_trio, hdistinct hhostnames, hstates {} "db" 1⟩

/-- Two members whose hook gives both the same host. -/
def sharedHost : Topology where
  name := "rs"
  namespaceName := "db"
  members := 2
  version := "6.0.5"
  hooks := [fun _ p => { p with hostname := "shared" }]

/-- References are by name, so that the hook of `sharedHost`, which renames no process, can give
both the same host. -/
theorem hostnames_shared :
    (∀ hook ∈ sharedHost.hooks, ∀ index p, (hook index p).name = p.name) ∧
      ∃ d, sharedHost.build = .ok d ∧ d.processNames = ["rs-0", "rs-1"] ∧
        d.processes.map (·.hostname) = ["shared", "shared"] ∧
        ¬(d.processes.map (·.hostname)).Nodup := by
  have hbuild : sharedHost.build = .ok (sharedHost.unversioned.versionedAfter none) :=
    build_eq_ok (by simp [validate, sharedHost]) (by decide +kernel)
  have hhosts : (sharedHost.unversioned.versionedAfter none).processes.map (·.hostname) =
      ["shared", "shared"] := by decide +kernel
  refine ⟨fun hook hhook index p => ?_, _, hbuild, by decide +kernel, hhosts, ?_⟩
  · obtain rfl := List.mem_singleton.mp hhook
    rfl
  · rw [hhosts]
    decide

end Topology

end ReplicaControl
