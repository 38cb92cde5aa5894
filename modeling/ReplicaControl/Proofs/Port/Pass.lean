import Mathlib.Data.List.Nodup
import ReplicaControl.Document.References
import ReplicaControl.Port
import ReplicaControl.Proofs.Dict

/-!
# One pass of a port migration

What a pass (`PortAssignment.pass`) does to the processes of a document, for a document whose
processes have distinct names and for distinct pods (specification, section 4.4).

- **Ports** (`compute_eq`, `compute_ports`): the port that each pod is given (`nextPort`).
- **Reports** (`change_eq_idle_iff`, `change_eq_inProgress_iff`): what a pass reports.
- **Processes** (`pass_eq`): each of them after a pass (`settled`); it keeps everything but its
  port.
- **At most one** (`moved_pass`): the processes that lose a port are those of `movedPod?`, which is
  one pod or none.
- **Progress** (`length_misplaced_pass`): a pass that moves a pod leaves one fewer to move.
-/

namespace ReplicaControl

/-! ## Processes and their ports -/

namespace Process

@[simp] theorem port_withPort (p : Process) (port : UInt16) : (p.withPort port).port = port := rfl

@[simp] theorem name_withPort (p : Process) (port : UInt16) : (p.withPort port).name = p.name := rfl

@[simp] theorem withPort_port (p : Process) : p.withPort p.port = p := rfl

/-- Whether `p` has a port, and not the expected one. -/
def isMisplaced (expected : UInt16) (p : Process) : Bool := p.port != 0 && p.port != expected

end Process

namespace Document

/-- `withPorts` gives a process another port if there is one for its name. -/
theorem processes_withPorts (d : Document) (ports : Dict String UInt16) :
    (d.withPorts ports).processes =
      d.processes.map fun p => ((ports.get? p.name).map p.withPort).getD p := by
  refine List.map_congr_left fun p _ => ?_
  cases ports.get? p.name <;> rfl

/-- A document whose processes have the given names and ports. -/
def ofPorts (ports : List (String × UInt16)) : Document :=
  { processes := ports.map fun (name, port) =>
      { name, hostname := name, args := { net := { port } }, version := "6.0.5" } }

variable {d : Document}

/-- The only process of a name is the one that `process?` finds. -/
theorem process?_eq_some_iff (hd : d.processNames.Nodup) {name : String} {p : Process} :
    d.process? name = some p ↔ p ∈ d.processes ∧ p.name = name := by
  constructor
  · intro h
    exact ⟨List.mem_of_find?_eq_some h, by simpa using List.find?_some h⟩
  · rintro ⟨hp, rfl⟩
    cases hf : d.process? p.name with
    | none => simpa using List.find?_eq_none.mp hf p hp
    | some q =>
      have hq : q.name = p.name := by simpa using List.find?_some hf
      rw [List.inj_on_of_nodup_map hd (List.mem_of_find?_eq_some hf) hp hq]

/-- Whether the process of `pod` has a port, and not the expected one. -/
def isMisplaced (d : Document) (expected : UInt16) (pod : String) : Bool :=
  (d.process? pod).any (·.isMisplaced expected)

/-- The processes of `pods` that have a port, and not the expected one: those that are left to move.
-/
def misplaced (d : Document) (expected : UInt16) (pods : List String) : List Process :=
  d.processes.filter fun p => pods.contains p.name && p.isMisplaced expected

/-- The names of the processes that had a port in `d` and have another one in `d'`. -/
def moved (d d' : Document) : List String :=
  ((d.processes.zip d'.processes).filter fun (p, q) =>
    p.port != 0 && q.port != p.port).map (·.1.name)

theorem isMisplaced_name (hd : d.processNames.Nodup) (expected : UInt16) {p : Process}
    (hp : p ∈ d.processes) : d.isMisplaced expected p.name = p.isMisplaced expected := by
  rw [isMisplaced, (process?_eq_some_iff hd).mpr ⟨hp, rfl⟩, Option.any_some]

end Document

/-! ## The ports of a pass -/

namespace PortAssignment

variable {expected : UInt16} {states : List PodState} {d : Document}

/-- The names of the pods of a pass, in the order of its `states`. -/
def podNames (states : List PodState) : List String := states.map (·.podName)

/-- Some pod that exists has not converged: the gate of section 4.4. -/
def isHeld (states : List PodState) : Bool := states.any fun s => s.found && !s.reachedGoalState

/-- The pod that a pass moves: the first misplaced one, unless the pass `isHeld`. -/
def movedPod? (expected : UInt16) (states : List PodState) (d : Document) : Option String :=
  if isHeld states then none else (podNames states).find? (d.isMisplaced expected)

/-- The port that a pass gives to `pod`. -/
def nextPort (expected : UInt16) (states : List PodState) (d : Document) (pod : String) : UInt16 :=
  if movedPod? expected states d = some pod then expected else currentPort expected d pod

/-- A pod `isMisplaced` if its `currentPort` is not the expected one. -/
theorem currentPort_bne (expected : UInt16) (d : Document) (pod : String) :
    (currentPort expected d pod != expected) = d.isMisplaced expected pod := by
  unfold currentPort Document.isMisplaced
  cases d.process? pod with
  | none => simp
  | some p => by_cases hp : p.port = 0 <;> simp [Process.isMisplaced, hp]

/-- The first pod with another port than `expected` is given that. -/
theorem moveFirst_map (expected : UInt16) (port : String → UInt16) {pods : List String}
    (hpods : pods.Nodup) :
    moveFirst expected (pods.map fun pod => (pod, port pod)) =
      pods.map fun pod =>
        (pod, if pods.find? (port · != expected) = some pod then expected else port pod) := by
  induction pods with
  | nil => rfl
  | cons pod rest ih =>
    obtain ⟨hpod, hrest⟩ := List.nodup_cons.mp hpods
    by_cases h : port pod = expected
    · have hfind : (pod :: rest).find? (port · != expected) = rest.find? (port · != expected) := by
        simp [h]
      have hne : rest.find? (port · != expected) ≠ some pod := fun hf =>
        hpod (List.mem_of_find?_eq_some hf)
      simp only [List.map_cons, moveFirst, if_pos h, ih hrest, hfind, if_neg hne]
    -- The search ends here, and pods are distinct, so the rest keeps its ports.
    · have hfind : (pod :: rest).find? (port · != expected) = some pod := by simp [h]
      simp only [List.map_cons, moveFirst, if_neg h, hfind, if_true]
      congr 1
      refine List.map_congr_left fun other hother => ?_
      rw [if_neg]
      rintro ⟨⟩
      exact hpod hother

/-- `compute`, told by the pods: the pass is `idle` if no pod is misplaced; otherwise the port of
the first misplaced pod is `oldPort`, and that pod is moved unless the pass `isHeld`. -/
theorem compute_eq (expected : UInt16) (states : List PodState) (d : Document) :
    compute expected states d =
      let ports := (podNames states).map fun pod => (pod, currentPort expected d pod)
      match (podNames states).find? (d.isMisplaced expected) with
      | none => ⟨ports, .idle, expected⟩
      | some pod =>
        if isHeld states then ⟨ports, .pending, currentPort expected d pod⟩
        else ⟨moveFirst expected ports, .inProgress, currentPort expected d pod⟩ := by
  have hports : (states.map fun s => (s.podName, currentPort expected d s.podName)) =
      (podNames states).map fun pod => (pod, currentPort expected d pod) := by
    rw [podNames, List.map_map]; rfl
  have hfind : ((podNames states).map fun pod => (pod, currentPort expected d pod)).find?
        (·.2 != expected) = ((podNames states).find? (d.isMisplaced expected)).map
          fun pod => (pod, currentPort expected d pod) := by
    have h : ((fun e : String × UInt16 => e.2 != expected) ∘
        fun pod => (pod, currentPort expected d pod)) = d.isMisplaced expected :=
      funext (currentPort_bne expected d)
    rw [List.find?_map, h]
  unfold compute
  simp only [hports, hfind]
  cases (podNames states).find? (d.isMisplaced expected) <;> rfl

/-- A pass is `idle` if no pod is misplaced, else `pending` if it `isHeld`, else `inProgress`. -/
theorem compute_change (expected : UInt16) (states : List PodState) (d : Document) :
    (compute expected states d).change =
      if (podNames states).find? (d.isMisplaced expected) = none then .idle
      else if isHeld states then .pending else .inProgress := by
  rw [compute_eq]
  cases (podNames states).find? (d.isMisplaced expected) with
  | none => rfl
  | some pod => cases isHeld states <;> simp

/-- A pass is `idle` if and only if no pod is misplaced. -/
theorem change_eq_idle_iff :
    (compute expected states d).change = .idle ↔
      ∀ pod ∈ podNames states, d.isMisplaced expected pod = false := by
  rw [compute_change]
  split
  · next h => simpa using h
  · next h =>
    have : ¬∀ pod ∈ podNames states, d.isMisplaced expected pod = false := fun hall =>
      h (List.find?_eq_none.mpr fun pod hpod => by simp [hall pod hpod])
    split <;> simpa using this

/-- A pass is in progress if and only if it moves a pod, `movedPod?`. -/
theorem change_eq_inProgress_iff :
    (compute expected states d).change = .inProgress ↔ (movedPod? expected states d).isSome := by
  rw [compute_change, movedPod?]
  cases hf : (podNames states).find? (d.isMisplaced expected) <;> cases isHeld states <;> simp

/-- The `ports` of a pass over distinct pods. -/
theorem compute_ports (hpods : (podNames states).Nodup) :
    (compute expected states d).ports =
      (podNames states).map fun pod => (pod, nextPort expected states d pod) := by
  unfold nextPort movedPod?
  rw [compute_eq]
  cases hf : (podNames states).find? (d.isMisplaced expected) with
  | none => simp
  | some pod =>
    cases hh : isHeld states with
    | true => simp
    | false =>
      simp only [Bool.false_eq_true, if_false]
      rw [moveFirst_map expected _ hpods]
      simp only [currentPort_bne, hf]

/-- The port of `pod` in the dictionary of a pass. -/
theorem get?_toDict_compute (hpods : (podNames states).Nodup) (pod : String) :
    (compute expected states d).toDict.get? pod =
      if pod ∈ podNames states then some (nextPort expected states d pod) else none := by
  have hkeys : ((compute expected states d).ports.map (·.1)) = podNames states := by
    rw [compute_ports hpods, List.map_map]
    exact List.map_id'' (fun _ => rfl) _
  unfold toDict
  split
  · next h =>
    refine (Dict.get?_ofList_eq_some_iff (hkeys ▸ hpods)).mpr ?_
    rw [compute_ports hpods]
    exact List.mem_map_of_mem h
  · next h => exact Dict.get?_ofList_eq_none_iff.mpr (hkeys ▸ h)

/-! ## The document after a pass -/

/-- The document after a pass over the pods `states`. -/
def pass (expected : UInt16) (states : List PodState) (d : Document) : Document :=
  (compute expected states d).applyTo d

/-- The process `p` after a pass. -/
def settled (expected : UInt16) (states : List PodState) (d : Document) (p : Process) : Process :=
  if p.name ∈ podNames states then p.withPort (nextPort expected states d p.name) else p

@[simp] theorem name_settled (p : Process) : (settled expected states d p).name = p.name := by
  unfold settled
  split <;> rfl

/-- `settled` keeps everything of a process but its `port`. -/
theorem settled_eq_withPort (p : Process) :
    settled expected states d p = p.withPort (settled expected states d p).port := by
  unfold settled
  split <;> rfl

/-- A pass changes the processes one by one, as `settled` says, and nothing else. -/
theorem pass_eq (hpods : (podNames states).Nodup) :
    pass expected states d = { d with processes := d.processes.map (settled expected states d) } := by
  unfold pass applyTo Document.withPorts settled
  congr 1
  refine List.map_congr_left fun p _ => ?_
  rw [get?_toDict_compute hpods]
  by_cases hp : p.name ∈ podNames states
  · rw [if_pos hp, if_pos hp]
  · rw [if_neg hp, if_neg hp]

@[simp] theorem processNames_pass (hpods : (podNames states).Nodup) :
    (pass expected states d).processNames = d.processNames := by
  rw [pass_eq hpods, Document.processNames, List.map_map]
  exact List.map_congr_left fun p _ => name_settled p

/-- The pod that a pass moves is misplaced, and every pod that exists has converged. -/
theorem movedPod?_eq_some {pod : String} (h : movedPod? expected states d = some pod) :
    isHeld states = false ∧ pod ∈ podNames states ∧ d.isMisplaced expected pod = true := by
  unfold movedPod? at h
  split at h
  · cases h
  · next hheld =>
    exact ⟨by simpa using hheld, List.mem_of_find?_eq_some h, List.find?_some h⟩

/-- The port of a listed process after a pass: `expected` if it had none or is moved, and the one
that it had otherwise. -/
theorem port_settled_of_mem (hd : d.processNames.Nodup) {p : Process} (hp : p ∈ d.processes)
    (hpod : p.name ∈ podNames states) :
    (settled expected states d p).port =
      if p.port = 0 ∨ movedPod? expected states d = some p.name then expected else p.port := by
  have hcur : currentPort expected d p.name = if p.port = 0 then expected else p.port := by
    rw [currentPort, (Document.process?_eq_some_iff hd).mpr ⟨hp, rfl⟩]
  rw [settled, if_pos hpod, Process.port_withPort, nextPort, hcur]
  by_cases h₀ : p.port = 0 <;> simp [h₀]

theorem settled_of_not_mem {p : Process} (hpod : p.name ∉ podNames states) :
    settled expected states d p = p := if_neg hpod

/-- The process of `movedPod?` is the only one of its name. -/
theorem filter_movedPod? (hd : d.processNames.Nodup) :
    (d.processes.filter fun p => movedPod? expected states d == some p.name).map (·.name) =
      (movedPod? expected states d).toList := by
  cases hm : movedPod? expected states d with
  | none => simp
  | some pod =>
    obtain ⟨-, -, hmis⟩ := movedPod?_eq_some hm
    have hpod : pod ∈ d.processNames := by
      obtain ⟨p, hp, -⟩ := (Option.any_eq_true _ _).mp hmis
      obtain ⟨hmem, rfl⟩ := (Document.process?_eq_some_iff hd).mp hp
      exact List.mem_map_of_mem hmem
    have hcomm : (d.processes.filter fun p => some pod == some p.name).map (·.name) =
        d.processNames.filter (· == pod) := by
      rw [Document.processNames, List.filter_map]
      congr 1
      refine List.filter_congr fun p _ => ?_
      simp [eq_comm]
    rw [hcomm, List.filter_beq, List.count_eq_one_of_mem hd hpod]
    rfl

/-- A process that had a port is given another one exactly if its pod is `movedPod?`. -/
theorem port_settled_bne (hd : d.processNames.Nodup) {p : Process} (hp : p ∈ d.processes) :
    (p.port != 0 && (settled expected states d p).port != p.port) =
      (movedPod? expected states d == some p.name) := by
  by_cases hm : movedPod? expected states d = some p.name
  · obtain ⟨-, hpod, hmis⟩ := movedPod?_eq_some hm
    rw [Document.isMisplaced_name hd expected hp] at hmis
    simp only [Process.isMisplaced, Bool.and_eq_true, bne_iff_ne] at hmis
    rw [port_settled_of_mem hd hp hpod, if_pos (.inr hm), hm]
    simp [hmis.1, Ne.symm hmis.2]
  -- A pod that is not moved keeps its port, unless it had none; a port given then does not count.
  · have hsame : p.port = 0 ∨ (settled expected states d p).port = p.port := by
      by_cases hpod : p.name ∈ podNames states
      · rw [port_settled_of_mem hd hp hpod]
        by_cases h₀ : p.port = 0
        · exact .inl h₀
        · exact .inr (if_neg (by simp [h₀, hm]))
      · exact .inr (by rw [settled_of_not_mem hpod])
    have hne : (movedPod? expected states d == some p.name) = false := by simpa using hm
    rw [hne]
    rcases hsame with h | h <;> simp [h]

/-- The processes before and after a pass, side by side: each with what `settled` makes of it. -/
theorem zip_pass (hpods : (podNames states).Nodup) :
    d.processes.zip (pass expected states d).processes =
      d.processes.map fun p => (p, settled expected states d p) := by
  rw [pass_eq hpods, List.zip, List.zipWith_map_right, List.zipWith_self]

/-- The processes that lose a port in a pass: that of `movedPod?`, or none. -/
theorem moved_pass (hd : d.processNames.Nodup) (hpods : (podNames states).Nodup) :
    d.moved (pass expected states d) = (movedPod? expected states d).toList := by
  rw [Document.moved, zip_pass hpods, List.filter_map, List.map_map, ← filter_movedPod? hd]
  congr 1
  exact List.filter_congr fun p hp => port_settled_bne hd hp

/-- A pass that moves a pod leaves one misplaced process fewer, any other pass leaves as many. -/
theorem length_misplaced_pass (expected : UInt16) (hd : d.processNames.Nodup)
    (hpods : (podNames states).Nodup) :
    ((pass expected states d).misplaced expected (podNames states)).length +
        (movedPod? expected states d).toList.length =
      (d.misplaced expected (podNames states)).length := by
  let listed : Process → Bool := fun p =>
    (podNames states).contains p.name && p.isMisplaced expected
  let isMoved : Process → Bool := fun p => movedPod? expected states d == some p.name
  -- After the pass the misplaced processes are those of before without the moved one, which was one
  -- of them: the two counts below add up.
  have hkept : ∀ p ∈ d.processes,
      listed (settled expected states d p) = (listed p && !isMoved p) := by
    intro p hp
    simp only [listed, isMoved, name_settled, ← port_settled_bne hd hp, Process.isMisplaced]
    by_cases hpod : p.name ∈ podNames states
    · rw [port_settled_of_mem hd hp hpod]
      by_cases h₀ : p.port = 0
      · simp [h₀]
      · by_cases hm : movedPod? expected states d = some p.name
        · simp [hm, h₀, bne_comm (a := expected)]
        · simp [hm, h₀]
    · simp [hpod]
  have hmoved : ∀ p ∈ d.processes, (listed p && isMoved p) = isMoved p := by
    intro p hp
    cases hm : isMoved p with
    | false => simp
    | true =>
      obtain ⟨-, hpod, hmis⟩ := movedPod?_eq_some (beq_iff_eq.mp hm)
      rw [Document.isMisplaced_name hd expected hp] at hmis
      simp [listed, hpod, hmis]
  have hcount : (movedPod? expected states d).toList.length = d.processes.countP isMoved := by
    rw [← filter_movedPod? hd, List.length_map, List.countP_eq_length_filter]
  calc ((pass expected states d).misplaced expected (podNames states)).length +
        (movedPod? expected states d).toList.length
      = d.processes.countP (fun p => listed p && !isMoved p) +
          d.processes.countP (fun p => listed p && isMoved p) := by
        rw [Document.misplaced, ← List.countP_eq_length_filter, pass_eq hpods, List.countP_map,
          hcount]
        congr 1
        · exact List.countP_congr fun p hp => by rw [← hkept p hp]; rfl
        · exact List.countP_congr fun p hp => by rw [hmoved p hp]
    _ = d.processes.countP listed := by
        rw [List.countP_eq_countP_filter_add d.processes listed isMoved]
        simp only [List.countP_filter]
        omega
    _ = (d.misplaced expected (podNames states)).length := List.countP_eq_length_filter

end PortAssignment

end ReplicaControl
