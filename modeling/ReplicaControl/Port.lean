import ReplicaControl.Convergence
import ReplicaControl.Dict
import ReplicaControl.Merge.Service

/-!
# Port migration

A replica set moves to another port one process at a time (specification, section 4.4): a pass
changes the port of at most one pod, and only when every pod that exists has reached the document's
version. There is no state between passes: the current ports are those of the document that is
stored.

- `PortAssignment.compute`: the ports of a pass, `ComputeTargetPorts` of the specification.
- `PortAssignment.externalPorts`: the ports of the service meanwhile, `ComputeExternalPorts`.
- `Document.withPorts`: the document with the port map applied, `apply_port_map` of section 10.5.
-/

namespace ReplicaControl

/-- Where a change of ports stands, as `PortAssignment.compute` finds it. -/
inductive PortChange where
  /-- Every pod has the expected port. -/
  | idle
  /-- Some pod has another port, and some pod that exists has not reached the goal state. -/
  | pending
  /-- One pod is moved: the first that has another port. -/
  | inProgress
deriving DecidableEq

/-- The ports of the pods for one pass, `ComputeTargetPorts` of section 4.4, in the order of the
pods. -/
structure PortAssignment where
  ports : List (String × UInt16)
  change : PortChange
  /-- The port that pods are moved away from, that of the first misplaced pod; the expected one if
  `change` is `idle`. -/
  oldPort : UInt16
deriving DecidableEq

/-- `d` with the ports of its processes taken from `ports`; only ports change. -/
def Document.withPorts (d : Document) (ports : Dict String UInt16) : Document :=
  { d with
    processes := d.processes.map fun p =>
      match ports.get? p.name with
      | some port => p.withPort port
      | none => p }

namespace PortAssignment

/-- The port of `pod`. -/
def portOf? (a : PortAssignment) (pod : String) : Option UInt16 := a.ports.lookup pod

/-- The ports by pod: the port map of section 10.5. -/
def toDict (a : PortAssignment) : Dict String UInt16 := .ofList a.ports

/-- `d` with the ports of the assignment `a`. -/
def applyTo (a : PortAssignment) (d : Document) : Document := d.withPorts a.toDict

/-- The port of `pod` in `d`; a pod without a process, or with port `0`, has the expected one. -/
def currentPort (expected : UInt16) (d : Document) (pod : String) : UInt16 :=
  match d.process? pod with
  | some p => if p.port = 0 then expected else p.port
  | none => expected

/-- Gives `expected` to the first pod that has another port, and leaves the rest. -/
def moveFirst (expected : UInt16) : List (String × UInt16) → List (String × UInt16)
  | [] => []
  | (pod, port) :: rest =>
    if port = expected then (pod, port) :: moveFirst expected rest else (pod, expected) :: rest

/-- The ports of a pass over the pods `states`, whose processes are in `d`. The gate holds the pass
(`pending`) while a pod that was found lags behind, and only if there is a pod to move. -/
def compute (expected : UInt16) (states : List PodState) (d : Document) : PortAssignment :=
  let ports := states.map fun s => (s.podName, currentPort expected d s.podName)
  match ports.find? (·.2 != expected) with
  | none => ⟨ports, .idle, expected⟩
  | some (_, oldPort) =>
    if states.any fun s => s.found && !s.reachedGoalState then ⟨ports, .pending, oldPort⟩
    else ⟨moveFirst expected ports, .inProgress, oldPort⟩

/-- The `name` of the service's port, of the old one while pods are moved. -/
def servicePortName : String := "mongodb"

/-- The `name` of the service's port that pods are moved to. -/
def newServicePortName : String := "mongodb-new"

/-- `port` as the number of a `ServicePort`. -/
def portNumber (port : UInt16) : Int32 := .ofInt port.toNat

/-- The ports of the service: `expected`, and while pods are moved `oldPort` beside it. -/
def externalPorts (expected : UInt16) (a : PortAssignment) : List ServicePort :=
  if a.change = .idle ∨ a.oldPort = expected then
    [{ name := servicePortName, port := portNumber expected }]
  else
    [{ name := newServicePortName, port := portNumber expected },
     { name := servicePortName, port := portNumber a.oldPort }]

end PortAssignment

end ReplicaControl
