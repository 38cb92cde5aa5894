import ReplicaControl.Cluster
import ReplicaControl.Text
import ReplicaControl.Topology.Build

/-!
# Convergence

Every agent reports the version of the document that it has applied in an annotation of its pod
(`agentVersionKey`). A replica set has converged when all its members report the version that is
wanted (specification, section 4.5).

- `Cluster.podStates`: what is known of each pod, the input of a port migration.
- `Cluster.missingPods?`: the pods that are missing, if no other lags behind.
- `Cluster.allReached`: whether a replica set has converged, `AllReachedGoalState` of the
  specification. A look-up that fails is an error; a pod that is missing is not.
-/

namespace ReplicaControl

/-- The annotation under which an agent reports a version (section 10.6). -/
def agentVersionKey : String := "agent.mongodb.com/version"

/-- What is known of a pod of a replica set (section 3): `found` if it exists, `reachedGoalState` if
it reports the version that is wanted. -/
structure PodState where
  podName : String
  found : Bool
  reachedGoalState : Bool
  isArbiter : Bool := false
deriving DecidableEq

/-- The version that `report` writes: digits after an optional `+`, with blanks around them, if it
fits 64 bits. -/
def reportedVersion? (report : String) : Option UInt64 :=
  let digits :=
    match Text.trim report.toList with
    | '+' :: cs => cs
    | cs => cs
  match Decimal.read? digits with
  | some n => if n < Nat.pow 2 64 then some n.toUInt64 else none
  | none => none

/-- Whether the agent of `p` reports the version `target`. -/
def Pod.hasReached (p : Pod) (target : UInt64) : Bool :=
  match p.annotations.get? agentVersionKey with
  | some report => reportedVersion? report == some target
  | none => false

namespace Cluster

variable (c : Cluster)

/-- What is known of the pod named `pod`. -/
def podState (namespaceName : String) (target : UInt64) (isArbiter : Bool) (pod : String) :
    Except ClientError PodState :=
  match c.pod? namespaceName pod with
  | .ok (some p) => .ok ⟨pod, true, p.hasReached target, isArbiter⟩
  | .ok none => .ok ⟨pod, false, false, isArbiter⟩
  | .error e => .error e

/-- What is known of several pods; the first failing look-up fails, and later pods are not looked
at. -/
def podStatesOf (namespaceName : String) (target : UInt64) (isArbiter : Bool) :
    List String → Except ClientError (List PodState)
  | [] => .ok []
  | pod :: pods =>
    match c.podState namespaceName target isArbiter pod with
    | .error e => .error e
    | .ok state =>
      match podStatesOf namespaceName target isArbiter pods with
      | .error e => .error e
      | .ok states => .ok (state :: states)

/-- What is known of the members `<name>-<i>`, then of the arbiters `<name>-arb-<i>`. -/
def podStates (namespaceName name : String) (members arbiters : Nat) (target : UInt64) :
    Except ClientError (List PodState) :=
  match c.podStatesOf namespaceName target false ((List.range members).map (memberName name)) with
  | .error e => .error e
  | .ok memberStates =>
    match c.podStatesOf namespaceName target true
        ((List.range arbiters).map (arbiterName name)) with
    | .error e => .error e
    | .ok arbiterStates => .ok (memberStates ++ arbiterStates)

/-- The names of the pods that do not exist yet, or `none` if a pod that exists lags behind. -/
def missingPods? : List PodState → Option (List String)
  | [] => some []
  | s :: states =>
    if !s.found then (missingPods? states).map (s.podName :: ·)
    else if !s.reachedGoalState then none
    else missingPods? states

/-- Whether the members have converged: none of them lags behind, and all of them exist or none of
them does yet. If only some are missing, those are to be scheduled again. -/
def haveReached (members : Nat) (states : List PodState) : Bool :=
  match missingPods? states with
  | none => false
  | some missing => missing.length == members || missing.isEmpty

/-- Whether the `members` members of the replica set `name` have converged to `target`. Arbiters are
not asked. -/
def allReached (namespaceName name : String) (members : Nat) (target : UInt64) :
    Except ClientError Bool :=
  match c.podStates namespaceName name members 0 target with
  | .ok states => .ok (haveReached members states)
  | .error e => .error e

end Cluster

end ReplicaControl
