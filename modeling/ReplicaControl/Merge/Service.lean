import ReplicaControl.Json.Codec
import ReplicaControl.Merge.Container

/-!
# Services

The `Service` of a replica set: the ports under which its pods are reached (specification, section
10.4). `PortAssignment.externalPorts` gives its ports during a migration.
-/

namespace ReplicaControl

open MemberRule Members

/-- A port of a service: `port` is the one that is exposed, `targetPort` that of the pods. -/
structure ServicePort where
  name : String := ""
  port : Int32 := 0
  targetPort : Option Int32 := none
  protocol : String := ""
deriving DecidableEq

instance : Codec ServicePort :=
  .record ServicePort.mk <|
    member "name" (·.name) unlessVacant <|
    member "port" (·.port) orVacant <|
    member "targetPort" (·.targetPort) unlessVacant <|
    member "protocol" (·.protocol) unlessVacant done

/-- The `spec` of a `Service`: how pods are reached under one name. -/
structure ServiceSpec where
  ports : List ServicePort := []
  selector : Dict String String := .empty
  clusterIp : String := ""
  kind : String := ""
  publishNotReadyAddresses : Bool := false
deriving DecidableEq

instance : Codec ServiceSpec :=
  .record ServiceSpec.mk <|
    member "ports" (·.ports) unlessVacant <|
    member "selector" (·.selector) unlessVacant <|
    member "clusterIP" (·.clusterIp) unlessVacant <|
    member "type" (·.kind) unlessVacant <|
    member "publishNotReadyAddresses" (·.publishNotReadyAddresses) unlessVacant done

/-!
## Merging services

Ports are matched by `name`, selectors are joined, and the address `clusterIp` is that of the
baseline (section 10.4).
-/

instance : Merge ServicePort where
  merge a b :=
    { name := prefer a.name b.name
      port := prefer a.port b.port
      targetPort := prefer a.targetPort b.targetPort
      protocol := prefer a.protocol b.protocol }

/-- `clusterIp` is kept: the cluster allocates it and refuses to change it. -/
instance : Merge ServiceSpec where
  merge a b :=
    { ports := mergeKeyed (·.name) a.ports b.ports
      selector := a.selector.union b.selector
      clusterIp := prefer b.clusterIp a.clusterIp
      kind := prefer a.kind b.kind
      publishNotReadyAddresses := prefer a.publishNotReadyAddresses b.publishNotReadyAddresses }

end ReplicaControl
