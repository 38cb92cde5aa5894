import ReplicaControl.Json.Codec

/-!
# Containers

The `Container` objects of a pod: their variables, mounts, probes and privileges (specification,
section 10.4). The field names are those of the orchestrator's API, and so are the names in the
`Codec` of each record. Every field may be vacant, and is then left out of the text.
-/

namespace ReplicaControl

open MemberRule Members

/-- A `ContainerPort`: a port that a container listens on. -/
structure ContainerPort where
  name : String := ""
  containerPort : Int32 := 0
  hostPort : Int32 := 0
  protocol : String := ""
  hostIp : String := ""
deriving DecidableEq

instance : Codec ContainerPort :=
  .record ContainerPort.mk <|
    member "name" (·.name) unlessVacant <|
    member "containerPort" (·.containerPort) orVacant <|
    member "hostPort" (·.hostPort) unlessVacant <|
    member "protocol" (·.protocol) unlessVacant <|
    member "hostIP" (·.hostIp) unlessVacant done

/-- A `SecretKeySelector` or a `ConfigMapKeySelector`, which have the same fields: a key of a secret
or of a config map. -/
structure KeySelector where
  name : String := ""
  key : String := ""
  isOptional : Option Bool := none
deriving DecidableEq

instance : Codec KeySelector :=
  .record KeySelector.mk <|
    member "name" (·.name) orVacant <|
    member "key" (·.key) orVacant <|
    member "optional" (·.isOptional) unlessVacant done

/-- An `ObjectFieldSelector`: a field of the pod. -/
structure FieldSelector where
  apiVersion : String := ""
  fieldPath : String := ""
deriving DecidableEq

instance : Codec FieldSelector :=
  .record FieldSelector.mk <|
    member "apiVersion" (·.apiVersion) unlessVacant <|
    member "fieldPath" (·.fieldPath) orVacant done

/-- Where the value of an `EnvVar` is taken from. -/
structure EnvVarSource where
  secretKeyRef : Option KeySelector := none
  configMapKeyRef : Option KeySelector := none
  fieldRef : Option FieldSelector := none
deriving DecidableEq

instance : Codec EnvVarSource :=
  .record EnvVarSource.mk <|
    member "secretKeyRef" (·.secretKeyRef) unlessVacant <|
    member "configMapKeyRef" (·.configMapKeyRef) unlessVacant <|
    member "fieldRef" (·.fieldRef) unlessVacant done

/-- A variable of a container: a `value`, or where it is taken from. -/
structure EnvVar where
  name : String := ""
  value : String := ""
  valueFrom : Option EnvVarSource := none
deriving DecidableEq

instance : Codec EnvVar :=
  .record EnvVar.mk <|
    member "name" (·.name) orVacant <|
    member "value" (·.value) unlessVacant <|
    member "valueFrom" (·.valueFrom) unlessVacant done

/-- Quantities of resources, in their text form (`Quantity.bytes?`). -/
structure ResourceRequirements where
  limits : Dict String String := .empty
  requests : Dict String String := .empty
deriving DecidableEq

instance : Vacant ResourceRequirements := .ofDecidableEq {}

instance : Codec ResourceRequirements :=
  .record ResourceRequirements.mk <|
    member "limits" (·.limits) unlessVacant <|
    member "requests" (·.requests) unlessVacant done

/-- Where a container sees the `Volume` of that name. -/
structure VolumeMount where
  name : String := ""
  mountPath : String := ""
  subPath : String := ""
  readOnly : Bool := false
  mountPropagation : Option String := none
deriving DecidableEq

instance : Codec VolumeMount :=
  .record VolumeMount.mk <|
    member "name" (·.name) orVacant <|
    member "mountPath" (·.mountPath) orVacant <|
    member "subPath" (·.subPath) unlessVacant <|
    member "readOnly" (·.readOnly) unlessVacant <|
    member "mountPropagation" (·.mountPropagation) unlessVacant done

structure ExecAction where
  command : List String := []
deriving DecidableEq

instance : Codec ExecAction :=
  .record ExecAction.mk <|
    member "command" (·.command) unlessVacant done

structure TcpSocketAction where
  port : Int32 := 0
  host : String := ""
deriving DecidableEq

instance : Codec TcpSocketAction :=
  .record TcpSocketAction.mk <|
    member "port" (·.port) orVacant <|
    member "host" (·.host) unlessVacant done

structure HttpGetAction where
  path : String := ""
  port : Int32 := 0
  scheme : String := ""
deriving DecidableEq

instance : Codec HttpGetAction :=
  .record HttpGetAction.mk <|
    member "path" (·.path) unlessVacant <|
    member "port" (·.port) orVacant <|
    member "scheme" (·.scheme) unlessVacant done

/-- An action on a container: a command to run, a connection to open, or a page to get. -/
structure Handler where
  exec : Option ExecAction := none
  tcpSocket : Option TcpSocketAction := none
  httpGet : Option HttpGetAction := none
deriving DecidableEq

instance : Codec Handler :=
  .record Handler.mk <|
    member "exec" (·.exec) unlessVacant <|
    member "tcpSocket" (·.tcpSocket) unlessVacant <|
    member "httpGet" (·.httpGet) unlessVacant done

/-- A `Handler`, how often it is tried, and what counts as success. -/
structure Probe where
  handler : Handler := {}
  initialDelaySeconds : Int32 := 0
  timeoutSeconds : Int32 := 0
  periodSeconds : Int32 := 0
  successThreshold : Int32 := 0
  failureThreshold : Int32 := 0
deriving DecidableEq

/-- The actions of the `handler` are members of the probe itself, so only objects are read. -/
instance : Codec Probe :=
  .objectRecord
    (fun exec tcpSocket httpGet initial timeout period success failure =>
      Probe.mk ⟨exec, tcpSocket, httpGet⟩ initial timeout period success failure) <|
    member "exec" (·.handler.exec) unlessVacant <|
    member "tcpSocket" (·.handler.tcpSocket) unlessVacant <|
    member "httpGet" (·.handler.httpGet) unlessVacant <|
    member "initialDelaySeconds" (·.initialDelaySeconds) unlessVacant <|
    member "timeoutSeconds" (·.timeoutSeconds) unlessVacant <|
    member "periodSeconds" (·.periodSeconds) unlessVacant <|
    member "successThreshold" (·.successThreshold) unlessVacant <|
    member "failureThreshold" (·.failureThreshold) unlessVacant done

/-- A `Handler` after a container starts, and one before it stops. -/
structure Lifecycle where
  postStart : Option Handler := none
  preStop : Option Handler := none
deriving DecidableEq

instance : Codec Lifecycle :=
  .record Lifecycle.mk <|
    member "postStart" (·.postStart) unlessVacant <|
    member "preStop" (·.preStop) unlessVacant done

structure Capabilities where
  add : List String := []
  drop : List String := []
deriving DecidableEq

instance : Codec Capabilities :=
  .record Capabilities.mk <|
    member "add" (·.add) unlessVacant <|
    member "drop" (·.drop) unlessVacant done

/-- The privileges of a container, its `securityContext`. -/
structure SecurityContext where
  runAsUser : Option Int64 := none
  runAsGroup : Option Int64 := none
  runAsNonRoot : Option Bool := none
  readOnlyRootFilesystem : Option Bool := none
  allowPrivilegeEscalation : Option Bool := none
  privileged : Option Bool := none
  capabilities : Option Capabilities := none
deriving DecidableEq

instance : Codec SecurityContext :=
  .record SecurityContext.mk <|
    member "runAsUser" (·.runAsUser) unlessVacant <|
    member "runAsGroup" (·.runAsGroup) unlessVacant <|
    member "runAsNonRoot" (·.runAsNonRoot) unlessVacant <|
    member "readOnlyRootFilesystem" (·.readOnlyRootFilesystem) unlessVacant <|
    member "allowPrivilegeEscalation" (·.allowPrivilegeEscalation) unlessVacant <|
    member "privileged" (·.privileged) unlessVacant <|
    member "capabilities" (·.capabilities) unlessVacant done

/-- A container of a pod, or an entry of `initContainers`. -/
structure Container where
  name : String := ""
  image : String := ""
  imagePullPolicy : String := ""
  command : List String := []
  args : List String := []
  workingDir : String := ""
  ports : List ContainerPort := []
  env : List EnvVar := []
  resources : ResourceRequirements := {}
  volumeMounts : List VolumeMount := []
  livenessProbe : Option Probe := none
  readinessProbe : Option Probe := none
  startupProbe : Option Probe := none
  lifecycle : Option Lifecycle := none
  securityContext : Option SecurityContext := none
  terminationMessagePath : String := ""
  terminationMessagePolicy : String := ""
  stdin : Bool := false
  tty : Bool := false
deriving DecidableEq

instance : Codec Container :=
  .record Container.mk <|
    member "name" (·.name) orVacant <|
    member "image" (·.image) unlessVacant <|
    member "imagePullPolicy" (·.imagePullPolicy) unlessVacant <|
    member "command" (·.command) unlessVacant <|
    member "args" (·.args) unlessVacant <|
    member "workingDir" (·.workingDir) unlessVacant <|
    member "ports" (·.ports) unlessVacant <|
    member "env" (·.env) unlessVacant <|
    member "resources" (·.resources) unlessVacant <|
    member "volumeMounts" (·.volumeMounts) unlessVacant <|
    member "livenessProbe" (·.livenessProbe) unlessVacant <|
    member "readinessProbe" (·.readinessProbe) unlessVacant <|
    member "startupProbe" (·.startupProbe) unlessVacant <|
    member "lifecycle" (·.lifecycle) unlessVacant <|
    member "securityContext" (·.securityContext) unlessVacant <|
    member "terminationMessagePath" (·.terminationMessagePath) unlessVacant <|
    member "terminationMessagePolicy" (·.terminationMessagePolicy) unlessVacant <|
    member "stdin" (·.stdin) unlessVacant <|
    member "tty" (·.tty) unlessVacant done

end ReplicaControl
