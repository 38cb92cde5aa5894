import ReplicaControl.Json.Codec
import ReplicaControl.Workload.Container

/-!
# Object metadata

What every object of the cluster carries (`ObjectMeta`), and how objects are selected
(`LabelSelector`). The records of this module are the object specs of section 10.4 of the
specification, with the field names of the orchestrator's API; a `StatefulSet` is made of all
others.
-/

namespace ReplicaControl

open MemberRule Members

/-- The `metadata` of an object: its identity, and what is attached to it. -/
structure ObjectMeta where
  name : String := ""
  namespaceName : String := ""
  labels : Dict String String := .empty
  annotations : Dict String String := .empty
deriving DecidableEq

instance : Vacant ObjectMeta := .ofDecidableEq {}

instance : Codec ObjectMeta :=
  .record ObjectMeta.mk <|
    member "name" (·.name) unlessVacant <|
    member "namespace" (·.namespaceName) unlessVacant <|
    member "labels" (·.labels) unlessVacant <|
    member "annotations" (·.annotations) unlessVacant done

/-- A condition on one label, an entry of `matchExpressions`. -/
structure LabelSelectorRequirement where
  key : String := ""
  operator : String := ""
  values : List String := []
deriving DecidableEq

instance : Codec LabelSelectorRequirement :=
  .record LabelSelectorRequirement.mk <|
    member "key" (·.key) orVacant <|
    member "operator" (·.operator) orVacant <|
    member "values" (·.values) unlessVacant done

/-- Conditions on labels: fixed values (`matchLabels`), and requirements. -/
structure LabelSelector where
  matchLabels : Dict String String := .empty
  matchExpressions : List LabelSelectorRequirement := []
deriving DecidableEq

instance : Codec LabelSelector :=
  .record LabelSelector.mk <|
    member "matchLabels" (·.matchLabels) unlessVacant <|
    member "matchExpressions" (·.matchExpressions) unlessVacant done

/-- A reference to an object of the same namespace. -/
structure LocalObjectReference where
  name : String := ""
deriving DecidableEq

instance : Codec LocalObjectReference :=
  .record LocalObjectReference.mk <|
    member "name" (·.name) orVacant done

/-!
## Volumes

The entries of `PodSpec.volumes` and where their contents come from.
-/

/-- A key of a secret or config map, and the file it becomes. -/
structure KeyToPath where
  key : String := ""
  path : String := ""
  mode : Option Int32 := none
deriving DecidableEq

instance : Codec KeyToPath :=
  .record KeyToPath.mk <|
    member "key" (·.key) orVacant <|
    member "path" (·.path) orVacant <|
    member "mode" (·.mode) unlessVacant done

/-- The source `emptyDir`: a directory that lives as long as its pod. -/
structure EmptyDirVolumeSource where
  medium : String := ""
  sizeLimit : Option String := none
deriving DecidableEq

instance : Codec EmptyDirVolumeSource :=
  .record EmptyDirVolumeSource.mk <|
    member "medium" (·.medium) unlessVacant <|
    member "sizeLimit" (·.sizeLimit) unlessVacant done

/-- The source `secret`: the keys of a secret as files. -/
structure SecretVolumeSource where
  secretName : String := ""
  items : List KeyToPath := []
  defaultMode : Option Int32 := none
  isOptional : Option Bool := none
deriving DecidableEq

instance : Codec SecretVolumeSource :=
  .record SecretVolumeSource.mk <|
    member "secretName" (·.secretName) orVacant <|
    member "items" (·.items) unlessVacant <|
    member "defaultMode" (·.defaultMode) unlessVacant <|
    member "optional" (·.isOptional) unlessVacant done

/-- The source `configMap`: the keys of a config map as files. -/
structure ConfigMapVolumeSource where
  name : String := ""
  items : List KeyToPath := []
  defaultMode : Option Int32 := none
  isOptional : Option Bool := none
deriving DecidableEq

instance : Codec ConfigMapVolumeSource :=
  .record ConfigMapVolumeSource.mk <|
    member "name" (·.name) orVacant <|
    member "items" (·.items) unlessVacant <|
    member "defaultMode" (·.defaultMode) unlessVacant <|
    member "optional" (·.isOptional) unlessVacant done

/-- The source `persistentVolumeClaim`: the volume that a `Claim` was given. -/
structure ClaimVolumeSource where
  claimName : String := ""
  readOnly : Bool := false
deriving DecidableEq

instance : Codec ClaimVolumeSource :=
  .record ClaimVolumeSource.mk <|
    member "claimName" (·.claimName) orVacant <|
    member "readOnly" (·.readOnly) unlessVacant done

/-- What a `Volume` holds. At most one source is expected to be set. -/
structure VolumeSource where
  emptyDir : Option EmptyDirVolumeSource := none
  secret : Option SecretVolumeSource := none
  configMap : Option ConfigMapVolumeSource := none
  persistentVolumeClaim : Option ClaimVolumeSource := none
deriving DecidableEq

instance : Vacant VolumeSource := .ofDecidableEq {}

instance : Codec VolumeSource :=
  .record VolumeSource.mk <|
    member "emptyDir" (·.emptyDir) unlessVacant <|
    member "secret" (·.secret) unlessVacant <|
    member "configMap" (·.configMap) unlessVacant <|
    member "persistentVolumeClaim" (·.persistentVolumeClaim) unlessVacant done

/-- A volume of a pod. -/
structure Volume where
  name : String := ""
  source : VolumeSource := {}
deriving DecidableEq

/-- The `source` is written as a member of the volume itself, so only objects are read. -/
instance : Codec Volume :=
  .objectRecord
    (fun name emptyDir secret configMap claim =>
      Volume.mk name ⟨emptyDir, secret, configMap, claim⟩) <|
    member "name" (·.name) orVacant <|
    member "emptyDir" (·.source.emptyDir) unlessVacant <|
    member "secret" (·.source.secret) unlessVacant <|
    member "configMap" (·.source.configMap) unlessVacant <|
    member "persistentVolumeClaim" (·.source.persistentVolumeClaim) unlessVacant done

/-!
## Pods

The part of a pod that is described before it runs (`PodSpec`).
-/

/-- Names for the address `ip`. -/
structure HostAlias where
  ip : String := ""
  hostnames : List String := []
deriving DecidableEq

instance : Codec HostAlias :=
  .record HostAlias.mk <|
    member "ip" (·.ip) orVacant <|
    member "hostnames" (·.hostnames) unlessVacant done

structure Toleration where
  key : String := ""
  operator : String := ""
  value : String := ""
  effect : String := ""
  tolerationSeconds : Option Int64 := none
deriving DecidableEq

instance : Codec Toleration :=
  .record Toleration.mk <|
    member "key" (·.key) unlessVacant <|
    member "operator" (·.operator) unlessVacant <|
    member "value" (·.value) unlessVacant <|
    member "effect" (·.effect) unlessVacant <|
    member "tolerationSeconds" (·.tolerationSeconds) unlessVacant done

/-- How evenly pods are spread over the topology of `topologyKey`. -/
structure TopologySpreadConstraint where
  maxSkew : Int32 := 0
  topologyKey : String := ""
  whenUnsatisfiable : String := ""
  labelSelector : Option LabelSelector := none
deriving DecidableEq

instance : Codec TopologySpreadConstraint :=
  .record TopologySpreadConstraint.mk <|
    member "maxSkew" (·.maxSkew) orVacant <|
    member "topologyKey" (·.topologyKey) orVacant <|
    member "whenUnsatisfiable" (·.whenUnsatisfiable) orVacant <|
    member "labelSelector" (·.labelSelector) unlessVacant done

/-- How a pod is run. `affinity` and `securityContext` are kept as data, a `Json` as it is. -/
structure PodSpec where
  volumes : List Volume := []
  initContainers : List Container := []
  containers : List Container := []
  restartPolicy : String := ""
  terminationGracePeriodSeconds : Option Int64 := none
  activeDeadlineSeconds : Option Int64 := none
  dnsPolicy : String := ""
  nodeSelector : Dict String String := .empty
  serviceAccountName : String := ""
  automountServiceAccountToken : Option Bool := none
  nodeName : String := ""
  hostNetwork : Bool := false
  shareProcessNamespace : Option Bool := none
  securityContext : Option Json := none
  imagePullSecrets : List LocalObjectReference := []
  hostname : String := ""
  subdomain : String := ""
  affinity : Option Json := none
  schedulerName : String := ""
  tolerations : List Toleration := []
  hostAliases : List HostAlias := []
  priorityClassName : String := ""
  priority : Option Int32 := none
  topologySpreadConstraints : List TopologySpreadConstraint := []
deriving BEq

instance : Codec PodSpec :=
  .record PodSpec.mk <|
    member "volumes" (·.volumes) unlessVacant <|
    member "initContainers" (·.initContainers) unlessVacant <|
    member "containers" (·.containers) unlessVacant <|
    member "restartPolicy" (·.restartPolicy) unlessVacant <|
    member "terminationGracePeriodSeconds" (·.terminationGracePeriodSeconds) unlessVacant <|
    member "activeDeadlineSeconds" (·.activeDeadlineSeconds) unlessVacant <|
    member "dnsPolicy" (·.dnsPolicy) unlessVacant <|
    member "nodeSelector" (·.nodeSelector) unlessVacant <|
    member "serviceAccountName" (·.serviceAccountName) unlessVacant <|
    member "automountServiceAccountToken" (·.automountServiceAccountToken) unlessVacant <|
    member "nodeName" (·.nodeName) unlessVacant <|
    member "hostNetwork" (·.hostNetwork) unlessVacant <|
    member "shareProcessNamespace" (·.shareProcessNamespace) unlessVacant <|
    member "securityContext" (·.securityContext) unlessVacant <|
    member "imagePullSecrets" (·.imagePullSecrets) unlessVacant <|
    member "hostname" (·.hostname) unlessVacant <|
    member "subdomain" (·.subdomain) unlessVacant <|
    member "affinity" (·.affinity) unlessVacant <|
    member "schedulerName" (·.schedulerName) unlessVacant <|
    member "tolerations" (·.tolerations) unlessVacant <|
    member "hostAliases" (·.hostAliases) unlessVacant <|
    member "priorityClassName" (·.priorityClassName) unlessVacant <|
    member "priority" (·.priority) unlessVacant <|
    member "topologySpreadConstraints" (·.topologySpreadConstraints) unlessVacant done

/-- The `template` that the pods of a `StatefulSet` are made from. -/
structure PodTemplateSpec where
  metadata : ObjectMeta := {}
  spec : PodSpec := {}
deriving BEq

instance : Codec PodTemplateSpec :=
  .record PodTemplateSpec.mk <|
    member "metadata" (·.metadata) unlessVacant <|
    member "spec" (·.spec) (orElse {}) done

/-!
## Stateful sets

Sets of pods with stable names (`StatefulSet`), and the volume claims that are made for each of
them (`Claim`).
-/

/-- A `PersistentVolumeClaimSpec`: the volume that a `Claim` asks for. -/
structure ClaimSpec where
  accessModes : List String := []
  selector : Option LabelSelector := none
  resources : ResourceRequirements := {}
  storageClassName : Option String := none
  volumeMode : Option String := none
deriving DecidableEq

instance : Codec ClaimSpec :=
  .record ClaimSpec.mk <|
    member "accessModes" (·.accessModes) unlessVacant <|
    member "selector" (·.selector) unlessVacant <|
    member "resources" (·.resources) unlessVacant <|
    member "storageClassName" (·.storageClassName) unlessVacant <|
    member "volumeMode" (·.volumeMode) unlessVacant done

/-- A `PersistentVolumeClaim`, as the entries of `volumeClaimTemplates` are: the pods of a set are
each given a volume of their own by it. -/
structure Claim where
  metadata : ObjectMeta := {}
  spec : ClaimSpec := {}
deriving DecidableEq

instance : Codec Claim :=
  .record Claim.mk <|
    member "metadata" (·.metadata) (orElse {}) <|
    member "spec" (·.spec) (orElse {}) done

/-- How pods are replaced, `type` and parameters. `rollingUpdate` is kept as data, a
`Json` as it is. -/
structure UpdateStrategy where
  kind : String := ""
  rollingUpdate : Option Json := none
deriving BEq

instance : Vacant UpdateStrategy where
  vacant := {}
  isVacant s := s.kind == "" && s.rollingUpdate.isNone
  isVacant_iff s := by
    obtain ⟨kind, update⟩ := s
    simp

instance : Codec UpdateStrategy :=
  .record UpdateStrategy.mk <|
    member "type" (·.kind) unlessVacant <|
    member "rollingUpdate" (·.rollingUpdate) unlessVacant done

/-- The `spec` of a `StatefulSet`: how its pods are made, named and replaced. -/
structure StatefulSetSpec where
  replicas : Option Int32 := none
  selector : Option LabelSelector := none
  template : PodTemplateSpec := {}
  volumeClaimTemplates : List Claim := []
  serviceName : String := ""
  podManagementPolicy : String := ""
  updateStrategy : UpdateStrategy := {}
  revisionHistoryLimit : Option Int32 := none
deriving BEq

instance : Codec StatefulSetSpec :=
  .record StatefulSetSpec.mk <|
    member "replicas" (·.replicas) unlessVacant <|
    member "selector" (·.selector) unlessVacant <|
    member "template" (·.template) (orElse {}) <|
    member "volumeClaimTemplates" (·.volumeClaimTemplates) unlessVacant <|
    member "serviceName" (·.serviceName) unlessVacant <|
    member "podManagementPolicy" (·.podManagementPolicy) unlessVacant <|
    member "updateStrategy" (·.updateStrategy) unlessVacant <|
    member "revisionHistoryLimit" (·.revisionHistoryLimit) unlessVacant done

/-- A stateful workload: a set of pods with stable names and volumes, one for every process. -/
structure StatefulSet where
  metadata : ObjectMeta := {}
  spec : StatefulSetSpec := {}
deriving BEq

instance : Codec StatefulSet :=
  .record StatefulSet.mk <|
    member "metadata" (·.metadata) (orElse {}) <|
    member "spec" (·.spec) (orElse {}) done

end ReplicaControl
