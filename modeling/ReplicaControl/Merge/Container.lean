import ReplicaControl.Dict
import ReplicaControl.Workload.Container

/-!
# Merging

An object is laid over a baseline (specification, section 4.3). A vacant field keeps the baseline's
value and any other one replaces it (`prefer`), dictionaries are joined (`Dict.union`), lists of
entries with keys are matched by key, and lists of texts that stand for sets are united. Merging
never fails.

- `Merge`: the class of what can be laid over a baseline.
- `mergeKeyed`: ordered lists keyed by a name or an identity.
- `uniteTexts`: string lists that stand for sets. The union is not sorted as a whole: it keeps the
  order of the baseline.
-/

namespace ReplicaControl

/-- Values that can be laid over each other. -/
class Merge (α : Type) where
  /-- The baseline with an override laid over it. -/
  merge : α → α → α

export Merge (merge)

/-- A value that only one side has is kept; two are merged by `merge`. -/
instance {α : Type} [Merge α] : Merge (Option α) where
  merge
    | some base, some override => some (merge base override)
    | none, some override => some override
    | base, none => base

/-- Whether `a` goes before an entry `added` to a list: unless its key is greater. -/
def precedes {α κ : Type} [Ord κ] (key : α → κ) (a added : α) : Bool :=
  (compare (key a) (key added)).isLE

section Keyed

variable {α κ : Type} [Merge α] [Ord κ] [Std.TransOrd κ]

/-- The last entry of each key, in the order of the keys. -/
def byKey (key : α → κ) (as : List α) : Dict κ α := .ofList (as.map fun a => (key a, a))

/-- The entries of `base`, each with the entry of `override` that has its key laid over it. -/
def mergeMatched (key : α → κ) (base override : List α) : List α :=
  base.map fun a =>
    match (byKey key override).get? (key a) with
    | some o => merge a o
    | none => a

/-- The entries of `override` whose key no entry of `base` has, in the order of their keys. -/
def addedEntries (key : α → κ) (base override : List α) : List α :=
  (byKey key override).values.filter fun o =>
    !base.any fun a => compare (key a) (key o) == .eq

/-- The keyed merge of lists. The entries of `base` keep their order; each entry that only
`override` has is put before the first entry with a greater key. Of overrides with the same key the
last one counts. -/
def mergeKeyed (key : α → κ) (base override : List α) : List α :=
  (mergeMatched key base override).merge (addedEntries key base override) (precedes key)

end Keyed

/-- The set merge of string lists. `base` is kept as it is; each text that only `override` has is
put before the first greater text. -/
def uniteTexts (base override : List String) : List String :=
  let added := ((override.filter (!base.contains ·)).mergeSort (precedes id)).eraseReps
  base.merge added (precedes id)

/-!
## Merging containers

`ContainerPort`, `EnvVar` and `VolumeMount` entries are matched by key; the command of a container
and its arguments are replaced (specification, sections 4.3 and 10.4).
-/

/-- A port is known by its name, one without a name by its number. -/
def portKey (p : ContainerPort) : String × Int32 :=
  if p.name.isEmpty then ("", p.containerPort) else (p.name, 0)

instance : Merge ContainerPort where
  merge a b :=
    { name := prefer a.name b.name
      containerPort := prefer a.containerPort b.containerPort
      hostPort := prefer a.hostPort b.hostPort
      protocol := prefer a.protocol b.protocol
      hostIp := prefer a.hostIp b.hostIp }

/-- `value` and `valueFrom` exclude each other (section 10.4); whichever the override has counts,
the value first, and clears the other one. -/
instance : Merge EnvVar where
  merge a b :=
    if !b.value.isEmpty then { a with value := b.value, valueFrom := none }
    else if b.valueFrom.isSome then { a with value := "", valueFrom := b.valueFrom }
    else a

instance : Merge ResourceRequirements where
  merge a b :=
    { limits := a.limits.union b.limits
      requests := a.requests.union b.requests }

/-- A mount is known by its volume and its paths: `name`, `mountPath` and `subPath`. -/
def mountKey (m : VolumeMount) : String × String × String := (m.name, m.mountPath, m.subPath)

instance : Merge VolumeMount where
  merge a b :=
    { name := prefer a.name b.name
      mountPath := prefer a.mountPath b.mountPath
      subPath := prefer a.subPath b.subPath
      readOnly := prefer a.readOnly b.readOnly
      mountPropagation := prefer a.mountPropagation b.mountPropagation }

instance : Merge ExecAction where
  merge a b :=
    { command := prefer a.command b.command }

instance : Merge TcpSocketAction where
  merge a b :=
    { port := prefer a.port b.port
      host := prefer a.host b.host }

instance : Merge HttpGetAction where
  merge a b :=
    { path := prefer a.path b.path
      port := prefer a.port b.port
      scheme := prefer a.scheme b.scheme }

instance : Merge Handler where
  merge a b :=
    { exec := merge a.exec b.exec
      tcpSocket := merge a.tcpSocket b.tcpSocket
      httpGet := merge a.httpGet b.httpGet }

instance : Merge Probe where
  merge a b :=
    { handler := merge a.handler b.handler
      initialDelaySeconds := prefer a.initialDelaySeconds b.initialDelaySeconds
      timeoutSeconds := prefer a.timeoutSeconds b.timeoutSeconds
      periodSeconds := prefer a.periodSeconds b.periodSeconds
      successThreshold := prefer a.successThreshold b.successThreshold
      failureThreshold := prefer a.failureThreshold b.failureThreshold }

instance : Merge Lifecycle where
  merge a b :=
    { postStart := merge a.postStart b.postStart
      preStop := merge a.preStop b.preStop }

instance : Merge Capabilities where
  merge a b :=
    { add := uniteTexts a.add b.add
      drop := uniteTexts a.drop b.drop }

instance : Merge SecurityContext where
  merge a b :=
    { runAsUser := prefer a.runAsUser b.runAsUser
      runAsGroup := prefer a.runAsGroup b.runAsGroup
      runAsNonRoot := prefer a.runAsNonRoot b.runAsNonRoot
      readOnlyRootFilesystem := prefer a.readOnlyRootFilesystem b.readOnlyRootFilesystem
      allowPrivilegeEscalation := prefer a.allowPrivilegeEscalation b.allowPrivilegeEscalation
      privileged := prefer a.privileged b.privileged
      capabilities := merge a.capabilities b.capabilities }

instance : Merge Container where
  merge a b :=
    { name := prefer a.name b.name
      image := prefer a.image b.image
      imagePullPolicy := prefer a.imagePullPolicy b.imagePullPolicy
      command := prefer a.command b.command
      args := prefer a.args b.args
      workingDir := prefer a.workingDir b.workingDir
      ports := mergeKeyed portKey a.ports b.ports
      env := mergeKeyed (·.name) a.env b.env
      resources := merge a.resources b.resources
      volumeMounts := mergeKeyed mountKey a.volumeMounts b.volumeMounts
      livenessProbe := merge a.livenessProbe b.livenessProbe
      readinessProbe := merge a.readinessProbe b.readinessProbe
      startupProbe := merge a.startupProbe b.startupProbe
      lifecycle := merge a.lifecycle b.lifecycle
      securityContext := merge a.securityContext b.securityContext
      terminationMessagePath := prefer a.terminationMessagePath b.terminationMessagePath
      terminationMessagePolicy := prefer a.terminationMessagePolicy b.terminationMessagePolicy
      stdin := prefer a.stdin b.stdin
      tty := prefer a.tty b.tty }

end ReplicaControl
