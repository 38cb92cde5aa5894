import Mathlib.Tactic.MkIffOfInductiveProp
import ReplicaControl.Merge.Container
import ReplicaControl.Merge.StatefulSet
import ReplicaControl.Proofs.Merge.Basic

/-!
# Containers and pods that can be laid again

A pod is *well formed* if, at every depth, no two entries of a list have the same key (sections 4.3
and 10.4 of the specification have the keys), no variable has both `value` and `valueFrom`, and no
volume has more than one source. A well formed override is `Repeatable`; the parts without keyed
lists are so as they are.

- **Variables** (`EnvVar.repeatable_iff`): the condition on them is exact.
- **Containers** (`Container.WellFormed.repeatable`): ports, variables and mounts.
- **Volumes** (`VolumeSource.WellFormed.repeatable`): by the one source that is set
  (`VolumeSource.eq_of_single`), which takes the place of all others (`VolumeSource.merge_secret`
  and the like).
- **Pods** (`PodSpec.WellFormed.repeatable`): containers, volumes and the label selectors of spread
  constraints. A pod without fields changes nothing (`PodSpec.merge_empty`).
-/

namespace ReplicaControl

/-! ## Ports, variables and mounts -/

theorem ContainerPort.repeatable (p : ContainerPort) : Repeatable merge p := by
  constructor <;> simp [merge]

/-- A port with a `name` keeps it, one without a `name` keeps its `containerPort`. -/
theorem portKey_keepsKey : KeepsKey portKey := by
  intro a b h
  simp only [portKey, String.isEmpty_iff] at h ⊢
  by_cases ha : a.name = "" <;> by_cases hb : b.name = ""
  · have hport : a.containerPort = b.containerPort := by simpa [ha, hb] using h
    simp [merge, ha, hb, hport]
  · simp [ha, hb, Ne.symm hb] at h
  · simp [ha, hb] at h
  · have hname : a.name = b.name := by simpa [ha, hb] using h
    simp [merge, hb, hname]

/-- The variable has `value` or `valueFrom`, not both. -/
def EnvVar.WellFormed (v : EnvVar) : Prop := v.value = "" ∨ v.valueFrom = none

instance (v : EnvVar) : Decidable v.WellFormed := inferInstanceAs (Decidable (_ ∨ _))

theorem EnvVar.keepsKey : KeepsKey (α := EnvVar) (·.name) := by
  intro a b h
  simp only [merge]
  split
  · exact h
  · split <;> exact h

/-- A well formed `v` replaces both `value` and `valueFrom`, unless it has neither. -/
theorem EnvVar.WellFormed.merge_eq {v : EnvVar} (h : v.WellFormed) (a : EnvVar) :
    merge a v = if v.value = "" ∧ v.valueFrom = none then a else { v with name := a.name } := by
  obtain ⟨name, value, source⟩ := v
  obtain rfl | rfl : value = "" ∨ source = none := h
  · cases source <;> simp [merge]
  · by_cases hv : value = "" <;> simp [merge, hv]

/-- Laid over itself, a variable with both `value` and `valueFrom` would lose the latter. -/
theorem EnvVar.repeatable_iff {v : EnvVar} : Repeatable merge v ↔ v.WellFormed := by
  constructor
  · intro h
    by_cases hv : v.value = ""
    · exact .inl hv
    · have hnone := congrArg EnvVar.valueFrom h.self
      exact .inr (by simpa [merge, hv] using hnone.symm)
  · intro h
    constructor
    · rw [h.merge_eq, ite_self]
    · intro a
      simp only [h.merge_eq]
      split <;> rfl

theorem VolumeMount.repeatable (m : VolumeMount) : Repeatable merge m := by
  constructor <;> simp [merge]

theorem mountKey_keepsKey : KeepsKey mountKey := by
  intro a b h
  simp only [mountKey, Prod.mk.injEq] at h ⊢
  simp [merge, h]

theorem ResourceRequirements.repeatable (r : ResourceRequirements) : Repeatable merge r := by
  constructor <;> simp [merge]

/-! ## Probes and privileges -/

theorem ExecAction.repeatable (a : ExecAction) : Repeatable merge a := by
  constructor <;> simp [merge]

theorem TcpSocketAction.repeatable (a : TcpSocketAction) : Repeatable merge a := by
  constructor <;> simp [merge]

theorem HttpGetAction.repeatable (a : HttpGetAction) : Repeatable merge a := by
  constructor <;> simp [merge]

theorem Handler.repeatable (h : Handler) : Repeatable merge h := by
  have exec : Repeatable merge h.exec := .option fun a _ => a.repeatable
  have tcpSocket : Repeatable merge h.tcpSocket := .option fun a _ => a.repeatable
  have httpGet : Repeatable merge h.httpGet := .option fun a _ => a.repeatable
  constructor
  · unfold merge instMergeHandler
    simp [exec.self, tcpSocket.self, httpGet.self]
  · unfold merge instMergeHandler
    simp [exec.again, tcpSocket.again, httpGet.again]

theorem Probe.repeatable (p : Probe) : Repeatable merge p := by
  have handler := p.handler.repeatable
  constructor
  · unfold merge instMergeProbe
    simp [handler.self]
  · unfold merge instMergeProbe
    simp [handler.again]

theorem Lifecycle.repeatable (l : Lifecycle) : Repeatable merge l := by
  have postStart : Repeatable merge l.postStart := .option fun h _ => h.repeatable
  have preStop : Repeatable merge l.preStop := .option fun h _ => h.repeatable
  constructor
  · unfold merge instMergeLifecycle
    simp [postStart.self, preStop.self]
  · unfold merge instMergeLifecycle
    simp [postStart.again, preStop.again]

theorem Capabilities.repeatable (c : Capabilities) : Repeatable merge c := by
  constructor <;> simp [merge]

theorem SecurityContext.repeatable (s : SecurityContext) : Repeatable merge s := by
  have capabilities : Repeatable merge s.capabilities := .option fun c _ => c.repeatable
  constructor
  · unfold merge instMergeSecurityContext
    simp [capabilities.self]
  · unfold merge instMergeSecurityContext
    simp [capabilities.again]

/-! ## Containers -/

/-- No two `ports`, `env` or `volumeMounts` have the same key, and each variable is well formed. -/
@[mk_iff]
structure Container.WellFormed (c : Container) : Prop where
  ports : DistinctKeys portKey c.ports
  env : DistinctKeys (·.name) c.env
  volumeMounts : DistinctKeys mountKey c.volumeMounts
  values : ∀ v ∈ c.env, v.WellFormed

instance (c : Container) : Decidable c.WellFormed := decidable_of_iff' _ c.wellFormed_iff

theorem Container.keepsKey : KeepsKey (α := Container) (·.name) := by
  intro a b h
  simp [merge, h]

theorem Container.WellFormed.repeatable {c : Container} (h : c.WellFormed) :
    Repeatable merge c := by
  have ports := h.ports.repeatable portKey_keepsKey fun p _ => p.repeatable
  have env := h.env.repeatable EnvVar.keepsKey fun v hv => EnvVar.repeatable_iff.mpr (h.values v hv)
  have mounts := h.volumeMounts.repeatable mountKey_keepsKey fun m _ => m.repeatable
  have resources := c.resources.repeatable
  have liveness : Repeatable merge c.livenessProbe := .option fun p _ => p.repeatable
  have readiness : Repeatable merge c.readinessProbe := .option fun p _ => p.repeatable
  have startup : Repeatable merge c.startupProbe := .option fun p _ => p.repeatable
  have lifecycle : Repeatable merge c.lifecycle := .option fun l _ => l.repeatable
  have security : Repeatable merge c.securityContext := .option fun s _ => s.repeatable
  -- Each field merges as one of these, or by `prefer`, whose laws `simp` knows.
  constructor
  · unfold merge instMergeContainer
    simp [ports.self, env.self, mounts.self, resources.self, liveness.self,
      readiness.self, startup.self, lifecycle.self, security.self]
  · unfold merge instMergeContainer
    simp [ports.again, env.again, mounts.again, resources.again, liveness.again,
      readiness.again, startup.again, lifecycle.again, security.again]

/-! ## Metadata and selectors -/

theorem ObjectMeta.repeatable (m : ObjectMeta) : Repeatable merge m := by
  constructor <;> simp [merge]

@[simp] theorem ObjectMeta.merge_empty (m : ObjectMeta) : merge m {} = m := by
  simp [merge, prefer, isVacant]

theorem LabelSelectorRequirement.repeatable (r : LabelSelectorRequirement) :
    Repeatable merge r := by
  constructor <;> simp [merge]

theorem LabelSelectorRequirement.keepsKey : KeepsKey (α := LabelSelectorRequirement) (·.key) := by
  intro a b h
  simp [merge, h]

/-- No two `matchExpressions` are about the same label. -/
def LabelSelector.WellFormed (s : LabelSelector) : Prop := DistinctKeys (·.key) s.matchExpressions

instance (s : LabelSelector) : Decidable s.WellFormed :=
  inferInstanceAs (Decidable (DistinctKeys _ _))

theorem LabelSelector.WellFormed.repeatable {s : LabelSelector} (h : s.WellFormed) :
    Repeatable merge s := by
  have expressions := DistinctKeys.repeatable h LabelSelectorRequirement.keepsKey
    fun r _ => r.repeatable
  constructor
  · unfold merge instMergeLabelSelector
    simp [expressions.self]
  · unfold merge instMergeLabelSelector
    simp [expressions.again]

theorem LocalObjectReference.repeatable (r : LocalObjectReference) : Repeatable merge r := by
  constructor <;> simp [merge]

theorem LocalObjectReference.keepsKey : KeepsKey (α := LocalObjectReference) (·.name) := by
  intro a b h
  simp [merge, h]

/-! ## Volumes -/

theorem KeyToPath.repeatable (k : KeyToPath) : Repeatable merge k := by
  constructor <;> simp [merge]

theorem KeyToPath.keepsKey : KeepsKey (α := KeyToPath) (·.key) := by
  intro a b h
  simp [merge, h]

theorem EmptyDirVolumeSource.repeatable (s : EmptyDirVolumeSource) : Repeatable merge s := by
  constructor <;> simp [merge]

/-- No two `items` are about the same key of the secret. -/
def SecretVolumeSource.WellFormed (s : SecretVolumeSource) : Prop := DistinctKeys (·.key) s.items

instance (s : SecretVolumeSource) : Decidable s.WellFormed :=
  inferInstanceAs (Decidable (DistinctKeys _ _))

theorem SecretVolumeSource.WellFormed.repeatable {s : SecretVolumeSource} (h : s.WellFormed) :
    Repeatable merge s := by
  have items := DistinctKeys.repeatable h KeyToPath.keepsKey fun k _ => k.repeatable
  constructor
  · unfold merge instMergeSecretVolumeSource
    simp [items.self]
  · unfold merge instMergeSecretVolumeSource
    simp [items.again]

/-- No two `items` are about the same key of the config map. -/
def ConfigMapVolumeSource.WellFormed (s : ConfigMapVolumeSource) : Prop :=
  DistinctKeys (·.key) s.items

instance (s : ConfigMapVolumeSource) : Decidable s.WellFormed :=
  inferInstanceAs (Decidable (DistinctKeys _ _))

theorem ConfigMapVolumeSource.WellFormed.repeatable {s : ConfigMapVolumeSource}
    (h : s.WellFormed) : Repeatable merge s := by
  have items := DistinctKeys.repeatable h KeyToPath.keepsKey fun k _ => k.repeatable
  constructor
  · unfold merge instMergeConfigMapVolumeSource
    simp [items.self]
  · unfold merge instMergeConfigMapVolumeSource
    simp [items.again]

/-- The number of sources that are set. -/
def VolumeSource.count (s : VolumeSource) : Nat :=
  s.emptyDir.isSome.toNat + s.secret.isSome.toNat + s.configMap.isSome.toNat +
    s.persistentVolumeClaim.isSome.toNat

/-- At most one source is set, and its `items` are well formed. -/
@[mk_iff]
structure VolumeSource.WellFormed (s : VolumeSource) : Prop where
  single : s.count ≤ 1
  secret : ∀ secret ∈ s.secret, secret.WellFormed
  configMap : ∀ configMap ∈ s.configMap, configMap.WellFormed

instance (s : VolumeSource) : Decidable s.WellFormed := decidable_of_iff' _ s.wellFormed_iff

theorem VolumeSource.merge_emptyDir (a : VolumeSource) (d : EmptyDirVolumeSource) :
    merge a { emptyDir := some d } = { emptyDir := merge a.emptyDir (some d) } := by
  obtain ⟨_ | _, _ | _, _ | _, _⟩ := a <;> rfl

theorem VolumeSource.merge_secret (a : VolumeSource) (s : SecretVolumeSource) :
    merge a { secret := some s } = { secret := merge a.secret (some s) } := by
  obtain ⟨_ | _, _ | _, _ | _, _⟩ := a <;> rfl

theorem VolumeSource.merge_configMap (a : VolumeSource) (c : ConfigMapVolumeSource) :
    merge a { configMap := some c } = { configMap := merge a.configMap (some c) } := by
  obtain ⟨_ | _, _ | _, _ | _, _⟩ := a <;> rfl

theorem VolumeSource.merge_claim (a : VolumeSource) (c : ClaimVolumeSource) :
    merge a { persistentVolumeClaim := some c } = { persistentVolumeClaim := some c } := by
  obtain ⟨_ | _, _ | _, _ | _, _⟩ := a <;> rfl

theorem VolumeSource.eq_of_single {s : VolumeSource} (h : s.count ≤ 1) :
    s = {} ∨ (∃ d, s = { emptyDir := some d }) ∨ (∃ t, s = { secret := some t }) ∨
      (∃ c, s = { configMap := some c }) ∨ ∃ c, s = { persistentVolumeClaim := some c } := by
  obtain ⟨_ | _, _ | _, _ | _, _ | _⟩ := s <;> simp [count] at h ⊢

theorem VolumeSource.WellFormed.repeatable {s : VolumeSource} (h : s.WellFormed) :
    Repeatable merge s := by
  -- No source changes nothing; a directory, a secret or a config map is merged; a claim is
  -- replaced.
  obtain rfl | ⟨d, rfl⟩ | ⟨t, rfl⟩ | ⟨c, rfl⟩ | ⟨c, rfl⟩ := eq_of_single h.single
  · exact ⟨rfl, fun a => rfl⟩
  · have dir : Repeatable merge (some d) := .option fun d _ => d.repeatable
    constructor
    · rw [merge_emptyDir, dir.self]
    · simp [merge_emptyDir, dir.again]
  · have secret : Repeatable merge (some t) := .option fun t ht => (h.secret t ht).repeatable
    constructor
    · rw [merge_secret, secret.self]
    · simp [merge_secret, secret.again]
  · have configMap : Repeatable merge (some c) := .option fun c hc => (h.configMap c hc).repeatable
    constructor
    · rw [merge_configMap, configMap.self]
    · simp [merge_configMap, configMap.again]
  · constructor
    · rw [merge_claim]
    · simp [merge_claim]

/-- The `source` of the volume is well formed. -/
def Volume.WellFormed (v : Volume) : Prop := v.source.WellFormed

instance (v : Volume) : Decidable v.WellFormed := inferInstanceAs (Decidable v.source.WellFormed)

theorem Volume.WellFormed.repeatable {v : Volume} (h : v.WellFormed) : Repeatable merge v := by
  have source := VolumeSource.WellFormed.repeatable h
  constructor
  · unfold merge instMergeVolume
    simp [source.self]
  · unfold merge instMergeVolume
    simp [source.again]

theorem Volume.keepsKey : KeepsKey (α := Volume) (·.name) := by
  intro a b h
  simp [merge, h]

/-! ## Scheduling -/

theorem HostAlias.repeatable (a : HostAlias) : Repeatable merge a := by
  constructor <;> simp [merge]

theorem HostAlias.keepsKey : KeepsKey (α := HostAlias) (·.ip) := by
  intro a b h
  simp [merge, h]

theorem Toleration.repeatable (t : Toleration) : Repeatable merge t := by
  constructor <;> simp [merge]

theorem tolerationKey_keepsKey : KeepsKey tolerationKey := by
  intro a b h
  simp only [tolerationKey, Prod.mk.injEq] at h ⊢
  simp [merge, h]

/-- The `labelSelector`, if there is one, is well formed. -/
def TopologySpreadConstraint.WellFormed (c : TopologySpreadConstraint) : Prop :=
  ∀ s ∈ c.labelSelector, s.WellFormed

instance (c : TopologySpreadConstraint) : Decidable c.WellFormed :=
  inferInstanceAs (Decidable (∀ s ∈ c.labelSelector, s.WellFormed))

theorem TopologySpreadConstraint.WellFormed.repeatable {c : TopologySpreadConstraint}
    (h : c.WellFormed) : Repeatable merge c := by
  have selector : Repeatable merge c.labelSelector := .option fun s hs => (h s hs).repeatable
  constructor
  · unfold merge instMergeTopologySpreadConstraint
    simp [selector.self]
  · unfold merge instMergeTopologySpreadConstraint
    simp [selector.again]

theorem TopologySpreadConstraint.keepsKey :
    KeepsKey (α := TopologySpreadConstraint) (·.topologyKey) := by
  intro a b h
  simp [merge, h]

/-! ## Pods -/

/-- No two entries of a list have the same key, and each entry is well formed. -/
@[mk_iff]
structure PodSpec.WellFormed (s : PodSpec) : Prop where
  volumes : DistinctKeys (·.name) s.volumes
  initContainers : DistinctKeys (·.name) s.initContainers
  containers : DistinctKeys (·.name) s.containers
  imagePullSecrets : DistinctKeys (·.name) s.imagePullSecrets
  tolerations : DistinctKeys tolerationKey s.tolerations
  hostAliases : DistinctKeys (·.ip) s.hostAliases
  topologySpreadConstraints : DistinctKeys (·.topologyKey) s.topologySpreadConstraints
  eachVolume : ∀ v ∈ s.volumes, v.WellFormed
  eachInitContainer : ∀ c ∈ s.initContainers, c.WellFormed
  eachContainer : ∀ c ∈ s.containers, c.WellFormed
  eachConstraint : ∀ c ∈ s.topologySpreadConstraints, c.WellFormed

instance (s : PodSpec) : Decidable s.WellFormed := decidable_of_iff' _ s.wellFormed_iff

theorem PodSpec.WellFormed.repeatable {s : PodSpec} (h : s.WellFormed) : Repeatable merge s := by
  have volumes := h.volumes.repeatable Volume.keepsKey fun v hv => (h.eachVolume v hv).repeatable
  have initContainers := h.initContainers.repeatable Container.keepsKey
    fun c hc => (h.eachInitContainer c hc).repeatable
  have containers := h.containers.repeatable Container.keepsKey
    fun c hc => (h.eachContainer c hc).repeatable
  have secrets := h.imagePullSecrets.repeatable LocalObjectReference.keepsKey
    fun r _ => r.repeatable
  have tolerations := h.tolerations.repeatable tolerationKey_keepsKey fun t _ => t.repeatable
  have aliases := h.hostAliases.repeatable HostAlias.keepsKey fun a _ => a.repeatable
  have constraints := h.topologySpreadConstraints.repeatable TopologySpreadConstraint.keepsKey
    fun c hc => (h.eachConstraint c hc).repeatable
  constructor
  · unfold merge instMergePodSpec
    simp [volumes.self, initContainers.self, containers.self, secrets.self, tolerations.self,
      aliases.self, constraints.self]
  · unfold merge instMergePodSpec
    simp [volumes.again, initContainers.again, containers.again, secrets.again, tolerations.again,
      aliases.again, constraints.again]

@[simp] theorem PodSpec.merge_empty (s : PodSpec) : merge s {} = s := by
  unfold merge instMergePodSpec
  simp [prefer, isVacant]

/-- The `spec` of the template is well formed. -/
def PodTemplateSpec.WellFormed (t : PodTemplateSpec) : Prop := t.spec.WellFormed

instance (t : PodTemplateSpec) : Decidable t.WellFormed :=
  inferInstanceAs (Decidable t.spec.WellFormed)

theorem PodTemplateSpec.WellFormed.repeatable {t : PodTemplateSpec} (h : t.WellFormed) :
    Repeatable merge t := by
  have metadata := t.metadata.repeatable
  have spec := PodSpec.WellFormed.repeatable h
  constructor
  · unfold merge instMergePodTemplateSpec
    simp [metadata.self, spec.self]
  · unfold merge instMergePodTemplateSpec
    simp [metadata.again, spec.again]

@[simp] theorem PodTemplateSpec.merge_empty (t : PodTemplateSpec) : merge t {} = t := by
  unfold merge instMergePodTemplateSpec
  simp

end ReplicaControl
