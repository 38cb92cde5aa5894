import ReplicaControl.Merge.Service
import ReplicaControl.Merge.StatefulSet
import ReplicaControl.Proofs.Merge.Pod

/-!
# Stateful sets and services that can be laid again

A `StatefulSet` or `ServiceSpec` is *well formed* if, at every depth, no two entries of a list have
the same key, no variable has both `value` and `valueFrom`, and no volume has more than one source.

- **Idempotence** (`merge_well_formed_again`): a well formed override changes nothing the second
  time (specification, section 8).
- **Neutral overrides** (`merge_empty_and_self`): neither an override without fields nor a well
  formed object over itself changes anything.
- **Keys stay distinct** (`DistinctKeys.mergeKeyed`): a merged entry keeps the key of the baseline's
  and an added entry has a key that the baseline lacks.
- **Entries stay well formed** (`forall_mem_mergeKeyed`): each is one of the baseline, one of the
  override, or two such entries merged. So objects stay well formed under any number of overrides
  (`foldl_merge_well_formed`).
-/

namespace ReplicaControl

/-! ## Stateful sets -/

/-- The `selector`, if there is one, is well formed. -/
def ClaimSpec.WellFormed (s : ClaimSpec) : Prop := ∀ selector ∈ s.selector, selector.WellFormed

instance (s : ClaimSpec) : Decidable s.WellFormed :=
  inferInstanceAs (Decidable (∀ selector ∈ s.selector, selector.WellFormed))

theorem ClaimSpec.WellFormed.repeatable {s : ClaimSpec} (h : s.WellFormed) :
    Repeatable merge s := by
  have selector : Repeatable merge s.selector := .option fun l hl => (h l hl).repeatable
  have resources := s.resources.repeatable
  constructor
  · unfold merge instMergeClaimSpec
    simp [selector.self, resources.self]
  · unfold merge instMergeClaimSpec
    simp [selector.again, resources.again]

/-- The `spec` of the claim is well formed. -/
def Claim.WellFormed (c : Claim) : Prop := c.spec.WellFormed

instance (c : Claim) : Decidable c.WellFormed := inferInstanceAs (Decidable c.spec.WellFormed)

theorem Claim.WellFormed.repeatable {c : Claim} (h : c.WellFormed) : Repeatable merge c := by
  have metadata := c.metadata.repeatable
  have spec := ClaimSpec.WellFormed.repeatable h
  constructor
  · unfold merge instMergeClaim
    simp [metadata.self, spec.self]
  · unfold merge instMergeClaim
    simp [metadata.again, spec.again]

theorem Claim.keepsKey : KeepsKey (α := Claim) (·.metadata.name) := by
  intro a b h
  simp [merge, h]

theorem UpdateStrategy.repeatable (s : UpdateStrategy) : Repeatable merge s := by
  constructor <;> simp [merge]

@[simp] theorem UpdateStrategy.merge_empty (s : UpdateStrategy) : merge s {} = s := by
  simp [merge, prefer, isVacant]

/-- No two `volumeClaimTemplates` have the same name, and all parts are well formed. -/
@[mk_iff]
structure StatefulSetSpec.WellFormed (s : StatefulSetSpec) : Prop where
  selector : ∀ selector ∈ s.selector, selector.WellFormed
  template : s.template.WellFormed
  volumeClaimTemplates : DistinctKeys (·.metadata.name) s.volumeClaimTemplates
  eachClaim : ∀ c ∈ s.volumeClaimTemplates, c.WellFormed

instance (s : StatefulSetSpec) : Decidable s.WellFormed := decidable_of_iff' _ s.wellFormed_iff

theorem StatefulSetSpec.WellFormed.repeatable {s : StatefulSetSpec} (h : s.WellFormed) :
    Repeatable merge s := by
  have selector : Repeatable merge s.selector := .option fun l hl => (h.selector l hl).repeatable
  have template := h.template.repeatable
  have claims := h.volumeClaimTemplates.repeatable Claim.keepsKey
    fun c hc => (h.eachClaim c hc).repeatable
  have strategy := s.updateStrategy.repeatable
  constructor
  · unfold merge instMergeStatefulSetSpec
    simp [selector.self, template.self, claims.self, strategy.self]
  · unfold merge instMergeStatefulSetSpec
    simp [selector.again, template.again, claims.again, strategy.again]

@[simp] theorem StatefulSetSpec.merge_empty (s : StatefulSetSpec) : merge s {} = s := by
  have selector : merge s.selector none = s.selector := by cases s.selector <;> rfl
  unfold merge instMergeStatefulSetSpec
  simp [selector, prefer, isVacant]

/-- The `spec` of the set is well formed. -/
def StatefulSet.WellFormed (s : StatefulSet) : Prop := s.spec.WellFormed

instance (s : StatefulSet) : Decidable s.WellFormed := inferInstanceAs (Decidable s.spec.WellFormed)

theorem StatefulSet.WellFormed.repeatable {s : StatefulSet} (h : s.WellFormed) :
    Repeatable merge s := by
  have metadata := s.metadata.repeatable
  have spec := StatefulSetSpec.WellFormed.repeatable h
  constructor
  · unfold merge instMergeStatefulSet
    simp [metadata.self, spec.self]
  · unfold merge instMergeStatefulSet
    simp [metadata.again, spec.again]

@[simp] theorem StatefulSet.merge_empty (s : StatefulSet) : merge s {} = s := by
  unfold merge instMergeStatefulSet
  simp

/-! ## Services -/

theorem ServicePort.repeatable (p : ServicePort) : Repeatable merge p := by
  constructor <;> simp [merge]

theorem ServicePort.keepsKey : KeepsKey (α := ServicePort) (·.name) := by
  intro a b h
  simp [merge, h]

/-- No two `ports` have the same name. -/
def ServiceSpec.WellFormed (s : ServiceSpec) : Prop := DistinctKeys (·.name) s.ports

instance (s : ServiceSpec) : Decidable s.WellFormed :=
  inferInstanceAs (Decidable (DistinctKeys _ _))

theorem ServiceSpec.WellFormed.repeatable {s : ServiceSpec} (h : s.WellFormed) :
    Repeatable merge s := by
  have ports := DistinctKeys.repeatable h ServicePort.keepsKey fun p _ => p.repeatable
  constructor
  · unfold merge instMergeServiceSpec
    simp [ports.self]
  · unfold merge instMergeServiceSpec
    simp [ports.again]

@[simp] theorem ServiceSpec.merge_empty (s : ServiceSpec) : merge s {} = s := by
  have clusterIp : prefer "" s.clusterIp = s.clusterIp := vacant_prefer _
  unfold merge instMergeServiceSpec
  simp only [clusterIp]
  simp [prefer, isVacant]

/-! ## The laws of merging -/

/-- A set with one container whose volume holds a secret. -/
def tuning : StatefulSet where
  metadata := { name := "rs" }
  spec :=
    { template.spec :=
        { containers :=
            [{ name := "agent"
               env := [{ name := "POD", valueFrom := some { fieldRef := some {} } },
                 { name := "LEVEL", value := "debug" }] }]
          volumes :=
            [{ name := "keys"
               source := { secret := some { items := [{ key := "b" }, { key := "a" }] } } }] } }

/-- A set that is not well formed: two containers have one name, and a volume has two sources. -/
def crowded : StatefulSet where
  spec :=
    { template.spec :=
        { containers :=
            [{ name := "sidecar" }, { name := "agent" }, { name := "agent", tty := true }]
          volumes := [{ name := "keys", source := { emptyDir := some {}, secret := some {} } }] } }

/-- A service with an address of its own. -/
def exposed : ServiceSpec where
  ports := [{ name := "mongodb", port := 27017 }, { name := "agent", port := 5000 }]
  clusterIp := "10.0.0.9"

/-- A well formed `override` changes nothing when it is laid over the same `base` again, whatever
that `base` is. -/
theorem merge_well_formed_again :
    (∀ base override : StatefulSet, override.WellFormed →
      merge (merge base override) override = merge base override) ∧
    ∀ base override : ServiceSpec, override.WellFormed →
      merge (merge base override) override = merge base override :=
  ⟨fun base _ h => h.repeatable.again base, fun base _ h => h.repeatable.again base⟩

theorem merge_well_formed_again_tuning :
    ¬ crowded.WellFormed ∧ tuning.WellFormed ∧ exposed.WellFormed ∧
      merge crowded tuning ≠ crowded ∧
      merge (merge crowded tuning) tuning = merge crowded tuning ∧
      merge (merge { clusterIp := "10.0.0.1" } exposed) exposed =
        merge { clusterIp := "10.0.0.1" } exposed := by
  have htuning : tuning.WellFormed := by decide +kernel
  have hexposed : exposed.WellFormed := by decide +kernel
  have hname : (merge crowded tuning).metadata.name ≠ crowded.metadata.name := by decide
  obtain ⟨hset, hservice⟩ := merge_well_formed_again
  exact ⟨by decide +kernel, htuning, hexposed, fun he => hname (by rw [he]),
    hset crowded tuning htuning, hservice _ exposed hexposed⟩

/-- Neither an override without fields nor, if it is well formed, the object itself changes
anything. As these are equalities, the order of all lists is kept as well. -/
theorem merge_empty_and_self :
    (∀ s : StatefulSet, merge s {} = s) ∧ (∀ s : ServiceSpec, merge s {} = s) ∧
    (∀ s : StatefulSet, s.WellFormed → merge s s = s) ∧
    ∀ s : ServiceSpec, s.WellFormed → merge s s = s :=
  ⟨StatefulSet.merge_empty, ServiceSpec.merge_empty, fun _ h => h.repeatable.self,
    fun _ h => h.repeatable.self⟩

theorem merge_empty_and_self_tuning : tuning.WellFormed ∧ exposed.WellFormed ∧
    merge crowded {} = crowded ∧ merge tuning tuning = tuning ∧ merge exposed exposed = exposed := by
  have htuning : tuning.WellFormed := by decide +kernel
  have hexposed : exposed.WellFormed := by decide +kernel
  obtain ⟨hempty, -, hset, hservice⟩ := merge_empty_and_self
  exact ⟨htuning, hexposed, hempty crowded, hset tuning htuning, hservice exposed hexposed⟩

/-! ## Lists of entries with keys -/

section Keyed

variable {α κ : Type} [Merge α] [Ord κ] [Std.TransOrd κ] [Std.LawfulEqOrd κ]
  {key : α → κ} {base override : List α}

/-- `mergeMatched` leaves the keys of the baseline as they are. -/
theorem map_key_mergeMatched [DecidableEq κ] (hkey : KeepsKey key) :
    (mergeMatched key base override).map key = base.map key := by
  rw [mergeMatched, List.map_map]
  refine List.map_congr_left fun a _ => ?_
  cases hget : (byKey key override).get? (key a) with
  | none => simp only [Function.comp_apply, hget]
  | some o =>
    have hk : key a = key o := (key_of_get?_byKey hget).1.symm
    simp only [Function.comp_apply, hget]
    rw [hkey a o hk, hk]

omit [Merge α] in
/-- No two of the `addedEntries` have the same key, as each is stored in `byKey` under its own. -/
theorem distinctKeys_addedEntries [DecidableEq κ] :
    DistinctKeys key (addedEntries key base override) := by
  have hkeys : (byKey key override).values.map key = (byKey key override).keys := by
    rw [Dict.values, Dict.keys, List.map_map]
    refine List.map_congr_left fun e he => ?_
    exact (key_of_get?_byKey (Dict.get?_eq_some_iff.mpr he)).1
  have hvalues : ((byKey key override).values.map key).Nodup := hkeys ▸ Dict.keys_nodup _
  exact hvalues.sublist (List.filter_sublist.map key)

/-- `mergeKeyed` keeps keys distinct, whether or not those of `override` are. -/
theorem DistinctKeys.mergeKeyed [DecidableEq κ] (hbase : DistinctKeys key base)
    (hkey : KeepsKey key) : DistinctKeys key (mergeKeyed key base override) := by
  have hperm : (ReplicaControl.mergeKeyed key base override).Perm
      (mergeMatched key base override ++ addedEntries key base override) :=
    List.merge_perm_append _
  have hkeys := hperm.map key
  rw [List.map_append, map_key_mergeMatched hkey] at hkeys
  refine hkeys.nodup_iff.mpr (List.nodup_append.mpr ⟨hbase, distinctKeys_addedEntries, ?_⟩)
  intro k hk k' hk' heq
  obtain ⟨a, ha, rfl⟩ := List.mem_map.mp hk
  obtain ⟨o, ho, rfl⟩ := List.mem_map.mp hk'
  exact (mem_addedEntries.mp ho).2 a ha heq

/-- What holds of the entries of both sides, and of `merge a o` if it holds of `a` and `o`, holds of
the entries of `mergeKeyed`. -/
theorem forall_mem_mergeKeyed [DecidableEq κ] {P : α → Prop} (hbase : ∀ a ∈ base, P a)
    (hoverride : ∀ o ∈ override, P o) (hmerge : ∀ a o, P a → P o → P (merge a o)) :
    ∀ e ∈ mergeKeyed key base override, P e := by
  intro e he
  obtain ⟨he, -⟩ | ⟨a, ha, o, hget, rfl⟩ | hadded := mem_mergeKeyed.mp he
  · exact hbase e he
  · exact hmerge a o (hbase a ha) (hoverride o (key_of_get?_byKey hget).2)
  · exact hoverride e (key_of_get?_byKey (mem_addedEntries.mp hadded).1).2

end Keyed

/-- `forall_mem_mergeKeyed` for a value that each side may lack. -/
theorem forall_mem_merge_option {α : Type} [Merge α] {P : α → Prop} {base override : Option α}
    (hbase : ∀ a ∈ base, P a) (hoverride : ∀ o ∈ override, P o)
    (hmerge : ∀ a o, P a → P o → P (merge a o)) : ∀ e ∈ merge base override, P e := by
  cases base with
  | none =>
    cases override with
    | none => exact hbase
    | some o => exact hoverride
  | some a =>
    cases override with
    | none => exact hbase
    | some o =>
      rintro e ⟨⟩
      exact hmerge a o (hbase a rfl) (hoverride o rfl)

/-! ## Containers -/

/-- Whatever `a` has is replaced if `b` has `value` or `valueFrom`. -/
theorem EnvVar.WellFormed.merge {a b : EnvVar} (ha : a.WellFormed) (hb : b.WellFormed) :
    (merge a b).WellFormed := by
  rw [hb.merge_eq]
  split
  · exact ha
  · exact hb

theorem Container.WellFormed.merge {a b : Container} (ha : a.WellFormed) (hb : b.WellFormed) :
    (merge a b).WellFormed where
  ports := ha.ports.mergeKeyed portKey_keepsKey
  env := ha.env.mergeKeyed EnvVar.keepsKey
  volumeMounts := ha.volumeMounts.mergeKeyed mountKey_keepsKey
  values := forall_mem_mergeKeyed ha.values hb.values fun _ _ => EnvVar.WellFormed.merge

/-! ## Volumes and selectors -/

theorem LabelSelector.WellFormed.merge {a b : LabelSelector} (ha : a.WellFormed) :
    (merge a b).WellFormed :=
  DistinctKeys.mergeKeyed ha LabelSelectorRequirement.keepsKey

theorem SecretVolumeSource.WellFormed.merge {a b : SecretVolumeSource} (ha : a.WellFormed) :
    (merge a b).WellFormed :=
  DistinctKeys.mergeKeyed ha KeyToPath.keepsKey

theorem ConfigMapVolumeSource.WellFormed.merge {a b : ConfigMapVolumeSource} (ha : a.WellFormed) :
    (merge a b).WellFormed :=
  DistinctKeys.mergeKeyed ha KeyToPath.keepsKey

/-- A source of `b` leaves no source of another kind beside it. -/
theorem VolumeSource.WellFormed.merge {a b : VolumeSource} (ha : a.WellFormed)
    (hb : b.WellFormed) : (merge a b).WellFormed := by
  -- A source that is set in `b` is the only one left, merged with the one of its kind in `a`.
  obtain rfl | ⟨d, rfl⟩ | ⟨s, rfl⟩ | ⟨c, rfl⟩ | ⟨c, rfl⟩ := eq_of_single hb.single
  · exact ha
  · rw [merge_emptyDir]
    exact ⟨Bool.toNat_le _, by simp, by simp⟩
  · rw [merge_secret]
    have hsecret := forall_mem_merge_option ha.secret hb.secret
      fun _ _ h _ => SecretVolumeSource.WellFormed.merge h
    exact ⟨by simpa [count] using Bool.toNat_le _, hsecret, by simp⟩
  · rw [merge_configMap]
    have hconfigMap := forall_mem_merge_option ha.configMap hb.configMap
      fun _ _ h _ => ConfigMapVolumeSource.WellFormed.merge h
    exact ⟨by simpa [count] using Bool.toNat_le _, by simp, hconfigMap⟩
  · rw [merge_claim]
    exact hb

theorem Volume.WellFormed.merge {a b : Volume} (ha : a.WellFormed) (hb : b.WellFormed) :
    (merge a b).WellFormed :=
  VolumeSource.WellFormed.merge ha hb

theorem TopologySpreadConstraint.WellFormed.merge {a b : TopologySpreadConstraint}
    (ha : a.WellFormed) (hb : b.WellFormed) : (merge a b).WellFormed :=
  forall_mem_merge_option ha hb fun _ _ h _ => LabelSelector.WellFormed.merge h

/-! ## Pods -/

theorem PodSpec.WellFormed.merge {a b : PodSpec} (ha : a.WellFormed) (hb : b.WellFormed) :
    (merge a b).WellFormed where
  volumes := ha.volumes.mergeKeyed Volume.keepsKey
  initContainers := ha.initContainers.mergeKeyed Container.keepsKey
  containers := ha.containers.mergeKeyed Container.keepsKey
  imagePullSecrets := ha.imagePullSecrets.mergeKeyed LocalObjectReference.keepsKey
  tolerations := ha.tolerations.mergeKeyed tolerationKey_keepsKey
  hostAliases := ha.hostAliases.mergeKeyed HostAlias.keepsKey
  topologySpreadConstraints :=
    ha.topologySpreadConstraints.mergeKeyed TopologySpreadConstraint.keepsKey
  eachVolume := forall_mem_mergeKeyed ha.eachVolume hb.eachVolume fun _ _ => Volume.WellFormed.merge
  eachInitContainer := forall_mem_mergeKeyed ha.eachInitContainer hb.eachInitContainer
    fun _ _ => Container.WellFormed.merge
  eachContainer := forall_mem_mergeKeyed ha.eachContainer hb.eachContainer
    fun _ _ => Container.WellFormed.merge
  eachConstraint := forall_mem_mergeKeyed ha.eachConstraint hb.eachConstraint
    fun _ _ => TopologySpreadConstraint.WellFormed.merge

/-! ## Stateful sets -/

theorem Claim.WellFormed.merge {a b : Claim} (ha : a.WellFormed) (hb : b.WellFormed) :
    (merge a b).WellFormed :=
  forall_mem_merge_option ha hb fun _ _ h _ => LabelSelector.WellFormed.merge h

theorem StatefulSetSpec.WellFormed.merge {a b : StatefulSetSpec} (ha : a.WellFormed)
    (hb : b.WellFormed) : (merge a b).WellFormed where
  selector := forall_mem_merge_option ha.selector hb.selector
    fun _ _ h _ => LabelSelector.WellFormed.merge h
  template := PodSpec.WellFormed.merge ha.template hb.template
  volumeClaimTemplates := ha.volumeClaimTemplates.mergeKeyed Claim.keepsKey
  eachClaim := forall_mem_mergeKeyed ha.eachClaim hb.eachClaim fun _ _ => Claim.WellFormed.merge

theorem StatefulSet.WellFormed.merge {a b : StatefulSet} (ha : a.WellFormed) (hb : b.WellFormed) :
    (merge a b).WellFormed :=
  StatefulSetSpec.WellFormed.merge ha hb

/-- `base` stays well formed under well formed `overrides`, however many are laid over it one after
the other. -/
theorem foldl_merge_well_formed (base : StatefulSet) (overrides : List StatefulSet)
    (hbase : base.WellFormed) (hoverrides : ∀ o ∈ overrides, o.WellFormed) :
    (overrides.foldl merge base).WellFormed := by
  induction overrides generalizing base with
  | nil => exact hbase
  | cons o os ih =>
    obtain ⟨ho, hos⟩ := List.forall_mem_cons.mp hoverrides
    exact ih (merge base o) (hbase.merge ho) hos

/-- An override of `tuning`: another container goes before the agent, the agent's variables
exchange value and source, and another kind of source takes the place of the secret. -/
def sidecars : StatefulSet where
  spec :=
    { template.spec :=
        { containers :=
            [{ name := "agent"
               ports := [{ containerPort := 9000 }, { name := "http", containerPort := 9000 }]
               env := [{ name := "POD", value := "rs-0" },
                 { name := "LEVEL", valueFrom := some { fieldRef := some {} } }] },
             { name := "adapter" }]
          volumes :=
            [{ name := "keys"
               source := { configMap := some { items := [{ key := "c" }] } } }] } }

theorem foldl_merge_well_formed_sidecars :
    tuning.WellFormed ∧ (∀ o ∈ [sidecars, tuning], o.WellFormed) ∧
      ([sidecars, tuning].foldl merge tuning).WellFormed := by
  have htuning : tuning.WellFormed := by decide +kernel
  have hoverrides : ∀ o ∈ [sidecars, tuning], o.WellFormed := by decide +kernel
  exact ⟨htuning, hoverrides, foldl_merge_well_formed tuning _ htuning hoverrides⟩

end ReplicaControl
