import ReplicaControl.Merge.Service
import ReplicaControl.Proofs.Json.Arranged
import ReplicaControl.Workload.StatefulSet

/-!
# Reading back workloads

Every part of a workload is read back from its JSON: those without data are instances of
`StableCodec`, whatever the `Arrangement` of the objects. Data (`StatefulSet.rawData`) is read back
if the arrangement leaves it as it is and it is not `null`, which means that there is none.

- **Pods** (`PodSpec.decode?_arrange_encode`): `securityContext` and `affinity` are data.
- **Stateful sets** (`StatefulSet.decode?_arrange_encode`): `rollingUpdate` is data, too.
- **Both kinds** (`workloads_read_back`): they are read back as they are written and as memory holds
  them (specification, sections 10.1 and 10.4).
-/

namespace ReplicaControl

open MemberRule Members
open Json (Arrangement)

/-! ## Metadata -/

instance : StableCodec ObjectMeta := .record

instance : StableCodec LabelSelectorRequirement := .record

instance : StableCodec LabelSelector := .record

instance : RefusesNull LabelSelector := ⟨rfl⟩

instance : StableCodec LocalObjectReference := .record

/-! ## Containers -/

instance : StableCodec ContainerPort := .record

instance : StableCodec KeySelector := .record

instance : RefusesNull KeySelector := ⟨rfl⟩

instance : StableCodec FieldSelector := .record

instance : RefusesNull FieldSelector := ⟨rfl⟩

instance : StableCodec EnvVarSource := .record

instance : RefusesNull EnvVarSource := ⟨rfl⟩

instance : StableCodec EnvVar := .record

instance : StableCodec ResourceRequirements := .record

instance : StableCodec VolumeMount := .record

instance : StableCodec ExecAction := .record

instance : RefusesNull ExecAction := ⟨rfl⟩

instance : StableCodec TcpSocketAction := .record

instance : RefusesNull TcpSocketAction := ⟨rfl⟩

instance : StableCodec HttpGetAction := .record

instance : RefusesNull HttpGetAction := ⟨rfl⟩

instance : StableCodec Handler := .record

instance : RefusesNull Handler := ⟨rfl⟩

instance : StableCodec Probe := .objectRecord

instance : RefusesNull Probe := ⟨rfl⟩

instance : StableCodec Lifecycle := .record

instance : RefusesNull Lifecycle := ⟨rfl⟩

instance : StableCodec Capabilities := .record

instance : RefusesNull Capabilities := ⟨rfl⟩

instance : StableCodec SecurityContext := .record

instance : RefusesNull SecurityContext := ⟨rfl⟩

instance : StableCodec Container := .record

/-! ## Volumes -/

instance : StableCodec KeyToPath := .record

instance : StableCodec EmptyDirVolumeSource := .record

instance : RefusesNull EmptyDirVolumeSource := ⟨rfl⟩

instance : StableCodec SecretVolumeSource := .record

instance : RefusesNull SecretVolumeSource := ⟨rfl⟩

instance : StableCodec ConfigMapVolumeSource := .record

instance : RefusesNull ConfigMapVolumeSource := ⟨rfl⟩

instance : StableCodec ClaimVolumeSource := .record

instance : RefusesNull ClaimVolumeSource := ⟨rfl⟩

instance : StableCodec Volume := .objectRecord

/-! ## Pods -/

instance : StableCodec HostAlias := .record

instance : StableCodec Toleration := .record

instance : StableCodec TopologySpreadConstraint := .record

/-- The data of a pod that is there: `securityContext` and `affinity`. -/
def PodSpec.rawData (p : PodSpec) : List Json := p.securityContext.toList ++ p.affinity.toList

/-- A pod is read back if `f` leaves its data as it is and none of it is `null`. -/
theorem PodSpec.decode?_arrange_encode {f : Arrangement} {p : PodSpec}
    (h : ∀ j ∈ p.rawData, j ≠ .null ∧ f.arrange j = j) :
    decode? (f.arrange (encode p)) = some p := by
  simp only [rawData, List.forall_mem_append, Option.mem_toList] at h
  have hcontext := Codec.decode?_arrange_data h.1
  have haffinity := Codec.decode?_arrange_data h.2
  exact (Codec.HasMembers.decode?_arrange {} (by decide) f p).trans
    (by simp [Members.via, Members.reread, reread_via_unlessVacant, hcontext, haffinity])

theorem PodTemplateSpec.decode?_arrange_encode {f : Arrangement} {t : PodTemplateSpec}
    (h : decode? (f.arrange (encode t.spec)) = some t.spec) :
    decode? (f.arrange (encode t)) = some t :=
  (Codec.HasMembers.decode?_arrange {} (by decide) f t).trans
    (by simp [Members.via, Members.reread, reread_via_unlessVacant, h])

/-! ## Stateful sets -/

instance : StableCodec ClaimSpec := .record

instance : StableCodec Claim := .record

theorem UpdateStrategy.decode?_arrange_encode {f : Arrangement} {u : UpdateStrategy}
    (h : ∀ j ∈ u.rollingUpdate, j ≠ .null ∧ f.arrange j = j) :
    decode? (f.arrange (encode u)) = some u :=
  (Codec.HasMembers.decode?_arrange {} (by decide) f u).trans
    (by simp [Members.via, Members.reread, reread_via_unlessVacant, Codec.decode?_arrange_data h])

/-- The data of a stateful set that is there: that of its pods, and `rollingUpdate`. -/
def StatefulSet.rawData (s : StatefulSet) : List Json :=
  s.spec.template.spec.rawData ++ s.spec.updateStrategy.rollingUpdate.toList

theorem StatefulSetSpec.decode?_arrange_encode {f : Arrangement} {s : StatefulSetSpec}
    (htemplate : decode? (f.arrange (encode s.template)) = some s.template)
    (hupdate : decode? (f.arrange (encode s.updateStrategy)) = some s.updateStrategy) :
    decode? (f.arrange (encode s)) = some s :=
  (Codec.HasMembers.decode?_arrange {} (by decide) f s).trans
    (by simp [Members.via, Members.reread, reread_via_unlessVacant, htemplate, hupdate])

/-- A stateful set is read back if `f` leaves its data as it is and none of it is `null`. -/
theorem StatefulSet.decode?_arrange_encode {f : Arrangement} {s : StatefulSet}
    (h : ∀ j ∈ s.rawData, j ≠ .null ∧ f.arrange j = j) :
    decode? (f.arrange (encode s)) = some s := by
  rw [rawData, List.forall_mem_append] at h
  have htemplate := PodTemplateSpec.decode?_arrange_encode (PodSpec.decode?_arrange_encode h.1)
  have hupdate := UpdateStrategy.decode?_arrange_encode (by simpa using h.2)
  have hspec := StatefulSetSpec.decode?_arrange_encode htemplate hupdate
  exact (Codec.HasMembers.decode?_arrange {} (by decide) f s).trans
    (by simp [Members.via, Members.reread, hspec])

/-! ## Services -/

instance : StableCodec ServicePort := .record

instance : StableCodec ServiceSpec := .record

/-! ## Workloads -/

/-- Stateful sets whose `rawData` is not `null`, and services, are read back from their JSON, as it
is written and as memory holds it (`Json.arranged`). For the latter the data itself is as memory
holds it, which it is if it was read. -/
theorem workloads_read_back :
    (∀ s : StatefulSet, .null ∉ s.rawData →
      decode? (encode s) = some s ∧
        ((∀ j ∈ s.rawData, j.arranged = j) → decode? (encode s).arranged = some s)) ∧
      ∀ s : ServiceSpec, decode? (encode s) = some s ∧ decode? (encode s).arranged = some s := by
  refine ⟨fun s hnull => ⟨?_, fun hheld => ?_⟩, fun s => ⟨?_, ?_⟩⟩
  · refine StatefulSet.decode?_arrange_encode (f := .asWritten) fun j hj => ⟨?_, rfl⟩
    exact ne_of_mem_of_not_mem hj hnull
  · refine StatefulSet.decode?_arrange_encode (f := .byName) fun j hj => ⟨?_, hheld j hj⟩
    exact ne_of_mem_of_not_mem hj hnull
  · exact decode?_arrange .asWritten s
  · exact decode?_arrange .byName s

/-- A stateful set that has vacant values in optional fields, flattened sources and actions, and
data. -/
def furnished : StatefulSet where
  metadata := { labels := .ofList [("tier", ""), ("app", "db")] }
  spec :=
    { replicas := some 0
      selector := some {}
      template :=
        { spec :=
            { volumes :=
                [{ name := "data", source := { emptyDir := some {} } },
                 { name := "conf"
                   source :=
                     { secret := some { items := [{ key := "k" }], isOptional := some false } } }]
              containers :=
                [{ name := "db"
                   livenessProbe := some { handler := { exec := some {} }, periodSeconds := 5 }
                   lifecycle := some { preStop := some {} }
                   securityContext := some { runAsUser := some 0, capabilities := some {} } }]
              affinity := some (.object
                [("nodes", .null), ("weight", .number ⟨true, 15, [], some 3⟩)]) } }
      updateStrategy := { rollingUpdate := some (.object []) } }

theorem workloads_read_back_furnished :
    decode? (encode furnished) = some furnished ∧
      decode? (encode furnished).arranged = some furnished := by
  have hnull : .null ∉ furnished.rawData := by
    simp [furnished, StatefulSet.rawData, PodSpec.rawData]
  have hheld : ∀ j ∈ furnished.rawData, j.arranged = j :=
    List.forall_mem_cons.mpr ⟨rfl, List.forall_mem_singleton.mpr rfl⟩
  obtain ⟨hwritten, hread⟩ := workloads_read_back.1 furnished hnull
  exact ⟨hwritten, hread hheld⟩

end ReplicaControl
