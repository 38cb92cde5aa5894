import ReplicaControl.Merge.Container
import ReplicaControl.Workload.StatefulSet

/-!
# Merging pods

Containers, volumes, host aliases, tolerations and spread constraints are matched by key; `affinity`
and `securityContext` are data and are replaced as a whole (specification, sections 4.3 and 10.4).
-/

namespace ReplicaControl

instance : Merge ObjectMeta where
  merge a b :=
    { name := prefer a.name b.name
      namespaceName := prefer a.namespaceName b.namespaceName
      labels := a.labels.union b.labels
      annotations := a.annotations.union b.annotations }

instance : Merge LabelSelectorRequirement where
  merge a b :=
    { key := prefer a.key b.key
      operator := prefer a.operator b.operator
      values := uniteTexts a.values b.values }

instance : Merge LabelSelector where
  merge a b :=
    { matchLabels := a.matchLabels.union b.matchLabels
      matchExpressions := mergeKeyed (·.key) a.matchExpressions b.matchExpressions }

instance : Merge LocalObjectReference where
  merge a b :=
    { name := prefer a.name b.name }

instance : Merge KeyToPath where
  merge a b :=
    { key := prefer a.key b.key
      path := prefer a.path b.path
      mode := prefer a.mode b.mode }

instance : Merge EmptyDirVolumeSource where
  merge a b :=
    { medium := prefer a.medium b.medium
      sizeLimit := prefer a.sizeLimit b.sizeLimit }

instance : Merge SecretVolumeSource where
  merge a b :=
    { secretName := prefer a.secretName b.secretName
      items := mergeKeyed (·.key) a.items b.items
      defaultMode := prefer a.defaultMode b.defaultMode
      isOptional := prefer a.isOptional b.isOptional }

instance : Merge ConfigMapVolumeSource where
  merge a b :=
    { name := prefer a.name b.name
      items := mergeKeyed (·.key) a.items b.items
      defaultMode := prefer a.defaultMode b.defaultMode
      isOptional := prefer a.isOptional b.isOptional }

/-- Two sources of the kinds `emptyDir`, `secret` or `configMap` are merged; any other source
replaces the baseline, and so does a `persistentVolumeClaim` over another one. -/
instance : Merge VolumeSource where
  merge a b :=
    if isVacant b then a
    else
      match a.emptyDir, b.emptyDir with
      | some base, some override => { emptyDir := some (merge base override) }
      | _, _ =>
        match a.secret, b.secret with
        | some base, some override => { secret := some (merge base override) }
        | _, _ =>
          match a.configMap, b.configMap with
          | some base, some override => { configMap := some (merge base override) }
          | _, _ => b

instance : Merge Volume where
  merge a b :=
    { name := prefer a.name b.name
      source := merge a.source b.source }

instance : Merge HostAlias where
  merge a b :=
    { ip := prefer a.ip b.ip
      hostnames := uniteTexts a.hostnames b.hostnames }

/-- A toleration is known by its `key` and its `effect`. -/
def tolerationKey (t : Toleration) : String × String := (t.key, t.effect)

instance : Merge Toleration where
  merge a b :=
    { key := prefer a.key b.key
      operator := prefer a.operator b.operator
      value := prefer a.value b.value
      effect := prefer a.effect b.effect
      tolerationSeconds := prefer a.tolerationSeconds b.tolerationSeconds }

instance : Merge TopologySpreadConstraint where
  merge a b :=
    { maxSkew := prefer a.maxSkew b.maxSkew
      topologyKey := prefer a.topologyKey b.topologyKey
      whenUnsatisfiable := prefer a.whenUnsatisfiable b.whenUnsatisfiable
      labelSelector := merge a.labelSelector b.labelSelector }

instance : Merge PodSpec where
  merge a b :=
    { volumes := mergeKeyed (·.name) a.volumes b.volumes
      initContainers := mergeKeyed (·.name) a.initContainers b.initContainers
      containers := mergeKeyed (·.name) a.containers b.containers
      restartPolicy := prefer a.restartPolicy b.restartPolicy
      terminationGracePeriodSeconds :=
        prefer a.terminationGracePeriodSeconds b.terminationGracePeriodSeconds
      activeDeadlineSeconds := prefer a.activeDeadlineSeconds b.activeDeadlineSeconds
      dnsPolicy := prefer a.dnsPolicy b.dnsPolicy
      nodeSelector := a.nodeSelector.union b.nodeSelector
      serviceAccountName := prefer a.serviceAccountName b.serviceAccountName
      automountServiceAccountToken :=
        prefer a.automountServiceAccountToken b.automountServiceAccountToken
      nodeName := prefer a.nodeName b.nodeName
      hostNetwork := prefer a.hostNetwork b.hostNetwork
      shareProcessNamespace := prefer a.shareProcessNamespace b.shareProcessNamespace
      securityContext := prefer a.securityContext b.securityContext
      imagePullSecrets := mergeKeyed (·.name) a.imagePullSecrets b.imagePullSecrets
      hostname := prefer a.hostname b.hostname
      subdomain := prefer a.subdomain b.subdomain
      affinity := prefer a.affinity b.affinity
      schedulerName := prefer a.schedulerName b.schedulerName
      tolerations := mergeKeyed tolerationKey a.tolerations b.tolerations
      hostAliases := mergeKeyed (·.ip) a.hostAliases b.hostAliases
      priorityClassName := prefer a.priorityClassName b.priorityClassName
      priority := prefer a.priority b.priority
      topologySpreadConstraints :=
        mergeKeyed (·.topologyKey) a.topologySpreadConstraints b.topologySpreadConstraints }

instance : Merge PodTemplateSpec where
  merge a b :=
    { metadata := merge a.metadata b.metadata
      spec := merge a.spec b.spec }

/-!
## Merging stateful sets

The entries of `volumeClaimTemplates` are matched by the names in their metadata, and their
`accessModes` are united (section 10.4).
-/

instance : Merge ClaimSpec where
  merge a b :=
    { accessModes := uniteTexts a.accessModes b.accessModes
      selector := merge a.selector b.selector
      resources := merge a.resources b.resources
      storageClassName := prefer a.storageClassName b.storageClassName
      volumeMode := prefer a.volumeMode b.volumeMode }

instance : Merge Claim where
  merge a b :=
    { metadata := merge a.metadata b.metadata
      spec := merge a.spec b.spec }

instance : Merge UpdateStrategy where
  merge a b :=
    { kind := prefer a.kind b.kind
      rollingUpdate := prefer a.rollingUpdate b.rollingUpdate }

instance : Merge StatefulSetSpec where
  merge a b :=
    { replicas := prefer a.replicas b.replicas
      selector := merge a.selector b.selector
      template := merge a.template b.template
      volumeClaimTemplates :=
        mergeKeyed (·.metadata.name) a.volumeClaimTemplates b.volumeClaimTemplates
      serviceName := prefer a.serviceName b.serviceName
      podManagementPolicy := prefer a.podManagementPolicy b.podManagementPolicy
      updateStrategy := merge a.updateStrategy b.updateStrategy
      revisionHistoryLimit := prefer a.revisionHistoryLimit b.revisionHistoryLimit }

instance : Merge StatefulSet where
  merge a b :=
    { metadata := merge a.metadata b.metadata
      spec := merge a.spec b.spec }

end ReplicaControl
