import ReplicaControl.Proofs.Merge.Pod

/-!
# Volume sources that are laid over each other

Two sources of the same kind merge field by field (specification, section 4.3): a field that the
override leaves out falls back to the baseline (`FallsBack`). This holds of `emptyDir`, `secret` and
`configMap`. A `persistentVolumeClaim` is replaced instead, so what the override leaves out of it is
lost.

- **Field by field** (`VolumeSource.LaidOver`): a source whose fields all fall back.
- **When merging does that** (`Volume.merge_same_kind`): always for the first three kinds, and for
  `persistentVolumeClaim` exactly if the override leaves out no field that the baseline has
  (`VolumeSource.laidOver_claim_iff`).
- **When it does not** (`Volume.claim_replaced`).
-/

namespace ReplicaControl

/-- A vacant `override` keeps `base`, and any other one wins. -/
structure FallsBack {α : Type} [Vacant α] (base override merged : α) : Prop where
  kept : override = vacant → merged = base
  won : override ≠ vacant → merged = override

/-- What `prefer` gives falls back. -/
theorem fallsBack_prefer {α : Type} [Vacant α] (base override : α) :
    FallsBack base override (prefer base override) where
  kept h := by rw [h, prefer_vacant]
  won h := by rw [prefer, if_neg (mt (isVacant_iff override).mp h)]

/-- What is replaced by `override` falls back if `override` is not vacant where `base` is not. -/
theorem fallsBack_override_iff {α : Type} [Vacant α] {base override : α} :
    FallsBack base override override ↔ (override = vacant → base = vacant) := by
  constructor
  · intro h hvacant
    rw [← h.kept hvacant, hvacant]
  · exact fun h => ⟨fun hvacant => hvacant.trans (h hvacant).symm, fun _ => rfl⟩

/-! ## Sources of one kind -/

/-- `merged` is the directory `override` laid over `base`, field by field. -/
structure EmptyDirVolumeSource.LaidOver (base override merged : EmptyDirVolumeSource) : Prop where
  medium : FallsBack base.medium override.medium merged.medium
  sizeLimit : FallsBack base.sizeLimit override.sizeLimit merged.sizeLimit

/-- `merged` is the secret `override` laid over `base`, field by field. -/
structure SecretVolumeSource.LaidOver (base override merged : SecretVolumeSource) : Prop where
  secretName : FallsBack base.secretName override.secretName merged.secretName
  items : override.items = [] → merged.items = base.items
  defaultMode : FallsBack base.defaultMode override.defaultMode merged.defaultMode
  isOptional : FallsBack base.isOptional override.isOptional merged.isOptional

/-- `merged` is the config map `override` laid over `base`, field by field. -/
structure ConfigMapVolumeSource.LaidOver (base override merged : ConfigMapVolumeSource) : Prop where
  name : FallsBack base.name override.name merged.name
  items : override.items = [] → merged.items = base.items
  defaultMode : FallsBack base.defaultMode override.defaultMode merged.defaultMode
  isOptional : FallsBack base.isOptional override.isOptional merged.isOptional

/-- `merged` is the reference to a claim `override` laid over `base`, field by field. -/
structure ClaimVolumeSource.LaidOver (base override merged : ClaimVolumeSource) : Prop where
  claimName : FallsBack base.claimName override.claimName merged.claimName
  readOnly : FallsBack base.readOnly override.readOnly merged.readOnly

theorem EmptyDirVolumeSource.laidOver_merge (x y : EmptyDirVolumeSource) :
    x.LaidOver y (merge x y) where
  medium := fallsBack_prefer _ _
  sizeLimit := fallsBack_prefer _ _

theorem SecretVolumeSource.laidOver_merge (x y : SecretVolumeSource) :
    x.LaidOver y (merge x y) where
  secretName := fallsBack_prefer _ _
  items h := by
    show mergeKeyed (·.key) x.items y.items = x.items
    rw [h, mergeKeyed_nil]
  defaultMode := fallsBack_prefer _ _
  isOptional := fallsBack_prefer _ _

theorem ConfigMapVolumeSource.laidOver_merge (x y : ConfigMapVolumeSource) :
    x.LaidOver y (merge x y) where
  name := fallsBack_prefer _ _
  items h := by
    show mergeKeyed (·.key) x.items y.items = x.items
    rw [h, mergeKeyed_nil]
  defaultMode := fallsBack_prefer _ _
  isOptional := fallsBack_prefer _ _

/-- Replacing `x` by `y` lays `y` over `x` field by field if `y` leaves out no field that `x` has.
-/
theorem ClaimVolumeSource.laidOver_override_iff {x y : ClaimVolumeSource} :
    x.LaidOver y y ↔
      (y.claimName = "" → x.claimName = "") ∧ (y.readOnly = false → x.readOnly = false) := by
  constructor
  · exact fun h => ⟨fallsBack_override_iff.mp h.claimName, fallsBack_override_iff.mp h.readOnly⟩
  · exact fun h => ⟨fallsBack_override_iff.mpr h.1, fallsBack_override_iff.mpr h.2⟩

/-! ## Volumes -/

namespace VolumeSource

/-- Two sources of the same kind, each with no other one set. -/
inductive SameKind : VolumeSource → VolumeSource → Prop where
  | emptyDir (x y : EmptyDirVolumeSource) : SameKind { emptyDir := some x } { emptyDir := some y }
  | secret (x y : SecretVolumeSource) : SameKind { secret := some x } { secret := some y }
  | configMap (x y : ConfigMapVolumeSource) :
    SameKind { configMap := some x } { configMap := some y }
  | claim (x y : ClaimVolumeSource) :
    SameKind { persistentVolumeClaim := some x } { persistentVolumeClaim := some y }

/-- `LaidOver base override merged`: the sources are of one kind, and `merged` is `override` laid
over `base`, field by field. -/
inductive LaidOver : VolumeSource → VolumeSource → VolumeSource → Prop where
  | emptyDir {x y m : EmptyDirVolumeSource} (h : x.LaidOver y m) :
    LaidOver { emptyDir := some x } { emptyDir := some y } { emptyDir := some m }
  | secret {x y m : SecretVolumeSource} (h : x.LaidOver y m) :
    LaidOver { secret := some x } { secret := some y } { secret := some m }
  | configMap {x y m : ConfigMapVolumeSource} (h : x.LaidOver y m) :
    LaidOver { configMap := some x } { configMap := some y } { configMap := some m }
  | claim {x y m : ClaimVolumeSource} (h : x.LaidOver y m) :
    LaidOver { persistentVolumeClaim := some x } { persistentVolumeClaim := some y }
      { persistentVolumeClaim := some m }

/-- `ClaimVolumeSource.laidOver_override_iff` for volume sources. -/
theorem laidOver_claim_iff {x y : ClaimVolumeSource} :
    LaidOver { persistentVolumeClaim := some x } { persistentVolumeClaim := some y }
        { persistentVolumeClaim := some y } ↔
      (y.claimName = "" → x.claimName = "") ∧ (y.readOnly = false → x.readOnly = false) := by
  rw [← ClaimVolumeSource.laidOver_override_iff]
  exact ⟨fun | .claim h => h, .claim⟩

end VolumeSource

/-- Volumes of one name and one kind of source merge field by field (`VolumeSource.LaidOver`),
unless the source is a `persistentVolumeClaim`: `b` replaces that of `a`, so that it is laid over it
only if `b` leaves out no field that `a` has. -/
theorem Volume.merge_same_kind {a b : Volume} (hname : b.name = a.name)
    (h : a.source.SameKind b.source) :
    (merge a b).name = a.name ∧
      (∀ y ∈ b.source.persistentVolumeClaim, merge a b = b) ∧
        (a.source.LaidOver b.source (merge a b).source ↔
          ∀ x ∈ a.source.persistentVolumeClaim, ∀ y ∈ b.source.persistentVolumeClaim,
            (y.claimName = "" → x.claimName = "") ∧ (y.readOnly = false → x.readOnly = false)) := by
  obtain ⟨name, source⟩ := a
  obtain ⟨name', source'⟩ := b
  obtain rfl : name' = name := hname
  have hmerge : merge (Volume.mk name' source) ⟨name', source'⟩ = ⟨name', merge source source'⟩ :=
    congrArg (Volume.mk · (merge source source')) (prefer_self name')
  rw [hmerge]
  refine ⟨rfl, ?_⟩
  -- Only a claim is in `persistentVolumeClaim`, so that the conditions are empty for the other
  -- kinds.
  cases h with
  | emptyDir x y => exact ⟨nofun, iff_of_true (.emptyDir (x.laidOver_merge y)) nofun⟩
  | secret x y => exact ⟨nofun, iff_of_true (.secret (x.laidOver_merge y)) nofun⟩
  | configMap x y => exact ⟨nofun, iff_of_true (.configMap (x.laidOver_merge y)) nofun⟩
  | claim x y =>
    rw [VolumeSource.merge_claim, VolumeSource.laidOver_claim_iff]
    refine ⟨fun _ _ => rfl, ?_⟩
    simp only [Option.mem_def, Option.some.injEq, forall_eq']

/-- A volume of a secret, with a `defaultMode` for its files. -/
def certificate : Volume :=
  ⟨"tls", { secret := some { secretName := "tls", defaultMode := some 0o400 } }⟩

/-- An override that names another secret and no mode. -/
def rotated : Volume := ⟨"tls", { secret := some { secretName := "tls-rotated" } }⟩

/-- A volume of a claim. -/
def claimed : Volume := ⟨"data", { persistentVolumeClaim := some { claimName := "data-rs-0" } }⟩

/-- An override that makes a claim read-only and leaves out its name. -/
def readOnlyClaim : Volume := ⟨"data", { persistentVolumeClaim := some { readOnly := true } }⟩

theorem Volume.merge_same_kind_rotated :
    certificate.source.LaidOver rotated.source (merge certificate rotated).source ∧
      merge claimed readOnlyClaim = readOnlyClaim ∧
      ¬claimed.source.LaidOver readOnlyClaim.source (merge claimed readOnlyClaim).source := by
  obtain ⟨-, -, hsecret⟩ := Volume.merge_same_kind (a := certificate) (b := rotated) rfl
    (.secret _ _)
  obtain ⟨-, hreplaced, hclaim⟩ := Volume.merge_same_kind (a := claimed) (b := readOnlyClaim) rfl
    (.claim _ _)
  refine ⟨hsecret.mpr (fun _ hx => nomatch hx), hreplaced _ rfl, fun h => ?_⟩
  have hname := (hclaim.mp h _ rfl _ rfl).1 rfl
  exact absurd hname (by decide)

/-- `readOnlyClaim` over `claimed` loses the name of the claim. -/
theorem Volume.claim_replaced :
    ¬∀ a b : Volume, b.name = a.name → a.source.SameKind b.source →
      a.source.LaidOver b.source (merge a b).source := by
  intro h
  have hlaid := h claimed readOnlyClaim rfl (.claim _ _)
  have hreplaced : (merge claimed readOnlyClaim).source = readOnlyClaim.source := by decide
  rw [hreplaced] at hlaid
  exact absurd ((VolumeSource.laidOver_claim_iff.mp hlaid).1 rfl) (by decide)

end ReplicaControl
