import ReplicaControl.Proofs.Document.Content
import ReplicaControl.Proofs.Except
import ReplicaControl.Topology.Build

/-!
# Built documents

What `Topology.build` makes of a topology, whatever its hooks are (specification, section 4.1).

- `build_eq_ok_iff`: when a topology has a document, and which.
- `process_induction`: what hooks keep, by induction on them.
- `isNumeric_unversioned`: the numbers of the document are numbers, if the hooks see to it
  (`HooksNumeric`).
-/

namespace ReplicaControl.Topology

variable {t : Topology} {d : Document}

/-- `build` succeeds if `validate` and `checkReferences` do, and gives the next version of
`unversioned`. -/
theorem build_eq_ok_iff : t.build = .ok d ↔
    t.validate = .ok () ∧ t.unversioned.checkReferences = .ok () ∧
      d = t.unversioned.versionedAfter t.previous := by
  rw [build, bind_eq_ok_iff]
  cases t.unversioned.checkReferences with
  | error fault => simp
  | ok _ =>
    constructor
    · rintro ⟨_, hvalid, h⟩
      exact ⟨hvalid, rfl, (Except.ok.inj h).symm⟩
    · rintro ⟨hvalid, -, rfl⟩
      exact ⟨(), hvalid, rfl⟩

theorem build_eq_ok (hvalid : t.validate = .ok ()) (hfault : t.unversioned.referenceFault? = none) :
    t.build = .ok (t.unversioned.versionedAfter t.previous) :=
  build_eq_ok_iff.mpr ⟨hvalid, by rw [Document.checkReferences, hfault], rfl⟩

/-- Hooks make no cache size a `NaN`: a process whose cache size is a number keeps one that is. -/
def HooksNumeric (t : Topology) : Prop :=
  ∀ hook ∈ t.hooks, ∀ index p, p.IsNumeric → (hook index p).IsNumeric

/-- A cache size that `forVersion?` finds is rounded, so it is a number. -/
theorem isNaN_of_forVersion? {version : String} {limit : Option UInt64} {size : Single}
    (h : CacheSize.forVersion? version limit = some size) : size.isNaN = false := by
  have hsize : ∃ bytes, size = CacheSize.ofLimit bytes := by
    cases limit with
    | none => simp [CacheSize.forVersion?] at h
    | some bytes =>
      simp only [CacheSize.forVersion?, Option.ite_none_right_eq_some,
        Option.ite_none_left_eq_some] at h
      exact ⟨bytes, (Option.some.inj h.2.2).symm⟩
  obtain ⟨bytes, rfl⟩ := hsize
  exact Single.isNaN_round _ _

theorem isNumeric_plainProcess (t : Topology) (pod : String) : (t.plainProcess pod).IsNumeric := by
  unfold plainProcess
  cases hsize : CacheSize.forVersion? t.version t.memoryLimitBytes with
  | none => exact nofun
  | some size =>
    rintro x ⟨⟩
    exact isNaN_of_forVersion? hsize

/-- What holds of `plainProcess` and is kept by each hook holds of `process`. -/
theorem process_induction {P : Process → Prop} {pod : String} (hplain : P (t.plainProcess pod))
    (hhooks : ∀ hook ∈ t.hooks, ∀ index p, P p → P (hook index p)) (index : Nat) :
    P (t.process index pod) := by
  unfold process
  generalize t.hooks = hooks at hhooks ⊢
  generalize t.plainProcess pod = p at hplain
  -- By induction on the hooks: what one of them makes of the process, the next is given.
  induction hooks generalizing p with
  | nil => exact hplain
  | cons hook hooks ih =>
    obtain ⟨hhook, hhooks⟩ := List.forall_mem_cons.mp hhooks
    exact ih hhooks _ (hhook index p hplain)

theorem isNumeric_process (h : t.HooksNumeric) (index : Nat) (pod : String) :
    (t.process index pod).IsNumeric :=
  process_induction (t.isNumeric_plainProcess pod) h index

/-- The priorities of `replicaSet` are one for members, and zero for arbiters. -/
theorem isNumeric_replicaSet (t : Topology) : t.replicaSet.IsNumeric := by
  intro m hm
  obtain ⟨index, hindex, rfl⟩ := List.mem_mapIdx.mp hm
  unfold listing
  dsimp only
  split
  · exact Single.isNaN_round _ _
  · exact Single.isNaN_round _ _

/-- `unversioned` has no NaN if the hooks see to it. -/
theorem isNumeric_unversioned (h : t.HooksNumeric) : t.unversioned.IsNumeric where
  processes p hp := by
    obtain ⟨index, hindex, rfl⟩ := List.mem_mapIdx.mp hp
    exact isNumeric_process h _ _
  replicaSets r hr := by
    obtain rfl := List.mem_singleton.mp hr
    exact t.isNumeric_replicaSet

/-! ## A sample -/

/-- A hook that sets the cache size of the first process to `size`. -/
def capFirst (size : Single) : Hook := fun index p =>
  if index = 0 then p.withCacheSizeGb size else p

theorem hooksNumeric_of_hooks_eq {size : Single} (h : t.hooks = [capFirst size])
    (hsize : size.isNaN = false) : t.HooksNumeric := by
  intro hook hmem index p hp
  rw [h] at hmem
  obtain rfl := List.mem_singleton.mp hmem
  unfold capFirst
  split
  · rintro x ⟨⟩
    exact hsize
  · exact hp

/-- Two members and an arbiter. A hook sets the cache size of the first of them. -/
def trio : Topology where
  name := "rs"
  namespaceName := "db"
  members := 2
  arbiters := 1
  version := "6.0.5"
  hooks := [capFirst (.round false 2)]

theorem build_trio : trio.build = .ok (trio.unversioned.versionedAfter none) :=
  build_eq_ok (by simp [validate, trio]) (by decide +kernel)

end ReplicaControl.Topology
