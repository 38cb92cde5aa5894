import Mathlib.Algebra.Group.Nat.Defs
import ReplicaControl.Document.Override

/-!
# Contents of documents

Contents are compared as numbers and texts (`Document.contentEquals`), so a document differs from
itself exactly if it holds a number that is none. On this comparison rests whether a document gets
another version (specification, section 10.2).

- **Numbers** (`Single.beq_self`, `Single.isNaN_round`): a number equals itself, and rounding gives
  a number.
- **Documents** (`Document.contentEquals_self_iff`, `Document.beq_self_iff`): they equal themselves
  if they are `Document.IsNumeric`. `Document.beq_iff` takes equality apart into versions and
  contents.
- **Versions** (`Document.version_versionedAfter_eq_iff`): when the next version is the previous
  one; by `Document.versionedAfter_versionedAfter` the same content once more keeps its version.
- `Document.IsNumeric.override`: overrides touch no number.
-/

namespace ReplicaControl

/-! ## Numbers -/

namespace Single

/-- A number equals itself, a `NaN` does not. -/
theorem beq_self (x : Single) : (x == x) = !x.isNaN := by
  simp [BEq.beq]

theorem beq_comm (x y : Single) : (x == y) = (y == x) := by
  have hbeq : ∀ x y : Single, (x == y) =
      (!x.isNaN && !y.isNaN && (x.bits == y.bits || (x.code == 0 && y.code == 0))) := fun _ _ => rfl
  rw [hbeq, hbeq, Bool.and_comm (!x.isNaN), BEq.comm (a := x.bits), Bool.and_comm (x.code == 0)]

theorem code_ofCode (negative : Bool) {code : Nat} (h : code < Nat.pow 2 31) :
    (ofCode negative code).code = code := by
  have hpow : Nat.pow 2 31 = 2147483648 := rfl
  rw [hpow] at h
  unfold Single.code ofCode
  rw [hpow, UInt32.toNat_ofNat']
  cases negative <;> simp only [Bool.false_eq_true, if_true, if_false] <;> omega

/-- `round` gives a number, if perhaps an infinite one. -/
theorem isNaN_round (negative : Bool) (x : Rat) : (round negative x).isNaN = false := by
  have hle : Binary.single.round x ≤ Binary.single.infinity := by
    unfold Binary.round
    split
    · exact Nat.zero_le _
    · exact Nat.min_le_left _ _
  have hlt : Binary.single.round x < Nat.pow 2 31 := Nat.lt_of_le_of_lt hle (by decide)
  rw [isNaN, round, code_ofCode negative hlt]
  exact decide_eq_false (Nat.not_lt.mpr hle)

end Single

/-! ## Processes and replica sets -/

theorem ProcessArguments.beq_def (a b : ProcessArguments) :
    (a == b) = (a.net == b.net && ((a.storage.dbPath == b.storage.dbPath &&
      a.storage.wiredTiger == b.storage.wiredTiger) && a.replication == b.replication)) :=
  rfl

theorem Process.beq_def (p q : Process) :
    (p == q) = (p.name == q.name && (p.hostname == q.hostname && (p.args == q.args &&
      (p.featureCompatibilityVersion == q.featureCompatibilityVersion && (p.kind == q.kind &&
        (p.version == q.version && (p.authSchemaVersion == q.authSchemaVersion &&
          (p.systemLog == q.systemLog && (p.disabled == q.disabled &&
            p.logRotation == q.logRotation))))))))) :=
  rfl

theorem ReplicaSetMember.beq_def (m n : ReplicaSetMember) :
    (m == n) = (m.id == n.id && (m.host == n.host && (m.priority == n.priority &&
      (m.arbiterOnly == n.arbiterOnly && m.votes == n.votes)))) :=
  rfl

theorem ReplicaSet.beq_def (r s : ReplicaSet) :
    (r == s) = (r.id == s.id && (r.members == s.members && r.protocolVersion == s.protocolVersion)) :=
  rfl

/-- The cache size of `p`, if there is one, is a number. -/
def Process.IsNumeric (p : Process) : Prop := ∀ x ∈ p.cacheSizeGb, x.isNaN = false

instance (p : Process) : Decidable p.IsNumeric :=
  inferInstanceAs (Decidable (∀ x ∈ p.cacheSizeGb, x.isNaN = false))

/-- The priorities of the members of `r` are numbers. -/
def ReplicaSet.IsNumeric (r : ReplicaSet) : Prop := ∀ m ∈ r.members, m.priority.isNaN = false

instance (r : ReplicaSet) : Decidable r.IsNumeric :=
  inferInstanceAs (Decidable (∀ m ∈ r.members, m.priority.isNaN = false))

theorem Process.beq_self_iff {p : Process} : (p == p) = true ↔ p.IsNumeric := by
  have hself : (p == p) = (p.args.storage.wiredTiger == p.args.storage.wiredTiger) := by
    rw [Process.beq_def, ProcessArguments.beq_def]
    simp only [beq_self_eq_true, Bool.true_and, Bool.and_true]
  rw [hself, IsNumeric, cacheSizeGb]
  cases p.args.storage.wiredTiger with
  | none => simp
  | some w =>
    have hw : (some w == some w) = (w.engineConfig.cacheSizeGb == w.engineConfig.cacheSizeGb) := rfl
    simp [hw, Single.beq_self]

/-- A list equals itself by `==` if and only if its elements do. -/
theorem list_beq_self_iff {α : Type} [BEq α] {as : List α} :
    (as == as) = true ↔ ∀ a ∈ as, (a == a) = true := by
  induction as with
  | nil => simp
  | cons a as ih => rw [List.cons_beq_cons, Bool.and_eq_true, ih, List.forall_mem_cons]

theorem list_beq_comm {α : Type} [BEq α] (h : ∀ a b : α, (a == b) = (b == a)) (as bs : List α) :
    (as == bs) = (bs == as) := by
  induction as generalizing bs with
  | nil => cases bs <;> rfl
  | cons a as ih =>
    cases bs with
    | nil => rfl
    | cons b bs => rw [List.cons_beq_cons, List.cons_beq_cons, h, ih]

theorem Process.beq_comm (p q : Process) : (p == q) = (q == p) := by
  have hengine : (p.args.storage.wiredTiger == q.args.storage.wiredTiger) =
      (q.args.storage.wiredTiger == p.args.storage.wiredTiger) := by
    cases p.args.storage.wiredTiger <;> cases q.args.storage.wiredTiger
    · rfl
    · rfl
    · rfl
    · exact Single.beq_comm _ _
  rw [Process.beq_def, Process.beq_def, ProcessArguments.beq_def, ProcessArguments.beq_def, hengine]
  simp only [BEq.comm (a := p.name), BEq.comm (a := p.hostname), BEq.comm (a := p.args.net),
    BEq.comm (a := p.args.storage.dbPath), BEq.comm (a := p.args.replication),
    BEq.comm (a := p.featureCompatibilityVersion), BEq.comm (a := p.kind),
    BEq.comm (a := p.version), BEq.comm (a := p.authSchemaVersion), BEq.comm (a := p.systemLog),
    BEq.comm (a := p.disabled), BEq.comm (a := p.logRotation)]

theorem ReplicaSet.beq_comm (r s : ReplicaSet) : (r == s) = (s == r) := by
  have hmember : ∀ m n : ReplicaSetMember, (m == n) = (n == m) := by
    intro m n
    rw [ReplicaSetMember.beq_def, ReplicaSetMember.beq_def, Single.beq_comm m.priority]
    simp only [BEq.comm (a := m.id), BEq.comm (a := m.host), BEq.comm (a := m.arbiterOnly),
      BEq.comm (a := m.votes)]
  rw [ReplicaSet.beq_def, ReplicaSet.beq_def, list_beq_comm hmember, BEq.comm (a := r.id),
    BEq.comm (a := r.protocolVersion)]

theorem ReplicaSet.beq_self_iff {r : ReplicaSet} : (r == r) = true ↔ r.IsNumeric := by
  have hmember : ∀ m : ReplicaSetMember, (m == m) = !m.priority.isNaN := by
    intro m
    rw [ReplicaSetMember.beq_def, Single.beq_self]
    simp only [beq_self_eq_true, Bool.true_and, Bool.and_true]
  have hself : (r == r) = (r.members == r.members) := by
    rw [ReplicaSet.beq_def]
    simp only [beq_self_eq_true, Bool.true_and, Bool.and_true]
  rw [hself, list_beq_self_iff, IsNumeric]
  simp only [hmember, Bool.not_eq_true']

/-! ## Documents -/

namespace Document

variable {d : Document}

/-- All cache sizes and priorities of `d` are numbers. -/
structure IsNumeric (d : Document) : Prop where
  processes : ∀ p ∈ d.processes, p.IsNumeric
  replicaSets : ∀ r ∈ d.replicaSets, r.IsNumeric

/-- A document has its own content if and only if it `IsNumeric`. -/
theorem contentEquals_self_iff : d.contentEquals d = true ↔ d.IsNumeric := by
  simp only [contentEquals, Bool.and_eq_true, list_beq_self_iff, Process.beq_self_iff,
    ReplicaSet.beq_self_iff, beq_self_eq_true, and_true]
  exact ⟨fun ⟨h, h'⟩ => ⟨h, h'⟩, fun h => ⟨h.processes, h.replicaSets⟩⟩

theorem contentEquals_comm (d e : Document) : d.contentEquals e = e.contentEquals d := by
  rw [contentEquals, contentEquals, list_beq_comm Process.beq_comm,
    list_beq_comm ReplicaSet.beq_comm, BEq.comm (a := d.auth), BEq.comm (a := d.monitoringVersions)]

/-- Documents are equal by `==` if they have one version and one content. -/
theorem beq_iff {e : Document} :
    (d == e) = true ↔ d.version = e.version ∧ d.contentEquals e = true := by
  have hbeq : (d == e) = (d.version == e.version && (d.processes == e.processes &&
      (d.replicaSets == e.replicaSets && (d.auth == e.auth &&
        d.monitoringVersions == e.monitoringVersions)))) := rfl
  simp only [hbeq, contentEquals, Bool.and_eq_true, beq_iff_eq, and_assoc]

/-- `contentEquals` is equality up to the version. -/
theorem beq_of_version (d e : Document) :
    ({ d with version := e.version } == e) = d.contentEquals e := by
  rw [Bool.eq_iff_iff, beq_iff]
  exact and_iff_right rfl

theorem beq_self_iff : (d == d) = true ↔ d.IsNumeric := by
  rw [beq_iff, contentEquals_self_iff]
  exact and_iff_right rfl

/-- `contentEquals` does not look at the version that `versionedAfter` gives. -/
theorem contentEquals_versionedAfter (d e : Document) (p : Option Document) :
    d.contentEquals (e.versionedAfter p) = d.contentEquals e :=
  rfl

/-- The version that `versionedAfter` gives does not depend on the one that `d` has. -/
theorem versionedAfter_of_version (d : Document) (version : UInt64) (p : Option Document) :
    { d with version }.versionedAfter p = d.versionedAfter p :=
  rfl

/-- `versionedAfter` gives another content the next version, unless that of `p` is the greatest
there is. -/
theorem toNat_version_versionedAfter {p : Document} (h : p.contentEquals d = false)
    (hlt : p.version.toNat + 1 < 2 ^ 64) :
    (d.versionedAfter (some p)).version.toNat = p.version.toNat + 1 := by
  rw [contentEquals_comm] at h
  have hversion : (d.versionedAfter (some p)).version = p.version + 1 := by simp [versionedAfter, h]
  rw [hversion, UInt64.toNat_add]
  exact Nat.mod_eq_of_lt hlt

/-- `versionedAfter` gives the version of `p` only to the content of `p`, even if that version is
the greatest that there is. -/
theorem version_versionedAfter_eq_iff {p : Document} :
    (d.versionedAfter (some p)).version = p.version ↔ d.contentEquals p = true := by
  cases h : d.contentEquals p with
  | true => simp [versionedAfter, h]
  | false =>
    have hversion : (d.versionedAfter (some p)).version = p.version + 1 := by
      simp [versionedAfter, h]
    rw [hversion]
    refine iff_of_false (fun heq => ?_) nofun
    have hnat := congrArg UInt64.toNat heq
    have hlt := p.version.toNat_lt
    rw [UInt64.toNat_add, UInt64.toNat_one] at hnat
    omega

/-- After the document `d.versionedAfter p`, `d` is given the same version again. -/
theorem versionedAfter_versionedAfter (h : d.IsNumeric) (p : Option Document) :
    d.versionedAfter (some (d.versionedAfter p)) = d.versionedAfter p := by
  have hsame : d.contentEquals (d.versionedAfter p) = true := by
    rw [contentEquals_versionedAfter]
    exact contentEquals_self_iff.mpr h
  rw [versionedAfter, if_pos hsame]
  rfl

/-- What `Process.override` keeps of the process that it names, it keeps of all processes. -/
theorem forall_mem_overrideProcess {P : Process → Prop} {o : ProcessOverride}
    (ho : ∀ p, P p → P (p.override o)) {ps : List Process} (hps : ∀ p ∈ ps, P p) :
    ∀ p ∈ overrideProcess ps o, P p := by
  unfold overrideProcess
  induction ps with
  | nil => exact hps
  | cons p ps ih =>
    obtain ⟨hp, hps⟩ := List.forall_mem_cons.mp hps
    rw [updateFirst]
    split
    · exact List.forall_mem_cons.mpr ⟨ho p hp, hps⟩
    · exact List.forall_mem_cons.mpr ⟨hp, ih hps⟩

theorem forall_mem_override {P : Process → Prop} (hP : ∀ p o, P p → P (p.override o))
    (hd : ∀ p ∈ d.processes, P p) (o : DocumentOverride) : ∀ p ∈ (d.override o).processes, P p := by
  show ∀ p ∈ o.processes.foldl overrideProcess d.processes, P p
  generalize d.processes = ps at hd ⊢
  induction o.processes generalizing ps with
  | nil => exact hd
  | cons o os ih => exact ih _ (forall_mem_overrideProcess (hP · o) hd)

/-- `override` touches no number. -/
theorem IsNumeric.override (h : d.IsNumeric) (o : DocumentOverride) : (d.override o).IsNumeric where
  processes := forall_mem_override (fun _ _ hp => hp) h.processes o
  replicaSets := h.replicaSets

end Document

end ReplicaControl
