import ReplicaControl.Agent.Health
import ReplicaControl.Document.Override
import ReplicaControl.Proofs.Json.Codec

/-!
# Reading back documents

All of a document is read back from its JSON but perhaps its numbers: a `Single` that is not finite
is written as `null`, which is no number. The documents of section 10.2 of the specification hold
two kinds of them, `cacheSizeGB` and `priority`.

- `Single.decode?_encode`: the numbers that are read back.
- **Records that hold numbers** (`Process.decode?_encode_eq`, `ReplicaSet.decode?_encode_eq`): they
  are read as far as their numbers are. All other records have a `LawfulCodec`.
- `Document.ofText?_toText_eq_some`: a document of finite numbers is read back if its numbers are.
- `Document.ofText?_toText_eq_none`: a document with a number that is not finite is not read.
-/

namespace ReplicaControl

open MemberRule Members

/-! ## Numbers -/

namespace Single

/-- `x` is read back from the numeral that documents write for it, if they write one. -/
def ReadsBack (x : Single) : Prop := ∀ n ∈ x.numeral?, ofNumeral? n = some x

/-- Numbers are compared by their bits here, as `0` and `-0` are two numbers. -/
instance (x : Single) : Decidable x.ReadsBack :=
  decidable_of_iff (∀ n ∈ x.numeral?, (ofNumeral? n).map (·.bits) = some x.bits) <|
    forall₂_congr fun n _ => by
      cases ofNumeral? n with
      | none => exact iff_of_false nofun nofun
      | some y =>
        obtain ⟨bits⟩ := x
        obtain ⟨bits'⟩ := y
        simp

/-- What `decode?` gives of `x` is what is read of its numeral, if it has one. -/
theorem decode?_encode_eq (x : Single) : decode? (encode x) = x.numeral?.bind ofNumeral? := by
  simp only [encode]
  cases x.numeral? <;> rfl

/-- A finite number is read back by `decode?` if its numeral is (`ReadsBack`). -/
theorem decode?_encode {x : Single} (hfinite : x.isFinite = true) (h : x.ReadsBack) :
    decode? (encode x) = some x := by
  rw [decode?_encode_eq]
  cases hn : x.numeral? with
  | none =>
    rw [numeral?, if_pos hfinite] at hn
    cases hn
  | some n => exact h n hn

/-- A number that is not finite is not read by `decode?`. -/
theorem decode?_encode_eq_none {x : Single} (h : x.isFinite = false) :
    (decode? (encode x) : Option Single) = none := by
  have hn : x.numeral? = none := by rw [numeral?, h]; rfl
  rw [decode?_encode_eq, hn]
  rfl

end Single

/-! ## Processes -/

instance : LawfulCodec ProcessKind where
  isReadable_encode kind := by cases kind <;> exact .string _
  decode?_encode kind := by cases kind <;> rfl

instance : LawfulCodec TlsOptions := .record

instance : RefusesNull TlsOptions := ⟨rfl⟩

instance : LawfulCodec NetOptions := .record

instance : ReadableCodec EngineConfig := .record

instance : ReadableCodec WiredTiger := .record

instance : ReadableCodec StorageOptions := .record

instance : LawfulCodec ReplicationOptions := .record

instance : ReadableCodec ProcessArguments := .record

instance : LawfulCodec SystemLog := .record

instance : LawfulCodec LogRotation := .record

instance : RefusesNull LogRotation := ⟨rfl⟩

instance : ReadableCodec Process := .record

theorem EngineConfig.decode?_encode_eq (e : EngineConfig) :
    decode? (encode e) = (decode? (encode e.cacheSizeGb)).bind fun cacheSizeGb =>
      some { e with cacheSizeGb } :=
  (Codec.decode?_encode_record _ (by decide) e).trans (by simp [Members.reread])

theorem WiredTiger.decode?_encode_eq (w : WiredTiger) :
    decode? (encode w) = (decode? (encode w.engineConfig)).bind fun engineConfig =>
      some { w with engineConfig } :=
  (Codec.decode?_encode_record _ (by decide) w).trans (by simp [Members.reread])

theorem WiredTiger.encode_ne_null (w : WiredTiger) : encode w ≠ .null := by
  show Json.object _ ≠ Json.null
  nofun

theorem StorageOptions.decode?_encode_eq (s : StorageOptions) :
    decode? (encode s) = (decode? (encode s.wiredTiger)).bind fun wiredTiger =>
      some { s with wiredTiger } :=
  (Codec.decode?_encode_record _ (by decide) s).trans (by simp [Members.reread])

theorem ProcessArguments.decode?_encode_eq (a : ProcessArguments) :
    decode? (encode a) = (decode? (encode a.storage)).bind fun storage => some { a with storage } :=
  (Codec.decode?_encode_record _ (by decide) a).trans (by simp [Members.reread])

namespace Process

/-- A process is read as far as its `args` are. -/
theorem decode?_encode_eq (p : Process) :
    decode? (encode p) = (decode? (encode p.args)).bind fun args => some { p with args } :=
  (Codec.decode?_encode_record _ (by decide) p).trans (by simp [Members.reread])

/-- A process is read back by `decode?` if its cache size, if it has one, is. -/
theorem decode?_encode {p : Process} (h : ∀ x ∈ p.cacheSizeGb, decode? (encode x) = some x) :
    decode? (encode p) = some p := by
  have hengine : decode? (encode p.args.storage.wiredTiger) = some p.args.storage.wiredTiger := by
    rw [cacheSizeGb] at h
    cases hw : p.args.storage.wiredTiger with
    | none => rfl
    | some w =>
      have hx := h w.engineConfig.cacheSizeGb (by rw [hw]; rfl)
      rw [Codec.decode?_encode_some w.encode_ne_null, WiredTiger.decode?_encode_eq,
        EngineConfig.decode?_encode_eq, hx]
      rfl
  rw [decode?_encode_eq, ProcessArguments.decode?_encode_eq, StorageOptions.decode?_encode_eq,
    hengine]
  rfl

/-- A process is not read if its `cacheSizeGb` is not. -/
theorem decode?_encode_eq_none {p : Process} {x : Single} (hx : x ∈ p.cacheSizeGb)
    (h : (decode? (encode x) : Option Single) = none) :
    (decode? (encode p) : Option Process) = none := by
  obtain ⟨w, hw, rfl⟩ := Option.map_eq_some_iff.mp hx
  rw [decode?_encode_eq, ProcessArguments.decode?_encode_eq, StorageOptions.decode?_encode_eq, hw,
    Codec.decode?_encode_some w.encode_ne_null, WiredTiger.decode?_encode_eq,
    EngineConfig.decode?_encode_eq, h]
  rfl

end Process

/-! ## Replica sets -/

instance : ReadableCodec ReplicaSetMember := .record

instance : ReadableCodec ReplicaSet := .record

/-- A member is read as far as its `priority` is. -/
theorem ReplicaSetMember.decode?_encode_eq (m : ReplicaSetMember) :
    decode? (encode m) = (decode? (encode m.priority)).bind fun priority =>
      some { m with priority } :=
  (Codec.decode?_encode_record _ (by decide) m).trans (by simp [Members.reread])

namespace ReplicaSet

/-- A replica set is read as far as its `members` are. -/
theorem decode?_encode_eq (r : ReplicaSet) :
    decode? (encode r) = (decode? (encode r.members)).bind fun members => some { r with members } :=
  (Codec.decode?_encode_record _ (by decide) r).trans (by simp [Members.reread])

/-- A replica set is read back by `decode?` if the priorities of its members are. -/
theorem decode?_encode {r : ReplicaSet}
    (h : ∀ m ∈ r.members, decode? (encode m.priority) = some m.priority) :
    decode? (encode r) = some r := by
  rw [decode?_encode_eq, Codec.decode?_encode_list fun m hm => by
    rw [ReplicaSetMember.decode?_encode_eq, h m hm]; rfl]
  rfl

/-- A replica set is not read if the `priority` of a member is not. -/
theorem decode?_encode_eq_none {r : ReplicaSet} {m : ReplicaSetMember} (hm : m ∈ r.members)
    (h : (decode? (encode m.priority) : Option Single) = none) :
    (decode? (encode r) : Option ReplicaSet) = none := by
  rw [decode?_encode_eq, Codec.decode?_encode_list_eq_none hm (by
    rw [ReplicaSetMember.decode?_encode_eq, h]; rfl)]
  rfl

end ReplicaSet

/-! ## Authentication -/

instance : LawfulCodec MonitoringVersion := .record

instance : LawfulCodec Role := .record

instance : LawfulCodec ScramCredentials := .record

instance : RefusesNull ScramCredentials := ⟨rfl⟩

instance : LawfulCodec User := .record

instance : LawfulCodec DeletedUser := .record

instance : LawfulCodec AuthSettings := .record

/-! ## Overrides -/

instance : LawfulCodec ProcessOverride := .record

instance : LawfulCodec DocumentOverride := .record

/-! ## Documents -/

namespace Document

instance : ReadableCodec Document := .record

/-- The numbers of the document: `cacheSizeGb` of its processes and `priority` of its members. -/
def singles (d : Document) : List Single :=
  d.processes.filterMap (·.cacheSizeGb) ++ d.replicaSets.flatMap fun r => r.members.map (·.priority)

theorem mem_singles {d : Document} {x : Single} :
    x ∈ d.singles ↔ (∃ p ∈ d.processes, x ∈ p.cacheSizeGb) ∨
      ∃ r ∈ d.replicaSets, ∃ m ∈ r.members, m.priority = x := by
  simp [singles]

/-- `decode?` reads a document as far as its processes and replica sets are read. -/
theorem decode?_encode_eq (d : Document) :
    decode? (encode d) = (decode? (encode d.processes)).bind fun processes =>
      (decode? (encode d.replicaSets)).bind fun replicaSets =>
        some { d with processes, replicaSets } :=
  (Codec.decode?_encode_record _ (by decide) d).trans
    (by simp [Members.reread, MemberRule.reread_unlessVacant])

/-- A document is read back by `decode?` if its `singles` are. -/
theorem decode?_encode {d : Document} (h : ∀ x ∈ d.singles, decode? (encode x) = some x) :
    decode? (encode d) = some d := by
  have hprocesses : decode? (encode d.processes) = some d.processes :=
    Codec.decode?_encode_list fun p hp => Process.decode?_encode fun x hx =>
      h x (mem_singles.mpr (.inl ⟨p, hp, hx⟩))
  have hreplicaSets : decode? (encode d.replicaSets) = some d.replicaSets :=
    Codec.decode?_encode_list fun r hr => ReplicaSet.decode?_encode fun m hm =>
      h m.priority (mem_singles.mpr (.inr ⟨r, hr, m, hm, rfl⟩))
  rw [decode?_encode_eq, hprocesses, hreplicaSets]
  rfl

/-- A document is not read if one of its `singles` is not. -/
theorem decode?_encode_eq_none {d : Document} {x : Single} (hx : x ∈ d.singles)
    (h : (decode? (encode x) : Option Single) = none) :
    (decode? (encode d) : Option Document) = none := by
  rw [decode?_encode_eq]
  rcases mem_singles.mp hx with ⟨p, hp, hx⟩ | ⟨r, hr, m, hm, rfl⟩
  · rw [Codec.decode?_encode_list_eq_none hp (Process.decode?_encode_eq_none hx h)]
    rfl
  · rw [Codec.decode?_encode_list_eq_none hr (ReplicaSet.decode?_encode_eq_none hm h)]
    cases (decode? (encode d.processes) : Option (List Process)) <;> rfl

/-- `ofText?` reads the text of a document as `decode?` reads its JSON. -/
theorem ofText?_toText (d : Document) : ofText? d.toText = decode? (encode d) := by
  rw [ofText?, toText, parse?_render_encode]
  rfl

/-- All `singles` of the document are finite. -/
def IsFinite (d : Document) : Prop := ∀ x ∈ d.singles, x.isFinite = true

/-- All `singles` of the document are read back from their numerals. -/
def ReadsBack (d : Document) : Prop := ∀ x ∈ d.singles, x.ReadsBack

instance (d : Document) : Decidable d.IsFinite :=
  inferInstanceAs (Decidable (∀ x ∈ d.singles, x.isFinite = true))

instance (d : Document) : Decidable d.ReadsBack :=
  inferInstanceAs (Decidable (∀ x ∈ d.singles, x.ReadsBack))

/-- A document that `IsFinite` is read back from its text if its numbers are. -/
theorem ofText?_toText_eq_some {d : Document} (hfinite : d.IsFinite) (hback : d.ReadsBack) :
    ofText? d.toText = some d := by
  rw [ofText?_toText]
  exact decode?_encode fun x hx => Single.decode?_encode (hfinite x hx) (hback x hx)

/-- A document with a number that is not finite is not read from its text. -/
theorem ofText?_toText_eq_none {d : Document} (h : ¬d.IsFinite) : ofText? d.toText = none := by
  obtain ⟨x, hx, hfinite⟩ : ∃ x ∈ d.singles, x.isFinite = false := by
    simpa [IsFinite] using h
  rw [ofText?_toText]
  exact decode?_encode_eq_none hx (Single.decode?_encode_eq_none hfinite)

end Document

/-!
## What is kept as text

Documents, overrides and reports of health are kept as compact JSON. None of it is lost when it is
read back, as long as the numerals of its numbers read back.

- `decode?_parse?_render_encode`: the text of a value whose codec is lawful.
- `persisted_reads_back`: `Document`, `DocumentOverride` and `Health`.
-/

/-- The text of a value with a `LawfulCodec` is read back as that value. -/
theorem decode?_parse?_render_encode {α : Type} [Codec α] [LawfulCodec α] (a : α) :
    (Json.parse? (encode a).render).bind decode? = some a := by
  rw [parse?_render_encode, Option.bind_some, decode?_encode]

/-! ## Reports of health -/

instance : LawfulCodec ProcessHealth := .record

instance : LawfulCodec StepStatus := .record

instance : LawfulCodec MoveStatus := .record

instance : LawfulCodec PlanStatus := .record

instance : LawfulCodec PlanHistory := .record

instance : LawfulCodec Health := .record

/-! ## Texts -/

/-- A document of finite numbers is read back from its text if the numerals of its numbers read back
(`Document.ReadsBack`). Overrides and reports of health are read back whatever they hold. -/
theorem persisted_reads_back :
    (∀ d : Document, d.IsFinite → d.ReadsBack → Document.ofText? d.toText = some d) ∧
      (∀ o : DocumentOverride, (Json.parse? (encode o).render).bind decode? = some o) ∧
        ∀ h : Health, Health.ofText? (encode h).render = some h :=
  ⟨fun _ hfinite hback => Document.ofText?_toText_eq_some hfinite hback,
    decode?_parse?_render_encode, decode?_parse?_render_encode⟩

/-- A document with the numbers `3.5`, `-0` and the least positive one, the greatest version, and
texts that are escaped or lie outside the basic plane. -/
def Document.extreme : Document where
  version := 0xFFFFFFFFFFFFFFFF
  processes :=
    [{ name := "rs-0\n\"", hostname := "host\u0001", version := "6.0.5"
       args := { storage := { wiredTiger := some ⟨⟨⟨0x40600000⟩⟩⟩ } } },
     { name := "", hostname := "\\", args := {}, version := "", kind := .mongos }]
  replicaSets :=
    [{ id := "𝕣"
       members :=
         [{ id := 0, host := "", priority := ⟨0x80000000⟩, arbiterOnly := false, votes := 1 },
          { id := 0xFFFFFFFF, host := "é", priority := ⟨1⟩, arbiterOnly := true, votes := 0 }]
       protocolVersion := "1" }]

theorem persisted_reads_back_extreme :
    Document.extreme.IsFinite ∧ Document.extreme.ReadsBack ∧
      Document.ofText? Document.extreme.toText = some Document.extreme := by
  have hfinite : Document.extreme.IsFinite := by decide +kernel
  have hback : Document.extreme.ReadsBack := by decide +kernel
  exact ⟨hfinite, hback, persisted_reads_back.1 Document.extreme hfinite hback⟩

end ReplicaControl
