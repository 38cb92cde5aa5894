import Mathlib.Data.List.Perm.Basic
import ReplicaControl.Json.Canonical
import ReplicaControl.Proofs.Dict
import ReplicaControl.Proofs.Json.Codec

/-!
# Values that are read back from memory

JSON is held as it was written or in the order that memory keeps. Records find their members by
their names, so they are read back from either, as long as their members are. The object specs of
section 10.4 of the specification are read so.

- `Json.arranged_of_canonical?`: memory holds data that was read as it is.
- **Ways of holding JSON** (`Json.Arrangement`): `Json.Arrangement.asWritten` and
  `Json.Arrangement.byName`.
- **Stable codecs** (`StableCodec`): values are read back from JSON held in any such way.
- **Records** (`Members.exists_arranged`): what is read from the members of a record.
  `StableCodec.record` and `StableCodec.objectRecord` are stable if their members are.
-/

namespace ReplicaControl

namespace Json

/-! ## JSON in memory -/

theorem arrangedElements_eq (js : List Json) : arrangedElements js = js.map arranged := by
  induction js with
  | nil => rfl
  | cons j js ih => rw [arrangedElements, ih, List.map_cons]

theorem arrangedMembers_eq (ms : List (String × Json)) :
    arrangedMembers ms = ms.map fun m => (m.1, m.2.arranged) := by
  induction ms with
  | nil => rfl
  | cons m ms ih => rw [arrangedMembers, ih, List.map_cons]

mutual

/-- Memory holds `canonical?` data as it is: its objects are in order already. -/
theorem arranged_of_canonical? : ∀ {j k : Json}, canonical? j = some k → k.arranged = k
  | .null, _, rfl | .bool _, _, rfl | .string _, _, rfl => rfl
  | .number n, k, h => by
    obtain ⟨n', -, rfl⟩ := Option.map_eq_some_iff.mp h
    rfl
  | .array js, k, h => by
    obtain ⟨ks, hks, rfl⟩ := Option.map_eq_some_iff.mp h
    have hks := arranged_of_canonicalElements? hks
    rw [arranged, arrangedElements_eq, List.map_congr_left hks, List.map_id']
  | .object ms, k, h => by
    obtain ⟨ks, hks, rfl⟩ := Option.map_eq_some_iff.mp h
    have hks := arranged_of_canonicalMembers? hks
    have hmap : (Dict.ofList ks).toList.map (fun m => (m.1, m.2.arranged)) =
        (Dict.ofList ks).toList := by
      refine (List.map_congr_left fun m hm => ?_).trans (List.map_id _)
      rw [hks m (Dict.mem_of_mem_toList_ofList hm)]
      rfl
    rw [arranged, arrangedMembers_eq, hmap, Dict.ofList_toList]

theorem arranged_of_canonicalElements? : ∀ {js ks : List Json}, canonicalElements? js = some ks →
    ∀ k ∈ ks, k.arranged = k
  | [], _, rfl => nofun
  | j :: js, ks, h => by
    obtain ⟨k, hk, ks', hks, rfl⟩ : ∃ k, canonical? j = some k ∧
        ∃ ks', canonicalElements? js = some ks' ∧ k :: ks' = ks := by
      simpa [canonicalElements?, Option.bind_eq_some_iff] using h
    exact List.forall_mem_cons.mpr ⟨arranged_of_canonical? hk, arranged_of_canonicalElements? hks⟩

theorem arranged_of_canonicalMembers? : ∀ {ms ks : List (String × Json)},
    canonicalMembers? ms = some ks → ∀ m ∈ ks, m.2.arranged = m.2
  | [], _, rfl => nofun
  | (name, j) :: ms, ks, h => by
    obtain ⟨k, hk, ks', hks, rfl⟩ : ∃ k, canonical? j = some k ∧
        ∃ ks', canonicalMembers? ms = some ks' ∧ (name, k) :: ks' = ks := by
      simpa [canonicalMembers?, Option.bind_eq_some_iff] using h
    exact List.forall_mem_cons.mpr ⟨arranged_of_canonical? hk, arranged_of_canonicalMembers? hks⟩

end

/-! ## Ways of holding JSON -/

/-- A way of holding JSON that reorders the members of objects at most, by `arrange`. Objects that
repeat a name may be held in any way. -/
structure Arrangement where
  arrange : Json → Json
  arrange_null : arrange .null = .null
  arrange_bool (b : Bool) : arrange (.bool b) = .bool b
  arrange_number (n : Numeral) : arrange (.number n) = .number n
  arrange_string (s : String) : arrange (.string s) = .string s
  arrange_array (js : List Json) : arrange (.array js) = .array (js.map arrange)
  arrange_object (ms : List (String × Json)) (h : (ms.map (·.1)).Nodup) :
    ∃ ms', arrange (.object ms) = .object ms' ∧ ms'.Perm (ms.map fun m => (m.1, arrange m.2))

namespace Arrangement

/-- The `Arrangement` that leaves JSON as it is written. -/
def asWritten : Arrangement where
  arrange j := j
  arrange_null := rfl
  arrange_bool _ := rfl
  arrange_number _ := rfl
  arrange_string _ := rfl
  arrange_array js := by rw [List.map_id']
  arrange_object ms _ := ⟨ms, rfl, .of_eq (List.map_id ms).symm⟩

/-- JSON as it is held in memory, by `arranged`. -/
def byName : Arrangement where
  arrange := arranged
  arrange_null := rfl
  arrange_bool _ := rfl
  arrange_number _ := rfl
  arrange_string _ := rfl
  arrange_array js := by rw [arranged, arrangedElements_eq]
  arrange_object ms h := by
    refine ⟨_, rfl, ?_⟩
    rw [arrangedMembers_eq]
    refine Dict.toList_ofList_perm ?_
    rw [List.map_map]
    exact h

end Arrangement

end Json

open Json (Arrangement)

/-- A `Codec` that reads every value back, in whichever `Arrangement` its JSON is held. -/
class StableCodec (α : Type) [Codec α] : Prop where
  decode?_arrange : ∀ (f : Arrangement) (a : α), decode? (f.arrange (encode a)) = some a

export StableCodec (decode?_arrange)

attribute [simp] decode?_arrange

/-! ## Plain values -/

namespace Codec

instance : StableCodec String where
  decode?_arrange f s := congrArg decode? (f.arrange_string s)

instance : StableCodec Bool where
  decode?_arrange f b := congrArg decode? (f.arrange_bool b)

instance : StableCodec Int32 where
  decode?_arrange f n := (congrArg decode? (f.arrange_number _)).trans (decode?_encode n)

instance : StableCodec Int64 where
  decode?_arrange f n := (congrArg decode? (f.arrange_number _)).trans (decode?_encode n)

/-! ## Containers -/

section

variable {α : Type} [Codec α]

theorem decode?_arrange_none (f : Arrangement) :
    decode? (f.arrange (encode (none : Option α))) = some (none : Option α) :=
  congrArg decode? f.arrange_null

theorem decode?_arrange_some {f : Arrangement} {a : α} (h : decode? (f.arrange (encode a)) = some a)
    (hnull : f.arrange (encode a) ≠ .null) :
    decode? (f.arrange (encode (some a))) = some (some a) :=
  (decode?_option hnull).trans (congrArg (Option.map some) h)

instance [StableCodec α] [RefusesNull α] : StableCodec (Option α) where
  decode?_arrange f
    | none => decode?_arrange_none f
    | some a =>
      decode?_arrange_some (decode?_arrange f a) (ne_null_of_decode?_eq_some (decode?_arrange f a))

instance [StableCodec α] : StableCodec (List α) where
  decode?_arrange f as := by
    show decode? (f.arrange (.array (as.map encode))) = some as
    rw [f.arrange_array, List.map_map]
    exact mapM_map_eq_some fun a _ => decode?_arrange f a

/-- The entries of a `Dict` have distinct keys, so it does not matter where they are. -/
instance [StableCodec α] : StableCodec (Dict String α) where
  decode?_arrange f d := by
    have hnames : ((d.toList.map fun e => (e.1, encode e.2)).map (·.1)).Nodup := by
      rw [List.map_map]
      exact d.keys_nodup
    obtain ⟨ms, hms, hperm⟩ := f.arrange_object _ hnames
    rw [List.map_map] at hperm
    -- The entries were reordered as JSON; here they are reordered entries of `d`.
    obtain ⟨es, rfl, hes⟩ : ∃ es : List (String × α),
        ms = es.map (fun e => (e.1, f.arrange (encode e.2))) ∧ es.Perm d.toList := by
      have hcomp := List.eq_map_comp_perm fun e : String × α => (e.1, f.arrange (encode e.2))
      exact (congrFun₂ hcomp ms d.toList).mpr hperm
    have hentry : ∀ e ∈ es, (decode? (f.arrange (encode e.2))).map (e.1, ·) = some e :=
      fun e _ => by rw [decode?_arrange]; rfl
    show decode? (f.arrange (.object _)) = some d
    rw [hms]
    show ((es.map _).mapM fun m : String × Json => (decode? m.2).map (m.1, ·)).map Dict.ofList =
      some d
    rw [mapM_map_eq_some hentry, Option.map_some, Dict.ofList_eq_of_perm hes]

/-- Data is read back if it is held as it is. `null` would be read as no data. -/
theorem decode?_arrange_data {f : Arrangement} {data : Option Json}
    (h : ∀ j ∈ data, j ≠ .null ∧ f.arrange j = j) :
    decode? (f.arrange (encode data)) = some data := by
  cases data with
  | none => exact decode?_arrange_none f
  | some j =>
    obtain ⟨hnull, hheld⟩ := h j rfl
    refine decode?_arrange_some (congrArg some hheld) ?_
    show f.arrange j ≠ .null
    rwa [hheld]

end

end Codec

/-! ## Records -/

namespace MemberRule

variable {α : Type} [Codec α]

/-- `rule` for JSON that is held in the way `f`. -/
def via (f : Arrangement) (rule : MemberRule α) : MemberRule α :=
  { rule with read := fun j => rule.read (f.arrange j) }

variable (f : Arrangement)

@[simp] theorem reread_via_orElse (default a : α) :
    ((orElse default).via f).reread a = decode? (f.arrange (encode a)) :=
  rfl

/-- The rule `unlessVacant` for the codec that reads JSON held in the way `f`. -/
theorem reread_via_unlessVacant [Vacant α] (a : α) :
    (unlessVacant.via f).reread a = if isVacant a then some a else decode? (f.arrange (encode a)) :=
  @reread_unlessVacant α ⟨encode, fun j => decode? (f.arrange j)⟩ _ a

/-- `none` is left out, which is read as `null` is. -/
@[simp] theorem reread_via_unlessVacant_option (a : Option α) :
    (unlessVacant.via f).reread a = decode? (f.arrange (encode a)) := by
  rw [reread_via_unlessVacant]
  cases a with
  | none => exact (Codec.decode?_arrange_none f).symm
  | some a => rfl

@[simp] theorem isLawful_via_orElse [StableCodec α] (default : α) :
    ((orElse default).via f).IsLawful :=
  decode?_arrange f

@[simp] theorem isLawful_via_orVacant [StableCodec α] [Vacant α] :
    ((orVacant : MemberRule α).via f).IsLawful :=
  decode?_arrange f

@[simp] theorem isLawful_via_unlessVacant [StableCodec α] [Vacant α] :
    ((unlessVacant : MemberRule α).via f).IsLawful := by
  intro a
  rw [reread_via_unlessVacant, decode?_arrange, ite_self]

end MemberRule

namespace Members

variable {S F : Type} (f : Arrangement)

/-- The members of a record, each held in the way `f`. -/
def via {F : Type} : Members S F → Members S F
  | .done => .done
  | .member name get rule rest => .member name get (rule.via f) rest.via

theorem names_via (members : Members S F) : (members.via f).names = members.names := by
  induction members with
  | done => rfl
  | member name get rule rest ih => rw [via, names, ih, names]

theorem write_via (s : S) (members : Members S F) : (members.via f).write s = members.write s := by
  induction members with
  | done => rfl
  | member name get rule rest ih =>
    rw [via, write, ih, write]
    rfl

theorem rebuild_via (s : S) (members : Members S F) (make : F) :
    (members.via f).rebuild s make = members.rebuild s make := by
  induction members with
  | done => rfl
  | member name get rule rest ih => rw [via, rebuild, ih, rebuild]

/-- To read members that are held in the way `f` is to read them by the rules for it. -/
theorem readNamed?_via {members : Members S F} {ms ms' : List (String × Json)}
    (h : ∀ name, ms'.lookup name = (ms.lookup name).map f.arrange) (make : F) :
    members.readNamed? ms' make = (members.via f).readNamed? ms make := by
  induction members with
  | done => rfl
  | member name get rule rest ih =>
    rw [via, readNamed?, readNamed?, h name]
    cases ms.lookup name <;> simp only [Option.map, MemberRule.via, ih]

/-- However the `members` of a record are held, they are its members, and each is read by its name.
-/
theorem exists_arranged (s : S) {members : Members S F} (hnames : members.names.Nodup) (make : F) :
    ∃ ms, f.arrange (.object (members.write s)) = .object ms ∧ members.distinctIn ms = true ∧
      members.readNamed? ms make = (members.via f).reread s make := by
  have hwritten := nodup_names_write s hnames
  obtain ⟨ms, hms, hperm⟩ := f.arrange_object _ hwritten
  have hheld : (ms.map (·.1)).Nodup := by
    rw [(hperm.map _).nodup_iff, List.map_map]
    exact hwritten
  -- `f` may permute the members, so they are found by name and not by place.
  have hlookup : ∀ name, ms.lookup name = ((members.write s).lookup name).map f.arrange := by
    refine fun name => Option.ext fun j => ?_
    simp only [Option.map_eq_some_iff, Dict.lookup_eq_some_iff_mem hheld,
      Dict.lookup_eq_some_iff_mem hwritten, hperm.mem_iff, List.mem_map, Prod.mk.injEq, Prod.exists]
    constructor
    · rintro ⟨_, j, hmem, rfl, rfl⟩
      exact ⟨j, hmem, rfl⟩
    · rintro ⟨j, hmem, rfl⟩
      exact ⟨name, j, hmem, rfl, rfl⟩
  refine ⟨ms, hms, members.distinctIn_of_nodup hheld, ?_⟩
  rw [readNamed?_via f hlookup, ← write_via f]
  exact readNamed?_write s (by rwa [names_via]) make

end Members

/-! ## Codecs of records -/

section

variable {S F : Type} {make : F} {members : Members S F} {c : Codec S}

/-- Records of `c` are written as objects of `members`, and read from such objects. -/
structure Codec.HasMembers (c : Codec S) (make : F) (members : Members S F) : Prop where
  encode_eq (s : S) : c.encode s = .object (members.write s) := by exact fun _ => rfl
  decode?_object (ms : List (String × Json)) :
    c.decode? (.object ms) = if members.distinctIn ms then members.readNamed? ms make else none := by
      exact fun _ => rfl

/-- What `decode?` gives of a record is read member by member, however it is held. -/
theorem Codec.HasMembers.decode?_arrange (h : c.HasMembers make members) (hnames : members.names.Nodup)
    (f : Arrangement) (s : S) :
    c.decode? (f.arrange (c.encode s)) = (members.via f).reread s make := by
  obtain ⟨ms, hms, hdistinct, hread⟩ := Members.exists_arranged f s hnames make
  rw [h.encode_eq, hms, h.decode?_object, if_pos hdistinct, hread]

/-- A record is read back in whichever `Arrangement` it is held if its `members` are. -/
theorem StableCodec.ofMembers (h : c.HasMembers make members) (hnames : members.names.Nodup)
    (hmake : ∀ s, members.rebuild s make = s) (hread : ∀ f, (members.via f).IsLawful) :
    @StableCodec S c :=
  @StableCodec.mk S c fun f s => by
    rw [h.decode?_arrange hnames, (hread f).reread_eq, Members.rebuild_via, hmake]

theorem StableCodec.record (hnames : members.names.Nodup := by decide)
    (hmake : ∀ s, members.rebuild s make = s := by exact fun _ => rfl)
    (hread : ∀ f, (members.via f).IsLawful := by simp [Members.via, Members.IsLawful]) :
    @StableCodec S (.record make members) :=
  .ofMembers {} hnames hmake hread

theorem StableCodec.objectRecord (hnames : members.names.Nodup := by decide)
    (hmake : ∀ s, members.rebuild s make = s := by exact fun _ => rfl)
    (hread : ∀ f, (members.via f).IsLawful := by simp [Members.via, Members.IsLawful]) :
    @StableCodec S (.objectRecord make members) :=
  .ofMembers {} hnames hmake hread

end

end ReplicaControl
