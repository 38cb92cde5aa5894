import Mathlib.Algebra.Group.Int.Defs
import ReplicaControl.Json.Codec
import ReplicaControl.Proofs.Json.Text

/-!
# Values that are read back from their JSON

A codec is lawful if it reads every value back from what it writes. Records are read back member by
member, so what is asked of a record is asked of the rules of its members, and the routine part of
it (`names.Nodup`, `IsLawful`) is a default argument.

- **Codecs** (`ReadableCodec`, `LawfulCodec`, `RefusesNull`): what is asked of them. `null` is left
  to `none`.
- **Plain values** (`Codec.lawfulCodec_of_integer`): integers of at most 64 bits.
- **Members** (`Members.readNamed?_write`): what is read from the members that are written for a
  record; `LawfulCodec.record` for a record with lawful members.
- **Any JSON** (`Codec.readEach?_of_decode?`): a record that is read from an object or from an array
  is read member by member.
- `parse?_render_encode`: the text of a value reads as its JSON.
-/

namespace ReplicaControl

/-- A `Codec` that writes no value in an unreadable way. -/
class ReadableCodec (α : Type) [Codec α] : Prop where
  isReadable_encode : ∀ a : α, (encode a).IsReadable

/-- A codec that reads every value back: `decode?` undoes `encode`. -/
class LawfulCodec (α : Type) [Codec α] : Prop extends ReadableCodec α where
  decode?_encode : ∀ a : α, decode? (encode a) = some a

/-- A codec that leaves `null` to mean that there is no value. -/
class RefusesNull (α : Type) [Codec α] : Prop where
  decode?_null : (decode? .null : Option α) = none

export ReadableCodec (isReadable_encode)
export LawfulCodec (decode?_encode)

attribute [simp] isReadable_encode decode?_encode RefusesNull.decode?_null

/-- The text of a value reads as its JSON, by `Json.parse?_render`. -/
theorem parse?_render_encode {α : Type} [Codec α] [ReadableCodec α] (a : α) :
    Json.parse? (encode a).render = some (encode a) :=
  Json.parse?_render (isReadable_encode a)

/-! ## Plain values -/

/-- `integer?` reads an integer that 64 bits can hold back from its numeral. -/
theorem Numeral.integer?_ofInt {i : Int} (h : -(2 ^ 63 : Int) ≤ i ∧ i < 2 ^ 64) :
    (Numeral.ofInt i).integer? = some i := by
  have hwhole : (ofInt i).isWhole = true := rfl
  rw [integer?, if_pos hwhole]
  show (if decide (i < 0) = true then
    if 0 < i.natAbs ∧ i.natAbs ≤ 9223372036854775808 then some (-(i.natAbs : Int)) else none
    else if i.natAbs < 18446744073709551616 then some (i.natAbs : Int) else none) = some i
  by_cases hi : i < 0
  · rw [if_pos (decide_eq_true hi), if_pos (by omega)]
    exact congrArg some (by omega)
  · rw [if_neg (by simpa using hi), if_pos (by omega)]
    exact congrArg some (by omega)

namespace Codec

theorem integer?_ofInt {least greatest i : Int} (h : least ≤ i ∧ i ≤ greatest)
    (h64 : -(2 ^ 63 : Int) ≤ i ∧ i < 2 ^ 64) : integer? least greatest (.ofInt i) = some i := by
  simp only [integer?, Json.ofInt, Numeral.integer?_ofInt h64, if_pos h]

instance : LawfulCodec String where
  isReadable_encode := .string
  decode?_encode _ := rfl

instance : RefusesNull String := ⟨rfl⟩

instance : LawfulCodec Bool where
  isReadable_encode := .bool
  decode?_encode _ := rfl

instance : RefusesNull Bool := ⟨rfl⟩

/-- Numbers written as the integers in `least..greatest`, a range within 64 bits, are read back if
`ofInt` undoes `toInt`. -/
theorem lawfulCodec_of_integer {α : Type} [Codec α] {least greatest : Int} {toInt : α → Int}
    {ofInt : Int → α} (hencode : ∀ n : α, encode n = .ofInt (toInt n))
    (hdecode : ∀ j : Json, decode? j = (integer? least greatest j).map ofInt)
    (h64 : -(2 ^ 63 : Int) ≤ least ∧ greatest < 2 ^ 64)
    (hrange : ∀ n, least ≤ toInt n ∧ toInt n ≤ greatest) (hback : ∀ n, ofInt (toInt n) = n) :
    LawfulCodec α where
  isReadable_encode n := by
    rw [hencode]
    exact .number _
  decode?_encode n := by
    obtain ⟨hleast, hgreatest⟩ := hrange n
    rw [hencode, hdecode, integer?_ofInt (hrange n) (by omega), Option.map_some, hback]

instance : LawfulCodec UInt16 :=
  lawfulCodec_of_integer (fun _ => rfl) (fun _ => rfl) (by decide)
    (fun n => by have := n.toNat_lt; omega) (fun n => by simp)

instance : LawfulCodec UInt32 :=
  lawfulCodec_of_integer (fun _ => rfl) (fun _ => rfl) (by decide)
    (fun n => by have := n.toNat_lt; omega) (fun n => by simp)

instance : LawfulCodec UInt64 :=
  lawfulCodec_of_integer (fun _ => rfl) (fun _ => rfl) (by decide)
    (fun n => by have := n.toNat_lt; omega) (fun n => by simp)

instance : LawfulCodec Int32 :=
  lawfulCodec_of_integer (fun _ => rfl) (fun _ => rfl) (by decide)
    (fun n => by have := n.le_toInt; have := n.toInt_lt; omega) (fun n => by simp)

instance : LawfulCodec Int64 :=
  lawfulCodec_of_integer (fun _ => rfl) (fun _ => rfl) (by decide)
    (fun n => by have := n.le_toInt; have := n.toInt_lt; omega) (fun n => by simp)

instance : RefusesNull Int32 := ⟨rfl⟩

instance : RefusesNull Int64 := ⟨rfl⟩

/-- A `Single` is written as a numeral or as `null`. -/
instance : ReadableCodec Single where
  isReadable_encode x := by
    show Json.IsReadable (match x.numeral? with | some n => .number n | none => .null)
    cases x.numeral? with
    | none => exact .null
    | some n => exact .number n

/-! ## Containers -/

theorem mapM_map_eq_some {α β : Type} {f : β → Option α} {g : α → β} {as : List α}
    (h : ∀ a ∈ as, f (g a) = some a) : (as.map g).mapM f = some as := by
  induction as with
  | nil => rfl
  | cons a as ih =>
    obtain ⟨ha, has⟩ := List.forall_mem_cons.mp h
    rw [List.map_cons, List.mapM_cons, ha, ih has]
    rfl

theorem mapM_map_eq_none {α β : Type} {f : β → Option α} {g : α → β} {as : List α} {a : α}
    (hmem : a ∈ as) (h : f (g a) = none) : (as.map g).mapM f = none := by
  induction as with
  | nil => cases hmem
  | cons b as ih =>
    rw [List.map_cons, List.mapM_cons]
    rcases List.mem_cons.mp hmem with rfl | hmem
    · rw [h]
      rfl
    · rw [ih hmem]
      cases f (g b) <;> rfl

theorem exists_of_mem_mapM_some {α β : Type} {f : α → Option β} {as : List α} {bs : List β}
    (h : as.mapM f = some bs) {b : β} (hb : b ∈ bs) : ∃ a ∈ as, f a = some b := by
  induction as generalizing bs with
  | nil =>
    cases h
    cases hb
  | cons a as ih =>
    rw [List.mapM_cons] at h
    obtain ⟨b', ha, h⟩ := Option.bind_eq_some_iff.mp h
    obtain ⟨bs', has, h⟩ := Option.bind_eq_some_iff.mp h
    cases h
    rcases List.mem_cons.mp hb with rfl | hb
    · exact ⟨a, List.mem_cons_self, ha⟩
    · obtain ⟨a', hmem, ha'⟩ := ih has hb
      exact ⟨a', List.mem_cons_of_mem a hmem, ha'⟩

section

variable {α : Type} [Codec α]

/-- JSON other than `null` is read as a value that is there. -/
theorem decode?_option {j : Json} (h : j ≠ .null) :
    (decode? j : Option (Option α)) = (decode? j).map some := by
  cases j with
  | null => exact absurd rfl h
  | _ => rfl

theorem decode?_encode_some {a : α} (h : encode a ≠ .null) :
    (decode? (encode (some a)) : Option (Option α)) = (decode? (encode a)).map some :=
  decode?_option h

theorem ne_null_of_decode?_eq_some [RefusesNull α] {j : Json} {a : α} (h : decode? j = some a) :
    j ≠ .null := by
  rintro rfl
  rw [RefusesNull.decode?_null] at h
  cases h

instance [ReadableCodec α] : ReadableCodec (Option α) where
  isReadable_encode
    | none => .null
    | some a => isReadable_encode a

instance [LawfulCodec α] [RefusesNull α] : LawfulCodec (Option α) where
  decode?_encode
    | none => rfl
    | some a => by
      rw [decode?_encode_some (ne_null_of_decode?_eq_some (decode?_encode a)), decode?_encode]
      rfl

/-- A list is read back by `decode?` if its elements are. -/
theorem decode?_encode_list {as : List α} (h : ∀ a ∈ as, decode? (encode a) = some a) :
    decode? (encode as) = some as :=
  mapM_map_eq_some h

/-- A list is not read if one of its elements is not. -/
theorem decode?_encode_list_eq_none {as : List α} {a : α} (hmem : a ∈ as)
    (h : (decode? (encode a) : Option α) = none) : (decode? (encode as) : Option (List α)) = none :=
  mapM_map_eq_none hmem h

/-- A list is read of an `array`, and each of its elements of an element of that. -/
theorem exists_of_decode?_list {j : Json} {as : List α} (h : decode? j = some as) :
    ∃ js, j = .array js ∧ ∀ a ∈ as, ∃ e ∈ js, decode? e = some a := by
  cases j with
  | array js => exact ⟨js, rfl, fun _ ha => exists_of_mem_mapM_some h ha⟩
  | _ => cases h

instance [ReadableCodec α] : ReadableCodec (List α) where
  isReadable_encode _ := .array (by simp)

instance [LawfulCodec α] : LawfulCodec (List α) where
  decode?_encode _ := decode?_encode_list fun a _ => decode?_encode a

instance [ReadableCodec α] : ReadableCodec (Dict String α) where
  isReadable_encode d := .object fun m hm => by
    obtain ⟨e, -, rfl⟩ := List.mem_map.mp hm
    exact isReadable_encode e.2

instance [LawfulCodec α] : LawfulCodec (Dict String α) where
  decode?_encode d := by
    show ((d.toList.map fun e => (e.1, encode e.2)).mapM
      fun m => (decode? m.2).map (m.1, ·)).map Dict.ofList = some d
    have hentry : ∀ e ∈ d.toList,
        (decode? (encode e.2)).map (e.1, ·) = some e := fun e _ => by rw [decode?_encode]; rfl
    rw [mapM_map_eq_some hentry, Option.map_some, Dict.ofList_toList]

end

end Codec

/-! ## Records -/

/-- The member of a record: an object has it under its `name`, an array in its `place`. -/
def Json.recordMember? (name : String) (place : Nat) : Json → Option Json
  | .object ms => ms.lookup name
  | .array js => js[place]?
  | _ => none

namespace MemberRule

variable {α : Type} [Codec α]

/-- What is read of a member that was written by `rule`. -/
def reread (rule : MemberRule α) (a : α) : Option α :=
  match rule.write a with
  | some j => rule.read j
  | none => rule.unnamed

/-- `rule` writes no value in an unreadable way. -/
def IsReadable (rule : MemberRule α) : Prop := ∀ a, ∀ j ∈ rule.write a, j.IsReadable

/-- Every value is read back, by `reread`. -/
def IsLawful (rule : MemberRule α) : Prop := ∀ a, rule.reread a = some a

/-- What an object may leave out an array may, and it means the same. `nullable` is not so. -/
def IsUniform (rule : MemberRule α) : Prop := rule.unnamed = rule.unplaced

@[simp] theorem reread_required (a : α) : required.reread a = decode? (encode a) := rfl

@[simp] theorem reread_orElse (default a : α) : (orElse default).reread a = decode? (encode a) := rfl

@[simp] theorem reread_nullable (a : Option α) : nullable.reread a = decode? (encode a) := rfl

theorem reread_unlessVacant [Vacant α] (a : α) :
    unlessVacant.reread a = if isVacant a then some a else decode? (encode a) := by
  simp only [reread, unlessVacant]
  by_cases h : isVacant a = true
  · simp only [(isVacant_iff a).mp h, isVacant_vacant, if_true]
  · simp only [if_neg h]

/-- `none` is left out, which is read as `null` is. -/
@[simp] theorem reread_unlessVacant_option (a : Option α) :
    unlessVacant.reread a = decode? (encode a) := by
  rw [reread_unlessVacant]
  cases a <;> rfl

@[simp] theorem isReadable_required [ReadableCodec α] : (required : MemberRule α).IsReadable := by
  rintro a _ ⟨⟩
  exact isReadable_encode a

@[simp] theorem isReadable_orElse [ReadableCodec α] (default : α) : (orElse default).IsReadable := by
  rintro a _ ⟨⟩
  exact isReadable_encode a

@[simp] theorem isReadable_nullable [ReadableCodec α] :
    (nullable : MemberRule (Option α)).IsReadable := by
  rintro a _ ⟨⟩
  exact isReadable_encode a

@[simp] theorem isReadable_unlessVacant [ReadableCodec α] [Vacant α] :
    (unlessVacant : MemberRule α).IsReadable := by
  intro a j hj
  simp only [unlessVacant] at hj
  split at hj
  · cases hj
  · cases hj
    exact isReadable_encode a

@[simp] theorem isLawful_required [LawfulCodec α] : (required : MemberRule α).IsLawful :=
  decode?_encode

@[simp] theorem isLawful_orElse [LawfulCodec α] (default : α) : (orElse default).IsLawful :=
  decode?_encode

@[simp] theorem isLawful_nullable [LawfulCodec α] [RefusesNull α] :
    (nullable : MemberRule (Option α)).IsLawful :=
  decode?_encode

@[simp] theorem isLawful_unlessVacant [LawfulCodec α] [Vacant α] :
    (unlessVacant : MemberRule α).IsLawful := by
  intro a
  rw [reread_unlessVacant, decode?_encode, ite_self]

@[simp] theorem isUniform_orElse (default : α) : (orElse default).IsUniform := rfl

@[simp] theorem isUniform_unlessVacant [Vacant α] : (unlessVacant : MemberRule α).IsUniform := rfl

end MemberRule

namespace Members

variable {S F : Type}

/-- What is read from the members that are written for `s`. -/
def reread (s : S) {F : Type} : Members S F → F → Option S
  | .done, s' => some s'
  | .member _ get rule rest, make => do
    rest.reread s (make (← rule.reread (get s)))

/-- No member is written in an unreadable way. -/
def IsReadable {F : Type} : Members S F → Prop
  | .done => True
  | .member _ _ rule rest => rule.IsReadable ∧ rest.IsReadable

/-- Every member is read back. -/
def IsLawful {F : Type} : Members S F → Prop
  | .done => True
  | .member _ _ rule rest => rule.IsLawful ∧ rest.IsLawful

/-- The members that are written are some of `members`, in their order. -/
theorem names_write_sublist (s : S) (members : Members S F) :
    ((members.write s).map (·.1)).Sublist members.names := by
  induction members with
  | done => exact .slnil
  | member name get rule rest ih =>
    rw [write, names]
    cases rule.write (get s) with
    | none => exact ih.cons name
    | some j => exact ih.cons_cons name

theorem lookup_write_eq_none (s : S) {members : Members S F} {name : String}
    (h : name ∉ members.names) : (members.write s).lookup name = none := by
  rw [List.lookup_eq_none_iff]
  intro m hm
  have hmem := (names_write_sublist s members).subset (List.mem_map_of_mem hm)
  simp only [bne_iff_ne, ne_eq]
  rintro rfl
  exact h hmem

/-- An object `ms` of distinct names repeats no member. -/
theorem distinctIn_of_nodup (members : Members S F) {ms : List (String × Json)}
    (h : (ms.map (·.1)).Nodup) : members.distinctIn ms = true := by
  simp only [distinctIn, List.all_eq_true, decide_eq_true_eq]
  intro name _
  have hcount : ms.countP (·.1 == name) = (ms.map (·.1)).count name := by
    rw [List.count, List.countP_map]
    rfl
  rw [hcount]
  exact List.nodup_iff_count.mp h name

/-- `write` repeats no member if `members` have distinct names. -/
theorem nodup_names_write (s : S) {members : Members S F} (h : members.names.Nodup) :
    ((members.write s).map (·.1)).Nodup :=
  (names_write_sublist s members).nodup h

theorem readNamed?_eq_reread (s : S) {members : Members S F} (hnames : members.names.Nodup)
    {ms : List (String × Json)}
    (h : ∀ name ∈ members.names, ms.lookup name = (members.write s).lookup name) (make : F) :
    members.readNamed? ms make = members.reread s make := by
  induction members with
  | done => rfl
  | member name get rule rest ih =>
    obtain ⟨hname, hrest⟩ := List.nodup_cons.mp hnames
    -- The first member is read by its name, which no other one has.
    have hhead : ms.lookup name = rule.write (get s) := by
      rw [h name List.mem_cons_self, write]
      cases rule.write (get s) with
      | none => exact lookup_write_eq_none s hname
      | some j => simp
    -- So the other members are read from the rest.
    have htail : ∀ other ∈ rest.names, ms.lookup other = (rest.write s).lookup other := by
      intro other hother
      have hne : (other == name) = false := by
        simp only [beq_eq_false_iff_ne, ne_eq]
        rintro rfl
        exact hname hother
      rw [h other (List.mem_cons_of_mem _ hother), write]
      cases rule.write (get s) with
      | none => rfl
      | some j => simp [List.lookup_cons, hne]
    simp only [readNamed?, reread, MemberRule.reread, hhead, ih hrest htail]
    cases rule.write (get s) <;> rfl

/-- What is read from the members that are written for `s` is read member by member. -/
theorem readNamed?_write (s : S) {members : Members S F} (hnames : members.names.Nodup) (make : F) :
    members.readNamed? (members.write s) make = members.reread s make :=
  readNamed?_eq_reread s hnames (fun _ _ => rfl) make

theorem IsLawful.reread_eq {members : Members S F} (h : members.IsLawful) (s : S) (make : F) :
    members.reread s make = some (members.rebuild s make) := by
  induction members with
  | done => rfl
  | member name get rule rest ih =>
    rw [reread, rebuild, h.1 (get s)]
    exact ih h.2 _

theorem IsReadable.forall_mem_write {members : Members S F} (h : members.IsReadable) (s : S) :
    ∀ m ∈ members.write s, m.2.IsReadable := by
  induction members with
  | done => exact fun _ hm => nomatch hm
  | member name get rule rest ih =>
    have hread := h.1 (get s)
    rw [write]
    cases hw : rule.write (get s) with
    | none => exact ih h.2
    | some j => exact List.forall_mem_cons.mpr ⟨hread j hw, ih h.2⟩

/-- The record of the JSON `j`, member by member from `place` on. A member that is missing means
what it means in an object. -/
def readEach? (j : Json) (place : Nat) {F : Type} : Members S F → F → Option S
  | .done, s => some s
  | .member name _ rule rest, make => do
    let a ← (j.recordMember? name place).elim rule.unnamed rule.read
    rest.readEach? j (place + 1) (make a)

/-- What an object may leave out an array may, for every member. -/
def IsUniform {F : Type} : Members S F → Prop
  | .done => True
  | .member _ _ rule rest => rule.IsUniform ∧ rest.IsUniform

theorem readNamed?_eq_readEach? (ms : List (String × Json)) (place : Nat) (members : Members S F)
    (make : F) : members.readNamed? ms make = members.readEach? (.object ms) place make := by
  induction members generalizing place with
  | done => rfl
  | member name get rule rest ih =>
    simp only [readNamed?, readEach?, Json.recordMember?, ← ih (place + 1)]
    cases ms.lookup name <;> rfl

theorem IsUniform.readEach?_of_readPlaced? {members : Members S F} (h : members.IsUniform)
    {js : List Json} {place : Nat} {make : F} {s : S}
    (hread : members.readPlaced? (js.drop place) make = some s) :
    members.readEach? (.array js) place make = some s := by
  induction members generalizing place with
  | done =>
    -- No elements are left if every member has been read.
    cases hdrop : js.drop place with
    | nil => rwa [hdrop] at hread
    | cons j rest =>
      rw [hdrop] at hread
      cases hread
  | member name get rule rest ih =>
    have hmember : js[place]? = (js.drop place).head? := by rw [List.head?_drop]
    have hrest : js.drop (place + 1) = (js.drop place).tail := by rw [List.tail_drop]
    rw [readEach?, Json.recordMember?, hmember]
    cases hdrop : js.drop place with
    | nil =>
      rw [hdrop] at hread hrest
      obtain ⟨a, ha, hread⟩ := Option.bind_eq_some_iff.mp hread
      exact Option.bind_eq_some_iff.mpr ⟨a, h.1.trans ha, ih h.2 (hrest ▸ hread)⟩
    | cons j js' =>
      rw [hdrop] at hread hrest
      obtain ⟨a, ha, hread⟩ := Option.bind_eq_some_iff.mp hread
      exact Option.bind_eq_some_iff.mpr ⟨a, ha, ih h.2 (hrest ▸ hread)⟩

end Members

/-! ## Codecs of records -/

section

variable {S F : Type} {make : F} {members : Members S F}

/-- What `decode?` gives of a record that was written is read member by member. -/
theorem Codec.decode?_encode_record (make : F) {members : Members S F} (hnames : members.names.Nodup)
    (s : S) :
    (Codec.record make members).decode? ((Codec.record make members).encode s) =
      members.reread s make := by
  show (if members.distinctIn (members.write s) then members.readNamed? (members.write s) make
    else none) = _
  rw [if_pos (members.distinctIn_of_nodup (Members.nodup_names_write s hnames)),
    Members.readNamed?_write s hnames]

/-- `decode?` reads a record member by member, whether it is an object or an array. -/
theorem Codec.readEach?_of_decode? {j : Json} {s : S}
    (hread : (Codec.record make members).decode? j = some s)
    (h : members.IsUniform := by simp [Members.IsUniform]) :
    members.readEach? j 0 make = some s := by
  cases j with
  | object ms =>
    change (if _ then _ else none) = some s at hread
    split at hread
    · rwa [Members.readNamed?_eq_readEach? ms 0] at hread
    · cases hread
  | array js => exact h.readEach?_of_readPlaced? hread
  | _ => cases hread

/-- A record is written readably if its `members` are. -/
theorem ReadableCodec.record (h : members.IsReadable := by simp [Members.IsReadable]) :
    @ReadableCodec S (Codec.record make members) :=
  @ReadableCodec.mk S (Codec.record make members) fun s => .object (h.forall_mem_write s)

/-- A record is read back if its `members` are. -/
theorem LawfulCodec.record (hnames : members.names.Nodup := by decide)
    (hmake : ∀ s, members.rebuild s make = s := by exact fun _ => rfl)
    (hread : members.IsReadable := by simp [Members.IsReadable])
    (h : members.IsLawful := by simp [Members.IsLawful]) :
    @LawfulCodec S (Codec.record make members) :=
  @LawfulCodec.mk S (Codec.record make members) (ReadableCodec.record hread) fun s =>
    (Codec.decode?_encode_record make hnames s).trans (by rw [h.reread_eq, hmake])

end

end ReplicaControl
