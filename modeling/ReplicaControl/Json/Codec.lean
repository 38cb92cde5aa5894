import ReplicaControl.Dict
import ReplicaControl.Json.Text
import ReplicaControl.Single

/-!
# Values as JSON

A `Codec` writes the values of a type as JSON and reads them back; it is what the persisted shapes
of sections 10.1 and 10.2 of the specification are declared by. Records get theirs from a list of
members (`Members`), each with a `MemberRule`: when it is written, and what its absence means.

- **Plain values**: texts, truth values, integers in their ranges (`Codec.integer?`), `Single`.
- **Containers**: `Option`, `List`, and `Dict` with names for keys.
- **Records** (`Codec.record`): objects with unknown members skipped and no known member repeated,
  or arrays of the members in order.
- **Faithful descriptions** (`Members.rebuild`): the record made of a record's own members is that
  record, if every member is listed with its own field.
-/

namespace ReplicaControl

/-- How the values of a type are written as JSON and read from it. -/
class Codec (α : Type) where
  encode : α → Json
  decode? : Json → Option α

export Codec (encode decode?)

namespace Codec

/-! ## Plain values -/

instance : Codec String where
  encode := .string
  decode?
    | .string s => some s
    | _ => none

instance : Codec Bool where
  encode := .bool
  decode?
    | .bool b => some b
    | _ => none

/-- `Json` as it is. -/
instance : Codec Json where
  encode j := j
  decode? := some

/-- The integer that a value is, if it lies in `least..greatest`. -/
def integer? (least greatest : Int) : Json → Option Int
  | .number n =>
    match n.integer? with
    | some i => if least ≤ i ∧ i ≤ greatest then some i else none
    | none => none
  | _ => none

instance : Codec UInt16 where
  encode n := .ofInt n.toNat
  decode? j := (integer? 0 0xFFFF j).map fun i => i.toNat.toUInt16

instance : Codec UInt32 where
  encode n := .ofInt n.toNat
  decode? j := (integer? 0 0xFFFFFFFF j).map fun i => i.toNat.toUInt32

instance : Codec UInt64 where
  encode n := .ofInt n.toNat
  decode? j := (integer? 0 0xFFFFFFFFFFFFFFFF j).map fun i => i.toNat.toUInt64

instance : Codec Int32 where
  encode n := .ofInt n.toInt
  decode? j := (integer? (-0x80000000) 0x7FFFFFFF j).map Int32.ofInt

instance : Codec Int64 where
  encode n := .ofInt n.toInt
  decode? j := (integer? (-0x8000000000000000) 0x7FFFFFFFFFFFFFFF j).map Int64.ofInt

/-- A `Single` that is not finite is written as `null`, which is no number when it is read. -/
instance : Codec Single where
  encode x :=
    match x.numeral? with
    | some n => .number n
    | none => .null
  decode?
    | .number n => Single.ofNumeral? n
    | _ => none

/-! ## Containers -/

/-- `none` is `null`. -/
instance {α : Type} [Codec α] : Codec (Option α) where
  encode
    | none => .null
    | some a => encode a
  decode?
    | .null => some none
    | j => (decode? j).map some

instance {α : Type} [Codec α] : Codec (List α) where
  encode as := .array (as.map encode)
  decode?
    | .array js => js.mapM decode?
    | _ => none

/-- An object with names for keys; the last member of a name counts. -/
instance {α : Type} [Codec α] : Codec (Dict String α) where
  encode d := .object (d.toList.map fun e => (e.1, encode e.2))
  decode?
    | .object ms => (ms.mapM fun m => (decode? m.2).map (m.1, ·)).map Dict.ofList
    | _ => none

end Codec

/-! ## Records -/

/-- When a member of a record is written, and what its absence means. -/
structure MemberRule (α : Type) where
  /-- The value to write; `none` leaves the member out. -/
  write : α → Option Json
  read : Json → Option α
  /-- What an object without the member means; `none` is a fault. -/
  unnamed : Option α
  /-- What an array that ends before the member means; `none` is a fault. -/
  unplaced : Option α

namespace MemberRule

variable {α : Type} [Codec α]

/-- Always written, and never absent: `hostname`, `_id`. -/
def required : MemberRule α := ⟨fun a => some (encode a), decode?, none, none⟩

/-- Always written; absent, it is `default`. -/
def orElse (default : α) : MemberRule α :=
  ⟨fun a => some (encode a), decode?, some default, some default⟩

/-- Always written; absent, it is `vacant`. -/
def orVacant [Vacant α] : MemberRule α := orElse vacant

/-- Written unless it is `vacant`; absent, it is. So an empty field leaves no trace in the text. -/
def unlessVacant [Vacant α] : MemberRule α :=
  ⟨fun a => if isVacant a then none else some (encode a), decode?, some vacant, some vacant⟩

/-- Always written, `none` as `null`; an object may leave it out, an array may not. -/
def nullable : MemberRule (Option α) := ⟨fun a => some (encode a), decode?, some none, none⟩

end MemberRule

/-- The members of a record `S` in the order in which they are written. `F` is the type of the
function that makes a record of them. -/
inductive Members (S : Type) : Type → Type 1 where
  | done : Members S S
  | member {α F : Type} (name : String) (get : S → α) (rule : MemberRule α)
      (rest : Members S F) : Members S (α → F)

namespace Members

variable {S : Type}

/-- The names of the members, in order. -/
def names {F : Type} : Members S F → List String
  | .done => []
  | .member name _ _ rest => name :: rest.names

/-- The members that are written for the record `s`. -/
def write {F : Type} (s : S) : Members S F → List (String × Json)
  | .done => []
  | .member name get rule rest =>
    match rule.write (get s) with
    | some j => (name, j) :: rest.write s
    | none => rest.write s

/-- The record of the members `ms` of an object, made with `make`. -/
def readNamed? (ms : List (String × Json)) {F : Type} : Members S F → F → Option S
  | .done, s => some s
  | .member name _ rule rest, make => do
    let a ← match ms.lookup name with
      | some j => rule.read j
      | none => rule.unnamed
    rest.readNamed? ms (make a)

/-- The record of the elements of an array, which are its members in order. -/
def readPlaced? {F : Type} : Members S F → List Json → F → Option S
  | .done, [], s => some s
  | .done, _ :: _, _ => none
  | .member _ _ rule rest, [], make => do
    rest.readPlaced? [] (make (← rule.unplaced))
  | .member _ _ rule rest, j :: js, make => do
    rest.readPlaced? js (make (← rule.read j))

/-- The record that `make` makes of the members of `s`. -/
def rebuild (s : S) {F : Type} : Members S F → F → S
  | .done, s' => s'
  | .member _ get _ rest, make => rest.rebuild s (make (get s))

/-- Whether the object `ms` repeats none of `members`; others may be repeated, as they are skipped.
-/
def distinctIn {F : Type} (members : Members S F) (ms : List (String × Json)) : Bool :=
  members.names.all fun name => ms.countP (·.1 == name) ≤ 1

end Members

namespace Codec

/-- A record that is written as an object and read from an object only. -/
@[reducible]
def objectRecord {S F : Type} (make : F) (members : Members S F) : Codec S where
  encode s := .object (members.write s)
  decode?
    | .object ms => if members.distinctIn ms then members.readNamed? ms make else none
    | _ => none

/-- A record that is written as an object, and read from an object or from an array of its members
in order. -/
@[reducible]
def record {S F : Type} (make : F) (members : Members S F) : Codec S where
  encode s := .object (members.write s)
  decode?
    | .object ms => if members.distinctIn ms then members.readNamed? ms make else none
    | .array js => members.readPlaced? js make
    | _ => none

end Codec

end ReplicaControl
