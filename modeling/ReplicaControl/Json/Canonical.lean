import ReplicaControl.Dict
import ReplicaControl.Json.Text
import ReplicaControl.Single

/-!
# JSON data

Data whose meaning is not known here, such as the `affinity` of a pod or the `rollingUpdate` of a
workload, is read in a canonical form (`Json.canonical?`): the names of an object once each and in
order, the last member of a name counting, integers of 64 bits as they are, and every other number
as the shortest decimal of the nearest double.
-/

namespace ReplicaControl

namespace Numeral

/-- Data writes the exponents of doubles from `-6` to `20` positionally. -/
def dataLayout : NumberLayout := ⟨-6, 20⟩

/-- The canonical numeral of the number that `n` means; `none` past the range of doubles. -/
def canonical? (n : Numeral) : Option Numeral :=
  n.reading.map fun
    | .integer i => ofInt i
    | .double negative code =>
      { (Binary.double.shortest .even code).numeral dataLayout with negative }

end Numeral

namespace Json

mutual

/-- The canonical form of data; `unreadable` data has none. -/
def canonical? : Json → Option Json
  | .null => some .null
  | .bool b => some (.bool b)
  | .number n => n.canonical?.map .number
  | .string s => some (.string s)
  | .array js => (canonicalElements? js).map .array
  | .object ms => (canonicalMembers? ms).map fun ms => .object (Dict.ofList ms).toList
  | .unreadable => none

/-- `canonical?` of each element of an array. -/
def canonicalElements? : List Json → Option (List Json)
  | [] => some []
  | j :: js => do return (← canonical? j) :: (← canonicalElements? js)

/-- The members of an object, with `canonical?` of their values. -/
def canonicalMembers? : List (String × Json) → Option (List (String × Json))
  | [] => some []
  | (name, j) :: ms => do return (name, ← canonical? j) :: (← canonicalMembers? ms)

end

end Json

end ReplicaControl

/-!
## JSON in memory

A text may have the members of an object in any order. In memory (`Json.arranged`) they are in the
order of their names, and of several members of one name the last is left.
-/

namespace ReplicaControl.Json

mutual

/-- The value as it is held in memory: every object has its members in a `Dict`. -/
def arranged : Json → Json
  | .null => .null
  | .bool b => .bool b
  | .number n => .number n
  | .string s => .string s
  | .array js => .array (arrangedElements js)
  | .object ms => .object (Dict.ofList (arrangedMembers ms)).toList
  | .unreadable => .unreadable

/-- `arranged` of each element of an array. -/
def arrangedElements : List Json → List Json
  | [] => []
  | j :: js => arranged j :: arrangedElements js

/-- The members of an object, with `arranged` of their values. -/
def arrangedMembers : List (String × Json) → List (String × Json)
  | [] => []
  | (name, j) :: ms => (name, arranged j) :: arrangedMembers ms

end

end ReplicaControl.Json
