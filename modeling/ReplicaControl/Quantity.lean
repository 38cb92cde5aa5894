import ReplicaControl.Decimal
import ReplicaControl.Numeral
import ReplicaControl.Text

/-!
# Memory quantities

The memory limits of containers, from which the cache heuristic starts (specification, sections 4.1
and 10.2): `8G`, `512Mi`, `1e9`, plain bytes. The number is rounded to a double, then its product
with the unit, then to a whole number of bytes, a half away from zero; what exceeds 64 bits counts
as the greatest number that they hold.

- `Quantity.splitUnit`: the units of `Quantity.units` are tried in their order, so `Ki` before `k`.
- `Quantity.bytes?`: the bytes of a quantity.
-/

namespace ReplicaControl

namespace Binary

/-- The code of the magnitude nearest to the digits `ds` times `10 ^ e`. What lies far outside the
range of a double is decided by the place of the first digit, without the power. -/
def ofDecimal (b : Binary) (ds : List Digit) (e : Int) : Nat :=
  let n := Decimal.value ds
  let top := e + ((Decimal.digits n).length : Int)
  if n = 0 then 0
  else if 400 < top then b.infinity
  else if top < -400 then 0
  else b.round ((n : Rat) * pow10 e)

end Binary

namespace Quantity

/-- The units and how many bytes each counts, in the order in which they are tried. -/
def units : List (List Char × Nat) :=
  [(['K', 'i'], 1024),
   (['M', 'i'], 1024 * 1024),
   (['G', 'i'], 1024 * 1024 * 1024),
   (['T', 'i'], 1024 * 1024 * 1024 * 1024),
   (['P', 'i'], 1024 * 1024 * 1024 * 1024 * 1024),
   (['k'], 1000),
   (['M'], 1000 * 1000),
   (['G'], 1000 * 1000 * 1000),
   (['T'], 1000 * 1000 * 1000 * 1000),
   (['P'], 1000 * 1000 * 1000 * 1000 * 1000)]

/-- What precedes `unit` at the end of `cs`; `none` if `cs` does not end with it. -/
def withoutUnit? (unit cs : List Char) : Option (List Char) :=
  if unit.isSuffixOf cs then some (cs.take (cs.length - unit.length)) else none

/-- The number of a quantity and how many bytes its unit counts; without a unit, one. -/
def splitUnit (cs : List Char) : List Char × Nat :=
  (units.findSome? fun u => (withoutUnit? u.1 cs).map (·, u.2)).getD (cs, 1)

/-- The exponent that a text writes: nothing, or `e` or `E`, a sign or none, and digits up to its
end. -/
def exponent? : List Char → Option Int
  | [] => some 0
  | c :: cs =>
    if c = 'e' ∨ c = 'E' then
      match Decimal.read? (Decimal.spanSign cs).2 with
      | some n => some (if (Decimal.spanSign cs).1 then -(n : Int) else n)
      | none => none
    else none

/-- The digits after a `.` at the head of a text, and what follows them. Unlike
`Numeral.spanFraction?` it takes a point without digits. -/
def spanFraction : List Char → List Digit × List Char
  | '.' :: cs => Decimal.span cs
  | cs => ([], cs)

/-- The number that `cs` writes: its sign, and the code of the nearest double. `8.` and `.5` are
numbers, a lone `.` is not. -/
def double? (cs : List Char) : Option (Bool × Nat) := do
  let (negative, cs) := Decimal.spanSign cs
  let (whole, cs) := Decimal.span cs
  let (fraction, cs) := spanFraction cs
  let e ← exponent? cs
  if whole.isEmpty && fraction.isEmpty then none
  else
    some (negative, Binary.double.ofDecimal (whole ++ fraction) (e - (fraction.length : Int)))

/-- The integer nearest to `x ≥ 0`, a half rounded up, at most `2 ^ 64 - 1`. -/
def wholeBytes (x : Rat) : UInt64 :=
  (min (x + mkRat 1 2).floor.toNat (Nat.pow 2 64 - 1)).toUInt64

/-- The bytes of the quantity `s`. Negative numbers and those past the finite range have none; `-0`
has zero. -/
def bytes? (s : String) : Option UInt64 := do
  let (number, unit) := splitUnit (Text.trim s.toList)
  let (negative, code) ← double? number
  if Binary.double.infinity ≤ code ∨ (negative ∧ code ≠ 0) then none
  else some (wholeBytes (Binary.double.nearest (Binary.double.value code * (unit : Rat))))

end Quantity

end ReplicaControl
