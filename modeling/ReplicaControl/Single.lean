import ReplicaControl.Numeral

/-!
# Shortest decimals

The decimal with the fewest digits among those that round to a given magnitude, and of these the
one nearest to it. The reals that round to a magnitude form an interval around it, which has its
ends exactly when the code is even.

- `Binary.shortest`: the digits of that decimal, by `Binary.search` from large powers of ten down.
- `ShortDecimal.numeral`: the decimal as a `Numeral`, positional or scientific as a `NumberLayout`
  says.
-/

namespace ReplicaControl

/-- A decimal magnitude: `⟨[1, 2], 0⟩` is 1.2. -/
structure ShortDecimal where
  digits : List Digit
  /-- The first digit counts `10 ^ exponent`. -/
  exponent : Int
deriving DecidableEq

/-- Which of two equally near decimals `Binary.candidate?` takes. -/
inductive DecimalTie where
  /-- The one with the even last digit. -/
  | even
  /-- The greater one. -/
  | up
deriving DecidableEq

namespace Binary

variable (b : Binary)

/-- The interval of reals that round to the positive magnitude `code`: its two ends, each half-way
to a neighbour, and whether they belong to it. Below a power of two the neighbour is nearer. -/
def interval (code : Nat) : Rat × Rat × Bool :=
  let (m, e) := b.parts code
  let half := pow2 (e - 1)
  let below := if m = b.span ∧ b.leastExponent < e then pow2 (e - 2) else half
  let x := b.value code
  (x - below, x + half, code % 2 = 0)

/-- `n` for the multiple `n * unit` nearest to `x` with `n * unit` inside the interval `ends`, if
one of the two multiples next to `x` is. -/
def candidate? (tie : DecimalTie) (x unit : Rat) (ends : Rat × Rat × Bool) : Option Nat :=
  let inside (n : Nat) : Bool :=
    let y := (n : Rat) * unit
    if ends.2.2 then decide (ends.1 ≤ y ∧ y ≤ ends.2.1) else decide (ends.1 < y ∧ y < ends.2.1)
  let low := (x / unit).floor.toNat
  let high := low + 1
  let rest := x - (low : Rat) * unit
  let lowFirst : Bool :=
    if rest + rest < unit then true
    else if unit < rest + rest then false
    else
      match tie with
      | .even => low % 2 = 0
      | .up => false
  if lowFirst then
    if inside low && 0 < low then some low else if inside high then some high else none
  else
    if inside high then some high else if inside low && 0 < low then some low else none

/-- The first `n` and `e`, for `e` from large to small, with `n * 10 ^ e` inside the interval
`ends`. The fuel covers the digits of every magnitude of the format, so the first case is not
reached. -/
def search (tie : DecimalTie) (x : Rat) (ends : Rat × Rat × Bool) : Nat → Int → Nat × Int
  | 0, e => ((x / pow10 e).floor.toNat, e)
  | fuel + 1, e =>
    match candidate? tie x (pow10 e) ends with
    | some n => (n, e)
    | none => search tie x ends fuel (e - 1)

/-- An upper bound of the powers of ten that `x` reaches: `30103 / 100000` is the logarithm of two,
rounded up. -/
def decimalBound (x : Rat) : Int :=
  let e := exponentOf x
  (e + 1) * 30103 / 100000 + 2

/-- The shortest decimal of the finite magnitude `code`, without zeros at its end. -/
def shortest (tie : DecimalTie) (code : Nat) : ShortDecimal :=
  if code = 0 then ⟨[0], 0⟩
  else
    let x := b.value code
    let (n, e) := search tie x (b.interval code) (b.fractionBits + 8) (decimalBound x)
    let ds := Decimal.digits n
    let kept := (ds.reverse.dropWhile (· == 0)).reverse
    ⟨kept, e + (ds.length : Int) - 1⟩

end Binary

/-- The exponents `least..greatest` of `ShortDecimal` that are written without a power of ten. -/
structure NumberLayout where
  least : Int
  greatest : Int
deriving DecidableEq

namespace ShortDecimal

/-- `d` with its digits in place: an integer has the fraction `0`. -/
def positional (d : ShortDecimal) : Numeral :=
  if d.exponent < 0 then
    { whole := 0, fraction := List.replicate ((-d.exponent).toNat - 1) 0 ++ d.digits }
  else
    let count := d.exponent.toNat + 1
    let padded := d.digits ++ List.replicate (count - d.digits.length) 0
    let fraction := padded.drop count
    { whole := Decimal.value (padded.take count),
      fraction := if fraction.isEmpty then [0] else fraction }

/-- `d` with one digit before the point and a power of ten. -/
def scientific (d : ShortDecimal) : Numeral :=
  { whole := Decimal.value (d.digits.take 1), fraction := d.digits.drop 1,
    exponent := some d.exponent }

/-- `d` in the layout `how`. -/
def numeral (d : ShortDecimal) (how : NumberLayout) : Numeral :=
  if how.least ≤ d.exponent ∧ d.exponent ≤ how.greatest then d.positional else d.scientific

end ShortDecimal

/-!
## Single-precision numbers

`Single` is how a document holds `cacheSizeGB` and `priority` (specification, section 10.2). Such
numbers are compared as numbers, so `0` equals `-0` and a `Single.isNaN` differs from itself; they
are read from a `Numeral` (`Single.ofNumeral?`) and written with the fewest digits that read back
(`Single.numeral?`).
-/

/-- A number of single precision, by its 32 bits. -/
structure Single where
  bits : UInt32

namespace Single

/-- The bits without the sign: the code of the magnitude in `Binary.single`. -/
def code (x : Single) : Nat := x.bits.toNat % Nat.pow 2 31

def isNegative (x : Single) : Bool := decide (Nat.pow 2 31 ≤ x.bits.toNat)

/-- Whether the bits stand for no number: the codes above that of infinity. -/
def isNaN (x : Single) : Bool := decide (Binary.single.infinity < x.code)

/-- Whether the bits stand for a finite number: the codes below that of infinity. -/
def isFinite (x : Single) : Bool := decide (x.code < Binary.single.infinity)

/-- The number of magnitude `code`, negative if `negative`. -/
def ofCode (negative : Bool) (code : Nat) : Single :=
  ⟨(code + if negative then Nat.pow 2 31 else 0).toUInt32⟩

/-- Equality of numbers. -/
instance : BEq Single where
  beq x y := !x.isNaN && !y.isNaN && (x.bits == y.bits || (x.code == 0 && y.code == 0))

instance : Inhabited Single := ⟨⟨0⟩⟩

/-- The single nearest to `x ≥ 0`, negative if `negative`. -/
def round (negative : Bool) (x : Rat) : Single := ofCode negative (Binary.single.round x)

/-- The number that `n` means: an integer is rounded once, any other numeral first to a double. -/
def ofNumeral? (n : Numeral) : Option Single :=
  match n.reading with
  | some (.integer i) => some (round (decide (i < 0)) ((i.natAbs : Nat) : Rat))
  | some (.double negative code) => some (round negative (Binary.double.value code))
  | none => none

/-- Documents write exponents from `-6` to `12` positionally. -/
def documentLayout : NumberLayout := ⟨-6, 12⟩

/-- The numeral that a document writes for `x`: the shortest decimal, of two equally near ones the
one with the even last digit. Only finite numbers have one, so infinity is stored as `null`. -/
def numeral? (x : Single) : Option Numeral :=
  if x.isFinite then
    some { (Binary.single.shortest .even x.code).numeral documentLayout with
      negative := x.isNegative }
  else none

/-- `x` in words and digits without a power of ten, and without a point for integers; `inf`, `NaN`.
-/
def plainText (x : Single) : String :=
  if x.isNaN then "NaN"
  else
    let sign := if x.isNegative then "-" else ""
    if x.isFinite then
      let n := (Binary.single.shortest .up x.code).positional
      let fraction := if n.fraction.all (·.val = 0) then [] else n.fraction
      sign ++ String.ofList { n with fraction }.chars
    else sign ++ "inf"

end Single

end ReplicaControl
