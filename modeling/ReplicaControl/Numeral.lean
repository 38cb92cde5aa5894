import ReplicaControl.Decimal

/-!
# Binary floating formats

The magnitudes of a binary floating format (`Binary`), as exact rationals. A magnitude is named by
its *code*: the bits of the number without the sign, read as a `Nat`. Codes are in the order of the
magnitudes that they name, and the least code that is not finite is `Binary.infinity`.

- `Binary.round`: the code of the magnitude nearest to a rational, ties to the even code.
- `Binary.nearest`: the rounded value of a rational of either sign, for arithmetic that stays
  inside the finite range.
-/

namespace ReplicaControl

/-- A binary format: how many bits of a number hold its fraction and its exponent. -/
structure Binary where
  fractionBits : Nat
  exponentBits : Nat
deriving DecidableEq

namespace Binary

/-- The format of 32 bits, of `Single`. -/
def single : Binary := ⟨23, 8⟩

/-- The format of 64 bits, in which the cache heuristic of section 4.1 calculates. -/
def double : Binary := ⟨52, 11⟩

/-- `2 ^ e` for an integer `e`. -/
def pow2 (e : Int) : Rat :=
  if 0 ≤ e then ((Nat.pow 2 e.toNat : Nat) : Rat) else mkRat 1 (Nat.pow 2 (-e).toNat)

/-- `10 ^ e` for an integer `e`. -/
def pow10 (e : Int) : Rat :=
  if 0 ≤ e then ((Nat.pow 10 e.toNat : Nat) : Rat) else mkRat 1 (Nat.pow 10 (-e).toNat)

variable (b : Binary)

/-- How many codes share an exponent, `2 ^ fractionBits`. -/
def span : Nat := Nat.pow 2 b.fractionBits

/-- The code of infinity; the codes below it are the finite magnitudes. -/
def infinity : Nat := (Nat.pow 2 b.exponentBits - 1) * b.span

/-- The exponent of the last place of the smallest magnitudes: they are multiples of `2 ^
leastExponent`. -/
def leastExponent : Int := 2 - (Nat.pow 2 (b.exponentBits - 1) : Nat) - b.fractionBits

/-- The magnitude of `code` as `m * 2 ^ e`, with `e` the exponent of its last place. Below `span`
the magnitude is subnormal and has no hidden bit. -/
def parts (code : Nat) : Nat × Int :=
  if code < b.span then (code, b.leastExponent)
  else (code % b.span + b.span, b.leastExponent + ((code / b.span - 1 : Nat) : Int))

/-- The value of the finite magnitude `code`. -/
def value (code : Nat) : Rat :=
  (((b.parts code).1 : Nat) : Rat) * pow2 (b.parts code).2

/-- The greatest `e` with `pow2 e ≤ x`, for positive `x`. -/
def exponentOf (x : Rat) : Int :=
  let e : Int := (Nat.log2 x.num.toNat : Int) - (Nat.log2 x.den : Int)
  if pow2 e ≤ x then e else e - 1

/-- The integer nearest to `x ≥ 0`, ties to the even one. -/
def roundEven (x : Rat) : Nat :=
  let n := x.floor.toNat
  let rest := x - (n : Rat)
  if rest < mkRat 1 2 then n
  else if mkRat 1 2 < rest then n + 1
  else n + n % 2

/-- The code of the magnitude nearest to `x`; what lies past the finite range is `infinity`, and
what is not positive is zero. -/
def round (x : Rat) : Nat :=
  if x ≤ 0 then 0
  else
    let e := max b.leastExponent (exponentOf x - b.fractionBits)
    min b.infinity ((e - b.leastExponent).toNat * b.span + roundEven (x / pow2 e))

/-- The value nearest to `x`, which is to lie inside the finite range. -/
def nearest (x : Rat) : Rat :=
  if x < 0 then -(b.value (b.round (-x))) else b.value (b.round x)

end Binary

/-!
## Decimal numerals

A `Numeral` is a number as a document writes it: digits, a fraction and a power of ten. What it
means is a second question, which `Numeral.reading` answers: without fraction and power of ten it
is an integer if 64 bits can hold it, and any other numeral is a double.

- **Text** (`Numeral.chars`, `Numeral.span?`): `Numeral.span?_chars` reads a written numeral back,
  whatever follows that cannot extend it (`Numeral.Ends`).
- **Meaning** (`Numeral.integer?`, `Numeral.double?`): a double is rounded more than once on the
  way, so `Numeral.double?` is not `Binary.round` of the exact number.
-/

/-- A number as it is written. Without digits in `fraction` there is no decimal point. -/
structure Numeral where
  negative : Bool := false
  whole : Nat
  fraction : List Digit := []
  exponent : Option Int := none
deriving DecidableEq

namespace Numeral

def ofInt (i : Int) : Numeral := { negative := decide (i < 0), whole := i.natAbs }

/-- Whether a numeral has neither fraction nor power of ten. -/
def isWhole (n : Numeral) : Bool := n.fraction.isEmpty && n.exponent.isNone

/-! ## Text -/

/-- `e+12`: the power of ten of a numeral, always with a sign. -/
def exponentChars (e : Int) : List Char :=
  'e' :: (if e < 0 then '-' else '+') :: Decimal.text e.natAbs

/-- The text of `n`: no point without `fraction`, no `e` without `exponent`. -/
def chars (n : Numeral) : List Char :=
  (if n.negative then ['-'] else []) ++ Decimal.text n.whole ++
    (if n.fraction.isEmpty then [] else '.' :: n.fraction.map Digit.toChar) ++
    (n.exponent.map exponentChars).getD []

/-- Whether `cs` starts with `-`, and what follows. Unlike `Decimal.spanSign` it takes no `+`. -/
def spanSign : List Char → Bool × List Char
  | '-' :: cs => (true, cs)
  | cs => (false, cs)

/-- The whole part at the head of a text: `0`, or digits without a leading zero. -/
def spanWhole? (cs : List Char) : Option (Nat × List Char) :=
  match Decimal.span cs with
  | ([], _) => none
  | (0 :: _ :: _, _) => none
  | (ds, rest) => some (Decimal.value ds, rest)

/-- The fraction at the head of a text: nothing, or a point and at least one digit. -/
def spanFraction? : List Char → Option (List Digit × List Char)
  | '.' :: cs =>
    match Decimal.span cs with
    | ([], _) => none
    | (ds, rest) => some (ds, rest)
  | cs => some ([], cs)

/-- The power of ten at the head of a text: nothing, or `e` or `E`, a sign or none, and digits. -/
def spanExponent? : List Char → Option (Option Int × List Char)
  | c :: cs =>
    if c = 'e' ∨ c = 'E' then
      match Decimal.span (Decimal.spanSign cs).2 with
      | ([], _) => none
      | (ds, rest) =>
        let e : Int := Decimal.value ds
        some (some (if (Decimal.spanSign cs).1 then -e else e), rest)
    else some (none, c :: cs)
  | [] => some (none, [])

/-- The numeral at the head of a text, and what follows it. -/
def span? (cs : List Char) : Option (Numeral × List Char) := do
  let (negative, cs) := spanSign cs
  let (whole, cs) ← spanWhole? cs
  let (fraction, cs) ← spanFraction? cs
  let (exponent, cs) ← spanExponent? cs
  return (⟨negative, whole, fraction, exponent⟩, cs)

/-- `rest` starts with none of the characters that could extend a numeral. -/
def Ends (rest : List Char) : Prop :=
  ∀ c ∈ rest.head?, Digit.ofChar? c = none ∧ c ≠ '.' ∧ c ≠ 'e' ∧ c ≠ 'E'

theorem spanWhole?_text (n : Nat) {rest : List Char}
    (h : ∀ c ∈ rest.head?, Digit.ofChar? c = none) :
    spanWhole? (Decimal.text n ++ rest) = some (n, rest) := by
  unfold spanWhole? Decimal.text
  rw [Decimal.span_append_digits _ _ h]
  split
  · next heq => exact absurd (Prod.mk.inj heq).1 (Decimal.digits_ne_nil n)
  · next heq => exact absurd (Prod.mk.inj heq).1 (Decimal.digits_ne_zero_cons n _ _)
  · next heq =>
    obtain ⟨rfl, rfl⟩ := Prod.mk.inj heq
    rw [Decimal.value_digits]

theorem spanFraction?_chars (ds : List Digit) {rest : List Char}
    (h : ∀ c ∈ rest.head?, Digit.ofChar? c = none ∧ c ≠ '.') :
    spanFraction? ((if ds.isEmpty then [] else '.' :: ds.map Digit.toChar) ++ rest) =
      some (ds, rest) := by
  cases ds with
  | nil =>
    cases rest with
    | nil => rfl
    | cons c rest =>
      show spanFraction? (c :: rest) = _
      unfold spanFraction?
      split
      · next heq => exact absurd (List.cons.inj heq).1 (h c rfl).2
      · rfl
  | cons d ds =>
    simp only [List.isEmpty_cons, Bool.false_eq_true, if_false, List.cons_append, spanFraction?]
    rw [Decimal.span_append_digits _ _ fun c hc => (h c hc).1]

theorem spanExponent?_chars (e : Option Int) {rest : List Char}
    (h : ∀ c ∈ rest.head?, Digit.ofChar? c = none ∧ c ≠ 'e' ∧ c ≠ 'E') :
    spanExponent? ((e.map exponentChars).getD [] ++ rest) = some (e, rest) := by
  -- Without an exponent nothing is written, and `rest` must not look like one; with one its digits
  -- end where `rest` begins.
  cases e with
  | none =>
    cases rest with
    | nil => rfl
    | cons c rest =>
      have hc := (h c rfl).2
      simp only [Option.map_none, Option.getD_none, List.nil_append, spanExponent?]
      rw [if_neg (by simp [hc])]
  | some e =>
    have hsign : Decimal.spanSign ((if e < 0 then '-' else '+') :: (Decimal.text e.natAbs ++ rest)) =
        (decide (e < 0), Decimal.text e.natAbs ++ rest) := by
      by_cases he : e < 0 <;> simp [he, Decimal.spanSign]
    simp only [Option.map_some, Option.getD_some, exponentChars, List.cons_append, spanExponent?,
      true_or, if_true, hsign]
    unfold Decimal.text
    rw [Decimal.span_append_digits _ _ fun c hc => (h c hc).1]
    split
    · next heq => exact absurd (Prod.mk.inj heq).1 (Decimal.digits_ne_nil _)
    · next heq =>
      obtain ⟨rfl, rfl⟩ := Prod.mk.inj heq
      have habs : (if e < 0 then -((e.natAbs : Nat) : Int) else e.natAbs) = e := by
        split <;> omega
      simp only [Decimal.value_digits, decide_eq_true_eq, habs]

theorem spanSign_text (negative : Bool) (n : Nat) (rest : List Char) :
    spanSign ((if negative then ['-'] else []) ++ (Decimal.text n ++ rest)) =
      (negative, Decimal.text n ++ rest) := by
  cases negative with
  | true => rfl
  | false =>
    cases hds : Decimal.digits n with
    | nil => exact absurd hds (Decimal.digits_ne_nil n)
    | cons d ds =>
      simp only [Bool.false_eq_true, if_false, List.nil_append, Decimal.text, hds, List.map_cons,
        List.cons_append]
      unfold spanSign
      split
      · next heq =>
        have hd := Digit.ofChar?_toChar d
        rw [(List.cons.inj heq).1] at hd
        cases hd
      · rfl

/-- A written numeral is read back, if `rest` cannot extend it. -/
theorem span?_chars (n : Numeral) {rest : List Char} (h : Ends rest) :
    span? (n.chars ++ rest) = some (n, rest) := by
  have hexponent : ∀ c ∈ ((n.exponent.map exponentChars).getD [] ++ rest).head?,
      Digit.ofChar? c = none ∧ c ≠ '.' := by
    cases n.exponent with
    | none => exact fun c hc => ⟨(h c hc).1, (h c hc).2.1⟩
    | some e =>
      rintro c ⟨⟩
      decide
  have hfraction : ∀ c ∈ ((if n.fraction.isEmpty then [] else '.' :: n.fraction.map Digit.toChar) ++
      ((n.exponent.map exponentChars).getD [] ++ rest)).head?, Digit.ofChar? c = none := by
    cases n.fraction with
    | nil => exact fun c hc => (hexponent c hc).1
    | cons d ds =>
      rintro c ⟨⟩
      decide
  simp only [span?, chars, List.append_assoc, spanSign_text, spanWhole?_text _ hfraction,
    spanFraction?_chars _ hexponent, spanExponent?_chars _ fun c hc => ⟨(h c hc).1, (h c hc).2.2⟩,
    Option.bind_eq_bind, Option.bind_some, Option.pure_def]

/-! ## Reading as a double

The significand is collected in 64 bits. Once a digit of the whole part does not fit, the further
digits of the whole part only count; the first digit of the fraction that does not fit ends the
fraction. The significand is then scaled by one power of ten, rounded once as a power and once as
a product or quotient. -/

/-- `significand` with the digit `d` added, unless 64 bits cannot hold it. -/
def extend? (significand : Nat) (d : Digit) : Option Nat :=
  let next := 10 * significand + d.val
  if next < Nat.pow 2 64 then some next else none

/-- `significand` with the digits of a whole part added as long as they fit, and how many do not. -/
def collectWhole (significand : Nat) : List Digit → Nat × Nat
  | [] => (significand, 0)
  | d :: ds =>
    match extend? significand d with
    | some next => collectWhole next ds
    | none => (significand, ds.length + 1)

/-- `significand` with the digits of a fraction added as long as they fit, and how many do. -/
def collectFraction (significand : Nat) : List Digit → Nat × Nat
  | [] => (significand, 0)
  | d :: ds =>
    match extend? significand d with
    | some next => let (s, n) := collectFraction next ds; (s, n + 1)
    | none => (significand, 0)

/-- The double nearest to `10 ^ e`. -/
def tenPower (e : Nat) : Rat := Binary.double.nearest ((Nat.pow 10 e : Nat) : Rat)

/-- `10 ^ 308` is the greatest power of ten that doubles hold. -/
def greatestTenPower : Nat := 308

/-- `x` divided by `10 ^ e`, in steps of `greatestTenPower`, rounded after each. -/
def scaleDown (x : Rat) (e : Nat) : Rat :=
  if x = 0 then 0
  else if e ≤ greatestTenPower then Binary.double.nearest (x / tenPower e)
  else scaleDown (Binary.double.nearest (x / tenPower greatestTenPower)) (e - greatestTenPower)
termination_by e
decreasing_by simp only [greatestTenPower] at *; omega

/-- The code of `significand * 10 ^ e`, unless it lies past the finite range. -/
def scaled? (significand : Nat) (e : Int) : Option Nat :=
  let x := Binary.double.nearest (significand : Rat)
  if e < 0 then some (Binary.double.round (scaleDown x (-e).toNat))
  else if x = 0 then some 0
  else if greatestTenPower < e.toNat then none
  else
    let code := Binary.double.round (x * tenPower e.toNat)
    if code < Binary.double.infinity then some code else none

/-- The magnitude of `n` as the code of a double, unless it lies past the finite range. -/
def double? (n : Numeral) : Option Nat :=
  let (whole, left) := collectWhole 0 (Decimal.digits n.whole)
  let (significand, taken) := collectFraction whole n.fraction
  scaled? significand ((left : Int) - (taken : Int) + n.exponent.getD 0)

/-- What a numeral means: an integer, or a double by its sign and code. -/
inductive Reading where
  | integer (i : Int)
  | double (negative : Bool) (code : Nat)
deriving DecidableEq

/-- The integer that `n` writes, if 64 bits can hold it; `-0` is no integer. -/
def integer? (n : Numeral) : Option Int :=
  if n.isWhole then
    if n.negative then
      if 0 < n.whole ∧ n.whole ≤ Nat.pow 2 63 then some (-(n.whole : Int)) else none
    else if n.whole < Nat.pow 2 64 then some (n.whole : Int) else none
  else none

/-- What `n` means, unless it lies past the range of doubles. -/
def reading (n : Numeral) : Option Reading :=
  match n.integer? with
  | some i => some (.integer i)
  | none => n.double?.map (.double n.negative)

end Numeral

end ReplicaControl
