/-!
# Elements of certificates

A certificate is written in elements (DER). Each has an identifier, that is a class, a mark for
being made of elements itself and a tag number, then the length of its contents, then the contents.
Certificates prove who agents are (specification, section 4.2), and attribute values that are no
text are shown by their encoded element (section 10.3).

- `Element.read?`: the element at the start of bytes, and the bytes after it.
- `elements`: the elements at the start of bytes; it ends by `Element.length_lt_of_read?`.
- `Element.encode`: the bytes of an element, with the shortest number and the shortest length.
-/

namespace ReplicaControl.Certificate

/-- Who gave a tag number its meaning. -/
inductive TagClass where
  | universal
  | application
  | contextSpecific
  | privateUse
deriving DecidableEq

namespace TagClass

/-- The number of a class, the two highest bits of an identifier. -/
def code : TagClass → Nat
  | universal => 0
  | application => 1
  | contextSpecific => 2
  | privateUse => 3

/-- The class of `n`, of which the two lowest bits count. -/
def ofCode (n : Nat) : TagClass :=
  match n % 4 with
  | 0 => universal
  | 1 => application
  | 2 => contextSpecific
  | _ => privateUse

end TagClass

/-- An element: what identifies it, and its contents. -/
structure Element where
  tagClass : TagClass
  /-- Whether the contents are elements themselves. -/
  constructed : Bool
  tag : UInt32
  contents : List UInt8
deriving DecidableEq

namespace Element

/-! ## Reading -/

/-- A tag number written in digits to the base 128, at most `n` of them: all but the last have the
high bit set. `number` is what was read before. -/
def readNumber? : Nat → UInt32 → List UInt8 → Option (UInt32 × List UInt8)
  | n + 1, number, b :: bs =>
    let number := number <<< 7 ||| (b &&& 0x7F).toUInt32
    if b < 0x80 then some (number, bs) else readNumber? n number bs
  | _, _, _ => none

/-- The number that `bs` write, the most significant byte first. -/
def number (bs : List UInt8) : Nat := bs.foldl (fun n b => 256 * n + b.toNat) 0

/-- A length: a byte below 128, or the number of bytes that write it and those bytes. Lengths that
are left open (`0x80`) are refused. -/
def readLength? : List UInt8 → Option (Nat × List UInt8)
  | [] => none
  | b :: bs =>
    if b < 0x80 then some (b.toNat, bs)
    else
      let count := (b &&& 0x7F).toNat
      if count = 0 ∨ count = 127 ∨ bs.length < count then none
      else some (number (bs.take count), bs.drop count)

/-- The tag number of the first byte `b`, or the one written behind it. -/
def readTag? (b : UInt8) (bs : List UInt8) : Option (UInt32 × List UInt8) :=
  let low := b &&& 0x1F
  if low = 0x1F then readNumber? 5 0 bs else some (low.toUInt32, bs)

/-- The element at the start of bytes, and the bytes after it. -/
def read? : List UInt8 → Option (Element × List UInt8)
  | [] => none
  | b :: bs =>
    match readTag? b bs with
    | none => none
    | some (tag, bs) =>
      match readLength? bs with
      | none => none
      | some (length, bs) =>
        if bs.length < length then none
        else some (⟨.ofCode (b.toNat / 64), b &&& 0x20 ≠ 0, tag, bs.take length⟩, bs.drop length)

theorem length_le_of_readNumber? {n : Nat} {x : UInt32} {bs : List UInt8}
    {r : UInt32 × List UInt8} (h : readNumber? n x bs = some r) : r.2.length ≤ bs.length := by
  induction n generalizing x bs with
  | zero => simp [readNumber?] at h
  | succ n ih =>
    cases bs with
    | nil => simp [readNumber?] at h
    | cons b bs =>
      simp only [readNumber?] at h
      split at h
      · cases h
        simp
      · exact Nat.le_succ_of_le (ih h)

theorem length_le_of_readTag? {b : UInt8} {bs : List UInt8} {r : UInt32 × List UInt8}
    (h : readTag? b bs = some r) : r.2.length ≤ bs.length := by
  unfold readTag? at h
  simp only at h
  split at h
  · exact length_le_of_readNumber? h
  · cases h
    exact Nat.le_refl _

theorem length_le_of_readLength? {bs : List UInt8} {r : Nat × List UInt8}
    (h : readLength? bs = some r) : r.2.length ≤ bs.length := by
  cases bs with
  | nil => simp [readLength?] at h
  | cons b bs =>
    simp only [readLength?] at h
    split at h
    · cases h
      simp
    · split at h
      · cases h
      · cases h
        exact Nat.le_succ_of_le (List.drop_sublist _ _).length_le

/-- Reading an element takes at least one byte. -/
theorem length_lt_of_read? {bs : List UInt8} {r : Element × List UInt8}
    (h : read? bs = some r) : r.2.length < bs.length := by
  cases bs with
  | nil => simp [read?] at h
  | cons b bs =>
    simp only [read?] at h
    split at h
    · cases h
    · next ht =>
      have ht := length_le_of_readTag? ht
      split at h
      · cases h
      · next hl =>
        have hl := length_le_of_readLength? hl
        split at h
        · cases h
        · cases h
          simp only [List.length_drop, List.length_cons] at ht hl ⊢
          omega

/-! ## Writing -/

/-- The digits of `n` to the base 128, each with the high bit set; zero has none. -/
def highDigits (n : Nat) : List UInt8 :=
  if n = 0 then [] else highDigits (n / 128) ++ [(n % 128 + 128).toUInt8]
termination_by n
decreasing_by omega

/-- The digits of `n` to the base 128, the last one without the high bit. -/
def base128 (n : Nat) : List UInt8 := highDigits (n / 128) ++ [(n % 128).toUInt8]

/-- The bytes that write `n`, without leading zeros; `number` reads them. -/
def numberBytes (n : Nat) : List UInt8 :=
  if n = 0 then [] else numberBytes (n / 256) ++ [(n % 256).toUInt8]
termination_by n
decreasing_by omega

/-- The bytes of the length `n`. -/
def lengthBytes (n : Nat) : List UInt8 :=
  if n < 128 then [n.toUInt8] else (128 + (numberBytes n).length).toUInt8 :: numberBytes n

/-- The bytes that identify `e`: tag numbers up to 30 have one byte. -/
def identifierBytes (e : Element) : List UInt8 :=
  let high := 64 * e.tagClass.code + if e.constructed then 32 else 0
  if e.tag.toNat < 31 then [(high + e.tag.toNat).toUInt8]
  else (high + 31).toUInt8 :: base128 e.tag.toNat

/-- The bytes of `e`. -/
def encode (e : Element) : List UInt8 :=
  e.identifierBytes ++ lengthBytes e.contents.length ++ e.contents

end Element

/-- The elements at the start of `bs`, and what follows them: nothing, or bytes that begin with no
element. -/
def elements (bs : List UInt8) : List Element × List UInt8 :=
  match h : Element.read? bs with
  | none => ([], bs)
  | some (e, rest) =>
    have : rest.length < bs.length := Element.length_lt_of_read? h
    let (es, left) := elements rest
    (e :: es, left)
termination_by bs.length

end ReplicaControl.Certificate
