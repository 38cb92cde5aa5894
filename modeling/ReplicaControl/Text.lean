/-!
# Bytes in text

Texts that carry bytes or are cut at their ends: passwords, keys and certificates (specification,
sections 4.2 and 10.3), quantities and annotations (sections 10.2 and 4.5).

- **Hexadecimal** (`hex`, `ofHex?`): `ofHex?_hex` reads the bytes back; `length_hex` and
  `exists_of_mem_hex` say how many digits there are, and which.
- **UTF-8** (`utf8`, `ofUtf8?`): `ofUtf8?_utf8` reads the text back.
- **Blanks** (`isBlank`, `trim`, `trimEnd`): the characters of the Unicode property `White_Space`.
- **Base64** (`Base64.encode`, `Base64.decode?`): the standard alphabet with padding.
-/

namespace ReplicaControl.Text

/-- The hexadecimal digit of `n < 16`, `'a'` to `'f'` from ten on. -/
def lowerHexDigit (n : Nat) : Char := if n < 10 then Char.ofNat (48 + n) else Char.ofNat (87 + n)

/-- The hexadecimal digit of `n < 16`, `'A'` to `'F'` from ten on. -/
def upperHexDigit (n : Nat) : Char := if n < 10 then Char.ofNat (48 + n) else Char.ofNat (55 + n)

/-- `0x0f` is written `0f`: the high half of `b` comes first. -/
def lowerHexByte (b : UInt8) : List Char :=
  [lowerHexDigit (b.toNat / 16), lowerHexDigit (b.toNat % 16)]

def upperHexByte (b : UInt8) : List Char :=
  [upperHexDigit (b.toNat / 16), upperHexDigit (b.toNat % 16)]

/-- The bytes `bs` by `lowerHexByte`, one after the other. -/
def hex (bs : List UInt8) : String := String.ofList (bs.flatMap lowerHexByte)

/-- The number of a hexadecimal digit, in lower or upper case; `none` for any other character. -/
def hexDigit? (c : Char) : Option Nat :=
  if '0' ≤ c ∧ c ≤ '9' then some (c.toNat - 48)
  else if 'a' ≤ c ∧ c ≤ 'f' then some (c.toNat - 87)
  else if 'A' ≤ c ∧ c ≤ 'F' then some (c.toNat - 55)
  else none

/-- The bytes that `hex` writes, two digits a byte; `none` if a digit is left over. -/
def ofHex? : List Char → Option (List UInt8)
  | [] => some []
  | a :: b :: cs => do
    return (16 * (← hexDigit? a) + (← hexDigit? b)).toUInt8 :: (← ofHex? cs)
  | _ => none

theorem hexDigit?_lowerHexDigit {n : Nat} (h : n < 16) : hexDigit? (lowerHexDigit n) = some n := by
  revert n
  decide

theorem hexDigit?_upperHexDigit {n : Nat} (h : n < 16) : hexDigit? (upperHexDigit n) = some n := by
  revert n
  decide

/-- `ofHex?` undoes `hex`. -/
theorem ofHex?_hex (bs : List UInt8) : ofHex? (hex bs).toList = some bs := by
  rw [hex, String.toList_ofList]
  induction bs with
  | nil => rfl
  | cons b bs ih =>
    have hhigh : b.toNat / 16 < 16 := Nat.div_lt_of_lt_mul b.toNat_lt
    have hbyte : (16 * (b.toNat / 16) + b.toNat % 16).toUInt8 = b := by
      rw [Nat.div_add_mod, Nat.toUInt8_eq, UInt8.ofNat_toNat]
    rw [List.flatMap_cons, lowerHexByte, List.cons_append, List.singleton_append, ofHex?,
      hexDigit?_lowerHexDigit hhigh, hexDigit?_lowerHexDigit (Nat.mod_lt _ (by decide)), ih]
    simp only [hbyte, bind, pure, Option.bind_some]

theorem length_hex (bs : List UInt8) : (hex bs).length = 2 * bs.length := by
  induction bs with
  | nil => rfl
  | cons b bs ih =>
    simp only [hex, String.length_ofList, List.flatMap_cons, List.length_append] at ih ⊢
    simp only [ih, lowerHexByte, List.length_cons, List.length_nil]
    omega

/-- All characters of `hex bs` are digits of `lowerHexDigit`. -/
theorem exists_of_mem_hex {c : Char} {bs : List UInt8} (h : c ∈ (hex bs).toList) :
    ∃ n < 16, c = lowerHexDigit n := by
  rw [hex, String.toList_ofList, List.mem_flatMap] at h
  obtain ⟨b, -, h⟩ := h
  have hb := b.toNat_lt
  simp only [lowerHexByte, List.mem_cons, List.not_mem_nil, or_false] at h
  rcases h with rfl | rfl
  · exact ⟨b.toNat / 16, by omega, rfl⟩
  · exact ⟨b.toNat % 16, by omega, rfl⟩

theorem isSome_hexDigit?_of_mem_hex {c : Char} {bs : List UInt8} (h : c ∈ (hex bs).toList) :
    (hexDigit? c).isSome = true := by
  obtain ⟨n, hn, rfl⟩ := exists_of_mem_hex h
  rw [hexDigit?_lowerHexDigit hn]
  rfl

/-- The bytes of `s` in UTF-8. -/
def utf8 (s : String) : List UInt8 := s.toUTF8.data.toList

/-- The text of `bs`, or `none` if they are not UTF-8. -/
def ofUtf8? (bs : List UInt8) : Option String := String.fromUTF8? ⟨bs.toArray⟩

@[simp] theorem ofUtf8?_utf8 (s : String) : ofUtf8? (utf8 s) = some s := by
  simpa [ofUtf8?, utf8, String.fromUTF8?] using ⟨s.isValidUTF8, rfl⟩

/-! ## Blank characters -/

/-- Whether `c` has the Unicode property `White_Space`. -/
def isBlank (c : Char) : Bool :=
  let n := c.toNat
  (9 ≤ n && n ≤ 13) || n == 0x20 || n == 0x85 || n == 0xA0 || n == 0x1680 ||
    (0x2000 ≤ n && n ≤ 0x200A) || n == 0x2028 || n == 0x2029 || n == 0x202F || n == 0x205F ||
    n == 0x3000

/-- `cs` without the characters of `p` at its end. -/
def dropEndWhile (p : Char → Bool) (cs : List Char) : List Char :=
  (cs.reverse.dropWhile p).reverse

/-- `cs` without the `isBlank` characters at its end. -/
def trimEnd (cs : List Char) : List Char := dropEndWhile isBlank cs

/-- `cs` without the `isBlank` characters at either end. -/
def trim (cs : List Char) : List Char := dropEndWhile isBlank (cs.dropWhile isBlank)

end ReplicaControl.Text

/-!
## Base64

Reading is strict: the padding is needed, and the bits that it leaves unused are zero. So
`Base64.decode?` accepts what `Base64.encode` writes and no other text, while
`Base64.decodeGroups?` also takes padding inside.
-/

namespace ReplicaControl.Text.Base64

/-- The character of the alphabet `A`..`Z`, `a`..`z`, `0`..`9`, `+`, `/` for a number below 64. -/
def digit (n : Nat) : Char :=
  if n < 26 then Char.ofNat (65 + n)
  else if n < 52 then Char.ofNat (97 + (n - 26))
  else if n < 62 then Char.ofNat (48 + (n - 52))
  else if n = 62 then '+'
  else '/'

/-- The place of `c` in the alphabet, the inverse of `digit`; the padding `'='` has none. -/
def value? (c : Char) : Option Nat :=
  let n := c.toNat
  if 65 ≤ n ∧ n < 91 then some (n - 65)
  else if 97 ≤ n ∧ n < 123 then some (n - 97 + 26)
  else if 48 ≤ n ∧ n < 58 then some (n - 48 + 52)
  else if c = '+' then some 62
  else if c = '/' then some 63
  else none

theorem value?_digit {n : Nat} (h : n < 64) : value? (digit n) = some n := by
  revert n
  decide

/-- The characters of bytes, three bytes to four characters, the last group padded with `'='`. -/
def chars : List UInt8 → List Char
  | [] => []
  | [a] =>
    [digit (a.toNat / 4), digit (a.toNat % 4 * 16), '=', '=']
  | [a, b] =>
    [digit (a.toNat / 4), digit (a.toNat % 4 * 16 + b.toNat / 16), digit (b.toNat % 16 * 4), '=']
  | a :: b :: c :: rest =>
    digit (a.toNat / 4) :: digit (a.toNat % 4 * 16 + b.toNat / 16) ::
      digit (b.toNat % 16 * 4 + c.toNat / 64) :: digit (c.toNat % 64) :: chars rest

/-- `chars bs` as a `String`. -/
def encode (bs : List UInt8) : String := String.ofList (chars bs)

/-- The three bytes of four characters of the alphabet. -/
def group? (a b c d : Char) : Option (List UInt8) := do
  let a ← value? a
  let b ← value? b
  let c ← value? c
  let d ← value? d
  return [(a * 4 + b / 16).toUInt8, (b % 16 * 16 + c / 4).toUInt8, (c % 4 * 64 + d).toUInt8]

/-- The bytes of the last four characters: one, two or three, as `c` and `d` are `'='` or not. The
bits that the padding leaves over must be zero. -/
def lastGroup? (a b c d : Char) : Option (List UInt8) :=
  if d = '=' then
    if c = '=' then do
      let a ← value? a
      let b ← value? b
      if b % 16 = 0 then return [(a * 4 + b / 16).toUInt8] else none
    else do
      let a ← value? a
      let b ← value? b
      let c ← value? c
      if c % 4 = 0 then return [(a * 4 + b / 16).toUInt8, (b % 16 * 16 + c / 4).toUInt8]
      else none
  else group? a b c d

/-- The bytes of `chars`: every group but the last is a `group?`. -/
def decodeChars? : List Char → Option (List UInt8)
  | [] => some []
  | [a, b, c, d] => lastGroup? a b c d
  | a :: b :: c :: d :: rest => do
    return (← group? a b c d) ++ (← decodeChars? rest)
  | _ => none

/-- The bytes of groups each of which may be a `lastGroup?`, as in a text that joins several. -/
def decodeGroups? : List Char → Option (List UInt8)
  | [] => some []
  | a :: b :: c :: d :: rest => do
    return (← lastGroup? a b c d) ++ (← decodeGroups? rest)
  | _ => none

/-- The bytes of the text `s`; `none` if it is not what `encode` writes. -/
def decode? (s : String) : Option (List UInt8) := decodeChars? s.toList

/-- `encode bs` with `'-'` and `'_'` for `'+'` and `'/'` and without padding, as keyfiles use it. -/
def urlSafe (bs : List UInt8) : String :=
  String.ofList (((chars bs).filter (· != '=')).map fun c =>
    if c = '+' then '-' else if c = '/' then '_' else c)

end ReplicaControl.Text.Base64
