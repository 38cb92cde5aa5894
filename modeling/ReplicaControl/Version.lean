import ReplicaControl.Decimal

/-!
# Semantic versions

Versions `major.minor.patch` with an optional pre-release after `-` and build metadata after `+`.
Numbers have no leading zeros and fit 64 bits. A pre-release and build metadata are identifiers
with dots between them; a numeric identifier of a pre-release has no leading zero.

- `Version.parse?`: the version of a text, of which the cache heuristic asks `Version.before`
  (specification, section 4.1).
- `Version.majorMinor`: the default of the feature compatibility version (section 10.2), for a text
  that need not be a version.
-/

namespace ReplicaControl

/-- The numbers of a version. -/
structure Version where
  major : UInt64
  minor : UInt64
  patch : UInt64
deriving DecidableEq

namespace Version

/-- Whether `v` precedes `w`, pre-releases apart. -/
def before (v w : Version) : Bool :=
  v.major < w.major || (v.major == w.major &&
    (v.minor < w.minor || (v.minor == w.minor && v.patch < w.patch)))

/-- The number at the head of a text, without leading zeros, if it fits 64 bits. -/
def spanNumber? (cs : List Char) : Option (UInt64 × List Char) :=
  match Decimal.span cs with
  | ([], _) => none
  | (0 :: _ :: _, _) => none
  | (ds, rest) =>
    if Decimal.value ds < Nat.pow 2 64 then some ((Decimal.value ds).toUInt64, rest) else none

/-- What follows a `.` at the head of a text. -/
def afterDot? : List Char → Option (List Char)
  | '.' :: cs => some cs
  | _ => none

/-- Letters, digits and `-` of ASCII. -/
def isIdentifierChar (c : Char) : Bool := c.isAlphanum || c == '-'

/-- The pieces of a text between dots; a text without dots is one piece. -/
def splitDots : List Char → List (List Char)
  | [] => [[]]
  | c :: cs =>
    if c == '.' then [] :: splitDots cs
    else
      match splitDots cs with
      | [] => [[c]]
      | piece :: pieces => (c :: piece) :: pieces

/-- Whether `cs` is an identifier of build metadata. -/
def isBuildIdentifier (cs : List Char) : Bool := !cs.isEmpty && cs.all isIdentifierChar

/-- Whether `cs` is an identifier of a pre-release: `rc1`, `0`, but not `01`. -/
def isReleaseIdentifier (cs : List Char) : Bool :=
  isBuildIdentifier cs && !(cs.all Char.isDigit && cs.head? == some '0' && 1 < cs.length)

/-- Whether a text is empty, or `+` and build metadata. -/
def isBuildPart : List Char → Bool
  | [] => true
  | '+' :: cs => (splitDots cs).all isBuildIdentifier
  | _ => false

/-- Whether a text is what may follow the three numbers: `-rc.1+build`. -/
def isSuffix : List Char → Bool
  | '-' :: cs =>
    (splitDots (cs.takeWhile (· != '+'))).all isReleaseIdentifier &&
      isBuildPart (cs.dropWhile (· != '+'))
  | cs => isBuildPart cs

/-- The version that `cs` writes. -/
def parseChars? (cs : List Char) : Option Version := do
  let (major, cs) ← spanNumber? cs
  let (minor, cs) ← spanNumber? (← afterDot? cs)
  let (patch, cs) ← spanNumber? (← afterDot? cs)
  if isSuffix cs then some ⟨major, minor, patch⟩ else none

/-- The version that `s` writes. -/
def parse? (s : String) : Option Version := parseChars? s.toList

/-- The part of `cs` before its second dot, or all of it. -/
def beforeSecondDot (cs : List Char) : List Char :=
  let rest := cs.dropWhile (· != '.')
  cs.takeWhile (· != '.') ++ rest.take 1 ++ (rest.drop 1).takeWhile (· != '.')

/-- `<major>.<minor>` of the version `s`; of a text that is no version, what stands before its
second dot. -/
def majorMinor (s : String) : String :=
  match parse? s with
  | some v => Decimal.str v.major.toNat ++ "." ++ Decimal.str v.minor.toNat
  | none => String.ofList (beforeSecondDot s.toList)

end Version

end ReplicaControl
