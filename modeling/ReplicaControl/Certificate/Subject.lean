import ReplicaControl.Certificate.Name
import ReplicaControl.Decimal
import ReplicaControl.Text

/-!
# Blocks of bytes in text

Certificates are handed over as text (PEM): a line that begins a block and labels it, the bytes in
base64 on lines of any length, and a line that ends the block. What stands before the block or after
it is not looked at. `Block.ofText?` gives the first block.
-/

namespace ReplicaControl.Certificate

/-- A labelled block of bytes. -/
structure Block where
  label : String
  bytes : List UInt8
deriving DecidableEq

namespace Block

/-- The lines of a text, without their ends. -/
def lines : List Char → List (List Char)
  | [] => [[]]
  | c :: cs =>
    if c = '\n' then [] :: lines cs
    else
      match lines cs with
      | [] => [[c]]
      | line :: others => (c :: line) :: others

def opening : List Char := "-----BEGIN ".toList

def closing : List Char := "-----END ".toList

/-- Whether five dashes stand anywhere in a text. -/
def showsDashes : List Char → Bool
  | [] => false
  | c :: cs => "-----".toList.isPrefixOf (c :: cs) || showsDashes cs

/-- The label in a line that begins a block. It ends with the first dash, and five dashes close the
line. -/
def label? (line : List Char) : Option (List Char) :=
  let rest := line.drop opening.length
  if showsDashes rest then some (rest.takeWhile (· != '-')) else none

/-- The characters of the lines up to one that ends the block, without blanks at the right ends. -/
def body? : List (List Char) → Option (List Char)
  | [] => none
  | line :: others =>
    if closing.isPrefixOf line then some []
    else (body? others).map (Text.trimEnd line ++ ·)

/-- The first block among lines; a block that cannot be read is not skipped. -/
def ofLines? : List (List Char) → Option Block
  | [] => none
  | line :: others =>
    if opening.isPrefixOf line then
      match label? line, body? others with
      | some label, some body =>
        (Text.Base64.decodeGroups? body).map fun bytes => ⟨String.ofList label, bytes⟩
      | _, _ => none
    else ofLines? others

/-- The first block in the text `s`. -/
def ofText? (s : String) : Option Block := ofLines? (lines s.toList)

end Block

end ReplicaControl.Certificate

/-!
## Moments in certificates

The moments between which a certificate is valid: digits for year, month, day, hour, minute and
second, and how far the clock is from universal time. The short form has two digits for the year,
and either may leave the seconds out. `isWritten` reads them; whether they are past is not asked.
-/

namespace ReplicaControl.Certificate.Moment

/-- The number in the first `n` characters of `cs`, which are digits, and the characters after them.
-/
def read? (n : Nat) (cs : List Char) : Option (Nat × List Char) :=
  if cs.length < n then none
  else
    match Decimal.read? (cs.take n) with
    | some value => some (value, cs.drop n)
    | none => none

/-- The days of `month`; a month that does not exist has none. -/
def daysOf (year month : Nat) : Nat :=
  if month = 2 then
    if year % 4 = 0 ∧ (year % 100 ≠ 0 ∨ year % 400 = 0) then 29 else 28
  else if month = 4 ∨ month = 6 ∨ month = 9 ∨ month = 11 then 30
  else if 1 ≤ month ∧ month ≤ 12 then 31
  else 0

/-- The year that two digits stand for, from 1950 to 2049. -/
def fullYear (short : Nat) : Nat := if short < 50 then 2000 + short else 1900 + short

/-- Whether a text says how far a clock is from universal time: `Z`, or a sign, hours and minutes.
-/
def isOffset : List Char → Bool
  | ['Z'] => true
  | sign :: cs =>
    (sign == '+' || sign == '-') && cs.length == 4 &&
      match read? 2 cs with
      | some (hours, cs) => hours ≤ 23 && (read? 2 cs).any (·.1 ≤ 59)
      | none => false
  | [] => false

/-- Whether a day exists and a clock may show a time. -/
def isReal (year month day hour minute second : Nat) : Bool :=
  1 ≤ day && day ≤ daysOf year month && hour ≤ 23 && minute ≤ 59 && second ≤ 59

/-- Whether `cs` is a moment in the form whose year has `yearDigits` digits. -/
def isWritten (yearDigits : Nat) (cs : List Char) : Bool :=
  (do
    let (year, cs) ← read? yearDigits cs
    let (month, cs) ← read? 2 cs
    let (day, cs) ← read? 2 cs
    let (hour, cs) ← read? 2 cs
    let (minute, cs) ← read? 2 cs
    let (second, cs) ← if cs.length < 2 then some (0, cs) else read? 2 cs
    let year := if yearDigits = 2 then fullYear year else year
    return isReal year month day hour minute second && isOffset cs : Option Bool).getD false

end ReplicaControl.Certificate.Moment

/-!
## The subject of a certificate

Agents may prove who they are by a certificate, and are then known by its subject (specification,
section 4.2). Signatures are not checked here: the deployment does that. But a certificate is read
through its whole signed part, so one that is not well formed behind the subject has none.

- `subjectOfBytes?`: the subject of an encoded certificate.
- `subjectOfText`: the subject of the first block of a text, which is to be a certificate.
-/

namespace ReplicaControl.Certificate

/-- The results of `f` for the elements up to the first that has none. -/
def readWhile {α β : Type} (f : α → Option β) : List α → List β
  | [] => []
  | a :: as =>
    match f a with
    | none => []
    | some b => b :: readWhile f as

namespace Element

/-- The elements that `e` is made of. -/
def parts (e : Element) : List Element := (elements e.contents).1

/-- Whether `e` is a sequence of elements. -/
def isSequence (e : Element) : Bool := e.tag == 16

/-- Whether `e` identifies a type. -/
def isObjectId (e : Element) : Bool := e.tag == 6 && !e.constructed

/-- Whether `e` is a whole number from `0` to the greatest of 32 bits. -/
def isVersion (e : Element) : Bool :=
  e.tag == 2 && !e.constructed && e.contents.head?.any (· < 0x80) &&
    number e.contents < 4294967296

/-- Whether `e` is a string of bits: the first byte counts the bits of the last one that are not
used, and these are zero. -/
def isBits (e : Element) : Bool :=
  e.tag == 3 && !e.constructed &&
    match e.contents with
    | [] => false
    | unused :: bs =>
      match bs.getLast? with
      | none => unused == 0
      | some last => unused ≤ 8 && last.toNat % Nat.pow 2 unused.toNat == 0

/-- Whether `e` says how something was signed. -/
def isAlgorithm (e : Element) : Bool := e.isSequence && e.parts.head?.any isObjectId

/-- Whether `e` is a moment, in the short form or in the long one. -/
def isMoment (e : Element) : Bool :=
  !e.constructed &&
    ((e.tag == 23 && Moment.isWritten 2 (e.contents.map Char.ofUInt8)) ||
      (e.tag == 24 && Moment.isWritten 4 (e.contents.map Char.ofUInt8)))

/-- Whether `e` says from when to when a certificate is valid. -/
def isValidity (e : Element) : Bool :=
  e.isSequence &&
    match e.parts with
    | start :: finish :: _ => start.isMoment && finish.isMoment
    | _ => false

/-- Whether `e` holds a public key. -/
def isKey (e : Element) : Bool :=
  e.isSequence &&
    match e.parts with
    | algorithm :: bits :: _ => algorithm.isAlgorithm && bits.isBits
    | _ => false

/-- Whether `e` is an extension: its type, whether it is critical, and bytes. -/
def isExtension (e : Element) : Bool :=
  e.isSequence &&
    match e.parts with
    | type :: value :: others =>
      type.isObjectId && (value.tag == 4 || (value.tag == 1 && others.head?.any (·.tag == 4)))
    | _ => false

/-- Whether `e` holds a sequence of extensions and nothing else. -/
def holdsExtensions (e : Element) : Bool :=
  e.parts.head?.any fun s =>
    s.isSequence && (elements s.contents).2.isEmpty && s.parts.all isExtension

/-- Whether `e` is the optional element number `n`. -/
def isOptional (n : UInt32) (e : Element) : Bool := e.tagClass = .contextSpecific && e.tag == n

/-- The attribute that `e` holds. -/
def attribute? (e : Element) : Option Attribute :=
  match e.isSequence, e.parts with
  | true, type :: value :: _ =>
    if type.isObjectId then some (.ofElement (.ofBytes type.contents) value) else none
  | _, _ => none

/-- The part of a name that `e` holds. -/
def namePart? (e : Element) : Option NamePart :=
  if e.tag = 17 then
    match readWhile attribute? e.parts with
    | [] => none
    | first :: others => some ⟨first, others⟩
  else none

/-- The name that `e` holds. -/
def name? (e : Element) : Option Name :=
  if e.isSequence then some ⟨readWhile namePart? e.parts⟩ else none

end Element

/-- `es` without the optional element number `n` at its start. -/
def dropOptional (n : UInt32) (es : List Element) : List Element :=
  if es.head?.any (·.isOptional n) then es.drop 1 else es

/-- Whether nothing follows the key of a certificate but what may: two identifiers, and extensions.
-/
def isEnding (es : List Element) (left : List UInt8) : Bool :=
  match dropOptional 2 (dropOptional 1 es) with
  | [] => left.isEmpty
  | e :: _ => e.tag == 3 && e.holdsExtensions

/-- What stands behind the version in the signed part of a certificate, if the version is well
written; the first version need not be. -/
def afterVersion? (es : List Element) : Option (List Element) :=
  match es with
  | e :: others =>
    if e.isOptional 0 then if e.parts.head?.any (·.isVersion) then some others else none
    else some es
  | [] => none

/-- The subject in the signed part `e` of a certificate. -/
def signedSubject? (e : Element) : Option Name :=
  let (es, left) := elements e.contents
  match e.isSequence, afterVersion? es with
  | true, some (serial :: algorithm :: issuer :: validity :: subject :: key :: others) =>
    if serial.tag == 2 && algorithm.isAlgorithm && issuer.isSequence && validity.isValidity &&
        key.isKey && isEnding others left then
      subject.name?
    else none
  | _, _ => none

/-- The subject of a certificate; bytes after it are not looked at. -/
def subjectOfBytes? (bs : List UInt8) : Option Name :=
  match Element.read? bs with
  | some (e, _) =>
    match e.isSequence, e.parts with
    | true, signed :: algorithm :: signature :: _ =>
      if algorithm.isAlgorithm && signature.isBits then signedSubject? signed else none
    | _, _ => none
  | none => none

/-- Why a text gives no subject. -/
inductive CertificateError where
  | unreadable
  | unexpectedBlock (label : String)
deriving DecidableEq

/-- The text of an error. -/
def CertificateError.message : CertificateError → String
  | unreadable => "could not parse certificate"
  | unexpectedBlock label => "could not parse certificate: unexpected PEM block " ++ label

/-- The subject of the certificate in the text `s`. -/
def subjectOfText (s : String) : Except CertificateError Name :=
  match Block.ofText? s with
  | none => .error .unreadable
  | some block =>
    if block.label = "CERTIFICATE" then
      match subjectOfBytes? block.bytes with
      | some name => .ok name
      | none => .error .unreadable
    else .error (.unexpectedBlock block.label)

end ReplicaControl.Certificate
