import ReplicaControl.Certificate.Element
import ReplicaControl.Decimal
import ReplicaControl.Text
import ReplicaControl.Unicode.Classes

/-!
# Names in certificates

The subject of a certificate is a name: a sequence of parts, each made of attributes. It is written
as one line of text with the last part first, parts being set apart by commas and the attributes of
a part by plus signs. That line is the name of the agents (specification, sections 4.2 and 10.3).

- `Attribute.ofElement`: an attribute as it will be written, under a label or under an `ObjectId`.
- `Name.text`: the line of text.
- `isCompleteSubject`: whether such a line shows the attributes that an agent needs. It looks at the
  text and not at the attributes, so a value may show what no attribute has.
-/

namespace ReplicaControl.Certificate

/-! ## Types of attributes -/

/-- What identifies a type of attribute: a path in a tree of numbers. -/
structure ObjectId where
  arcs : List Nat
deriving DecidableEq

namespace ObjectId

/-- Numbers written in digits to the base 128, all but the last of a number having the high bit set;
`begun` if some digits of a number have been read. -/
def readArcs (begun : Option Nat) : List UInt8 → List Nat
  | [] => begun.toList
  | b :: bs =>
    let arc := 128 * begun.getD 0 + b.toNat % 128
    if b < 0x80 then arc :: readArcs none bs else readArcs (some arc) bs

/-- The path that bytes write: the first byte stands for two numbers, unless it is a zero that
stands alone. -/
def ofBytes : List UInt8 → ObjectId
  | [] => ⟨[]⟩
  | [0] => ⟨[0]⟩
  | b :: bs => ⟨b.toNat / 40 :: b.toNat % 40 :: readArcs none bs⟩

/-- The path with dots between its numbers: `2.5.4.3`. -/
def text (id : ObjectId) : String := String.intercalate "." (id.arcs.map Decimal.str)

end ObjectId

/-- The types of attributes that have a label. -/
inductive AttributeType where
  | commonName
  | serialNumber
  | country
  | locality
  | state
  | street
  | organization
  | organizationalUnit
  | postalCode
deriving DecidableEq

namespace AttributeType

/-- The label of a type. -/
def label : AttributeType → String
  | commonName => "CN"
  | serialNumber => "SERIALNUMBER"
  | country => "C"
  | locality => "L"
  | state => "ST"
  | street => "STREET"
  | organization => "O"
  | organizationalUnit => "OU"
  | postalCode => "POSTALCODE"

/-- The type that `id` identifies, if it has a label. -/
def ofObjectId? (id : ObjectId) : Option AttributeType :=
  match id.arcs with
  | [2, 5, 4, 3] => some commonName
  | [2, 5, 4, 5] => some serialNumber
  | [2, 5, 4, 6] => some country
  | [2, 5, 4, 7] => some locality
  | [2, 5, 4, 8] => some state
  | [2, 5, 4, 9] => some street
  | [2, 5, 4, 10] => some organization
  | [2, 5, 4, 11] => some organizationalUnit
  | [2, 5, 4, 17] => some postalCode
  | _ => none

/-- The types that the subject of an agent is to have, `CN`, `C` and `OU` (section 10.3). -/
def required : List AttributeType := [commonName, country, organizationalUnit]

end AttributeType

/-! ## Attributes -/

/-- The text of `e`, if its tag number is one of text and its contents are UTF-8. -/
def Element.text? (e : Element) : Option String :=
  if e.tag = 12 ∨ e.tag = 18 ∨ e.tag = 19 ∨ e.tag = 22 then Text.ofUtf8? e.contents else none

/-- An attribute of a name: a text under a label, or any element under a path. -/
inductive Attribute where
  | labelled (type : AttributeType) (value : String)
  | encoded (type : ObjectId) (value : Element)
deriving DecidableEq

/-- Whether `c` is marked wherever it stands in a value. -/
def isSpecial (c : Char) : Bool :=
  c == ',' || c == '+' || c == '"' || c == '\\' || c == '<' || c == '>' || c == ';'

/-- The characters of a value with a `\` before those that mean something: `isSpecial` ones, a space
at either end, and `#` at the start. -/
def escapeFrom (atStart : Bool) : List Char → List Char
  | [] => []
  | c :: cs =>
    if isSpecial c || (c == ' ' && (atStart || cs.isEmpty)) || (c == '#' && atStart) then
      '\\' :: c :: escapeFrom false cs
    else c :: escapeFrom false cs

/-- `value` as it is written behind a label. -/
def escapeValue (value : String) : String := String.ofList (escapeFrom true value.toList)

namespace Attribute

/-- An attribute as it will be written: under its label if there is one and the value is text. -/
def ofElement (type : ObjectId) (value : Element) : Attribute :=
  match AttributeType.ofObjectId? type, value.text? with
  | some known, some text => .labelled known text
  | _, _ => .encoded type value

/-- `CN=value`, or `oid=#` and the hexadecimal digits of the encoded element. -/
def text : Attribute → String
  | labelled type value => type.label ++ "=" ++ escapeValue value
  | encoded type value => type.text ++ "=#" ++ Text.hex value.encode

end Attribute

/-! ## Names -/

/-- A part of a name, which has at least one attribute. -/
structure NamePart where
  first : Attribute
  others : List Attribute := []
deriving DecidableEq

namespace NamePart

/-- The attributes of `p`, in order. -/
def attributes (p : NamePart) : List Attribute := p.first :: p.others

/-- The text of `p`, with `+` between attributes. -/
def text (p : NamePart) : String := String.intercalate "+" (p.attributes.map Attribute.text)

end NamePart

/-- A name: its parts in the order of the certificate. -/
structure Name where
  parts : List NamePart
deriving DecidableEq

/-- The text of `n`, the last part first. -/
def Name.text (n : Name) : String :=
  String.intercalate "," (n.parts.reverse.map NamePart.text)

/-! ## Subjects of agents -/

/-- Whether a value may begin with `c`: letters and numbers of any script, and `_`. -/
def isWordChar (c : Char) : Bool := Unicode.isAlphanumeric c || c == '_'

/-- Whether `cs` begins with `label`, an equals sign and an `isWordChar`. -/
def beginsWithWord (label : List Char) (cs : List Char) : Bool :=
  (label ++ ['=']).isPrefixOf cs && (cs.drop (label.length + 1)).head?.any isWordChar

/-- Whether `beginsWithWord` holds anywhere in a text. -/
def showsWord (label : List Char) : List Char → Bool
  | [] => false
  | c :: cs => beginsWithWord label (c :: cs) || showsWord label cs

/-- Whether the text of a subject shows each attribute of `AttributeType.required`. -/
def isCompleteSubject (subject : String) : Bool :=
  AttributeType.required.all fun type => showsWord type.label.toList subject.toList

end ReplicaControl.Certificate
