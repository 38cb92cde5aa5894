import ReplicaControl.Numeral
import ReplicaControl.Text

/-!
# JSON values

The tree of a JSON text (`Json`), the text that is written of it (`Json.render`) and the reader
(`Json.parse?`). Configuration documents and health files are such texts (specification, sections 6
and 10.1). Numbers stay a `Numeral`, and objects keep their members in the order of the text,
repeated names included: what they mean is up to whoever reads a value out of the tree.
-/

namespace ReplicaControl

/-- A JSON value. -/
inductive Json where
  | null
  | bool (b : Bool)
  | number (n : Numeral)
  | string (s : String)
  | array (elements : List Json)
  | object (members : List (String × Json))
  /-- A well-formed text that stands for no value: a string that holds half of a surrogate pair, or
  an object with such a name. It can be skipped but not read. -/
  | unreadable
deriving BEq, Inhabited

namespace Json

/-- The number `i`. -/
def ofInt (i : Int) : Json := .number (.ofInt i)

end Json

end ReplicaControl

/-!
## Writing JSON texts

The compact text of a value: no blanks, members in order, and only what must be escaped is
escaped: the quote, the backslash and the control characters.
-/

namespace ReplicaControl.Json

/-- The text of `c` inside a string. -/
def escape (c : Char) : List Char :=
  if c = '"' then ['\\', '"']
  else if c = '\\' then ['\\', '\\']
  else if c = '\x08' then ['\\', 'b']
  else if c = '\x0c' then ['\\', 'f']
  else if c = '\n' then ['\\', 'n']
  else if c = '\r' then ['\\', 'r']
  else if c = '\t' then ['\\', 't']
  else if c.toNat < 32 then
    ['\\', 'u', '0', '0', Text.lowerHexDigit (c.toNat / 16), Text.lowerHexDigit (c.toNat % 16)]
  else [c]

/-- The text of `s` between quotes, by `escape`. -/
def stringChars (s : String) : List Char := '"' :: (s.toList.flatMap escape ++ ['"'])

mutual

/-- The text of a value. `unreadable` values are never written; they have the text of `null`. -/
def chars : Json → List Char
  | .null => ['n', 'u', 'l', 'l']
  | .bool true => ['t', 'r', 'u', 'e']
  | .bool false => ['f', 'a', 'l', 's', 'e']
  | .number n => n.chars
  | .string s => stringChars s
  | .array [] => ['[', ']']
  | .array (j :: js) => '[' :: (chars j ++ tailChars js ++ [']'])
  | .object [] => ['{', '}']
  | .object ((name, j) :: ms) =>
    '{' :: (stringChars name ++ ':' :: (chars j ++ memberTailChars ms ++ ['}']))
  | .unreadable => ['n', 'u', 'l', 'l']

/-- The text of the elements of an array after the first, each behind a comma. -/
def tailChars : List Json → List Char
  | [] => []
  | j :: js => ',' :: (chars j ++ tailChars js)

/-- The text of the members of an object after the first, each behind a comma. -/
def memberTailChars : List (String × Json) → List Char
  | [] => []
  | (name, j) :: ms => ',' :: (stringChars name ++ ':' :: (chars j ++ memberTailChars ms))

end

/-- The compact text of `j`. -/
def render (j : Json) : String := String.ofList j.chars

/-!
## Reading JSON texts

Strict JSON: blanks are space, tab, line feed and carriage return, a value is followed by nothing
but blanks, and a string holds no raw control characters. Each reader takes a value from the head
of a text and returns what follows it.

- `Json.spanValue?`, with `Json.spanElements?` and `Json.spanMembers?`: the value at the head of a
  text. They share their fuel, as arrays and objects hold values.
- `Json.parse?`: the value that a whole text writes.
-/

/-- `cs` without the blanks at its head. -/
def skipBlanks : List Char → List Char
  | c :: cs => if c = ' ' ∨ c = '\t' ∨ c = '\n' ∨ c = '\r' then skipBlanks cs else c :: cs
  | [] => []

/-- The number of four hexadecimal digits, as in the escape `\u00e4`. -/
def hexUnit? (a b c d : Char) : Option Nat := do
  let high := (← Text.hexDigit? a) * 16 + (← Text.hexDigit? b)
  return (high * 16 + (← Text.hexDigit? c)) * 16 + (← Text.hexDigit? d)

/-- The character of an escape with one letter; `'/'` may be escaped, though `escape` never does it.
-/
def escaped? : Char → Option Char
  | '"' => some '"'
  | '\\' => some '\\'
  | '/' => some '/'
  | 'b' => some '\x08'
  | 'f' => some '\x0c'
  | 'n' => some '\n'
  | 'r' => some '\r'
  | 't' => some '\t'
  | _ => none

/-- The units of the string whose opening quote has been read, up to its closing quote: code points,
or halves of surrogate pairs where an escape `\u` names one. -/
def spanString? : List Char → Option (List Nat × List Char)
  | [] => none
  | '"' :: cs => some ([], cs)
  | '\\' :: 'u' :: a :: b :: c :: d :: cs => do
    let unit ← hexUnit? a b c d
    let (units, rest) ← spanString? cs
    return (unit :: units, rest)
  | '\\' :: c :: cs => do
    let c ← escaped? c
    let (units, rest) ← spanString? cs
    return (c.toNat :: units, rest)
  | c :: cs =>
    if c.toNat < 32 then none
    else do
      let (units, rest) ← spanString? cs
      return (c.toNat :: units, rest)

/-- Whether `u` is the first half of a surrogate pair. -/
def isHighSurrogate (u : Nat) : Bool := 0xD800 ≤ u && u < 0xDC00

/-- Whether `u` is the second half of a surrogate pair. -/
def isLowSurrogate (u : Nat) : Bool := 0xDC00 ≤ u && u < 0xE000

/-- The characters of the units that `spanString?` gives, if every surrogate is part of a pair. -/
def joinUnits? : List Nat → Option (List Char)
  | [] => some []
  | [u] => if isHighSurrogate u || isLowSurrogate u then none else some [Char.ofNat u]
  | u :: v :: us =>
    if isHighSurrogate u then
      if isLowSurrogate v then
        (joinUnits? us).map (Char.ofNat ((u - 0xD800) * 0x400 + (v - 0xDC00) + 0x10000) :: ·)
      else none
    else if isLowSurrogate u then none
    else (joinUnits? (v :: us)).map (Char.ofNat u :: ·)

/-- `joinUnits?` as a `String`. -/
def unitsText? (units : List Nat) : Option String := (joinUnits? units).map String.ofList

/-- The object of `members`; it is `unreadable` if the name of one is. -/
def ofMembers (members : List (Option String × Json)) : Json :=
  match members.mapM fun m => m.1.map (·, m.2) with
  | some members => .object members
  | none => .unreadable

/-- The value `j` if `cs` starts with `word`, and what follows the word. -/
def spanWord? (word : List Char) (j : Json) (cs : List Char) : Option (Json × List Char) :=
  if word.isPrefixOf cs then some (j, cs.drop word.length) else none

mutual

/-- The value at the head of a text. `fuel` bounds the depth of the recursion; the length of the
text is enough. -/
def spanValue? : Nat → List Char → Option (Json × List Char)
  | 0, _ => none
  | fuel + 1, cs =>
    match skipBlanks cs with
    | [] => none
    | '"' :: cs => do
      let (units, rest) ← spanString? cs
      return (((unitsText? units).map Json.string).getD .unreadable, rest)
    | '[' :: cs =>
      match skipBlanks cs with
      | ']' :: rest => some (.array [], rest)
      | cs => do
        let (elements, rest) ← spanElements? fuel cs
        return (.array elements, rest)
    | '{' :: cs =>
      match skipBlanks cs with
      | '}' :: rest => some (.object [], rest)
      | cs => do
        let (members, rest) ← spanMembers? fuel cs
        return (ofMembers members, rest)
    | 'n' :: cs => spanWord? ['u', 'l', 'l'] .null cs
    | 't' :: cs => spanWord? ['r', 'u', 'e'] (.bool true) cs
    | 'f' :: cs => spanWord? ['a', 'l', 's', 'e'] (.bool false) cs
    | cs => do
      let (n, rest) ← Numeral.span? cs
      return (.number n, rest)

/-- One or more elements with commas between them, up to the closing `]`. -/
def spanElements? : Nat → List Char → Option (List Json × List Char)
  | 0, _ => none
  | fuel + 1, cs => do
    let (j, cs) ← spanValue? fuel cs
    match skipBlanks cs with
    | ',' :: cs => do
      let (js, rest) ← spanElements? fuel cs
      return (j :: js, rest)
    | ']' :: rest => return ([j], rest)
    | _ => none

/-- One or more members with commas between them, up to the closing brace. A member whose name is no
text has `none` for it. -/
def spanMembers? : Nat → List Char → Option (List (Option String × Json) × List Char)
  | 0, _ => none
  | fuel + 1, cs =>
    match skipBlanks cs with
    | '"' :: cs => do
      let (units, cs) ← spanString? cs
      match skipBlanks cs with
      | ':' :: cs => do
        let (j, cs) ← spanValue? fuel cs
        match skipBlanks cs with
        | ',' :: cs => do
          let (members, rest) ← spanMembers? fuel cs
          return ((unitsText? units, j) :: members, rest)
        | '}' :: rest => return ([(unitsText? units, j)], rest)
        | _ => none
      | _ => none
    | _ => none

end

/-- The value that `cs` writes, with nothing but blanks behind it. -/
def parseChars? (cs : List Char) : Option Json :=
  match spanValue? (cs.length + 1) cs with
  | some (j, rest) => if (skipBlanks rest).isEmpty then some j else none
  | none => none

/-- The value that `text` writes. -/
def parse? (text : String) : Option Json := parseChars? text.toList

end ReplicaControl.Json
