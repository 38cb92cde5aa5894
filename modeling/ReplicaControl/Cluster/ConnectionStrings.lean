import ReplicaControl.Cluster.Credentials
import ReplicaControl.Topology.Build

/-!
# Names of objects

The objects of a cluster have names of at most 253 characters: labels with dots between them, made
of lower-case letters, digits and hyphens, and with no hyphen at their ends.

- `ObjectName.isValid`: whether a text is such a name.
- `ObjectName.normalize`: a name made from any text. The hyphens at the ends are dropped before the
  text is cut, so the cut may leave one.
- `ObjectName.ofConnection`: the default `<resource>-<db>-<user>` of section 10.3 of the
  specification, for the secret with the connection strings of a user.
-/

namespace ReplicaControl.ObjectName

def maxLength : Nat := 253

/-- Whether `c` is a lower-case letter or a digit of ASCII. -/
def isPlain (c : Char) : Bool := c.isLower || c.isDigit

/-- Whether `cs` is a label: plain characters and hyphens, with plain ones at its ends. -/
def isLabel (cs : List Char) : Bool :=
  cs.head?.any isPlain && cs.getLast?.any isPlain && cs.all fun c => isPlain c || c == '-'

/-- The characters between dots; without a dot `cs` is one label. -/
def labels : List Char → List (List Char)
  | [] => [[]]
  | c :: cs =>
    if c = '.' then [] :: labels cs
    else
      match labels cs with
      | [] => [[c]]
      | label :: others => (c :: label) :: others

/-- Whether `name` is a name that the cluster takes. -/
def isValid (name : String) : Bool :=
  name.length ≤ maxLength && (labels name.toList).all isLabel

/-- `c` in lower case, as far as plain characters come of it: the letters of ASCII, the sign for
kelvins, and the dotted capital I, which gives two characters. -/
def lowered (c : Char) : List Char :=
  if c = '\u212A' then ['k'] else if c = '\u0130' then ['i', '\u0307'] else [c.toLower]

/-- Characters with one `-` for each run of those that are not `isPlain`; `inRun` if a run has
begun. -/
def hyphenate (inRun : Bool) : List Char → List Char
  | [] => []
  | c :: cs =>
    if isPlain c then c :: hyphenate false cs
    else if inRun then hyphenate true cs
    else '-' :: hyphenate true cs

/-- `cs` without the hyphens at its ends. -/
def trimHyphens (cs : List Char) : List Char :=
  ((cs.dropWhile (· == '-')).reverse.dropWhile (· == '-')).reverse

/-- A name made from `name`, which stays as it is if it is one. -/
def normalize (name : String) : String :=
  if isValid name then name
  else
    let cs := trimHyphens (hyphenate false (name.toList.flatMap lowered))
    String.ofList (cs.take maxLength)

/-- The name of the secret that holds the connection strings of the user `username`. -/
def ofConnection (resource username database : String) : String :=
  normalize (resource ++ "-" ++ database ++ "-" ++ username)

end ReplicaControl.ObjectName

/-!
## Published connection strings

For every user the operator publishes a secret with the URIs to connect by and the credentials to
connect with (specification, section 10.3).

- `ConnectionUser.secret`: what is published for a user.
- `Cluster.ensureConnectionStrings`: publishes it, unless it has been already. The secret takes the
  place of whatever has its name, the secret of the password included.
-/

namespace ReplicaControl

/-- A user whose connection strings `ensureConnectionStrings` publishes. -/
structure ConnectionUser where
  username : String
  database : String
  /-- The secret that holds the password under `passwordKey`, in the namespace of the replica set.
  -/
  passwordSecret : String
  passwordKey : String := "password"
  /-- By default `ObjectName.ofConnection` of the replica set, the database and the user. -/
  secretName : Option String := none
  /-- By default the namespace of the replica set. -/
  secretNamespace : Option String := none
deriving DecidableEq

namespace ConnectionUser

variable (u : ConnectionUser) (t : Topology)

/-- The name of the published secret, `secretName` or else that of `ObjectName.ofConnection`. -/
def secretNameFor : String :=
  u.secretName.getD (ObjectName.ofConnection t.name u.username u.database)

/-- The namespace of the published secret, `secretNamespace` or else that of `t`. -/
def secretNamespaceFor : String := u.secretNamespace.getD t.namespaceName

/-- The published secret: both URIs, `username` and `password`. -/
def secret (password : String) : Secret :=
  ((((({ namespaceName := u.secretNamespaceFor t, name := u.secretNameFor t } : Secret).withEntry
    "connectionString.standard" (t.userUri u.username password u.database)).withEntry
    "connectionString.standardSrv" (t.userSrvUri u.username password u.database)).withEntry
    "username" u.username).withEntry
    "password" password)

end ConnectionUser

namespace Cluster

variable (c : Cluster)

/-- The password of `u`; users of `externalDatabase` have an empty one. -/
def passwordOf (t : Topology) (u : ConnectionUser) : Except SecretError String :=
  if u.database = externalDatabase then .ok ""
  else c.readKey t.namespaceName u.passwordSecret u.passwordKey

/-- Publishes the connection strings of `u`, unless they are published already. -/
def ensureConnectionStrings (t : Topology) (u : ConnectionUser) :
    Except SecretError Secret × Cluster :=
  match c.passwordOf t u with
  | .error e => (.error e, c)
  | .ok password =>
    let wanted := u.secret t password
    match c.secret? wanted.namespaceName wanted.name with
    | .error e => (.error (.client e), c)
    | .ok found => if found = some wanted then (.ok wanted, c) else c.writing wanted wanted

end Cluster

end ReplicaControl
