import ReplicaControl.Certificate.Subject
import ReplicaControl.Decimal
import ReplicaControl.Scram
import ReplicaControl.Text

/-!
# Mechanisms of authentication

The ways in which clients and agents prove who they are (`AuthMechanism` of the specification,
section 10.3), with the names that users write (`Mechanism.name`, `Mechanism.ofName`) and those that
documents record (`Mechanism.recordedName`).
-/

namespace ReplicaControl

/-- A mechanism that `AuthOptions` may ask for. -/
inductive Mechanism where
  | scramSha256
  | scramSha1
  | x509
deriving DecidableEq

/-- What mechanisms of one kind have in common: the two paths of section 4.2, with a password or
with a certificate. -/
inductive Mechanism.Family where
  | scram
  | certificate
deriving DecidableEq

/-- A name that stands for no `Mechanism`. -/
structure UnsupportedMechanism where
  name : String
deriving DecidableEq

/-- The text of the error, with the `name` that was not known. -/
def UnsupportedMechanism.message (e : UnsupportedMechanism) : String :=
  "unsupported authentication mechanism " ++ e.name

namespace Mechanism

/-- The name that users know. -/
def name : Mechanism → String
  | scramSha256 => "SCRAM-SHA-256"
  | scramSha1 => "SCRAM-SHA-1"
  | x509 => "X509"

/-- The name that documents record: `scramSha1` has its legacy name. -/
def recordedName : Mechanism → String
  | scramSha256 => "SCRAM-SHA-256"
  | scramSha1 => "MONGODB-CR"
  | x509 => "MONGODB-X509"

/-- The `ScramVariant` of the mechanism, if it has one. -/
def variant? : Mechanism → Option ScramVariant
  | scramSha256 => some .sha256
  | scramSha1 => some .sha1
  | x509 => none

def family : Mechanism → Family
  | scramSha256 | scramSha1 => .scram
  | x509 => .certificate

/-- Whether `m` is a variant of SCRAM. -/
def isScram (m : Mechanism) : Bool := m.variant?.isSome

/-- The mechanism of a `name` that users write; `recordedName` is accepted as well. -/
def ofName (name : String) : Except UnsupportedMechanism Mechanism :=
  match name with
  | "SCRAM" | "SCRAM-SHA-256" => .ok scramSha256
  | "SCRAM-SHA-1" | "MONGODB-CR" => .ok scramSha1
  | "X509" | "MONGODB-X509" => .ok x509
  | name => .error ⟨name⟩

end Mechanism

/-!
## Keyfiles and passwords of agents

Processes of a replica set know each other by a keyfile that all of them share (specification,
section 10.3). `Keyfile.ofBytes` and `AgentPassword.ofBytes` make keyfiles and the passwords of
agents from random bytes.
-/

namespace Keyfile

def minLength : Nat := 6

def maxLength : Nat := 1024

/-- Whether `contents` may be a keyfile: 6 to 1024 characters. -/
def isValid (contents : String) : Bool :=
  minLength ≤ contents.length && contents.length ≤ maxLength

/-- The number of random bytes in a keyfile, which make 500 characters. -/
def randomBytes : Nat := 375

/-- The keyfile of random bytes. -/
def ofBytes (bs : List UInt8) : String := Text.Base64.encode bs

end Keyfile

namespace AgentPassword

/-- The number of random bytes in a password, which make 20 characters. -/
def randomBytes : Nat := 15

/-- The password of random bytes, which needs no escaping in a URL. -/
def ofBytes (bs : List UInt8) : String := Text.Base64.urlSafe bs

end AgentPassword

/-!
## Options of authentication

What is asked of a deployment (`AuthOptions`): the mechanisms that clients may use, the one that the
agents use, and what the agents prove themselves with. `AuthOptions.validate` refuses options that
do not fit together, before anything is derived from them.
-/

/-- Why authentication was not enabled (section 10.1). -/
inductive AuthError where
  | noMechanisms
  | agentMechanismNotEnabled (mechanism : Mechanism)
  | missingAgentName
  | missingAgentPassword
  | invalidKeyfile (length : Nat)
  | missingAgentCertificate
  | certificate (e : Certificate.CertificateError)
  | invalidSubject (subject : String)
  | scram (e : ScramError)
deriving DecidableEq

/-- The text of the error. -/
def AuthError.message : AuthError → String
  | noMechanisms => "at least one authentication mechanism must be specified"
  | agentMechanismNotEnabled mechanism =>
    "agent mechanism " ++ mechanism.name ++ " is not among the enabled mechanisms"
  | missingAgentName => "agent name must not be empty"
  | missingAgentPassword => "agent password must not be empty"
  | invalidKeyfile length =>
    "keyfile contents must be between " ++ Decimal.str Keyfile.minLength ++ " and " ++
      Decimal.str Keyfile.maxLength ++ " characters, got " ++ Decimal.str length
  | missingAgentCertificate => "agent certificate is required for X.509 agent authentication"
  | certificate e => e.message
  | invalidSubject subject => "agent subject " ++ subject ++ " is not a valid subject"
  | scram e => e.message

/-- The user that the agents are unless said otherwise, `autoUser` of section 10.3. -/
def defaultAgentName : String := "mms-automation"

def defaultKeyfilePath : String := "/var/lib/mongodb-mms-automation/authentication/keyfile"

/-- Where the keyfile is kept on hosts that run Windows, `keyfileWindows` of section 10.3. -/
def windowsKeyfilePath : String := "%SystemDrive%\\MMSAutomation\\versions\\keyfile"

/-- Checks that `contents` may be a keyfile. -/
def Keyfile.check (contents : String) : Except AuthError Unit :=
  if Keyfile.isValid contents then .ok () else .error (.invalidKeyfile contents.length)

/-- What is asked of the authentication of a deployment, the `options` of `Enable`. -/
structure AuthOptions where
  /-- The name from which the salts of the users are made, by `ScramVariant.resourceSalt`. -/
  resource : String
  /-- The mechanisms that clients may use, in the order in which they are recorded. -/
  mechanisms : List Mechanism
  agentMechanism : Mechanism := mechanisms.head?.getD .scramSha256
  agentName : String := defaultAgentName
  agentPassword : String := ""
  keyfile : String := ""
  keyfilePath : String := defaultKeyfilePath
  /-- Whether users that are not listed are dropped: `authoritativeSet` of section 10.3. -/
  authoritative : Bool := true
  /-- The certificate of the agents, as text. -/
  agentCertificate : Option String := none

namespace AuthOptions

variable (o : AuthOptions)

/-- Checks that the options fit together. What SCRAM needs of the agents is checked only if
`agentMechanism` is a variant of it; the keyfile is checked always. -/
def validate : Except AuthError Unit :=
  if o.mechanisms.isEmpty then .error .noMechanisms
  else if !o.mechanisms.contains o.agentMechanism then
    .error (.agentMechanismNotEnabled o.agentMechanism)
  else if o.agentMechanism.isScram && o.agentName.isEmpty then .error .missingAgentName
  else if o.agentMechanism.isScram && o.agentPassword.isEmpty then .error .missingAgentPassword
  else Keyfile.check o.keyfile

/-- The `mechanisms`, each once, in their order. -/
def distinctMechanisms : List Mechanism := o.mechanisms.eraseDups

/-- The mechanisms of the family `f`, each once. -/
def mechanismsOf (f : Mechanism.Family) : List Mechanism :=
  o.distinctMechanisms.filter (·.family = f)

/-- The `family` of each mechanism, each once, in order of first mention. -/
def families : List Mechanism.Family := (o.mechanisms.map Mechanism.family).eraseDups

/-- The variants of SCRAM among the `distinctMechanisms`. -/
def variants : List ScramVariant := o.distinctMechanisms.filterMap Mechanism.variant?

end AuthOptions

end ReplicaControl
