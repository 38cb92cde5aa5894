import ReplicaControl.Cluster
import ReplicaControl.Scram

/-!
# Credentials in secrets

The credentials of a user for both variants of SCRAM, kept together in one secret (specification,
section 10.3). The numbers of iterations are not kept: they are those of the variants.

- `CredentialSet.compute`: the credentials of a user.
- `CredentialSet.toSecret`, `CredentialSet.ofSecret`: writing them to a secret and reading them.
-/

namespace ReplicaControl

/-- What a secret of credentials lacks. -/
inductive CredentialFault where
  | missingKey (key : String)
  | unreadableSalt
deriving DecidableEq

/-- The text of a fault. -/
def CredentialFault.message : CredentialFault → String
  | missingKey key => "missing key " ++ key
  | unreadableSalt => "salt is not base64"

namespace ScramVariant

/-- The key of a salt in a secret. -/
def saltKey : ScramVariant → String
  | sha1 => "sha1-salt"
  | sha256 => "sha256-salt"

/-- The key of `ScramCredentials.serverKey` in a secret. -/
def serverKeyKey : ScramVariant → String
  | sha1 => "sha-1-server-key"
  | sha256 => "sha-256-server-key"

/-- The key of `ScramCredentials.storedKey` in a secret. -/
def storedKeyKey : ScramVariant → String
  | sha1 => "sha-1-stored-key"
  | sha256 => "sha-256-stored-key"

/-- A salt for new credentials, which has the length that `ScramVariant.credentials` asks for. -/
abbrev Salt (v : ScramVariant) : Type := { salt : List UInt8 // salt.length = v.saltSize }

end ScramVariant

/-- The credentials of a user for both variants. -/
structure CredentialSet where
  sha1 : ScramCredentials
  sha256 : ScramCredentials
deriving DecidableEq

namespace CredentialSet

/-- The credentials for the variant given. -/
def forVariant (s : CredentialSet) : ScramVariant → ScramCredentials
  | .sha1 => s.sha1
  | .sha256 => s.sha256

/-- The credentials of a user with the salts `salt`; those for SHA-1 are derived first. -/
def compute (username password : String) (salt : ScramVariant → List UInt8) :
    Except ScramError CredentialSet :=
  match ScramVariant.sha1.credentials username password (salt .sha1) with
  | .error e => .error e
  | .ok sha1 =>
    match ScramVariant.sha256.credentials username password (salt .sha256) with
    | .error e => .error e
    | .ok sha256 => .ok ⟨sha1, sha256⟩

/-- `secret` with the credentials for `v` under their three keys. -/
def addTo (s : CredentialSet) (v : ScramVariant) (secret : Secret) : Secret :=
  ((secret.withEntry v.saltKey (s.forVariant v).salt).withEntry
    v.storedKeyKey (s.forVariant v).storedKey).withEntry
      v.serverKeyKey (s.forVariant v).serverKey

/-- The credentials as the secret `name`. -/
def toSecret (s : CredentialSet) (namespaceName name : String) : Secret :=
  s.addTo .sha256 (s.addTo .sha1 { namespaceName, name })

/-- The text under `key`, which `secret` is to have. -/
def entry (secret : Secret) (key : String) : Except CredentialFault String :=
  match secret.get? key with
  | some text => .ok text
  | none => .error (.missingKey key)

/-- The credentials for `v` in `secret`. The first key that is missing is reported: salt, server
key, stored key. -/
def variantOfSecret (secret : Secret) (v : ScramVariant) :
    Except CredentialFault ScramCredentials := do
  let salt ← entry secret v.saltKey
  let serverKey ← entry secret v.serverKeyKey
  let storedKey ← entry secret v.storedKeyKey
  return { iterationCount := v.iterations, salt, serverKey, storedKey }

/-- The credentials in `secret`, those for SHA-1 being read first. -/
def ofSecret (secret : Secret) : Except CredentialFault CredentialSet := do
  let sha1 ← variantOfSecret secret .sha1
  let sha256 ← variantOfSecret secret .sha256
  return ⟨sha1, sha256⟩

/-- The bytes of the salt for `v`. -/
def saltBytes (s : CredentialSet) (v : ScramVariant) : Except CredentialFault (List UInt8) :=
  match Text.Base64.decode? (s.forVariant v).salt with
  | some salt => .ok salt
  | none => .error .unreadableSalt

/-- The bytes of both salts, that for SHA-1 being read first. -/
def saltsBytes (s : CredentialSet) : Except CredentialFault (ScramVariant → List UInt8) := do
  let sha1 ← s.saltBytes .sha1
  let sha256 ← s.saltBytes .sha256
  return fun
    | .sha1 => sha1
    | .sha256 => sha256

end CredentialSet

/-!
## Texts under keys of secrets

Single texts that are read from a secret, or stored there once and kept from then on: passwords and
keyfiles (specification, section 6). An operation that may write gives its outcome and the cluster
after it.

- `Cluster.readKey`: the text under a key.
- `Cluster.ensureKey`: the text under a key, stored first if there is none.
-/

/-- Why a secret was not read or not written. -/
inductive SecretError where
  | client (e : ClientError)
  | missingKey (secret key : String)
  | malformed (secret : String) (fault : CredentialFault)
  | scram (e : ScramError)
deriving DecidableEq

/-- The text of an error. -/
def SecretError.message : SecretError → String
  | client e => e.message
  | missingKey secret key => "secret " ++ secret ++ " has no key " ++ key
  | malformed secret fault =>
    "credentials secret " ++ secret ++ " is malformed: " ++ fault.message
  | scram e => e.message

namespace Cluster

variable (c : Cluster)

/-- The text under `key` of the secret `name`; both have to exist. -/
def readKey (namespaceName name key : String) : Except SecretError String :=
  match c.getSecret namespaceName name with
  | .error e => .error (.client e)
  | .ok secret =>
    match secret.get? key with
    | some text => .ok text
    | none => .error (.missingKey name key)

/-- Writes `secret`, the outcome being `a`. -/
def writing {α : Type} (secret : Secret) (a : α) : Except SecretError α × Cluster :=
  match c.putSecret secret with
  | .error e => (.error (.client e), c)
  | .ok c' => (.ok a, c')

/-- The text under `key` of the secret `name`. If there is none, `fresh` is stored there; what the
secret holds under other keys stays. -/
def ensureKey (namespaceName name key fresh : String) : Except SecretError String × Cluster :=
  match c.secret? namespaceName name with
  | .error e => (.error (.client e), c)
  | .ok found =>
    let secret := found.getD { namespaceName, name }
    match secret.get? key with
    | some text => (.ok text, c)
    | none => c.writing (secret.withEntry key fresh) fresh

end Cluster

end ReplicaControl

/-!
## Credentials that are kept

The credentials of a user are derived once and kept in a secret. Deriving them anew would change
the salts and so end the sessions of clients, so `Cluster.ensureCredentials` does it only when the
password has changed (specification, section 10.3).
-/

namespace ReplicaControl.Cluster

variable (c : Cluster)

/-- The credentials in `secret`, or `none` if they are not those of the password: they are derived
again with the stored salts and compared. -/
def matching (secret : Secret) (username password : String) :
    Except SecretError (Option CredentialSet) :=
  match CredentialSet.ofSecret secret with
  | .error fault => .error (.malformed secret.name fault)
  | .ok stored =>
    match stored.saltsBytes with
    | .error fault => .error (.malformed secret.name fault)
    | .ok salt =>
      match CredentialSet.compute username password salt with
      | .error e => .error (.scram e)
      | .ok computed => .ok (if computed = stored then some stored else none)

/-- Derives credentials with the salts `fresh` and writes them. -/
def writeCredentials (namespaceName name username password : String)
    (fresh : (v : ScramVariant) → v.Salt) : Except SecretError CredentialSet × Cluster :=
  match CredentialSet.compute username password fun v => (fresh v).val with
  | .error e => (.error (.scram e), c)
  | .ok set => c.writing (set.toSecret namespaceName name) set

/-- The credentials kept in the secret `name`. They are derived with the salts `fresh` and written
if there are none or the password has changed. -/
def ensureCredentials (namespaceName name username password : String)
    (fresh : (v : ScramVariant) → v.Salt) : Except SecretError CredentialSet × Cluster :=
  match c.secret? namespaceName name with
  | .error e => (.error (.client e), c)
  | .ok none => c.writeCredentials namespaceName name username password fresh
  | .ok (some secret) =>
    match matching secret username password with
    | .error e => (.error e, c)
    | .ok (some stored) => (.ok stored, c)
    | .ok none => c.writeCredentials namespaceName name username password fresh

end ReplicaControl.Cluster
