import ReplicaControl.Digest
import ReplicaControl.Document.Basic
import ReplicaControl.Text
import ReplicaControl.Unicode.Preparation

/-!
# Salted credentials

Users prove that they know a password by the challenge-response mechanism SCRAM (specification,
section 4.2). The deployment does not store the password, but two keys derived from it, a salt and a
number of iterations (`ScramCredentials`).

- `ScramVariant`: the hash functions that may be used, each with its sizes and its iterations.
- `ScramVariant.saltedPassword`: a password hashed over and over with a salt.
- `ScramVariant.deriveKeys`: what is stored of a prepared password, `derive_keys` of section 10.3.
- `ScramVariant.credentials`: what is stored of the password of a user.
- `ScramVariant.resourceSalt`: the deterministic salt of section 4.2.
-/

namespace ReplicaControl

/-- The hash functions that SCRAM is used with. -/
inductive ScramVariant where
  | sha1
  | sha256
deriving DecidableEq

/-- Why `ScramVariant.credentials` derives none. -/
inductive ScramError where
  | saltLength (variant : ScramVariant) (actual : Nat)
  | unpreparable (fault : Unicode.PreparationFault)
deriving DecidableEq

/-- The bytes that the number of a block takes in the first message of `saltedPassword`, behind the
salt. -/
def blockNumberSize : Nat := 4

/-- What clients of `sha1` hash in place of the password: hexadecimal digits of an MD5 digest. -/
def passwordDigest (username password : String) : String :=
  Text.hex (Digest.md5.hash (Text.utf8 (username ++ ":mongo:" ++ password)))

namespace ScramVariant

/-- The hash function of the variant. -/
def digest : ScramVariant → Digest
  | sha1 => .sha1
  | sha256 => .sha256

/-- The bytes of a hash. -/
def hashSize : ScramVariant → Nat
  | sha1 => 20
  | sha256 => 32

/-- The bytes of a salt, which leave room for the number of the block in a hash (section 3). -/
def saltSize (v : ScramVariant) : Nat := v.hashSize - blockNumberSize

/-- How often a password is hashed. -/
def iterations : ScramVariant → UInt32
  | sha1 => 10000
  | sha256 => 15000

/-- The name of the mechanism, as `Mechanism.name` has it. -/
def name : ScramVariant → String
  | sha1 => "SCRAM-SHA-1"
  | sha256 => "SCRAM-SHA-256"

end ScramVariant

/-- The text of the error. -/
def ScramError.message : ScramError → String
  | saltLength variant actual =>
    variant.name ++ " salt must be " ++ Decimal.str variant.saltSize ++ " bytes, got " ++
      Decimal.str actual
  | unpreparable fault => "password normalization failed: " ++ fault.message

namespace ScramVariant

/-- Joins `joined` with the `n` codes that follow `code`, each being the code of the one before. -/
def foldCodes (mac : List UInt8 → List UInt8) : Nat → List UInt8 → List UInt8 → List UInt8
  | 0, _, joined => joined
  | n + 1, code, joined => foldCodes mac n (mac code) (List.zipWith (· ^^^ ·) joined (mac code))

variable (v : ScramVariant)

/-- The password hashed `iterations` times: the first code is that of the salt and the block's
number, every other one that of the code before it, and all are joined by exclusive or. There is
always a first code, so no iterations and one are the same. -/
def saltedPassword (password salt : List UInt8) (iterations : UInt32) : List UInt8 :=
  let key := v.digest.keyed password
  let first := key.mac (salt ++ [0, 0, 0, 1])
  foldCodes key.mac (iterations.toNat - 1) first first

/-- The code of `message` under `key`. -/
def mac (key message : List UInt8) : List UInt8 := v.digest.hmac key message

/-- The `clientKey` of section 4.2, which a client proves to have. -/
def clientKey (salted : List UInt8) : List UInt8 := v.mac salted (Text.utf8 "Client Key")

/-- The `serverKey` of section 4.2, which the server proves to have. -/
def serverKey (salted : List UInt8) : List UInt8 := v.mac salted (Text.utf8 "Server Key")

/-- The hash by which a `clientKey` is recognised. -/
def storedKey (salted : List UInt8) : List UInt8 := v.digest.hash (v.clientKey salted)

/-- What is stored of `password`, with any salt and any number of iterations. -/
def deriveKeys (password : String) (salt : List UInt8) (iterations : UInt32) :
    Except ScramError ScramCredentials :=
  match Unicode.prepare password with
  | .error fault => .error (.unpreparable fault)
  | .ok prepared =>
    let salted := v.saltedPassword (Text.utf8 prepared) salt iterations
    .ok
      { iterationCount := iterations
        salt := Text.Base64.encode salt
        serverKey := Text.Base64.encode (v.serverKey salted)
        storedKey := Text.Base64.encode (v.storedKey salted) }

/-- The text that keys are derived from: for the older variant, `passwordDigest`. -/
def secretText (username password : String) : String :=
  match v with
  | sha1 => passwordDigest username password
  | sha256 => password

/-- What is stored of the password of a user. The length of `salt` is checked before the password.
-/
def credentials (username password : String) (salt : List UInt8) :
    Except ScramError ScramCredentials :=
  if salt.length = v.saltSize then
    v.deriveKeys (v.secretText username password) salt v.iterations
  else .error (.saltLength v salt.length)

/-- The salt of a managed `resource`: it is the same on every pass, so that the credentials are.
Both variants cut it from a SHA-256 hash to `saltSize` bytes. -/
def resourceSalt (resource : String) : List UInt8 :=
  (Digest.sha256.hash (Text.utf8 (resource ++ "-mongodbresource"))).take v.saltSize

end ScramVariant

end ReplicaControl
