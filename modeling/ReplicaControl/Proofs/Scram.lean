import Mathlib.Data.List.OfFn
import ReplicaControl.Proofs.Text
import ReplicaControl.Proofs.Unicode
import ReplicaControl.Scram

/-!
# Derived credentials

What `ScramVariant.credentials` does (specification, sections 3 and 4.2): a password is prepared and
salted, and the keys that are stored of it follow from that.

* **What is hashed**: `passwordDigest`, which the older mechanism hashes in place of a password, is
  prepared already (`prepare_passwordDigest`), as it consists of 32 hexadecimal digits.
* **Salted passwords** (`ScramVariant.saltedPassword_eq_joined`): the loop `foldCodes` joins the
  chain of codes under a password, which begins with the salt and the number of the block. This is
  the first block of PBKDF2. `foldCodes_chained` is what every pass of the loop keeps.
* **Outcomes** (`ScramVariant.credentials_outcome`): the length of the salt decides first, then the
  preparation of what is hashed, and nothing else fails: no key has a `Digest.KeyFault`. The lemmas
  before it say when each outcome arises, and `ScramVariant.Holds` what derived credentials hold.
-/

namespace ReplicaControl

/-! ## What is hashed -/

theorem prepare_passwordDigest (username password : String) :
    Unicode.prepare (passwordDigest username password) = .ok (passwordDigest username password) := by
  have hdigit : ∀ n < 16, Unicode.isPlain (Text.lowerHexDigit n) = true := by decide
  refine Unicode.prepare_of_isPlain (List.all_eq_true.mpr fun c hc => ?_)
  obtain ⟨n, hn, rfl⟩ := Text.exists_of_mem_hex hc
  exact hdigit n hn

theorem length_passwordDigest (username password : String) :
    (passwordDigest username password).length = 32 := by
  rw [passwordDigest, Text.length_hex, Digest.length_hash]
  rfl

theorem mem_passwordDigest {username password : String} {c : Char}
    (h : c ∈ (passwordDigest username password).toList) : c ∈ "0123456789abcdef".toList := by
  have hdigit : ∀ n < 16, Text.lowerHexDigit n ∈ "0123456789abcdef".toList := by decide
  obtain ⟨n, hn, rfl⟩ := Text.exists_of_mem_hex h
  exact hdigit n hn

/-! ## Blocks -/

/-- `blocks`, each of `size` bytes, joined byte by byte by exclusive or. -/
def xorBlocks (size : Nat) (blocks : List (List UInt8)) : List UInt8 :=
  List.ofFn fun i : Fin size => (blocks.map (·.getD i 0)).foldl (· ^^^ ·) 0

section Blocks

variable {size : Nat} {block : List UInt8}

@[simp] theorem length_xorBlocks (size : Nat) (blocks : List (List UInt8)) :
    (xorBlocks size blocks).length = size := List.length_ofFn

theorem xorBlocks_singleton (h : block.length = size) : xorBlocks size [block] = block := by
  refine List.ext_getElem (by simp [h]) fun i hi hi' => ?_
  simp [xorBlocks, hi']

/-- A further block is joined to what those before it gave, as `foldCodes` does. -/
theorem xorBlocks_concat (h : block.length = size) (blocks : List (List UInt8)) :
    xorBlocks size (blocks ++ [block]) = List.zipWith (· ^^^ ·) (xorBlocks size blocks) block := by
  refine List.ext_getElem (by simp [h]) fun i hi hi' => ?_
  have hblock : i < block.length := by
    rwa [length_xorBlocks, ← h] at hi
  simp [xorBlocks, hblock]

end Blocks

namespace ScramVariant

section Salted

variable (v : ScramVariant)

theorem size_digest : v.digest.size = v.hashSize := by cases v <;> rfl

theorem length_hash (message : List UInt8) : (v.digest.hash message).length = v.hashSize :=
  (v.digest.length_hash message).trans v.size_digest

theorem length_mac (key message : List UInt8) : (v.mac key message).length = v.hashSize :=
  (v.digest.length_hmac key message).trans v.size_digest

example : Text.hex (Digest.md5.hash (Text.utf8 "abc")) = "900150983cd24fb0d6963f7d28e17f72" ∧
    Text.hex (sha1.digest.hash (Text.utf8 "abc")) = "a9993e364706816aba3e25717850c26c9cd0d89d" ∧
    Text.hex (sha256.digest.hash (Text.utf8 "abc")) =
      "ba7816bf8f01cfea414140de5dae2223b00361a396177a9cb410ff61f20015ad" := by
  decide +kernel

/-! ## Chains of codes -/

variable (password salt : List UInt8)

/-- The chain of codes under `password`. It begins with `salt` and the number of the block, and
whatever follows is the code of what stands before it. -/
def chained : Nat → List UInt8
  | 0 => salt ++ [0, 0, 0, 1]
  | k + 1 => v.mac password (chained k)

/-- The codes `1` to `k` of `chained`, joined. -/
def joinedCodes (k : Nat) : List UInt8 :=
  xorBlocks v.hashSize ((List.range' 1 k).map (v.chained password salt))

theorem length_chained (k : Nat) : (v.chained password salt (k + 1)).length = v.hashSize :=
  v.length_mac ..

theorem joinedCodes_one : v.joinedCodes password salt 1 = v.chained password salt 1 :=
  xorBlocks_singleton (v.length_chained password salt 0)

theorem joinedCodes_succ (k : Nat) : v.joinedCodes password salt (k + 1) =
    List.zipWith (· ^^^ ·) (v.joinedCodes password salt k) (v.chained password salt (k + 1)) := by
  have hrange : List.range' 1 (k + 1) = List.range' 1 k ++ [k + 1] := by
    rw [List.range'_1_concat, Nat.add_comm 1 k]
  rw [joinedCodes, hrange, List.map_append, List.map_singleton,
    xorBlocks_concat (v.length_chained password salt k), joinedCodes]

/-- Every pass of `foldCodes` keeps that the present code is the last of those that are joined. -/
theorem foldCodes_chained (n k : Nat) :
    foldCodes (v.mac password) n (v.chained password salt k) (v.joinedCodes password salt k) =
      v.joinedCodes password salt (k + n) := by
  -- By induction on the passes that are left, wherever in the chain the loop stands.
  induction n generalizing k with
  | zero => rfl
  | succ n ih =>
    have hcode : v.mac password (v.chained password salt k) = v.chained password salt (k + 1) := rfl
    rw [foldCodes, hcode, ← joinedCodes_succ, ih, Nat.add_right_comm, Nat.add_assoc]

/-- `saltedPassword` is the join of the codes of `chained`, of which there are as many as iterations
and at least one. It has the size of a hash, as every code has. -/
theorem saltedPassword_eq_joined (iterations : UInt32) :
    v.saltedPassword password salt iterations =
      xorBlocks v.hashSize
        ((List.range' 1 (max iterations.toNat 1)).map (v.chained password salt)) ∧
    (v.saltedPassword password salt iterations).length = v.hashSize ∧
    ∀ k, (v.chained password salt (k + 1)).length = v.hashSize := by
  have hloop : v.saltedPassword password salt iterations =
      v.joinedCodes password salt (max iterations.toNat 1) :=
    calc v.saltedPassword password salt iterations
        = foldCodes (v.mac password) (iterations.toNat - 1) (v.chained password salt 1)
            (v.chained password salt 1) := rfl
      _ = foldCodes (v.mac password) (iterations.toNat - 1) (v.chained password salt 1)
            (v.joinedCodes password salt 1) := by rw [joinedCodes_one]
      _ = v.joinedCodes password salt (1 + (iterations.toNat - 1)) := v.foldCodes_chained ..
      _ = v.joinedCodes password salt (max iterations.toNat 1) := by
        congr 1
        omega
  refine ⟨hloop, ?_, v.length_chained password salt⟩
  rw [hloop, joinedCodes, length_xorBlocks]

-- A published vector of PBKDF2.
example : Text.hex (sha1.saltedPassword (Text.utf8 "password") (Text.utf8 "salt") 1) =
    "0c60c80f961f0e71f3a9b524af6012062fe037a6" := by
  decide +kernel

end Salted

/-! ## Outcomes -/

variable {v : ScramVariant} {username password : String} {salt : List UInt8} {k : ScramCredentials}

/-- What `deriveKeys` stores of a password that is `prepared`. -/
def storedOf (v : ScramVariant) (prepared : String) (salt : List UInt8) : ScramCredentials :=
  let salted := v.saltedPassword (Text.utf8 prepared) salt v.iterations
  { iterationCount := v.iterations
    salt := Text.Base64.encode salt
    serverKey := Text.Base64.encode (v.serverKey salted)
    storedKey := Text.Base64.encode (v.storedKey salted) }

/-- `credentials` succeeds if the salt has its length and the password can be prepared. -/
theorem credentials_eq_ok_iff : v.credentials username password salt = .ok k ↔
    salt.length = v.saltSize ∧ ∃ prepared,
      Unicode.prepare (v.secretText username password) = .ok prepared ∧
        k = v.storedOf prepared salt := by
  unfold credentials deriveKeys
  by_cases hsalt : salt.length = v.saltSize
  · cases hprepare : Unicode.prepare (v.secretText username password) with
    | error fault => simp [hsalt]
    | ok prepared => simp [hsalt, storedOf, eq_comm]
  · simp [hsalt]

/-- What is hashed, `secretText`, cannot be prepared if and only if it is the password itself and
that cannot. -/
theorem prepare_secretText_eq_error_iff (v : ScramVariant) (username : String)
    {fault : Unicode.PreparationFault} :
    Unicode.prepare (v.secretText username password) = .error fault ↔
      v = .sha256 ∧ Unicode.prepare password = .error fault := by
  cases v with
  | sha1 => simp [secretText, prepare_passwordDigest]
  | sha256 => simp [secretText]

theorem credentials_eq_saltLength_iff {w : ScramVariant} {n : Nat} :
    v.credentials username password salt = .error (.saltLength w n) ↔
      salt.length ≠ v.saltSize ∧ w = v ∧ n = salt.length := by
  unfold credentials deriveKeys
  by_cases hsalt : salt.length = v.saltSize
  · cases Unicode.prepare (v.secretText username password) <;> simp [hsalt]
  · simp [hsalt, eq_comm]

theorem credentials_eq_unpreparable_iff {fault : Unicode.PreparationFault} :
    v.credentials username password salt = .error (.unpreparable fault) ↔
      salt.length = v.saltSize ∧ v = .sha256 ∧ Unicode.prepare password = .error fault := by
  rw [← prepare_secretText_eq_error_iff v username]
  unfold credentials deriveKeys
  by_cases hsalt : salt.length = v.saltSize
  · cases Unicode.prepare (v.secretText username password) <;> simp [hsalt]
  · simp [hsalt]

theorem exists_credentials_iff : (∃ k, v.credentials username password salt = .ok k) ↔
    salt.length = v.saltSize ∧ (v = .sha1 ∨ ∃ prepared, Unicode.prepare password = .ok prepared) := by
  simp only [credentials_eq_ok_iff]
  cases v with
  | sha1 => simp [secretText, prepare_passwordDigest]
  | sha256 => simp [secretText]

/-- What derived credentials `k` hold: the salt and two keys, all of which are read back. -/
structure Holds (v : ScramVariant) (salt salted : List UInt8) (k : ScramCredentials) : Prop where
  salt : Text.Base64.decode? k.salt = some salt
  storedKey : Text.Base64.decode? k.storedKey =
    some (v.digest.hash (v.digest.hmac salted (Text.utf8 "Client Key")))
  serverKey : Text.Base64.decode? k.serverKey =
    some (v.digest.hmac salted (Text.utf8 "Server Key"))
  /-- Both keys have the `hashSize` of the variant. -/
  size : ∀ key, Text.Base64.decode? k.storedKey = some key ∨
    Text.Base64.decode? k.serverKey = some key → key.length = v.hashSize

theorem holds_storedOf (v : ScramVariant) (prepared : String) (salt : List UInt8) :
    v.Holds salt (v.saltedPassword (Text.utf8 prepared) salt v.iterations)
      (v.storedOf prepared salt) where
  salt := Text.Base64.decode?_encode _
  storedKey := Text.Base64.decode?_encode _
  serverKey := Text.Base64.decode?_encode _
  size key h := by
    simp only [storedOf, Text.Base64.decode?_encode, Option.some.injEq] at h
    rcases h with rfl | rfl
    · exact v.length_hash _
    · exact v.length_mac ..

/-- The length of the salt decides first: whatever the password, a salt of another length is
refused. Then `sha256` refuses a password that cannot be prepared, and `sha1` none, since it hashes
`passwordDigest`, whose digits stay as they are when prepared. Nothing else fails: `Digest.keyed?`
takes keys of any length. -/
theorem credentials_outcome (v : ScramVariant) (username password : String) (salt : List UInt8) :
    (∀ w n, v.credentials username password salt = .error (.saltLength w n) ↔
      salt.length ≠ v.hashSize - 4 ∧ w = v ∧ n = salt.length) ∧
    (∀ fault, v.credentials username password salt = .error (.unpreparable fault) ↔
      salt.length = v.hashSize - 4 ∧ v = .sha256 ∧ Unicode.prepare password = .error fault) ∧
    (∀ e, v.credentials username password salt = .error e →
      e = .saltLength v salt.length ∨ ∃ fault, e = .unpreparable fault) ∧
    ((∃ k, v.credentials username password salt = .ok k) ↔ salt.length = v.hashSize - 4 ∧
      (v = .sha1 ∨ ∃ prepared, Unicode.prepare password = .ok prepared)) ∧
    (∀ key, (v.digest.keyBlock key).length = 64 ∧
      v.digest.keyed? key = .ok (v.digest.keyed key)) ∧
    (passwordDigest username password).length = 32 ∧
    (∀ c ∈ (passwordDigest username password).toList, c ∈ "0123456789abcdef".toList) ∧
    Unicode.prepare (passwordDigest username password) = .ok (passwordDigest username password) ∧
    ∀ k, v.credentials username password salt = .ok k →
      ∃ prepared, Unicode.prepare (v.secretText username password) = .ok prepared ∧
        k.iterationCount = v.iterations ∧
        v.Holds salt (v.saltedPassword (Text.utf8 prepared) salt v.iterations) k := by
  refine ⟨fun w n => credentials_eq_saltLength_iff, fun fault => credentials_eq_unpreparable_iff,
    fun e h => ?_, exists_credentials_iff,
    fun key => ⟨v.digest.length_keyBlock key, v.digest.keyed?_eq_ok key⟩,
    length_passwordDigest username password, fun c => mem_passwordDigest,
    prepare_passwordDigest username password, fun k h => ?_⟩
  · cases e with
    | saltLength w n =>
      obtain ⟨-, rfl, rfl⟩ := credentials_eq_saltLength_iff.mp h
      exact .inl rfl
    | unpreparable fault => exact .inr ⟨fault, rfl⟩
  · obtain ⟨-, prepared, hprepared, rfl⟩ := credentials_eq_ok_iff.mp h
    exact ⟨prepared, hprepared, rfl, v.holds_storedOf prepared salt⟩

/-- `sha1` takes a password that rings a bell, and `sha256` does not. -/
theorem credentials_outcome_bell :
    (∃ k, sha1.credentials "ann" "\x07" (List.replicate 16 1) = .ok k ∧
      Text.Base64.decode? k.salt = some (List.replicate 16 1)) ∧
    sha256.credentials "ann" "\x07" (List.replicate 16 1) = .error (.saltLength .sha256 16) ∧
    sha256.credentials "ann" "\x07" (List.replicate 28 1) =
      .error (.unpreparable (.prohibited '\x07')) ∧
    ∃ k, sha256.credentials "ann" "secret" (List.replicate 28 1) = .ok k ∧
      Text.Base64.decode? k.salt = some (List.replicate 28 1) := by
  have hsha1 := credentials_outcome .sha1 "ann" "\x07" (List.replicate 16 1)
  have hshort := credentials_outcome .sha256 "ann" "\x07" (List.replicate 16 1)
  have hrefused := credentials_outcome .sha256 "ann" "\x07" (List.replicate 28 1)
  have hsha256 := credentials_outcome .sha256 "ann" "secret" (List.replicate 28 1)
  have hplain : Unicode.prepare "secret" = .ok "secret" := Unicode.prepare_of_isPlain (by decide)
  have hbell : Unicode.prepare "\x07" = .error (.prohibited '\x07') :=
    (Unicode.prepare_of_ascii (by simp)).trans (by decide)
  refine ⟨?_, (hshort.1 _ _).mpr ⟨by decide, rfl, rfl⟩,
    (hrefused.2.1 _).mpr ⟨by decide, rfl, hbell⟩, ?_⟩
  · obtain ⟨-, -, -, hderived, -, -, -, -, hholds⟩ := hsha1
    obtain ⟨k, hk⟩ := hderived.mpr ⟨rfl, .inl rfl⟩
    obtain ⟨prepared, -, -, hkept⟩ := hholds k hk
    exact ⟨k, hk, hkept.salt⟩
  · obtain ⟨-, -, -, hderived, -, -, -, -, hholds⟩ := hsha256
    obtain ⟨k, hk⟩ := hderived.mpr ⟨rfl, .inr ⟨_, hplain⟩⟩
    obtain ⟨prepared, -, -, hkept⟩ := hholds k hk
    exact ⟨k, hk, hkept.salt⟩

end ScramVariant

end ReplicaControl
