import ReplicaControl.Cluster.Credentials
import ReplicaControl.Proofs.Cluster.Keys
import ReplicaControl.Proofs.Except
import ReplicaControl.Proofs.Scram
import ReplicaControl.Proofs.Text

/-!
# Credentials that are kept

`ensureCredentials` finds the credentials of a user in their secret, or derives them with fresh
salts and writes them there (specification, section 10.3). Either way the secret holds all of them
afterwards, and deriving the password with their own salts gives them again (`CredentialSet.Fits`),
so no later call replaces them. A call that fails leaves the cluster as it is.

- **Derivation** (`CredentialSet.compute_eq_ok_iff`): when a password has credentials, and which.
- **Storage** (`CredentialSet.ofSecret_toSecret`): they are read back from the secret.
- **One call** (`KeepsCredentials`): what it can do, and that it does no more
  (`ensureCredentials_spec`).
- **Later calls** (`ensureCredentials_stable`): they return the same credentials.
-/

namespace ReplicaControl

open CredentialSet

/-! ## Deriving credentials -/

theorem ScramVariant.forall_iff {P : ScramVariant → Prop} : (∀ v, P v) ↔ P .sha1 ∧ P .sha256 := by
  refine ⟨fun h => ⟨h .sha1, h .sha256⟩, ?_⟩
  rintro ⟨h, h'⟩ (_ | _)
  · exact h
  · exact h'

namespace CredentialSet

variable {username password : String} {salt : ScramVariant → List UInt8} {s : CredentialSet}

/-- A password has the credentials `s` if those of both variants are derived from it. -/
theorem compute_eq_ok_iff : compute username password salt = .ok s ↔
    ∀ v : ScramVariant, v.credentials username password (salt v) = .ok (s.forVariant v) := by
  rw [ScramVariant.forall_iff, compute]
  cases ScramVariant.sha1.credentials username password (salt .sha1) with
  | error e => simp
  | ok sha1 =>
    cases ScramVariant.sha256.credentials username password (salt .sha256) with
    | error e => simp
    | ok sha256 =>
      obtain ⟨sha1', sha256'⟩ := s
      simp [forVariant]

/-- Derived credentials have the `iterations` of their variants. -/
theorem iterationCount_of_compute (h : compute username password salt = .ok s) (v : ScramVariant) :
    (s.forVariant v).iterationCount = v.iterations := by
  obtain ⟨-, prepared, -, hk⟩ := ScramVariant.credentials_eq_ok_iff.mp (compute_eq_ok_iff.mp h v)
  rw [hk]
  rfl

/-- Both salts of `s` are read if each of them is the Base64 of bytes. -/
theorem saltsBytes_eq_ok_iff : s.saltsBytes = .ok salt ↔
    ∀ v, Text.Base64.decode? (s.forVariant v).salt = some (salt v) := by
  have hsalt : ∀ v, Text.Base64.decode? (s.forVariant v).salt = some (salt v) ↔
      s.saltBytes v = .ok (salt v) := by
    intro v
    unfold saltBytes
    cases Text.Base64.decode? (s.forVariant v).salt <;> simp
  simp only [hsalt, saltsBytes, bind_eq_ok_iff, ScramVariant.forall_iff]
  constructor
  · rintro ⟨sha1, h, sha256, h', heq⟩
    obtain rfl := Except.ok.inj heq
    exact ⟨h, h'⟩
  · rintro ⟨h, h'⟩
    refine ⟨salt .sha1, h, salt .sha256, h', congrArg Except.ok (funext fun v => ?_)⟩
    cases v <;> rfl

/-- Derived credentials hold the salts that they were derived with. -/
theorem saltsBytes_of_compute (h : compute username password salt = .ok s) :
    s.saltsBytes = .ok salt := by
  refine saltsBytes_eq_ok_iff.mpr fun v => ?_
  obtain ⟨-, prepared, -, hk⟩ := ScramVariant.credentials_eq_ok_iff.mp (compute_eq_ok_iff.mp h v)
  rw [hk]
  exact Text.Base64.decode?_encode (salt v)

/-- Deriving `password` with the salts of `s` gives `s` again. -/
def Fits (s : CredentialSet) (username password : String) : Prop :=
  ∃ salt, s.saltsBytes = .ok salt ∧ compute username password salt = .ok s

theorem fits_of_compute (h : compute username password salt = .ok s) : s.Fits username password :=
  ⟨salt, saltsBytes_of_compute h, h⟩

/-! ## Credentials in secrets -/

/-- All that `toSecret` keeps of credentials is read back; it does not keep `iterationCount`. -/
theorem variantOfSecret_toSecret (s : CredentialSet) (namespaceName name : String)
    (v : ScramVariant) : variantOfSecret (s.toSecret namespaceName name) v =
      .ok { s.forVariant v with iterationCount := v.iterations } := by
  cases v <;>
    simp [variantOfSecret, entry, toSecret, addTo, Secret.get?_withEntry, ScramVariant.saltKey,
      ScramVariant.serverKeyKey, ScramVariant.storedKeyKey] <;> rfl

/-- Credentials with the `iterations` of their variants are read back from their secret. -/
theorem ofSecret_toSecret (h : ∀ v : ScramVariant, (s.forVariant v).iterationCount = v.iterations)
    (namespaceName name : String) : ofSecret (s.toSecret namespaceName name) = .ok s := by
  have hvariant : ∀ v, variantOfSecret (s.toSecret namespaceName name) v = .ok (s.forVariant v) := by
    intro v
    rw [variantOfSecret_toSecret, ← h v]
  rw [ofSecret, hvariant, hvariant]
  rfl

end CredentialSet

namespace Cluster

variable {c c' : Cluster} {namespaceName name username password : String} {secret : Secret}
  {s : CredentialSet} {fresh : (v : ScramVariant) → v.Salt}

/-- `matching` finds the credentials in `secret` if they fit the password. -/
theorem matching_eq_ok_some_iff : matching secret username password = .ok (some s) ↔
    ofSecret secret = .ok s ∧ s.Fits username password := by
  unfold matching Fits
  cases ofSecret secret with
  | error fault => simp
  | ok stored =>
    dsimp only
    cases hsalt : stored.saltsBytes with
    | error fault =>
      refine iff_of_false nofun ?_
      rintro ⟨⟨⟩, salt, hsalt', -⟩
      cases hsalt.symm.trans hsalt'
    | ok salt =>
      dsimp only
      -- The salts are those of the stored credentials, so both sides derive the same.
      have hfits : stored = s ∧ (∃ salt, s.saltsBytes = .ok salt ∧
          compute username password salt = .ok s) ↔
            stored = s ∧ compute username password salt = .ok s := by
        refine and_congr_right ?_
        rintro rfl
        simp [hsalt]
      rw [Except.ok.injEq, hfits]
      cases compute username password salt with
      | error e => simp
      | ok computed =>
        simp only [Except.ok.injEq, Option.ite_none_right_eq_some, Option.some.injEq]
        constructor
        · rintro ⟨rfl, rfl⟩
          exact ⟨rfl, rfl⟩
        · rintro ⟨rfl, rfl⟩
          exact ⟨rfl, rfl⟩

/-! ## One call -/

/-- There is no secret, or it holds the credentials of another password. -/
def WantsCredentials (c : Cluster) (namespaceName name username password : String) : Prop :=
  c.secret? namespaceName name = .ok none ∨ ∃ secret,
    c.secret? namespaceName name = .ok (some secret) ∧ matching secret username password = .ok none

theorem WantsCredentials.reads (h : c.WantsCredentials namespaceName name username password) :
    c.secretReadFailures.get? (namespaceName, name) = none := by
  obtain h | ⟨secret, h, -⟩ := h
  · exact (secret?_eq_ok_iff.mp h).1
  · exact (secret?_eq_ok_iff.mp h).1

/-- What `ensureCredentials` can do, with what it returns and the cluster that it leaves: fail to
read the secret or the credentials in it, keep them, fail to derive fresh ones, or write those,
which may be refused. -/
inductive KeepsCredentials (c : Cluster) (namespaceName name username password : String)
    (fresh : (v : ScramVariant) → v.Salt) : Except SecretError CredentialSet × Cluster → Prop where
  | unread {e : ClientError} (hsecret : c.secret? namespaceName name = .error e) :
    KeepsCredentials c namespaceName name username password fresh (.error (.client e), c)
  | unusable {secret : Secret} {e : SecretError}
    (hsecret : c.secret? namespaceName name = .ok (some secret))
    (hmatching : matching secret username password = .error e) :
    KeepsCredentials c namespaceName name username password fresh (.error e, c)
  | kept {secret : Secret} {s : CredentialSet}
    (hsecret : c.secret? namespaceName name = .ok (some secret)) (hstored : ofSecret secret = .ok s)
    (hfits : s.Fits username password) :
    KeepsCredentials c namespaceName name username password fresh (.ok s, c)
  | underivable {e : ScramError} (hwants : c.WantsCredentials namespaceName name username password)
    (hcompute : compute username password (fun v => (fresh v).val) = .error e) :
    KeepsCredentials c namespaceName name username password fresh (.error (.scram e), c)
  | refused {s : CredentialSet} {message : String}
    (hwants : c.WantsCredentials namespaceName name username password)
    (hcompute : compute username password (fun v => (fresh v).val) = .ok s)
    (hwrite : c.secretWriteFailures.get? (namespaceName, name) = some message) :
    KeepsCredentials c namespaceName name username password fresh
      (.error (.client (.api message)), c)
  | written {s : CredentialSet} (hwants : c.WantsCredentials namespaceName name username password)
    (hcompute : compute username password (fun v => (fresh v).val) = .ok s)
    (hwrite : c.secretWriteFailures.get? (namespaceName, name) = none) :
    KeepsCredentials c namespaceName name username password fresh
      (.ok s, c.withSecret (s.toSecret namespaceName name))

theorem keepsCredentials_writeCredentials
    (hwants : c.WantsCredentials namespaceName name username password)
    (fresh : (v : ScramVariant) → v.Salt) :
    KeepsCredentials c namespaceName name username password fresh
      (c.writeCredentials namespaceName name username password fresh) := by
  unfold writeCredentials
  cases hcompute : compute username password (fun v => (fresh v).val) with
  | error e => exact .underivable hwants hcompute
  | ok s =>
    dsimp only
    cases hwrite : c.secretWriteFailures.get? (namespaceName, name) with
    | some message =>
      rw [writing_eq_error (s := s.toSecret namespaceName name) hwrite]
      exact .refused hwants hcompute hwrite
    | none =>
      rw [writing_eq_ok (s := s.toSecret namespaceName name) hwrite]
      exact .written hwants hcompute hwrite

/-- Every call is one of `KeepsCredentials`. -/
theorem ensureCredentials_spec (c : Cluster) (namespaceName name username password : String)
    (fresh : (v : ScramVariant) → v.Salt) :
    KeepsCredentials c namespaceName name username password fresh
      (c.ensureCredentials namespaceName name username password fresh) := by
  unfold ensureCredentials
  cases hsecret : c.secret? namespaceName name with
  | error e => exact .unread hsecret
  | ok found =>
    cases found with
    | none => exact keepsCredentials_writeCredentials (.inl hsecret) fresh
    | some secret =>
      cases hmatching : matching secret username password with
      | error e => simpa only [hmatching] using KeepsCredentials.unusable hsecret hmatching
      | ok matched =>
        cases matched with
        | none =>
          simpa only [hmatching] using
            keepsCredentials_writeCredentials (.inr ⟨secret, hsecret, hmatching⟩) fresh
        | some s =>
          obtain ⟨hstored, hfits⟩ := matching_eq_ok_some_iff.mp hmatching
          simpa only [hmatching] using KeepsCredentials.kept hsecret hstored hfits

/-- A call that finds credentials of the password keeps them, whatever salts `fresh` holds. -/
theorem ensureCredentials_of_fits (hsecret : c.secret? namespaceName name = .ok (some secret))
    (hstored : ofSecret secret = .ok s) (hfits : s.Fits username password)
    (fresh : (v : ScramVariant) → v.Salt) :
    c.ensureCredentials namespaceName name username password fresh = (.ok s, c) := by
  have hmatching := matching_eq_ok_some_iff.mpr ⟨hstored, hfits⟩
  rw [ensureCredentials, hsecret]
  simp only [hmatching]

/-- A call that succeeds returns credentials `s` that fit the password by their own salts, and
leaves a secret from which they are read. As long as the secret stays as it is, every `later` call
returns `s` and changes nothing, whatever salts it is given. A call that fails changes nothing. -/
theorem ensureCredentials_stable (c : Cluster) (namespaceName name username password : String)
    (fresh : (v : ScramVariant) → v.Salt) :
    (∀ s c', c.ensureCredentials namespaceName name username password fresh = (.ok s, c') →
      (∃ secret, c'.secret? namespaceName name = .ok (some secret) ∧ ofSecret secret = .ok s) ∧
        (∃ salt, s.saltsBytes = .ok salt ∧ compute username password salt = .ok s) ∧
        ∀ later : Cluster, later.secret? namespaceName name = c'.secret? namespaceName name →
          ∀ fresh', later.ensureCredentials namespaceName name username password fresh' =
            (.ok s, later)) ∧
      ∀ e c', c.ensureCredentials namespaceName name username password fresh = (.error e, c') →
        c' = c := by
  have hspec := ensureCredentials_spec c namespaceName name username password fresh
  generalize c.ensureCredentials namespaceName name username password fresh = result at hspec ⊢
  cases hspec with
  | unread | unusable | underivable | refused =>
    refine ⟨nofun, ?_⟩
    rintro _ _ ⟨⟩
    rfl
  -- The secret fits the password, found or just written, and then every later call keeps it.
  | kept hsecret hstored hfits =>
    refine ⟨?_, nofun⟩
    rintro _ _ ⟨⟩
    exact ⟨⟨_, hsecret, hstored⟩, hfits, fun _ hlater =>
      ensureCredentials_of_fits (hlater.trans hsecret) hstored hfits⟩
  | @written s hwants hcompute _ =>
    refine ⟨?_, nofun⟩
    rintro _ _ ⟨⟩
    have hsecret : (c.withSecret (s.toSecret namespaceName name)).secret? namespaceName name =
        .ok (some (s.toSecret namespaceName name)) := secret?_withSecret_self hwants.reads
    have hstored := ofSecret_toSecret (iterationCount_of_compute hcompute) namespaceName name
    have hfits := fits_of_compute hcompute
    exact ⟨⟨_, hsecret, hstored⟩, hfits, fun _ hlater =>
      ensureCredentials_of_fits (hlater.trans hsecret) hstored hfits⟩

/-- Salts of the lengths that the variants ask for. -/
def plainSalts : (v : ScramVariant) → v.Salt
  | .sha1 => ⟨List.replicate 16 0, rfl⟩
  | .sha256 => ⟨List.replicate 28 255, rfl⟩

/-- A password of printable characters has credentials. -/
theorem exists_compute_eq_ok (username : String) {password : String}
    (h : password.toList.all Unicode.isPlain = true) (fresh : (v : ScramVariant) → v.Salt) :
    ∃ s, compute username password (fun v => (fresh v).val) = .ok s := by
  refine ⟨⟨ScramVariant.sha1.storedOf (passwordDigest username password) (fresh .sha1).val,
    ScramVariant.sha256.storedOf password (fresh .sha256).val⟩, compute_eq_ok_iff.mpr ?_⟩
  refine ScramVariant.forall_iff.mpr
    ⟨ScramVariant.credentials_eq_ok_iff.mpr ?_, ScramVariant.credentials_eq_ok_iff.mpr ?_⟩
  · exact ⟨(fresh .sha1).property, _, prepare_passwordDigest username password, rfl⟩
  · exact ⟨(fresh .sha256).property, _, Unicode.prepare_of_isPlain h, rfl⟩

/-- The first call writes once, and no later one writes again. -/
theorem ensureCredentials_stable_first :
    ∃ s c', ({} : Cluster).ensureCredentials "db" "ann-scram" "ann" "secret" plainSalts =
        (.ok s, c') ∧
      c'.secretWrites = 1 ∧ s.Fits "ann" "secret" ∧
        ∀ fresh, c'.ensureCredentials "db" "ann-scram" "ann" "secret" fresh = (.ok s, c') := by
  have hplain : "secret".toList.all Unicode.isPlain = true := by decide
  obtain ⟨s, hcompute⟩ := exists_compute_eq_ok "ann" hplain plainSalts
  have hcall : ({} : Cluster).ensureCredentials "db" "ann-scram" "ann" "secret" plainSalts =
      (.ok s, ({} : Cluster).withSecret (s.toSecret "db" "ann-scram")) := by
    have hsecret : ({} : Cluster).secret? "db" "ann-scram" = .ok none := rfl
    rw [ensureCredentials, hsecret]
    dsimp only
    rw [writeCredentials, hcompute]
    exact writing_eq_ok rfl s
  obtain ⟨-, hfits, hlater⟩ := (ensureCredentials_stable _ _ _ _ _ _).1 _ _ hcall
  exact ⟨s, _, hcall, rfl, hfits, hlater _ rfl⟩

end Cluster

end ReplicaControl
