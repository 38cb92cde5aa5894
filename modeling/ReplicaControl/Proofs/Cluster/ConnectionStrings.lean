import ReplicaControl.Cluster.ConnectionStrings
import ReplicaControl.Proofs.Cluster.Keys

/-!
# Connection strings that are published again

A call of `ensureConnectionStrings` that succeeds leaves the published secret in its place and every
other secret as it was, and one that fails changes nothing. Calling again publishes nothing new if
the password is still read as it was (specification, section 5). It is not if the published secret
took the place of the one that held the password (`ConnectionUser.ReplacesPassword`), and holds
another text under `passwordKey`, or none.

- **One call** (`Publishes`): what it can do, and that it does no more
  (`ensureConnectionStrings_spec`).
- **The password** (`passwordOf_of_published`): when it is read as before.
- **Calling again** (`ensureConnectionStrings_again`): what a call leaves, and exactly when it can
  be repeated. A call that cannot is `password_replaced`.
-/

namespace ReplicaControl

/-! ## Published secrets -/

namespace ConnectionUser

variable {u : ConnectionUser} {t : Topology} {password password' : String}

/-- The published secret takes the place of `passwordSecret`. -/
def ReplacesPassword (u : ConnectionUser) (t : Topology) : Prop :=
  u.database ≠ externalDatabase ∧
    (u.secretNamespaceFor t, u.secretNameFor t) = (t.namespaceName, u.passwordSecret)

/-- The secret of `u` holds the password under `"password"`. -/
theorem get?_password_secret (u : ConnectionUser) (t : Topology) (password : String) :
    (u.secret t password).get? "password" = some password := by
  rw [secret, Secret.get?_withEntry, if_pos rfl]

theorem secret_inj : u.secret t password = u.secret t password' ↔ password = password' := by
  refine ⟨fun h => ?_, congrArg _⟩
  have hentry := congrArg (·.get? "password") h
  simpa only [get?_password_secret, Option.some.injEq] using hentry

end ConnectionUser

namespace Cluster

variable {c c' : Cluster} {t : Topology} {u : ConnectionUser} {password : String} {s : Secret}

/-! ## One call -/

/-- What `ensureConnectionStrings` can do, with what it returns and the cluster that it leaves: fail
to read either secret, find what it would publish, or write it, which may be refused. -/
inductive Publishes (c : Cluster) (t : Topology) (u : ConnectionUser) :
    Except SecretError Secret × Cluster → Prop where
  | unreadPassword {e : SecretError} (hpassword : c.passwordOf t u = .error e) :
    Publishes c t u (.error e, c)
  | unread {password : String} {e : ClientError} (hpassword : c.passwordOf t u = .ok password)
    (hsecret : c.secret? (u.secretNamespaceFor t) (u.secretNameFor t) = .error e) :
    Publishes c t u (.error (.client e), c)
  | kept {password : String} (hpassword : c.passwordOf t u = .ok password)
    (hsecret : c.secret? (u.secretNamespaceFor t) (u.secretNameFor t) =
      .ok (some (u.secret t password))) :
    Publishes c t u (.ok (u.secret t password), c)
  | refused {password message : String} (hpassword : c.passwordOf t u = .ok password)
    (hwrite : c.secretWriteFailures.get? (u.secretNamespaceFor t, u.secretNameFor t) =
      some message) :
    Publishes c t u (.error (.client (.api message)), c)
  | written {password : String} {found : Option Secret}
    (hpassword : c.passwordOf t u = .ok password)
    (hsecret : c.secret? (u.secretNamespaceFor t) (u.secretNameFor t) = .ok found)
    (hfound : found ≠ some (u.secret t password))
    (hwrite : c.secretWriteFailures.get? (u.secretNamespaceFor t, u.secretNameFor t) = none) :
    Publishes c t u (.ok (u.secret t password), c.withSecret (u.secret t password))

/-- Every call is one of `Publishes`. -/
theorem ensureConnectionStrings_spec (c : Cluster) (t : Topology) (u : ConnectionUser) :
    Publishes c t u (c.ensureConnectionStrings t u) := by
  unfold ensureConnectionStrings
  -- In the order of the call: the password, the published secret, whether it differs, the write.
  cases hpassword : c.passwordOf t u with
  | error e => exact .unreadPassword hpassword
  | ok password =>
    dsimp only
    cases hsecret : c.secret? (u.secret t password).namespaceName (u.secret t password).name with
    | error e => exact .unread hpassword hsecret
    | ok found =>
      dsimp only
      by_cases hfound : found = some (u.secret t password)
      · rw [if_pos hfound]
        exact .kept hpassword (hfound ▸ hsecret)
      · rw [if_neg hfound]
        cases hwrite : c.secretWriteFailures.get? (u.secretNamespaceFor t, u.secretNameFor t) with
        | some message =>
          rw [writing_eq_error (s := u.secret t password) hwrite]
          exact .refused hpassword hwrite
        | none =>
          rw [writing_eq_ok (s := u.secret t password) hwrite]
          exact .written hpassword hsecret hfound hwrite

/-- A call that succeeds returns the secret of the password that is read, and leaves it in its
place. -/
theorem exists_of_ensureConnectionStrings (h : c.ensureConnectionStrings t u = (.ok s, c')) :
    ∃ password, c.passwordOf t u = .ok password ∧ s = u.secret t password ∧
      c'.secret? (u.secretNamespaceFor t) (u.secretNameFor t) = .ok (some s) ∧
      (c' = c ∨ c' = c.withSecret s) := by
  have hspec := ensureConnectionStrings_spec c t u
  rw [h] at hspec
  cases hspec with
  | kept hpassword hsecret => exact ⟨_, hpassword, rfl, hsecret, .inl rfl⟩
  | written hpassword hsecret =>
    exact ⟨_, hpassword, rfl, secret?_withSecret_self (s := u.secret t _)
      (secret?_eq_ok_iff.mp hsecret).1, .inr rfl⟩

/-- Where the secret of `password` is published already, a call returns it and writes nothing if and
only if `password` is the one that is read. -/
theorem ensureConnectionStrings_eq_self_iff
    (hsecret : c.secret? (u.secretNamespaceFor t) (u.secretNameFor t) =
      .ok (some (u.secret t password))) :
    c.ensureConnectionStrings t u = (.ok (u.secret t password), c) ↔
      c.passwordOf t u = .ok password := by
  constructor
  · intro h
    obtain ⟨password', hpassword, hs, -⟩ := exists_of_ensureConnectionStrings h
    rw [hpassword, ConnectionUser.secret_inj.mp hs]
  · intro hpassword
    have hwanted : c.secret? (u.secret t password).namespaceName (u.secret t password).name =
        .ok (some (u.secret t password)) := hsecret
    simp only [ensureConnectionStrings, hpassword, hwanted, if_true]

/-! ## Calling again -/

/-- The password of `u` is empty if its database is `externalDatabase`, and otherwise the text under
`passwordKey` in `passwordSecret`. -/
theorem passwordOf_eq_ok_iff : c.passwordOf t u = .ok password ↔
    if u.database = externalDatabase then password = ""
    else ∃ s, c.secret? t.namespaceName u.passwordSecret = .ok (some s) ∧
      s.get? u.passwordKey = some password := by
  rw [passwordOf]
  split
  · rw [Except.ok.injEq, eq_comm]
  · exact readKey_eq_ok_iff

/-- Once `s` is published (`hpublished`) and nothing else has changed (`hothers`), the password is
read as before, unless `s` took the place of `passwordSecret` and differs under `passwordKey`. -/
theorem passwordOf_of_published (hpassword : c.passwordOf t u = .ok password)
    (hpublished : c'.secret? (u.secretNamespaceFor t) (u.secretNameFor t) = .ok (some s))
    (hothers : ∀ namespaceName name,
      (namespaceName, name) ≠ (u.secretNamespaceFor t, u.secretNameFor t) →
        c'.secret? namespaceName name = c.secret? namespaceName name) :
    c'.passwordOf t u = .ok password ↔
      (u.ReplacesPassword t → s.get? u.passwordKey = some password) := by
  rw [passwordOf_eq_ok_iff] at hpassword ⊢
  by_cases hexternal : u.database = externalDatabase
  · rw [if_pos hexternal] at hpassword ⊢
    exact iff_of_true hpassword fun h => absurd hexternal h.1
  · rw [if_neg hexternal] at hpassword ⊢
    by_cases hplace : (u.secretNamespaceFor t, u.secretNameFor t) =
        (t.namespaceName, u.passwordSecret)
    · obtain ⟨hnamespace, hname⟩ := Prod.mk.inj hplace
      rw [hnamespace, hname] at hpublished
      simp [hpublished, ConnectionUser.ReplacesPassword, hexternal, hplace]
    -- Published elsewhere: the secret with the password is one of the others.
    · rw [hothers _ _ (Ne.symm hplace)]
      exact iff_of_true hpassword fun h => absurd h.2 hplace

/-- A call that succeeded does the same again, and writes nothing, if and only if `s` holds the
password under `passwordKey` wherever it took the place of `passwordSecret`. -/
theorem ensureConnectionStrings_again_iff (h : c.ensureConnectionStrings t u = (.ok s, c')) :
    c'.ensureConnectionStrings t u = (.ok s, c') ↔
      (u.ReplacesPassword t → s.get? u.passwordKey = s.get? "password") := by
  obtain ⟨password, hpassword, rfl, hpublished, hc'⟩ := exists_of_ensureConnectionStrings h
  have hothers : ∀ namespaceName name,
      (namespaceName, name) ≠ (u.secretNamespaceFor t, u.secretNameFor t) →
        c'.secret? namespaceName name = c.secret? namespaceName name := by
    intro namespaceName name hne
    obtain rfl | rfl := hc'
    · rfl
    · exact secret?_withSecret_of_ne hne
  rw [ensureConnectionStrings_eq_self_iff hpublished,
    passwordOf_of_published hpassword hpublished hothers, ConnectionUser.get?_password_secret]

/-- A call that succeeds leaves the returned `s` in its place and every other secret as it was.
Calling again returns `s` and writes nothing, unless `s` took the place of `passwordSecret` and does
not hold the password under `passwordKey`. A call that fails changes nothing. -/
theorem ensureConnectionStrings_again (c : Cluster) (t : Topology) (u : ConnectionUser) :
    (∀ s c', c.ensureConnectionStrings t u = (.ok s, c') →
      (s.namespaceName = u.secretNamespaceFor t ∧ s.name = u.secretNameFor t) ∧
      c'.secret? s.namespaceName s.name = .ok (some s) ∧
      (∀ place ≠ (s.namespaceName, s.name), c'.secrets.get? place = c.secrets.get? place) ∧
      (c'.ensureConnectionStrings t u = (.ok s, c') ↔
        (u.ReplacesPassword t → s.get? u.passwordKey = s.get? "password"))) ∧
      ∀ e c', c.ensureConnectionStrings t u = (.error e, c') → c' = c := by
  refine ⟨fun s c' h => ?_, fun e c' h => ?_⟩
  · obtain ⟨password, -, hs, hpublished, hc'⟩ := exists_of_ensureConnectionStrings h
    have hplace : s.namespaceName = u.secretNamespaceFor t ∧ s.name = u.secretNameFor t := by
      rw [hs]
      exact ⟨rfl, rfl⟩
    refine ⟨hplace, ?_, fun place hne => ?_, ensureConnectionStrings_again_iff h⟩
    · rw [hplace.1, hplace.2]
      exact hpublished
    · obtain rfl | rfl := hc'
      · rfl
      · rw [get?_secrets_withSecret, if_neg hne]
  · have hspec := ensureConnectionStrings_spec c t u
    rw [h] at hspec
    cases hspec <;> rfl

/-- A cluster that holds the password of `ann`. -/
def guarded : Cluster := ({} : Cluster).insertSecret ⟨"db", "ann", Dict.empty.insert "pw" "pencil"⟩

/-- A replica set of one member. -/
def single : Topology := { name := "rs", namespaceName := "db", members := 1, version := "6.0.5" }

/-- A user whose connection strings are published beside `passwordSecret`. -/
def beside : ConnectionUser :=
  { username := "ann", database := "app", passwordSecret := "ann", passwordKey := "pw" }

/-- A user whose connection strings are published in the place of `passwordSecret`. -/
def inPlace : ConnectionUser := { beside with secretName := some "ann" }

theorem ensureConnectionStrings_again_beside :
    ∃ s c', guarded.ensureConnectionStrings single beside = (.ok s, c') ∧ s.name = "rs-app-ann" ∧
      c'.secrets.get? ("db", "ann") = guarded.secrets.get? ("db", "ann") ∧
      c'.ensureConnectionStrings single beside = (.ok s, c') := by
  have hcall : guarded.ensureConnectionStrings single beside = (.ok _, _) := rfl
  obtain ⟨-, -, hothers, hagain⟩ := (ensureConnectionStrings_again _ _ _).1 _ _ hcall
  refine ⟨_, _, hcall, by decide +kernel, hothers _ (by decide +kernel), hagain.mpr fun h => ?_⟩
  exact absurd h.2 (by decide +kernel)

/-- `inPlace` loses the password of `guarded`, so that the call cannot be repeated. -/
theorem password_replaced :
    ¬∀ (c c' : Cluster) (t : Topology) (u : ConnectionUser) (s : Secret),
      c.ensureConnectionStrings t u = (.ok s, c') →
        c'.ensureConnectionStrings t u = (.ok s, c') := by
  intro h
  have hcall : guarded.ensureConnectionStrings single inPlace = (.ok _, _) := rfl
  have hkept := (ensureConnectionStrings_again_iff hcall).mp (h _ _ _ _ _ hcall)
  exact absurd (hkept ⟨by decide +kernel, rfl⟩) (by decide +kernel)

end Cluster

end ReplicaControl
