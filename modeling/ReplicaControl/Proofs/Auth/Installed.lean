import ReplicaControl.Proofs.Auth.Agents
import ReplicaControl.Proofs.Scram

/-!
# Installed users

`enableAuth` installs the users that are asked for (specification, sections 4.2 and 10.3): those
known by a password if a variant of SCRAM is requested, and those known outside the deployment if
certificates are. Each carries the credentials of the requested variants, and nothing of what the
document held of it before.

- **Credentials** (`UserRequest.addCredentials_spec`): what `addCredentials` changes in a user.
- **Users of requests** (`AuthOptions.Installs`): what a user is that a request leads to
  (`AuthOptions.installs_of_user`).
- **Contributions** (`AuthOptions.installs_contributions`): they have such a user for each request
  that they admit.
- **Success** (`Document.exists_enableAuth_iff`): exactly when authentication is enabled.
- **Enabled documents** (`Document.enableAuth_users`): which users they have, in which order, and
  what each carries.
-/

namespace ReplicaControl

/-! ## Families of mechanisms -/

theorem Mechanism.isScram_iff {m : Mechanism} : m.isScram = true ↔ m.family = .scram := by
  cases m <;> decide

theorem Mechanism.family_eq_certificate_iff {m : Mechanism} :
    m.family = .certificate ↔ m = .x509 := by
  cases m <;> decide

/-! ## The credentials of a user -/

/-- The credentials of the user for a `ScramVariant`. -/
def User.credentialsFor? (u : User) : ScramVariant → Option ScramCredentials
  | .sha1 => u.scramSha1Credentials
  | .sha256 => u.scramSha256Credentials

/-- The user without its credentials. -/
def User.bare (u : User) : User :=
  { u with scramSha1Credentials := none, scramSha256Credentials := none }

theorem User.credentialsFor?_withCredentials (u : User) (v w : ScramVariant)
    (k : ScramCredentials) :
    (u.withCredentials v k).credentialsFor? w = if w = v then some k else u.credentialsFor? w := by
  cases v <;> cases w <;> rfl

theorem User.bare_withCredentials (u : User) (v : ScramVariant) (k : ScramCredentials) :
    (u.withCredentials v k).bare = u.bare := by
  cases v <;> rfl

theorem User.credentialsFor?_getD (u : User) (v w : ScramVariant) (k : Option ScramCredentials) :
    ((k.map (u.withCredentials v)).getD u).credentialsFor? w =
      if w = v then k.or (u.credentialsFor? w) else u.credentialsFor? w := by
  cases k with
  | none => simp
  | some k => simp [credentialsFor?_withCredentials]

theorem User.bare_getD (u : User) (v : ScramVariant) (k : Option ScramCredentials) :
    ((k.map (u.withCredentials v)).getD u).bare = u.bare := by
  cases k with
  | none => rfl
  | some k => exact bare_withCredentials u v k

namespace UserRequest

variable {r : UserRequest} {resource : String} {u u' : User} {vs : List ScramVariant}

/-- What tells the user apart that is asked for, as `User.key` does. -/
def key (r : UserRequest) : String × String := (r.username, r.database)

/-- The family of mechanisms by which the user is known: that of certificates if `isExternal`. -/
def family (r : UserRequest) : Mechanism.Family := if r.isExternal then .certificate else .scram

theorem decide_family_scram (r : UserRequest) : decide (r.family = .scram) = !r.isExternal := by
  unfold family
  cases r.isExternal <;> rfl

theorem decide_family_certificate (r : UserRequest) :
    decide (r.family = .certificate) = r.isExternal := by
  unfold family
  cases r.isExternal <;> rfl

/-- `family` is told by the database. -/
theorem family_congr {r r' : UserRequest} (h : r.key = r'.key) : r.family = r'.family := by
  have hdatabase : r.database = r'.database := congrArg Prod.snd h
  rw [family, family, isExternal, isExternal, hdatabase]

/-- `u'` is `u` with the credentials of the request for the variants `vs`, those of `u` being kept
where the request has none. -/
structure AddsCredentials (r : UserRequest) (resource : String) (vs : List ScramVariant)
    (u u' : User) : Prop where
  bare : u'.bare = u.bare
  others : ∀ v ∉ vs, u'.credentialsFor? v = u.credentialsFor? v
  added : ∀ v ∈ vs, ∃ k, r.credentialsFor resource v = .ok k ∧
    u'.credentialsFor? v = k.or (u.credentialsFor? v)

/-- What `addCredentials` gives is as `AddsCredentials` says. -/
theorem addCredentials_spec (h : r.addCredentials resource u vs = .ok u') :
    r.AddsCredentials resource vs u u' := by
  induction vs generalizing u with
  | nil =>
    cases h
    exact ⟨rfl, fun _ _ => rfl, nofun⟩
  | cons v vs ih =>
    rw [addCredentials] at h
    cases hk : r.credentialsFor resource v with
    | error e =>
      rw [hk] at h
      cases h
    | ok k =>
      rw [hk] at h
      obtain ⟨hbare, hothers, hadded⟩ := ih h
      have hfirst := fun w => u.credentialsFor?_getD v w k
      refine ⟨hbare.trans (u.bare_getD v k), fun w hw => ?_, fun w hw => ?_⟩
      · rw [List.mem_cons, not_or] at hw
        rw [hothers w hw.2, hfirst, if_neg hw.1]
      · by_cases hvs : w ∈ vs
        · obtain ⟨k', hk', hw'⟩ := hadded w hvs
          refine ⟨k', hk', ?_⟩
          rw [hw', hfirst]
          -- A variant that is listed again is given the same credentials again.
          split
          · next hwv =>
            subst hwv
            obtain rfl := Except.ok.inj (hk.symm.trans hk')
            cases k <;> simp
          · rfl
        · obtain rfl := (List.mem_cons.mp hw).resolve_right hvs
          exact ⟨k, hk, by rw [hothers w hvs, hfirst, if_pos rfl]⟩

/-- `addCredentials` succeeds if, for each variant, there are some to add or none needed. -/
theorem exists_addCredentials_iff : (∃ u', r.addCredentials resource u vs = .ok u') ↔
    ∀ v ∈ vs, ∃ k, r.credentialsFor resource v = .ok k := by
  induction vs generalizing u with
  | nil => exact iff_of_true ⟨u, rfl⟩ nofun
  | cons v vs ih =>
    rw [List.forall_mem_cons, addCredentials]
    cases r.credentialsFor resource v with
    | error e => exact iff_of_false nofun (fun h => nomatch h.1)
    | ok k => exact ih.trans (and_iff_right ⟨k, rfl⟩).symm

end UserRequest

/-! ## Requests and the users that they lead to -/

namespace AuthOptions

variable {o : AuthOptions} {r : UserRequest} {u : User} {requests rs : List UserRequest}
  {us : List User} {cs : List AuthContribution}

/-- What `u` is if the request `r` leads to it: it is as requested, and it carries the credentials
for the requested variants if it is known by a password or by credentials that were derived before.
-/
structure Installs (o : AuthOptions) (r : UserRequest) (u : User) : Prop where
  key : u.key = r.key
  roles : u.roles = r.roles
  restrictions : u.authenticationRestrictions = []
  mechanisms : u.mechanisms = []
  external : r.isExternal = true → ∀ v, u.credentialsFor? v = none
  absent : r.credentials = .absent → ∀ v, u.credentialsFor? v = none
  unrequested : ∀ v ∉ o.variants, u.credentialsFor? v = none
  password : r.isExternal = false → ∀ text, r.credentials = .password text → ∀ v ∈ o.variants,
    ∃ k, v.credentials r.username text (v.resourceSalt o.resource) = .ok k ∧
      u.credentialsFor? v = some k
  derived : r.isExternal = false → ∀ set, r.credentials = .derived set → ∀ v ∈ o.variants,
    u.credentialsFor? v = some (set.forVariant v)

theorem installs_plainUser (o : AuthOptions) (h : r.isExternal = true) :
    o.Installs r r.plainUser where
  key := rfl
  roles := rfl
  restrictions := rfl
  mechanisms := rfl
  external _ v := by cases v <;> rfl
  absent _ v := by cases v <;> rfl
  unrequested v _ := by cases v <;> rfl
  password hinternal := by cases h.symm.trans hinternal
  derived hinternal := by cases h.symm.trans hinternal

theorem installs_of_user (hinternal : r.isExternal = false)
    (h : r.user o.resource o.variants = .ok u) : o.Installs r u := by
  obtain ⟨hbare, hothers, hadded⟩ := UserRequest.addCredentials_spec h
  have hplain : ∀ v, r.plainUser.credentialsFor? v = none := fun v => by cases v <;> rfl
  have hbare' : u.bare = r.plainUser := hbare
  -- The user starts without credentials, so those added are all that it has.
  simp only [hplain, Option.or_none] at hothers hadded
  exact {
    key := congrArg User.key hbare'
    roles := congrArg User.roles hbare'
    restrictions := congrArg User.authenticationRestrictions hbare'
    mechanisms := congrArg User.mechanisms hbare'
    external := fun hexternal => by cases hinternal.symm.trans hexternal
    absent := fun habsent v => by
      by_cases hv : v ∈ o.variants
      · obtain ⟨k, hk, hu⟩ := hadded v hv
        rw [UserRequest.credentialsFor, habsent] at hk
        rw [hu, ← Except.ok.inj hk]
      · exact hothers v hv
    unrequested := hothers
    password := fun _ text hpassword v hv => by
      obtain ⟨k, hk, hu⟩ := hadded v hv
      rw [UserRequest.credentialsFor, hpassword] at hk
      cases hderived : v.credentials r.username text (v.resourceSalt o.resource) with
      | error e => simp [hderived, Except.map] at hk
      | ok k' =>
        simp only [hderived, Except.map, Except.ok.injEq] at hk
        exact ⟨k', rfl, hu.trans hk.symm⟩
    derived := fun _ set hset v hv => by
      obtain ⟨k, hk, hu⟩ := hadded v hv
      rw [UserRequest.credentialsFor, hset] at hk
      rw [hu, ← Except.ok.inj hk] }

/-! ## Contributed users -/

/-- The requests that lead to users, by the order of `families` and then in their own: those for
users known by a password if a variant of SCRAM is requested, those for users known outside the
deployment if certificates are. -/
def admitted (o : AuthOptions) (requests : List UserRequest) : List UserRequest :=
  o.families.flatMap fun f => requests.filter (·.family = f)

/-- What tells the users apart that the `admitted` requests lead to, with repetitions. -/
def admittedKeys (o : AuthOptions) (requests : List UserRequest) : List (String × String) :=
  (o.admitted requests).map UserRequest.key

/-- Whether a mechanism is requested by which the user of `r` is known, so that `r` leads to it. -/
def Admits (o : AuthOptions) (r : UserRequest) : Prop :=
  if r.isExternal then .x509 ∈ o.mechanisms else ∃ m ∈ o.mechanisms, m.isScram = true

theorem family_mem_iff_admits : r.family ∈ o.families ↔ o.Admits r := by
  rw [mem_families, Admits, UserRequest.family]
  split
  · simp only [Mechanism.family_eq_certificate_iff, exists_eq_right]
  · simp only [Mechanism.isScram_iff]

theorem mem_admitted : r ∈ o.admitted requests ↔ r ∈ requests ∧ o.Admits r := by
  rw [← family_mem_iff_admits, admitted, List.mem_flatMap]
  constructor
  · rintro ⟨f, hf, hr⟩
    obtain ⟨hr, hfamily⟩ := List.mem_filter.mp hr
    exact ⟨hr, by simpa using (of_decide_eq_true hfamily) ▸ hf⟩
  · rintro ⟨hr, hf⟩
    exact ⟨r.family, hf, List.mem_filter.mpr ⟨hr, by simp⟩⟩

/-- The first of the `admitted` requests with key `k` is the first request with that key: requests
of one key are of one family. -/
theorem find?_of_find?_admitted {k : String × String}
    (h : (o.admitted requests).find? (·.key = k) = some r) :
    requests.find? (·.key = k) = some r := by
  rw [admitted, List.find?_flatMap] at h
  obtain ⟨f, -, hf⟩ := List.exists_of_findSome?_eq_some h
  rw [List.find?_filter] at hf
  have hr : r.family = f ∧ r.key = k := by simpa using List.find?_some hf
  rw [← hf]
  congr 1
  funext r'
  have hfamily : r'.key = k → r'.family = f := fun hk =>
    (UserRequest.family_congr (hk.trans hr.2.symm)).trans hr.1
  simpa using fun hk => hfamily hk

/-- The users of a family are those that its requests lead to (`Installs`). -/
theorem installs_usersFor {f : Mechanism.Family} (h : o.usersFor requests f = .ok us) :
    List.Forall₂ o.Installs (requests.filter (·.family = f)) us := by
  cases f with
  | scram =>
    simp only [UserRequest.decide_family_scram]
    have hmapM := mapM_eq_ok_iff.mp (mapError_eq_ok_iff.mp h)
    refine ((List.forall₂_and_left _ _).mpr ⟨fun r hr => ?_, hmapM⟩).imp fun r u hru =>
      installs_of_user hru.1 hru.2
    simpa using (List.mem_filter.mp hr).2
  | certificate =>
    obtain rfl := Except.ok.inj h
    simp only [UserRequest.decide_family_certificate]
    rw [externalUsers, List.forall₂_map_right_iff, List.forall₂_same]
    exact fun r hr => o.installs_plainUser (List.mem_filter.mp hr).2

/-- Contributions have a user for each of the `admitted` requests, in the same order. -/
theorem installs_contributions (h : o.contributions requests = .ok cs) :
    List.Forall₂ o.Installs (o.admitted requests) (cs.flatMap (·.users)) := by
  obtain ⟨_, -, hcs⟩ := bind_eq_ok_iff.mp h
  refine List.rel_flatMap (mapM_eq_ok_iff.mp hcs) fun f c hc => ?_
  obtain ⟨_, -, hc⟩ := bind_eq_ok_iff.mp hc
  obtain ⟨us, hus, hc⟩ := bind_eq_ok_iff.mp hc
  obtain rfl := Except.ok.inj hc
  exact installs_usersFor hus

theorem map_key_of_installs (h : List.Forall₂ o.Installs rs us) :
    us.map User.key = rs.map UserRequest.key := by
  induction h with
  | nil => rfl
  | cons hru _ ih => rw [List.map_cons, List.map_cons, hru.key, ih]

/-- The first user with key `k` is what the first request with that key leads to. -/
theorem exists_find?_of_installs (h : List.Forall₂ o.Installs rs us) {k : String × String}
    (hu : us.find? (·.key = k) = some u) : ∃ r, rs.find? (·.key = k) = some r ∧ o.Installs r u := by
  induction h with
  | nil => cases hu
  | @cons r u' _ _ hru _ ih =>
    rw [List.find?_cons] at hu ⊢
    rw [← hru.key]
    split at hu
    · next hk =>
      obtain rfl := Option.some.inj hu
      exact ⟨r, rfl, hru⟩
    · exact ih hu

/-! ## Options that contribute -/

theorem exists_agentFor_iff {f : Mechanism.Family} : (∃ g, o.agentFor f = .ok g) ↔
    (o.agentMechanism.family = f → ∃ g, o.agentIdentity = .ok g) := by
  rw [agentFor_eq]
  split
  · next hf =>
    cases o.agentIdentity with
    | error e => exact iff_of_false nofun (fun h => nomatch h hf)
    | ok g => exact iff_of_true ⟨_, rfl⟩ fun _ => ⟨_, rfl⟩
  · next hf => exact iff_of_true ⟨_, rfl⟩ fun h => absurd h hf

/-- For every variant that `o` asks for, the credentials of each user that is known by a password,
if it has any, can be given. -/
def CanCredit (o : AuthOptions) (requests : List UserRequest) : Prop :=
  ∀ r ∈ requests, r.isExternal = false → ∀ v ∈ o.variants,
    ∃ k, r.credentialsFor o.resource v = .ok k

theorem exists_usersFor_iff {f : Mechanism.Family} : (∃ us, o.usersFor requests f = .ok us) ↔
    (f = .scram → o.CanCredit requests) := by
  cases f with
  | certificate => exact iff_of_true ⟨_, rfl⟩ nofun
  | scram =>
    simp only [usersFor, mapError_eq_ok_iff, passwordUsers, exists_mapM_iff, UserRequest.user,
      UserRequest.exists_addCredentials_iff, List.mem_filter, Bool.not_eq_true', and_imp,
      forall_const, CanCredit]

theorem exists_contribution_iff {f : Mechanism.Family} :
    (∃ c, o.contribution requests f = .ok c) ↔
      (∃ g, o.agentFor f = .ok g) ∧ ∃ us, o.usersFor requests f = .ok us := by
  constructor
  · rintro ⟨c, hc⟩
    obtain ⟨g, hg, hc⟩ := bind_eq_ok_iff.mp hc
    obtain ⟨us, hus, -⟩ := bind_eq_ok_iff.mp hc
    exact ⟨⟨g, hg⟩, us, hus⟩
  · rintro ⟨⟨g, hg⟩, us, hus⟩
    exact ⟨_, bind_eq_ok_iff.mpr ⟨g, hg, bind_eq_ok_iff.mpr ⟨us, hus, rfl⟩⟩⟩

/-- A variant of SCRAM is in `variants` only if its family is in `families`. -/
theorem scram_mem_families {v : ScramVariant} (h : v ∈ o.variants) : .scram ∈ o.families := by
  obtain ⟨m, hm, hv⟩ := List.mem_filterMap.mp h
  have hscram : m.isScram = true := by rw [Mechanism.isScram, hv, Option.isSome_some]
  exact mem_families.mpr ⟨m, List.mem_eraseDups.mp hm, Mechanism.isScram_iff.mp hscram⟩

/-- Options contribute if they pass `validate`, and if there are what the agents prove themselves
with (`agentIdentity`) and all credentials (`CanCredit`). -/
theorem exists_contributions_iff : (∃ cs, o.contributions requests = .ok cs) ↔
    o.validate = .ok () ∧ (∃ g, o.agentIdentity = .ok g) ∧ o.CanCredit requests := by
  have hcontributions : (∃ cs, o.contributions requests = .ok cs) ↔
      o.validate = .ok () ∧ ∃ cs, o.families.mapM (o.contribution requests) = .ok cs := by
    simp only [contributions, bind_eq_ok_iff]
    exact ⟨fun ⟨cs, _, hvalid, hcs⟩ => ⟨hvalid, cs, hcs⟩, fun ⟨hvalid, cs, hcs⟩ =>
      ⟨cs, (), hvalid, hcs⟩⟩
  rw [hcontributions, exists_mapM_iff]
  refine and_congr_right fun hvalid => ?_
  simp only [exists_contribution_iff, exists_agentFor_iff, exists_usersFor_iff]
  constructor
  · intro h
    refine ⟨(h _ (family_mem_families hvalid)).1 rfl, fun r hr hinternal v hv => ?_⟩
    exact (h _ (scram_mem_families hv)).2 rfl r hr hinternal v hv
  · exact fun h f _ => ⟨fun _ => h.1, fun _ => h.2⟩

end AuthOptions

/-! ## Enabled documents -/

namespace Document

variable {d d' : Document} {requests : List UserRequest} {o : AuthOptions}

/-- `enableAuth` succeeds, whatever the document holds, if the options pass `validate` and there are
what the agents prove themselves with (`agentIdentity`) and all credentials (`CanCredit`). -/
theorem exists_enableAuth_iff : (∃ d', d.enableAuth requests o = .ok d') ↔
    o.validate = .ok () ∧ (∃ g, o.agentIdentity = .ok g) ∧ o.CanCredit requests := by
  rw [← AuthOptions.exists_contributions_iff]
  simp only [enableAuth_eq_ok_iff]
  exact ⟨fun ⟨_, cs, hcs, _⟩ => ⟨cs, hcs⟩, fun ⟨cs, hcs⟩ => ⟨_, cs, hcs, rfl⟩⟩

/-- An enabled document has the users of the admitted requests and no others, each once. Those that
`d` had before come first, in their order, and the new ones follow in the order of the requests.
Each is what the first request for it leads to (`Installs`). -/
theorem enableAuth_users (h : d.enableAuth requests o = .ok d') :
    (∀ k, k ∈ d'.auth.users.map User.key ↔ ∃ r ∈ requests, o.Admits r ∧ r.key = k) ∧
      (d'.auth.users.map User.key).Nodup ∧
      d'.auth.users.map User.key =
        ((d.auth.users.map User.key).filter (· ∈ o.admittedKeys requests) ++
          o.admittedKeys requests).eraseDups ∧
      ∀ u ∈ d'.auth.users, ∃ r, requests.find? (·.key = u.key) = some r ∧ o.Installs r u := by
  obtain ⟨cs, hcs, rfl⟩ := enableAuth_eq_ok_iff.mp h
  have hinstalls := AuthOptions.installs_contributions hcs
  have hkeys := AuthOptions.map_key_of_installs hinstalls
  obtain ⟨hbefore, -⟩ := AuthSettings.contributed_users d.auth o.authoritative cs
  -- The keys of the contributed users are those of the admitted requests.
  refine ⟨fun k => ?_, AuthSettings.nodup_reconciledUsers _ _, ?_, fun u hu => ?_⟩
  · refine AuthSettings.key_mem_reconciledUsers.trans ?_
    rw [hkeys, List.mem_map]
    simp only [AuthOptions.mem_admitted, and_assoc]
  · show ((d.auth.contributed o.authoritative cs).reconciledUsers _).map User.key = _
    rw [AuthSettings.map_key_reconciledUsers, hkeys, hbefore, AuthOptions.admittedKeys]
  · obtain ⟨r, hr, hru⟩ := AuthOptions.exists_find?_of_installs hinstalls
      (AuthSettings.mem_reconciledUsers.mp hu)
    exact ⟨r, AuthOptions.find?_of_find?_admitted hr, hru⟩

/-- `ann` is asked for with a password, then `web`, which is known outside the deployment, and then
`ann` again with a role but no password. -/
def passwordRequests : List UserRequest :=
  [{ username := "ann", database := "app", credentials := .password "secret" },
    { username := "web", database := externalDatabase },
    { username := "ann", database := "app", roles := [⟨"read", "app"⟩] }]

/-- A password of printable characters has credentials for both variants of `mixedOptions`. -/
theorem canCredit_passwordRequests : mixedOptions.CanCredit passwordRequests := by
  intro r hr _ v _
  have hsalt : (v.resourceSalt mixedOptions.resource).length = v.saltSize := by
    cases v <;> decide +kernel
  have hprepare : ∃ prepared, Unicode.prepare (v.secretText "ann" "secret") = .ok prepared := by
    cases v with
    | sha1 => exact ⟨_, prepare_passwordDigest "ann" "secret"⟩
    | sha256 => exact ⟨_, Unicode.prepare_of_isPlain (by decide)⟩
  obtain ⟨prepared, hprepared⟩ := hprepare
  have hann : v.credentials "ann" "secret" (v.resourceSalt mixedOptions.resource) = .ok _ :=
    ScramVariant.credentials_eq_ok_iff.mpr ⟨hsalt, prepared, hprepared, rfl⟩
  simp only [passwordRequests, List.mem_cons, List.not_mem_nil, or_false] at hr
  obtain rfl | rfl | rfl := hr
  · exact ⟨_, congrArg (Except.map some) hann⟩
  · exact ⟨none, rfl⟩
  · exact ⟨none, rfl⟩

/-- The user that `overfull` held keeps the first place, and the new one has the credentials of the
first request for it, and no role. -/
theorem enableAuth_users_overfull :
    ∃ d', overfull.enableAuth passwordRequests mixedOptions = .ok d' ∧
      d'.auth.users.map User.key = [("web", externalDatabase), ("ann", "app")] ∧
      ∃ u ∈ d'.auth.users, u.key = ("ann", "app") ∧ u.roles = [] ∧
        ∀ v : ScramVariant, ∃ k, v.credentials "ann" "secret" (v.resourceSalt "rs") = .ok k ∧
          u.credentialsFor? v = some k := by
  obtain ⟨d', hd'⟩ := (exists_enableAuth_iff (d := overfull)).mpr
    ⟨rfl, ⟨_, rfl⟩, canCredit_passwordRequests⟩
  obtain ⟨hkeys, -, horder, hinstalls⟩ := enableAuth_users hd'
  have hann : ("ann", "app") ∈ d'.auth.users.map User.key :=
    (hkeys _).mpr ⟨_, List.mem_cons_self, ⟨_, List.mem_cons_of_mem _ List.mem_cons_self, rfl⟩, rfl⟩
  obtain ⟨u, hu, hkey⟩ := List.mem_map.mp hann
  obtain ⟨r, hr, hinstalled⟩ := hinstalls u hu
  rw [hkey] at hr
  obtain rfl := Option.some.inj hr
  exact ⟨d', hd', horder.trans (by decide +kernel), u, hu, hkey, hinstalled.roles, fun v =>
    hinstalled.password rfl "secret" rfl v (by cases v <;> decide)⟩

end Document

end ReplicaControl
