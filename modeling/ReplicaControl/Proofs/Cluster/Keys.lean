import Mathlib.Data.Finset.Card
import ReplicaControl.Cluster.Credentials

/-!
# Secrets, and texts that are stored once

What is found in secrets and what is written to them, and from that the texts of `ensureKey`: a call
stores a fresh text only if there is none under its key (specification, sections 6 and 10.3).
Whatever keys of whatever secrets a run of calls asks for, it replaces no text, and each call
returns what is kept at its own place from then on.

- **Look-ups** (`secret?_eq_ok_iff`, `readKey_eq_ok_iff`): what is found, also once a secret is
  written (`secret?_withSecret_self`, `secret?_withSecret_of_ne`).
- **Writes** (`writing_eq_ok`, `writing_eq_error`): what they return and leave.
- **One call** (`KeepsText`): what `ensureKey` can do, and that it does no more (`ensureKey_spec`).
- **Runs of calls** (`ensureKeys_kept`): what the calls return, what they keep, and how often they
  write.
-/

namespace ReplicaControl

/-- `withEntry` changes the text under `key` only. -/
theorem Secret.get?_withEntry (s : Secret) (key value other : String) :
    (s.withEntry key value).get? other = if other = key then some value else s.get? other :=
  Dict.get?_insert _ _ _ _

namespace Cluster

variable {c : Cluster} {namespaceName name message : String} {s : Secret} {found : Option Secret}

/-- A look-up that is not set to fail finds what `c.secrets` holds. -/
theorem secret?_eq_ok_iff : c.secret? namespaceName name = .ok found ↔
    c.secretReadFailures.get? (namespaceName, name) = none ∧
      found = (c.secrets.get? (namespaceName, name)).map (⟨namespaceName, name, ·⟩) := by
  rw [secret?]
  cases c.secretReadFailures.get? (namespaceName, name) with
  | some message => simp
  | none => simp [eq_comm]

/-- Neither look-ups nor writes of the secret `name` are set to fail. -/
structure Serves (c : Cluster) (namespaceName name : String) : Prop where
  reads : c.secretReadFailures.get? (namespaceName, name) = none
  writes : c.secretWriteFailures.get? (namespaceName, name) = none

/-- The cluster with `s` written. -/
def withSecret (c : Cluster) (s : Secret) : Cluster :=
  { c.insertSecret s with secretWrites := c.secretWrites + 1 }

/-- `withSecret` replaces the texts of the secret of its name, and no others. -/
theorem get?_secrets_withSecret (c : Cluster) (s : Secret) (key : String × String) :
    (c.withSecret s).secrets.get? key =
      if key = (s.namespaceName, s.name) then some s.data else c.secrets.get? key :=
  Dict.get?_insert _ _ _ _

/-- `withSecret` leaves a secret that is found, unless look-ups of it fail. -/
theorem secret?_withSecret_self (h : c.secretReadFailures.get? (s.namespaceName, s.name) = none) :
    (c.withSecret s).secret? s.namespaceName s.name = .ok (some s) := by
  refine secret?_eq_ok_iff.mpr ⟨h, ?_⟩
  rw [get?_secrets_withSecret, if_pos rfl]
  rfl

/-- `withSecret` leaves the look-ups of all other secrets as they were. -/
theorem secret?_withSecret_of_ne (h : (namespaceName, name) ≠ (s.namespaceName, s.name)) :
    (c.withSecret s).secret? namespaceName name = c.secret? namespaceName name := by
  have hreads : (c.withSecret s).secretReadFailures = c.secretReadFailures := rfl
  rw [secret?, secret?, get?_secrets_withSecret, if_neg h, hreads]

/-- `readKey` gives the text under `key` in a secret that is found and has one. -/
theorem readKey_eq_ok_iff {key text : String} : c.readKey namespaceName name key = .ok text ↔
    ∃ s, c.secret? namespaceName name = .ok (some s) ∧ s.get? key = some text := by
  rw [readKey, getSecret]
  cases c.secret? namespaceName name with
  | error e => simp
  | ok found =>
    cases found with
    | none => simp
    | some s => cases htext : s.get? key <;> simp [htext]

theorem putSecret_eq_ok (h : c.secretWriteFailures.get? (s.namespaceName, s.name) = none) :
    c.putSecret s = .ok (c.withSecret s) := by
  rw [putSecret, h]
  rfl

theorem putSecret_eq_error
    (h : c.secretWriteFailures.get? (s.namespaceName, s.name) = some message) :
    c.putSecret s = .error (.api message) := by
  rw [putSecret, h]

theorem writing_eq_ok {α : Type}
    (h : c.secretWriteFailures.get? (s.namespaceName, s.name) = none) (a : α) :
    c.writing s a = (.ok a, c.withSecret s) := by
  rw [writing, putSecret_eq_ok h]

theorem writing_eq_error {α : Type}
    (h : c.secretWriteFailures.get? (s.namespaceName, s.name) = some message) (a : α) :
    c.writing s a = (.error (.client (.api message)), c) := by
  rw [writing, putSecret_eq_error h]

end Cluster

/-- A call of `ensureKey`, with the text `fresh` to store if there is none under `key`. -/
structure KeyCall where
  namespaceName : String
  name : String
  key : String
  fresh : String

/-- Where the text of a call is kept: the namespace and the name of a secret, and a `key` in it. -/
def KeyCall.place (k : KeyCall) : (String × String) × String := ((k.namespaceName, k.name), k.key)

namespace Cluster

variable {c : Cluster} {k : KeyCall} {calls : List KeyCall} {place : (String × String) × String}
  {text : String}

/-! ## Texts in their places -/

/-- The text at `place`. -/
def textAt? (c : Cluster) (place : (String × String) × String) : Option String :=
  (c.secrets.get? place.1).bind (·.get? place.2)

/-- The secret of `k` as the cluster holds it, without any text if it holds none. -/
def secretFor (c : Cluster) (k : KeyCall) : Secret :=
  ⟨k.namespaceName, k.name, (c.secrets.get? (k.namespaceName, k.name)).getD .empty⟩

/-- The cluster with the `fresh` text of the call stored. -/
def withText (c : Cluster) (k : KeyCall) : Cluster :=
  c.withSecret ((c.secretFor k).withEntry k.key k.fresh)

theorem get?_secretFor (c : Cluster) (k : KeyCall) (key : String) :
    (c.secretFor k).get? key = c.textAt? ((k.namespaceName, k.name), key) := by
  unfold secretFor textAt? Secret.get?
  cases c.secrets.get? (k.namespaceName, k.name) <;> rfl

theorem get?_secrets_withText (c : Cluster) (k : KeyCall) (secret : String × String) :
    (c.withText k).secrets.get? secret =
      if secret = (k.namespaceName, k.name) then some ((c.secretFor k).withEntry k.key k.fresh).data
      else c.secrets.get? secret :=
  get?_secrets_withSecret _ _ _

/-- `withText` changes no other text, not even in the same secret. -/
theorem textAt?_withText (c : Cluster) (k : KeyCall) (place : (String × String) × String) :
    (c.withText k).textAt? place = if place = k.place then some k.fresh else c.textAt? place := by
  rw [textAt?, get?_secrets_withText]
  by_cases hsecret : place.1 = (k.namespaceName, k.name)
  · have hplace : place = k.place ↔ place.2 = k.key := by
      simp [KeyCall.place, Prod.ext_iff, hsecret]
    have hentry := Secret.get?_withEntry (c.secretFor k) k.key k.fresh place.2
    rw [get?_secretFor, ← hsecret] at hentry
    rw [if_pos hsecret, Option.bind_some]
    simp only [hplace]
    exact hentry
  · have hplace : place ≠ k.place := fun h => hsecret (congrArg Prod.fst h)
    rw [if_neg hsecret, if_neg hplace, textAt?]

/-! ## One call -/

/-- What `ensureKey` can do, with what it returns and the cluster that it leaves: fail to read the
secret, keep the text that is there, or store a fresh one, which may be refused. -/
inductive KeepsText (c : Cluster) (k : KeyCall) : Except SecretError String × Cluster → Prop where
  | unread {message : String}
    (hread : c.secretReadFailures.get? (k.namespaceName, k.name) = some message) :
    KeepsText c k (.error (.client (.api message)), c)
  | kept {text : String} (htext : c.textAt? k.place = some text) : KeepsText c k (.ok text, c)
  | refused {message : String} (habsent : c.textAt? k.place = none)
    (hwrite : c.secretWriteFailures.get? (k.namespaceName, k.name) = some message) :
    KeepsText c k (.error (.client (.api message)), c)
  | stored (habsent : c.textAt? k.place = none)
    (hwrite : c.secretWriteFailures.get? (k.namespaceName, k.name) = none) :
    KeepsText c k (.ok k.fresh, c.withText k)

/-- Every call is one of `KeepsText`. -/
theorem ensureKey_spec (c : Cluster) (k : KeyCall) :
    KeepsText c k (c.ensureKey k.namespaceName k.name k.key k.fresh) := by
  unfold ensureKey
  cases hread : c.secretReadFailures.get? (k.namespaceName, k.name) with
  | some message =>
    rw [secret?, hread]
    exact .unread hread
  | none =>
    -- The secret to which the text is added is an empty one if none was found.
    have hsecret : ((c.secrets.get? (k.namespaceName, k.name)).map
        (Secret.mk k.namespaceName k.name)).getD { namespaceName := k.namespaceName, name := k.name } =
          c.secretFor k := by
      unfold secretFor
      cases c.secrets.get? (k.namespaceName, k.name) <;> rfl
    rw [secret?_eq_ok_iff.mpr ⟨hread, rfl⟩]
    simp only [hsecret, get?_secretFor]
    cases htext : c.textAt? ((k.namespaceName, k.name), k.key) with
    | some text => exact .kept htext
    | none =>
      show KeepsText c k (c.writing ((c.secretFor k).withEntry k.key k.fresh) k.fresh)
      cases hwrite : c.secretWriteFailures.get? (k.namespaceName, k.name) with
      | some message =>
        rw [writing_eq_error (s := (c.secretFor k).withEntry k.key k.fresh) hwrite]
        exact .refused htext hwrite
      | none =>
        rw [writing_eq_ok (s := (c.secretFor k).withEntry k.key k.fresh) hwrite]
        exact .stored htext hwrite

/-- `ensureKey` replaces no text. -/
theorem textAt?_ensureKey (htext : c.textAt? place = some text) :
    (c.ensureKey k.namespaceName k.name k.key k.fresh).2.textAt? place = some text := by
  have hspec := ensureKey_spec c k
  generalize c.ensureKey k.namespaceName k.name k.key k.fresh = result at hspec
  cases hspec with
  | unread | kept | refused => exact htext
  | stored habsent =>
    have hplace : place ≠ k.place := by
      rintro rfl
      cases habsent.symm.trans htext
    rw [textAt?_withText, if_neg hplace, htext]

/-- In a cluster that `Serves` the secret, a call returns the text at its place, which is its
`fresh` one if there was none. -/
theorem Serves.ensureKey_eq (h : c.Serves k.namespaceName k.name) :
    c.ensureKey k.namespaceName k.name k.key k.fresh =
      match c.textAt? k.place with
      | some text => (.ok text, c)
      | none => (.ok k.fresh, c.withText k) := by
  have hspec := ensureKey_spec c k
  generalize c.ensureKey k.namespaceName k.name k.key k.fresh = result at hspec ⊢
  cases hspec with
  | unread hread => cases hread.symm.trans h.reads
  | kept htext => rw [htext]
  | refused _ hwrite => cases hwrite.symm.trans h.writes
  | stored habsent => rw [habsent]

/-- `withText` sets no request to fail. -/
theorem Serves.withText {namespaceName name : String} (h : c.Serves namespaceName name) :
    (c.withText k).Serves namespaceName name :=
  ⟨h.reads, h.writes⟩

/-! ## Runs of calls -/

/-- Calls of `ensureKey` one after the other: what each of them returns, and the cluster that is
left. -/
def ensureKeys (c : Cluster) : List KeyCall → List (Except SecretError String) × Cluster
  | [] => ([], c)
  | k :: ks =>
    let first := c.ensureKey k.namespaceName k.name k.key k.fresh
    let others := first.2.ensureKeys ks
    (first.1 :: others.1, others.2)

theorem ensureKeys_append (c : Cluster) (ks ks' : List KeyCall) :
    (c.ensureKeys (ks ++ ks')).2 = ((c.ensureKeys ks).2.ensureKeys ks').2 := by
  induction ks generalizing c with
  | nil => rfl
  | cons k ks ih => exact ih _

/-- `ensureKeys` replaces no text. -/
theorem textAt?_ensureKeys (htext : c.textAt? place = some text) (ks : List KeyCall) :
    (c.ensureKeys ks).2.textAt? place = some text := by
  induction ks generalizing c with
  | nil => exact htext
  | cons k ks ih => exact ih (textAt?_ensureKey htext)

/-- The text at `place` once `calls` were made: the one that stood there before them, or else the
`fresh` one of the first of them that is on that place. -/
def keptText? (c : Cluster) (calls : List KeyCall) (place : (String × String) × String) :
    Option String :=
  (c.textAt? place).or ((calls.find? (·.place = place)).map (·.fresh))

/-- The places of `calls` at which there was no text before them. -/
def vacantPlaces (c : Cluster) (calls : List KeyCall) : Finset ((String × String) × String) :=
  (calls.map KeyCall.place).toFinset.filter fun place => c.textAt? place = none

theorem keptText?_cons_of_textAt? (htext : c.textAt? k.place = some text)
    (place : (String × String) × String) :
    c.keptText? (k :: calls) place = c.keptText? calls place := by
  unfold keptText?
  by_cases hplace : k.place = place
  · simp [← hplace, htext]
  · simp [hplace]

theorem keptText?_cons_of_absent (habsent : c.textAt? k.place = none)
    (place : (String × String) × String) :
    c.keptText? (k :: calls) place = (c.withText k).keptText? calls place := by
  unfold keptText?
  rw [textAt?_withText]
  by_cases hplace : k.place = place
  · simp [← hplace, habsent]
  · simp [hplace, Ne.symm hplace]

theorem vacantPlaces_cons_of_textAt? (htext : c.textAt? k.place = some text) :
    c.vacantPlaces (k :: calls) = c.vacantPlaces calls := by
  unfold vacantPlaces
  rw [List.map_cons, List.toFinset_cons, Finset.filter_insert, if_neg (by simp [htext])]

theorem vacantPlaces_cons_of_absent (habsent : c.textAt? k.place = none) :
    c.vacantPlaces (k :: calls) = insert k.place ((c.withText k).vacantPlaces calls) := by
  ext place
  simp only [vacantPlaces, Finset.mem_filter, List.mem_toFinset, List.map_cons, List.mem_cons,
    Finset.mem_insert, textAt?_withText]
  by_cases hplace : place = k.place
  · simp [hplace, habsent]
  · simp [hplace]

/-- The place of `k` is not vacant once its text is stored. -/
theorem place_notMem_vacantPlaces (c : Cluster) (k : KeyCall) (calls : List KeyCall) :
    k.place ∉ (c.withText k).vacantPlaces calls := by
  simp [vacantPlaces, textAt?_withText]

/-- Calls of which no request fails return the texts at their places, leave every place with its
text (`keptText?`), and write once for each of the `vacantPlaces`. -/
theorem exists_texts_of_serves (hserves : ∀ k ∈ calls, c.Serves k.namespaceName k.name) :
    ∃ texts : List String, (c.ensureKeys calls).1 = texts.map .ok ∧
      texts.map some = calls.map (fun k => c.keptText? calls k.place) ∧
      (∀ place, (c.ensureKeys calls).2.textAt? place = c.keptText? calls place) ∧
      (c.ensureKeys calls).2.secretWrites = c.secretWrites + (c.vacantPlaces calls).card := by
  induction calls generalizing c with
  | nil => exact ⟨[], rfl, rfl, fun place => (Option.or_none).symm, rfl⟩
  | cons k ks ih =>
    obtain ⟨hk, hks⟩ := List.forall_mem_cons.mp hserves
    rw [ensureKeys, hk.ensureKey_eq]
    -- Either way the rest of the run keeps the same texts as the whole run.
    cases htext : c.textAt? k.place with
    | some text =>
      obtain ⟨texts, houtcomes, htexts, hleft, hwrites⟩ := ih hks
      have hkept : ∀ place, c.keptText? (k :: ks) place = c.keptText? ks place :=
        keptText?_cons_of_textAt? htext
      refine ⟨text :: texts, congrArg (.ok text :: ·) houtcomes, ?_, ?_, ?_⟩
      · have hfirst : c.keptText? (k :: ks) k.place = some text := by simp [keptText?, htext]
        rw [List.map_cons, List.map_cons, hfirst, htexts]
        simp only [hkept]
      · exact fun place => (hleft place).trans (hkept place).symm
      · rw [vacantPlaces_cons_of_textAt? htext]
        exact hwrites
    | none =>
      obtain ⟨texts, houtcomes, htexts, hleft, hwrites⟩ := ih fun k' hk' => (hks k' hk').withText
      have hkept : ∀ place, c.keptText? (k :: ks) place = (c.withText k).keptText? ks place :=
        keptText?_cons_of_absent htext
      refine ⟨k.fresh :: texts, congrArg (.ok k.fresh :: ·) houtcomes, ?_, ?_, ?_⟩
      · have hfirst : c.keptText? (k :: ks) k.place = some k.fresh := by simp [keptText?, htext]
        rw [List.map_cons, List.map_cons, hfirst, htexts]
        simp only [hkept]
      · exact fun place => (hleft place).trans (hkept place).symm
      · have hstored : (c.withText k).secretWrites = c.secretWrites + 1 := rfl
        rw [vacantPlaces_cons_of_absent htext,
          Finset.card_insert_of_notMem (place_notMem_vacantPlaces c k ks)]
        show ((c.withText k).ensureKeys ks).2.secretWrites = _
        rw [hwrites, hstored]
        omega

/-- In a run of calls of which no request fails, all calls on one place return the same text: the
one that stood there before the run, or else the `fresh` one of the first of them (`keptText?`). A
text that is stored at any time stays for the rest of the run. One write is made for each place that
was asked for and had no text before the run (`vacantPlaces`). -/
theorem ensureKeys_kept (hserves : ∀ k ∈ calls, c.Serves k.namespaceName k.name) :
    (∃ texts : List String, (c.ensureKeys calls).1 = texts.map .ok ∧
      texts.map some = calls.map fun k => c.keptText? calls k.place) ∧
      (∀ earlier later, earlier <+: later → later <+: calls → ∀ place text,
        (c.ensureKeys earlier).2.textAt? place = some text →
          (c.ensureKeys later).2.textAt? place = some text) ∧
      (∀ place, (c.ensureKeys calls).2.textAt? place = c.keptText? calls place) ∧
      (c.ensureKeys calls).2.secretWrites = c.secretWrites + (c.vacantPlaces calls).card := by
  obtain ⟨texts, houtcomes, htexts, hleft, hwrites⟩ := exists_texts_of_serves hserves
  refine ⟨⟨texts, houtcomes, htexts⟩, ?_, hleft, hwrites⟩
  rintro earlier _ ⟨others, rfl⟩ - place text htext
  rw [ensureKeys_append]
  exact textAt?_ensureKeys htext others

/-- A cluster that holds a `keyfile`. -/
def keyed : Cluster := ({} : Cluster).insertSecret ⟨"db", "rs", Dict.empty.insert "keyfile" "old"⟩

/-- Calls for two keys of one secret, in turns, and for one of another secret. -/
def keyCalls : List KeyCall :=
  [⟨"db", "rs", "keyfile", "a"⟩, ⟨"db", "rs", "password", "b"⟩, ⟨"db", "other", "password", "c"⟩,
    ⟨"db", "rs", "password", "d"⟩, ⟨"db", "rs", "keyfile", "e"⟩]

theorem ensureKeys_kept_turns :
    (keyed.ensureKeys keyCalls).1 = ["old", "b", "c", "b", "old"].map .ok ∧
      (keyed.ensureKeys keyCalls).2.textAt? (("db", "rs"), "keyfile") = some "old" ∧
      (keyed.ensureKeys keyCalls).2.textAt? (("db", "rs"), "password") = some "b" ∧
      (keyed.ensureKeys keyCalls).2.secretWrites = 2 := by
  have hserves : ∀ k ∈ keyCalls, keyed.Serves k.namespaceName k.name := fun _ _ => ⟨rfl, rfl⟩
  obtain ⟨⟨texts, houtcomes, htexts⟩, hkept, hleft, hwrites⟩ := ensureKeys_kept hserves
  have htexts' : texts.map some = ["old", "b", "c", "b", "old"].map some :=
    htexts.trans (by decide +kernel)
  rw [List.map_injective_iff.mpr (Option.some_injective _) htexts'] at houtcomes
  refine ⟨houtcomes, ?_, (hleft _).trans (by decide +kernel), hwrites.trans (by decide +kernel)⟩
  exact hkept [] keyCalls List.nil_prefix (List.prefix_refl _) _ _ (by decide +kernel)

end Cluster

end ReplicaControl
