import ReplicaControl.Auth.Enable
import ReplicaControl.Proofs.Auth.Users
import ReplicaControl.Proofs.Except

/-!
# Enabling authentication again

What a document holds once `enableAuth` succeeded, and what it holds after many calls with other
users and options (specification, section 4.2).

- **Contributions** (`AuthSettings.foldl_withContribution`): they leave the last of the agents
  (`lastAgent?`), and the mechanisms of all, each once (`addMechanisms`).
- **The same call again** (`Document.enableAuth_again`): it changes nothing, as the contributions do
  not the second time (`AuthSettings.enabled_enabled`).
- **Lists in order** (`AuthSettings.Orderly`): nothing is listed twice, and nobody is both wanted
  and to be dropped. One call keeps it so (`AuthSettings.Orderly.enabled`).
- **Runs of calls** (`Document.enableAll_orderly`): the lists are in order after any of them, and no
  user is forgotten as long as the calls are authoritative.
-/

namespace ReplicaControl

/-! ## Mechanisms and agents -/

theorem Mechanism.recordedName_injective : Function.Injective Mechanism.recordedName := by
  intro m n h
  cases m <;> cases n <;> simp_all [Mechanism.recordedName]

/-- `names` with the recorded names of `ms`, each of which is listed once. -/
def addMechanisms (names : List String) (ms : List Mechanism) : List String :=
  ms.foldl (fun ns m => if ns.contains m.recordedName then ns else ns ++ [m.recordedName]) names

section AddMechanisms

variable {names : List String} {ms : List Mechanism}

theorem addMechanisms_cons (names : List String) (m : Mechanism) (ms : List Mechanism) :
    addMechanisms names (m :: ms) =
      addMechanisms
        (if names.contains m.recordedName then names else names ++ [m.recordedName]) ms :=
  rfl

theorem addMechanisms_append (names : List String) (ms ms' : List Mechanism) :
    addMechanisms names (ms ++ ms') = addMechanisms (addMechanisms names ms) ms' :=
  List.foldl_append

theorem nodup_addMechanisms (h : names.Nodup) (ms : List Mechanism) :
    (addMechanisms names ms).Nodup := by
  induction ms generalizing names with
  | nil => exact h
  | cons m ms ih =>
    rw [addMechanisms_cons]
    split
    · exact ih h
    · next hm =>
      exact ih (h.append (List.nodup_singleton _) (List.disjoint_singleton.mpr (by simpa using hm)))

theorem mem_addMechanisms {n : String} :
    n ∈ addMechanisms names ms ↔ n ∈ names ∨ n ∈ ms.map Mechanism.recordedName := by
  induction ms generalizing names with
  | nil => simp [addMechanisms]
  | cons m ms ih =>
    rw [addMechanisms_cons, ih, List.map_cons, List.mem_cons]
    split
    · next hm =>
      have hname : n = m.recordedName → n ∈ names := fun h => h ▸ by simpa using hm
      tauto
    · rw [List.mem_append, List.mem_singleton, or_assoc]

/-- `addMechanisms` adds nothing if all names are listed. -/
theorem addMechanisms_eq_self (h : ∀ m ∈ ms, m.recordedName ∈ names) :
    addMechanisms names ms = names := by
  induction ms with
  | nil => rfl
  | cons m ms ih =>
    obtain ⟨hm, hms⟩ := List.forall_mem_cons.mp h
    rw [addMechanisms_cons, if_pos (by simpa using hm), ih hms]

theorem addMechanisms_addMechanisms (names : List String) (ms : List Mechanism) :
    addMechanisms (addMechanisms names ms) ms = addMechanisms names ms :=
  addMechanisms_eq_self fun _ hm => mem_addMechanisms.mpr (.inr (List.mem_map_of_mem hm))

end AddMechanisms

/-- The `agent` of the last contribution that has one. -/
def lastAgent? : List AuthContribution → Option AgentIdentity
  | [] => none
  | c :: cs => (lastAgent? cs).or c.agent

theorem exists_of_lastAgent? {cs : List AuthContribution} {g : AgentIdentity}
    (h : lastAgent? cs = some g) : ∃ c ∈ cs, c.agent = some g := by
  induction cs with
  | nil => cases h
  | cons c cs ih =>
    rcases Option.or_eq_some_iff.mp h with h | ⟨-, h⟩
    · obtain ⟨c', hc', hg⟩ := ih h
      exact ⟨c', List.mem_cons_of_mem _ hc', hg⟩
    · exact ⟨c, List.mem_cons_self, h⟩

theorem lastAgent?_eq_none_iff {cs : List AuthContribution} :
    lastAgent? cs = none ↔ ∀ c ∈ cs, c.agent = none := by
  induction cs with
  | nil => simp [lastAgent?]
  | cons c cs ih => rw [lastAgent?, Option.or_eq_none_iff, ih, List.forall_mem_cons, and_comm]

namespace AuthSettings

/-- The settings with the agents `g`, if there are some. -/
def withAgent? (a : AuthSettings) (g : Option AgentIdentity) : AuthSettings :=
  (g.map a.withAgent).getD a

theorem foldl_withMechanism (a : AuthSettings) (ms : List Mechanism) :
    ms.foldl withMechanism a =
      { a with deploymentMechanisms := addMechanisms a.deploymentMechanisms ms } := by
  induction ms generalizing a with
  | nil => rfl
  | cons m ms ih =>
    rw [List.foldl_cons, ih, addMechanisms_cons, withMechanism]
    split <;> rfl

/-- Contributions leave the agents of `lastAgent?` and the mechanisms of all, and change nothing
else. -/
theorem foldl_withContribution (a : AuthSettings) (cs : List AuthContribution) :
    cs.foldl withContribution a =
      { a.withAgent? (lastAgent? cs) with
        deploymentMechanisms :=
          addMechanisms a.deploymentMechanisms (cs.flatMap (·.mechanisms)) } := by
  induction cs generalizing a with
  | nil => rfl
  | cons c cs ih =>
    have hc : a.withContribution c = { a.withAgent? c.agent with
        deploymentMechanisms := addMechanisms a.deploymentMechanisms c.mechanisms } := by
      rw [withContribution, foldl_withMechanism]
      cases c.agent <;> rfl
    rw [List.foldl_cons, ih, hc, List.flatMap_cons, addMechanisms_append, lastAgent?]
    -- Agents overwrite what earlier ones set, in the same fields, so only the last of them counts.
    cases lastAgent? cs <;> cases c.agent <;> rfl

/-- The settings that contributions leave before `reconcile`. -/
def contributed (a : AuthSettings) (authoritative : Bool) (cs : List AuthContribution) :
    AuthSettings :=
  cs.foldl withContribution { a with disabled := false, authoritative }

theorem enabled_eq (a : AuthSettings) (authoritative : Bool) (cs : List AuthContribution) :
    a.enabled authoritative cs =
      (a.contributed authoritative cs).reconcile (cs.flatMap (·.users)) :=
  rfl

/-- `reconcile` touches nothing that contributions set, so these set nothing new. -/
theorem contributed_reconcile (a : AuthSettings) (authoritative : Bool)
    (cs : List AuthContribution) (wanted : List User) :
    ((a.contributed authoritative cs).reconcile wanted).contributed authoritative cs =
      (a.contributed authoritative cs).reconcile wanted := by
  simp only [contributed, foldl_withContribution]
  cases lastAgent? cs <;>
    simp only [reconcile, withAgent?, withAgent, addMechanisms_addMechanisms, Option.map_none,
      Option.map_some, Option.getD_none, Option.getD_some]

/-- The same contributions `cs` once more change nothing. -/
theorem enabled_enabled (a : AuthSettings) (authoritative : Bool) (cs : List AuthContribution) :
    (a.enabled authoritative cs).enabled authoritative cs = a.enabled authoritative cs := by
  rw [enabled_eq, enabled_eq, contributed_reconcile, reconcile_reconcile]

end AuthSettings

/-! ## One call -/

namespace Document

variable {d d' : Document} {requests : List UserRequest} {o : AuthOptions}

/-- Whether `enableAuth` succeeds depends on the options and the requests alone. -/
theorem enableAuth_eq_ok_iff : d.enableAuth requests o = .ok d' ↔
    ∃ cs, o.contributions requests = .ok cs ∧
      d' = { d with auth := d.auth.enabled o.authoritative cs } := by
  unfold enableAuth
  cases o.contributions requests with
  | error e => simp
  | ok cs => simp [eq_comm]

/-- The same call once more changes nothing, whatever `d` held before the first. -/
theorem enableAuth_again (h : d.enableAuth requests o = .ok d') :
    d'.enableAuth requests o = .ok d' := by
  obtain ⟨cs, hcs, rfl⟩ := enableAuth_eq_ok_iff.mp h
  refine enableAuth_eq_ok_iff.mpr ⟨cs, hcs, ?_⟩
  rw [AuthSettings.enabled_enabled]

/-- `users` are listed twice, and so are a mechanism and a deletion. -/
def overfull : Document where
  auth :=
    { users :=
        [{ username := "bob", database := "app" },
          { username := "web", database := externalDatabase },
          { username := "bob", database := "app" }]
      deploymentMechanisms := ["PLAIN", "PLAIN"]
      deletedUsers := [⟨"ann", ["app", "app", "old"]⟩, ⟨"ann", []⟩] }

/-- `ann` is asked for twice, `web` is known outside the deployment. -/
def mixedRequests : List UserRequest :=
  [{ username := "ann", database := "app" }, { username := "web", database := externalDatabase },
    { username := "ann", database := "app", roles := [⟨"read", "app"⟩] }]

/-- `mechanisms` of both families, one of them twice. -/
def mixedOptions : AuthOptions where
  resource := "rs"
  mechanisms := [.x509, .scramSha256, .x509, .scramSha1]
  agentMechanism := .scramSha1
  agentPassword := "secret"
  keyfile := "shared-key"

theorem enableAuth_again_overfull :
    ∃ d', overfull.enableAuth mixedRequests mixedOptions = .ok d' ∧
      d'.enableAuth mixedRequests mixedOptions = .ok d' ∧
      d'.auth.users.map User.key = [("web", externalDatabase), ("ann", "app")] ∧
      d'.auth.deletedUsers = [⟨"ann", ["old"]⟩, ⟨"bob", ["app"]⟩] :=
  ⟨_, rfl, enableAuth_again rfl, by decide +kernel, by decide +kernel⟩

end Document

/-! ## Settings in order -/

/-- `eraseDups` leaves no element twice. -/
theorem nodup_eraseDups {α : Type} [BEq α] [LawfulBEq α] : ∀ as : List α, as.eraseDups.Nodup
  | [] => by
    rw [List.eraseDups_nil]
    exact List.nodup_nil
  | a :: as => by
    rw [List.eraseDups_cons, List.nodup_cons, List.mem_eraseDups]
    exact ⟨by simp, nodup_eraseDups _⟩
termination_by as => as.length
decreasing_by exact Nat.lt_succ_of_le (List.length_filter_le _ _)

namespace AuthOptions

variable {o : AuthOptions} {requests : List UserRequest}

/-- The agents of `agentFor` use one mechanism, or all of a family, each once. -/
theorem nodup_mechanisms_of_agentFor {f : Mechanism.Family} {g : AgentIdentity}
    (h : o.agentFor f = .ok (some g)) : g.mechanisms.Nodup := by
  unfold agentFor at h
  split at h
  -- With a password they use all requested variants, with a certificate only that.
  · cases f with
    | scram =>
      cases h
      exact (nodup_eraseDups _).filter _
    | certificate =>
      cases hs : o.agentSubject with
      | error e => simp [hs, Except.map] at h
      | ok subject =>
        simp only [hs, Except.map, Except.ok.injEq, Option.some.injEq] at h
        subst h
        exact List.nodup_singleton _
  · cases h

/-- A family contributes the agents that `agentFor` gives it, if there are some. -/
theorem agentFor_of_contribution {f : Mechanism.Family} {c : AuthContribution}
    (h : o.contribution requests f = .ok c) : o.agentFor f = .ok c.agent := by
  obtain ⟨g, hg, h⟩ := bind_eq_ok_iff.mp h
  obtain ⟨us, -, h⟩ := bind_eq_ok_iff.mp h
  obtain rfl := Except.ok.inj h
  exact hg

/-- The agents of contributions use no mechanism twice. -/
theorem nodup_mechanisms_of_contributions {cs : List AuthContribution}
    (h : o.contributions requests = .ok cs) {c : AuthContribution} (hc : c ∈ cs) {g : AgentIdentity}
    (hg : c.agent = some g) : g.mechanisms.Nodup := by
  obtain ⟨-, -, h⟩ := bind_eq_ok_iff.mp h
  obtain ⟨f, -, hf⟩ := exists_of_mem_mapM h hc
  exact nodup_mechanisms_of_agentFor (hg ▸ agentFor_of_contribution hf)

end AuthOptions

/-- No wanted user, no deletion and no mechanism is listed twice, and no wanted user is to be
dropped (`Drops`). -/
structure AuthSettings.Orderly (a : AuthSettings) : Prop where
  users_nodup : (a.users.map User.key).Nodup
  deletions : TidyDeletions a.deletedUsers
  not_drops : ∀ u ∈ a.users, ¬ Drops a.deletedUsers u.key
  deploymentMechanisms_nodup : a.deploymentMechanisms.Nodup
  agentMechanisms_nodup : a.agentMechanisms.Nodup

theorem AuthSettings.Orderly.off : AuthSettings.off.Orderly where
  users_nodup := List.nodup_nil
  deletions := ⟨List.nodup_nil, nofun, nofun⟩
  not_drops := nofun
  deploymentMechanisms_nodup := List.nodup_nil
  agentMechanisms_nodup := List.nodup_nil

namespace AuthSettings

/-- Contributions leave `users` and `deletedUsers` alone. -/
theorem contributed_users (a : AuthSettings) (authoritative : Bool) (cs : List AuthContribution) :
    (a.contributed authoritative cs).users = a.users ∧
      (a.contributed authoritative cs).deletedUsers = a.deletedUsers ∧
      (a.contributed authoritative cs).authoritative = authoritative := by
  rw [contributed, foldl_withContribution]
  cases lastAgent? cs <;> exact ⟨rfl, rfl, rfl⟩

/-- The agents' mechanisms are those of `lastAgent?`, or the ones that were there. -/
theorem contributed_agentMechanisms (a : AuthSettings) (authoritative : Bool)
    (cs : List AuthContribution) :
    (a.contributed authoritative cs).agentMechanisms =
      ((lastAgent? cs).map (·.mechanisms.map Mechanism.recordedName)).getD a.agentMechanisms := by
  rw [contributed, foldl_withContribution]
  cases lastAgent? cs <;> rfl

theorem contributed_deploymentMechanisms (a : AuthSettings) (authoritative : Bool)
    (cs : List AuthContribution) :
    (a.contributed authoritative cs).deploymentMechanisms =
      addMechanisms a.deploymentMechanisms (cs.flatMap (·.mechanisms)) := by
  rw [contributed, foldl_withContribution]

/-- Contributions keep settings `Orderly` if their agents use no mechanism twice (`hcs`). -/
theorem Orderly.enabled {a : AuthSettings} (h : a.Orderly) (authoritative : Bool)
    {cs : List AuthContribution} (hcs : ∀ c ∈ cs, ∀ g, c.agent = some g → g.mechanisms.Nodup) :
    (a.enabled authoritative cs).Orderly := by
  obtain ⟨-, hdeleted, -⟩ := contributed_users a authoritative cs
  have hdeletions : TidyDeletions (a.contributed authoritative cs).deletedUsers := by
    rw [hdeleted]
    exact h.deletions
  refine ⟨nodup_reconciledUsers _ _, tidyDeletions_reconciledDeletions hdeletions _,
    fun u hu => not_drops_reconciledDeletions hu, ?_, ?_⟩
  · show (a.contributed authoritative cs).deploymentMechanisms.Nodup
    rw [contributed_deploymentMechanisms]
    exact nodup_addMechanisms h.deploymentMechanisms_nodup _
  · show (a.contributed authoritative cs).agentMechanisms.Nodup
    rw [contributed_agentMechanisms]
    cases hg : lastAgent? cs with
    | none => exact h.agentMechanisms_nodup
    | some g =>
      obtain ⟨c, hc, hg⟩ := exists_of_lastAgent? hg
      exact (hcs c hc g hg).map Mechanism.recordedName_injective

/-- `authoritative` settings forget no key that was listed, as wanted or to be dropped. -/
theorem listed_enabled {a : AuthSettings} {cs : List AuthContribution} {k : String × String}
    (h : k ∈ a.users.map User.key ∨ Drops a.deletedUsers k) :
    k ∈ (a.enabled true cs).users.map User.key ∨ Drops (a.enabled true cs).deletedUsers k := by
  obtain ⟨husers, hdeleted, hauthoritative⟩ := contributed_users a true cs
  rw [← husers, ← hdeleted] at h
  exact listed_reconcile hauthoritative h

end AuthSettings

/-! ## Runs of calls -/

/-- What one call of `enableAuth` asks for. -/
structure AuthCall where
  requests : List UserRequest
  options : AuthOptions

namespace Document

/-- The document after `calls` that all succeed, one after the other. -/
def enableAll (d : Document) (calls : List AuthCall) : Except AuthError Document :=
  calls.foldlM (fun d c => d.enableAuth c.requests c.options) d

variable {d d' : Document} {calls : List AuthCall}

theorem enableAll_cons_eq_ok_iff {c : AuthCall} : d.enableAll (c :: calls) = .ok d' ↔
    ∃ e, d.enableAuth c.requests c.options = .ok e ∧ e.enableAll calls = .ok d' := by
  rw [enableAll, List.foldlM_cons]
  exact bind_eq_ok_iff

theorem enableAll_append_eq_ok_iff {before after : List AuthCall} :
    d.enableAll (before ++ after) = .ok d' ↔
      ∃ e, d.enableAll before = .ok e ∧ e.enableAll after = .ok d' := by
  rw [enableAll, List.foldlM_append]
  exact bind_eq_ok_iff

/-- A run of calls keeps settings `Orderly`. -/
theorem orderly_enableAll (hd : d.auth.Orderly) (h : d.enableAll calls = .ok d') :
    d'.auth.Orderly := by
  induction calls generalizing d with
  | nil =>
    cases h
    exact hd
  | cons c calls ih =>
    obtain ⟨e, he, h⟩ := enableAll_cons_eq_ok_iff.mp h
    obtain ⟨cs, hcs, rfl⟩ := enableAuth_eq_ok_iff.mp he
    exact ih (hd.enabled _ fun c hc g => AuthOptions.nodup_mechanisms_of_contributions hcs hc) h

/-- A run of `authoritative` calls forgets no key that was listed, as wanted or to be dropped. -/
theorem listed_enableAll {k : String × String} (hcalls : ∀ c ∈ calls, c.options.authoritative = true)
    (h : d.enableAll calls = .ok d')
    (hk : k ∈ d.auth.users.map User.key ∨ Drops d.auth.deletedUsers k) :
    k ∈ d'.auth.users.map User.key ∨ Drops d'.auth.deletedUsers k := by
  induction calls generalizing d with
  | nil =>
    cases h
    exact hk
  | cons c calls ih =>
    obtain ⟨hc, hcalls⟩ := List.forall_mem_cons.mp hcalls
    obtain ⟨e, he, h⟩ := enableAll_cons_eq_ok_iff.mp h
    obtain ⟨cs, -, rfl⟩ := enableAuth_eq_ok_iff.mp he
    refine ih hcalls h ?_
    rw [hc]
    exact AuthSettings.listed_enabled hk

/-- From settings that are off, any run of calls leads to settings in order. If all calls are
authoritative, whoever was wanted after some of them (`before`) is wanted or to be dropped at the
end. -/
theorem enableAll_orderly (hd : d.auth = .off) (h : d.enableAll calls = .ok d') :
    d'.auth.Orderly ∧
      ((∀ c ∈ calls, c.options.authoritative = true) →
        ∀ before after e, calls = before ++ after → d.enableAll before = .ok e →
          ∀ u ∈ e.auth.users,
            u.key ∈ d'.auth.users.map User.key ∨ Drops d'.auth.deletedUsers u.key) := by
  refine ⟨orderly_enableAll (hd ▸ .off) h, ?_⟩
  rintro hcalls before after e rfl he u hu
  obtain ⟨e', he', hafter⟩ := enableAll_append_eq_ok_iff.mp h
  obtain rfl : e = e' := Except.ok.inj (he.symm.trans he')
  have hcalls' : ∀ c ∈ after, c.options.authoritative = true := fun c hc =>
    hcalls c (List.mem_append_right _ hc)
  exact listed_enableAll hcalls' hafter (.inl (List.mem_map_of_mem hu))

/-- Two users are wanted, then one of them, then the other one again but in another database. -/
def changes : List AuthCall :=
  [⟨[{ username := "ann", database := "app" }, { username := "bob", database := "app" }],
      mixedOptions⟩,
    ⟨[{ username := "ann", database := "app" }], mixedOptions⟩,
    ⟨[{ username := "bob", database := "web" }], mixedOptions⟩]

theorem enableAll_orderly_changes :
    ∃ d' e, ({} : Document).enableAll changes = .ok d' ∧
      ({} : Document).enableAll (changes.take 1) = .ok e ∧
      (∀ c ∈ changes, c.options.authoritative = true) ∧
      (∃ u ∈ e.auth.users, u.key = ("bob", "app")) ∧ d'.auth.Orderly ∧
      (("bob", "app") ∈ d'.auth.users.map User.key ∨ Drops d'.auth.deletedUsers ("bob", "app")) ∧
      ("bob", "app") ∉ d'.auth.users.map User.key := by
  have hcalls : ∀ c ∈ changes, c.options.authoritative = true := by decide
  have hrun : ({} : Document).enableAll changes = .ok _ := rfl
  have hfirst : ({} : Document).enableAll (changes.take 1) = .ok _ := rfl
  obtain ⟨horderly, hlisted⟩ := enableAll_orderly rfl hrun
  have hbob := hlisted hcalls (changes.take 1) (changes.drop 1) _ rfl hfirst
    { username := "bob", database := "app" } (by decide +kernel)
  exact ⟨_, _, hrun, hfirst, hcalls, ⟨{ username := "bob", database := "app" }, by decide +kernel, rfl⟩,
    horderly, hbob, by decide +kernel⟩

end Document

end ReplicaControl
