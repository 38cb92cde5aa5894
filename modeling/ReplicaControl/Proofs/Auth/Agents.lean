import ReplicaControl.Proofs.Auth.Enable

/-!
# The agents of a document

What agents prove themselves with follows from the options alone (specification, section 4.2). Only
the family of `agentMechanism` contributes agents, and it is always among the requested ones, so
that once authentication was enabled nothing is left of what a document said of its agents before.

- **Agent settings** (`AuthSettings.agents`, `AuthOptions.agents`): what settings say of the agents,
  and what options ask for.
- **Contributions** (`AuthOptions.lastAgent?_of_contributions`): the agents that they leave are
  those of the options.
- **Enabled documents** (`Document.enableAuth_agents`): they agree on their agents, whatever they
  held before.
-/

namespace ReplicaControl

/-- The fields of `AuthSettings` that say how agents prove themselves, with `disabled` and
`authoritative`. -/
structure AgentSettings where
  disabled : Bool
  authoritative : Bool
  user : String
  password : String
  key : String
  keyFile : String
  keyFileWindows : String
  mechanism : String
  mechanisms : List String
deriving DecidableEq

/-- The part of the settings that is about the agents. -/
def AuthSettings.agents (a : AuthSettings) : AgentSettings where
  disabled := a.disabled
  authoritative := a.authoritative
  user := a.agentUser
  password := a.agentPassword
  key := a.key
  keyFile := a.keyFile
  keyFileWindows := a.keyFileWindows
  mechanism := a.agentMechanism
  mechanisms := a.agentMechanisms

namespace AuthOptions

variable {o : AuthOptions} {requests : List UserRequest} {cs : List AuthContribution}

/-! ## The agents that options ask for -/

/-- What the agents prove themselves with, by the family of `agentMechanism`: a password or a
certificate. -/
def agentIdentity (o : AuthOptions) : Except AuthError AgentIdentity :=
  match o.agentMechanism.family with
  | .scram => .ok o.passwordAgent
  | .certificate => o.agentSubject.map o.certificateAgent

/-- What the options ask for the agents, or why there is no `agentIdentity`. -/
def agents (o : AuthOptions) : Except AuthError AgentSettings :=
  o.agentIdentity.map fun g =>
    { disabled := false
      authoritative := o.authoritative
      user := g.user
      password := g.password
      key := g.key
      keyFile := g.keyFile
      keyFileWindows := windowsKeyfilePath
      mechanism := g.mechanism.recordedName
      mechanisms := g.mechanisms.map Mechanism.recordedName }

/-- Only the family of `agentMechanism` contributes agents, which are `agentIdentity`. -/
theorem agentFor_eq (o : AuthOptions) (f : Mechanism.Family) :
    o.agentFor f = if o.agentMechanism.family = f then o.agentIdentity.map some else .ok none := by
  unfold agentFor agentIdentity
  split
  · next hf =>
    subst hf
    cases o.agentMechanism.family with
    | scram => rfl
    | certificate => cases o.agentSubject <;> rfl
  · rfl

theorem agentIdentity_of_agentFor {f : Mechanism.Family} {g : AgentIdentity}
    (h : o.agentFor f = .ok (some g)) : o.agentIdentity = .ok g := by
  rw [agentFor_eq] at h
  split at h
  · cases hidentity : o.agentIdentity with
    | error e => simp [hidentity, Except.map] at h
    | ok g' => simpa [hidentity, Except.map] using h
  · simp at h

theorem family_ne_of_agentFor {f : Mechanism.Family} (h : o.agentFor f = .ok none) :
    o.agentMechanism.family ≠ f := by
  rintro rfl
  rw [agentFor_eq, if_pos rfl] at h
  cases hidentity : o.agentIdentity <;> simp [hidentity, Except.map] at h

theorem mem_families {f : Mechanism.Family} :
    f ∈ o.families ↔ ∃ m ∈ o.mechanisms, m.family = f := by
  rw [families, List.mem_eraseDups, List.mem_map]

/-- Options that pass `validate` request the family of `agentMechanism`. -/
theorem family_mem_families (h : o.validate = .ok ()) : o.agentMechanism.family ∈ o.families := by
  have hmem : o.agentMechanism ∈ o.mechanisms := by
    unfold validate at h
    split at h
    · cases h
    · split at h
      · cases h
      · next hcontains => simpa using hcontains
  exact mem_families.mpr ⟨_, hmem, rfl⟩

/-- The agents that the contributions leave, `lastAgent?`, are those of the options. -/
theorem lastAgent?_of_contributions (h : o.contributions requests = .ok cs) :
    ∃ g, o.agentIdentity = .ok g ∧ lastAgent? cs = some g := by
  obtain ⟨_, hvalid, hcs⟩ := bind_eq_ok_iff.mp h
  have hrelated := mapM_eq_ok_iff.mp hcs
  cases hlast : lastAgent? cs with
  | none =>
    -- The requested families have that of the agents' mechanism among them, which has agents.
    obtain ⟨c, hc, hcontribution⟩ :=
      exists_right_of_forall₂ hrelated (family_mem_families hvalid)
    have hagent := agentFor_of_contribution hcontribution
    rw [lastAgent?_eq_none_iff.mp hlast c hc] at hagent
    exact absurd rfl (family_ne_of_agentFor hagent)
  | some g =>
    obtain ⟨c, hc, hg⟩ := exists_of_lastAgent? hlast
    obtain ⟨f, -, hcontribution⟩ := exists_left_of_forall₂ hrelated hc
    have hagent := agentFor_of_contribution hcontribution
    rw [hg] at hagent
    exact ⟨g, agentIdentity_of_agentFor hagent, rfl⟩

end AuthOptions

/-! ## The agents of enabled documents -/

/-- Contributions that have agents leave nothing of the agents that `a` had. -/
theorem AuthSettings.agents_enabled {a : AuthSettings} {o : AuthOptions}
    {cs : List AuthContribution} {g : AgentIdentity} (hg : lastAgent? cs = some g)
    (hidentity : o.agentIdentity = .ok g) :
    o.agents = .ok (a.enabled o.authoritative cs).agents := by
  rw [AuthOptions.agents, hidentity, enabled_eq, contributed, foldl_withContribution, hg]
  rfl

namespace Document

/-- An enabled document says of its agents what `o` asks for. -/
theorem agents_of_enableAuth {d d' : Document} {requests : List UserRequest} {o : AuthOptions}
    (h : d.enableAuth requests o = .ok d') : o.agents = .ok d'.auth.agents := by
  obtain ⟨cs, hcs, rfl⟩ := enableAuth_eq_ok_iff.mp h
  obtain ⟨g, hidentity, hg⟩ := AuthOptions.lastAgent?_of_contributions hcs
  exact AuthSettings.agents_enabled hg hidentity

/-- For the same requests and options, `enableAuth` succeeds on both of two documents or fails on
both with the same error, and enabled documents say the same of their agents: what the options ask
for. -/
theorem enableAuth_agents (o : AuthOptions) :
    (∀ (requests : List UserRequest) (d₁ d₂ : Document),
      (d₁.enableAuth requests o).map (·.auth.agents) =
        (d₂.enableAuth requests o).map (·.auth.agents)) ∧
      ∀ (requests : List UserRequest) (d d' : Document), d.enableAuth requests o = .ok d' →
        o.agents = .ok d'.auth.agents := by
  refine ⟨fun requests d₁ d₂ => ?_, fun requests d d' => agents_of_enableAuth⟩
  cases hcs : o.contributions requests with
  | error e => simp only [enableAuth, hcs]
  | ok cs =>
    obtain ⟨g, hidentity, hg⟩ := AuthOptions.lastAgent?_of_contributions hcs
    have hagents := fun d : Document => AuthSettings.agents_enabled (a := d.auth) hg hidentity
    simp only [enableAuth, hcs, Except.map]
    exact (hagents d₁).symm.trans (hagents d₂)

/-- A deployment whose agents proved themselves with a certificate. -/
def certified : Document where
  auth :=
    { disabled := false
      agentUser := "CN=agent"
      agentPassword := "old-password"
      agentMechanism := "MONGODB-X509"
      agentMechanisms := ["MONGODB-X509"]
      key := "old-key"
      keyFile := "/old/keyfile" }

/-- Agents that are to use a password leave no certificate behind, as if there had been none. -/
theorem enableAuth_agents_certified :
    ∃ d', certified.enableAuth mixedRequests mixedOptions = .ok d' ∧
      mixedOptions.agents = .ok d'.auth.agents ∧
      (certified.enableAuth mixedRequests mixedOptions).map (·.auth.agents) =
        (({} : Document).enableAuth mixedRequests mixedOptions).map (·.auth.agents) ∧
      d'.auth.agents.user = defaultAgentName ∧ d'.auth.agents.key = "shared-key" ∧
      d'.auth.agents.mechanisms = ["SCRAM-SHA-256", "MONGODB-CR"] := by
  obtain ⟨hsame, hoptions⟩ := enableAuth_agents mixedOptions
  have henabled : certified.enableAuth mixedRequests mixedOptions = .ok _ := rfl
  exact ⟨_, henabled, hoptions _ _ _ henabled, hsame _ _ _, rfl, rfl, rfl⟩

end Document

end ReplicaControl
