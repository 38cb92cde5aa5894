import ReplicaControl.Auth.Options
import ReplicaControl.Cluster.Credentials

/-!
# Users of a deployment

The users that are asked for (`UserRequest`), and how the users of a document are brought in line
with them (specification, sections 4.2 and 10.3). A user is told apart by name and database
(`User.key`).

- `UserRequest.user`: a user as a document records it, with credentials.
- `AuthSettings.reconcile`: the users that are wanted, and those that are to be dropped.
-/

namespace ReplicaControl

/-! ## Requests -/

/-- Where the credentials of a user come from: a password, or a `CredentialSet` that was derived
before. -/
inductive UserCredentials where
  | absent
  | password (text : String)
  | derived (set : CredentialSet)
deriving DecidableEq

/-- A user that is asked for, an entry of the `users` of `Enable`. -/
structure UserRequest where
  username : String
  database : String
  roles : List Role := []
  credentials : UserCredentials := .absent
deriving DecidableEq

/-- `u` with credentials for the variant `v`. -/
def User.withCredentials (u : User) (v : ScramVariant) (c : ScramCredentials) : User :=
  match v with
  | .sha1 => { u with scramSha1Credentials := some c }
  | .sha256 => { u with scramSha256Credentials := some c }

namespace UserRequest

variable (r : UserRequest)

/-- Whether the user is known outside the deployment, by its `database`. -/
def isExternal : Bool := r.database == externalDatabase

/-- The `User` that a document records, without credentials. -/
def plainUser : User := { username := r.username, database := r.database, roles := r.roles }

/-- The credentials for `v`. Those of a password are derived with the salt of the managed resource,
so every pass derives the same. -/
def credentialsFor (resource : String) (v : ScramVariant) :
    Except ScramError (Option ScramCredentials) :=
  match r.credentials with
  | .absent => .ok none
  | .derived set => .ok (some (set.forVariant v))
  | .password text => (v.credentials r.username text (v.resourceSalt resource)).map some

/-- Adds the credentials for the variants of a list to `u`. -/
def addCredentials (resource : String) (u : User) : List ScramVariant → Except ScramError User
  | [] => .ok u
  | v :: vs =>
    match r.credentialsFor resource v with
    | .error e => .error e
    | .ok c => addCredentials resource ((c.map (u.withCredentials v)).getD u) vs

/-- The user as a document records it, with credentials for `variants`. -/
def user (resource : String) (variants : List ScramVariant) : Except ScramError User :=
  r.addCredentials resource r.plainUser variants

end UserRequest

/-! ## Reconciliation -/

/-- What tells users apart: `username` and `database`. -/
def User.key (u : User) : String × String := (u.username, u.database)

/-- The first user of each `key`. -/
def firstOfEach : List User → List User
  | [] => []
  | u :: us => u :: (firstOfEach us).filter (·.key ≠ u.key)

/-- The first user of `us` with the key of `u`. -/
def sameUser? (us : List User) (u : User) : Option User := us.find? (·.key = u.key)

/-- The deletions with that of `u`, which joins those of the same name. -/
def recordDeletion (u : User) : List DeletedUser → List DeletedUser
  | [] => [⟨u.username, [u.database]⟩]
  | d :: ds =>
    if d.user = u.username then
      (if d.dbs.contains u.database then d else { d with dbs := d.dbs ++ [u.database] }) :: ds
    else d :: recordDeletion u ds

/-- `d` without the databases in which a user of that name is among `us`. -/
def DeletedUser.without (d : DeletedUser) (us : List User) : DeletedUser :=
  { d with dbs := d.dbs.filter fun db => !us.any fun u => u.username == d.user && u.database == db }

namespace AuthSettings

variable (a : AuthSettings) (wanted : List User)

/-- The users of `wanted`, each once: those that were listed keep their places, new ones follow. -/
def reconciledUsers : List User := firstOfEach (a.users.filterMap (sameUser? wanted) ++ wanted)

/-- The `users` that are no longer wanted. -/
def droppedUsers : List User := a.users.filter fun u => (sameUser? wanted u).isNone

/-- The deletions with those of `droppedUsers`, which are recorded only if the list of users is
authoritative, and without those of wanted users. -/
def reconciledDeletions : List DeletedUser :=
  let recorded :=
    if a.authoritative then
      (a.droppedUsers wanted).foldl (fun ds u => recordDeletion u ds) a.deletedUsers
    else a.deletedUsers
  (recorded.map (·.without (a.reconciledUsers wanted))).filter (!·.dbs.isEmpty)

/-- The settings with the users that are `wanted`, and the deletions of those that are not. -/
def reconcile : AuthSettings :=
  { a with users := a.reconciledUsers wanted, deletedUsers := a.reconciledDeletions wanted }

end AuthSettings

/-!
## Switching authentication on and off

Each family of mechanisms contributes the names of its mechanisms, its users, and, if the agents
use it, what they prove themselves with (`AuthContribution`). Contributions come from the options
and the requested users alone; a document then takes them in. So an error leaves no half-configured
settings behind (specification, sections 4.2 and 7).

- `AuthOptions.contributions`: what all requested families contribute.
- `Document.enableAuth`, `Document.disableAuth`: `Enable` of the specification, and its converse.
-/

/-- What the agents prove themselves with, a password or the subject of a certificate. -/
structure AgentIdentity where
  user : String
  password : String
  mechanism : Mechanism
  mechanisms : List Mechanism
  key : String
  keyFile : String
deriving DecidableEq

/-- What a `Mechanism.Family` adds to a document. -/
structure AuthContribution where
  agent : Option AgentIdentity
  mechanisms : List Mechanism
  users : List User
deriving DecidableEq

namespace AuthOptions

variable (o : AuthOptions) (requests : List UserRequest)

/-- The agents as users with `agentPassword`. -/
def passwordAgent : AgentIdentity where
  user := o.agentName
  password := o.agentPassword
  mechanism := o.agentMechanism
  mechanisms := o.mechanismsOf .scram
  key := o.keyfile
  keyFile := o.keyfilePath

/-- The subject of the agents' certificate, which is to be `Certificate.isCompleteSubject`. -/
def agentSubject : Except AuthError String :=
  match o.agentCertificate with
  | none => .error .missingAgentCertificate
  | some text =>
    match Certificate.subjectOfText text with
    | .error e => .error (.certificate e)
    | .ok name =>
      if Certificate.isCompleteSubject name.text then .ok name.text
      else .error (.invalidSubject name.text)

/-- The agents as the `subject` of a certificate. -/
def certificateAgent (subject : String) : AgentIdentity where
  user := subject
  password := ""
  mechanism := .x509
  mechanisms := [.x509]
  key := o.keyfile
  keyFile := o.keyfilePath

/-- What the agents prove themselves with, if they use the family `f`. -/
def agentFor (f : Mechanism.Family) : Except AuthError (Option AgentIdentity) :=
  if o.agentMechanism.family = f then
    match f with
    | .scram => .ok (some o.passwordAgent)
    | .certificate => o.agentSubject.map fun subject => some (o.certificateAgent subject)
  else .ok none

/-- The users that the deployment knows by a password, with the credentials of all `variants`. -/
def passwordUsers : Except ScramError (List User) :=
  (requests.filter fun r => !r.isExternal).mapM fun r => r.user o.resource o.variants

/-- The users that are known outside the deployment (`isExternal`). -/
def externalUsers : List User := (requests.filter (·.isExternal)).map (·.plainUser)

/-- The users of the family `f`; every request belongs to one family. -/
def usersFor (f : Mechanism.Family) : Except AuthError (List User) :=
  match f with
  | .scram => (o.passwordUsers requests).mapError .scram
  | .certificate => .ok (externalUsers requests)

/-- What the family `f` contributes. -/
def contribution (f : Mechanism.Family) : Except AuthError AuthContribution := do
  let agent ← o.agentFor f
  let users ← o.usersFor requests f
  return { agent, mechanisms := o.mechanismsOf f, users }

/-- What the `families` contribute, once the options pass `validate`. -/
def contributions : Except AuthError (List AuthContribution) := do
  o.validate
  o.families.mapM (o.contribution requests)

end AuthOptions

namespace AuthSettings

/-- The settings with those of `agent`. -/
def withAgent (a : AuthSettings) (agent : AgentIdentity) : AuthSettings :=
  { a with
    agentUser := agent.user
    agentPassword := agent.password
    agentMechanism := agent.mechanism.recordedName
    agentMechanisms := agent.mechanisms.map Mechanism.recordedName
    key := agent.key
    keyFile := agent.keyFile
    keyFileWindows := windowsKeyfilePath }

/-- The settings with the mechanism `m` for clients, which is listed once. -/
def withMechanism (a : AuthSettings) (m : Mechanism) : AuthSettings :=
  if a.deploymentMechanisms.contains m.recordedName then a
  else { a with deploymentMechanisms := a.deploymentMechanisms ++ [m.recordedName] }

/-- The settings with the agents and the mechanisms of `c`. -/
def withContribution (a : AuthSettings) (c : AuthContribution) : AuthSettings :=
  c.mechanisms.foldl withMechanism ((c.agent.map a.withAgent).getD a)

/-- The settings with the contributions `cs` and their users. -/
def enabled (a : AuthSettings) (authoritative : Bool) (cs : List AuthContribution) :
    AuthSettings :=
  (cs.foldl withContribution { a with disabled := false, authoritative }).reconcile
    (cs.flatMap (·.users))

end AuthSettings

namespace Document

/-- `d` for a deployment that asks for credentials. -/
def enableAuth (d : Document) (requests : List UserRequest) (o : AuthOptions) :
    Except AuthError Document :=
  match o.contributions requests with
  | .error e => .error e
  | .ok cs => .ok { d with auth := d.auth.enabled o.authoritative cs }

/-- `d` for a deployment that asks for no credentials. -/
def disableAuth (d : Document) : Document := { d with auth := .off }

end Document

end ReplicaControl
