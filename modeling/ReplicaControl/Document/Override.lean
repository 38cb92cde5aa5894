import ReplicaControl.Document.Basic
import ReplicaControl.Json.Codec
import ReplicaControl.Json.Text

/-!
# The JSON form of the document

A `Codec` for every shape of the document. The member names are those that the agents expect
(specification, sections 6 and 10.2), in the order in which they are written; members with
`unlessVacant` are left out when they are empty, so that texts stay byte-stable.

- `Document.ofText?`: the document of a text.
- `Document.toText`: the compact text of a document.
-/

namespace ReplicaControl

open MemberRule Members

/-- A kind is written as its name; an object with the name and `null` is also read. -/
instance : Codec ProcessKind where
  encode
    | .mongod => .string "mongod"
    | .mongos => .string "mongos"
  decode?
    | .string "mongod" => some .mongod
    | .string "mongos" => some .mongos
    | .object [("mongod", .null)] => some .mongod
    | .object [("mongos", .null)] => some .mongos
    | _ => none

instance : Codec TlsOptions :=
  .record TlsOptions.mk <|
    member "mode" (·.mode) required <|
    member "certificateKeyFile" (·.certificateKeyFile) unlessVacant <|
    member "caFile" (·.caFile) unlessVacant done

instance : Codec NetOptions :=
  .record NetOptions.mk <|
    member "port" (·.port) (orElse 0) <|
    member "tls" (·.tls) unlessVacant done

instance : Codec EngineConfig :=
  .record EngineConfig.mk <| member "cacheSizeGB" (·.cacheSizeGb) required done

instance : Codec WiredTiger :=
  .record WiredTiger.mk <| member "engineConfig" (·.engineConfig) required done

instance : Codec StorageOptions :=
  .record StorageOptions.mk <|
    member "dbPath" (·.dbPath) required <|
    member "wiredTiger" (·.wiredTiger) unlessVacant done

instance : Codec ReplicationOptions :=
  .record ReplicationOptions.mk <| member "replSetName" (·.replSetName) (orElse "") done

instance : Codec ProcessArguments :=
  .record ProcessArguments.mk <|
    member "net" (·.net) (orElse {}) <|
    member "storage" (·.storage) (orElse {}) <|
    member "replication" (·.replication) (orElse {}) done

instance : Codec SystemLog :=
  .record SystemLog.mk <|
    member "destination" (·.destination) required <|
    member "path" (·.path) required done

instance : Codec LogRotation :=
  .record LogRotation.mk <|
    member "sizeThresholdMB" (·.sizeThresholdMb) required <|
    member "timeThresholdHrs" (·.timeThresholdHours) required done

instance : Codec Process :=
  .record Process.mk <|
    member "name" (·.name) required <|
    member "hostname" (·.hostname) required <|
    member "args2_6" (·.args) required <|
    member "featureCompatibilityVersion" (·.featureCompatibilityVersion) (orElse "") <|
    member "processType" (·.kind) (orElse .mongod) <|
    member "version" (·.version) required <|
    member "authSchemaVersion" (·.authSchemaVersion) (orElse defaultAuthSchemaVersion) <|
    member "systemLog" (·.systemLog) (orElse {}) <|
    member "disabled" (·.disabled) (orElse false) <|
    member "logRotate" (·.logRotation) unlessVacant done

instance : Codec ReplicaSetMember :=
  .record ReplicaSetMember.mk <|
    member "_id" (·.id) required <|
    member "host" (·.host) required <|
    member "priority" (·.priority) required <|
    member "arbiterOnly" (·.arbiterOnly) required <|
    member "votes" (·.votes) required done

instance : Codec ReplicaSet :=
  .record ReplicaSet.mk <|
    member "_id" (·.id) required <|
    member "members" (·.members) required <|
    member "protocolVersion" (·.protocolVersion) required done

instance : Codec MonitoringVersion :=
  .record MonitoringVersion.mk <|
    member "name" (·.name) required <|
    member "hostname" (·.hostname) required <|
    member "baseUrl" (·.baseUrl) unlessVacant done

instance : Codec Role :=
  .record Role.mk <|
    member "role" (·.role) required <|
    member "db" (·.db) required done

instance : Codec ScramCredentials :=
  .record ScramCredentials.mk <|
    member "iterationCount" (·.iterationCount) required <|
    member "salt" (·.salt) required <|
    member "serverKey" (·.serverKey) required <|
    member "storedKey" (·.storedKey) required done

instance : Codec User :=
  .record User.mk <|
    member "user" (·.username) required <|
    member "db" (·.database) required <|
    member "roles" (·.roles) (orElse []) <|
    member "authenticationRestrictions" (·.authenticationRestrictions) (orElse []) <|
    member "mechanisms" (·.mechanisms) (orElse []) <|
    member "scramSha1Creds" (·.scramSha1Credentials) unlessVacant <|
    member "scramSha256Creds" (·.scramSha256Credentials) unlessVacant done

instance : Codec DeletedUser :=
  .record DeletedUser.mk <|
    member "user" (·.user) required <|
    member "dbs" (·.dbs) required done

instance : Codec AuthSettings :=
  .record AuthSettings.mk <|
    member "usersWanted" (·.users) (orElse []) <|
    member "disabled" (·.disabled) (orElse true) <|
    member "authoritativeSet" (·.authoritative) (orElse false) <|
    member "autoAuthMechanisms" (·.agentMechanisms) (orElse []) <|
    member "autoAuthMechanism" (·.agentMechanism) (orElse disabledMechanism) <|
    member "deploymentAuthMechanisms" (·.deploymentMechanisms) (orElse []) <|
    member "autoUser" (·.agentUser) unlessVacant <|
    member "key" (·.key) unlessVacant <|
    member "keyfile" (·.keyFile) unlessVacant <|
    member "keyfileWindows" (·.keyFileWindows) unlessVacant <|
    member "autoPwd" (·.agentPassword) unlessVacant <|
    member "usersDeleted" (·.deletedUsers) unlessVacant done

instance : Codec Document :=
  .record Document.mk <|
    member "version" (·.version) (orElse 0) <|
    member "processes" (·.processes) (orElse []) <|
    member "replicaSets" (·.replicaSets) (orElse []) <|
    member "auth" (·.auth) (orElse .off) <|
    member "monitoringVersions" (·.monitoringVersions) unlessVacant done

namespace Document

/-- The document that `text` writes. -/
def ofText? (text : String) : Option Document := (Json.parse? text).bind decode?

/-- The compact text of `d`, as it is stored. -/
def toText (d : Document) : String := (encode d).render

end Document

/-!
## Overrides of a document

Users may switch processes off and say when their logs are rotated (specification, section 4.3): the
whitelist of `merge_automation_configs`. An override names a process; overrides that name none are
skipped, and replica sets and authentication stay those of the document.

- `Document.override`: the document with overrides applied.
- `Process.override`: log rotation is a `prefer`, while `disabled` is taken as it stands, so leaving
  it out switches the process on.
-/

/-- What an override says of the process `name`. -/
structure ProcessOverride where
  name : String := ""
  disabled : Bool := false
  logRotation : Option LogRotation := none
deriving DecidableEq

/-- Overrides, applied in order. -/
structure DocumentOverride where
  processes : List ProcessOverride := []
deriving DecidableEq

instance : Codec ProcessOverride :=
  .record ProcessOverride.mk <|
    member "name" (·.name) (orElse "") <|
    member "disabled" (·.disabled) (orElse false) <|
    member "logRotate" (·.logRotation) unlessVacant done

instance : Codec DocumentOverride :=
  .record DocumentOverride.mk <| member "processes" (·.processes) (orElse []) done

/-- `p` with what `o` says of it. -/
def Process.override (p : Process) (o : ProcessOverride) : Process :=
  { p with disabled := o.disabled, logRotation := prefer p.logRotation o.logRotation }

namespace Document

/-- Applies `f` to the first of the processes that has the name `name`. -/
def updateFirst (name : String) (f : Process → Process) : List Process → List Process
  | [] => []
  | p :: ps => if p.name == name then f p :: ps else p :: updateFirst name f ps

/-- `ps` with `o` applied to the process that it names. -/
def overrideProcess (ps : List Process) (o : ProcessOverride) : List Process :=
  updateFirst o.name (·.override o) ps

/-- `d` with the overrides `o` applied, the first one first. -/
def override (d : Document) (o : DocumentOverride) : Document :=
  { d with processes := o.processes.foldl overrideProcess d.processes }

/-- The override that says of every process what `d` says. -/
def extractOverride (d : Document) : DocumentOverride :=
  ⟨d.processes.map fun p => ⟨p.name, p.disabled, p.logRotation⟩⟩

end Document

end ReplicaControl
