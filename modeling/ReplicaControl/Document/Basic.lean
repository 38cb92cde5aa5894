import ReplicaControl.Dict
import ReplicaControl.Single

/-!
# The agents' document

The versioned document that the automation agents of a replica set read (`ConfigDocument` of the
specification, sections 3 and 10.2): the processes to run, the replica sets that they form, and how
clients and the agents authenticate.

- **Processes** (`Process`), **replica sets** (`ReplicaSet`), **authentication** (`AuthSettings`):
  the fields that are stored, with the defaults of section 10.2.
- `Document.contentEquals`: equality of everything but the version.
- `Document.versionedAfter`: the version that follows a previous document.
-/

namespace ReplicaControl

/-! ## Processes -/

/-- What a process is: the member `processType`. -/
inductive ProcessKind where
  | mongod
  | mongos
deriving DecidableEq

/-- Transport security of a process, `net.tls`. -/
structure TlsOptions where
  mode : String
  certificateKeyFile : Option String := none
  caFile : Option String := none
deriving DecidableEq

/-- Where a process listens. The port `0` means that none was chosen. -/
structure NetOptions where
  port : UInt16 := 0
  tls : Option TlsOptions := none
deriving DecidableEq

/-- Settings of the storage engine, `storage.wiredTiger.engineConfig`. -/
structure EngineConfig where
  /-- The size of the cache, `cacheSizeGB` in GB. -/
  cacheSizeGb : Single
deriving BEq

structure WiredTiger where
  engineConfig : EngineConfig
deriving BEq

def defaultDbPath : String := "/data"

/-- How a process stores its data, `args2_6.storage`. -/
structure StorageOptions where
  dbPath : String := defaultDbPath
  wiredTiger : Option WiredTiger := none
deriving BEq

/-- The replica set that a process belongs to, `args2_6.replication`. -/
structure ReplicationOptions where
  replSetName : String := ""
deriving DecidableEq

/-- The options a process is started with, the member `args2_6`. -/
structure ProcessArguments where
  net : NetOptions := {}
  storage : StorageOptions := {}
  replication : ReplicationOptions := {}
deriving BEq

def defaultLogPath : String := "/var/log/mongodb-mms-automation/mongodb.log"

/-- Where a process logs, `systemLog`. -/
structure SystemLog where
  destination : String := "file"
  path : String := defaultLogPath
deriving DecidableEq

/-- When the agent rotates a log: at a size, or after a time (`logRotate`). -/
structure LogRotation where
  sizeThresholdMb : UInt32
  timeThresholdHours : UInt32
deriving DecidableEq

/-- The schema of stored credentials that processes use, the member `authSchemaVersion`. -/
def defaultAuthSchemaVersion : UInt32 := 5

/-- One database process as the agents see it (section 3). -/
structure Process where
  name : String
  hostname : String
  args : ProcessArguments
  featureCompatibilityVersion : String := ""
  kind : ProcessKind := .mongod
  version : String
  authSchemaVersion : UInt32 := defaultAuthSchemaVersion
  systemLog : SystemLog := {}
  disabled : Bool := false
  logRotation : Option LogRotation := none
deriving BEq

namespace Process

/-- The port that `p` listens on, in `args`. -/
def port (p : Process) : UInt16 := p.args.net.port

/-- `p`, listening on `port`; nothing else changes. -/
def withPort (p : Process) (port : UInt16) : Process :=
  { p with args := { p.args with net := { p.args.net with port } } }

/-- The cache size that `p` is started with, in GB, if it is not left to the engine. -/
def cacheSizeGb (p : Process) : Option Single :=
  p.args.storage.wiredTiger.map (·.engineConfig.cacheSizeGb)

/-- `p`, started with a cache of `cacheSizeGb`. -/
def withCacheSizeGb (p : Process) (cacheSizeGb : Single) : Process :=
  { p with args := { p.args with storage := { p.args.storage with
      wiredTiger := some ⟨⟨cacheSizeGb⟩⟩ } } }

end Process

/-! ## Replica sets -/

/-- A member of a replica set; `host` is the name of a `Process`. -/
structure ReplicaSetMember where
  id : UInt32
  host : String
  priority : Single
  arbiterOnly : Bool
  votes : UInt32
deriving BEq

/-- A replica set, whose `members` name processes. -/
structure ReplicaSet where
  id : String
  members : List ReplicaSetMember
  protocolVersion : String
deriving BEq

/-- A monitoring agent to run. -/
structure MonitoringVersion where
  name : String
  hostname : String
  baseUrl : Option String := none
deriving DecidableEq

/-! ## Authentication -/

/-- A role that a user has in the database `db`. -/
structure Role where
  role : String
  db : String
deriving DecidableEq

/-- What a deployment stores of a password for one SCRAM variant (section 3). All but
`iterationCount` are base64. -/
structure ScramCredentials where
  iterationCount : UInt32
  salt : String
  serverKey : String
  storedKey : String
deriving DecidableEq

/-- The `database` of users that are known outside the deployment, by a certificate. -/
def externalDatabase : String := "$external"

/-- A user that the deployment is to have, `MongoDBUser` of section 3. -/
structure User where
  username : String
  database : String
  roles : List Role := []
  authenticationRestrictions : List String := []
  mechanisms : List String := []
  scramSha1Credentials : Option ScramCredentials := none
  scramSha256Credentials : Option ScramCredentials := none
deriving DecidableEq

/-- A user that is to be dropped from databases, an entry of `usersDeleted` (section 10.3). -/
structure DeletedUser where
  user : String
  dbs : List String
deriving DecidableEq

/-- The `agentMechanism` while authentication is off. -/
def disabledMechanism : String := "MONGODB-CR"

/-- How clients and agents authenticate, `Auth` of section 3. The defaults are those of a deployment
that asks for no credentials. -/
structure AuthSettings where
  users : List User := []
  disabled : Bool := true
  /-- Whether users that are not listed are dropped: `authoritativeSet`. -/
  authoritative : Bool := false
  /-- The mechanisms that the agents may use: `autoAuthMechanisms`. -/
  agentMechanisms : List String := []
  agentMechanism : String := disabledMechanism
  /-- The mechanisms that clients may use: `deploymentAuthMechanisms`. -/
  deploymentMechanisms : List String := []
  agentUser : String := ""
  key : String := ""
  keyFile : String := ""
  keyFileWindows : String := ""
  agentPassword : String := ""
  deletedUsers : List DeletedUser := []
deriving DecidableEq

/-- The disabled settings of section 10.3: `disabled`, with empty lists. -/
def AuthSettings.off : AuthSettings := {}

/-- The first user `username` of `database`. -/
def AuthSettings.user? (auth : AuthSettings) (username database : String) : Option User :=
  auth.users.find? fun u => u.username == username && u.database == database

/-! ## The document -/

/-- The document that agents apply. -/
structure Document where
  version : UInt64 := 0
  processes : List Process := []
  replicaSets : List ReplicaSet := []
  auth : AuthSettings := .off
  monitoringVersions : List MonitoringVersion := []
deriving BEq

namespace Document

/-- The first process of the name `name`. -/
def process? (d : Document) (name : String) : Option Process :=
  d.processes.find? (·.name == name)

/-- Whether `d` and `e` agree on everything but the version. Numbers are compared by `BEq Single`,
so a document with a `NaN` differs from itself. -/
def contentEquals (d e : Document) : Bool :=
  d.processes == e.processes && d.replicaSets == e.replicaSets && d.auth == e.auth &&
    d.monitoringVersions == e.monitoringVersions

/-- `d` with the version that follows `previous`: the first version is 1, and it rises by one when
the content changes. -/
def versionedAfter (d : Document) (previous : Option Document) : Document :=
  { d with
    version :=
      match previous with
      | none => 1
      | some p => if d.contentEquals p then p.version else p.version + 1 }

end Document

end ReplicaControl
