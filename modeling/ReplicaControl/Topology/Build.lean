import ReplicaControl.Document.References
import ReplicaControl.Text
import ReplicaControl.Topology.Scaling

/-!
# Topologies and their documents

The shape that a replica set is to have (specification, section 4.1): how many members and arbiters,
where they are reached and which version they run. Members and arbiters are pods named by their
ordinals; the names are stored in documents and secrets, so they are built in one place.

- `Topology.memberNames`, `Topology.arbiterNames`: the pods.
- `Topology.hostname`: the host `<pod>.<service>.<namespace>.svc.<clusterDomain>` of a pod.
- `Topology.connectionUri`, `Topology.userUri`, `Topology.userSrvUri`: where clients connect
  (sections 10.2 and 10.3).
- `Topology.build`: the document of the topology, `Build` of the specification, with one process per
  pod, one replica set that lists them, and the version that follows the previous document. The
  counts are checked by `Topology.validate` first, then hooks may change processes, then the
  references of the result are checked. There is no partial document: an error is all there is.
-/

namespace ReplicaControl

/-- A change to a process of a document being built, given its index: a mutation hook of section
4.1. -/
abbrev Hook := Nat → Process → Process

def defaultPort : UInt16 := 27017

def defaultClusterDomain : String := "cluster.local"

/-- The shape that a replica set is to have, the input of `Topology.build`. -/
structure Topology where
  name : String
  namespaceName : String
  serviceName : String := name ++ "-svc"
  clusterDomain : String := defaultClusterDomain
  members : Int32
  arbiters : Int32 := 0
  version : String
  /-- By default `Version.majorMinor` of the version. -/
  featureCompatibilityVersion : Option String := none
  port : UInt16 := defaultPort
  memoryLimitBytes : Option UInt64 := none
  tls : Option TlsOptions := none
  auth : AuthSettings := .off
  /-- The document that the new one follows, from which `build` takes the version. -/
  previous : Option Document := none
  /-- Changes to every process, applied in order. -/
  hooks : List Hook := []

/-- The pod `<name>-<ordinal>` of a member. -/
def memberName (name : String) (ordinal : Nat) : String := name ++ "-" ++ Decimal.str ordinal

/-- The pod `<name>-arb-<ordinal>` of an arbiter. -/
def arbiterName (name : String) (ordinal : Nat) : String :=
  name ++ "-arb-" ++ Decimal.str ordinal

/-- `b` inside the user information of a URI: unreserved characters stand for themselves, a space is
written `+`, and any other byte as `%` and its two hexadecimal digits. -/
def escapeByte (b : UInt8) : List Char :=
  let c := Char.ofUInt8 b
  if c.isAlphanum || c == '-' || c == '_' || c == '.' || c == '~' then [c]
  else if c == ' ' then ['+']
  else '%' :: Text.upperHexByte b

/-- `s` inside the user information of a URI, by `escapeByte` on its UTF-8. -/
def escapeUserInfo (s : String) : String := String.ofList ((Text.utf8 s).flatMap escapeByte)

namespace Topology

variable (t : Topology)

/-- The pods of the `members`, in ordinal order; there are none if the count is negative. -/
def memberNames : List String :=
  (List.range t.members.toInt.toNat).map (memberName t.name)

/-- The pods of the `arbiters`, in ordinal order. -/
def arbiterNames : List String :=
  (List.range t.arbiters.toInt.toNat).map (arbiterName t.name)

/-- `memberNames`, then `arbiterNames`. -/
def podNames : List String := t.memberNames ++ t.arbiterNames

/-- The host of the service `serviceName` that governs the pods. -/
def serviceHost : String :=
  t.serviceName ++ "." ++ t.namespaceName ++ ".svc." ++ t.clusterDomain

/-- The host of `pod`. -/
def hostname (pod : String) : String := pod ++ "." ++ t.serviceHost

/-- The `hostname` of each member, in ordinal order. -/
def memberHostnames : List String := t.memberNames.map t.hostname

/-- `h1:p,h2:p`: the hosts of the members with the port. -/
def hostList : String :=
  String.intercalate "," (t.memberHostnames.map fun host =>
    host ++ ":" ++ Decimal.str t.port.toNat)

/-- The URI `mongodb://` that lists every member. -/
def connectionUri : String := "mongodb://" ++ t.hostList ++ "/?replicaSet=" ++ t.name

/-- The URI `mongodb+srv://` that resolves through the service. -/
def srvUri : String := "mongodb+srv://" ++ t.serviceHost

/-- `<username>:<password>@`, both escaped. -/
def userInfo (username password : String) : String :=
  escapeUserInfo username ++ ":" ++ escapeUserInfo password ++ "@"

/-- What follows the hosts in the URI of a user: the `database` and the options. -/
def userSuffix (database : String) : String :=
  "/" ++ database ++ "?ssl=" ++ (if t.tls.isSome then "true" else "false")

/-- The URI that lists every member and carries credentials, `connectionString.standard`. -/
def userUri (username password database : String) : String :=
  "mongodb://" ++ userInfo username password ++ t.hostList ++ t.userSuffix database

/-- The URI that resolves through the service and carries credentials,
`connectionString.standardSrv`. -/
def userSrvUri (username password database : String) : String :=
  "mongodb+srv://" ++ userInfo username password ++ t.serviceHost ++ t.userSuffix database

end Topology

/-! ## Building documents -/

/-- Why a topology has no document (section 10.1). -/
inductive BuildError where
  | emptyName
  | negativeMembers (members : Int32)
  | invalidArbiters (arbiters members : Int32)
  | references (fault : ReferenceFault)
deriving DecidableEq

/-- The text of an error. -/
def BuildError.message : BuildError → String
  | emptyName => "replica set name must not be empty"
  | negativeMembers members =>
    "member count must not be negative, got " ++ Decimal.intStr members.toInt
  | invalidArbiters arbiters members =>
    "arbiter count " ++ Decimal.intStr arbiters.toInt ++
      " must be between 0 and the member count " ++ Decimal.intStr members.toInt ++ " (exclusive)"
  | references fault => fault.message

def replicaSetProtocolVersion : String := "1"

namespace Topology

variable (t : Topology)

/-- Checks the name, then the counts: `0 ≤ arbiters < members`, where no members and no arbiters
will do. -/
def validate : Except BuildError Unit :=
  if t.name.isEmpty then .error .emptyName
  else if t.members < 0 then .error (.negativeMembers t.members)
  else if t.arbiters < 0 ∨ (0 < t.arbiters ∧ t.members ≤ t.arbiters) then
    .error (.invalidArbiters t.arbiters t.members)
  else .ok ()

/-- The process of `pod` before hooks change it, with a cache size if the version needs one. -/
def plainProcess (pod : String) : Process :=
  let p : Process :=
    { name := pod
      hostname := t.hostname pod
      args :=
        { net := { port := t.port, tls := t.tls }
          replication := { replSetName := t.name } }
      featureCompatibilityVersion :=
        t.featureCompatibilityVersion.getD (Version.majorMinor t.version)
      version := t.version }
  match CacheSize.forVersion? t.version t.memoryLimitBytes with
  | some size => p.withCacheSizeGb size
  | none => p

/-- The process of `pod`, the pod number `index`, changed by every hook in order. -/
def process (index : Nat) (pod : String) : Process :=
  t.hooks.foldl (fun p hook => hook index p) (t.plainProcess pod)

/-- The entry of `pod` in the replica set: members have priority and vote, the arbiters after them
have neither. -/
def listing (index : Nat) (pod : String) : ReplicaSetMember :=
  let arbiter := t.members.toInt.toNat ≤ index
  { id := index.toUInt32
    host := pod
    priority := if arbiter then .round false 0 else .round false 1
    arbiterOnly := arbiter
    votes := if arbiter then 0 else 1 }

/-- The replica set that lists `podNames`. -/
def replicaSet : ReplicaSet :=
  { id := t.name
    members := t.podNames.mapIdx t.listing
    protocolVersion := replicaSetProtocolVersion }

/-- The document that `build` makes, before it is given a version. -/
def unversioned : Document :=
  { processes := t.podNames.mapIdx t.process
    replicaSets := [t.replicaSet]
    auth := t.auth }

/-- The document of `t`, with the version after that of `t.previous`. -/
def build : Except BuildError Document := do
  t.validate
  match t.unversioned.checkReferences with
  | .error fault => .error (.references fault)
  | .ok () => .ok (t.unversioned.versionedAfter t.previous)

end Topology

end ReplicaControl
