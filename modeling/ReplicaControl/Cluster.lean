import ReplicaControl.Dict

/-!
# The cluster

The secrets and pods that the operator sees through `SecretClient` and `PodClient` (specification,
section 10.6). Requests for some objects may be set to fail, and the writes of secrets are counted.

- `Cluster.secret?`, `Cluster.pod?`: look-ups; a missing object is no fault.
- `Cluster.getSecret`, `Cluster.getPod`: look-ups for which a missing object is a
  `ClientError.notFound`.
- `Cluster.putSecret`: writes a secret, creating it if it is missing.
-/

namespace ReplicaControl

/-- Why a request to the cluster failed, the `ClientError` of section 10.1. -/
inductive ClientError where
  | notFound (kind namespaceName name : String)
  | api (message : String)
deriving DecidableEq

/-- The text of an error. -/
def ClientError.message : ClientError → String
  | notFound kind namespaceName name => kind ++ " " ++ namespaceName ++ "/" ++ name ++ " not found"
  | api message => "orchestrator request failed: " ++ message

/-- Texts under keys, kept by the cluster under a `name`. -/
structure Secret where
  namespaceName : String
  name : String
  data : Dict String String := .empty
deriving DecidableEq

namespace Secret

/-- The text under `key`. -/
def get? (s : Secret) (key : String) : Option String := s.data.get? key

/-- `s` with the text `value` under `key`. -/
def withEntry (s : Secret) (key value : String) : Secret :=
  { s with data := s.data.insert key value }

/-- Whether `s` has each of `keys`. -/
def hasAllKeys (s : Secret) (keys : List String) : Bool := keys.all s.data.contains

end Secret

/-- A pod, as far as the operator looks at it: its `annotations`. -/
structure Pod where
  namespaceName : String
  name : String
  annotations : Dict String String := .empty
deriving DecidableEq

/-- The objects of a cluster by namespace and name, the requests that fail, and the number of
`secretWrites` so far: the `InMemoryClient` of section 10.1. -/
structure Cluster where
  /-- The texts of each secret, under its namespace and name. -/
  secrets : Dict (String × String) (Dict String String) := .empty
  /-- The annotations of each pod, under its namespace and name. -/
  pods : Dict (String × String) (Dict String String) := .empty
  podFailures : Dict (String × String) String := .empty
  secretReadFailures : Dict (String × String) String := .empty
  secretWriteFailures : Dict (String × String) String := .empty
  secretWrites : Nat := 0

namespace Cluster

variable (c : Cluster)

/-- The cluster with `s` put in, which is not counted as a write. -/
def insertSecret (s : Secret) : Cluster :=
  { c with secrets := c.secrets.insert (s.namespaceName, s.name) s.data }

/-- The cluster with `p` put in. -/
def insertPod (p : Pod) : Cluster :=
  { c with pods := c.pods.insert (p.namespaceName, p.name) p.annotations }

/-- The cluster where look-ups of a pod fail with `message`. -/
def failPod (namespaceName name message : String) : Cluster :=
  { c with podFailures := c.podFailures.insert (namespaceName, name) message }

/-- The cluster where look-ups of a secret fail with `message`. -/
def failSecretReads (namespaceName name message : String) : Cluster :=
  { c with secretReadFailures := c.secretReadFailures.insert (namespaceName, name) message }

/-- The cluster where writes of a secret fail with `message`. -/
def failSecretWrites (namespaceName name message : String) : Cluster :=
  { c with secretWriteFailures := c.secretWriteFailures.insert (namespaceName, name) message }

/-- The cluster where requests for the secret `name` no longer fail. -/
def healSecret (namespaceName name : String) : Cluster :=
  { c with
    secretReadFailures := c.secretReadFailures.erase (namespaceName, name)
    secretWriteFailures := c.secretWriteFailures.erase (namespaceName, name) }

/-- The secret `name`, or `none` if there is none. -/
def secret? (namespaceName name : String) : Except ClientError (Option Secret) :=
  match c.secretReadFailures.get? (namespaceName, name) with
  | some message => .error (.api message)
  | none => .ok ((c.secrets.get? (namespaceName, name)).map (⟨namespaceName, name, ·⟩))

/-- The secret `name`, which is to exist. -/
def getSecret (namespaceName name : String) : Except ClientError Secret :=
  match c.secret? namespaceName name with
  | .ok (some s) => .ok s
  | .ok none => .error (.notFound "secret" namespaceName name)
  | .error e => .error e

/-- The cluster with `s` written in place of what was there, and one write more. -/
def putSecret (s : Secret) : Except ClientError Cluster :=
  match c.secretWriteFailures.get? (s.namespaceName, s.name) with
  | some message => .error (.api message)
  | none => .ok { c.insertSecret s with secretWrites := c.secretWrites + 1 }

/-- The pod `name`, or `none` if there is none. -/
def pod? (namespaceName name : String) : Except ClientError (Option Pod) :=
  match c.podFailures.get? (namespaceName, name) with
  | some message => .error (.api message)
  | none => .ok ((c.pods.get? (namespaceName, name)).map (⟨namespaceName, name, ·⟩))

/-- The pod `name`, which is to exist. -/
def getPod (namespaceName name : String) : Except ClientError Pod :=
  match c.pod? namespaceName name with
  | .ok (some p) => .ok p
  | .ok none => .error (.notFound "pod" namespaceName name)
  | .error e => .error e

end Cluster

end ReplicaControl
