import ReplicaControl.Cluster
import ReplicaControl.Document.Override

/-!
# Stored documents

The document of a replica set is kept in a secret under `documentKey`, where the agents find it
(specification, sections 6 and 10.2). It is written only when its content changes, and then with the
version after the stored one.

- `Cluster.readDocument`: the stored document, or none. A text that is no document is an error.
- `Cluster.ensureDocument`: stores a document, `ensure_automation_config` of section 10.2. It gives
  the document as it is stored and the cluster after the call.
-/

namespace ReplicaControl

def documentKey : String := "cluster-config.json"

/-- Why a document was not stored or not read (section 10.1). -/
inductive StoreError where
  | client (e : ClientError)
  | unreadable (namespaceName name : String)
deriving DecidableEq

/-- The text of the error, with the secret that it was about. -/
def StoreError.message : StoreError → String
  | client e => e.message
  | unreadable namespaceName name =>
    "secret " ++ namespaceName ++ "/" ++ name ++ " holds an unreadable automation config"

/-- The `document` as it is stored, and whether it had to be written. -/
structure StoredDocument where
  document : Document
  changed : Bool

namespace Cluster

variable (c : Cluster)

/-- The document under `documentKey`. There is none if the secret or the key is missing. -/
def readDocument (namespaceName name : String) : Except StoreError (Option Document) :=
  match c.secret? namespaceName name with
  | .error e => .error (.client e)
  | .ok found =>
    match found.bind (·.get? documentKey) with
    | none => .ok none
    | some text =>
      match Document.ofText? text with
      | some d => .ok (some d)
      | none => .error (.unreadable namespaceName name)

/-- Writes `wanted` with the version after that of `stored`, as the only entry of the secret. -/
def writeDocument (namespaceName name : String) (wanted : Document) (stored : Option Document) :
    Except StoreError StoredDocument × Cluster :=
  let next := wanted.versionedAfter stored
  let secret : Secret := { namespaceName, name }
  match c.putSecret (secret.withEntry documentKey next.toText) with
  | .error e => (.error (.client e), c)
  | .ok c' => (.ok ⟨next, true⟩, c')

/-- Stores `wanted`, unless a document of the same content is stored. -/
def ensureDocument (namespaceName name : String) (wanted : Document) :
    Except StoreError StoredDocument × Cluster :=
  match c.readDocument namespaceName name with
  | .error e => (.error e, c)
  | .ok none => c.writeDocument namespaceName name wanted none
  | .ok (some stored) =>
    if stored.contentEquals wanted then (.ok ⟨stored, false⟩, c)
    else c.writeDocument namespaceName name wanted (some stored)

end Cluster

end ReplicaControl
