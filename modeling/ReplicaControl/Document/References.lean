import ReplicaControl.Document.Basic

/-!
# References inside a document

The members of replica sets name processes, so the names of the processes are to be distinct and
every member is to name one of them (specification, section 3). `Document.checkReferences` checks
both for `Topology.build`, and reports the first fault.
-/

namespace ReplicaControl

/-- A name in a document that is taken twice, or that names nothing: what `checkReferences` finds.
-/
inductive ReferenceFault where
  | duplicateProcess (name : String)
  | unknownMember (replicaSet host : String)
deriving DecidableEq

namespace ReferenceFault

/-- The text of a fault. -/
def message : ReferenceFault → String
  | duplicateProcess name => "process " ++ name ++ " appears more than once"
  | unknownMember replicaSet host =>
    "replica set " ++ replicaSet ++ " references unknown process " ++ host

end ReferenceFault

namespace Document

/-- The first name of a list that occurs before in it, or among the names `seen` already. -/
def firstRepeated? (seen : List String) : List String → Option String
  | [] => none
  | name :: names =>
    if seen.contains name then some name else firstRepeated? (name :: seen) names

/-- The names of the `processes`, in order. -/
def processNames (d : Document) : List String := d.processes.map (·.name)

/-- The first member of `rs` whose host is not among `names`. -/
def unknownMember? (names : List String) (rs : ReplicaSet) : Option ReferenceFault :=
  (rs.members.find? fun m => !names.contains m.host).map fun m => .unknownMember rs.id m.host

/-- The first fault of `d`: a repeated process name, then an unknown member. -/
def referenceFault? (d : Document) : Option ReferenceFault :=
  match firstRepeated? [] d.processNames with
  | some name => some (.duplicateProcess name)
  | none => d.replicaSets.findSome? (unknownMember? d.processNames)

/-- Checks that `processNames` are distinct and that the members of `replicaSets` name processes. -/
def checkReferences (d : Document) : Except ReferenceFault Unit :=
  match d.referenceFault? with
  | some fault => .error fault
  | none => .ok ()

end Document

end ReplicaControl
