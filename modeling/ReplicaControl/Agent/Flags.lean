import ReplicaControl.Workload.Container

/-!
# Agent flags

Parameters with which the agent is started, handed over in a variable of its container
(specification, sections 6 and 10.5). The text of `agentFlags` has a space before every flag, the
first included, and is empty without parameters; the launcher depends on that.
-/

namespace ReplicaControl

/-- A parameter with which the agent is started: `-key value`. -/
structure StartupParameter where
  key : String
  value : String
deriving DecidableEq

open MemberRule Members in
instance : Codec StartupParameter :=
  .record StartupParameter.mk <|
    member "key" (·.key) required <|
    member "value" (·.value) required done

def agentFlagsVariable : String := "AGENT_FLAGS"

/-- `-key value` for each parameter, each after a space. -/
def agentFlags (parameters : List StartupParameter) : String :=
  String.join (parameters.map fun p => " -" ++ p.key ++ " " ++ p.value)

/-- The variable `AGENT_FLAGS` that hands the flags over. -/
def agentFlagsEnv (parameters : List StartupParameter) : EnvVar :=
  { name := agentFlagsVariable, value := agentFlags parameters }

end ReplicaControl
