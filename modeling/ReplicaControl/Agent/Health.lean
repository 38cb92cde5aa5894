import ReplicaControl.Decimal
import ReplicaControl.Json.Codec
import ReplicaControl.Json.Text

/-!
# Agent health

The file in which an agent reports how its processes are (`statuses`) and what it is doing
(`mmsStatus`): plans of moves of steps, the last plan being the current one (specification, sections
6 and 10.5).

- `PlanHistory.isChangingVersion`: whether a plan changes the version and has stopped the process,
  `is_changing_version` of section 10.5.
- `Health.shouldDeletePod`: whether a pod may go, so that it comes back with another version.
- `Health.currentStep`: the step that the agent is at, `current_step` of section 10.5.
-/

namespace ReplicaControl

/-- How a process is, an entry of `Health.healthiness`. -/
structure ProcessHealth where
  isInGoalState : Bool
  expectedToBeUp : Bool
  lastUpTime : Int64 := 0
deriving DecidableEq

/-- A step of a `MoveStatus`. It has started, or completed, if the moment of it is given. -/
structure StepStatus where
  step : String
  started : Option String
  completed : Option String
  result : String := ""
deriving DecidableEq

/-- A move of a plan, such as `changeVersionMove`. -/
structure MoveStatus where
  name : String
  steps : List StepStatus := []
deriving DecidableEq

/-- A plan of an agent, with its moves in order. -/
structure PlanStatus where
  moves : List MoveStatus := []
  started : Option String
  completed : Option String
deriving DecidableEq

/-- The plans that an agent made for a process, the latest last. -/
structure PlanHistory where
  name : String
  lastGoalVersionAchieved : Int64 := 0
  plans : List PlanStatus := []
deriving DecidableEq

/-- What an agent reports of the processes by host, the health file of section 10.5. -/
structure Health where
  healthiness : Dict String ProcessHealth := .empty
  processPlans : Dict String PlanHistory := .empty
deriving DecidableEq

section

open MemberRule Members

instance : Codec ProcessHealth :=
  .record ProcessHealth.mk <|
    member "IsInGoalState" (·.isInGoalState) required <|
    member "ExpectedToBeUp" (·.expectedToBeUp) required <|
    member "LastMongoUpTime" (·.lastUpTime) (orElse 0) done

instance : Codec StepStatus :=
  .record StepStatus.mk <|
    member "step" (·.step) required <|
    member "started" (·.started) nullable <|
    member "completed" (·.completed) nullable <|
    member "result" (·.result) (orElse "") done

instance : Codec MoveStatus :=
  .record MoveStatus.mk <|
    member "move" (·.name) required <|
    member "steps" (·.steps) (orElse []) done

instance : Codec PlanStatus :=
  .record PlanStatus.mk <|
    member "moves" (·.moves) (orElse []) <|
    member "started" (·.started) nullable <|
    member "completed" (·.completed) nullable done

instance : Codec PlanHistory :=
  .record PlanHistory.mk <|
    member "name" (·.name) required <|
    member "lastGoalVersionAchieved" (·.lastGoalVersionAchieved) (orElse 0) <|
    member "plans" (·.plans) (orElse []) done

instance : Codec Health :=
  .record Health.mk <|
    member "statuses" (·.healthiness) (orElse .empty) <|
    member "mmsStatus" (·.processPlans) (orElse .empty) done

end

/-- Why a question about a `Health` has no answer. -/
inductive HealthError where
  | unknownHost (hostname : String)
  | noProcessStatus
  | multipleProcessStatuses (count : Nat)
  | noPlans (process : String)
  | planCompleted (process completed : String)
  | noStartedStep (process : String)
deriving DecidableEq

/-- The text of an error. -/
def HealthError.message : HealthError → String
  | unknownHost hostname => "host " ++ hostname ++ " is not present in the process plans"
  | noProcessStatus => "there is no information about agent process plans"
  | multipleProcessStatuses count =>
    "only one process status is expected but got " ++ Decimal.str count
  | noPlans process => "the process " ++ process ++ " doesn't contain any plans"
  | planCompleted _ completed =>
    "the agent hasn't reported working on the new config yet, the last plan finished at " ++
      completed
  | noStartedStep process => "no step of the last plan of " ++ process ++ " has started"

/-- The `name` of the move in which an agent changes the version of a process. -/
def changeVersionMove : String := "ChangeVersion"

/-- The step of `changeVersionMove` after which the process is down. -/
def stopStep : String := "Stop"

/-- Whether `s` is completed and went well. -/
def StepStatus.succeeded (s : StepStatus) : Bool := s.completed.isSome && s.result == "success"

namespace PlanHistory

/-- Whether a move of the last plan is `changeVersionMove` and its `stopStep` has succeeded. -/
def isChangingVersion (h : PlanHistory) : Bool :=
  match h.plans.getLast? with
  | none => false
  | some plan =>
    plan.moves.any fun m =>
      m.name == changeVersionMove && m.steps.any fun s => s.step == stopStep && s.succeeded

/-- The step that the agent is at, with its move: the last started one of the last plan, which is
not to be `completed`. A completed plan is an error even if no step of it has started. -/
def currentStep (h : PlanHistory) : Except HealthError (MoveStatus × StepStatus) :=
  match h.plans.getLast? with
  | none => .error (.noPlans h.name)
  | some plan =>
    match plan.completed with
    | some completed => .error (.planCompleted h.name completed)
    | none =>
      let steps := plan.moves.flatMap fun m => m.steps.map fun s => (m, s)
      match (steps.filter (·.2.started.isSome)).getLast? with
      | some step => .ok step
      | none => .error (.noStartedStep h.name)

end PlanHistory

namespace Health

/-- The health that `text` reports. -/
def ofText? (text : String) : Option Health := (Json.parse? text).bind decode?

/-- Whether the pod of `hostname` is to be deleted to finish a change of version. -/
def shouldDeletePod (h : Health) (hostname : String) : Except HealthError Bool :=
  match h.processPlans.get? hostname with
  | some plans => .ok plans.isChangingVersion
  | none => .error (.unknownHost hostname)

/-- The step of the only process that an agent manages; reports on none or several are errors. -/
def currentStep (h : Health) : Except HealthError (MoveStatus × StepStatus) :=
  match h.processPlans.values with
  | [] => .error .noProcessStatus
  | [plans] => plans.currentStep
  | several => .error (.multipleProcessStatuses several.length)

end Health

end ReplicaControl
