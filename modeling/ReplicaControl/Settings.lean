import ReplicaControl.Text
import ReplicaControl.Topology.Build
import ReplicaControl.Unicode.Classes

/-!
# Quoted texts

A text as error messages quote it (`Text.quoted`): between double quotes, with the quote, the
backslash and the common controls escaped by a letter, and whatever is not `Unicode.isShown` by its
code point in braces.
-/

namespace ReplicaControl.Text

/-- The hexadecimal digits of `n` in lower case, without leading zeros. -/
def lowerHexNumber (n : Nat) : List Char :=
  if n < 16 then [lowerHexDigit n] else lowerHexNumber (n / 16) ++ [lowerHexDigit (n % 16)]
termination_by n
decreasing_by omega

/-- `c` inside a quoted text. -/
def quotedChar (c : Char) : List Char :=
  if c = '"' then ['\\', '"']
  else if c = '\\' then ['\\', '\\']
  else if c = '\n' then ['\\', 'n']
  else if c = '\r' then ['\\', 'r']
  else if c = '\t' then ['\\', 't']
  else if c.toNat = 0 then ['\\', '0']
  else if Unicode.isShown c then [c]
  else ['\\', 'u', '\x7b'] ++ lowerHexNumber c.toNat ++ ['\x7d']

/-- `s` between quotes, by `quotedChar`. -/
def quoted (s : String) : String :=
  "\"" ++ String.ofList (s.toList.flatMap quotedChar) ++ "\""

end ReplicaControl.Text

/-!
## Settings of the operator

Settings that every reconciliation shares, read from variables (specification, section 10.1). An
empty variable counts as unset.

- `OperatorSettings.ofVariables`: the settings of a source of variables. The values of
  `MANAGED_SECURITY_CONTEXT` and `LOG_FORMAT` are checked before a required image is found missing.
- `LogFormat.parse`: the line format that a text names.
- `OperatorSettings.imageFor`, `OperatorSettings.logging`: what the other parts take from them.
-/

namespace ReplicaControl

/-- How a logged event is written: the values of `LOG_FORMAT`. -/
inductive LogFormat where
  | text
  | json
deriving DecidableEq

namespace LogFormat

/-- The name of a format, as `parse` reads it. -/
def name : LogFormat → String
  | text => "text"
  | json => "json"

/-- `s` with its ASCII letters in lower case. -/
def lowerAscii (s : String) : String := String.ofList (s.toList.map Char.toLower)

/-- The format that `s` names, in letters of either case. -/
def parse (s : String) : Except String LogFormat :=
  match lowerAscii s with
  | "text" => .ok text
  | "json" => .ok json
  | other => .error ("unknown log format " ++ other ++ ", expected text or json")

end LogFormat

/-- What is logged, and how: a filter directive and a line format. -/
structure LoggingSettings where
  filter : String := "info"
  format : LogFormat := .text
deriving DecidableEq

/-- Why variables give no settings. -/
inductive SettingsError where
  | missingVariable (name : String)
  | invalidValue (name value reason : String)
deriving DecidableEq

/-- The text of an error. -/
def SettingsError.message : SettingsError → String
  | missingVariable name => "required environment variable " ++ name ++ " is not set"
  | invalidValue name value reason =>
    "environment variable " ++ name ++ " has invalid value " ++ Text.quoted value ++ ": " ++ reason

/-- Settings that every reconciliation shares. -/
structure OperatorSettings where
  clusterDomain : String
  agentImage : String
  versionUpgradeHookImage : String
  readinessProbeImage : String
  mongodbImage : String
  mongodbRepoUrl : String
  /-- Whether the platform assigns security contexts itself. -/
  managedSecurityContext : Bool
  logLevel : String
  logFormat : LogFormat
deriving DecidableEq

namespace OperatorSettings

/-- The variable `name`, if it is set and not empty. -/
def optional (lookup : String → Option String) (name : String) : Option String :=
  (lookup name).filter (!·.isEmpty)

/-- The variable `name`, which has to be set. -/
def required (lookup : String → Option String) (name : String) : Except SettingsError String :=
  match optional lookup name with
  | some value => .ok value
  | none => .error (.missingVariable name)

/-- The truth value that `value` writes, in letters of either case; `name` is for the error. -/
def parseBool (name value : String) : Except SettingsError Bool :=
  let lower := LogFormat.lowerAscii value
  if lower == "true" || lower == "1" || lower == "yes" then .ok true
  else if lower == "false" || lower == "0" || lower == "no" then .ok false
  else .error (.invalidValue name value "expected a boolean")

/-- The settings of the source `lookup`, with the defaults of section 10.1 where a variable is
unset. -/
def ofVariables (lookup : String → Option String) : Except SettingsError OperatorSettings := do
  let managed ←
    match optional lookup "MANAGED_SECURITY_CONTEXT" with
    | none => .ok false
    | some value => parseBool "MANAGED_SECURITY_CONTEXT" value
  let format ←
    match optional lookup "LOG_FORMAT" with
    | none => .ok LogFormat.text
    | some value =>
      match LogFormat.parse value with
      | .ok format => .ok format
      | .error reason => .error (.invalidValue "LOG_FORMAT" value reason)
  let agentImage ← required lookup "AGENT_IMAGE"
  let versionUpgradeHookImage ← required lookup "VERSION_UPGRADE_HOOK_IMAGE"
  let readinessProbeImage ← required lookup "READINESS_PROBE_IMAGE"
  return {
    clusterDomain := (optional lookup "CLUSTER_DNS_NAME").getD defaultClusterDomain
    agentImage
    versionUpgradeHookImage
    readinessProbeImage
    mongodbImage := (optional lookup "MONGODB_IMAGE").getD "mongo"
    mongodbRepoUrl := (optional lookup "MONGODB_REPO_URL").getD "quay.io/mongodb"
    managedSecurityContext := managed
    logLevel := (optional lookup "LOG_LEVEL").getD "info"
    logFormat := format }

/-- `<repo>/<image>:<version>`; slashes at the end of the repository are dropped. -/
def imageFor (s : OperatorSettings) (version : String) : String :=
  String.ofList (Text.dropEndWhile (· == '/') s.mongodbRepoUrl.toList) ++ "/" ++
    s.mongodbImage ++ ":" ++ version

/-- What the operator logs, and how. -/
def logging (s : OperatorSettings) : LoggingSettings := ⟨s.logLevel, s.logFormat⟩

end OperatorSettings

end ReplicaControl
