/-
This file models how the policy service starts and stops: `InitPolicy` reads the policy
file, or makes an empty one, and appends the entries it finds to those in memory; `OnStart`
publishes the service and then calls it, `OnStop` only marks the service as stopped.

What jsoncpp reads from a text is a parameter, `none` when the parser fails or complains.
-/

import NetManager.Policy.NetPolicyService

namespace NetManager

/-! ### Reading the policy file -/

namespace NetPolicyFile

/-- `HOS_VERSION`. -/
def hosVersion : String := "1.0"

/-- One entry of the file. -/
def readEntry (entry : JsonValue) : Except JsonError UidPolicy := do
  let uid ← (← entry.member "uid").asString
  let policy ← (← entry.member "policy").asString
  return ⟨uid, policy⟩

/-- The entries of the file. -/
def readEntries (root : JsonValue) : Except JsonError (List UidPolicy) := do
  let arrayUidPolicy ← (← root.member "uidPolicy").elements
  arrayUidPolicy.mapM readEntry

/-- `NetPolicyFile::Json2Obj`. The entries are appended to those of the object, and a text that is
not JSON changes nothing. -/
def json2Obj (charReader : String → Option JsonValue) (content : String) (netPolicy : NetPolicy) :
    Except JsonError (Bool × NetPolicy) :=
  if content = "" then
    .ok (false, netPolicy)
  else
    match charReader content with
    | none => .ok (true, netPolicy)
    | some root => do
      let version ← (← root.member "hosVersion").asString
      let uidPolicys ← readEntries root
      return (true,
        { hosVersion := if version = "" then hosVersion else version
          uidPolicys := netPolicy.uidPolicys ++ uidPolicys })

/-- `NetPolicyFile::FileExists`. -/
def fileExists (this : NetPolicyFile) (fileName : String) : Bool :=
  (this.files.contents fileName).isSome

/-- `NetPolicyFile::CreateFile`. -/
def createFile (this : NetPolicyFile) (fileName : String) : Bool × NetPolicyFile :=
  if fileName = "" || this.fileExists fileName then
    (false, this)
  else
    let created := this.files.write fileName ""
    (created.1, { this with files := created.2 })

/-- `NetPolicyFile::ReadFile`. -/
def readFile (this : NetPolicyFile) (fileName : String) : Option String × NetPolicyFile :=
  if fileName = "" || !this.fileExists fileName then
    (none, this)
  else
    let content := this.files.read fileName
    (content.1, { this with files := content.2 })

/-- `NetPolicyFile::InitPolicy`. -/
def initPolicy (charReader : String → Option JsonValue) (this : NetPolicyFile) :
    Except JsonError (Bool × NetPolicyFile) :=
  let read := this.readFile policyFileName
  match read.1 with
  | none =>
    -- a file that was just made is empty
    .ok (read.2.createFile policyFileName)
  | some content =>
    if content = "" then
      .ok (true, read.2)
    else do
      let parsed ← json2Obj charReader content read.2.netPolicy
      return (parsed.1, { read.2 with netPolicy := parsed.2 })

end NetPolicyFile

/-! ### Starting and stopping the service -/

/-- `NetPolicyService::ServiceRunningState`. -/
inductive ServiceRunningState
  | stopped
  | running
deriving DecidableEq, Repr

/-- `NetPolicyService` with the fields it has as a system ability. -/
structure NetPolicyAbility where
  service : NetPolicyService
  registerToService : Bool := false
  state : ServiceRunningState := .stopped

namespace NetPolicyAbility

/-- `NetPolicyService::NetPolicyService`, facing some files. -/
def make (files : FileSystem) : NetPolicyAbility where
  service := ⟨{ files := files }⟩

/-- `NetPolicyService::Init`, when `Publish` answers `publish`. The service is registered locally:
the constant `REGISTER_LOCAL_RESULT` was set when the process started. -/
def init (charReader : String → Option JsonValue) (publish : Bool) (this : NetPolicyAbility) :
    Except JsonError (Bool × NetPolicyAbility) :=
  if !this.registerToService && !publish then
    .ok (false, this)
  else do
    let loaded ← this.service.netPolicyFile.initPolicy charReader
    return (loaded.1, { this with registerToService := true, service := ⟨loaded.2⟩ })

/-- `NetPolicyService::OnStart`. -/
def onStart (charReader : String → Option JsonValue) (publish : Bool) (this : NetPolicyAbility) :
    Except JsonError NetPolicyAbility :=
  if this.state = .running then
    .ok this
  else do
    let started ← this.init charReader publish
    return if started.1 then { started.2 with state := .running } else started.2

/-- `NetPolicyService::OnStop`. -/
def onStop (this : NetPolicyAbility) : NetPolicyAbility :=
  { this with state := .stopped, registerToService := false }

/-- A process: the service is made, `Init` publishes it and loads the file, and the service answers
`SetUidPolicy` requests. There is no service when `Init` fails or an exception is thrown. -/
def session (platform : Platform) (charReader : String → Option JsonValue) (files : FileSystem)
    (requests : List NetPolicyService.PolicyRequest) : Option NetPolicyService := do
  let started ← ((make files).init charReader true).toOption
  if started.1 then (started.2.service.setUidPolicies platform requests).toOption else none

end NetPolicyAbility

end NetManager
