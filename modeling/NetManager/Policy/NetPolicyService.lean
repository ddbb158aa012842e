/-
This file models the policy service: the policy file with its entries, the checks in
front of it, and the requests of clients. The entries are found by comparing texts
everywhere but in `IsUidPolicyExist`, which parses them; parsing can throw, so the
requests return a result or an exception.
-/

import Mathlib.Data.List.Lookmap
import NetManager.Policy.Types

namespace NetManager

open Library

/-! ### The policy file -/

/-- `NetUidPolicyOpType` of `net_policy_file.h`. -/
inductive NetUidPolicyOpType
  | add
  | delete
  | update
deriving DecidableEq, Repr

/-- The fields of `NetPolicyFile`, and the file system it writes to. -/
structure NetPolicyFile where
  netPolicy : NetPolicy := {}
  files : FileSystem

namespace NetPolicyFile

/-- `POLICY_FILE_NAME`. -/
def policyFileName : String := "/data/system/net_policy.json"

/-- The JSON value of an entry. -/
def entryValue (uidPolicy : UidPolicy) : JsonValue :=
  .object [("policy", .string uidPolicy.policy), ("uid", .string uidPolicy.uid)]

/-- The entries that are written: temporary permissions are not. -/
def savedEntries (uidPolicys : List UidPolicy) : List UidPolicy :=
  uidPolicys.filter fun uidPolicy =>
    uidPolicy.policy ≠ stdToString NetUidPolicy.temporaryAllowMetered.toUInt32.toNat

/-- The JSON value of the file. The first entry that is appended makes the array. -/
def rootValue (netPolicy : NetPolicy) : JsonValue :=
  let saved := savedEntries netPolicy.uidPolicys
  .object (("hosVersion", .string netPolicy.hosVersion) ::
    if saved = [] then [] else [("uidPolicy", .array (saved.map entryValue))])

/-- `NetPolicyFile::WriteFile(fileName)`. -/
def writeFile (platform : Platform) (this : NetPolicyFile) (fileName : String) :
    Bool × NetPolicyFile :=
  if fileName = "" then
    (false, this)
  else
    let written := this.files.write fileName (platform.streamWriter (rootValue this.netPolicy))
    (written.1, { this with files := written.2 })

/-- What `NetPolicyFile::WriteFile(op, uid, policy)` does to the entries. Updates and deletions
stop at the first entry with the uid. -/
def changeEntries (netUidPolicyOpType : NetUidPolicyOpType) (uid policy : String)
    (uidPolicys : List UidPolicy) : List UidPolicy :=
  match netUidPolicyOpType with
  | .update => uidPolicys.lookmap fun uidPolicy =>
      if uidPolicy.uid = uid then some { uidPolicy with policy := policy } else none
  | .delete => uidPolicys.eraseP fun uidPolicy => uidPolicy.uid = uid
  | .add => uidPolicys ++ [⟨uid, policy⟩]

/-- `NetPolicyFile::WriteFile(op, uid, policy)`. -/
def writeFileOp (platform : Platform) (this : NetPolicyFile)
    (netUidPolicyOpType : NetUidPolicyOpType) (uid : UInt32) (policy : NetUidPolicy) :
    Bool × NetPolicyFile :=
  let changed := changeEntries netUidPolicyOpType (stdToString uid.toNat)
    (stdToString policy.toUInt32.toNat) this.netPolicy.uidPolicys
  { this with netPolicy := { this.netPolicy with uidPolicys := changed } }.writeFile platform
    policyFileName

/-- `NetPolicyFile::IsUidPolicyExist`. -/
def isUidPolicyExist (platform : Platform) (this : NetPolicyFile) (uid : UInt32) :
    Except StolError Bool :=
  this.netPolicy.uidPolicys.anyM fun uidPolicy => do
    let number ← stol platform.longBits uidPolicy.uid
    return UInt32.ofInt number == uid

/-- `NetPolicyFile::GetUidPolicy`. -/
def getUidPolicy (platform : Platform) (this : NetPolicyFile) (uid : UInt32) :
    Except StolError NetUidPolicy :=
  match this.netPolicy.uidPolicys.find? fun uidPolicy => uidPolicy.uid = stdToString uid.toNat with
  | some uidPolicy => do
    let number ← stol platform.longBits uidPolicy.policy
    return NetUidPolicy.ofLong number
  | none => .ok .none

/-- `NetPolicyFile::GetUids`. -/
def getUids (platform : Platform) (this : NetPolicyFile) (policy : NetUidPolicy) :
    Except StolError (List UInt32) :=
  (this.netPolicy.uidPolicys.filter fun uidPolicy =>
      uidPolicy.policy = stdToString policy.toUInt32.toNat).mapM fun uidPolicy => do
    let number ← stol platform.longBits uidPolicy.uid
    return UInt32.ofInt number

end NetPolicyFile

/-! ### The checks in front of the file -/

namespace NetPolicyTraffic

/-- `NetPolicyTraffic::IsPolicyValid`. -/
def isPolicyValid (policy : NetUidPolicy) : Bool :=
  policy = .none || policy = .allowMeteredBackground || policy = .temporaryAllowMetered ||
    policy = .rejectMeteredBackground || policy = .allowAll || policy = .rejectAll

/-- What `NetPolicyTraffic` does to add, update or delete an entry. Its file is never null: the
only constructor of the service makes it. -/
def writeUidPolicy (netUidPolicyOpType : NetUidPolicyOpType) (platform : Platform)
    (netPolicyFile : NetPolicyFile) (uid : UInt32) (policy : NetUidPolicy) :
    NetPolicyResultCode × NetPolicyFile :=
  if !isPolicyValid policy then
    (.invalidPolicy, netPolicyFile)
  else
    let written := netPolicyFile.writeFileOp platform netUidPolicyOpType uid policy
    (if written.1 then .none else .internalError, written.2)

/-- `NetPolicyTraffic::AddUidPolicy`. -/
def addUidPolicy := writeUidPolicy .add

/-- `NetPolicyTraffic::SetUidPolicy`. -/
def setUidPolicy := writeUidPolicy .update

/-- `NetPolicyTraffic::DeleteUidPolicy`. -/
def deleteUidPolicy := writeUidPolicy .delete

end NetPolicyTraffic

/-! ### The service -/

/-- The part of `NetPolicyService` its requests work on. `netPolicyTraffic_` shares the file. -/
structure NetPolicyService where
  netPolicyFile : NetPolicyFile

namespace NetPolicyService

/-- `NetPolicyService::SetUidPolicy`. -/
def setUidPolicy (platform : Platform) (this : NetPolicyService) (uid : UInt32)
    (policy : NetUidPolicy) : Except StolError (NetPolicyResultCode × NetPolicyService) :=
  let finish (changed : NetPolicyResultCode × NetPolicyFile) :=
    (changed.1, { this with netPolicyFile := changed.2 })
  if policy = .none then
    .ok (finish (NetPolicyTraffic.deleteUidPolicy platform this.netPolicyFile uid policy))
  else do
    if !(← this.netPolicyFile.isUidPolicyExist platform uid) then
      return finish (NetPolicyTraffic.addUidPolicy platform this.netPolicyFile uid policy)
    else
      return finish (NetPolicyTraffic.setUidPolicy platform this.netPolicyFile uid policy)

/-- `NetPolicyService::GetUidPolicy`. -/
def getUidPolicy (platform : Platform) (this : NetPolicyService) (uid : UInt32) :
    Except StolError NetUidPolicy :=
  this.netPolicyFile.getUidPolicy platform uid

/-- `NetPolicyService::GetUids`. -/
def getUids (platform : Platform) (this : NetPolicyService) (policy : NetUidPolicy) :
    Except StolError (List UInt32) :=
  this.netPolicyFile.getUids platform policy

/-- The answer about a user with a policy. -/
def allows (uidPolicy : NetUidPolicy) : Bool :=
  if uidPolicy = .none then true
  else if uidPolicy.toUInt32 &&& netPolicyAllowMask ≠ 0 then true
  else false

/-- `NetPolicyService::IsUidNetAccess(uid, metered)`, which does not read `metered`. -/
def isUidNetAccess (platform : Platform) (this : NetPolicyService) (uid : UInt32) (_ : Bool) :
    Except StolError Bool := do
  let uidPolicy ← this.netPolicyFile.getUidPolicy platform uid
  return allows uidPolicy

/-- `NetPolicyService::IsUidNetAccess(uid, ifaceName)`, which does not read `ifaceName`. -/
def isUidNetAccessIface (platform : Platform) (this : NetPolicyService) (uid : UInt32)
    (_ : String) : Except StolError Bool := do
  let uidPolicy ← this.netPolicyFile.getUidPolicy platform uid
  return allows uidPolicy

/-! ### Runs -/

/-- A `SetUidPolicy` request. -/
structure PolicyRequest where
  uid : UInt32
  policy : NetUidPolicy
deriving DecidableEq, Repr

/-- `SetUidPolicy` requests, one after the other. -/
def setUidPolicies (platform : Platform) (this : NetPolicyService)
    (requests : List PolicyRequest) : Except StolError NetPolicyService :=
  requests.foldlM (fun state request => do
    let answered ← state.setUidPolicy platform request.uid request.policy
    return answered.2) this

/-- A service with an empty store. -/
def start (hosVersion : String) (files : FileSystem) : NetPolicyService :=
  ⟨{ netPolicy := { hosVersion := hosVersion }, files := files }⟩

end NetPolicyService

end NetManager
