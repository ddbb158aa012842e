/-
This file models the proxy of the policy service. A member function of the proxy returns what it
reads from the reply, and has a value of its own to return when the service was not reached, which
a client cannot tell from an answer.

What is written to a message is heard as the call it was written for. So the clients of the
service, however their calls are mixed and whichever of them are lost, share one policy map: every
call that reaches the service is answered as the map says that the requests before it make, and a
call that does not reach it changes nothing.
-/

import NetManager.Ipc.NetPolicyServiceStub

namespace NetManager

open Library

/-! ### What a client is told -/

/-- What the proxy returns. -/
inductive PolicyResult
  | code (value : Int32)
  | policy (policy : NetUidPolicy)
  | uids (uids : List UInt32)
  | access (allowed : Bool)
deriving DecidableEq

/-- The result is an answer to the call when every user has the policy of the map. A valid request
may have failed to write the file. -/
def PolicyMap.Answers (map : PolicyMap) : NetPolicyService.Call → PolicyResult → Prop
  | .setUidPolicy request, result =>
    if NetPolicyTraffic.isPolicyValid request.policy then
      result = .code NetPolicyResultCode.none.code ∨
        result = .code NetPolicyResultCode.internalError.code
    else result = .code NetPolicyResultCode.invalidPolicy.code
  | .getUidPolicy uid, result => result = .policy ((map uid).getD .none)
  | .getUids policy, result =>
    ∃ uids, result = .uids uids ∧ uids.Nodup ∧ ∀ uid, uid ∈ uids ↔ map uid = some policy
  | .isUidNetAccess uid _, result | .isUidNetAccessIface uid _, result =>
    result = .access (NetPolicyService.allows ((map uid).getD .none))

namespace NetPolicyServiceProxy

open Parcel Message NetPolicyServiceStub
open NetPolicyService (Call)

section Proxy

/- A code of the base system, and `IPCObjectStub::OnRemoteRequest`. -/
variable (platform : Platform) (errFlattenObject : Int)
  (ipcObjectStub : UInt32 → List MessageCell → Answer)

/-! ### Member functions -/

/-- Send a message. There is a reply when it could be written and sending it succeeded. -/
def transact (remote : Remote) (service : NetPolicyService) (code : UInt32)
    (arguments : MessageM Unit) :
    Except StolError (Option (List MessageCell) × NetPolicyService) :=
  match (do plain (writeInterfaceToken descriptor); arguments : MessageM Unit).run [] with
  | none => .ok (none, service)
  | some (_, data) =>
    match remote with
    | .null => .ok (none, service)
    | .broken error => .ok (if error ≠ EthernetService.errNone then none else some [], service)
    | .stub => do
      let answered ← onRemoteRequest platform errFlattenObject ipcObjectStub service code data
      return (if answered.1.code ≠ EthernetService.errNone then none else some answered.1.reply,
        answered.2)

/-- A number in a reply. A reply without one is read as zero. -/
def replyInt32 (reply : List MessageCell) : Int32 :=
  (((among readInt32).run reply).map Prod.fst).getD 0

/-- A truth value in a reply. A reply without one is read as `false`. -/
def replyBool (reply : List MessageCell) : Bool :=
  (((among readBool).run reply).map Prod.fst).getD false

/-- The users in a reply. -/
def replyUids (reply : List MessageCell) : List UInt32 :=
  ((readUint32Vector.run reply).map Prod.fst).getD []

/-- `NetPolicyServiceProxy::SetUidPolicy`. -/
def setUidPolicy (remote : Remote) (service : NetPolicyService) (uid : UInt32)
    (policy : NetUidPolicy) : Except StolError (Int32 × NetPolicyService) := do
  let sent ← transact platform errFlattenObject ipcObjectStub remote service cmdNsmSetUidPolicy do
    plain (writeUint32 uid)
    plain (writeUint32 policy.toUInt32)
  return (sent.1.elim NetPolicyResultCode.internalError.code replyInt32, sent.2)

/-- `NetPolicyServiceProxy::GetUidPolicy`. -/
def getUidPolicy (remote : Remote) (service : NetPolicyService) (uid : UInt32) :
    Except StolError (NetUidPolicy × NetPolicyService) := do
  let sent ← transact platform errFlattenObject ipcObjectStub remote service cmdNsmGetUidPolicy
    (plain (writeUint32 uid))
  return (sent.1.elim .none fun reply => ⟨replyInt32 reply⟩, sent.2)

/-- `NetPolicyServiceProxy::GetUids`. -/
def getUids (remote : Remote) (service : NetPolicyService) (policy : NetUidPolicy) :
    Except StolError (List UInt32 × NetPolicyService) := do
  let sent ← transact platform errFlattenObject ipcObjectStub remote service cmdNsmGetUids
    (plain (writeUint32 policy.toUInt32))
  return (sent.1.elim [] replyUids, sent.2)

/-- `NetPolicyServiceProxy::IsUidNetAccess(uid, metered)`. -/
def isUidNetAccess (remote : Remote) (service : NetPolicyService) (uid : UInt32)
    (metered : Bool) : Except StolError (Bool × NetPolicyService) := do
  let sent ← transact platform errFlattenObject ipcObjectStub remote service
    cmdNsmIsNetAccessMetered do
      plain (writeUint32 uid)
      plain (writeBool metered)
  return (sent.1.elim false replyBool, sent.2)

/-- `NetPolicyServiceProxy::IsUidNetAccess(uid, ifaceName)`. -/
def isUidNetAccessIface (remote : Remote) (service : NetPolicyService) (uid : UInt32)
    (ifaceName : String) : Except StolError (Bool × NetPolicyService) := do
  let sent ← transact platform errFlattenObject ipcObjectStub remote service
    cmdNsmIsNetAccessIfacename do
      plain (writeUint32 uid)
      plain (writeString ifaceName)
  return (sent.1.elim false replyBool, sent.2)

/-! ### Calls -/

/-- A call of a client whose proxy has this remote object. -/
def request (remote : Remote) (service : NetPolicyService) :
    Call → Except StolError (PolicyResult × NetPolicyService)
  | .setUidPolicy request =>
    (setUidPolicy platform errFlattenObject ipcObjectStub remote service request.uid
      request.policy).map fun told => (.code told.1, told.2)
  | .getUidPolicy uid =>
    (getUidPolicy platform errFlattenObject ipcObjectStub remote service uid).map fun told =>
      (.policy told.1, told.2)
  | .getUids policy =>
    (getUids platform errFlattenObject ipcObjectStub remote service policy).map fun told =>
      (.uids told.1, told.2)
  | .isUidNetAccess uid metered =>
    (isUidNetAccess platform errFlattenObject ipcObjectStub remote service uid metered).map
      fun told => (.access told.1, told.2)
  | .isUidNetAccessIface uid ifaceName =>
    (isUidNetAccessIface platform errFlattenObject ipcObjectStub remote service uid ifaceName).map
      fun told => (.access told.1, told.2)

/-- What a client is told when the service was not reached. -/
def unreached : Call → PolicyResult
  | .setUidPolicy _ => .code NetPolicyResultCode.internalError.code
  | .getUidPolicy _ => .policy .none
  | .getUids _ => .uids []
  | .isUidNetAccess _ _ | .isUidNetAccessIface _ _ => .access false

/-- What the service itself says. -/
def told (service : NetPolicyService) :
    Call → Except StolError (PolicyResult × NetPolicyService)
  | .setUidPolicy request => do
    let answered ← service.setUidPolicy platform request.uid request.policy
    return (.code answered.1.code, answered.2)
  | .getUidPolicy uid => do
    let policy ← service.getUidPolicy platform uid
    return (.policy policy, service)
  | .getUids policy => do
    let uids ← service.getUids platform policy
    return (.uids uids, service)
  | .isUidNetAccess uid metered => do
    let ret ← service.isUidNetAccess platform uid metered
    return (.access ret, service)
  | .isUidNetAccessIface uid ifaceName => do
    let ret ← service.isUidNetAccessIface platform uid ifaceName
    return (.access ret, service)

/-- What a client reads when this was written to the reply, and the service. -/
def ofAnswer {Read : Type} (read : Option (List MessageCell) → Read)
    (answered : MessageM Unit × NetPolicyService) : Read × NetPolicyService :=
  let reply := replied errFlattenObject answered.1
  (read (if reply.code ≠ EthernetService.errNone then none else some reply.reply), answered.2)

section Written

variable {call : Call} {arguments : MessageM Unit} (writes : Writes arguments (argumentCells call))

include writes

/-- The message that is sent for a call. -/
theorem run_message :
    (do plain (writeInterfaceToken descriptor); arguments : MessageM Unit).run [] =
      some ((), .inl (.interfaceToken descriptor) :: argumentCells call) := by
  have token : Writes (plain (writeInterfaceToken descriptor))
      [.inl (.interfaceToken descriptor)] := (writes_cell _).among
  have both : Writes (do plain (writeInterfaceToken descriptor); arguments : MessageM Unit)
      ([.inl (.interfaceToken descriptor)] ++ argumentCells call) := token.andThen writes
  exact both []

/-- A message with the cells of a call reaches the service as that call. -/
theorem transact_stub (service : NetPolicyService) {Read : Type}
    (read : Option (List MessageCell) → Read) :
    (do
      let sent ← transact platform errFlattenObject ipcObjectStub .stub service (requestCode call)
        arguments
      return (read sent.1, sent.2)) =
      (answer platform service call).map (ofAnswer errFlattenObject read) := by
  have hears : heard (requestCode call,
      .inl (.interfaceToken descriptor) :: argumentCells call) = some call :=
    (heard_eq_some _ _ call).mpr ⟨rfl, [], (List.append_nil _).symm⟩
  unfold transact
  rw [run_message writes]
  dsimp only
  rw [onRemoteRequest_heard platform errFlattenObject ipcObjectStub service hears]
  cases answer platform service call <;> rfl

end Written

theorem writes_uid (uid : UInt32) :
    Writes (plain (writeUint32 uid)) [.inl (.uint32 uid)] := (writes_cell _).among

/-- The client of a service that is reached reads what was written for it, when the service does
not throw. -/
theorem request_answered {call : Call} {arguments : MessageM Unit}
    (writes : Writes arguments (argumentCells call)) (service : NetPolicyService)
    {Result Read : Type} {asked : Except StolError Result}
    {make : Result → MessageM Unit × NetPolicyService}
    (answers : answer platform service call = asked >>= fun result => pure (make result))
    (read : Option (List MessageCell) → Read) (tell : Read → PolicyResult) :
    (do
      let sent ← transact platform errFlattenObject ipcObjectStub .stub service (requestCode call)
        arguments
      return (read sent.1, sent.2) : Except StolError (Read × NetPolicyService)).map
        (fun told => (tell told.1, told.2)) =
      asked >>= fun result =>
        pure (tell (ofAnswer errFlattenObject read (make result)).1, (make result).2) := by
  rw [transact_stub platform errFlattenObject ipcObjectStub writes service read, answers,
    map_bind_pure, map_bind_pure]
  rfl

/-- The client of a service that is reached is told what the service says. -/
theorem request_stub (service : NetPolicyService) (call : Call) :
    request platform errFlattenObject ipcObjectStub .stub service call =
      told platform service call := by
  have sent {arguments : MessageM Unit} (writes : Writes arguments (argumentCells call)) :=
    @request_answered platform errFlattenObject ipcObjectStub call arguments writes service
  cases call with
  | setUidPolicy given =>
    have writes : Writes (do plain (writeUint32 given.uid); plain (writeUint32
        given.policy.toUInt32) : MessageM Unit) (argumentCells (.setUidPolicy given)) :=
      (writes_uid given.uid).andThen (writes_uid given.policy.toUInt32)
    have answered := @sent _ writes _ _ _ _ rfl
      (fun reply => reply.elim NetPolicyResultCode.internalError.code replyInt32) .code
    exact answered
  | getUidPolicy uid =>
    have answered := @sent _ (writes_uid uid) _ _ _ _ rfl
      (fun reply => reply.elim .none fun reply => ⟨replyInt32 reply⟩) .policy
    exact answered
  | getUids policy =>
    have answered := @sent _ (writes_uid policy.toUInt32) _ _ _ _ rfl
      (fun reply => reply.elim [] replyUids) .uids
    exact answered
  | isUidNetAccess uid metered =>
    have writes : Writes (do plain (writeUint32 uid); plain (writeBool metered) : MessageM Unit)
        (argumentCells (.isUidNetAccess uid metered)) :=
      (writes_uid uid).andThen (writes_cell _).among
    have answered := @sent _ writes _ _ _ _ rfl (fun reply => reply.elim false replyBool) .access
    exact answered
  | isUidNetAccessIface uid ifaceName =>
    have writes : Writes (do plain (writeUint32 uid); plain (writeString ifaceName) :
        MessageM Unit) (argumentCells (.isUidNetAccessIface uid ifaceName)) :=
      (writes_uid uid).andThen (writes_cell _).among
    have answered := @sent _ writes _ _ _ _ rfl (fun reply => reply.elim false replyBool) .access
    exact answered

/-- A message to any other remote object leaves the service as it is. -/
theorem transact_elsewhere {remote : Remote} (elsewhere : remote ≠ .stub)
    (service : NetPolicyService) (code : UInt32) (arguments : MessageM Unit) :
    ∃ reply, transact platform errFlattenObject ipcObjectStub remote service code arguments =
      .ok (reply, service) := by
  unfold transact
  split
  · exact ⟨_, rfl⟩
  · cases remote with
    | null => exact ⟨_, rfl⟩
    | broken error => exact ⟨_, rfl⟩
    | stub => exact absurd rfl elsewhere

/-- There is no service to send a message to, or sending it returns an error. -/
def Lost : Remote → Prop
  | .null => True
  | .broken error => error ≠ EthernetService.errNone
  | .stub => False

theorem transact_lost {remote : Remote} (lost : Lost remote) (service : NetPolicyService)
    (code : UInt32) (arguments : MessageM Unit) :
    transact platform errFlattenObject ipcObjectStub remote service code arguments =
      .ok (none, service) := by
  unfold transact
  split
  · rfl
  · cases remote with
    | null => rfl
    | broken error =>
      dsimp only
      rw [if_pos (show error ≠ EthernetService.errNone from lost)]
    | stub => exact lost.elim

/-- A call that is lost returns what the proxy returns then, and the service does not notice. -/
theorem request_lost {remote : Remote} (lost : Lost remote) (service : NetPolicyService)
    (call : Call) :
    request platform errFlattenObject ipcObjectStub remote service call =
      .ok (unreached call, service) := by
  have sent := transact_lost platform errFlattenObject ipcObjectStub lost service
  cases call with
  | setUidPolicy given =>
    unfold request setUidPolicy
    dsimp only
    rw [sent]
    rfl
  | getUidPolicy uid =>
    unfold request getUidPolicy
    dsimp only
    rw [sent]
    rfl
  | getUids policy =>
    unfold request getUids
    dsimp only
    rw [sent]
    rfl
  | isUidNetAccess uid metered =>
    unfold request isUidNetAccess
    dsimp only
    rw [sent]
    rfl
  | isUidNetAccessIface uid ifaceName =>
    unfold request isUidNetAccessIface
    dsimp only
    rw [sent]
    rfl

/-- A call that does not reach the service leaves it as it is. -/
theorem request_elsewhere {remote : Remote} (elsewhere : remote ≠ .stub)
    (service : NetPolicyService) (call : Call) :
    ∃ result, request platform errFlattenObject ipcObjectStub remote service call =
      .ok (result, service) := by
  have sent := transact_elsewhere platform errFlattenObject ipcObjectStub elsewhere service
  cases call with
  | setUidPolicy given =>
    unfold request setUidPolicy
    dsimp only
    obtain ⟨reply, same⟩ := sent cmdNsmSetUidPolicy _
    exact ⟨_, by rw [same]; rfl⟩
  | getUidPolicy uid =>
    unfold request getUidPolicy
    dsimp only
    obtain ⟨reply, same⟩ := sent cmdNsmGetUidPolicy _
    exact ⟨_, by rw [same]; rfl⟩
  | getUids policy =>
    unfold request getUids
    dsimp only
    obtain ⟨reply, same⟩ := sent cmdNsmGetUids _
    exact ⟨_, by rw [same]; rfl⟩
  | isUidNetAccess uid metered =>
    unfold request isUidNetAccess
    dsimp only
    obtain ⟨reply, same⟩ := sent cmdNsmIsNetAccessMetered _
    exact ⟨_, by rw [same]; rfl⟩
  | isUidNetAccessIface uid ifaceName =>
    unfold request isUidNetAccessIface
    dsimp only
    obtain ⟨reply, same⟩ := sent cmdNsmIsNetAccessIfacename _
    exact ⟨_, by rw [same]; rfl⟩

/-! ### Every order of calls -/

/-- What the service says is the call of the service. -/
theorem told_snd (service : NetPolicyService) (call : Call) :
    (told platform service call).map Prod.snd = service.call platform call := by
  cases call with
  | setUidPolicy request => exact map_bind_pure _ _ _
  | getUids policy => exact map_bind_pure _ _ _
  | getUidPolicy uid => exact map_bind_pure _ _ _
  | isUidNetAccess uid metered => exact map_bind_pure _ _ _
  | isUidNetAccessIface uid ifaceName => exact map_bind_pure _ _ _

/-- The service after a client whose proxy has this remote object has made a call. -/
def serve (service : NetPolicyService) (event : Remote × Call) :
    Except StolError NetPolicyService :=
  (request platform errFlattenObject ipcObjectStub event.1 service event.2).map Prod.snd

/-- The call that reaches the service. -/
def delivered (event : Remote × Call) : Option Call :=
  if event.1 = .stub then some event.2 else none

/-- However calls are mixed and lost, the service goes through those that reach it. -/
theorem serve_run (service : NetPolicyService) (events : List (Remote × Call)) :
    events.foldlM (serve platform errFlattenObject ipcObjectStub) service =
      service.callAll platform (events.filterMap delivered) := by
  refine foldlM_filterMap delivered (fun service event => ?_) events service
  unfold serve delivered
  by_cases reaches : event.1 = .stub
  · rw [if_pos reaches, reaches, request_stub, told_snd]
    rfl
  · rw [if_neg reaches]
    obtain ⟨result, same⟩ :=
      request_elsewhere platform errFlattenObject ipcObjectStub reaches service event.2
    rw [same]
    rfl

end Proxy

/-- What is made of a result that is returned. -/
theorem bind_pure_ok {Result Value : Type} {asked : Except StolError Result} {result : Result}
    (returns : asked = .ok result) (make : Result → Value) :
    (asked >>= fun result => pure (make result)) = .ok (make result) := by
  rw [returns]
  rfl

/-- A service with the entries of a table says what the table says. -/
theorem told_answers (streamWriter : JsonValue → String) {service : NetPolicyService}
    {table : Table UInt32 NetUidPolicy} (represents : service.netPolicyFile.Represents table)
    (call : Call) : ∃ result after,
      told (lp64 streamWriter) service call = .ok (result, after) ∧
        PolicyMap.Answers table.read call result := by
  have fits := NetPolicyFile.fits_lp64 streamWriter table
  have policy (uid : UInt32) : service.getUidPolicy (lp64 streamWriter) uid =
      .ok ((table.read uid).getD .none) :=
    NetPolicyFile.getUidPolicy_eq streamWriter represents uid
  cases call with
  | setUidPolicy given =>
    obtain ⟨next, answered, _⟩ := NetPolicyService.setUidPolicy_spec fits represents given
    refine ⟨_, _, bind_pure_ok answered _, ?_⟩
    unfold PolicyMap.Answers NetPolicyService.answerOf
    dsimp only
    cases NetPolicyTraffic.isPolicyValid given.policy with
    | false =>
      rw [if_neg Bool.false_ne_true]
      rfl
    | true =>
      rw [if_pos rfl]
      cases service.netPolicyFile.files.opens service.netPolicyFile.files.opened with
      | true => exact Or.inl rfl
      | false => exact Or.inr rfl
  | getUidPolicy uid => exact ⟨_, _, bind_pure_ok (policy uid) _, rfl⟩
  | getUids wanted =>
    have uids : service.getUids (lp64 streamWriter) wanted = .ok (table.keysOf wanted) :=
      NetPolicyFile.getUids_eq fits represents wanted
    exact ⟨_, _, bind_pure_ok uids _, table.keysOf wanted, rfl, table.keysOf_nodup wanted,
      fun uid => table.mem_keysOf uid wanted⟩
  | isUidNetAccess uid metered =>
    have ret : service.isUidNetAccess (lp64 streamWriter) uid metered =
        .ok (NetPolicyService.allows ((table.read uid).getD .none)) := bind_pure_ok (policy uid) _
    exact ⟨_, _, bind_pure_ok ret _, rfl⟩
  | isUidNetAccessIface uid ifaceName =>
    have ret : service.isUidNetAccessIface (lp64 streamWriter) uid ifaceName =
        .ok (NetPolicyService.allows ((table.read uid).getD .none)) := bind_pure_ok (policy uid) _
    exact ⟨_, _, bind_pure_ok ret _, rfl⟩

/-- However the calls of clients are mixed, and whichever of them are lost, the service does not
throw. A call that reaches it is answered as the map says that the requests which reached it
before make, and a call that is lost gets what the proxy returns then and changes nothing. -/
theorem requests_refine (streamWriter : JsonValue → String) (hosVersion : String)
    (files : FileSystem) (errFlattenObject : Int)
    (ipcObjectStub : UInt32 → List MessageCell → Answer) (events : List (Remote × Call)) :
    ∃ last, events.foldlM (serve (lp64 streamWriter) errFlattenObject ipcObjectStub)
        (NetPolicyService.start hosVersion files) = .ok last ∧
      (∀ call, ∃ result after,
        request (lp64 streamWriter) errFlattenObject ipcObjectStub .stub last call =
          .ok (result, after) ∧
        (run PolicyMap.step PolicyMap.empty
          (events.filterMap fun event => (delivered event).bind request?)).Answers call result) ∧
      ∀ remote call, Lost remote →
        request (lp64 streamWriter) errFlattenObject ipcObjectStub remote last call =
          .ok (unreached call, last) := by
  obtain ⟨last, returned, represents⟩ :=
    callAll_lp64 streamWriter hosVersion files (events.filterMap delivered)
  rw [List.filterMap_filterMap] at represents
  refine ⟨last, (serve_run _ _ _ _ _).trans returned, fun call => ?_, fun remote call lost =>
    request_lost _ _ _ lost last call⟩
  obtain ⟨result, after, tells, answers⟩ := told_answers streamWriter represents call
  have map := run_reading NetPolicyService.tableStep Table.read PolicyMap.step
    NetPolicyService.read_tableStep ∅
    (events.filterMap fun event => (delivered event).bind request?)
  rw [map] at answers
  exact ⟨result, after, (request_stub _ _ _ last call).trans tells, answers⟩

end NetPolicyServiceProxy

end NetManager
