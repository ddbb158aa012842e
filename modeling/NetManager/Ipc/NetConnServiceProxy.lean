/-
This file models the proxy of the connection service. A member function of the proxy writes a
request to a message, sends it, and returns what it reads from the reply; the member functions
differ in what they write and in the codes they return for what fails on the way.

When the message is delivered, the stub reads the request that was written. So clients that reach
the service through proxies run it as if they called it, and are told the code of the service, or
what the stub makes of it.
-/

import NetManager.Conn.Refusal
import NetManager.Ipc.NetConnServiceStub

namespace NetManager.NetConnServiceProxy

open Library Parcel Message NetConnService NetConnServiceStub

/-! ### Member functions -/

/-- What a member function of the proxy sends, and what it returns when the name of the interface
or the arguments could not be written, when there is no remote object and when sending failed. -/
structure Call where
  code : UInt32
  arguments : MessageM Unit
  tokenFailed : Int
  writeFailed : Int
  noRemote : Int
  sendFailed : Int → Int

section Proxy

/- The codes of the base system, `iface_cast`, and `IPCObjectStub::OnRemoteRequest`. -/
variable (errFlattenObject errNullObject ipcProxyErr : Int)
  (ifaceCast : Nat → Option INetConnCallback)
  (ipcObjectStub : UInt32 → List MessageCell → Answer)

/-- `SendRequest`. -/
def sendRequest (remote : Remote) (service : NetConnService) (code : UInt32)
    (data : List MessageCell) : Option (Answer × NetConnService) :=
  match remote with
  | .null => none
  | .broken error => some (⟨error, []⟩, service)
  | .stub => some (onRemoteRequest errFlattenObject ifaceCast ipcObjectStub service code data)

/-- Send a call and read a code from the reply. A reply without a code is read as zero. -/
def Call.transact (this : Call) (remote : Remote) (service : NetConnService) :
    Int × NetConnService :=
  match (plain (writeInterfaceToken descriptor)).run [] with
  | none => (this.tokenFailed, service)
  | some (_, named) =>
    match this.arguments.run named with
    | none => (this.writeFailed, service)
    | some (_, data) =>
      match sendRequest errFlattenObject ifaceCast ipcObjectStub remote service this.code data with
      | none => (this.noRemote, service)
      | some (answer, after) =>
        if answer.code ≠ EthernetService.errNone then (this.sendFailed answer.code, after)
        else (((readInt32.run answer.reply).map fun (ret, _) => ret.toInt).getD 0, after)

/-- `NetConnServiceProxy::SystemReady`. It returns the code of the call. -/
def systemReady (remote : Remote) (service : NetConnService) : Int × NetConnService :=
  match (plain (writeInterfaceToken descriptor)).run [] with
  | none => (errFlattenObject, service)
  | some (_, data) =>
    match sendRequest errFlattenObject ifaceCast ipcObjectStub remote service cmdSystemReady
        data with
    | none => (errNullObject, service)
    | some (answer, after) => (answer.code, after)

/-- `NetConnServiceProxy::RegisterNetSupplier`. -/
def registerNetSupplier (netType : UInt32) (ident : String) (netCapabilities : UInt64) : Call where
  code := cmdRegNetSupplier
  arguments := plain do
    writeUint32 netType
    writeString ident
    writeUint64 netCapabilities
  tokenFailed := netConnErrInvalidSupplierId
  writeFailed := netConnErrInvalidSupplierId
  noRemote := netConnErrInvalidSupplierId
  sendFailed _ := netConnErrInvalidSupplierId

/-- `NetConnServiceProxy::UnregisterNetSupplier`. -/
def unregisterNetSupplier (supplierId : UInt32) : Call where
  code := cmdUnregNetwork
  arguments := plain (writeUint32 supplierId)
  tokenFailed := errFlattenObject
  writeFailed := errFlattenObject
  noRemote := errNullObject
  sendFailed error := error

/-- What the four requests about callbacks send. Nobody looks whether the arguments were
written, which does not fail. -/
def aboutCallback (code : UInt32) (netSpecifier : ParcelM Unit) (callback : INetConnCallback) :
    Call where
  code := code
  arguments := do
    plain netSpecifier
    writeRemoteObject callback.asObject
  tokenFailed := netConnErrInvalidParameter
  writeFailed := netConnErrInvalidParameter
  noRemote := netConnErrGetRemoteObjectFailed
  sendFailed retCode := retCode

/-- `NetConnServiceProxy::RegisterNetConnCallback(callback)`. -/
def registerNetConnCallback : Option INetConnCallback → Option Call
  | none => none
  | some callback => some (aboutCallback cmdRegisterNetConnCallback (pure ()) callback)

/-- `NetConnServiceProxy::RegisterNetConnCallback(netSpecifier, callback)`. -/
def registerNetConnCallbackBySpecifier : Option NetSpecifier → Option INetConnCallback → Option Call
  | some netSpecifier, some callback =>
    some (aboutCallback cmdRegisterNetConnCallbackBySpecifier netSpecifier.marshalling callback)
  | _, _ => none

/-- `NetConnServiceProxy::UnregisterNetConnCallback(callback)`. -/
def unregisterNetConnCallback : Option INetConnCallback → Option Call
  | none => none
  | some callback => some (aboutCallback cmdUnregisterNetConnCallback (pure ()) callback)

/-- `NetConnServiceProxy::UnregisterNetConnCallback(netSpecifier, callback)`. -/
def unregisterNetConnCallbackBySpecifier :
    Option NetSpecifier → Option INetConnCallback → Option Call
  | some netSpecifier, some callback =>
    some (aboutCallback cmdUnregisterNetConnCallbackBySpecifier netSpecifier.marshalling callback)
  | _, _ => none

/-- `NetConnServiceProxy::UpdateNetSupplierInfo`. -/
def updateNetSupplierInfo (supplierId : UInt32) (netSupplierInfo : NetSupplierInfo) : Call where
  code := cmdSetNetSupplierInfo
  arguments := plain do
    writeUint32 supplierId
    netSupplierInfo.marshalling
  tokenFailed := errFlattenObject
  writeFailed := errFlattenObject
  noRemote := errNullObject
  sendFailed error := error

/-- `NetConnServiceProxy::UpdateNetCapabilities`. -/
def updateNetCapabilities (supplierId : UInt32) (netCapabilities : UInt64) : Call where
  code := cmdSetNetCapabiltites
  arguments := plain do
    writeUint32 supplierId
    writeUint64 netCapabilities
  tokenFailed := ipcProxyErr
  writeFailed := errFlattenObject
  noRemote := errNullObject
  sendFailed error := error

/-- `NetConnServiceProxy::UpdateNetLinkInfo`. -/
def updateNetLinkInfo (supplierId : UInt32) (netLinkInfo : NetLinkInfo) : Call where
  code := cmdSetNetLinkInfo
  arguments := plain do
    writeUint32 supplierId
    netLinkInfo.marshalling
  tokenFailed := ipcProxyErr
  writeFailed := ipcProxyErr
  noRemote := errNullObject
  sendFailed error := error

/-! ### Requests -/

/-- The call that a request to the service is sent as. A null pointer to a callback or a specifier
is refused before anything is sent, and the timer is no request. -/
def callOf : Action → Option Call
  | .registerNetSupplier netType ident netCapabilities =>
    some (registerNetSupplier netType ident netCapabilities)
  | .unregisterNetSupplier supplierId =>
    some (unregisterNetSupplier errFlattenObject errNullObject supplierId)
  | .updateNetSupplierInfo supplierId netSupplierInfo =>
    netSupplierInfo.map (updateNetSupplierInfo errFlattenObject errNullObject supplierId)
  | .updateNetCapabilities supplierId netCapabilities =>
    some (updateNetCapabilities errFlattenObject errNullObject ipcProxyErr supplierId
      netCapabilities)
  | .updateNetLinkInfo supplierId netLinkInfo =>
    netLinkInfo.map (updateNetLinkInfo errNullObject ipcProxyErr supplierId)
  | .registerNetConnCallback callback => registerNetConnCallback callback
  | .registerNetConnCallbackBySpecifier netSpecifier callback =>
    registerNetConnCallbackBySpecifier netSpecifier callback
  | .unregisterNetConnCallback callback => unregisterNetConnCallback callback
  | .unregisterNetConnCallbackBySpecifier netSpecifier callback =>
    unregisterNetConnCallbackBySpecifier netSpecifier callback
  | .reConnectServiceTask => none

/-- A request of a client whose proxy has this remote object, with the code that the client is
given; or the timer of the service. -/
def request (remote : Remote) (service : NetConnService) : Action → Int × NetConnService
  | .reConnectServiceTask => service.perform .reConnectServiceTask
  | action =>
    match callOf errFlattenObject errNullObject ipcProxyErr action with
    | none => (netConnErrInputNullPtr, service)
    | some call => call.transact errFlattenObject ifaceCast ipcObjectStub remote service

/-- What a client passes to a proxy. An update takes a pointer to the information and follows it,
and a list must fit. -/
def Sendable : Action → Prop
  | .updateNetSupplierInfo _ netSupplierInfo => netSupplierInfo.isSome
  | .updateNetLinkInfo _ netLinkInfo => ∃ info, netLinkInfo = some info ∧ info.ListsFit
  | _ => True

/-- What a client is given for a code of the service. -/
def clientCode : Action → Int → Int
  | .registerNetSupplier _ _ _, ret =>
    if ret = ResultCode.noNetwork.code ∨ ret = ResultCode.noSupplier.code then
      netConnErrInvalidSupplierId else ret
  | .registerNetConnCallback _, ret | .registerNetConnCallbackBySpecifier _ _, ret
  | .unregisterNetConnCallback _, ret | .unregisterNetConnCallbackBySpecifier _ _, ret =>
    convertCode ret
  | _, ret => ret

/-! ### Codes -/

/-- A number that the service returns is an `int32_t`. -/
theorem toInt_ofInt_perform (service : NetConnService) (action : Action) :
    (Int32.ofInt (service.perform action).1).toInt = (service.perform action).1 := by
  have id (supplierId : UInt32) : (Int32.ofInt (asInt32 supplierId)).toInt = asInt32 supplierId :=
    congrArg Int32.toInt (Int32.ofInt_toInt _)
  cases action with
  | registerNetSupplier netType ident netCapabilities =>
    show (Int32.ofInt (service.registerNetSupplier netType ident netCapabilities).1).toInt =
      (service.registerNetSupplier netType ident netCapabilities).1
    unfold NetConnService.registerNetSupplier
    split
    · rfl
    · split
      · exact id _
      · exact id _
  | reConnectServiceTask =>
    unfold perform
    dsimp only
    split
    · rfl
    · exact toInt_ofInt_code _
  | _ => exact toInt_ofInt_code _

/-- A converted code is zero for zero, and negative otherwise. -/
theorem convertCode_cases (ret : Int) :
    (ret = 0 ∧ convertCode ret = 0) ∨
      (ret ≠ 0 ∧ convertCode ret < 0 ∧
        (Int32.ofInt (convertCode ret)).toInt = convertCode ret) := by
  unfold convertCode
  split
  · rename_i same
    exact .inl ⟨same, rfl⟩
  · rename_i other
    refine .inr ⟨other, ?_⟩
    split
    · exact ⟨by decide, rfl⟩
    split
    · exact ⟨by decide, rfl⟩
    split
    · exact ⟨by decide, rfl⟩
    split
    · exact ⟨by decide, rfl⟩
    · exact ⟨by decide, rfl⟩

/-- A client is given a negative code when the service returns one. -/
theorem clientCode_neg_iff (service : NetConnService) (action : Action) :
    clientCode action (service.perform action).1 < 0 ↔ (service.perform action).1 < 0 := by
  have converted {ret : Int} (nonpos : ret ≤ 0) : convertCode ret < 0 ↔ ret < 0 := by
    rcases convertCode_cases ret with ⟨rfl, zero⟩ | ⟨other, negative, _⟩
    · exact iff_of_false (by omega) (by omega)
    · exact iff_of_true negative (by omega)
  cases action with
  | registerNetSupplier netType ident netCapabilities =>
    unfold clientCode
    dsimp only
    split
    · rename_i same
      refine iff_of_true (by decide) ?_
      rcases same with same | same
      · exact lt_of_eq_of_lt same (by decide)
      · exact lt_of_eq_of_lt same (by decide)
    · rfl
  | registerNetConnCallback callback => exact converted (ResultCode.code_nonpos _)
  | registerNetConnCallbackBySpecifier netSpecifier callback =>
    exact converted (ResultCode.code_nonpos _)
  | unregisterNetConnCallback callback => exact converted (ResultCode.code_nonpos _)
  | unregisterNetConnCallbackBySpecifier netSpecifier callback =>
    exact converted (ResultCode.code_nonpos _)
  | _ => rfl

/-- A request that the service refuses changes nothing. -/
theorem perform_refused {service : NetConnService} (wellFormed : service.registry.WellFormed)
    (few : service.createdSuppliers < 2 ^ 31 - 1003) {action : Action}
    (isRequest : action.isRequest = true) (refused : (service.perform action).1 < 0) :
    service.step action = service := by
  cases action with
  | registerNetSupplier netType ident netCapabilities =>
    exact congrArg Prod.snd (registerNetSupplier_refused wellFormed few refused)
  | _ => exact (atomic_perform wellFormed isRequest (fun _ _ _ same => by cases same)).1 refused

/-! ### One request -/

/-- What a client makes of an answer. -/
def Call.told (this : Call) (answer : Answer) : Int :=
  if answer.code ≠ EthernetService.errNone then this.sendFailed answer.code
  else ((readInt32.run answer.reply).map fun (ret, _) => ret.toInt).getD 0

/-- A code in a reply is read as it is. -/
theorem told_replyCode (call : Call) {ret : Int} (fits : (Int32.ofInt ret).toInt = ret) :
    call.told (replyCode errFlattenObject ret) = ret := fits

/-- A code that is also returned comes back as it is. -/
theorem told_replyAndReturn (call : Call) (same : ∀ error, call.sendFailed error = error)
    (ret : Int) : call.told (replyAndReturn (convertCode ret)) = convertCode ret := by
  rcases convertCode_cases ret with ⟨_, zero⟩ | ⟨_, negative, _⟩
  · rw [zero]
    rfl
  · refine (if_pos ?_).trans (same _)
    exact negative.ne

/-- A call with the cells of a request is handled by the member function of the request. -/
theorem transact_stub (call : Call) {written : List MessageCell} {requestFunc : MemberFunc}
    {action : Action} (writes : Writes call.arguments written)
    (listed : memberFuncMap errFlattenObject ifaceCast call.code = some requestFunc)
    (reads : requestFunc.read written = .ok action) (service : NetConnService) :
    call.transact errFlattenObject ifaceCast ipcObjectStub .stub service =
      (call.told (requestFunc.answer (service.perform action).1), service.step action) := by
  have handled : NetConnServiceStub.onRemoteRequest errFlattenObject ifaceCast ipcObjectStub
      service call.code (.inl (.interfaceToken descriptor) :: written) =
        (requestFunc.answer (service.perform action).1, service.step action) := by
    unfold NetConnServiceStub.onRemoteRequest
    rw [interfaceToken_cons]
    dsimp only
    rw [if_neg (not_not_intro rfl), listed]
    dsimp only
    unfold MemberFunc.handle
    rw [reads]
    rfl
  have token : (plain (writeInterfaceToken descriptor)).run [] =
      some ((), [.inl (.interfaceToken descriptor)]) := (writes_cell _).among []
  have data : call.arguments.run [.inl (.interfaceToken descriptor)] =
      some ((), .inl (.interfaceToken descriptor) :: written) := writes _
  unfold Call.transact
  rw [token]
  dsimp only
  rw [data]
  dsimp only
  unfold sendRequest
  dsimp only
  rw [handled]
  dsimp only
  unfold Call.told
  split <;> rfl

/-- The proxy writes the cells of a complete request under its code, and what the stub answers to
it with a code of the service is what the client is given. -/
theorem callOf_complete {action : Action} (complete : Complete action) {requestFunc : MemberFunc}
    (listed : memberFuncMap errFlattenObject ifaceCast (requestCode action) = some requestFunc) :
    ∃ call, callOf errFlattenObject errNullObject ipcProxyErr action = some call ∧
      call.code = requestCode action ∧ Writes call.arguments (argumentCells action) ∧
      ∀ ret, (Int32.ofInt ret).toInt = ret →
        call.told (requestFunc.answer ret) = clientCode action ret := by
  cases action with
  | registerNetSupplier netType ident netCapabilities =>
    obtain rfl := Option.some.inj listed
    have writes : Writes (do
        writeUint32 netType
        writeString ident
        writeUint64 netCapabilities : ParcelM Unit)
        [.uint32 netType, .string ident, .uint64 netCapabilities] :=
      (writes_cell _).andThen ((writes_cell _).andThen (writes_cell _))
    refine ⟨_, rfl, rfl, writes.among, fun ret fits => ?_⟩
    refine told_replyCode errFlattenObject _ ?_
    split
    · rfl
    · exact fits
  | unregisterNetSupplier supplierId =>
    obtain rfl := Option.some.inj listed
    exact ⟨_, rfl, rfl, (writes_cell _).among,
      fun ret fits => told_replyCode errFlattenObject _ fits⟩
  | updateNetCapabilities supplierId netCapabilities =>
    obtain rfl := Option.some.inj listed
    have writes : Writes (do
        writeUint32 supplierId
        writeUint64 netCapabilities : ParcelM Unit)
        [.uint32 supplierId, .uint64 netCapabilities] :=
      (writes_cell _).andThen (writes_cell _)
    exact ⟨_, rfl, rfl, writes.among, fun ret fits => told_replyCode errFlattenObject _ fits⟩
  | updateNetSupplierInfo supplierId netSupplierInfo =>
    obtain rfl := Option.some.inj listed
    obtain ⟨info, rfl⟩ := Option.isSome_iff_exists.mp complete
    have writes : Writes (do
        writeUint32 supplierId
        info.marshalling : ParcelM Unit) (.uint32 supplierId :: info.cells) :=
      (writes_cell _).andThen info.writes_marshalling
    exact ⟨_, rfl, rfl, writes.among, fun ret fits => told_replyCode errFlattenObject _ fits⟩
  | updateNetLinkInfo supplierId netLinkInfo =>
    obtain rfl := Option.some.inj listed
    obtain ⟨info, rfl, _⟩ := complete
    have writes : Writes (do
        writeUint32 supplierId
        info.marshalling : ParcelM Unit) (.uint32 supplierId :: info.cells) :=
      (writes_cell _).andThen info.writes_marshalling
    exact ⟨_, rfl, rfl, writes.among, fun ret fits => told_replyCode errFlattenObject _ fits⟩
  | registerNetConnCallback callback =>
    obtain rfl := Option.some.inj listed
    obtain ⟨callback, rfl⟩ := Option.isSome_iff_exists.mp complete
    exact ⟨_, rfl, rfl, writes_done.among.andThen (writes_cell _),
      fun ret _ => told_replyAndReturn _ (fun _ => rfl) ret⟩
  | unregisterNetConnCallback callback =>
    obtain rfl := Option.some.inj listed
    obtain ⟨callback, rfl⟩ := Option.isSome_iff_exists.mp complete
    exact ⟨_, rfl, rfl, writes_done.among.andThen (writes_cell _),
      fun ret _ => told_replyAndReturn _ (fun _ => rfl) ret⟩
  | registerNetConnCallbackBySpecifier netSpecifier callback =>
    obtain rfl := Option.some.inj listed
    obtain ⟨netSpecifier, rfl⟩ := Option.isSome_iff_exists.mp complete.1
    obtain ⟨callback, rfl⟩ := Option.isSome_iff_exists.mp complete.2
    exact ⟨_, rfl, rfl, netSpecifier.writes_marshalling.among.andThen (writes_cell _),
      fun ret _ => told_replyAndReturn _ (fun _ => rfl) ret⟩
  | unregisterNetConnCallbackBySpecifier netSpecifier callback =>
    obtain rfl := Option.some.inj listed
    obtain ⟨netSpecifier, rfl⟩ := Option.isSome_iff_exists.mp complete.1
    obtain ⟨callback, rfl⟩ := Option.isSome_iff_exists.mp complete.2
    exact ⟨_, rfl, rfl, netSpecifier.writes_marshalling.among.andThen (writes_cell _),
      fun ret _ => told_replyAndReturn _ (fun _ => rfl) ret⟩
  | reConnectServiceTask => cases complete

/-- What is passed to a proxy and cannot be sent is a request with a null pointer to a callback or
a specifier, which the proxy and the service refuse alike. -/
theorem complete_or_refused {action : Action} (sendable : Sendable action)
    (request : action.isRequest = true) (service : NetConnService) :
    Complete action ∨ (callOf errFlattenObject errNullObject ipcProxyErr action = none ∧
      service.perform action = (ResultCode.serviceNullPtr.code, service) ∧
      clientCode action ResultCode.serviceNullPtr.code = netConnErrInputNullPtr) := by
  cases action with
  | registerNetConnCallback callback | unregisterNetConnCallback callback =>
    cases callback with
    | none => exact .inr ⟨rfl, rfl, rfl⟩
    | some callback => exact .inl rfl
  | registerNetConnCallbackBySpecifier netSpecifier callback
  | unregisterNetConnCallbackBySpecifier netSpecifier callback =>
    cases netSpecifier with
    | none => exact .inr ⟨rfl, rfl, rfl⟩
    | some netSpecifier =>
      cases callback with
      | none => exact .inr ⟨rfl, rfl, rfl⟩
      | some callback => exact .inl ⟨rfl, rfl⟩
  | registerNetSupplier _ _ _ | unregisterNetSupplier _ | updateNetCapabilities _ _ =>
    exact .inl trivial
  | updateNetSupplierInfo _ _ | updateNetLinkInfo _ _ => exact .inl sendable
  | reConnectServiceTask => cases request

theorem request_eq {action : Action} (request : action.isRequest = true) (remote : Remote)
    (service : NetConnService) :
    NetConnServiceProxy.request errFlattenObject errNullObject ipcProxyErr ifaceCast ipcObjectStub
        remote service action =
      match callOf errFlattenObject errNullObject ipcProxyErr action with
      | none => (netConnErrInputNullPtr, service)
      | some call => call.transact errFlattenObject ifaceCast ipcObjectStub remote service := by
  cases action with
  | reConnectServiceTask => cases request
  | _ => rfl

/-- A request that is not delivered leaves the service as it is. -/
theorem request_undelivered {remote : Remote} (undelivered : remote ≠ .stub) {action : Action}
    (isRequest : action.isRequest = true) (service : NetConnService) :
    (request errFlattenObject errNullObject ipcProxyErr ifaceCast ipcObjectStub remote service
      action).2 = service := by
  rw [request_eq errFlattenObject errNullObject ipcProxyErr ifaceCast ipcObjectStub isRequest]
  cases callOf errFlattenObject errNullObject ipcProxyErr action with
  | none => rfl
  | some call =>
    dsimp only
    unfold Call.transact
    split
    · rfl
    · split
      · rfl
      · cases remote with
        | stub => exact absurd rfl undelivered
        | null => rfl
        | broken error =>
          unfold sendRequest
          dsimp only
          split <;> rfl

/-- What is delivered to the service, of a client whose proxy has this remote object. -/
def delivered : Remote × Action → Option Action
  | (_, .reConnectServiceTask) => some .reConnectServiceTask
  | (.stub, action) => some action
  | _ => none

/-- The service after a request. -/
def serve (service : NetConnService) (event : Remote × Action) : NetConnService :=
  (request errFlattenObject errNullObject ipcProxyErr ifaceCast ipcObjectStub event.1 service
    event.2).2

section Casts

/- A remote object is cast to the callback it is the object of. -/
variable (casts : ∀ object, ifaceCast object = some ⟨object⟩)

include casts

/-- A client whose request is delivered does what it would do by calling the service, and is given
the code that the stub and the proxy make of the code of the service. -/
theorem request_stub {action : Action} (sendable : Sendable action)
    (isRequest : action.isRequest = true) (service : NetConnService) :
    request errFlattenObject errNullObject ipcProxyErr ifaceCast ipcObjectStub .stub service
        action =
      (clientCode action (service.perform action).1, service.step action) := by
  rw [request_eq errFlattenObject errNullObject ipcProxyErr ifaceCast ipcObjectStub isRequest]
  rcases complete_or_refused errFlattenObject errNullObject ipcProxyErr sendable isRequest
    service with complete | ⟨unsent, refused, code⟩
  · obtain ⟨requestFunc, listed, reads⟩ :=
      memberFuncMap_reads errFlattenObject ifaceCast casts complete []
    obtain ⟨call, sent, sameCode, writes, told⟩ :=
      callOf_complete errFlattenObject errNullObject ipcProxyErr ifaceCast complete listed
    rw [sent]
    dsimp only
    rw [transact_stub errFlattenObject ifaceCast ipcObjectStub call writes
      (sameCode.symm ▸ listed) ((List.append_nil (argumentCells action)) ▸ reads),
      told _ (toInt_ofInt_perform service action)]
  · rw [unsent]
    dsimp only
    unfold step
    rw [refused, code]

/-! ### Clients over time -/

theorem serve_eq {event : Remote × Action} (sendable : Sendable event.2)
    (service : NetConnService) :
    serve errFlattenObject errNullObject ipcProxyErr ifaceCast ipcObjectStub service event =
      (delivered event).elim service service.step := by
  obtain ⟨remote, action⟩ := event
  by_cases isRequest : action.isRequest = true
  · by_cases reached : remote = .stub
    · subst reached
      unfold serve
      rw [request_stub errFlattenObject errNullObject ipcProxyErr ifaceCast ipcObjectStub casts
        sendable isRequest]
      cases action <;> rfl
    · unfold serve
      rw [request_undelivered errFlattenObject errNullObject ipcProxyErr ifaceCast ipcObjectStub
        reached isRequest]
      cases remote with
      | stub => exact absurd rfl reached
      | null | broken error =>
        cases action with
        | reConnectServiceTask => cases isRequest
        | _ => rfl
  · cases action with
    | reConnectServiceTask => rfl
    | _ => exact absurd rfl isRequest

/-- Clients send requests through proxies, some of which do not reach the service, and timers fire
in between. The service runs through the requests that are delivered. The next request that is
delivered does what it would do if the client called the service; the client is given a negative
code when the service returns one, and then the service is as it was. -/
theorem requests_run (answers : Nat → Int) {events : List (Remote × Action)}
    (sendable : ∀ event ∈ events, Sendable event.2) {action : Action} (next : Sendable action)
    (isRequest : action.isRequest = true) :
    let served := run (serve errFlattenObject errNullObject ipcProxyErr ifaceCast ipcObjectStub)
      (start answers) events
    let outcome := request errFlattenObject errNullObject ipcProxyErr ifaceCast ipcObjectStub
      .stub served action
    served = run step (start answers) (events.filterMap delivered) ∧
      outcome = (clientCode action (served.perform action).1, served.step action) ∧
      (outcome.1 < 0 ↔ (served.perform action).1 < 0) ∧
      (served.createdSuppliers < 2 ^ 31 - 1003 → outcome.1 < 0 → outcome.2 = served) := by
  intro served outcome
  have same : served = run step (start answers) (events.filterMap delivered) :=
    run_filterMap step _ _ (fun event mem service => serve_eq errFlattenObject errNullObject
      ipcProxyErr ifaceCast ipcObjectStub casts (sendable event mem) service) _
  have reached : outcome = (clientCode action (served.perform action).1, served.step action) :=
    request_stub errFlattenObject errNullObject ipcProxyErr ifaceCast ipcObjectStub casts next
      isRequest served
  have signs : outcome.1 < 0 ↔ (served.perform action).1 < 0 := by
    rw [reached]
    exact clientCode_neg_iff served action
  refine ⟨same, reached, signs, fun few refused => ?_⟩
  have wellFormed : served.registry.WellFormed := same ▸ run_wellFormed answers _
  rw [reached]
  exact perform_refused wellFormed few isRequest (signs.mp refused)

end Casts

/-- A supplier is registered, a second client fails to reach the service, and an update of a
supplier that is not registered is refused. -/
theorem requests_run_example :
    let events : List (Remote × Action) := [(.stub, .registerNetSupplier 2 "eth0" 1),
      (.broken 29189, .unregisterNetSupplier 1003), (.stub, .reConnectServiceTask)]
    let served := run (serve 5 6 7 (fun object => some ⟨object⟩) fun _ _ => ⟨305, []⟩)
      (start fun _ => 1) events
    served.netSupplier.length = 1 ∧
      (request 5 6 7 (fun object => some ⟨object⟩) (fun _ _ => ⟨305, []⟩) .stub served
        (.updateNetSupplierInfo 7 (some {}))).1 = ResultCode.noSupplier.code := by
  intro events served
  have sendable : ∀ event ∈ events, Sendable event.2 := by
    simp only [events, List.forall_mem_cons, List.not_mem_nil, false_implies, implies_true,
      Sendable, and_self]
  have next : Sendable (.updateNetSupplierInfo 7 (some {})) := rfl
  obtain ⟨_, reached, _, _⟩ := requests_run 5 6 7 (fun object => some ⟨object⟩)
    (fun _ _ => ⟨305, []⟩) (fun _ => rfl) (fun _ => 1) sendable next rfl
  refine ⟨by decide, ?_⟩
  exact (congrArg Prod.fst reached).trans (by decide)

end Proxy

end NetManager.NetConnServiceProxy
