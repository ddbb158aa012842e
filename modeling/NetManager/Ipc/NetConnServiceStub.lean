/-
This file models the stub of the connection service. Each of its member functions reads a request
from the data of a message, or refuses the message, and reports the code of the service in its
own way.

What the messages are made of is up to whoever sends them. So the stub is read as a decoder
(`heard`): a message is heard as one action of the service, or as none. Whatever messages arrive,
the service runs through the actions that are heard, and every invariant of its runs holds.
-/

import NetManager.Conn.Representation
import NetManager.Ipc.Message
import NetManager.Ipc.RoundTrips
import NetManager.Ipc.SupplierUpdates

namespace NetManager.NetConnServiceStub

open Library Parcel Message NetConnService

/-! ### Codes -/

/-- `NET_CONN_SUCCESS`. -/
def netConnSuccess : Int := 0

/-- `NET_CONN_ERR_GET_REMOTE_OBJECT_FAILED`. -/
def netConnErrGetRemoteObjectFailed : Int := -1

/-- `NET_CONN_ERR_INPUT_NULL_PTR`. -/
def netConnErrInputNullPtr : Int := -2

/-- `NET_CONN_ERR_INVALID_SUPPLIER_ID`. -/
def netConnErrInvalidSupplierId : Int := -3

/-- `NET_CONN_ERR_INVALID_PARAMETER`. -/
def netConnErrInvalidParameter : Int := -4

/-- `NET_CONN_ERR_NET_TYPE_NOT_FOUND`. -/
def netConnErrNetTypeNotFound : Int := -5

/-- `NET_CONN_ERR_NO_ANY_NET_TYPE`. -/
def netConnErrNoAnyNetType : Int := -6

/-- `NET_CONN_ERR_NO_REGISTERED`. -/
def netConnErrNoRegistered : Int := -7

/-- `NET_CONN_ERR_INTERNAL_ERROR`. -/
def netConnErrInternalError : Int := -1000

def cmdSystemReady : UInt32 := 2
def cmdRegisterNetConnCallback : UInt32 := 3
def cmdRegisterNetConnCallbackBySpecifier : UInt32 := 4
def cmdUnregisterNetConnCallback : UInt32 := 5
def cmdUnregisterNetConnCallbackBySpecifier : UInt32 := 6
def cmdRegNetSupplier : UInt32 := 7
def cmdUnregNetwork : UInt32 := 8
def cmdSetNetSupplierInfo : UInt32 := 9
def cmdSetNetCapabiltites : UInt32 := 10
def cmdSetNetLinkInfo : UInt32 := 11

/-- `NetConnServiceStub::ConvertCode`. -/
def convertCode (internalCode : Int) : Int :=
  if internalCode = ResultCode.none.code then netConnSuccess
  else if internalCode = ResultCode.serviceNullPtr.code then netConnErrInputNullPtr
  else if internalCode = ResultCode.netTypeNotFound.code then netConnErrNetTypeNotFound
  else if internalCode = ResultCode.noAnyNetType.code then netConnErrNoAnyNetType
  else if internalCode = ResultCode.noRegistered.code then netConnErrNoRegistered
  else netConnErrInternalError

/-! ### Member functions -/

/-- What a member function answers: a code, and what it has written to the reply. -/
structure Answer where
  code : Int
  reply : List ParcelCell
deriving DecidableEq

/-- A member function of the stub. It reads a request for the service from the data, or answers by
itself, and it makes an answer of the code of the service. -/
structure MemberFunc where
  read : List MessageCell → Except Answer Action
  answer : Int → Answer

/-- What a member function leaves. -/
def MemberFunc.handle (this : MemberFunc) (service : NetConnService) (data : List MessageCell) :
    Answer × NetConnService :=
  match this.read data with
  | .error answer => (answer, service)
  | .ok action => (this.answer (service.perform action).1, (service.perform action).2)

section Stub

/- The codes of the base system, and `iface_cast`, which makes a callback of a remote object. -/
variable (errFlattenObject : Int) (ifaceCast : Nat → Option INetConnCallback)

/-- Write a code to the reply and return `ERR_NONE`. -/
def replyCode (ret : Int) : Answer :=
  match (writeInt32 (Int32.ofInt ret)).run [] with
  | none => ⟨errFlattenObject, []⟩
  | some (_, reply) => ⟨EthernetService.errNone, reply⟩

/-- Write a code to the reply and return it. -/
def replyAndReturn (result : Int) : Answer :=
  ⟨result, (((writeInt32 (Int32.ofInt result)).run []).map Prod.snd).getD []⟩

/-- Read the arguments of a request. Data that ends too early or has other values is refused. -/
def readArguments (arguments : MessageM Action) (data : List MessageCell) :
    Except Answer Action :=
  match arguments.run data with
  | none => .error ⟨errFlattenObject, []⟩
  | some (action, _) => .ok action

/-- Read the callback a request is about, which is made of a remote object. -/
def readCallback (noRemote : Int) (request : INetConnCallback → Action)
    (data : List MessageCell) : Except Answer Action :=
  match readRemoteObject data with
  | none => .error (replyAndReturn noRemote)
  | some remote =>
    match ifaceCast remote with
    | none => .error (replyAndReturn netConnErrInputNullPtr)
    | some callback => .ok (request callback)

/-- `NetSpecifier::Unmarshalling`, with the cells that are left, which are read on even when the
specifier is a null pointer. -/
def unmarshalSpecifier (data : List MessageCell) : Option NetSpecifier × List MessageCell :=
  match (among readString).run data with
  | none => (none, data)
  | some (ident, afterIdent) =>
    match (among readUint32).run afterIdent with
    | none => (none, afterIdent)
    | some (netType, afterType) =>
      match (among readUint64).run afterType with
      | none => (none, afterType)
      | some (netCapabilities, rest) => (some { ident, netType, netCapabilities }, rest)

/-- `NetConnServiceStub::OnSystemReady`. The service does nothing. -/
def onSystemReady : MemberFunc where
  read _ := .error ⟨EthernetService.errNone, []⟩
  answer _ := ⟨EthernetService.errNone, []⟩

/-- `NetConnServiceStub::OnRegisterNetSupplier`. -/
def onRegisterNetSupplier : MemberFunc where
  read := readArguments errFlattenObject do
    let netType ← among readUint32
    let ident ← among readString
    let netCapabilities ← among readUint64
    return .registerNetSupplier netType ident netCapabilities
  answer ret := replyCode errFlattenObject
    (if ret = ResultCode.noNetwork.code ∨ ret = ResultCode.noSupplier.code then
      netConnErrInvalidSupplierId else ret)

/-- `NetConnServiceStub::OnUnregisterNetSupplier`. -/
def onUnregisterNetSupplier : MemberFunc where
  read := readArguments errFlattenObject do
    let supplierId ← among readUint32
    return .unregisterNetSupplier supplierId
  answer := replyCode errFlattenObject

/-- `NetConnServiceStub::OnRegisterNetConnCallback`. -/
def onRegisterNetConnCallback : MemberFunc where
  read := readCallback ifaceCast netConnErrGetRemoteObjectFailed fun callback =>
    .registerNetConnCallback (some callback)
  answer ret := replyAndReturn (convertCode ret)

/-- `NetConnServiceStub::OnRegisterNetConnCallbackBySpecifier`. -/
def onRegisterNetConnCallbackBySpecifier : MemberFunc where
  read data := readCallback ifaceCast errFlattenObject
    (fun callback =>
      .registerNetConnCallbackBySpecifier (unmarshalSpecifier data).1 (some callback))
    (unmarshalSpecifier data).2
  answer ret := replyAndReturn (convertCode ret)

/-- `NetConnServiceStub::OnUnregisterNetConnCallback`. -/
def onUnregisterNetConnCallback : MemberFunc where
  read := readCallback ifaceCast errFlattenObject fun callback =>
    .unregisterNetConnCallback (some callback)
  answer ret := replyAndReturn (convertCode ret)

/-- `NetConnServiceStub::OnUnregisterNetConnCallbackBySpecifier`. -/
def onUnregisterNetConnCallbackBySpecifier : MemberFunc where
  read data := readCallback ifaceCast errFlattenObject
    (fun callback =>
      .unregisterNetConnCallbackBySpecifier (unmarshalSpecifier data).1 (some callback))
    (unmarshalSpecifier data).2
  answer ret := replyAndReturn (convertCode ret)

/-- `NetConnServiceStub::OnUpdateNetSupplierInfo`. What cannot be read is a null pointer, and the
service is asked nevertheless. -/
def onUpdateNetSupplierInfo : MemberFunc where
  read := readArguments errFlattenObject do
    let supplierId ← among readUint32
    let netSupplierInfo ← orNull NetSupplierInfo.unmarshalling
    return .updateNetSupplierInfo supplierId netSupplierInfo
  answer := replyCode errFlattenObject

/-- `NetConnServiceStub::OnUpdateNetCapabilities`. -/
def onUpdateNetCapabilities : MemberFunc where
  read := readArguments errFlattenObject do
    let supplierId ← among readUint32
    let netCapabilities ← among readUint64
    return .updateNetCapabilities supplierId netCapabilities
  answer := replyCode errFlattenObject

/-- `NetConnServiceStub::OnUpdateNetLinkInfo`. -/
def onUpdateNetLinkInfo : MemberFunc where
  read := readArguments errFlattenObject do
    let supplierId ← among readUint32
    let netLinkInfo ← orNull NetLinkInfo.unmarshalling
    return .updateNetLinkInfo supplierId netLinkInfo
  answer := replyCode errFlattenObject

/-- `memberFuncMap_` of `NetConnServiceStub`. -/
def memberFuncMap (code : UInt32) : Option MemberFunc :=
  if code = cmdSystemReady then some onSystemReady
  else if code = cmdRegisterNetConnCallback then some (onRegisterNetConnCallback ifaceCast)
  else if code = cmdRegisterNetConnCallbackBySpecifier then
    some (onRegisterNetConnCallbackBySpecifier errFlattenObject ifaceCast)
  else if code = cmdUnregisterNetConnCallback then
    some (onUnregisterNetConnCallback errFlattenObject ifaceCast)
  else if code = cmdUnregisterNetConnCallbackBySpecifier then
    some (onUnregisterNetConnCallbackBySpecifier errFlattenObject ifaceCast)
  else if code = cmdRegNetSupplier then some (onRegisterNetSupplier errFlattenObject)
  else if code = cmdUnregNetwork then some (onUnregisterNetSupplier errFlattenObject)
  else if code = cmdSetNetSupplierInfo then some (onUpdateNetSupplierInfo errFlattenObject)
  else if code = cmdSetNetCapabiltites then some (onUpdateNetCapabilities errFlattenObject)
  else if code = cmdSetNetLinkInfo then some (onUpdateNetLinkInfo errFlattenObject)
  else none

/- What `IPCObjectStub::OnRemoteRequest` answers to the codes of no member function. -/
variable (ipcObjectStub : UInt32 → List MessageCell → Answer)

/-- `NetConnServiceStub::OnRemoteRequest`. -/
def onRemoteRequest (service : NetConnService) (code : UInt32) (data : List MessageCell) :
    Answer × NetConnService :=
  let (remoteDescripter, rest) := interfaceToken data
  if descriptor ≠ remoteDescripter then (⟨errFlattenObject, []⟩, service)
  else
    match memberFuncMap errFlattenObject ifaceCast code with
    | some requestFunc => requestFunc.handle service rest
    | none => (ipcObjectStub code rest, service)

/-! ### What is heard -/

/-- The action that a message is heard as. -/
def heard (code : UInt32) (data : List MessageCell) : Option Action :=
  let (remoteDescripter, rest) := interfaceToken data
  if descriptor ≠ remoteDescripter then none
  else
    (memberFuncMap errFlattenObject ifaceCast code).bind fun requestFunc =>
      (requestFunc.read rest).toOption

/-- A message that is heard as nothing leaves the service as it is, and any other message does
what it is heard as. -/
theorem onRemoteRequest_snd (service : NetConnService) (code : UInt32)
    (data : List MessageCell) :
    (onRemoteRequest errFlattenObject ifaceCast ipcObjectStub service code data).2 =
      (heard errFlattenObject ifaceCast code data).elim service service.step := by
  unfold onRemoteRequest heard
  dsimp only
  split
  · rfl
  · cases memberFuncMap errFlattenObject ifaceCast code with
    | none => rfl
    | some requestFunc =>
      dsimp only [Option.bind_some]
      unfold MemberFunc.handle
      cases requestFunc.read (interfaceToken data).2 with
      | error answer => rfl
      | ok action => rfl

/-- What can happen to the service while clients send it messages: a message arrives, or a
reconnect timer fires. -/
inductive Event
  | message (code : UInt32) (data : List MessageCell)
  | reConnectServiceTask

/-- The action that an event is. -/
def Event.heard : Event → Option Action
  | .message code data => NetConnServiceStub.heard errFlattenObject ifaceCast code data
  | .reConnectServiceTask => some .reConnectServiceTask

/-- The service after an event. -/
def receive (service : NetConnService) : Event → NetConnService
  | .message code data =>
    (onRemoteRequest errFlattenObject ifaceCast ipcObjectStub service code data).2
  | .reConnectServiceTask => service.step .reConnectServiceTask

/-- Whatever messages arrive, the service runs through what is heard. -/
theorem receive_run (service : NetConnService) (events : List Event) :
    run (receive errFlattenObject ifaceCast ipcObjectStub) service events =
      run step service (events.filterMap (Event.heard errFlattenObject ifaceCast)) := by
  refine run_filterMap step _ _ (fun event _ service => ?_) service
  cases event with
  | message code data => exact onRemoteRequest_snd errFlattenObject ifaceCast ipcObjectStub _ _ _
  | reConnectServiceTask => rfl

/-- Whatever messages arrive at a fresh service, in any number and with any contents, it is as if
the actions that are heard had been performed, and as long as there were net ids for its
suppliers, its lists represent them. -/
theorem messages_run (answers : Nat → Int) (events : List Event)
    (few : (run (receive errFlattenObject ifaceCast ipcObjectStub) (start answers)
      events).createdSuppliers ≤ 64512) :
    run (receive errFlattenObject ifaceCast ipcObjectStub) (start answers) events =
        run step (start answers) (events.filterMap (Event.heard errFlattenObject ifaceCast)) ∧
      (run (receive errFlattenObject ifaceCast ipcObjectStub) (start answers)
        events).RepresentationInvariant := by
  have same := receive_run errFlattenObject ifaceCast ipcObjectStub (start answers) events
  rw [same] at few ⊢
  exact ⟨rfl, .of_wellFormed (run_wellFormed answers _) few⟩

/-- Cells that are no request, a registration, and an update that breaks off behind the id of the
supplier. -/
theorem messages_run_example :
    let events : List Event := [.message cmdRegNetSupplier [.inl (.bool true)],
      .message cmdRegNetSupplier [.inl (.interfaceToken descriptor), .inl (.uint32 2),
        .inl (.string "eth0"), .inl (.uint64 1)],
      .message cmdSetNetLinkInfo [.inl (.interfaceToken descriptor), .inl (.uint32 1003)]]
    run (receive 5 (fun object => some ⟨object⟩) fun _ _ => ⟨305, []⟩) (start fun _ => 1) events =
        run step (start fun _ => 1)
          (events.filterMap (Event.heard 5 fun object => some ⟨object⟩)) ∧
      (run (receive 5 (fun object => some ⟨object⟩) fun _ _ => ⟨305, []⟩) (start fun _ => 1)
        events).RepresentationInvariant := by
  intro events
  exact messages_run 5 (fun object => some ⟨object⟩) (fun _ _ => ⟨305, []⟩) (fun _ => 1) events
    (by decide)

/-! ### What the messages look like -/

/-- The cells a request is read from, behind the name of the interface. -/
def argumentCells : Action → List MessageCell
  | .registerNetSupplier netType ident netCapabilities =>
    [.inl (.uint32 netType), .inl (.string ident), .inl (.uint64 netCapabilities)]
  | .unregisterNetSupplier supplierId => [.inl (.uint32 supplierId)]
  | .updateNetSupplierInfo supplierId netSupplierInfo =>
    .inl (.uint32 supplierId) ::
      (netSupplierInfo.elim [] NetSupplierInfo.cells).map Sum.inl
  | .updateNetCapabilities supplierId netCapabilities =>
    [.inl (.uint32 supplierId), .inl (.uint64 netCapabilities)]
  | .updateNetLinkInfo supplierId netLinkInfo =>
    .inl (.uint32 supplierId) :: (netLinkInfo.elim [] NetLinkInfo.cells).map Sum.inl
  | .registerNetConnCallback callback | .unregisterNetConnCallback callback =>
    callback.elim [] fun callback => [.inr (.remoteObject callback.asObject)]
  | .registerNetConnCallbackBySpecifier netSpecifier callback
  | .unregisterNetConnCallbackBySpecifier netSpecifier callback =>
    (netSpecifier.elim [] NetSpecifier.cells).map Sum.inl ++
      callback.elim [] fun callback => [.inr (.remoteObject callback.asObject)]
  | .reConnectServiceTask => []

/-- The code of the messages a request is sent by. -/
def requestCode : Action → UInt32
  | .registerNetSupplier _ _ _ => cmdRegNetSupplier
  | .unregisterNetSupplier _ => cmdUnregNetwork
  | .updateNetSupplierInfo _ _ => cmdSetNetSupplierInfo
  | .updateNetCapabilities _ _ => cmdSetNetCapabiltites
  | .updateNetLinkInfo _ _ => cmdSetNetLinkInfo
  | .registerNetConnCallback _ => cmdRegisterNetConnCallback
  | .registerNetConnCallbackBySpecifier _ _ => cmdRegisterNetConnCallbackBySpecifier
  | .unregisterNetConnCallback _ => cmdUnregisterNetConnCallback
  | .unregisterNetConnCallbackBySpecifier _ _ => cmdUnregisterNetConnCallbackBySpecifier
  | .reConnectServiceTask => 0

/-- A request that can be written to a message: it has no null pointer, and its lists fit. -/
def Complete : Action → Prop
  | .updateNetSupplierInfo _ netSupplierInfo => netSupplierInfo.isSome
  | .updateNetLinkInfo _ netLinkInfo => ∃ info, netLinkInfo = some info ∧ info.ListsFit
  | .registerNetConnCallback callback | .unregisterNetConnCallback callback => callback.isSome
  | .registerNetConnCallbackBySpecifier netSpecifier callback
  | .unregisterNetConnCallbackBySpecifier netSpecifier callback =>
    netSpecifier.isSome ∧ callback.isSome
  | .reConnectServiceTask => False
  | _ => True

/-- Arguments are read when the reader reads them. -/
theorem readArguments_eq_ok (arguments : MessageM Action) (data : List MessageCell)
    (action : Action) :
    readArguments errFlattenObject arguments data = .ok action ↔
      ∃ rest, arguments.run data = some (action, rest) := by
  unfold readArguments
  cases arguments.run data with
  | none => exact iff_of_false (fun same => by cases same) (fun ⟨_, same⟩ => by cases same)
  | some read =>
    obtain ⟨found, rest⟩ := read
    constructor
    · rintro ⟨⟩
      exact ⟨rest, rfl⟩
    · rintro ⟨_, ⟨⟩⟩
      rfl

section Casts

/- A remote object is cast to the callback it is the object of. -/
variable (casts : ∀ object, ifaceCast object = some ⟨object⟩)

include casts

/-- A callback is read from its remote object, and from nothing else. -/
theorem readCallback_eq_ok (noRemote : Int) (request : INetConnCallback → Action)
    (data : List MessageCell) (action : Action) :
    readCallback ifaceCast noRemote request data = .ok action ↔
      ∃ callback rest, action = request callback ∧
        data = .inr (.remoteObject callback.asObject) :: rest := by
  unfold readCallback readRemoteObject
  split
  · rename_i missing
    refine iff_of_false (fun same => by cases same) ?_
    rintro ⟨callback, rest, _, rfl⟩
    cases missing
  · rename_i object found
    rw [casts]
    split at found
    · rename_i written rest
      cases found
      constructor
      · rintro ⟨⟩
        exact ⟨⟨object⟩, rest, rfl, rfl⟩
      · rintro ⟨callback, _, rfl, ⟨⟩⟩
        rfl
    · cases found

end Casts

/-- A specifier that is no null pointer was read from its cells. -/
theorem unmarshalSpecifier_eq_some (data : List MessageCell) (netSpecifier : NetSpecifier)
    (rest : List MessageCell) :
    unmarshalSpecifier data = (some netSpecifier, rest) ↔
      data = netSpecifier.cells.map Sum.inl ++ rest := by
  constructor
  · intro read
    unfold unmarshalSpecifier at read
    split at read
    · cases read
    · rename_i readIdent
      split at read
      · cases read
      · rename_i readType
        split at read
        · cases read
        · rename_i readCapabilities
          cases read
          obtain ⟨_, rfl⟩ := (exact_readString.among _ _ _).mp readIdent
          obtain ⟨_, rfl⟩ := (exact_readUint32.among _ _ _).mp readType
          obtain ⟨_, rfl⟩ := (exact_readUint64.among _ _ _).mp readCapabilities
          rfl
  · rintro rfl
    unfold unmarshalSpecifier
    rw [show (among readString).run (netSpecifier.cells.map Sum.inl ++ rest) = some
      (netSpecifier.ident, .inl (.uint32 netSpecifier.netType) ::
        .inl (.uint64 netSpecifier.netCapabilities) :: rest) from
      exact_readString.among.reads_cells trivial _]
    dsimp only
    rw [show (among readUint32).run (.inl (.uint32 netSpecifier.netType) ::
        .inl (.uint64 netSpecifier.netCapabilities) :: rest) = some
      (netSpecifier.netType, .inl (.uint64 netSpecifier.netCapabilities) :: rest) from
      exact_readUint32.among.reads_cells trivial _]
    dsimp only
    rw [show (among readUint64).run (.inl (.uint64 netSpecifier.netCapabilities) :: rest) = some
      (netSpecifier.netCapabilities, rest) from exact_readUint64.among.reads_cells trivial _]

/-- Every complete request that a member function reads has the code of the member function, and
was read from its cells. -/
def ReadsOnly (requestFunc : MemberFunc) (code : UInt32) : Prop :=
  ∀ data action, requestFunc.read data = .ok action → Complete action →
    code = requestCode action ∧ ∃ rest, data = argumentCells action ++ rest

theorem onRegisterNetSupplier_readsOnly :
    ReadsOnly (onRegisterNetSupplier errFlattenObject) cmdRegNetSupplier := by
  intro data action read _
  obtain ⟨rest, run⟩ := (readArguments_eq_ok errFlattenObject _ _ _).mp read
  obtain ⟨netType, _, _, rfl, more⟩ := (exact_readUint32.among.run_bind _ _ _ _).mp run
  obtain ⟨ident, _, _, rfl, last⟩ := (exact_readString.among.run_bind _ _ _ _).mp more
  obtain ⟨netCapabilities, _, _, rfl, done⟩ := (exact_readUint64.among.run_bind _ _ _ _).mp last
  cases done
  exact ⟨rfl, rest, rfl⟩

theorem onUnregisterNetSupplier_readsOnly :
    ReadsOnly (onUnregisterNetSupplier errFlattenObject) cmdUnregNetwork := by
  intro data action read _
  obtain ⟨rest, run⟩ := (readArguments_eq_ok errFlattenObject _ _ _).mp read
  obtain ⟨supplierId, _, _, rfl, done⟩ := (exact_readUint32.among.run_bind _ _ _ _).mp run
  cases done
  exact ⟨rfl, rest, rfl⟩

theorem onUpdateNetCapabilities_readsOnly :
    ReadsOnly (onUpdateNetCapabilities errFlattenObject) cmdSetNetCapabiltites := by
  intro data action read _
  obtain ⟨rest, run⟩ := (readArguments_eq_ok errFlattenObject _ _ _).mp read
  obtain ⟨supplierId, _, _, rfl, more⟩ := (exact_readUint32.among.run_bind _ _ _ _).mp run
  obtain ⟨netCapabilities, _, _, rfl, done⟩ := (exact_readUint64.among.run_bind _ _ _ _).mp more
  cases done
  exact ⟨rfl, rest, rfl⟩

theorem onUpdateNetSupplierInfo_readsOnly :
    ReadsOnly (onUpdateNetSupplierInfo errFlattenObject) cmdSetNetSupplierInfo := by
  intro data action read complete
  obtain ⟨rest, run⟩ := (readArguments_eq_ok errFlattenObject _ _ _).mp read
  obtain ⟨supplierId, _, _, rfl, more⟩ := (exact_readUint32.among.run_bind _ _ _ _).mp run
  obtain ⟨netSupplierInfo, remaining, readInfo, done⟩ := (run_bind_eq_some _ _ _ _ _).mp more
  cases done
  obtain ⟨info, rfl⟩ := Option.isSome_iff_exists.mp complete
  rw [orNull_some NetSupplierInfo.exact_unmarshalling readInfo]
  exact ⟨rfl, rest, rfl⟩

theorem onUpdateNetLinkInfo_readsOnly :
    ReadsOnly (onUpdateNetLinkInfo errFlattenObject) cmdSetNetLinkInfo := by
  intro data action read complete
  obtain ⟨rest, run⟩ := (readArguments_eq_ok errFlattenObject _ _ _).mp read
  obtain ⟨supplierId, _, _, rfl, more⟩ := (exact_readUint32.among.run_bind _ _ _ _).mp run
  obtain ⟨netLinkInfo, remaining, readInfo, done⟩ := (run_bind_eq_some _ _ _ _ _).mp more
  cases done
  obtain ⟨info, rfl, _⟩ := complete
  rw [orNull_some NetLinkInfo.exact_unmarshalling readInfo]
  exact ⟨rfl, rest, rfl⟩

section Casts

variable (casts : ∀ object, ifaceCast object = some ⟨object⟩)

include casts

theorem onRegisterNetConnCallback_readsOnly :
    ReadsOnly (onRegisterNetConnCallback ifaceCast) cmdRegisterNetConnCallback := by
  intro data action read _
  obtain ⟨callback, rest, rfl, rfl⟩ := (readCallback_eq_ok ifaceCast casts _ _ _ _).mp read
  exact ⟨rfl, rest, rfl⟩

theorem onUnregisterNetConnCallback_readsOnly :
    ReadsOnly (onUnregisterNetConnCallback errFlattenObject ifaceCast)
      cmdUnregisterNetConnCallback := by
  intro data action read _
  obtain ⟨callback, rest, rfl, rfl⟩ := (readCallback_eq_ok ifaceCast casts _ _ _ _).mp read
  exact ⟨rfl, rest, rfl⟩

theorem onRegisterNetConnCallbackBySpecifier_readsOnly :
    ReadsOnly (onRegisterNetConnCallbackBySpecifier errFlattenObject ifaceCast)
      cmdRegisterNetConnCallbackBySpecifier := by
  intro data action read complete
  obtain ⟨callback, rest, rfl, left⟩ := (readCallback_eq_ok ifaceCast casts _ _ _ _).mp read
  obtain ⟨netSpecifier, found⟩ := Option.isSome_iff_exists.mp complete.1
  have cells := (unmarshalSpecifier_eq_some data netSpecifier _).mp (Prod.ext found left)
  rw [found]
  exact ⟨rfl, rest, cells.trans (List.append_assoc _ [_] _).symm⟩

theorem onUnregisterNetConnCallbackBySpecifier_readsOnly :
    ReadsOnly (onUnregisterNetConnCallbackBySpecifier errFlattenObject ifaceCast)
      cmdUnregisterNetConnCallbackBySpecifier := by
  intro data action read complete
  obtain ⟨callback, rest, rfl, left⟩ := (readCallback_eq_ok ifaceCast casts _ _ _ _).mp read
  obtain ⟨netSpecifier, found⟩ := Option.isSome_iff_exists.mp complete.1
  have cells := (unmarshalSpecifier_eq_some data netSpecifier _).mp (Prod.ext found left)
  rw [found]
  exact ⟨rfl, rest, cells.trans (List.append_assoc _ [_] _).symm⟩

/-- Every member function reads only requests of the code it is listed under. -/
theorem memberFuncMap_readsOnly {code : UInt32} {requestFunc : MemberFunc}
    (listed : memberFuncMap errFlattenObject ifaceCast code = some requestFunc) :
    ReadsOnly requestFunc code := by
  unfold memberFuncMap at listed
  split at listed
  · cases listed
    intro data action read
    cases read
  split at listed
  · rename_i same
    cases listed
    exact same ▸ onRegisterNetConnCallback_readsOnly ifaceCast casts
  split at listed
  · rename_i same
    cases listed
    exact same ▸ onRegisterNetConnCallbackBySpecifier_readsOnly errFlattenObject ifaceCast casts
  split at listed
  · rename_i same
    cases listed
    exact same ▸ onUnregisterNetConnCallback_readsOnly errFlattenObject ifaceCast casts
  split at listed
  · rename_i same
    cases listed
    exact same ▸ onUnregisterNetConnCallbackBySpecifier_readsOnly errFlattenObject ifaceCast casts
  split at listed
  · rename_i same
    cases listed
    exact same ▸ onRegisterNetSupplier_readsOnly errFlattenObject
  split at listed
  · rename_i same
    cases listed
    exact same ▸ onUnregisterNetSupplier_readsOnly errFlattenObject
  split at listed
  · rename_i same
    cases listed
    exact same ▸ onUpdateNetSupplierInfo_readsOnly errFlattenObject
  split at listed
  · rename_i same
    cases listed
    exact same ▸ onUpdateNetCapabilities_readsOnly errFlattenObject
  split at listed
  · rename_i same
    cases listed
    exact same ▸ onUpdateNetLinkInfo_readsOnly errFlattenObject
  · cases listed

/-- Every complete request is read from its cells, by the member function listed under its code. -/
theorem memberFuncMap_reads {action : Action} (complete : Complete action)
    (rest : List MessageCell) :
    ∃ requestFunc, memberFuncMap errFlattenObject ifaceCast (requestCode action) =
        some requestFunc ∧ requestFunc.read (argumentCells action ++ rest) = .ok action := by
  cases action with
  | registerNetSupplier netType ident netCapabilities => exact ⟨_, rfl, rfl⟩
  | unregisterNetSupplier supplierId => exact ⟨_, rfl, rfl⟩
  | updateNetCapabilities supplierId netCapabilities => exact ⟨_, rfl, rfl⟩
  | updateNetSupplierInfo supplierId netSupplierInfo =>
    obtain ⟨info, rfl⟩ := Option.isSome_iff_exists.mp complete
    refine ⟨_, rfl, ?_⟩
    unfold onUpdateNetSupplierInfo
    dsimp only
    refine (readArguments_eq_ok errFlattenObject _ _ _).mpr ⟨rest, ?_⟩
    refine (exact_readUint32.among.run_bind _ _ _ _).mpr ⟨supplierId, _, trivial, rfl, ?_⟩
    refine (run_bind_eq_some _ _ _ _ _).mpr ⟨some info, rest, ?_, rfl⟩
    exact run_orNull NetSupplierInfo.exact_unmarshalling trivial rest
  | updateNetLinkInfo supplierId netLinkInfo =>
    obtain ⟨info, rfl, fit⟩ := complete
    refine ⟨_, rfl, ?_⟩
    unfold onUpdateNetLinkInfo
    dsimp only
    refine (readArguments_eq_ok errFlattenObject _ _ _).mpr ⟨rest, ?_⟩
    refine (exact_readUint32.among.run_bind _ _ _ _).mpr ⟨supplierId, _, trivial, rfl, ?_⟩
    refine (run_bind_eq_some _ _ _ _ _).mpr ⟨some info, rest, ?_, rfl⟩
    exact run_orNull NetLinkInfo.exact_unmarshalling fit rest
  | registerNetConnCallback callback =>
    obtain ⟨callback, rfl⟩ := Option.isSome_iff_exists.mp complete
    refine ⟨_, rfl, ?_⟩
    exact (readCallback_eq_ok ifaceCast casts netConnErrGetRemoteObjectFailed _ _ _).mpr
      ⟨callback, rest, rfl, rfl⟩
  | unregisterNetConnCallback callback =>
    obtain ⟨callback, rfl⟩ := Option.isSome_iff_exists.mp complete
    refine ⟨_, rfl, ?_⟩
    exact (readCallback_eq_ok ifaceCast casts errFlattenObject _ _ _).mpr
      ⟨callback, rest, rfl, rfl⟩
  | registerNetConnCallbackBySpecifier netSpecifier callback =>
    obtain ⟨netSpecifier, rfl⟩ := Option.isSome_iff_exists.mp complete.1
    obtain ⟨callback, rfl⟩ := Option.isSome_iff_exists.mp complete.2
    have found := (unmarshalSpecifier_eq_some _ netSpecifier
      (.inr (.remoteObject callback.asObject) :: rest)).mpr rfl
    refine ⟨_, rfl, ?_⟩
    unfold onRegisterNetConnCallbackBySpecifier
    dsimp only
    refine (readCallback_eq_ok ifaceCast casts _ _ _ _).mpr ⟨callback, rest, ?_, ?_⟩
    · exact congrArg (fun read : Option NetSpecifier × List MessageCell =>
        Action.registerNetConnCallbackBySpecifier read.1 (some callback)) found.symm
    · exact congrArg Prod.snd found
  | unregisterNetConnCallbackBySpecifier netSpecifier callback =>
    obtain ⟨netSpecifier, rfl⟩ := Option.isSome_iff_exists.mp complete.1
    obtain ⟨callback, rfl⟩ := Option.isSome_iff_exists.mp complete.2
    have found := (unmarshalSpecifier_eq_some _ netSpecifier
      (.inr (.remoteObject callback.asObject) :: rest)).mpr rfl
    refine ⟨_, rfl, ?_⟩
    unfold onUnregisterNetConnCallbackBySpecifier
    dsimp only
    refine (readCallback_eq_ok ifaceCast casts _ _ _ _).mpr ⟨callback, rest, ?_, ?_⟩
    · exact congrArg (fun read : Option NetSpecifier × List MessageCell =>
        Action.unregisterNetConnCallbackBySpecifier read.1 (some callback)) found.symm
    · exact congrArg Prod.snd found
  | reConnectServiceTask => cases complete

/-- A message is heard as a complete request exactly when it has the code of the request and
starts with the name of the interface and the cells of the request. -/
theorem heard_eq_some_iff {action : Action} (complete : Complete action) (code : UInt32)
    (data : List MessageCell) :
    heard errFlattenObject ifaceCast code data = some action ↔
      code = requestCode action ∧
        ∃ rest, data = .inl (.interfaceToken descriptor) :: argumentCells action ++ rest := by
  constructor
  · intro hears
    unfold heard at hears
    dsimp only at hears
    split at hears
    · cases hears
    · rename_i named
      have nonempty : descriptor ≠ "" := by decide
      have token := interfaceToken_eq nonempty
        (Prod.ext (not_not.mp named).symm rfl : interfaceToken data = (descriptor, _))
      obtain ⟨requestFunc, listed, readOk⟩ := Option.bind_eq_some_iff.mp hears
      cases read : requestFunc.read (interfaceToken data).2 with
      | error answer =>
        rw [read] at readOk
        cases readOk
      | ok found =>
        rw [read] at readOk
        cases readOk
        obtain ⟨same, rest, cells⟩ :=
          memberFuncMap_readsOnly errFlattenObject ifaceCast casts listed _ _ read complete
        exact ⟨same, rest, token.trans (congrArg (Sum.inl (.interfaceToken descriptor) :: ·) cells)⟩
  · rintro ⟨rfl, rest, rfl⟩
    obtain ⟨requestFunc, listed, read⟩ :=
      memberFuncMap_reads errFlattenObject ifaceCast casts complete rest
    unfold heard
    rw [List.cons_append, interfaceToken_cons]
    dsimp only
    rw [if_neg (not_not_intro rfl), listed, Option.bind_some, read]
    rfl

end Casts

/-- An unregistration is heard behind which something follows. -/
theorem heard_eq_some_example :
    heard 5 (fun object => some ⟨object⟩) 8
      [.inl (.interfaceToken descriptor), .inl (.uint32 1003), .inl (.bool true)] =
        some (.unregisterNetSupplier 1003) := by
  have complete : Complete (.unregisterNetSupplier 1003) := trivial
  refine (heard_eq_some_iff 5 (fun object => some ⟨object⟩) (fun _ => rfl) complete _ _).mpr ?_
  exact ⟨rfl, [.inl (.bool true)], rfl⟩

end Stub

end NetManager.NetConnServiceStub
