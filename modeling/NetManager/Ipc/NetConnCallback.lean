/-
This file models how a callback is called in the process of its client. The connection service has
a proxy of it, which sends a message, and the stub calls the client with what it reads. A message
that cannot be read makes the stub call the client with a null pointer.

The service reads no answer, and no one else is asked. So what a client is called with are the
messages of others, and the state updates made while a service had its callback: each once and in
order, as far as they were delivered. The service itself never sends a null pointer.
-/

import NetManager.Conn.Notifications
import NetManager.Ipc.EthernetService
import NetManager.Ipc.Message
import NetManager.Ipc.RoundTrips

namespace NetManager

open Library Parcel Message

/-! ### The stub -/

namespace NetConnCallbackStub

/-- The name of the interface. -/
def descriptor : String := "OHOS.NetManagerStandard.INetConnCallback"

def netConnStateChanged : UInt32 := 0

/-- What the stub returns, what it has written to the reply, and what it has called the client
with. A null pointer is `none`. -/
structure Answer where
  code : Int
  reply : List MessageCell
  called : List (Option NetConnCallbackInfo)

/-- `NetConnCallbackInfo::Unmarshalling`, or a null pointer. -/
def readInfo (data : List MessageCell) : Option NetConnCallbackInfo :=
  ((among NetConnCallbackInfo.unmarshalling).run data).map Prod.fst

section Stub

/- What the client does when it is called, a code of the base system, and
`IPCObjectStub::OnRemoteRequest`. -/
variable (client : Option NetConnCallbackInfo → Int32) (errFlattenObject : Int)
  (ipcObjectStub : UInt32 → List MessageCell → Int × List MessageCell)

/-- `NetConnCallbackStub::OnNetConnStateChanged`. -/
def onNetConnStateChanged (data : List MessageCell) : Answer :=
  let info := readInfo data
  let result := client info
  match (plain (writeInt32 result)).run [] with
  | none => ⟨result.toInt, [], [info]⟩
  | some (_, reply) => ⟨EthernetService.errNone, reply, [info]⟩

/-- `memberFuncMap_` of `NetConnCallbackStub`. -/
def memberFuncMap (code : UInt32) : Option (List MessageCell → Answer) :=
  if code = netConnStateChanged then some (onNetConnStateChanged client) else none

/-- `NetConnCallbackStub::OnRemoteRequest`. -/
def onRemoteRequest (code : UInt32) (data : List MessageCell) : Answer :=
  let (remoteDescripter, rest) := interfaceToken data
  if descriptor ≠ remoteDescripter then ⟨errFlattenObject, [], []⟩
  else
    match memberFuncMap client code with
    | some requestFunc => requestFunc rest
    | none => ⟨(ipcObjectStub code rest).1, (ipcObjectStub code rest).2, []⟩

end Stub

/-- What a message makes the stub call the client with. -/
def heard (code : UInt32) (data : List MessageCell) : List (Option NetConnCallbackInfo) :=
  if (interfaceToken data).1 = descriptor ∧ code = netConnStateChanged then
    [readInfo (interfaceToken data).2]
  else []

theorem called_onRemoteRequest (client : Option NetConnCallbackInfo → Int32)
    (errFlattenObject : Int) (ipcObjectStub : UInt32 → List MessageCell → Int × List MessageCell)
    (code : UInt32) (data : List MessageCell) :
    (onRemoteRequest client errFlattenObject ipcObjectStub code data).called = heard code data := by
  unfold onRemoteRequest heard
  dsimp only
  by_cases named : descriptor ≠ (interfaceToken data).1
  · rw [if_pos named, if_neg fun both => named both.1.symm]
  · rw [if_neg named]
    unfold memberFuncMap
    by_cases listed : code = netConnStateChanged
    · rw [if_pos listed, if_pos ⟨(not_not.mp named).symm, listed⟩]
      rfl
    · rw [if_neg listed, if_neg fun both => listed both.2]

end NetConnCallbackStub

/-! ### The proxy -/

namespace NetConnCallbackProxy

open NetConnCallbackStub

/-- `NetConnCallbackProxy::NetConnStateChanged`, with what the client is called with. -/
def netConnStateChanged (client : Option NetConnCallbackInfo → Int32)
    (errFlattenObject errNullObject : Int)
    (ipcObjectStub : UInt32 → List MessageCell → Int × List MessageCell) (remote : Remote)
    (info : NetConnCallbackInfo) : Int × List (Option NetConnCallbackInfo) :=
  match (do plain (writeInterfaceToken descriptor); plain info.marshalling : MessageM Unit).run []
  with
  | none => (errFlattenObject, [])
  | some (_, data) =>
    match remote with
    | .null => (errNullObject, [])
    | .broken error => (error, [])
    | .stub =>
      let answered := onRemoteRequest client errFlattenObject ipcObjectStub
        NetConnCallbackStub.netConnStateChanged data
      (answered.code, answered.called)

/-- A notification that is delivered calls the client with what it says, and any other calls no
one. -/
theorem called_netConnStateChanged (client : Option NetConnCallbackInfo → Int32)
    (errFlattenObject errNullObject : Int)
    (ipcObjectStub : UInt32 → List MessageCell → Int × List MessageCell) (remote : Remote)
    {info : NetConnCallbackInfo} (inInt32 : info.InInt32) :
    (netConnStateChanged client errFlattenObject errNullObject ipcObjectStub remote info).2 =
      if remote = .stub then [some info] else [] := by
  have token : Writes (plain (writeInterfaceToken descriptor))
      [.inl (.interfaceToken descriptor)] := (writes_cell _).among
  have both : Writes
      (do plain (writeInterfaceToken descriptor); plain info.marshalling : MessageM Unit)
      ([.inl (.interfaceToken descriptor)] ++ info.cells.map Sum.inl) :=
    token.andThen info.writes_marshalling.among
  unfold netConnStateChanged
  rw [both []]
  dsimp only
  cases remote with
  | null => rfl
  | broken error => rfl
  | stub =>
    have read : readInfo (info.cells.map Sum.inl) = some info := by
      unfold readInfo
      rw [NetConnCallbackInfo.exact_unmarshalling.among.reads_whole inInt32]
      rfl
    dsimp only
    rw [if_pos rfl, called_onRemoteRequest]
    unfold heard
    rw [List.nil_append, List.singleton_append, interfaceToken_cons, if_pos ⟨rfl, rfl⟩]
    exact congrArg (fun info => [info]) read

end NetConnCallbackProxy

end NetManager
