/-
This file models the methods of `NetService`: the connection state machine of a
service and its list of client callbacks. Every change of the state is broadcast
and told to the callbacks registered at that moment.
-/

import NetManager.Conn.Network

namespace NetManager.NetService

open Library

/-! ### State updates and notifications -/

/-- `NetService::NetService`. -/
def make (world : World) (ident : String) (networkType : NetworkType)
    (netCapability : NetCapabilities) (network : Ref Network) : Ref NetService × World :=
  (world.serviceHeap.fresh,
    { world with
      serviceHeap := world.serviceHeap.alloc
        { ident := ident
          networkType := networkType
          netCapability := netCapability
          network := network } })

/-- `NetService::NotifyNetConnStateChanged`. -/
def notifyNetConnStateChanged (world : World) (this : Ref NetService)
    (info : NetConnCallbackInfo) : World :=
  world.notify ((world.service this).netConnCallback.map fun callback => ⟨this, callback, info⟩)

/-- The state `NetService::UpdateServiceState` stores. -/
def storedState : ServiceState → ServiceState
  | .unknown => .failure
  | serviceState => serviceState

/-- The broadcast of a state update. -/
def stateBroadcast (networkType : NetworkType) (serviceState : ServiceState) : BroadcastInfo where
  action := "usual.event.netmanager.NETMANAGER_CONNECTION_STATE_CHANGED"
  data := "Net Manager Connection State Changed"
  code := serviceState.code
  ordered := true
  param := [("NetType", toString networkType.code.toNat)]

/-- `NetService::UpdateServiceState`. -/
def updateServiceState (world : World) (this : Ref NetService) (serviceState : ServiceState) :
    World :=
  let object := world.service this
  let recorded := world.recordUpdate
    ⟨this, serviceState, object.networkType, object.netConnCallback⟩
  let stored := recorded.setService this { object with state := storedState serviceState }
  let sent := stored.sendBroadcast (stateBroadcast object.networkType serviceState)
  notifyNetConnStateChanged sent this
    { netState := serviceState.code, netType := object.networkType.code }

/-! ### The connection state machine -/

/-- `NetService::IsConnecting`. -/
def isConnecting (world : World) (this : Ref NetService) : Bool :=
  match (world.service this).state with
  | .unknown | .failure | .idle => (world.network (world.service this).network).isConnecting
  | .connecting => true
  | .ready | .connected | .disconnecting | .disconnected => false

/-- `NetService::IsConnected`. -/
def isConnected (world : World) (this : Ref NetService) : Bool :=
  match (world.service this).state with
  | .ready | .connected => true
  | _ => false

/-- `NetService::NetworkConnect`. -/
def networkConnect (world : World) (this : Ref NetService) : Int × World :=
  let connecting := updateServiceState world this .connecting
  let object := connecting.service this
  let connection := Network.networkConnect connecting object.network object.netCapability
  (if connection.1 then 0 else -1, connection.2)

/-- `NetService::NetworkDisConnect`. -/
def networkDisConnect (world : World) (this : Ref NetService) : Int × World :=
  let object := world.service this
  let disconnection := Network.networkDisconnect world object.network object.netCapability
  (if disconnection.1 then 0 else -1, disconnection.2)

/-- What `NetService::ServiceConnect` does once the service may be connected. -/
def connectCellular (world : World) (this : Ref NetService) : ResultCode × World :=
  let connection := networkConnect (updateServiceState world this .idle) this
  if connection.1 < 0 then
    let failed := updateServiceState connection.2 this .failure
    let released := (networkDisConnect failed this).2
    let disconnected := updateServiceState released this .disconnected
    (.serviceRequestConnectFail, updateServiceState disconnected this .idle)
  else
    (.serviceRequestSuccess, updateServiceState connection.2 this .ready)

/-- `NetService::ServiceConnect`. -/
def serviceConnect (world : World) (this : Ref NetService) : ResultCode × World :=
  if isConnecting world this then
    (.serviceConnecting, world)
  else if isConnected world this then
    (.serviceConnected, world)
  else
    match (world.service this).networkType with
    | .cellular => connectCellular world this
    | _ => (.invalidNetorkType, world)

/-- `NetService::ServiceDisConnect`. -/
def serviceDisConnect (world : World) (this : Ref NetService) : ResultCode × World :=
  match (world.service this).state with
  | .disconnecting => (.serviceDisconnecting, world)
  | .disconnected => (.serviceDisconnectedSuccess, world)
  | _ =>
    let disconnection := networkDisConnect (updateServiceState world this .disconnecting) this
    if disconnection.1 < 0 then
      (.serviceDisconnectedFail, updateServiceState disconnection.2 this .failure)
    else
      let disconnected := updateServiceState disconnection.2 this .disconnected
      (.serviceDisconnectedSuccess, updateServiceState disconnected this .idle)

/-- The part of `NetConnService::ReConnectService` that acts on the default service. -/
def reConnect (world : World) (this : Ref NetService) : ResultCode × World :=
  if isConnected world this || isConnecting world this then
    serviceConnect (serviceDisConnect world this).2 this
  else
    serviceConnect world this

/-! ### Callbacks -/

/-- `NetService::RegisterNetConnCallback`. Callbacks are compared by their remote objects. -/
def registerNetConnCallback (world : World) (this : Ref NetService)
    (callback : INetConnCallback) : World :=
  let object := world.service this
  if object.netConnCallback.any (callback.asObject == ·.asObject) then
    world
  else
    world.setService this
      { object with netConnCallback := object.netConnCallback ++ [callback] }

/-- `NetService::UnregisterNetConnCallback`. -/
def unregisterNetConnCallback (world : World) (this : Ref NetService)
    (callback : INetConnCallback) : ResultCode × World :=
  let object := world.service this
  if object.netConnCallback.any (callback.asObject == ·.asObject) then
    (.none, world.setService this
      { object with
        netConnCallback := object.netConnCallback.eraseP (callback.asObject == ·.asObject) })
  else
    (.noRegistered, world)

end NetManager.NetService
