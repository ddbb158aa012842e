/-
This file models `NetConnService`: its three lists, the default service, the
reconnect timer, every public request and the lookups and deletions the requests
are made of. The service runs as a state machine whose actions are the requests
and the firings of pending reconnect timers.
-/

import NetManager.Library.Run
import NetManager.Conn.NetService

namespace NetManager

open Library

/-- The members of `NetConnService`, on the world its objects live in. `reConnectTimer` counts
the tasks `StartOnce` started that have not run yet. -/
structure NetConnService where
  world : World
  defaultNetService : Option (Ref NetService) := none
  netServices : List (Ref NetService) := []
  networks : List (Ref Network) := []
  netSupplier : List (Ref NetSupplier) := []
  reConnectTimer : Nat := 0

namespace NetConnService

/-- The service as the process starts, facing a controller that will answer `answers`. -/
def start (answers : Nat → Int) : NetConnService where
  world := { answers := answers }

/-! ### Lookups -/

/-- `NetConnService::GetNetSupplierFromList`. -/
def getNetSupplierFromList (state : NetConnService) (netType : UInt32) (ident : String) :
    Option (Ref NetSupplier) :=
  state.netSupplier.find? fun supplier =>
    netType == (state.world.supplier supplier).netSupplierType.code &&
      ident == (state.world.supplier supplier).netSupplierIdent

/-- `NetConnService::GetNetSupplierFromListById`. -/
def getNetSupplierFromListById (state : NetConnService) (supplierId : UInt32) :
    Option (Ref NetSupplier) :=
  state.netSupplier.find? fun supplier =>
    supplierId == (state.world.supplier supplier).supplierId

/-- The id of the supplier of a network. -/
def networkSupplierId (state : NetConnService) (network : Ref Network) : UInt32 :=
  (state.world.supplier (state.world.network network).supplier).supplierId

/-- `NetConnService::GetNetworkFromListBySupplierId`. -/
def getNetworkFromListBySupplierId (state : NetConnService) (supplierId : UInt32) :
    Option (Ref Network) :=
  state.networks.find? fun network => state.networkSupplierId network == supplierId

/-- The test of `IsServiceInList` and `DeleteServiceFromListByCap`. -/
def isServiceOf (state : NetConnService) (netId : Int) (netCapability : NetCapabilities)
    (service : Ref NetService) : Bool :=
  (state.world.network (state.world.service service).network).netId == netId &&
    netCapability == (state.world.service service).netCapability

/-- `NetConnService::IsServiceInList`. -/
def isServiceInList (state : NetConnService) (netId : Int) (netCapability : NetCapabilities) :
    Bool :=
  state.netServices.any (state.isServiceOf netId netCapability)

/-! ### Deletions -/

/-- `NetConnService::DeleteSupplierFromListById`. -/
def deleteSupplierFromListById (state : NetConnService) (supplierId : UInt32) :
    NetConnService :=
  { state with netSupplier := state.netSupplier.eraseP fun supplier =>
      supplierId == (state.world.supplier supplier).supplierId }

/-- `NetConnService::DeleteNetworkFromListBySupplierId`. -/
def deleteNetworkFromListBySupplierId (state : NetConnService) (supplierId : UInt32) :
    NetConnService :=
  { state with networks := state.networks.eraseP fun network =>
      state.networkSupplierId network == supplierId }

/-- `NetConnService::DeleteServiceFromListByNet`. -/
def deleteServiceFromListByNet (state : NetConnService) (network : Ref Network) :
    NetConnService :=
  { state with netServices := state.netServices.filter fun service =>
      !Network.equals state.world (state.world.service service).network network }

/-- `NetConnService::DeleteServiceFromListByCap`. -/
def deleteServiceFromListByCap (state : NetConnService) (netId : Int)
    (netCapability : NetCapabilities) : NetConnService :=
  { state with netServices := state.netServices.eraseP (state.isServiceOf netId netCapability) }

/-! ### Reference counts -/

/-- Some owner still holds the network: the network list, a service of the service list, or
the default service. -/
def holdsNetwork (state : NetConnService) (network : Ref Network) : Bool :=
  network ∈ state.networks ||
    state.netServices.any (fun service => (state.world.service service).network == network) ||
    state.defaultNetService.any fun service => (state.world.service service).network == network

/-- Drop a reference to a network: the destructor runs when it was the last one. -/
def dropNetwork (state : NetConnService) (network : Ref Network) : NetConnService :=
  if state.holdsNetwork network then state
  else { state with world := Network.destroy state.world network }

/-- `defaultNetService_ = service`, which drops the reference to the service it replaces. -/
def assignDefaultNetService (state : NetConnService) (service : Ref NetService) :
    NetConnService :=
  let assigned := { state with defaultNetService := some service }
  match state.defaultNetService with
  | none => assigned
  | some replaced => assigned.dropNetwork (state.world.service replaced).network

/-! ### Registration of suppliers -/

/-- Create a service and append it to `netServices_`. -/
def addService (state : NetConnService) (ident : String) (type : NetworkType)
    (netCapability : NetCapabilities) (network : Ref Network) : NetConnService :=
  let made := NetService.make state.world ident type netCapability network
  { state with world := made.2, netServices := state.netServices ++ [made.1] }

/-- The INTERNET branch of `RegisterNetSupplier`: the new service becomes the default one. -/
def addDefaultService (state : NetConnService) (ident : String) (type : NetworkType)
    (network : Ref Network) : NetConnService :=
  (state.addService ident type .internet network).assignDefaultNetService
    state.world.serviceHeap.fresh

/-- The part of `RegisterNetSupplier` that creates the services the capability mask asks for. -/
def createServices (state : NetConnService) (ident : String) (type : NetworkType)
    (netCapabilities : UInt64) (network : Ref Network) : NetConnService :=
  let internet :=
    if NetCapabilities.internet.isIn netCapabilities then
      state.addDefaultService ident type network
    else state
  if NetCapabilities.mms.isIn netCapabilities then
    internet.addService ident type .mms network
  else internet

/-- The part of `RegisterNetSupplier` that creates the supplier, its network and its services
and saves them in the lists. -/
def createSupplier (state : NetConnService) (type : NetworkType) (ident : String)
    (netCapabilities : UInt64) : NetConnService :=
  let supplier := NetSupplier.make state.world type ident
  let network := Network.make supplier.2 supplier.1
  let created :=
    { state with world := network.2 }.createServices ident type netCapabilities network.1
  { created with
    netSupplier := created.netSupplier ++ [supplier.1]
    networks := created.networks ++ [network.1] }

/-- The last part of `RegisterNetSupplier`: connect the default service, and start the
reconnect timer when that fails. -/
def connectDefaultService (state : NetConnService) : NetConnService :=
  match state.defaultNetService with
  | none => state
  | some service =>
    let connection := NetService.serviceConnect state.world service
    let connected := { state with world := connection.2 }
    if connection.1 = .serviceRequestSuccess then connected
    else { connected with reConnectTimer := connected.reConnectTimer + 1 }

/-- `NetConnService::RegisterNetSupplier`. -/
def registerNetSupplier (state : NetConnService) (netType : UInt32) (ident : String)
    (netCapabilities : UInt64) : Int × NetConnService :=
  if netType ≥ NetworkType.max.code ∨ netType ≤ NetworkType.unknown.code then
    (ResultCode.invalidNetorkType.code, state)
  else
    match state.getNetSupplierFromList netType ident with
    | some supplier => (asInt32 (state.world.supplier supplier).supplierId, state)
    | none =>
      let supplier := state.world.supplierHeap.fresh
      let registered :=
        (state.createSupplier (NetworkType.ofCode netType) ident
          netCapabilities).connectDefaultService
      (asInt32 (registered.world.supplier supplier).supplierId, registered)

/-- `NetConnService::ReConnectService`. -/
def reConnectService (state : NetConnService) : ResultCode × NetConnService :=
  match state.defaultNetService with
  | none => (.serviceNullPtr, state)
  | some service =>
    let connection := NetService.reConnect state.world service
    (connection.1, { state with world := connection.2 })

/-- `NetConnService::UnregisterNetSupplier`. The local reference to the network is the last one
to go. -/
def unregisterNetSupplier (state : NetConnService) (supplierId : UInt32) :
    ResultCode × NetConnService :=
  match state.getNetSupplierFromListById supplierId with
  | none => (.noSupplier, state)
  | some _ =>
    match state.getNetworkFromListBySupplierId supplierId with
    | none => (.noNetwork, state.deleteSupplierFromListById supplierId)
    | some network =>
      let deleted := ((state.deleteServiceFromListByNet
        network).deleteNetworkFromListBySupplierId supplierId).deleteSupplierFromListById
          supplierId
      (.none, deleted.dropNetwork network)

/-! ### Updates of suppliers -/

/-- The lookup the three updates share: the supplier by its id, then its network. -/
def getSupplierAndNetwork (state : NetConnService) (supplierId : UInt32) :
    Except ResultCode (Ref NetSupplier × Ref Network) :=
  match state.getNetSupplierFromListById supplierId with
  | none => .error .noSupplier
  | some supplier =>
    match state.getNetworkFromListBySupplierId (state.world.supplier supplier).supplierId with
    | none => .error .noNetwork
    | some network => .ok (supplier, network)

/-- `NetConnService::UpdateNetSupplierInfo`. -/
def updateNetSupplierInfo (state : NetConnService) (supplierId : UInt32)
    (netSupplierInfo : Option NetSupplierInfo) : ResultCode × NetConnService :=
  match netSupplierInfo with
  | none => (.invalidParams, state)
  | some netSupplierInfo =>
    match state.getSupplierAndNetwork supplierId with
    | .error code => (code, state)
    | .ok (_, network) =>
      (.none, { state with
        world := Network.updateNetSupplierInfo state.world network netSupplierInfo })

/-- `NetConnService::UpdateNetLinkInfo`. -/
def updateNetLinkInfo (state : NetConnService) (supplierId : UInt32)
    (netLinkInfo : Option NetLinkInfo) : ResultCode × NetConnService :=
  match netLinkInfo with
  | none => (.invalidParams, state)
  | some netLinkInfo =>
    match state.getSupplierAndNetwork supplierId with
    | .error code => (code, state)
    | .ok (_, network) =>
      (.none, { state with world := Network.updateNetLinkInfo state.world network netLinkInfo })

/-- One of the two branches of `UpdateNetCapabilities`: have the service exactly when the mask
asks for it. -/
def updateCapability (state : NetConnService) (ident : String) (type : NetworkType)
    (network : Ref Network) (netCapability : NetCapabilities) (netCapabilities : UInt64) :
    NetConnService :=
  let netId := (state.world.network network).netId
  if netCapability.isIn netCapabilities then
    if state.isServiceInList netId netCapability then state
    else state.addService ident type netCapability network
  else
    if state.isServiceInList netId netCapability then
      state.deleteServiceFromListByCap netId netCapability
    else state

/-- `NetConnService::UpdateNetCapabilities`. -/
def updateNetCapabilities (state : NetConnService) (supplierId : UInt32)
    (netCapabilities : UInt64) : ResultCode × NetConnService :=
  match state.getSupplierAndNetwork supplierId with
  | .error code => (code, state)
  | .ok (supplier, network) =>
    let type := (state.world.supplier supplier).netSupplierType
    let ident := (state.world.supplier supplier).netSupplierIdent
    let internet := state.updateCapability ident type network .internet netCapabilities
    (.none, internet.updateCapability ident type network .mms netCapabilities)

/-! ### Callbacks -/

/-- The service a specifier selects: the first of its type whose capability it contains. -/
def findService (state : NetConnService) (netSpecifier : NetSpecifier) :
    Option (Ref NetService) :=
  state.netServices.find? fun service =>
    let object := state.world.service service
    object.networkType.code == netSpecifier.netType &&
      object.netCapability.code &&& netSpecifier.netCapabilities == object.netCapability.code

/-- `NetConnService::RegisterNetConnCallback(callback)`. -/
def registerNetConnCallback (state : NetConnService) (callback : Option INetConnCallback) :
    ResultCode × NetConnService :=
  match callback with
  | none => (.serviceNullPtr, state)
  | some callback =>
    if state.netServices.isEmpty then (.noAnyNetType, state)
    else
      (.none, { state with
        world := state.netServices.foldl
          (fun world service => NetService.registerNetConnCallback world service callback)
          state.world })

/-- `NetConnService::RegisterNetConnCallback(netSpecifier, callback)`. -/
def registerNetConnCallbackBySpecifier (state : NetConnService)
    (netSpecifier : Option NetSpecifier) (callback : Option INetConnCallback) :
    ResultCode × NetConnService :=
  match netSpecifier, callback with
  | some netSpecifier, some callback =>
    if state.netServices.isEmpty then (.noAnyNetType, state)
    else
      match state.findService netSpecifier with
      | none => (.netTypeNotFound, state)
      | some service =>
        (.none, { state with
          world := NetService.registerNetConnCallback state.world service callback })
  | _, _ => (.serviceNullPtr, state)

/-- `NetConnService::UnregisterNetConnCallback(callback)`. -/
def unregisterNetConnCallback (state : NetConnService) (callback : Option INetConnCallback) :
    ResultCode × NetConnService :=
  match callback with
  | none => (.serviceNullPtr, state)
  | some callback =>
    if state.netServices.isEmpty then (.noAnyNetType, state)
    else
      (.none, { state with
        world := state.netServices.foldl
          (fun world service => (NetService.unregisterNetConnCallback world service callback).2)
          state.world })

/-- `NetConnService::UnregisterNetConnCallback(netSpecifier, callback)`. -/
def unregisterNetConnCallbackBySpecifier (state : NetConnService)
    (netSpecifier : Option NetSpecifier) (callback : Option INetConnCallback) :
    ResultCode × NetConnService :=
  match netSpecifier, callback with
  | some netSpecifier, some callback =>
    if state.netServices.isEmpty then (.noAnyNetType, state)
    else
      match state.findService netSpecifier with
      | none => (.netTypeNotFound, state)
      | some service =>
        let unregistration := NetService.unregisterNetConnCallback state.world service callback
        (unregistration.1, { state with world := unregistration.2 })
  | _, _ => (.serviceNullPtr, state)

/-! ### The state machine -/

/-- What can happen to the service: a client request, or the firing of a reconnect timer. -/
inductive Action
  | registerNetSupplier (netType : UInt32) (ident : String) (netCapabilities : UInt64)
  | unregisterNetSupplier (supplierId : UInt32)
  | updateNetSupplierInfo (supplierId : UInt32) (netSupplierInfo : Option NetSupplierInfo)
  | updateNetCapabilities (supplierId : UInt32) (netCapabilities : UInt64)
  | updateNetLinkInfo (supplierId : UInt32) (netLinkInfo : Option NetLinkInfo)
  | registerNetConnCallback (callback : Option INetConnCallback)
  | registerNetConnCallbackBySpecifier (netSpecifier : Option NetSpecifier)
      (callback : Option INetConnCallback)
  | unregisterNetConnCallback (callback : Option INetConnCallback)
  | unregisterNetConnCallbackBySpecifier (netSpecifier : Option NetSpecifier)
      (callback : Option INetConnCallback)
  | reConnectServiceTask

/-- One action: the code it returns and the state after it. A timer fires only when one is
pending. -/
def perform (state : NetConnService) : Action → Int × NetConnService
  | .registerNetSupplier netType ident netCapabilities =>
    state.registerNetSupplier netType ident netCapabilities
  | .unregisterNetSupplier supplierId =>
    ((state.unregisterNetSupplier supplierId).1.code, (state.unregisterNetSupplier supplierId).2)
  | .updateNetSupplierInfo supplierId netSupplierInfo =>
    ((state.updateNetSupplierInfo supplierId netSupplierInfo).1.code,
      (state.updateNetSupplierInfo supplierId netSupplierInfo).2)
  | .updateNetCapabilities supplierId netCapabilities =>
    ((state.updateNetCapabilities supplierId netCapabilities).1.code,
      (state.updateNetCapabilities supplierId netCapabilities).2)
  | .updateNetLinkInfo supplierId netLinkInfo =>
    ((state.updateNetLinkInfo supplierId netLinkInfo).1.code,
      (state.updateNetLinkInfo supplierId netLinkInfo).2)
  | .registerNetConnCallback callback =>
    ((state.registerNetConnCallback callback).1.code, (state.registerNetConnCallback callback).2)
  | .registerNetConnCallbackBySpecifier netSpecifier callback =>
    ((state.registerNetConnCallbackBySpecifier netSpecifier callback).1.code,
      (state.registerNetConnCallbackBySpecifier netSpecifier callback).2)
  | .unregisterNetConnCallback callback =>
    ((state.unregisterNetConnCallback callback).1.code,
      (state.unregisterNetConnCallback callback).2)
  | .unregisterNetConnCallbackBySpecifier netSpecifier callback =>
    ((state.unregisterNetConnCallbackBySpecifier netSpecifier callback).1.code,
      (state.unregisterNetConnCallbackBySpecifier netSpecifier callback).2)
  | .reConnectServiceTask =>
    if state.reConnectTimer = 0 then (ResultCode.none.code, state)
    else
      let fired := { state with reConnectTimer := state.reConnectTimer - 1 }
      (fired.reConnectService.1.code, fired.reConnectService.2)

/-- The state after one action. -/
def step (state : NetConnService) (action : Action) : NetConnService := (state.perform action).2

end NetConnService

end NetManager
