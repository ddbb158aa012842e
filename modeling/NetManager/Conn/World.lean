/-
This file holds the objects the connection service works on and the world they
live in. Suppliers, networks and services are reference-counted objects shared
by several owners, so each class has a heap and the lists of the service hold
references. The world also records what leaves the process: the calls to the
cellular controller with their answers, the calls to netd, the broadcasts and
the notifications of client callbacks. For proofs alone it keeps a record of the state updates
of the services, which nothing reads.

The cellular controller is outside the process and may answer anything. Its
answers are one tape, `answers`, read in the order the calls are made.
-/

import NetManager.Library.Heap
import NetManager.Conn.Types
import NetManager.Conn.NetIdManager

namespace NetManager

open Library

/-! ### Objects -/

/-- The controllers `NetControllerFactory` makes. -/
inductive NetController
  | telephony
deriving DecidableEq, Repr

/-- The fields of `NetSupplier`. -/
structure NetSupplier where
  netController : Option NetController := none
  netSupplierType : NetworkType := .unknown
  netSupplierIdent : String := ""
  supplierId : UInt32 := 0
  frequency : UInt16 := 0
  strength : UInt8 := 0
  connected : Bool := false
  isAvailable : Bool := false
  isRoaming : Bool := false
deriving DecidableEq, Repr, Inhabited

/-- The fields of `Network`. The constructor stores the supplier it is given and every caller
gives it one, so `supplier_` is never null. -/
structure Network where
  netLinkInfo : NetLinkInfo := {}
  isPhyNetCreated : Bool := false
  isConnecting : Bool := false
  isConnected : Bool := false
  supplier : Ref NetSupplier
  netId : Int
deriving DecidableEq

instance : Inhabited Network := ⟨{ supplier := ⟨0⟩, netId := 0 }⟩

/-- The fields of `NetService`. Its constructor, too, is always given a network. -/
structure NetService where
  ident : String
  networkType : NetworkType
  state : ServiceState := .idle
  netCapability : NetCapabilities
  network : Ref Network
  netConnCallback : List INetConnCallback := []
deriving DecidableEq

instance : Inhabited NetService :=
  ⟨{ ident := "", networkType := .unknown, netCapability := .none, network := ⟨0⟩ }⟩

/-! ### What leaves the process -/

/-- The two requests of `INetController`. -/
inductive ControllerRequest
  | requestNetwork
  | releaseNetwork
deriving DecidableEq, Repr

/-- A call to the cellular controller and the code it answered. -/
structure ControllerCall where
  request : ControllerRequest
  ident : String
  netCapability : NetCapabilities
  errCode : Int
deriving DecidableEq, Repr

/-- A call to `NetdController`, with the argument types of its methods. -/
inductive NetdCall
  | networkCreatePhysical (netId : Int) (permission : Int)
  | networkDestroy (netId : Int)
  | networkAddInterface (netId : Int) (iface : String)
  | networkRemoveInterface (netId : Int) (iface : String)
  | networkAddRoute (netId : Int) (ifName destination nextHop : String)
  | networkRemoveRoute (netId : Int) (ifName destination nextHop : String)
  | interfaceSetMtu (ifName : String) (mtu : Int)
  | setResolverConfig (netId : UInt16) (baseTimeoutMsec : UInt16) (retryCount : UInt8)
      (servers domains : List String)
  | createNetworkCache (netId : UInt16)
  | destoryNetworkCache (netId : UInt16)
deriving DecidableEq, Repr

/-- The net id a netd call is about, if it is about one. -/
def NetdCall.netId? : NetdCall → Option Int
  | .networkCreatePhysical netId _ => some netId
  | .networkDestroy netId => some netId
  | .networkAddInterface netId _ => some netId
  | .networkRemoveInterface netId _ => some netId
  | .networkAddRoute netId _ _ _ => some netId
  | .networkRemoveRoute netId _ _ _ => some netId
  | .interfaceSetMtu _ _ => none
  | .setResolverConfig netId _ _ _ _ => some netId.toNat
  | .createNetworkCache netId => some netId.toNat
  | .destoryNetworkCache netId => some netId.toNat

/-- One `NetConnStateChanged` call: the service that made it, the callback, what it was told. -/
structure Notification where
  service : Ref NetService
  callback : INetConnCallback
  info : NetConnCallbackInfo
deriving DecidableEq

/-- One `UpdateServiceState` call: the service, the state it was given, its type, and the
callbacks that were registered with it. -/
structure StateUpdate where
  service : Ref NetService
  serviceState : ServiceState
  networkType : NetworkType
  netConnCallback : List INetConnCallback
deriving DecidableEq

/-! ### The world -/

/-- The objects of the process, its singletons and everything it sent. -/
structure World where
  supplierHeap : Heap NetSupplier := Heap.empty
  networkHeap : Heap Network := Heap.empty
  serviceHeap : Heap NetService := Heap.empty
  nextNetSupplierId : UInt32 := 0x03EB
  netIdManager : NetIdManager := {}
  answers : Nat → Int
  controllerCalls : List ControllerCall := []
  netdCalls : List NetdCall := []
  broadcasts : List BroadcastInfo := []
  notifications : List Notification := []
  stateUpdates : List StateUpdate := []

namespace World

/-- Read a supplier. -/
def supplier (world : World) (ref : Ref NetSupplier) : NetSupplier := world.supplierHeap.cell ref

/-- Read a network. -/
def network (world : World) (ref : Ref Network) : Network := world.networkHeap.cell ref

/-- Read a service. -/
def service (world : World) (ref : Ref NetService) : NetService := world.serviceHeap.cell ref

/-- Write a supplier. -/
def setSupplier (world : World) (ref : Ref NetSupplier) (object : NetSupplier) : World :=
  { world with supplierHeap := world.supplierHeap.set ref object }

/-- Write a network. -/
def setNetwork (world : World) (ref : Ref Network) (object : Network) : World :=
  { world with networkHeap := world.networkHeap.set ref object }

/-- Write a service. -/
def setService (world : World) (ref : Ref NetService) (object : NetService) : World :=
  { world with serviceHeap := world.serviceHeap.set ref object }

/-- Make netd calls. No caller reads what netd returns. -/
def netd (world : World) (calls : List NetdCall) : World :=
  { world with netdCalls := world.netdCalls ++ calls }

/-- Call the cellular controller and get its code. -/
def askController (world : World) (request : ControllerRequest) (ident : String)
    (netCapability : NetCapabilities) : Int × World :=
  let errCode := world.answers world.controllerCalls.length
  (errCode, { world with
    controllerCalls := world.controllerCalls ++ [⟨request, ident, netCapability, errCode⟩] })

/-- `BroadcastManager::SendBroadcast`. -/
def sendBroadcast (world : World) (info : BroadcastInfo) : World :=
  { world with broadcasts := world.broadcasts ++ [info] }

/-- Deliver notifications, in order. -/
def notify (world : World) (notifications : List Notification) : World :=
  { world with notifications := world.notifications ++ notifications }

/-- Record a state update. -/
def recordUpdate (world : World) (update : StateUpdate) : World :=
  { world with stateUpdates := world.stateUpdates ++ [update] }

end World

end NetManager
