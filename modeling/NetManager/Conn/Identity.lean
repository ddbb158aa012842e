/-
This file separates what an object is from what it currently holds. The type,
ident and id of a supplier, the supplier and net id of a network and the labels
of a service are fixed by their constructors; everything else is state. The
connection state machine, the link and supplier updates and the callback
registrations write state only, so each of them leaves `World.identities`
unchanged. Every invariant of the lists of the service is an invariant of the
identities and the lists alone, which is what `NetConnService.registry` holds.
-/

import NetManager.Conn.ConnectionFrame
import NetManager.Conn.NetConnService

namespace NetManager

open Library

/-! ### Identities -/

/-- What the constructor of `NetSupplier` fixes. -/
structure SupplierIdentity where
  netController : Option NetController
  type : NetworkType
  ident : String
  supplierId : UInt32

/-- What the constructor of `Network` fixes. -/
structure NetworkIdentity where
  supplier : Ref NetSupplier
  netId : Int

/-- What the constructor of `NetService` fixes. -/
structure ServiceIdentity where
  ident : String
  networkType : NetworkType
  netCapability : NetCapabilities
  network : Ref Network

def NetSupplier.identity (object : NetSupplier) : SupplierIdentity :=
  ⟨object.netController, object.netSupplierType, object.netSupplierIdent, object.supplierId⟩

def Network.identity (object : Network) : NetworkIdentity :=
  ⟨object.supplier, object.netId⟩

def NetService.identity (object : NetService) : ServiceIdentity :=
  ⟨object.ident, object.networkType, object.netCapability, object.network⟩

/-- The part of the world that only constructors write. -/
structure Identities where
  suppliers : Heap NetSupplier SupplierIdentity
  networks : Heap Network NetworkIdentity
  services : Heap NetService ServiceIdentity
  nextNetSupplierId : UInt32
  netIdManager : NetIdManager

namespace World

/-- The identities of the objects of a world. -/
def identities (world : World) : Identities where
  suppliers := world.supplierHeap.map NetSupplier.identity
  networks := world.networkHeap.map Network.identity
  services := world.serviceHeap.map NetService.identity
  nextNetSupplierId := world.nextNetSupplierId
  netIdManager := world.netIdManager

/-! ### Writes of state -/

theorem identities_setSupplier (world : World) (ref : Ref NetSupplier) (object : NetSupplier)
    (kept : object.identity = (world.supplier ref).identity) :
    (world.setSupplier ref object).identities = world.identities := by
  unfold identities setSupplier
  rw [world.supplierHeap.map_set_of_kept NetSupplier.identity ref object kept]

theorem identities_setNetwork (world : World) (ref : Ref Network) (object : Network)
    (kept : object.identity = (world.network ref).identity) :
    (world.setNetwork ref object).identities = world.identities := by
  unfold identities setNetwork
  rw [world.networkHeap.map_set_of_kept Network.identity ref object kept]

theorem identities_setService (world : World) (ref : Ref NetService) (object : NetService)
    (kept : object.identity = (world.service ref).identity) :
    (world.setService ref object).identities = world.identities := by
  unfold identities setService
  rw [world.serviceHeap.map_set_of_kept NetService.identity ref object kept]

end World

/-! ### Suppliers and networks -/

theorem NetSupplier.identities_supplierDisconnection (world : World) (this : Ref NetSupplier)
    (netCapabilities : NetCapabilities) :
    (supplierDisconnection world this netCapabilities).2.identities = world.identities := by
  unfold supplierDisconnection
  cases (world.supplier this).netController with
  | none => rfl
  | some _ =>
    dsimp only
    split
    · exact World.identities_setSupplier _ _ _ rfl
    · rfl

theorem NetSupplier.identities_updateNetSupplierInfo (world : World) (this : Ref NetSupplier)
    (netSupplierInfo : NetSupplierInfo) :
    (updateNetSupplierInfo world this netSupplierInfo).identities = world.identities :=
  World.identities_setSupplier _ _ _ rfl

theorem Network.identities_updateNetSupplierInfo (world : World) (this : Ref Network)
    (netSupplierInfo : NetSupplierInfo) :
    (updateNetSupplierInfo world this netSupplierInfo).identities = world.identities := by
  unfold updateNetSupplierInfo
  dsimp only
  split
  · exact NetSupplier.identities_updateNetSupplierInfo _ _ _
  · exact (World.identities_setNetwork _ _ _ (by rfl)).trans
      (NetSupplier.identities_updateNetSupplierInfo _ _ _)

theorem Network.identities_updateNetLinkInfo (world : World) (this : Ref Network)
    (netLinkInfo : NetLinkInfo) :
    (updateNetLinkInfo world this netLinkInfo).identities = world.identities :=
  World.identities_setNetwork _ _ _ rfl

/-! ### Services -/

namespace NetService

theorem identities_updateServiceState (world : World) (this : Ref NetService)
    (serviceState : ServiceState) :
    (updateServiceState world this serviceState).identities = world.identities :=
  World.identities_setService world this
    { world.service this with state := storedState serviceState } rfl

/-- Connecting a service keeps the identities. -/
theorem identities_frame :
    World.ConnectionFrame fun before after => after.identities = before.identities where
  refl _ := rfl
  trans earlier later := later.trans earlier
  supplierDisconnection := NetSupplier.identities_supplierDisconnection
  activate _ _ := World.identities_setNetwork _ _ _ rfl
  updateServiceState := identities_updateServiceState

theorem identities_serviceConnect (world : World) (this : Ref NetService) :
    (serviceConnect world this).2.identities = world.identities :=
  identities_frame.serviceConnect world this

theorem identities_serviceDisConnect (world : World) (this : Ref NetService) :
    (serviceDisConnect world this).2.identities = world.identities :=
  identities_frame.serviceDisConnect world this

theorem identities_reConnect (world : World) (this : Ref NetService) :
    (reConnect world this).2.identities = world.identities :=
  identities_frame.reConnect world this

theorem identities_registerNetConnCallback (world : World) (this : Ref NetService)
    (callback : INetConnCallback) :
    (registerNetConnCallback world this callback).identities = world.identities := by
  unfold registerNetConnCallback
  dsimp only
  split
  · rfl
  · exact World.identities_setService _ _ _ rfl

theorem identities_unregisterNetConnCallback (world : World) (this : Ref NetService)
    (callback : INetConnCallback) :
    (unregisterNetConnCallback world this callback).2.identities = world.identities := by
  unfold unregisterNetConnCallback
  dsimp only
  split
  · exact World.identities_setService _ _ _ rfl
  · rfl

end NetService

/-! ### The registry of the service -/

/-- The identities of the objects and the lists that hold them. -/
structure Registry where
  identities : Identities
  defaultNetService : Option (Ref NetService)
  netServices : List (Ref NetService)
  networks : List (Ref Network)
  netSupplier : List (Ref NetSupplier)

namespace NetConnService

/-- The registry of a state. -/
def registry (state : NetConnService) : Registry where
  identities := state.world.identities
  defaultNetService := state.defaultNetService
  netServices := state.netServices
  networks := state.networks
  netSupplier := state.netSupplier

theorem registry_withWorld (state : NetConnService) (world : World)
    (same : world.identities = state.world.identities) :
    { state with world := world }.registry = state.registry := by
  unfold registry
  rw [same]

theorem registry_dropNetwork (state : NetConnService) (network : Ref Network) :
    (state.dropNetwork network).registry = state.registry := by
  unfold dropNetwork
  split
  · rfl
  · rfl

theorem registry_assignDefaultNetService (state : NetConnService) (service : Ref NetService) :
    (state.assignDefaultNetService service).registry =
      { state.registry with defaultNetService := some service } := by
  unfold assignDefaultNetService
  cases state.defaultNetService with
  | none => rfl
  | some replaced => exact registry_dropNetwork _ _

theorem registry_connectDefaultService (state : NetConnService) :
    state.connectDefaultService.registry = state.registry := by
  unfold connectDefaultService
  split
  · rfl
  · rename_i service _
    have same := registry_withWorld state _
      (NetService.identities_serviceConnect state.world service)
    dsimp only
    split
    · exact same
    · exact same

theorem registry_reConnectService (state : NetConnService) :
    state.reConnectService.2.registry = state.registry := by
  unfold reConnectService
  split
  · rfl
  · exact registry_withWorld state _ (NetService.identities_reConnect _ _)

theorem registry_updateNetSupplierInfo (state : NetConnService) (supplierId : UInt32)
    (netSupplierInfo : Option NetSupplierInfo) :
    (state.updateNetSupplierInfo supplierId netSupplierInfo).2.registry = state.registry := by
  unfold updateNetSupplierInfo
  cases netSupplierInfo with
  | none => rfl
  | some netSupplierInfo =>
    dsimp only
    split
    · rfl
    · exact registry_withWorld state _ (Network.identities_updateNetSupplierInfo _ _ _)

theorem registry_updateNetLinkInfo (state : NetConnService) (supplierId : UInt32)
    (netLinkInfo : Option NetLinkInfo) :
    (state.updateNetLinkInfo supplierId netLinkInfo).2.registry = state.registry := by
  unfold updateNetLinkInfo
  cases netLinkInfo with
  | none => rfl
  | some netLinkInfo =>
    dsimp only
    split
    · rfl
    · exact registry_withWorld state _ (Network.identities_updateNetLinkInfo _ _ _)

/-- Visiting services with a function that keeps the identities keeps them. -/
theorem identities_foldl (visit : World → Ref NetService → World)
    (kept : ∀ world service, (visit world service).identities = world.identities)
    (services : List (Ref NetService)) (world : World) :
    (services.foldl visit world).identities = world.identities := by
  induction services generalizing world with
  | nil => rfl
  | cons service rest inductionHypothesis =>
    rw [List.foldl_cons, inductionHypothesis, kept]

theorem registry_registerNetConnCallback (state : NetConnService)
    (callback : Option INetConnCallback) :
    (state.registerNetConnCallback callback).2.registry = state.registry := by
  unfold registerNetConnCallback
  cases callback with
  | none => rfl
  | some callback =>
    dsimp only
    split
    · rfl
    · exact registry_withWorld state _ (identities_foldl _
        (fun world service => NetService.identities_registerNetConnCallback world service callback)
        _ _)

theorem registry_registerNetConnCallbackBySpecifier (state : NetConnService)
    (netSpecifier : Option NetSpecifier) (callback : Option INetConnCallback) :
    (state.registerNetConnCallbackBySpecifier netSpecifier callback).2.registry =
      state.registry := by
  unfold registerNetConnCallbackBySpecifier
  split
  · split
    · rfl
    · split
      · rfl
      · exact registry_withWorld state _ (NetService.identities_registerNetConnCallback _ _ _)
  · rfl

theorem registry_unregisterNetConnCallback (state : NetConnService)
    (callback : Option INetConnCallback) :
    (state.unregisterNetConnCallback callback).2.registry = state.registry := by
  unfold unregisterNetConnCallback
  cases callback with
  | none => rfl
  | some callback =>
    dsimp only
    split
    · rfl
    · exact registry_withWorld state _ (identities_foldl _
        (fun world service =>
          NetService.identities_unregisterNetConnCallback world service callback)
        _ _)

theorem registry_unregisterNetConnCallbackBySpecifier (state : NetConnService)
    (netSpecifier : Option NetSpecifier) (callback : Option INetConnCallback) :
    (state.unregisterNetConnCallbackBySpecifier netSpecifier callback).2.registry =
      state.registry := by
  unfold unregisterNetConnCallbackBySpecifier
  split
  · split
    · rfl
    · split
      · rfl
      · exact registry_withWorld state _ (NetService.identities_unregisterNetConnCallback _ _ _)
  · rfl

end NetConnService

end NetManager
