/-
This file runs the registry of the service on its own. The lists, the object
identities and the id counters evolve without looking at connection states or at
what the controller answers, so the registry is a state machine in its own right
(`Registry.step`), and reading the registry of the service commutes with every
action and every run (`registry_step`, `registry_run`).

Creating a supplier is `enroll`, which makes the supplier and its network and
puts both at the end of their lists, followed by the services the capability mask
asks for. The source appends to the two lists last; the registry does it first,
so that every service it adds belongs to a network that is already listed.
-/

import NetManager.Conn.Identity

namespace NetManager

open Library

/-! ### Constructions -/

namespace Identities

/-- What `NetSupplier::NetSupplier` fixes. -/
def newSupplier (identities : Identities) (type : NetworkType) (ident : String) :
    SupplierIdentity :=
  ⟨NetSupplier.makeNetController type, type, ident, identities.nextNetSupplierId⟩

/-- The identities after a supplier and its network were made. -/
def construct (identities : Identities) (type : NetworkType) (ident : String) : Identities :=
  let reservation := identities.netIdManager.reserveNetId
  { identities with
    suppliers := identities.suppliers.alloc (identities.newSupplier type ident)
    networks := identities.networks.alloc ⟨identities.suppliers.fresh, reservation.1⟩
    nextNetSupplierId := identities.nextNetSupplierId + 1
    netIdManager := reservation.2 }

end Identities

namespace Registry

/-! ### Reading the registry -/

def supplier (registry : Registry) (ref : Ref NetSupplier) : SupplierIdentity :=
  registry.identities.suppliers.cell ref

def network (registry : Registry) (ref : Ref Network) : NetworkIdentity :=
  registry.identities.networks.cell ref

def service (registry : Registry) (ref : Ref NetService) : ServiceIdentity :=
  registry.identities.services.cell ref

/-- The supplier a network holds. -/
def holder (registry : Registry) (network : Ref Network) : SupplierIdentity :=
  registry.supplier (registry.network network).supplier

/-- The key `GetNetSupplierFromList` searches for. -/
def key (registry : Registry) (supplier : Ref NetSupplier) : NetworkType × String :=
  ((registry.supplier supplier).type, (registry.supplier supplier).ident)

/-- What `IsServiceInList` keeps apart, with the network in place of its id. -/
def serviceKey (registry : Registry) (service : Ref NetService) :
    Ref Network × NetCapabilities :=
  ((registry.service service).network, (registry.service service).netCapability)

/-- `Network::operator==` on the registry. -/
def sameNetwork (registry : Registry) (first second : Ref Network) : Bool :=
  ((registry.holder first).supplierId == (registry.holder second).supplierId &&
    (registry.holder first).type == (registry.holder second).type &&
      (registry.holder first).ident == (registry.holder second).ident) &&
    (registry.network first).netId == (registry.network second).netId

/-! ### Lookups -/

def supplierOfKey (registry : Registry) (netType : UInt32) (ident : String) :
    Option (Ref NetSupplier) :=
  registry.netSupplier.find? fun supplier =>
    netType == (registry.supplier supplier).type.code &&
      ident == (registry.supplier supplier).ident

def supplierOfId (registry : Registry) (supplierId : UInt32) : Option (Ref NetSupplier) :=
  registry.netSupplier.find? fun supplier =>
    supplierId == (registry.supplier supplier).supplierId

def networkOfId (registry : Registry) (supplierId : UInt32) : Option (Ref Network) :=
  registry.networks.find? fun network => (registry.holder network).supplierId == supplierId

def isServiceOf (registry : Registry) (netId : Int) (netCapability : NetCapabilities)
    (service : Ref NetService) : Bool :=
  (registry.network (registry.service service).network).netId == netId &&
    netCapability == (registry.service service).netCapability

/-! ### Creating a supplier -/

/-- Make a supplier and its network. -/
def construct (registry : Registry) (type : NetworkType) (ident : String) : Registry :=
  { registry with identities := registry.identities.construct type ident }

/-- Append to the lists of suppliers and networks. -/
def enlist (registry : Registry) (supplier : Ref NetSupplier) (network : Ref Network) :
    Registry :=
  { registry with
    networks := registry.networks ++ [network]
    netSupplier := registry.netSupplier ++ [supplier] }

/-- Make a supplier and its network and list both. -/
def enroll (registry : Registry) (type : NetworkType) (ident : String) : Registry :=
  (registry.construct type ident).enlist registry.identities.suppliers.fresh
    registry.identities.networks.fresh

/-- Make a service of a network and list it. -/
def addService (registry : Registry) (ident : String) (type : NetworkType)
    (netCapability : NetCapabilities) (network : Ref Network) : Registry :=
  { registry with
    identities :=
      { registry.identities with
        services := registry.identities.services.alloc ⟨ident, type, netCapability, network⟩ }
    netServices := registry.netServices ++ [registry.identities.services.fresh] }

/-- Make an INTERNET service and let it be the default one. -/
def addDefaultService (registry : Registry) (ident : String) (type : NetworkType)
    (network : Ref Network) : Registry :=
  { registry.addService ident type .internet network with
    defaultNetService := some registry.identities.services.fresh }

def createServices (registry : Registry) (ident : String) (type : NetworkType)
    (netCapabilities : UInt64) (network : Ref Network) : Registry :=
  let internet :=
    if NetCapabilities.internet.isIn netCapabilities then
      registry.addDefaultService ident type network
    else registry
  if NetCapabilities.mms.isIn netCapabilities then
    internet.addService ident type .mms network
  else internet

def create (registry : Registry) (type : NetworkType) (ident : String)
    (netCapabilities : UInt64) : Registry :=
  (registry.enroll type ident).createServices ident type netCapabilities
    registry.identities.networks.fresh

/-- What each of the two services keeps, creating them keeps. -/
theorem createServices_keeps {motive : Registry → Prop} {registry : Registry}
    (holds : motive registry) (ident : String) (type : NetworkType) (netCapabilities : UInt64)
    (network : Ref Network)
    (addDefaultService : motive registry → motive (registry.addDefaultService ident type network))
    (addService : ∀ registry, motive registry →
      motive (registry.addService ident type .mms network)) :
    motive (registry.createServices ident type netCapabilities network) := by
  unfold createServices
  cases NetCapabilities.internet.isIn netCapabilities with
  | false =>
    cases NetCapabilities.mms.isIn netCapabilities with
    | false => exact holds
    | true => exact addService registry holds
  | true =>
    cases NetCapabilities.mms.isIn netCapabilities with
    | false => exact addDefaultService holds
    | true => exact addService _ (addDefaultService holds)

/-- The INTERNET service of a new supplier is the default one. -/
theorem defaultNetService_create (registry : Registry) (type : NetworkType) (ident : String)
    (netCapabilities : UInt64) :
    (registry.create type ident netCapabilities).defaultNetService =
      if NetCapabilities.internet.isIn netCapabilities then
        some registry.identities.services.fresh
      else registry.defaultNetService := by
  unfold create createServices
  cases NetCapabilities.internet.isIn netCapabilities with
  | false =>
    cases NetCapabilities.mms.isIn netCapabilities with
    | false => rfl
    | true => rfl
  | true =>
    cases NetCapabilities.mms.isIn netCapabilities with
    | false => rfl
    | true => rfl

/-- Services do not look at the two lists. -/
theorem enlist_createServices (registry : Registry) (ident : String) (type : NetworkType)
    (netCapabilities : UInt64) (network : Ref Network) (supplier : Ref NetSupplier) :
    (registry.createServices ident type netCapabilities network).enlist supplier network =
      (registry.enlist supplier network).createServices ident type netCapabilities network := by
  unfold createServices
  cases NetCapabilities.internet.isIn netCapabilities with
  | false =>
    cases NetCapabilities.mms.isIn netCapabilities with
    | false => rfl
    | true => rfl
  | true =>
    cases NetCapabilities.mms.isIn netCapabilities with
    | false => rfl
    | true => rfl

/-! ### The state machine -/

def register (registry : Registry) (netType : UInt32) (ident : String)
    (netCapabilities : UInt64) : Registry :=
  if netType ≥ NetworkType.max.code ∨ netType ≤ NetworkType.unknown.code then registry
  else
    match registry.supplierOfKey netType ident with
    | some _ => registry
    | none => registry.create (NetworkType.ofCode netType) ident netCapabilities

/-- The three deletions of `UnregisterNetSupplier`. -/
def remove (registry : Registry) (supplierId : UInt32) (network : Ref Network) : Registry :=
  { registry with
    netServices := registry.netServices.filter fun service =>
      !registry.sameNetwork (registry.service service).network network
    networks := registry.networks.eraseP fun network =>
      (registry.holder network).supplierId == supplierId
    netSupplier := registry.netSupplier.eraseP fun supplier =>
      supplierId == (registry.supplier supplier).supplierId }

def unregister (registry : Registry) (supplierId : UInt32) : Registry :=
  match registry.supplierOfId supplierId with
  | none => registry
  | some _ =>
    match registry.networkOfId supplierId with
    | none =>
      { registry with
        netSupplier := registry.netSupplier.eraseP fun supplier =>
          supplierId == (registry.supplier supplier).supplierId }
    | some network => registry.remove supplierId network

def updateCapability (registry : Registry) (ident : String) (type : NetworkType)
    (network : Ref Network) (netCapability : NetCapabilities) (netCapabilities : UInt64) :
    Registry :=
  let listed := registry.netServices.any
    (registry.isServiceOf (registry.network network).netId netCapability)
  if netCapability.isIn netCapabilities then
    if listed then registry
    else registry.addService ident type netCapability network
  else
    if listed then
      { registry with
        netServices := registry.netServices.eraseP
          (registry.isServiceOf (registry.network network).netId netCapability) }
    else registry

def supplierAndNetwork (registry : Registry) (supplierId : UInt32) :
    Except ResultCode (Ref NetSupplier × Ref Network) :=
  match registry.supplierOfId supplierId with
  | none => .error .noSupplier
  | some supplier =>
    match registry.networkOfId (registry.supplier supplier).supplierId with
    | none => .error .noNetwork
    | some network => .ok (supplier, network)

def updateCapabilities (registry : Registry) (supplierId : UInt32) (netCapabilities : UInt64) :
    Registry :=
  match registry.supplierAndNetwork supplierId with
  | .error _ => registry
  | .ok (supplier, network) =>
    let type := (registry.supplier supplier).type
    let ident := (registry.supplier supplier).ident
    (registry.updateCapability ident type network .internet netCapabilities).updateCapability
      ident type network .mms netCapabilities

/-- Three requests write the registry; every other action leaves it as it is. -/
def step (registry : Registry) : NetConnService.Action → Registry
  | .registerNetSupplier netType ident netCapabilities =>
    registry.register netType ident netCapabilities
  | .unregisterNetSupplier supplierId => registry.unregister supplierId
  | .updateNetCapabilities supplierId netCapabilities =>
    registry.updateCapabilities supplierId netCapabilities
  | _ => registry

end Registry

/-! ### Reading the registry commutes with the actions -/

namespace NetConnService

theorem registry_addService (state : NetConnService) (ident : String) (type : NetworkType)
    (netCapability : NetCapabilities) (network : Ref Network) :
    (state.addService ident type netCapability network).registry =
      state.registry.addService ident type netCapability network := by
  have services := state.world.serviceHeap.map_alloc NetService.identity
    { ident := ident, networkType := type, netCapability := netCapability, network := network }
  unfold registry addService NetService.make World.identities
  dsimp only
  rw [services]
  rfl

theorem registry_addDefaultService (state : NetConnService) (ident : String)
    (type : NetworkType) (network : Ref Network) :
    (state.addDefaultService ident type network).registry =
      state.registry.addDefaultService ident type network := by
  unfold addDefaultService
  rw [registry_assignDefaultNetService, registry_addService]
  rfl

theorem registry_construct (state : NetConnService) (type : NetworkType) (ident : String) :
    { state with
      world := (Network.make (NetSupplier.make state.world type ident).2
        state.world.supplierHeap.fresh).2 }.registry =
      state.registry.construct type ident := by
  have suppliers := state.world.supplierHeap.map_alloc NetSupplier.identity
    { netController := NetSupplier.makeNetController type
      netSupplierType := type
      netSupplierIdent := ident
      supplierId := state.world.nextNetSupplierId }
  have networks := state.world.networkHeap.map_alloc Network.identity
    { supplier := state.world.supplierHeap.fresh
      netId := state.world.netIdManager.reserveNetId.1 }
  unfold registry NetSupplier.make Network.make World.identities
  dsimp only
  rw [suppliers, networks]
  rfl

theorem registry_createServices (state : NetConnService) (ident : String) (type : NetworkType)
    (netCapabilities : UInt64) (network : Ref Network) :
    (state.createServices ident type netCapabilities network).registry =
      state.registry.createServices ident type netCapabilities network := by
  unfold createServices Registry.createServices
  cases NetCapabilities.internet.isIn netCapabilities with
  | false =>
    cases NetCapabilities.mms.isIn netCapabilities with
    | false => rfl
    | true => exact registry_addService state ident type .mms network
  | true =>
    have internet := registry_addDefaultService state ident type network
    cases NetCapabilities.mms.isIn netCapabilities with
    | false => exact internet
    | true =>
      rw [← internet]
      exact registry_addService _ ident type .mms network

theorem registry_createSupplier (state : NetConnService) (type : NetworkType) (ident : String)
    (netCapabilities : UInt64) :
    (state.createSupplier type ident netCapabilities).registry =
      state.registry.create type ident netCapabilities := by
  have services := registry_createServices
    { state with
      world := (Network.make (NetSupplier.make state.world type ident).2
        state.world.supplierHeap.fresh).2 }
    ident type netCapabilities state.world.networkHeap.fresh
  rw [registry_construct] at services
  unfold Registry.create Registry.enroll
  rw [← Registry.enlist_createServices]
  exact congrArg (fun registry => Registry.enlist registry state.world.supplierHeap.fresh
    state.world.networkHeap.fresh) services

theorem registry_registerNetSupplier (state : NetConnService) (netType : UInt32)
    (ident : String) (netCapabilities : UInt64) :
    (state.registerNetSupplier netType ident netCapabilities).2.registry =
      state.registry.register netType ident netCapabilities := by
  unfold registerNetSupplier Registry.register
  split
  · rfl
  · have lookup : state.registry.supplierOfKey netType ident =
        state.getNetSupplierFromList netType ident := rfl
    rw [lookup]
    cases state.getNetSupplierFromList netType ident with
    | some supplier => rfl
    | none =>
      dsimp only
      rw [registry_connectDefaultService, registry_createSupplier]

theorem registry_unregisterNetSupplier (state : NetConnService) (supplierId : UInt32) :
    (state.unregisterNetSupplier supplierId).2.registry =
      state.registry.unregister supplierId := by
  have supplier : state.registry.supplierOfId supplierId =
      state.getNetSupplierFromListById supplierId := rfl
  have network : state.registry.networkOfId supplierId =
      state.getNetworkFromListBySupplierId supplierId := rfl
  unfold unregisterNetSupplier Registry.unregister
  rw [supplier, network]
  cases state.getNetSupplierFromListById supplierId with
  | none => rfl
  | some _ =>
    cases state.getNetworkFromListBySupplierId supplierId with
    | none => rfl
    | some network => exact registry_dropNetwork _ network

theorem registry_updateCapability (state : NetConnService) (ident : String) (type : NetworkType)
    (network : Ref Network) (netCapability : NetCapabilities) (netCapabilities : UInt64) :
    (state.updateCapability ident type network netCapability netCapabilities).registry =
      state.registry.updateCapability ident type network netCapability netCapabilities := by
  have listed : state.registry.netServices.any
      (state.registry.isServiceOf (state.registry.network network).netId netCapability) =
        state.isServiceInList (state.world.network network).netId netCapability := rfl
  unfold updateCapability Registry.updateCapability
  dsimp only
  rw [listed]
  cases netCapability.isIn netCapabilities with
  | true =>
    cases state.isServiceInList (state.world.network network).netId netCapability with
    | true => rfl
    | false => exact registry_addService state ident type netCapability network
  | false =>
    cases state.isServiceInList (state.world.network network).netId netCapability with
    | true => rfl
    | false => rfl

theorem registry_updateNetCapabilities (state : NetConnService) (supplierId : UInt32)
    (netCapabilities : UInt64) :
    (state.updateNetCapabilities supplierId netCapabilities).2.registry =
      state.registry.updateCapabilities supplierId netCapabilities := by
  have lookup : state.registry.supplierAndNetwork supplierId =
      state.getSupplierAndNetwork supplierId := rfl
  unfold updateNetCapabilities Registry.updateCapabilities
  rw [lookup]
  cases state.getSupplierAndNetwork supplierId with
  | error code => rfl
  | ok found =>
    dsimp only
    rw [registry_updateCapability, registry_updateCapability]
    rfl

/-- Reading the registry commutes with every action. -/
theorem registry_step (state : NetConnService) (action : Action) :
    (state.step action).registry = state.registry.step action := by
  cases action with
  | registerNetSupplier netType ident netCapabilities =>
    exact registry_registerNetSupplier state netType ident netCapabilities
  | unregisterNetSupplier supplierId => exact registry_unregisterNetSupplier state supplierId
  | updateNetSupplierInfo supplierId netSupplierInfo =>
    exact registry_updateNetSupplierInfo state supplierId netSupplierInfo
  | updateNetCapabilities supplierId netCapabilities =>
    exact registry_updateNetCapabilities state supplierId netCapabilities
  | updateNetLinkInfo supplierId netLinkInfo =>
    exact registry_updateNetLinkInfo state supplierId netLinkInfo
  | registerNetConnCallback callback => exact registry_registerNetConnCallback state callback
  | registerNetConnCallbackBySpecifier netSpecifier callback =>
    exact registry_registerNetConnCallbackBySpecifier state netSpecifier callback
  | unregisterNetConnCallback callback => exact registry_unregisterNetConnCallback state callback
  | unregisterNetConnCallbackBySpecifier netSpecifier callback =>
    exact registry_unregisterNetConnCallbackBySpecifier state netSpecifier callback
  | reConnectServiceTask =>
    by_cases idle : state.reConnectTimer = 0
    · simp only [step, perform, if_pos idle]
      rfl
    · simp only [step, perform, if_neg idle]
      exact registry_reConnectService _

/-- Reading the registry commutes with every run. -/
theorem registry_run (state : NetConnService) (actions : List Action) :
    (run step state actions).registry = run Registry.step state.registry actions :=
  run_reading step registry Registry.step registry_step state actions

end NetConnService

end NetManager
