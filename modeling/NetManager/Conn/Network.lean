/-
This file models the methods of `NetSupplier` and `Network`. A supplier turns
connection requests into calls of the cellular controller; a network keeps the
connection flags of its supplier and turns link information into netd calls.
-/

import NetManager.Conn.World

namespace NetManager

open Library

/-! ### NetSupplier -/

namespace NetSupplier

/-- `NetSupplier::REG_OK`. -/
def regOk : Int := 1

/-- `NetControllerFactory::MakeNetController`: only the cellular type has a controller. -/
def makeNetController : NetworkType → Option NetController
  | .cellular => some .telephony
  | _ => none

/-- `NetSupplier::NetSupplier`. The id is the current value of `g_nextNetSupplierId`. -/
def make (world : World) (netSupplierType : NetworkType) (netSupplierIdent : String) :
    Ref NetSupplier × World :=
  (world.supplierHeap.fresh,
    { world with
      supplierHeap := world.supplierHeap.alloc
        { netController := makeNetController netSupplierType
          netSupplierType := netSupplierType
          netSupplierIdent := netSupplierIdent
          supplierId := world.nextNetSupplierId }
      nextNetSupplierId := world.nextNetSupplierId + 1 })

/-- `NetSupplier::operator==`. -/
def equals (first second : NetSupplier) : Bool :=
  first.supplierId == second.supplierId && first.netSupplierType == second.netSupplierType &&
    first.netSupplierIdent == second.netSupplierIdent

/-- `NetSupplier::SupplierConnection`. -/
def supplierConnection (world : World) (this : Ref NetSupplier)
    (netCapabilities : NetCapabilities) : Bool × World :=
  match (world.supplier this).netController with
  | none => (false, world)
  | some _ =>
    let asked := world.askController .requestNetwork (world.supplier this).netSupplierIdent
      netCapabilities
    if asked.1 = regOk then
      (true, asked.2.setSupplier this { asked.2.supplier this with connected := true })
    else
      (false, asked.2)

/-- `NetSupplier::SupplierDisconnection`. -/
def supplierDisconnection (world : World) (this : Ref NetSupplier)
    (netCapabilities : NetCapabilities) : Bool × World :=
  match (world.supplier this).netController with
  | none => (false, world)
  | some _ =>
    let asked := world.askController .releaseNetwork (world.supplier this).netSupplierIdent
      netCapabilities
    if asked.1 = regOk then
      (true, asked.2.setSupplier this { asked.2.supplier this with connected := false })
    else
      (false, asked.2)

/-- `NetSupplier::UpdateNetSupplierInfo`. The frequency is narrowed to 16 bits. -/
def updateNetSupplierInfo (world : World) (this : Ref NetSupplier)
    (netSupplierInfo : NetSupplierInfo) : World :=
  world.setSupplier this
    { world.supplier this with
      isAvailable := netSupplierInfo.isAvailable
      isRoaming := netSupplierInfo.isRoaming
      strength := netSupplierInfo.strength
      frequency := netSupplierInfo.frequency.toUInt16 }

/-- `NetSupplier::GetAvailable`. -/
def getAvailable (this : NetSupplier) : Bool := this.isAvailable

/-- `NetSupplier::GetRoaming`. -/
def getRoaming (this : NetSupplier) : Bool := this.isRoaming

/-- `NetSupplier::GetStrength`, which returns a `bool`. -/
def getStrength (this : NetSupplier) : Bool := this.strength != 0

/-- `NetSupplier::GetFrequency`, which returns a `bool`, too. -/
def getFrequency (this : NetSupplier) : Bool := this.frequency != 0

end NetSupplier

/-! ### Network -/

namespace Network

/-- `Network::Network`. -/
def make (world : World) (supplier : Ref NetSupplier) : Ref Network × World :=
  let reservation := world.netIdManager.reserveNetId
  (world.networkHeap.fresh,
    { world with
      networkHeap := world.networkHeap.alloc { supplier := supplier, netId := reservation.1 }
      netIdManager := reservation.2
      netdCalls := world.netdCalls ++ [.createNetworkCache (asUInt16 reservation.1)] })

/-- `Network::~Network`. The net id stays reserved. -/
def destroy (world : World) (this : Ref Network) : World :=
  world.netd [.destoryNetworkCache (asUInt16 (world.network this).netId)]

/-- `Network::operator==`. -/
def equals (world : World) (first second : Ref Network) : Bool :=
  (world.supplier (world.network first).supplier).equals
      (world.supplier (world.network second).supplier) &&
    (world.network first).netId == (world.network second).netId

/-- `Network::NetworkConnect`. -/
def networkConnect (world : World) (this : Ref Network) (netCapability : NetCapabilities) :
    Bool × World :=
  if (world.network this).isConnected then
    (true, world)
  else
    -- the source activates the network through `SupplierDisconnection`
    let activation := NetSupplier.supplierDisconnection world (world.network this).supplier
      netCapability
    if activation.1 then
      (true, activation.2.setNetwork this
        { activation.2.network this with isConnecting := true, isConnected := true })
    else
      (false, activation.2)

/-- `Network::NetworkDisconnect`. Neither flag is reset. -/
def networkDisconnect (world : World) (this : Ref Network) (netCapability : NetCapabilities) :
    Bool × World :=
  if !(world.network this).isConnecting && !(world.network this).isConnected then
    (false, world)
  else
    NetSupplier.supplierDisconnection world (world.network this).supplier netCapability

/-- `Network::UpdateNetSupplierInfo`. -/
def updateNetSupplierInfo (world : World) (this : Ref Network)
    (netSupplierInfo : NetSupplierInfo) : World :=
  let updated := NetSupplier.updateNetSupplierInfo world (world.network this).supplier
    netSupplierInfo
  if (updated.network this).isPhyNetCreated then
    updated
  else
    (updated.netd [.networkCreatePhysical (updated.network this).netId 0]).setNetwork this
      { updated.network this with isPhyNetCreated := true }

/-! ### Link information to netd calls -/

/-- The netd calls of `Network::UpdateInterfaces`. -/
def updateInterfaces (netId : Int) (old new : NetLinkInfo) : List NetdCall :=
  if new.ifaceName = old.ifaceName then
    []
  else
    (if new.ifaceName = "" then [] else [.networkAddInterface netId new.ifaceName]) ++
      (if old.ifaceName = "" then [] else [.networkRemoveInterface netId old.ifaceName])

/-- `std::find(routeList.begin(), routeList.end(), route) == routeList.end()`. -/
def isNewRoute (routeList : List Route) (route : Route) : Bool := !routeList.any (route.equals ·)

/-- The netd calls of `Network::UpdateRoutes`: all additions, then all removals. -/
def updateRoutes (netId : Int) (old new : NetLinkInfo) : List NetdCall :=
  ((new.routeList.filter (isNewRoute old.routeList)).map fun route =>
      .networkAddRoute netId route.iface route.destination.address route.gateway.address) ++
    ((old.routeList.filter (isNewRoute new.routeList)).map fun route =>
      .networkRemoveRoute netId route.iface route.destination.address route.gateway.address)

/-- The netd calls of `Network::UpdateDnses`. -/
def updateDnses (netId : Int) (new : NetLinkInfo) : List NetdCall :=
  [.setResolverConfig (asUInt16 netId) 0 1 (new.dnsList.map (·.address))
    (new.dnsList.map (·.hostName))]

/-- The netd calls of `Network::updateMtu`. -/
def updateMtu (old new : NetLinkInfo) : List NetdCall :=
  if new.mtu = old.mtu then [] else [.interfaceSetMtu new.ifaceName new.mtu.toNat]

/-- The netd calls one `Network::UpdateNetLinkInfo` makes. -/
def linkInfoCalls (netId : Int) (old new : NetLinkInfo) : List NetdCall :=
  updateInterfaces netId old new ++ updateRoutes netId old new ++ updateDnses netId new ++
    updateMtu old new

theorem forall_updateInterfaces {Says : NetdCall → Prop} {netId : Int} (old new : NetLinkInfo)
    (addInterface : ∀ iface, Says (.networkAddInterface netId iface))
    (removeInterface : ∀ iface, Says (.networkRemoveInterface netId iface)) :
    ∀ call ∈ updateInterfaces netId old new, Says call := by
  unfold updateInterfaces
  split
  · exact List.forall_mem_nil _
  · refine List.forall_mem_append.mpr ⟨?_, ?_⟩
    · split
      · exact List.forall_mem_nil _
      · exact List.forall_mem_singleton.mpr (addInterface _)
    · split
      · exact List.forall_mem_nil _
      · exact List.forall_mem_singleton.mpr (removeInterface _)

theorem forall_updateRoutes {Says : NetdCall → Prop} {netId : Int} (old new : NetLinkInfo)
    (addRoute : ∀ ifName destination nextHop,
      Says (.networkAddRoute netId ifName destination nextHop))
    (removeRoute : ∀ ifName destination nextHop,
      Says (.networkRemoveRoute netId ifName destination nextHop)) :
    ∀ call ∈ updateRoutes netId old new, Says call :=
  List.forall_mem_append.mpr ⟨List.forall_mem_map.mpr fun _ _ => addRoute _ _ _,
    List.forall_mem_map.mpr fun _ _ => removeRoute _ _ _⟩

theorem forall_updateMtu {Says : NetdCall → Prop} (old new : NetLinkInfo)
    (mtu : ∀ ifName mtu, Says (.interfaceSetMtu ifName mtu)) :
    ∀ call ∈ updateMtu old new, Says call := by
  unfold updateMtu
  split
  · exact List.forall_mem_nil _
  · exact List.forall_mem_singleton.mpr (mtu _ _)

/-- What holds of each kind of call an update makes holds of all its calls. -/
theorem forall_linkInfoCalls {Says : NetdCall → Prop} {netId : Int} (old new : NetLinkInfo)
    (addInterface : ∀ iface, Says (.networkAddInterface netId iface))
    (removeInterface : ∀ iface, Says (.networkRemoveInterface netId iface))
    (addRoute : ∀ ifName destination nextHop,
      Says (.networkAddRoute netId ifName destination nextHop))
    (removeRoute : ∀ ifName destination nextHop,
      Says (.networkRemoveRoute netId ifName destination nextHop))
    (resolver : ∀ servers domains,
      Says (.setResolverConfig (asUInt16 netId) 0 1 servers domains))
    (mtu : ∀ ifName mtu, Says (.interfaceSetMtu ifName mtu)) :
    ∀ call ∈ linkInfoCalls netId old new, Says call :=
  List.forall_mem_append.mpr ⟨List.forall_mem_append.mpr ⟨List.forall_mem_append.mpr
    ⟨forall_updateInterfaces old new addInterface removeInterface,
      forall_updateRoutes old new addRoute removeRoute⟩,
    List.forall_mem_singleton.mpr (resolver _ _)⟩, forall_updateMtu old new mtu⟩

/-- `Network::UpdateNetLinkInfo`. -/
def updateNetLinkInfo (world : World) (this : Ref Network) (netLinkInfo : NetLinkInfo) : World :=
  let object := world.network this
  (world.netd (linkInfoCalls object.netId object.netLinkInfo netLinkInfo)).setNetwork this
    { object with netLinkInfo := netLinkInfo }

/-! ### Reading after a construction and after an update -/

@[simp] theorem network_make (world : World) (supplier : Ref NetSupplier) :
    (make world supplier).2.network (make world supplier).1 =
      { supplier := supplier, netId := world.netIdManager.reserveNetId.1 } :=
  world.networkHeap.cell_alloc_fresh _

@[simp] theorem network_updateNetLinkInfo (world : World) (this : Ref Network)
    (netLinkInfo : NetLinkInfo) :
    (updateNetLinkInfo world this netLinkInfo).network this =
      { world.network this with netLinkInfo := netLinkInfo } :=
  world.networkHeap.cell_set_self this _

/-- The calls an update issues. -/
@[simp] theorem netdCalls_updateNetLinkInfo (world : World) (this : Ref Network)
    (netLinkInfo : NetLinkInfo) :
    (updateNetLinkInfo world this netLinkInfo).netdCalls.drop world.netdCalls.length =
      linkInfoCalls (world.network this).netId (world.network this).netLinkInfo netLinkInfo :=
  List.drop_left

end Network

end NetManager
