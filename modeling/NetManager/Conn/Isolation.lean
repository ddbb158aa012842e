/-
This file proves that requests on one supplier do not reach another one. Requests
find what they change by supplier id, by net id or by `Network::operator==`; while
the ids are keys, each of these singles out the objects of the supplier named in the
request. What is left alone is the supplier record, the network, the services of the
network with their states and callbacks, and the net id: no netd call carries it.
-/

import NetManager.Library.Log
import NetManager.Conn.Membership
import NetManager.Conn.Representation
import NetManager.Conn.SupplierId

namespace NetManager

open Library

/-! ### Netd calls about one net id -/

/-- Every net id survives the conversion to the `uint16_t` of the resolver calls. -/
theorem asUInt16_netId {netId : Int} (low : 0 ≤ netId) (high : netId ≤ maxNetId) :
    ((asUInt16 netId).toNat : Int) = netId := by
  rw [NetIdManager.maxNetId_eq] at high
  have value : (netId % 2 ^ 16).toNat = netId.toNat := by
    rw [Int.emod_eq_of_lt low (by omega)]
  have small : netId.toNat < UInt16.size := by
    show netId.toNat < 65536
    omega
  unfold asUInt16 UInt16.ofInt
  rw [value, UInt16.toNat_ofNat_of_lt' small]
  exact Int.toNat_of_nonneg low

namespace Network

/-- Everything an update of the link information calls netd for is about the net id of the
network, or about an interface. -/
theorem linkInfoCalls_netId {netId : Int} (low : 0 ≤ netId) (high : netId ≤ maxNetId)
    (old new : NetLinkInfo) (call : NetdCall) (member : call ∈ linkInfoCalls netId old new) :
    call.netId? = some netId ∨ call.netId? = none := by
  revert call
  exact forall_linkInfoCalls old new (fun _ => Or.inl rfl) (fun _ => Or.inl rfl)
    (fun _ _ _ => Or.inl rfl) (fun _ _ _ => Or.inl rfl)
    (fun _ _ => Or.inl (congrArg some (asUInt16_netId low high))) (fun _ _ => Or.inr rfl)

end Network

/-! ### Worlds that leave a supplier and its network alone -/

/-- Between the two worlds the supplier, the network and every service are unchanged, and no
netd call carries the net id of the network. -/
structure World.Spares (before after : World) (supplier : Ref NetSupplier)
    (network : Ref Network) : Prop where
  record : after.supplier supplier = before.supplier supplier
  object : after.network network = before.network network
  services : ∀ service, before.serviceHeap.Allocated service →
    after.serviceHeap.Allocated service ∧ after.service service = before.service service
  netd : ∃ issued, after.netdCalls = before.netdCalls ++ issued ∧
    ∀ call ∈ issued, call.netId? ≠ some (before.network network).netId

namespace World.Spares

variable {world : World} {supplier : Ref NetSupplier} {network this : Ref Network}

theorem refl (world : World) (supplier : Ref NetSupplier) (network : Ref Network) :
    world.Spares world supplier network :=
  ⟨rfl, rfl, fun _ allocated => ⟨allocated, rfl⟩, appended_refl world.netdCalls⟩

theorem trans {first second third : World} (earlier : first.Spares second supplier network)
    (later : second.Spares third supplier network) : first.Spares third supplier network := by
  have netd := later.netd
  rw [earlier.object] at netd
  refine ⟨later.record.trans earlier.record, later.object.trans earlier.object, ?_,
    appended_trans earlier.netd netd⟩
  intro service allocated
  obtain ⟨middle, kept⟩ := earlier.services service allocated
  obtain ⟨still, same⟩ := later.services service middle
  exact ⟨still, same.trans kept⟩

/-- Destroying another network. -/
theorem destroy (low : 0 ≤ (world.network this).netId)
    (high : (world.network this).netId ≤ maxNetId)
    (apart : (world.network this).netId ≠ (world.network network).netId) :
    world.Spares (Network.destroy world this) supplier network := by
  refine ⟨rfl, rfl, fun _ allocated => ⟨allocated, rfl⟩, _, rfl, fun call member same => ?_⟩
  rw [List.mem_singleton.mp member] at same
  refine apart (Eq.trans ?_ (Option.some.inj same))
  exact (asUInt16_netId low high).symm

/-- Updating the link information of another network. -/
theorem updateNetLinkInfo (low : 0 ≤ (world.network this).netId)
    (high : (world.network this).netId ≤ maxNetId)
    (apart : (world.network this).netId ≠ (world.network network).netId)
    (netLinkInfo : NetLinkInfo) :
    world.Spares (Network.updateNetLinkInfo world this netLinkInfo) supplier network := by
  have different : network ≠ this := fun same => apart (by rw [same])
  refine ⟨rfl, Heap.cell_set_of_ne _ _ different, fun _ allocated => ⟨allocated, rfl⟩, _, rfl,
    fun call member same => ?_⟩
  rcases Network.linkInfoCalls_netId low high _ _ call member with own | none
  · rw [own] at same
    exact apart (Option.some.inj same)
  · rw [none] at same
    exact Option.some_ne_none _ same.symm

/-- Updating the information of the supplier of another network. -/
theorem updateNetSupplierInfo (other : supplier ≠ (world.network this).supplier)
    (apart : (world.network this).netId ≠ (world.network network).netId)
    (netSupplierInfo : NetSupplierInfo) :
    world.Spares (Network.updateNetSupplierInfo world this netSupplierInfo) supplier network := by
  have different : network ≠ this := fun same => apart (by rw [same])
  have kept : (NetSupplier.updateNetSupplierInfo world (world.network this).supplier
      netSupplierInfo).supplier supplier = world.supplier supplier :=
    Heap.cell_set_of_ne _ _ other
  unfold Network.updateNetSupplierInfo
  dsimp only
  split
  · exact ⟨kept, rfl, fun _ allocated => ⟨allocated, rfl⟩, [], (List.append_nil _).symm,
      fun _ member => absurd member List.not_mem_nil⟩
  · refine ⟨kept, Heap.cell_set_of_ne _ _ different, fun _ allocated => ⟨allocated, rfl⟩, _,
      rfl, fun call member same => ?_⟩
    rw [List.mem_singleton.mp member] at same
    exact apart (Option.some.inj same)

end World.Spares

/-! ### Services of a network -/

namespace Registry

/-- The listed services of a network, in order. -/
def servicesOf (registry : Registry) (network : Ref Network) : List (Ref NetService) :=
  registry.netServices.filter fun service =>
    decide ((registry.service service).network = network)

namespace WellFormed

variable {registry : Registry}

/-- A removal takes no service of another network. -/
theorem servicesOf_remove (wellFormed : registry.WellFormed) {supplierId : UInt32}
    {this network : Ref Network} (found : registry.networkOfId supplierId = some this)
    (different : network ≠ this) :
    (registry.remove supplierId this).servicesOf network = registry.servicesOf network := by
  have listed : this ∈ registry.networks := List.mem_of_find?_eq_some found
  show (registry.netServices.filter _).filter _ = registry.netServices.filter _
  rw [List.filter_filter]
  refine List.filter_congr fun service member => ?_
  by_cases own : (registry.service service).network = network
  · have apart : registry.sameNetwork (registry.service service).network this = false := by
      rw [Bool.eq_false_iff, Ne, wellFormed.sameNetwork_iff (wellFormed.owners service member)
        listed, own]
      exact different
    rw [apart, Bool.not_false, Bool.and_true]
    rfl
  · have dropped : decide ((registry.service service).network = network) = false :=
      decide_eq_false own
    rw [dropped]
    exact Bool.and_eq_false_imp.mpr fun kept => absurd (of_decide_eq_true kept) own

/-- Listed networks have net ids of the range, and different ones. -/
theorem netId_apart (wellFormed : registry.WellFormed)
    (few : registry.identities.suppliers.size ≤ NetIdManager.capacity) {this network : Ref Network}
    (thisListed : this ∈ registry.networks) (listed : network ∈ registry.networks)
    (different : network ≠ this) :
    0 ≤ (registry.network this).netId ∧ (registry.network this).netId ≤ maxNetId ∧
      (registry.network this).netId ≠ (registry.network network).netId := by
  have thisAllocated := wellFormed.networks this thisListed
  have identity : registry.network this = _ := wellFormed.identities.network this thisAllocated
  refine ⟨?_, ?_, fun same => ?_⟩
  · rw [identity]
    exact (NetIdManager.netIdAt_bounds _).1
  · rw [identity]
    exact (NetIdManager.netIdAt_bounds _).2
  · exact different (wellFormed.netId_injective few thisAllocated
      (wellFormed.networks network listed) same).symm

/-- A new service of one network is no service of another. -/
theorem servicesOf_addService (wellFormed : registry.WellFormed) (ident : String)
    (type : NetworkType) {this network : Ref Network} (netCapability : NetCapabilities)
    (different : network ≠ this) :
    (registry.addService ident type netCapability this).servicesOf network =
      registry.servicesOf network := by
  show (registry.netServices ++ [registry.identities.services.fresh]).filter _ =
    registry.netServices.filter _
  rw [List.filter_append]
  have old : registry.netServices.filter (fun service => decide
      (((registry.addService ident type netCapability this).service service).network =
        network)) = registry.servicesOf network := by
    refine List.filter_congr fun service member => ?_
    rw [registry.service_addService ident type netCapability this
      (wellFormed.services service member)]
  have new : [registry.identities.services.fresh].filter (fun service => decide
      (((registry.addService ident type netCapability this).service service).network =
        network)) = [] := by
    refine List.filter_cons_of_neg ?_
    rw [service_addService_fresh, decide_eq_true_iff]
    exact fun same => different same.symm
  rw [old, new, List.append_nil]
  rfl

/-- A capability update of one network leaves the services of the others. -/
theorem servicesOf_updateCapability (wellFormed : registry.WellFormed)
    (few : registry.identities.suppliers.size ≤ NetIdManager.capacity) (ident : String)
    (type : NetworkType) {this network : Ref Network} (netCapability : NetCapabilities)
    (netCapabilities : UInt64) (thisListed : this ∈ registry.networks)
    (listed : network ∈ registry.networks) (different : network ≠ this) :
    (registry.updateCapability ident type this netCapability netCapabilities).servicesOf
      network = registry.servicesOf network := by
  unfold Registry.updateCapability
  dsimp only
  split
  · split
    · rfl
    · exact wellFormed.servicesOf_addService ident type netCapability different
  · split
    · have apart : ∀ service ∈ registry.netServices,
          registry.isServiceOf (registry.network this).netId netCapability service = true →
            decide ((registry.service service).network = network) = false := by
        intro service member hit
        refine decide_eq_false fun own => ?_
        unfold isServiceOf at hit
        rw [Bool.and_eq_true, beq_iff_eq, own] at hit
        exact (wellFormed.netId_apart few thisListed listed different).2.2 hit.1.symm
      exact filter_eraseP apart
    · rfl

theorem servicesOf_updateCapabilities (wellFormed : registry.WellFormed)
    (few : registry.identities.suppliers.size ≤ NetIdManager.capacity) {supplierId : UInt32}
    (netCapabilities : UInt64) {network : Ref Network} (listed : network ∈ registry.networks)
    (different : ∀ this,
      (∃ supplier, registry.supplierAndNetwork supplierId = .ok (supplier, this)) →
        network ≠ this) :
    (registry.updateCapabilities supplierId netCapabilities).servicesOf network =
      registry.servicesOf network := by
  unfold Registry.updateCapabilities
  cases found : registry.supplierAndNetwork supplierId with
  | error code => rfl
  | ok pair =>
    obtain ⟨supplier, this⟩ := pair
    have thisListed := wellFormed.listed_ok found
    have apart := different this ⟨supplier, found⟩
    have membership := registry.membership_updateCapability (registry.supplier supplier).ident
      (registry.supplier supplier).type this .internet netCapabilities
    have internet := wellFormed.updateCapability (registry.supplier supplier).ident
      (registry.supplier supplier).type this .internet netCapabilities
      (wellFormed.labelled_ok found (Or.inl rfl)) thisListed
    have suppliers := congrArg Membership.suppliers membership
    have networks : (registry.updateCapability (registry.supplier supplier).ident
        (registry.supplier supplier).type this .internet netCapabilities).networks =
          registry.networks := congrArg Membership.networks membership
    dsimp only
    rw [internet.servicesOf_updateCapability (le_of_eq_of_le (congrArg Heap.size suppliers) few)
        _ _ .mms netCapabilities (by rw [networks]; exact thisListed)
        (by rw [networks]; exact listed) apart,
      wellFormed.servicesOf_updateCapability few _ _ .internet netCapabilities thisListed listed
        apart]

end WellFormed

end Registry

/-! ### Isolation -/

namespace NetConnService

/-- The listed services of a network, in order. -/
def servicesOf (state : NetConnService) (network : Ref Network) : List (Ref NetService) :=
  state.netServices.filter fun service =>
    decide ((state.world.service service).network = network)

/-- Between the two states nothing changed for a registered supplier and its network: not the
record, the network, the services or what they hold, and netd was not told about its net id. -/
structure Untouched (before after : NetConnService) (supplier : Ref NetSupplier)
    (network : Ref Network) : Prop where
  registered : supplier ∈ after.netSupplier
  record : after.world.supplier supplier = before.world.supplier supplier
  listed : network ∈ after.networks
  object : after.world.network network = before.world.network network
  services : after.servicesOf network = before.servicesOf network
  serviceObjects : ∀ service ∈ before.servicesOf network,
    after.world.service service = before.world.service service
  netd : ∃ issued, after.world.netdCalls = before.world.netdCalls ++ issued ∧
    ∀ call ∈ issued, call.netId? ≠ some (before.world.network network).netId

variable {state : NetConnService} {supplier : Ref NetSupplier} {network : Ref Network}

theorem Untouched.of_spares {after : NetConnService} (wellFormed : state.registry.WellFormed)
    (spares : state.world.Spares after.world supplier network)
    (registered : supplier ∈ after.netSupplier) (listed : network ∈ after.networks)
    (services : after.registry.servicesOf network = state.registry.servicesOf network) :
    state.Untouched after supplier network := by
  refine ⟨registered, spares.record, listed, spares.object, services, ?_, spares.netd⟩
  intro service member
  have allocated := wellFormed.services service (List.mem_filter.mp member).1
  exact (spares.services service allocated).2

theorem Untouched.refl (registered : supplier ∈ state.netSupplier)
    (listed : network ∈ state.networks) : state.Untouched state supplier network :=
  ⟨registered, rfl, listed, rfl, rfl, fun _ _ => rfl, appended_refl state.world.netdCalls⟩

/-- A write of the world that spares the supplier and keeps the registry leaves it untouched. -/
theorem Untouched.of_world (wellFormed : state.registry.WellFormed)
    (registered : supplier ∈ state.netSupplier) (listed : network ∈ state.networks)
    {world : World} (spares : state.world.Spares world supplier network)
    (same : { state with world := world }.registry = state.registry) :
    state.Untouched { state with world := world } supplier network :=
  .of_spares wellFormed spares registered listed
    (congrArg (fun registry => registry.servicesOf network) same)

/-- A network whose supplier has another id is not the one found for the id. -/
theorem network_ne {supplierId : UInt32} {this : Ref Network}
    (found : state.registry.supplierOfId supplierId = some (state.registry.network this).supplier)
    (other : (state.world.supplier (state.world.network network).supplier).supplierId ≠
      supplierId) :
    (state.world.network network).supplier ≠ (state.world.network this).supplier ∧
      network ≠ this := by
  have sameId : supplierId =
      (state.world.supplier (state.world.network this).supplier).supplierId :=
    (Registry.WellFormed.supplierOfId_spec found).2
  have suppliers : (state.world.network network).supplier ≠
      (state.world.network this).supplier := by
    intro same
    rw [sameId, same] at other
    exact other rfl
  refine ⟨suppliers, fun same => ?_⟩
  rw [same] at suppliers
  exact suppliers rfl

theorem unregister_untouched (wellFormed : state.registry.WellFormed)
    (few : state.createdSuppliers ≤ NetIdManager.capacity) {supplierId : UInt32}
    (listed : network ∈ state.networks)
    (other : (state.world.supplier (state.world.network network).supplier).supplierId ≠
      supplierId) :
    state.Untouched (state.step (.unregisterNetSupplier supplierId))
      (state.world.network network).supplier network := by
  have registered := wellFormed.supplier_listed listed
  cases wellFormed.change (.unregisterNetSupplier supplierId) with
  | kept _ known unknown same =>
    have missing : state.getNetSupplierFromListById supplierId = none := unknown supplierId rfl
    have unchanged : state.step (.unregisterNetSupplier supplierId) = state := by
      simp only [step, perform, unregisterNetSupplier, missing]
    rw [unchanged]
    exact .refl registered listed
  | removed _ this supplierFound networkFound same =>
    obtain ⟨suppliers, different⟩ := network_ne supplierFound other
    obtain ⟨low, high, apart⟩ := wellFormed.netId_apart few
      (List.mem_of_find?_eq_some networkFound) listed different
    have after : (state.step (.unregisterNetSupplier supplierId)).registry =
        state.registry.remove supplierId this := by
      rw [registry_step, same]
    have spares : state.world.Spares (state.step (.unregisterNetSupplier supplierId)).world
        (state.world.network network).supplier network := by
      have byId : state.getNetSupplierFromListById supplierId = some _ := supplierFound
      have owned : state.getNetworkFromListBySupplierId supplierId = some this := networkFound
      simp only [step, perform, unregisterNetSupplier, byId, owned]
      unfold dropNetwork
      split
      · exact .refl _ _ _
      · exact .destroy low high apart
    refine .of_spares wellFormed spares ?_ ?_ ?_
    · show _ ∈ (state.step (.unregisterNetSupplier supplierId)).registry.netSupplier
      rw [after]
      exact (wellFormed.mem_netSupplier_remove supplierFound this _).mpr ⟨registered, suppliers⟩
    · show _ ∈ (state.step (.unregisterNetSupplier supplierId)).registry.networks
      rw [after]
      exact (wellFormed.mem_networks_remove networkFound _).mpr ⟨listed, different⟩
    · rw [after]
      exact wellFormed.servicesOf_remove networkFound different

theorem updateNetSupplierInfo_untouched (wellFormed : state.registry.WellFormed)
    (few : state.createdSuppliers ≤ NetIdManager.capacity) {supplierId : UInt32}
    (listed : network ∈ state.networks)
    (other : (state.world.supplier (state.world.network network).supplier).supplierId ≠
      supplierId) (netSupplierInfo : Option NetSupplierInfo) :
    state.Untouched (state.updateNetSupplierInfo supplierId netSupplierInfo).2
      (state.world.network network).supplier network := by
  have registered := wellFormed.supplier_listed listed
  unfold updateNetSupplierInfo
  cases netSupplierInfo with
  | none => exact .refl registered listed
  | some netSupplierInfo =>
    dsimp only
    cases found : state.getSupplierAndNetwork supplierId with
    | error code => exact .refl registered listed
    | ok pair =>
      obtain ⟨owner, this⟩ := pair
      obtain ⟨byId, owned, rfl⟩ := wellFormed.supplierAndNetwork_ok found
      obtain ⟨suppliers, different⟩ := network_ne byId other
      obtain ⟨_, _, apart⟩ := wellFormed.netId_apart few
        (List.mem_of_find?_eq_some owned) listed different
      exact .of_world wellFormed registered listed
        (.updateNetSupplierInfo suppliers apart netSupplierInfo)
        (registry_withWorld state _ (Network.identities_updateNetSupplierInfo _ _ _))

theorem updateNetLinkInfo_untouched (wellFormed : state.registry.WellFormed)
    (few : state.createdSuppliers ≤ NetIdManager.capacity) {supplierId : UInt32}
    (listed : network ∈ state.networks)
    (other : (state.world.supplier (state.world.network network).supplier).supplierId ≠
      supplierId) (netLinkInfo : Option NetLinkInfo) :
    state.Untouched (state.updateNetLinkInfo supplierId netLinkInfo).2
      (state.world.network network).supplier network := by
  have registered := wellFormed.supplier_listed listed
  unfold updateNetLinkInfo
  cases netLinkInfo with
  | none => exact .refl registered listed
  | some netLinkInfo =>
    dsimp only
    cases found : state.getSupplierAndNetwork supplierId with
    | error code => exact .refl registered listed
    | ok pair =>
      obtain ⟨owner, this⟩ := pair
      obtain ⟨byId, owned, rfl⟩ := wellFormed.supplierAndNetwork_ok found
      obtain ⟨_, different⟩ := network_ne byId other
      obtain ⟨low, high, apart⟩ := wellFormed.netId_apart few
        (List.mem_of_find?_eq_some owned) listed different
      exact .of_world wellFormed registered listed
        (.updateNetLinkInfo low high apart netLinkInfo)
        (registry_withWorld state _ (Network.identities_updateNetLinkInfo _ _ _))

/-- A capability update writes no object that exists and calls nobody. -/
theorem updateCapability_spares (state : NetConnService) (ident : String) (type : NetworkType)
    (this : Ref Network) (netCapability : NetCapabilities) (netCapabilities : UInt64)
    (supplier : Ref NetSupplier) (network : Ref Network) :
    state.world.Spares
      (state.updateCapability ident type this netCapability netCapabilities).world
        supplier network := by
  unfold updateCapability
  dsimp only
  split
  · split
    · exact .refl _ _ _
    · exact ⟨rfl, rfl, fun service allocated =>
        ⟨state.world.serviceHeap.allocated_alloc _ allocated,
          state.world.serviceHeap.cell_alloc_of_allocated _ allocated⟩, [],
        (List.append_nil _).symm, fun _ member => absurd member List.not_mem_nil⟩
  · split
    · exact .refl _ _ _
    · exact .refl _ _ _

theorem updateNetCapabilities_spares (state : NetConnService) (supplierId : UInt32)
    (netCapabilities : UInt64) (supplier : Ref NetSupplier) (network : Ref Network) :
    state.world.Spares (state.updateNetCapabilities supplierId netCapabilities).2.world
      supplier network := by
  unfold updateNetCapabilities
  cases state.getSupplierAndNetwork supplierId with
  | error code => exact .refl _ _ _
  | ok pair =>
    exact (updateCapability_spares state _ _ pair.2 .internet netCapabilities _ network).trans
      (updateCapability_spares _ _ _ pair.2 .mms netCapabilities _ network)

theorem updateNetCapabilities_untouched (wellFormed : state.registry.WellFormed)
    (few : state.createdSuppliers ≤ NetIdManager.capacity) {supplierId : UInt32}
    (listed : network ∈ state.networks)
    (other : (state.world.supplier (state.world.network network).supplier).supplierId ≠
      supplierId) (netCapabilities : UInt64) :
    state.Untouched (state.updateNetCapabilities supplierId netCapabilities).2
      (state.world.network network).supplier network := by
  have after := registry_updateNetCapabilities state supplierId netCapabilities
  have membership := state.registry.membership_updateCapabilities supplierId netCapabilities
  refine .of_spares wellFormed
    (updateNetCapabilities_spares state supplierId netCapabilities _ network) ?_ ?_ ?_
  · show _ ∈ (state.updateNetCapabilities supplierId netCapabilities).2.registry.netSupplier
    rw [after, show Registry.netSupplier _ = _ from congrArg Membership.netSupplier membership]
    exact wellFormed.supplier_listed listed
  · show _ ∈ (state.updateNetCapabilities supplierId netCapabilities).2.registry.networks
    rw [after, show Registry.networks _ = _ from congrArg Membership.networks membership]
    exact listed
  · rw [after]
    refine wellFormed.servicesOf_updateCapabilities few netCapabilities listed fun this found => ?_
    obtain ⟨owner, found⟩ := found
    obtain ⟨byId, _, rfl⟩ := wellFormed.supplierAndNetwork_ok found
    exact (network_ne byId other).2

/-- In every state of a run that has created at most as many suppliers as there are net ids, a
request on one supplier leaves every other registered supplier untouched. -/
theorem untouched_run (answers : Nat → Int) (actions : List Action)
    (few : (run step (start answers) actions).createdSuppliers ≤ 64512) (supplierId : UInt32)
    (request : Action) (names : request.supplierId? = some supplierId) :
    ∀ supplier ∈ (run step (start answers) actions).netSupplier,
      ((run step (start answers) actions).world.supplier supplier).supplierId ≠ supplierId →
        ∃ network ∈ (run step (start answers) actions).networks,
          ((run step (start answers) actions).world.network network).supplier = supplier ∧
            (run step (start answers) actions).Untouched
              (step (run step (start answers) actions) request) supplier network := by
  have wellFormed := run_wellFormed answers actions
  intro supplier registered other
  obtain ⟨network, listed, rfl⟩ := wellFormed.exists_network registered
  refine ⟨network, listed, rfl, ?_⟩
  cases request with
  | unregisterNetSupplier id =>
    obtain rfl : id = supplierId := Option.some.inj names
    exact unregister_untouched wellFormed few listed other
  | updateNetSupplierInfo id netSupplierInfo =>
    obtain rfl : id = supplierId := Option.some.inj names
    exact updateNetSupplierInfo_untouched wellFormed few listed other netSupplierInfo
  | updateNetCapabilities id netCapabilities =>
    obtain rfl : id = supplierId := Option.some.inj names
    exact updateNetCapabilities_untouched wellFormed few listed other netCapabilities
  | updateNetLinkInfo id netLinkInfo =>
    obtain rfl : id = supplierId := Option.some.inj names
    exact updateNetLinkInfo_untouched wellFormed few listed other netLinkInfo
  | registerNetSupplier _ _ _ => exact absurd names (Option.some_ne_none _).symm
  | registerNetConnCallback _ => exact absurd names (Option.some_ne_none _).symm
  | registerNetConnCallbackBySpecifier _ _ => exact absurd names (Option.some_ne_none _).symm
  | unregisterNetConnCallback _ => exact absurd names (Option.some_ne_none _).symm
  | unregisterNetConnCallbackBySpecifier _ _ => exact absurd names (Option.some_ne_none _).symm
  | reConnectServiceTask => exact absurd names (Option.some_ne_none _).symm

/-- Updating the link information of the first of two suppliers leaves the second untouched. -/
theorem untouched_example :
    ∃ network ∈ (run step (start fun _ => 1) [.registerNetSupplier 1 "slot0" 1,
        .registerNetSupplier 2 "eth0" 1]).networks,
      ((run step (start fun _ => 1) [.registerNetSupplier 1 "slot0" 1,
          .registerNetSupplier 2 "eth0" 1]).world.network network).supplier = ⟨1⟩ ∧
        (run step (start fun _ => 1) [.registerNetSupplier 1 "slot0" 1,
            .registerNetSupplier 2 "eth0" 1]).Untouched
          (step (run step (start fun _ => 1) [.registerNetSupplier 1 "slot0" 1,
            .registerNetSupplier 2 "eth0" 1])
            (.updateNetLinkInfo 1003 (some { ifaceName := "rmnet0", mtu := 1500 })))
          ⟨1⟩ network :=
  untouched_run _ _ (by decide) 1003 _ rfl ⟨1⟩ (by decide) (by decide)

end NetConnService

end NetManager
