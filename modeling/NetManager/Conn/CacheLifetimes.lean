/-
This file follows the networks through their lives in netd. The constructor of a network creates
the cache of its net id and the destructor destroys it, when the last owner drops the network: the
list of networks, a service, or the default service. So what netd is told under a net id is one
lifetime. The cache is created first, it is not destroyed before the last owner is gone and not
left when it is, and there are no calls under a net id that was not given out.
-/

import NetManager.Conn.Isolation
import NetManager.Conn.NetdMirror
import NetManager.Library.Lifetimes

namespace NetManager

open Library

/-- What a call does to the network of its net id. -/
def NetdCall.lifeEvent : NetdCall → Option (LifeEvent Int)
  | .createNetworkCache netId => some (.create netId.toNat)
  | .destoryNetworkCache netId => some (.destroy netId.toNat)
  | call => call.netId?.map .use

/-! ### Owners -/

namespace Registry

variable {registry : Registry}

/-- The list of networks or the default service owns the network. -/
def Holds (registry : Registry) (network : Ref Network) : Prop :=
  network ∈ registry.networks ∨ ∃ service, registry.defaultNetService = some service ∧
    (registry.service service).network = network

/-- The net ids that were given out, and those of the networks that have an owner. -/
def population (registry : Registry) : Population Int where
  created := {netId | ∃ network, registry.identities.networks.Allocated network ∧
    (network.address : Int) = netId}
  living := {netId | ∃ network, registry.Holds network ∧ (network.address : Int) = netId}

theorem mem_living (registry : Registry) (network : Ref Network) :
    (network.address : Int) ∈ registry.population.living ↔ registry.Holds network := by
  constructor
  · rintro ⟨other, holds, same⟩
    obtain rfl : other = network := Ref.ext (Int.ofNat.inj same)
    exact holds
  · exact fun holds => ⟨network, holds, rfl⟩

theorem mem_created (registry : Registry) (network : Ref Network) :
    (network.address : Int) ∈ registry.population.created ↔
      registry.identities.networks.Allocated network := by
  constructor
  · rintro ⟨other, allocated, same⟩
    obtain rfl : other = network := Ref.ext (Int.ofNat.inj same)
    exact allocated
  · exact fun allocated => ⟨network, allocated, rfl⟩

/-- The population is determined by which networks there are and which of them have an owner. -/
theorem population_congr {other : Registry}
    (size : other.identities.networks.size = registry.identities.networks.size)
    (holds : ∀ network, other.Holds network ↔ registry.Holds network) :
    other.population = registry.population := by
  unfold population Heap.Allocated
  simp only [size, holds]

/-- A new service does not change who owns a network, unless it becomes the default one. -/
theorem population_addService (selected : ∀ service, registry.defaultNetService = some service →
      registry.identities.services.Allocated service) (ident : String) (type : NetworkType)
    (netCapability : NetCapabilities) (network : Ref Network) :
    (registry.addService ident type netCapability network).population = registry.population := by
  refine population_congr rfl fun other => or_congr_right (exists_congr fun service => ?_)
  refine and_congr_right fun default => ?_
  rw [service_addService registry ident type netCapability network (selected service default)]

/-- The net ids of the listed networks. -/
def listed (registry : Registry) : Set Int :=
  {netId | ∃ network ∈ registry.networks, (network.address : Int) = netId}

/-- Without a default service only the list of networks owns networks. -/
theorem living_of_none (unselected : registry.defaultNetService = none) :
    registry.population.living = registry.listed := by
  ext netId
  constructor
  · rintro ⟨network, member | ⟨service, selected, _⟩, rfl⟩
    · exact ⟨network, member, rfl⟩
    · exact absurd (selected.symm.trans unselected) (Option.some_ne_none service)
  · rintro ⟨network, member, rfl⟩
    exact ⟨network, Or.inl member, rfl⟩

/-- The default service owns its network besides. -/
theorem living_of_some {service : Ref NetService}
    (selected : registry.defaultNetService = some service) :
    registry.population.living =
      insert ((registry.service service).network.address : Int) registry.listed := by
  ext netId
  constructor
  · rintro ⟨network, member | ⟨other, same, rfl⟩, rfl⟩
    · exact Or.inr ⟨network, member, rfl⟩
    · obtain rfl : other = service := Option.some.inj (same.symm.trans selected)
      exact Or.inl rfl
  · rintro (rfl | ⟨network, member, rfl⟩)
    · exact ⟨_, Or.inr ⟨service, selected, rfl⟩, rfl⟩
    · exact ⟨network, Or.inl member, rfl⟩

/-- A new default service owns its network and nothing else. -/
theorem population_addDefaultService (registry : Registry) (ident : String) (type : NetworkType)
    (network : Ref Network) :
    (registry.addDefaultService ident type network).population =
      ⟨registry.population.created, insert (network.address : Int) registry.listed⟩ := by
  refine congrArg (Population.mk _) ?_
  have own : ((registry.addDefaultService ident type network).service
      registry.identities.services.fresh).network = network :=
    congrArg ServiceIdentity.network
      (registry.service_addService_fresh ident type .internet network)
  have selected : (registry.addDefaultService ident type network).defaultNetService =
      some registry.identities.services.fresh := rfl
  refine (living_of_some selected).trans ?_
  rw [own]
  rfl

/-- A listed network has an owner. -/
theorem population_enlist (registry : Registry) (supplier : Ref NetSupplier)
    (network : Ref Network) :
    (registry.enlist supplier network).population =
      registry.population.also network.address := by
  refine congrArg (Population.mk _) (Set.ext fun netId => ?_)
  constructor
  · rintro ⟨other, member | selected, rfl⟩
    · rcases List.mem_append.mp member with listed | new
      · exact Or.inr ⟨other, Or.inl listed, rfl⟩
      · rw [List.mem_singleton.mp new]
        exact Or.inl rfl
    · exact Or.inr ⟨other, Or.inr selected, rfl⟩
  · rintro (rfl | ⟨other, listed | selected, rfl⟩)
    · exact ⟨network, Or.inl (List.mem_append_right _ (List.mem_singleton_self _)), rfl⟩
    · exact ⟨other, Or.inl (List.mem_append_left _ listed), rfl⟩
    · exact ⟨other, Or.inr selected, rfl⟩

/-- The network that `RegisterNetSupplier` constructs is born, and belongs to the caller at
first. -/
theorem population_construct (registry : Registry) (type : NetworkType) (ident : String) :
    (registry.construct type ident).population.also registry.identities.networks.fresh.address =
      registry.population.step (.create registry.identities.networks.fresh.address) := by
  refine congrArg (fun created => Population.mk created _) (Set.ext fun netId => ?_)
  constructor
  · rintro ⟨network, allocated, rfl⟩
    rcases (Heap.allocated_alloc_iff _ _ network).mp allocated with earlier | rfl
    · exact Or.inr ⟨network, earlier, rfl⟩
    · exact Or.inl rfl
  · rintro (rfl | ⟨network, earlier, rfl⟩)
    · exact ⟨_, registry.identities.networks.allocated_fresh _, rfl⟩
    · exact ⟨network, registry.identities.networks.allocated_alloc _ earlier, rfl⟩

/-- The network of the supplier that is removed may only belong to the default service still. -/
theorem population_remove (wellFormed : registry.WellFormed) {supplierId : UInt32}
    {network : Ref Network} (found : registry.networkOfId supplierId = some network) :
    (registry.remove supplierId network).population.also network.address =
      registry.population := by
  refine congrArg (Population.mk _) (Set.ext fun netId => ?_)
  constructor
  · rintro (rfl | ⟨other, listed | selected, rfl⟩)
    · exact ⟨network, Or.inl (List.mem_of_find?_eq_some found), rfl⟩
    · exact ⟨other, Or.inl ((wellFormed.mem_networks_remove found other).mp listed).1, rfl⟩
    · exact ⟨other, Or.inr selected, rfl⟩
  · rintro ⟨other, listed | selected, rfl⟩
    · by_cases same : other = network
      · exact Or.inl (congrArg (fun network => (Ref.address network : Int)) same)
      · exact Or.inr ⟨other, Or.inl ((wellFormed.mem_networks_remove found other).mpr
          ⟨listed, same⟩), rfl⟩
    · exact Or.inr ⟨other, Or.inr selected, rfl⟩

/-- A capability update keeps the list of networks and the default service. -/
theorem population_updateCapability (selected : ∀ service,
      registry.defaultNetService = some service →
        registry.identities.services.Allocated service) (ident : String) (type : NetworkType)
    (network : Ref Network) (netCapability : NetCapabilities) (netCapabilities : UInt64) :
    let after := registry.updateCapability ident type network netCapability netCapabilities
    after.population = registry.population ∧ ∀ service, after.defaultNetService = some service →
      after.identities.services.Allocated service := by
  intro after
  have cells (service : Ref NetService) (default : registry.defaultNetService = some service) :=
    registry.service_updateCapability ident type network netCapability netCapabilities
      (selected service default)
  obtain ⟨services, netServices, same⟩ := registry.updateCapability_keeps ident type network
    netCapability netCapabilities
  have networks : after.networks = registry.networks := by rw [show after = _ from same]
  have default : after.defaultNetService = registry.defaultNetService := by
    rw [show after = _ from same]
  have size : after.identities.networks.size = registry.identities.networks.size := by
    rw [show after = _ from same]
  refine ⟨population_congr size fun other => ?_, fun service chosen => ?_⟩
  · unfold Holds
    rw [networks, default]
    refine or_congr_right (exists_congr fun service => and_congr_right fun chosen => ?_)
    rw [(cells service chosen).1]
  · exact (cells service (default.symm.trans chosen)).2

/-- An owned network was constructed. -/
theorem WellFormed.allocated (wellFormed : registry.WellFormed) {network : Ref Network}
    (holds : registry.Holds network) : registry.identities.networks.Allocated network := by
  rcases holds with listed | ⟨service, selected, rfl⟩
  · exact wellFormed.networks network listed
  · exact (wellFormed.identities.service service (wellFormed.default service selected).1).network

end Registry

namespace NetConnService

/-- The services own listed networks only, apart from the default one. -/
theorem holdsNetwork_iff {state : NetConnService}
    (owned : ∀ service ∈ state.netServices,
      (state.world.service service).network ∈ state.networks ∨
        state.defaultNetService = some service) (network : Ref Network) :
    state.holdsNetwork network = true ↔ state.registry.Holds network := by
  unfold holdsNetwork Registry.Holds
  rw [Bool.or_eq_true, Bool.or_eq_true, decide_eq_true_iff, List.any_eq_true,
    Option.any_eq_true]
  constructor
  · rintro ((listed | ⟨service, member, same⟩) | ⟨service, selected, same⟩)
    · exact Or.inl listed
    · rcases owned service member with listed | selected
      · exact Or.inl (eq_of_beq same ▸ listed)
      · exact Or.inr ⟨service, selected, eq_of_beq same⟩
    · exact Or.inr ⟨service, selected, eq_of_beq same⟩
  · rintro (listed | ⟨service, selected, same⟩)
    · exact Or.inl (Or.inl listed)
    · exact Or.inr ⟨service, selected, beq_iff_eq.mpr same⟩

/-- From a population and a list of calls, what is called next leads to the population of a
state. -/
def Continues (population : Population Int) (calls : List NetdCall) (after : NetConnService) :
    Prop :=
  ∃ issued, after.world.netdCalls = calls ++ issued ∧
    population.Leads (issued.filterMap NetdCall.lifeEvent) after.registry.population

theorem Continues.trans {population : Population Int} {calls : List NetdCall}
    {between after : NetConnService} (earlier : Continues population calls between)
    (later : Continues between.registry.population between.world.netdCalls after) :
    Continues population calls after := by
  obtain ⟨issued, appended, leads⟩ := earlier
  obtain ⟨more, appendedMore, leadsMore⟩ := later
  refine ⟨issued ++ more, ?_, ?_⟩
  · rw [appendedMore, appended, List.append_assoc]
  · rw [List.filterMap_append]
    exact leads.trans leadsMore

theorem Continues.of_silent {population : Population Int} {calls : List NetdCall}
    {after : NetConnService} (silent : after.world.netdCalls = calls)
    (same : after.registry.population = population) : Continues population calls after :=
  ⟨[], silent.trans (List.append_nil calls).symm, same ▸ .refl population⟩

/-- Dropping a network: it is destroyed unless it has another owner. -/
theorem dropNetwork_continues {state : NetConnService}
    (owned : ∀ service ∈ state.netServices,
      (state.world.service service).network ∈ state.networks ∨
        state.defaultNetService = some service) {network : Ref Network}
    (netId : ((asUInt16 (state.world.network network).netId).toNat : Int) = network.address) :
    Continues (state.registry.population.also network.address) state.world.netdCalls
      (state.dropNetwork network) := by
  by_cases held : state.holdsNetwork network = true
  · have holds := (state.registry.mem_living network).mpr ((holdsNetwork_iff owned network).mp held)
    refine .of_silent ?_ ?_
    · unfold dropNetwork
      rw [if_pos held]
    · rw [registry_dropNetwork, Population.also_of_mem holds]
  · have unheld := mt (state.registry.mem_living network).mp
      (mt (holdsNetwork_iff owned network).mpr held)
    refine ⟨[.destoryNetworkCache (asUInt16 (state.world.network network).netId)], ?_, ?_⟩
    · unfold dropNetwork
      rw [if_neg held]
      rfl
    · have event : [NetdCall.destoryNetworkCache
          (asUInt16 (state.world.network network).netId)].filterMap NetdCall.lifeEvent =
            [.destroy (network.address : Int)] := by
        rw [← netId]
        rfl
      rw [event, registry_dropNetwork]
      exact .destroy unheld

/-! ### Registrations -/

/-- The number of a network survives the conversion to the `uint16_t` of the resolver calls. -/
theorem asUInt16_number {count : Nat} (room : count < NetIdManager.capacity) :
    ((asUInt16 (count : Int)).toNat : Int) = count := by
  refine asUInt16_netId (Int.natCast_nonneg _) ?_
  rw [NetIdManager.maxNetId_eq]
  rw [NetIdManager.capacity_eq] at room
  omega

/-- The net id of a network is its number. -/
theorem netId_number {state : NetConnService} (wellFormed : state.registry.WellFormed)
    (few : state.createdSuppliers ≤ NetIdManager.capacity) {network : Ref Network}
    (allocated : state.registry.identities.networks.Allocated network) :
    (state.world.network network).netId = network.address ∧
      ((asUInt16 (network.address : Int)).toNat : Int) = network.address := by
  have created : network.address < state.createdSuppliers :=
    Nat.lt_of_lt_of_eq allocated wellFormed.identities.paired
  exact ⟨wellFormed.netId_eq few allocated, asUInt16_number (Nat.lt_of_lt_of_le created few)⟩

/-- The services own listed networks, and the network of the default service has its number as net
id. -/
structure Owners (state : NetConnService) : Prop where
  services : ∀ service ∈ state.netServices,
    state.registry.identities.services.Allocated service ∧
      (state.world.service service).network ∈ state.networks
  default : ∀ service, state.defaultNetService = some service →
    state.registry.identities.services.Allocated service ∧
      ((asUInt16 (state.world.network (state.world.service service).network).netId).toNat : Int) =
        (state.world.service service).network.address

/-- A new default service: the network of the one it replaces is dropped. -/
theorem addDefaultService_continues {state : NetConnService} (owners : state.Owners)
    (ident : String) (type : NetworkType) (network : Ref Network) :
    Continues (state.registry.population.also network.address) state.world.netdCalls
      (state.addDefaultService ident type network) := by
  have base := state.registry.population_addDefaultService ident type network
  rw [← registry_addDefaultService] at base
  have kept {service : Ref NetService}
      (allocated : state.registry.identities.services.Allocated service) :
      (state.addService ident type .internet network).world.service service =
        state.world.service service :=
    state.world.serviceHeap.cell_alloc_of_allocated _ allocated
  cases selected : state.defaultNetService with
  | none =>
    have assigned : state.addDefaultService ident type network =
        { state.addService ident type .internet network with
          defaultNetService := some state.world.serviceHeap.fresh } := by
      unfold addDefaultService assignDefaultNetService
      rw [show (state.addService ident type .internet network).defaultNetService = none from
        selected]
    refine .of_silent (by rw [assigned]; rfl) ?_
    rw [base]
    unfold Population.also
    rw [Registry.living_of_none selected]
  | some replaced =>
    let assigned : NetConnService :=
      { state.addService ident type .internet network with
        defaultNetService := some state.world.serviceHeap.fresh }
    obtain ⟨allocated, netId⟩ := owners.default replaced selected
    have dropped : state.addDefaultService ident type network =
        assigned.dropNetwork (state.world.service replaced).network := by
      unfold addDefaultService assignDefaultNetService
      rw [show (state.addService ident type .internet network).defaultNetService =
        some replaced from selected]
      dsimp only
      rw [kept allocated]
    have owned : ∀ service ∈ assigned.netServices,
        (assigned.world.service service).network ∈ assigned.networks ∨
          assigned.defaultNetService = some service := by
      intro service member
      rcases List.mem_append.mp member with earlier | new
      · obtain ⟨known, listed⟩ := owners.services service earlier
        exact Or.inl ((kept known).symm ▸ listed)
      · exact Or.inr (congrArg some (List.mem_singleton.mp new).symm)
    have before : state.registry.population.also network.address =
        assigned.registry.population.also (state.world.service replaced).network.address := by
      rw [dropped, registry_dropNetwork] at base
      rw [base]
      unfold Population.also
      rw [Registry.living_of_some selected, Set.insert_comm]
      rfl
    rw [before, dropped]
    exact dropNetwork_continues owned netId

/-- A service that does not become the default one drops nothing, and neither does saving the
supplier and its network. -/
theorem saved_silent {state : NetConnService}
    (selected : ∀ service, state.defaultNetService = some service →
      state.registry.identities.services.Allocated service) (ident : String) (type : NetworkType)
    (asked : Bool) (supplier : Ref NetSupplier) (network : Ref Network) :
    let created := if asked then state.addService ident type .mms network else state
    let saved : NetConnService :=
      { created with
        netSupplier := created.netSupplier ++ [supplier]
        networks := created.networks ++ [network] }
    saved.world.netdCalls = state.world.netdCalls ∧
      saved.registry.population = state.registry.population.also network.address := by
  intro created saved
  have enlisted : saved.registry.population = created.registry.population.also network.address :=
    created.registry.population_enlist supplier network
  rw [enlisted]
  cases asked with
  | false => exact ⟨rfl, rfl⟩
  | true =>
    refine ⟨rfl, congrArg (Population.also · _) ?_⟩
    rw [show created = state.addService ident type .mms network from rfl, registry_addService]
    exact Registry.population_addService selected ident type .mms network

/-- The services of a new supplier, and the lists it is saved in. -/
theorem createServices_continues {state : NetConnService} (owners : state.Owners) (ident : String)
    (type : NetworkType) (netCapabilities : UInt64) (supplier : Ref NetSupplier)
    (network : Ref Network) :
    let created := state.createServices ident type netCapabilities network
    Continues (state.registry.population.also network.address) state.world.netdCalls
      { created with
        netSupplier := created.netSupplier ++ [supplier]
        networks := created.networks ++ [network] } := by
  unfold createServices
  dsimp only
  cases NetCapabilities.internet.isIn netCapabilities with
  | false =>
    obtain ⟨silent, same⟩ := saved_silent (fun service selected =>
      (owners.default service selected).1) ident type
      (NetCapabilities.mms.isIn netCapabilities) supplier network
    exact .of_silent silent same
  | true =>
    have internet := addDefaultService_continues owners ident type network
    have registry := registry_addDefaultService state ident type network
    have selected : ∀ service,
        (state.addDefaultService ident type network).defaultNetService = some service →
          (state.addDefaultService ident type network).registry.identities.services.Allocated
            service := by
      intro service same
      have fresh : (state.addDefaultService ident type network).registry.defaultNetService =
          some state.registry.identities.services.fresh := by rw [registry]; rfl
      obtain rfl : state.registry.identities.services.fresh = service :=
        Option.some.inj (fresh.symm.trans same)
      rw [registry]
      exact state.registry.identities.services.allocated_fresh _
    obtain ⟨silent, same⟩ := saved_silent selected ident type
      (NetCapabilities.mms.isIn netCapabilities) supplier network
    refine internet.trans (.of_silent silent (same.trans (Population.also_of_mem ?_)))
    rw [registry, Registry.population_addDefaultService]
    exact Set.mem_insert _ _

/-- The state in which `RegisterNetSupplier` creates the services: the supplier and the network are
constructed, but not in the lists. -/
theorem owners_construct {state : NetConnService} (wellFormed : state.registry.WellFormed)
    (few : state.createdSuppliers ≤ NetIdManager.capacity) (type : NetworkType) (ident : String) :
    { state with
      world := (Network.make (NetSupplier.make state.world type ident).2
        state.world.supplierHeap.fresh).2 }.Owners := by
  refine ⟨fun service member => ?_, fun service selected => ?_⟩
  · exact ⟨wellFormed.services service member, wellFormed.owners service member⟩
  · have allocated := (wellFormed.default service selected).1
    have owned : state.registry.identities.networks.Allocated
        (state.world.service service).network :=
      (wellFormed.identities.service service allocated).network
    obtain ⟨netId, number⟩ := netId_number wellFormed few owned
    have kept : ((Network.make (NetSupplier.make state.world type ident).2
        state.world.supplierHeap.fresh).2.network (state.world.service service).network) =
          state.world.network (state.world.service service).network :=
      state.world.networkHeap.cell_alloc_of_allocated _ owned
    refine ⟨allocated, ?_⟩
    show ((asUInt16 (World.network _ (state.world.service service).network).netId).toNat : Int) =
      (state.world.service service).network.address
    rw [kept, netId, number]

/-- The constructor of a network tells netd that it is born. -/
theorem lifeEvent_construct {state : NetConnService} (wellFormed : state.registry.WellFormed)
    (few : state.createdSuppliers < NetIdManager.capacity) :
    (NetdCall.createNetworkCache (asUInt16 state.world.netIdManager.reserveNetId.1)).lifeEvent =
      some (.create (state.world.networkHeap.fresh.address : Int)) := by
  have room : state.registry.identities.networks.size < NetIdManager.capacity :=
    wellFormed.identities.paired.trans_lt few
  have reserved : state.world.netIdManager.reserveNetId.1 =
      state.registry.identities.networks.size := by
    rw [show state.world.netIdManager = NetIdManager.reserved _ from wellFormed.identities.pool,
      NetIdManager.reserveNetId_reserved]
    exact NetIdManager.netIdAt_of_lt room
  rw [reserved]
  exact congrArg (fun netId => some (LifeEvent.create netId)) (asUInt16_number room)

/-- A new supplier: its network is born, and the network of the service that is replaced is
dropped. -/
theorem createSupplier_continues {state : NetConnService} (wellFormed : state.registry.WellFormed)
    (few : state.createdSuppliers < NetIdManager.capacity) (type : NetworkType) (ident : String)
    (netCapabilities : UInt64) :
    Continues state.registry.population state.world.netdCalls
      (state.createSupplier type ident netCapabilities) := by
  obtain ⟨issued, appended, leads⟩ := createServices_continues
    (owners_construct wellFormed (Nat.le_of_lt few) type ident) ident type netCapabilities
    state.world.supplierHeap.fresh state.world.networkHeap.fresh
  have born : state.registry.population.Allows
      (.create (state.world.networkHeap.fresh.address : Int)) :=
    mt (state.registry.mem_created _).mp (Nat.lt_irrefl _)
  have construct : (state.registry.construct type ident).population.also
      (state.world.networkHeap.fresh.address : Int) =
        state.registry.population.step (.create (state.world.networkHeap.fresh.address : Int)) :=
    state.registry.population_construct type ident
  refine ⟨.createNetworkCache (asUInt16 state.world.netIdManager.reserveNetId.1) :: issued, ?_, ?_⟩
  · refine appended.trans ?_
    show (state.world.netdCalls ++ [_]) ++ issued = _
    rw [List.append_assoc]
    rfl
  · rw [registry_construct, construct] at leads
    rw [List.filterMap_cons_some (lifeEvent_construct wellFormed few)]
    exact (Population.Leads.single born).trans leads

theorem connectDefaultService_continues {population : Population Int} {calls : List NetdCall}
    {state : NetConnService} (continues : Continues population calls state) :
    Continues population calls state.connectDefaultService := by
  refine continues.trans (.of_silent ?_ (congrArg _ (registry_connectDefaultService state)))
  unfold connectDefaultService
  split
  · rfl
  · rename_i service _
    have side := congrArg NetdSide.calls (World.netdSide_frame.serviceConnect state.world service)
    dsimp only
    split
    · exact side
    · exact side

theorem createdSuppliers_createSupplier (state : NetConnService) (type : NetworkType)
    (ident : String) (netCapabilities : UInt64) :
    (state.createSupplier type ident netCapabilities).connectDefaultService.createdSuppliers =
      state.createdSuppliers + 1 := by
  have created : (state.registry.create type ident netCapabilities).identities.suppliers.size =
      state.createdSuppliers + 1 :=
    Registry.createServices_keeps
      (motive := fun registry => registry.identities.suppliers.size = state.createdSuppliers + 1)
      rfl ident type netCapabilities _ id fun _ size => size
  rw [← registry_createSupplier, ← registry_connectDefaultService] at created
  exact created

theorem registerNetSupplier_continues {state : NetConnService}
    (wellFormed : state.registry.WellFormed) (netType : UInt32) (ident : String)
    (netCapabilities : UInt64)
    (few : (state.registerNetSupplier netType ident netCapabilities).2.createdSuppliers ≤
      NetIdManager.capacity) :
    Continues state.registry.population state.world.netdCalls
      (state.registerNetSupplier netType ident netCapabilities).2 := by
  unfold registerNetSupplier at few ⊢
  split
  · exact .of_silent rfl rfl
  · rename_i valid
    rw [if_neg valid] at few
    cases known : state.getNetSupplierFromList netType ident with
    | some supplier => exact .of_silent rfl rfl
    | none =>
      rw [known] at few
      dsimp only at few
      rw [createdSuppliers_createSupplier] at few
      exact connectDefaultService_continues
        (createSupplier_continues wellFormed few _ ident netCapabilities)

/-! ### Other requests -/

theorem unregisterNetSupplier_continues {state : NetConnService}
    (wellFormed : state.registry.WellFormed)
    (few : state.createdSuppliers ≤ NetIdManager.capacity) (supplierId : UInt32) :
    Continues state.registry.population state.world.netdCalls
      (state.unregisterNetSupplier supplierId).2 := by
  unfold unregisterNetSupplier
  cases state.getNetSupplierFromListById supplierId with
  | none => exact .of_silent rfl rfl
  | some _ =>
    cases found : state.getNetworkFromListBySupplierId supplierId with
    | none => exact .of_silent rfl rfl
    | some network =>
      have removed : state.registry.networkOfId supplierId = some network := found
      have allocated := wellFormed.networks network (List.mem_of_find?_eq_some removed)
      obtain ⟨netId, number⟩ := netId_number wellFormed few allocated
      rw [← Registry.population_remove wellFormed removed]
      refine dropNetwork_continues (fun service member => Or.inl ?_) ?_
      · exact (wellFormed.remove removed).owners service member
      · show ((asUInt16 (state.world.network network).netId).toNat : Int) = network.address
        rw [netId, number]

/-- Calls about a listed network, or about none. -/
theorem uses_continues {state after : NetConnService} {network : Ref Network}
    (listed : network ∈ state.networks) {issued : List NetdCall}
    (appended : after.world.netdCalls = state.world.netdCalls ++ issued)
    (uses : ∀ call ∈ issued, call.aboutCache = false ∧
      (call.netId? = some (network.address : Int) ∨ call.netId? = none))
    (registry : after.registry = state.registry) :
    Continues state.registry.population state.world.netdCalls after := by
  refine ⟨issued, appended, ?_⟩
  rw [registry]
  refine .uses fun event member => ?_
  obtain ⟨call, called, read⟩ := List.mem_filterMap.mp member
  obtain ⟨other, netId⟩ := uses call called
  have event_eq : call.lifeEvent = call.netId?.map LifeEvent.use := by
    cases call <;> first | rfl | cases other
  rw [event_eq] at read
  rcases netId with own | silent
  · rw [own] at read
    exact ⟨_, (state.registry.mem_living network).mpr (Or.inl listed), (Option.some.inj read).symm⟩
  · rw [silent] at read
    exact absurd read.symm (Option.some_ne_none event)

theorem updateNetSupplierInfo_continues {state : NetConnService}
    (wellFormed : state.registry.WellFormed)
    (few : state.createdSuppliers ≤ NetIdManager.capacity) (supplierId : UInt32)
    (netSupplierInfo : Option NetSupplierInfo) :
    Continues state.registry.population state.world.netdCalls
      (state.updateNetSupplierInfo supplierId netSupplierInfo).2 := by
  have registry := registry_updateNetSupplierInfo state supplierId netSupplierInfo
  cases netSupplierInfo with
  | none => exact .of_silent rfl rfl
  | some netSupplierInfo =>
    rcases getSupplierAndNetwork_cases wellFormed supplierId with
      ⟨failed, _⟩ | ⟨supplier, network, found, _, listed⟩
    · have same : (state.updateNetSupplierInfo supplierId (some netSupplierInfo)).2 = state := by
        simp only [updateNetSupplierInfo, failed]
      rw [same]
      exact .of_silent rfl rfl
    · have side : (state.updateNetSupplierInfo supplierId (some netSupplierInfo)).2.world.netdSide =
          state.world.netdSide.createPhysical network := by
        simp only [updateNetSupplierInfo, found]
        exact Network.netdSide_updateNetSupplierInfo state.world network netSupplierInfo
      have calls := congrArg NetdSide.calls side
      obtain ⟨netId, _⟩ := netId_number wellFormed few (wellFormed.networks network listed)
      unfold NetdSide.createPhysical at calls
      split at calls
      · exact .of_silent calls (congrArg _ registry)
      · refine uses_continues listed calls (List.forall_mem_singleton.mpr ⟨rfl, Or.inl ?_⟩) registry
        exact congrArg some netId

theorem updateNetLinkInfo_continues {state : NetConnService}
    (wellFormed : state.registry.WellFormed)
    (few : state.createdSuppliers ≤ NetIdManager.capacity) (supplierId : UInt32)
    (netLinkInfo : Option NetLinkInfo) :
    Continues state.registry.population state.world.netdCalls
      (state.updateNetLinkInfo supplierId netLinkInfo).2 := by
  have registry := registry_updateNetLinkInfo state supplierId netLinkInfo
  cases netLinkInfo with
  | none => exact .of_silent rfl rfl
  | some netLinkInfo =>
    rcases getSupplierAndNetwork_cases wellFormed supplierId with
      ⟨failed, _⟩ | ⟨supplier, network, found, _, listed⟩
    · have same : (state.updateNetLinkInfo supplierId (some netLinkInfo)).2 = state := by
        simp only [updateNetLinkInfo, failed]
      rw [same]
      exact .of_silent rfl rfl
    · have side : (state.updateNetLinkInfo supplierId (some netLinkInfo)).2.world.netdSide =
          state.world.netdSide.updateLinkInfo network netLinkInfo := by
        simp only [updateNetLinkInfo, found]
        exact Network.netdSide_updateNetLinkInfo state.world network netLinkInfo
      obtain ⟨netId, number⟩ := netId_number wellFormed few (wellFormed.networks network listed)
      refine uses_continues listed (congrArg NetdSide.calls side) ?_ registry
      rw [show (state.world.netdSide.records.cell network).netId = _ from netId]
      exact Network.forall_linkInfoCalls _ _ (fun _ => ⟨rfl, Or.inl rfl⟩)
        (fun _ => ⟨rfl, Or.inl rfl⟩) (fun _ _ _ => ⟨rfl, Or.inl rfl⟩)
        (fun _ _ _ => ⟨rfl, Or.inl rfl⟩) (fun _ _ => ⟨rfl, Or.inl (congrArg some number)⟩)
        (fun _ _ => ⟨rfl, Or.inr rfl⟩)

theorem updateNetCapabilities_continues {state : NetConnService}
    (wellFormed : state.registry.WellFormed) (supplierId : UInt32) (netCapabilities : UInt64) :
    Continues state.registry.population state.world.netdCalls
      (state.updateNetCapabilities supplierId netCapabilities).2 := by
  have silent (state : NetConnService) (ident : String) (type : NetworkType)
      (network : Ref Network) (netCapability : NetCapabilities) :
      (state.updateCapability ident type network netCapability netCapabilities).world.netdCalls =
        state.world.netdCalls := by
    unfold updateCapability
    dsimp only
    split
    · split
      · rfl
      · rfl
    · split
      · rfl
      · rfl
  refine .of_silent ?_ ?_
  · unfold updateNetCapabilities
    split
    · rfl
    · dsimp only
      rw [silent, silent]
  · rw [registry_updateNetCapabilities]
    unfold Registry.updateCapabilities
    split
    · rfl
    · rename_i supplier network _
      obtain ⟨internet, selected⟩ := Registry.population_updateCapability
        (fun service selected => (wellFormed.default service selected).1)
        (state.registry.supplier supplier).ident (state.registry.supplier supplier).type network
        .internet netCapabilities
      exact (Registry.population_updateCapability selected _ _ network .mms
        netCapabilities).1.trans internet

/-- Connecting a service again and callback requests are nothing to netd. -/
theorem quiet_continues {state after : NetConnService}
    (side : after.world.netdSide = state.world.netdSide)
    (registry : after.registry = state.registry) :
    Continues state.registry.population state.world.netdCalls after :=
  .of_silent (congrArg NetdSide.calls side) (congrArg _ registry)

/-! ### Runs -/

theorem continues_step {state : NetConnService} (wellFormed : state.registry.WellFormed)
    (action : Action) (few : (state.step action).createdSuppliers ≤ NetIdManager.capacity) :
    Continues state.registry.population state.world.netdCalls (state.step action) := by
  have fewBefore := le_trans (createdSuppliers_le_step wellFormed action) few
  have quiet (about : action.aboutCallback = true) : Continues state.registry.population
      state.world.netdCalls (state.step action) := by
    refine quiet_continues
      (World.netdSame_frame.aboutCallback state about fun _ _ => trivial) ?_
    rw [registry_step]
    cases action <;> first | rfl | cases about
  cases action with
  | registerNetSupplier netType ident netCapabilities =>
    exact registerNetSupplier_continues wellFormed netType ident netCapabilities few
  | unregisterNetSupplier supplierId =>
    exact unregisterNetSupplier_continues wellFormed fewBefore supplierId
  | updateNetSupplierInfo supplierId netSupplierInfo =>
    exact updateNetSupplierInfo_continues wellFormed fewBefore supplierId netSupplierInfo
  | updateNetCapabilities supplierId netCapabilities =>
    exact updateNetCapabilities_continues wellFormed supplierId netCapabilities
  | updateNetLinkInfo supplierId netLinkInfo =>
    exact updateNetLinkInfo_continues wellFormed fewBefore supplierId netLinkInfo
  | registerNetConnCallback callback => exact quiet rfl
  | registerNetConnCallbackBySpecifier netSpecifier callback => exact quiet rfl
  | unregisterNetConnCallback callback => exact quiet rfl
  | unregisterNetConnCallbackBySpecifier netSpecifier callback => exact quiet rfl
  | reConnectServiceTask =>
    refine quiet_continues ?_ (registry_step state .reConnectServiceTask)
    by_cases idle : state.reConnectTimer = 0
    · simp only [step, perform, if_pos idle]
    · simp only [step, perform, if_neg idle]
      unfold reConnectService
      split
      · rfl
      · exact World.netdSide_frame.reConnect state.world _

/-- The calls of a run are lifetimes of the networks: of those that were constructed, the ones that
have an owner live. -/
theorem continues_run (answers : Nat → Int) (actions : List Action)
    (few : (run step (start answers) actions).createdSuppliers ≤ NetIdManager.capacity) :
    Continues ⟨∅, ∅⟩ [] (run step (start answers) actions) := by
  induction actions using List.reverseRecOn with
  | nil =>
    refine .of_silent rfl ?_
    refine congrArg₂ Population.mk (Set.eq_empty_of_forall_notMem ?_)
      (Set.eq_empty_of_forall_notMem ?_)
    · rintro netId ⟨network, allocated, _⟩
      exact Nat.not_lt_zero _ allocated
    · rintro netId ⟨network, listed | ⟨service, selected, _⟩, _⟩
      · exact List.not_mem_nil listed
      · exact Option.some_ne_none service selected.symm
  | append_singleton actions action inductionHypothesis =>
    rw [run_concat] at few ⊢
    have wellFormed := run_wellFormed answers actions
    exact (inductionHypothesis (le_trans (createdSuppliers_le_step wellFormed action) few)).trans
      (continues_step wellFormed action few)

/-! ### What is said under one net id -/

/-- The calls under a net id say what happens to its network. -/
theorem lifeEvent_key (call : NetdCall) : call.lifeEvent.map LifeEvent.key = call.netId? := by
  cases call <;> rfl

theorem lifeEvents_filter (netId : Int) (calls : List NetdCall) :
    (calls.filter fun call => call.netId? = some netId).filterMap NetdCall.lifeEvent =
      (calls.filterMap NetdCall.lifeEvent).filter fun event => event.key = netId := by
  rw [List.filterMap_filter, List.filter_filterMap]
  refine List.filterMap_congr fun call _ => ?_
  have key := lifeEvent_key call
  cases said : call.lifeEvent with
  | none => simp
  | some event =>
    rw [said] at key
    rw [← key]
    by_cases own : event.key = netId
    · simp [own, Option.filter]
    · simp [own, Option.filter]

/-- Only the creation of the cache creates a network for netd. -/
theorem eq_createNetworkCache {call : NetdCall} {netId : Int}
    (number : ((asUInt16 netId).toNat : Int) = netId)
    (creates : call.lifeEvent = some (.create netId)) :
    call = .createNetworkCache (asUInt16 netId) := by
  cases call with
  | createNetworkCache id =>
    have same : (id.toNat : Int) = netId := LifeEvent.create.inj (Option.some.inj creates)
    exact congrArg _ (UInt16.toNat.inj (Int.ofNat.inj (same.trans number.symm)))
  | _ => cases creates

theorem aboutCache_of_use {call : NetdCall} {netId : Int}
    (uses : call.lifeEvent = some (.use netId)) : call.aboutCache = false := by
  cases call <;> first | rfl | cases uses

/-- Only the destruction of the cache destroys one. -/
theorem eq_destoryNetworkCache {call : NetdCall} {netId : Int}
    (number : ((asUInt16 netId).toNat : Int) = netId)
    (destroys : call.lifeEvent = some (.destroy netId)) :
    call = .destoryNetworkCache (asUInt16 netId) := by
  cases call with
  | destoryNetworkCache id =>
    have same : (id.toNat : Int) = netId := LifeEvent.destroy.inj (Option.some.inj destroys)
    exact congrArg _ (UInt16.toNat.inj (Int.ofNat.inj (same.trans number.symm)))
  | _ => cases destroys

/-- Calls that are uses of a network are about no cache. -/
theorem aboutCache_of_uses {netId : Int} {calls : List NetdCall} {count : Nat}
    (speaks : ∀ call ∈ calls, call.lifeEvent ≠ none)
    (uses : calls.filterMap NetdCall.lifeEvent = List.replicate count (.use netId)) :
    ∀ call ∈ calls, call.aboutCache = false := by
  intro call member
  obtain ⟨event, said⟩ := Option.ne_none_iff_exists'.mp (speaks call member)
  have used : event ∈ List.replicate count (LifeEvent.use netId) := by
    rw [← uses]
    exact List.mem_filterMap.mpr ⟨call, member, said⟩
  exact aboutCache_of_use (said.trans (congrArg some (List.eq_of_mem_replicate used)))

/-- The calls that make up a lifetime. -/
theorem calls_of_lifetime {population : Population Int} {netId : Int}
    (number : ((asUInt16 netId).toNat : Int) = netId) {calls : List NetdCall}
    (speaks : ∀ call ∈ calls, call.lifeEvent ≠ none)
    (lifetime : population.Lifetime netId (calls.filterMap NetdCall.lifeEvent))
    (created : netId ∈ population.created) :
    ∃ used, (∀ call ∈ used, call.aboutCache = false) ∧
      (netId ∈ population.living ∧ calls = .createNetworkCache (asUInt16 netId) :: used ∨
        netId ∉ population.living ∧ calls = .createNetworkCache (asUInt16 netId) ::
          (used ++ [.destoryNetworkCache (asUInt16 netId)])) := by
  generalize said : calls.filterMap NetdCall.lifeEvent = log at lifetime
  cases lifetime with
  | unborn new _ => exact absurd created new
  | living count _ lives =>
    obtain ⟨first, rest, rfl, creates, uses⟩ := exists_cons_of_filterMap speaks said
    refine ⟨rest, aboutCache_of_uses (List.forall_mem_cons.mp speaks).2 uses, Or.inl ⟨lives, ?_⟩⟩
    rw [eq_createNetworkCache number creates]
  | gone count _ absent =>
    obtain ⟨first, rest, rfl, creates, more⟩ := exists_cons_of_filterMap speaks said
    obtain ⟨used, last, rfl, uses, ends⟩ := List.filterMap_eq_append_iff.mp more
    obtain ⟨speaksUsed, speaksLast⟩ :=
      List.forall_mem_append.mp (List.forall_mem_cons.mp speaks).2
    obtain ⟨final, none, rfl, destroys, nothing⟩ := exists_cons_of_filterMap speaksLast ends
    obtain rfl := eq_nil_of_filterMap (List.forall_mem_cons.mp speaksLast).2 nothing
    refine ⟨used, aboutCache_of_uses speaksUsed uses, Or.inr ⟨absent, ?_⟩⟩
    rw [eq_createNetworkCache number creates, eq_destoryNetworkCache number destroys]

/-- What netd was told under the net id of a network. -/
theorem calls_of_network (answers : Nat → Int) (actions : List Action)
    (few : (run step (start answers) actions).createdSuppliers ≤ NetIdManager.capacity)
    {network : Ref Network}
    (allocated : (run step (start answers) actions).world.networkHeap.Allocated network) :
    let reached := run step (start answers) actions
    let netId := (reached.world.network network).netId
    ∃ used, (∀ call ∈ used, call.aboutCache = false) ∧
      reached.world.netdCalls.filter (fun call => call.netId? = some netId) =
        .createNetworkCache (asUInt16 netId) :: (used ++
          if reached.holdsNetwork network then []
          else [.destoryNetworkCache (asUInt16 netId)]) := by
  intro reached netId
  have wellFormed : reached.registry.WellFormed := run_wellFormed answers actions
  obtain ⟨issued, calls, leads⟩ := continues_run answers actions few
  obtain rfl : reached.world.netdCalls = issued := calls
  obtain ⟨own, number⟩ := netId_number wellFormed few allocated
  have lifetime := leads.lifetime (network.address : Int)
  rw [← lifeEvents_filter] at lifetime
  have speaks : ∀ call ∈ reached.world.netdCalls.filter fun call =>
      call.netId? = some (network.address : Int), call.lifeEvent ≠ none := by
    intro call member silent
    have about := of_decide_eq_true (List.mem_filter.mp member).2
    rw [← lifeEvent_key, silent] at about
    exact Option.some_ne_none _ about.symm
  have holds := (holdsNetwork_iff (fun service member =>
    Or.inl (wellFormed.owners service member)) network).trans
      (reached.registry.mem_living network).symm
  obtain ⟨used, plain, life⟩ := calls_of_lifetime number speaks lifetime
    ((reached.registry.mem_created network).mpr allocated)
  refine ⟨used, plain, ?_⟩
  rw [show netId = network.address from own]
  rcases life with ⟨lives, whole⟩ | ⟨absent, whole⟩
  · rw [whole, if_pos (holds.mpr lives), List.append_nil]
  · rw [whole, if_neg (mt holds.mp absent)]

/-- At any time, as long as there were net ids for all suppliers, what netd was told under a net id
is the lifetime of one network: its cache was created first, and destroyed last when the network
has no owner any more; in between nothing was said about caches. Nothing was said under a net id
that is no network's. -/
theorem lifetimes_run (answers : Nat → Int) (actions : List Action)
    (few : (run step (start answers) actions).createdSuppliers ≤ 64512) :
    let reached := run step (start answers) actions
    (∀ network, reached.world.networkHeap.Allocated network →
      let netId := (reached.world.network network).netId
      ∃ used, (∀ call ∈ used, call.aboutCache = false) ∧
        reached.world.netdCalls.filter (fun call => call.netId? = some netId) =
          .createNetworkCache (asUInt16 netId) :: (used ++
            if reached.holdsNetwork network then []
            else [.destoryNetworkCache (asUInt16 netId)])) ∧
    ∀ call ∈ reached.world.netdCalls, ∀ netId, call.netId? = some netId →
      ∃ network, reached.world.networkHeap.Allocated network ∧
        (reached.world.network network).netId = netId := by
  intro reached
  refine ⟨fun _ allocated => calls_of_network answers actions few allocated, ?_⟩
  intro call member netId own
  have wellFormed : reached.registry.WellFormed := run_wellFormed answers actions
  obtain ⟨issued, calls, leads⟩ := continues_run answers actions few
  obtain rfl : reached.world.netdCalls = issued := calls
  obtain ⟨event, said, key⟩ := Option.map_eq_some_iff.mp ((lifeEvent_key call).trans own)
  have listed : event ∈ (reached.world.netdCalls.filterMap NetdCall.lifeEvent).filter
      fun event => event.key = netId :=
    List.mem_filter.mpr ⟨List.mem_filterMap.mpr ⟨call, member, said⟩, decide_eq_true key⟩
  obtain ⟨network, allocated, same⟩ := (leads.lifetime netId).created listed
  exact ⟨network, allocated, (netId_number wellFormed few allocated).1.trans same⟩

/-- A network is destroyed when another service becomes the default one, after its supplier was
unregistered. -/
theorem lifetimes_run_example :
    let actions : List Action := [.registerNetSupplier 1 "slot0" NetCapabilities.internet.code,
      .unregisterNetSupplier 1003, .registerNetSupplier 2 "eth0" NetCapabilities.internet.code]
    let reached := run step (start fun _ => 1) actions
    ∃ used, (∀ call ∈ used, call.aboutCache = false) ∧
      reached.world.netdCalls.filter (fun call => call.netId? = some 0) =
        .createNetworkCache 0 :: (used ++ [.destoryNetworkCache 0]) := by
  intro actions reached
  obtain ⟨used, plain, calls⟩ := (lifetimes_run (fun _ => 1) actions (by decide)).1 ⟨0⟩ (by decide)
  exact ⟨used, plain, calls⟩

end NetConnService

end NetManager
