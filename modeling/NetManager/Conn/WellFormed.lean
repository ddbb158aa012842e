/-
This file states the invariant of the registry and proves it of every run, of any
length and with any answers of the controller.

The identities of the objects have a closed form: the n-th supplier has the n-th
supplier id, the n-th network holds the n-th supplier and has the n-th net id, and
a service carries the labels of the supplier of its network. On top of it the
lists correspond: the suppliers of the networks are the list of suppliers, no two
suppliers have the same key, and the services belong to listed networks.

The distinctness of ids is not part of the invariant, because it is lost once a
counter has been used up. It is derived from the closed form on the runs that are
short enough.
-/

import NetManager.Conn.Registry
import NetManager.Library.FirstMatch

namespace NetManager

open Library

/-! ### The closed form of the identities -/

/-- The id of the supplier created after `count` others. -/
def supplierIdAt (count : Nat) : UInt32 := UInt32.ofNat (0x03EB + count)

theorem supplierIdAt_succ (count : Nat) : supplierIdAt (count + 1) = supplierIdAt count + 1 := by
  unfold supplierIdAt
  rw [← Nat.add_assoc, UInt32.ofNat_add]
  rfl

/-- What every constructed service is: a service of a constructed network that carries the
labels of its supplier. -/
structure Identities.Labelled (identities : Identities) (service : ServiceIdentity) : Prop where
  network : identities.networks.Allocated service.network
  type : service.networkType =
    (identities.suppliers.cell (identities.networks.cell service.network).supplier).type
  ident : service.ident =
    (identities.suppliers.cell (identities.networks.cell service.network).supplier).ident
  capability : service.netCapability = .internet ∨ service.netCapability = .mms

/-- The closed form of the identities. -/
structure Identities.WellFormed (identities : Identities) : Prop where
  paired : identities.networks.size = identities.suppliers.size
  nextId : identities.nextNetSupplierId = supplierIdAt identities.suppliers.size
  pool : identities.netIdManager = NetIdManager.reserved identities.networks.size
  supplierId : ∀ ref, identities.suppliers.Allocated ref →
    (identities.suppliers.cell ref).supplierId = supplierIdAt ref.address
  controller : ∀ ref, identities.suppliers.Allocated ref →
    (identities.suppliers.cell ref).netController =
      NetSupplier.makeNetController (identities.suppliers.cell ref).type
  network : ∀ ref, identities.networks.Allocated ref →
    identities.networks.cell ref = ⟨⟨ref.address⟩, NetIdManager.netIdAt ref.address⟩
  service : ∀ ref, identities.services.Allocated ref →
    identities.Labelled (identities.services.cell ref)

/-! ### The invariant of the lists -/

/-- The lists of the registry, over identities in closed form. -/
structure Registry.WellFormed (registry : Registry) : Prop where
  identities : registry.identities.WellFormed
  networks : ∀ network ∈ registry.networks, registry.identities.networks.Allocated network
  suppliers : registry.networks.map (fun network => (registry.network network).supplier) =
    registry.netSupplier
  keys : (registry.netSupplier.map registry.key).Nodup
  services : ∀ service ∈ registry.netServices, registry.identities.services.Allocated service
  owners : ∀ service ∈ registry.netServices,
    (registry.service service).network ∈ registry.networks
  serviceKeys : (registry.netServices.map registry.serviceKey).Nodup
  default : ∀ service, registry.defaultNetService = some service →
    registry.identities.services.Allocated service ∧
      (registry.service service).netCapability = .internet

/-! ### Constructions keep the closed form -/

namespace Identities

/-- The supplier of a constructed network was constructed. -/
theorem WellFormed.supplier_allocated {identities : Identities} (wellFormed : identities.WellFormed)
    {network : Ref Network} (allocated : identities.networks.Allocated network) :
    identities.suppliers.Allocated (identities.networks.cell network).supplier := by
  rw [wellFormed.network network allocated]
  show network.address < identities.suppliers.size
  rw [← wellFormed.paired]
  exact allocated

theorem WellFormed.construct {identities : Identities} (wellFormed : identities.WellFormed)
    (type : NetworkType) (ident : String) : (identities.construct type ident).WellFormed := by
  have reservation : identities.netIdManager.reserveNetId =
      (NetIdManager.netIdAt identities.networks.size,
        NetIdManager.reserved (identities.networks.size + 1)) := by
    rw [wellFormed.pool, NetIdManager.reserveNetId_reserved]
  have same : identities.suppliers.fresh = ⟨identities.networks.fresh.address⟩ :=
    congrArg Ref.mk wellFormed.paired.symm
  refine ⟨congrArg (· + 1) wellFormed.paired, ?_, ?_, ?_, ?_, ?_, ?_⟩
  · show identities.nextNetSupplierId + 1 = supplierIdAt (identities.suppliers.size + 1)
    rw [wellFormed.nextId, supplierIdAt_succ]
  · show identities.netIdManager.reserveNetId.2 = _
    rw [reservation]
    rfl
  · exact Heap.forall_alloc (fun ref supplier => supplier.supplierId = supplierIdAt ref.address)
      identities.suppliers (identities.newSupplier type ident) wellFormed.supplierId
      wellFormed.nextId
  · exact Heap.forall_alloc (fun _ supplier =>
      supplier.netController = NetSupplier.makeNetController supplier.type)
      identities.suppliers (identities.newSupplier type ident) wellFormed.controller rfl
  · refine Heap.forall_alloc (fun ref network =>
      network = ⟨⟨ref.address⟩, NetIdManager.netIdAt ref.address⟩)
      identities.networks _ wellFormed.network ?_
    rw [same, reservation]
    rfl
  · intro ref allocated
    obtain ⟨network, labelType, labelIdent, capability⟩ := wellFormed.service ref allocated
    have networkCell : (identities.construct type ident).networks.cell
        (identities.services.cell ref).network =
          identities.networks.cell (identities.services.cell ref).network :=
      identities.networks.cell_alloc_of_allocated _ network
    have supplierCell : (identities.construct type ident).suppliers.cell
        (identities.networks.cell (identities.services.cell ref).network).supplier =
          identities.suppliers.cell
            (identities.networks.cell (identities.services.cell ref).network).supplier :=
      identities.suppliers.cell_alloc_of_allocated _ (wellFormed.supplier_allocated network)
    refine ⟨identities.networks.allocated_alloc _ network, ?_, ?_, capability⟩
    · show (identities.services.cell ref).networkType =
        ((identities.construct type ident).suppliers.cell ((identities.construct
          type ident).networks.cell (identities.services.cell ref).network).supplier).type
      rw [networkCell, supplierCell]
      exact labelType
    · show (identities.services.cell ref).ident =
        ((identities.construct type ident).suppliers.cell ((identities.construct
          type ident).networks.cell (identities.services.cell ref).network).supplier).ident
      rw [networkCell, supplierCell]
      exact labelIdent

/-- Making a labelled service keeps the closed form. -/
theorem WellFormed.addService {identities : Identities} (wellFormed : identities.WellFormed)
    (service : ServiceIdentity) (labelled : identities.Labelled service) :
    { identities with services := identities.services.alloc service }.WellFormed := by
  refine ⟨wellFormed.paired, wellFormed.nextId, wellFormed.pool, wellFormed.supplierId,
    wellFormed.controller, wellFormed.network, ?_⟩
  intro ref allocated
  have holds := Heap.forall_alloc (fun _ service => identities.Labelled service)
    identities.services service wellFormed.service labelled ref allocated
  exact ⟨holds.network, holds.type, holds.ident, holds.capability⟩

end Identities

/-! ### Reading after a construction -/

namespace Registry

theorem supplier_enroll (registry : Registry) (type : NetworkType) (ident : String)
    {supplier : Ref NetSupplier}
    (allocated : registry.identities.suppliers.Allocated supplier) :
    (registry.enroll type ident).supplier supplier = registry.supplier supplier :=
  registry.identities.suppliers.cell_alloc_of_allocated _ allocated

theorem supplier_enroll_fresh (registry : Registry) (type : NetworkType) (ident : String) :
    (registry.enroll type ident).supplier registry.identities.suppliers.fresh =
      registry.identities.newSupplier type ident :=
  registry.identities.suppliers.cell_alloc_fresh _

theorem network_enroll (registry : Registry) (type : NetworkType) (ident : String)
    {network : Ref Network} (allocated : registry.identities.networks.Allocated network) :
    (registry.enroll type ident).network network = registry.network network :=
  registry.identities.networks.cell_alloc_of_allocated _ allocated

theorem network_enroll_fresh (registry : Registry) (type : NetworkType) (ident : String) :
    (registry.enroll type ident).network registry.identities.networks.fresh =
      ⟨registry.identities.suppliers.fresh,
        registry.identities.netIdManager.reserveNetId.1⟩ :=
  registry.identities.networks.cell_alloc_fresh _

theorem holder_enroll_fresh (registry : Registry) (type : NetworkType) (ident : String) :
    (registry.enroll type ident).holder registry.identities.networks.fresh =
      registry.identities.newSupplier type ident := by
  unfold holder
  rw [network_enroll_fresh, supplier_enroll_fresh]

theorem service_addService (registry : Registry) (ident : String) (type : NetworkType)
    (netCapability : NetCapabilities) (network : Ref Network) {service : Ref NetService}
    (allocated : registry.identities.services.Allocated service) :
    (registry.addService ident type netCapability network).service service =
      registry.service service :=
  registry.identities.services.cell_alloc_of_allocated _ allocated

theorem service_addService_fresh (registry : Registry) (ident : String) (type : NetworkType)
    (netCapability : NetCapabilities) (network : Ref Network) :
    (registry.addService ident type netCapability network).service
      registry.identities.services.fresh = ⟨ident, type, netCapability, network⟩ :=
  registry.identities.services.cell_alloc_fresh _

end Registry

/-! ### Enrolling keeps the invariant -/

namespace Registry.WellFormed

variable {registry : Registry}

/-- The supplier a listed network holds is listed. -/
theorem supplier_listed (wellFormed : registry.WellFormed) {network : Ref Network}
    (listed : network ∈ registry.networks) :
    (registry.network network).supplier ∈ registry.netSupplier := by
  rw [← wellFormed.suppliers]
  exact List.mem_map_of_mem listed

/-- A listed supplier is held by a listed network. -/
theorem exists_network (wellFormed : registry.WellFormed) {supplier : Ref NetSupplier}
    (registered : supplier ∈ registry.netSupplier) :
    ∃ network ∈ registry.networks, (registry.network network).supplier = supplier := by
  rw [← wellFormed.suppliers] at registered
  exact List.mem_map.mp registered

/-- The supplier of a listed network was constructed, and so was every listed supplier. -/
theorem supplier_allocated (wellFormed : registry.WellFormed) {supplier : Ref NetSupplier}
    (registered : supplier ∈ registry.netSupplier) :
    registry.identities.suppliers.Allocated supplier := by
  obtain ⟨network, listed, rfl⟩ := wellFormed.exists_network registered
  exact wellFormed.identities.supplier_allocated (wellFormed.networks network listed)

theorem enroll (wellFormed : registry.WellFormed) (type : NetworkType) (ident : String)
    (free : ∀ supplier ∈ registry.netSupplier, registry.key supplier ≠ (type, ident)) :
    (registry.enroll type ident).WellFormed := by
  refine ⟨wellFormed.identities.construct type ident, ?_, ?_, ?_, wellFormed.services, ?_,
    wellFormed.serviceKeys, wellFormed.default⟩
  · intro network member
    rcases List.mem_append.mp member with listed | new
    · exact registry.identities.networks.allocated_alloc _ (wellFormed.networks network listed)
    · rw [List.mem_singleton.mp new]
      exact registry.identities.networks.allocated_fresh _
  · show (registry.networks ++ [registry.identities.networks.fresh]).map
      (fun network => ((registry.enroll type ident).network network).supplier) =
        registry.netSupplier ++ [registry.identities.suppliers.fresh]
    rw [List.map_append, List.map_singleton, network_enroll_fresh, ← wellFormed.suppliers]
    refine congrArg (· ++ _) (List.map_congr_left fun network listed => ?_)
    rw [network_enroll registry type ident (wellFormed.networks network listed)]
  · show ((registry.netSupplier ++ [registry.identities.suppliers.fresh]).map
      (registry.enroll type ident).key).Nodup
    have old : registry.netSupplier.map (registry.enroll type ident).key =
        registry.netSupplier.map registry.key := by
      refine List.map_congr_left fun supplier member => ?_
      unfold key
      rw [supplier_enroll registry type ident (wellFormed.supplier_allocated member)]
    have new : (registry.enroll type ident).key registry.identities.suppliers.fresh =
        (type, ident) := by
      unfold key
      rw [supplier_enroll_fresh]
      rfl
    rw [List.map_append, List.map_singleton, old, new, ← List.concat_eq_append]
    refine List.Nodup.concat (fun member => ?_) wellFormed.keys
    obtain ⟨supplier, listed, same⟩ := List.mem_map.mp member
    exact free supplier listed same
  · intro service member
    exact List.mem_append_left _ (wellFormed.owners service member)

/-! ### Services -/

/-- The keys of the services after a new one. -/
theorem serviceKeys_addService (wellFormed : registry.WellFormed) (ident : String)
    (type : NetworkType) (netCapability : NetCapabilities) (network : Ref Network) :
    (registry.addService ident type netCapability network).netServices.map
        (registry.addService ident type netCapability network).serviceKey =
      registry.netServices.map registry.serviceKey ++ [(network, netCapability)] := by
  have old : registry.netServices.map
      (registry.addService ident type netCapability network).serviceKey =
        registry.netServices.map registry.serviceKey := by
    refine List.map_congr_left fun service member => ?_
    unfold serviceKey
    rw [service_addService registry ident type netCapability network
      (wellFormed.services service member)]
  have last : (registry.addService ident type netCapability network).serviceKey
      registry.identities.services.fresh = (network, netCapability) := by
    unfold serviceKey
    rw [service_addService_fresh]
  show (registry.netServices ++ [registry.identities.services.fresh]).map _ = _
  rw [List.map_append, List.map_singleton, old, last]

/-- A new service of a listed network with a capability the network has no service for. -/
theorem addService (wellFormed : registry.WellFormed) (ident : String) (type : NetworkType)
    (netCapability : NetCapabilities) (network : Ref Network)
    (labelled : registry.identities.Labelled ⟨ident, type, netCapability, network⟩)
    (listed : network ∈ registry.networks)
    (free : (network, netCapability) ∉ registry.netServices.map registry.serviceKey) :
    (registry.addService ident type netCapability network).WellFormed := by
  refine ⟨wellFormed.identities.addService _ labelled, wellFormed.networks, wellFormed.suppliers,
    wellFormed.keys, ?_, ?_, ?_, ?_⟩
  · intro service member
    rcases List.mem_append.mp member with before | same
    · exact registry.identities.services.allocated_alloc _ (wellFormed.services service before)
    · rw [List.mem_singleton.mp same]
      exact registry.identities.services.allocated_fresh _
  · intro service member
    rcases List.mem_append.mp member with before | same
    · rw [service_addService registry ident type netCapability network
        (wellFormed.services service before)]
      exact wellFormed.owners service before
    · rw [List.mem_singleton.mp same, service_addService_fresh]
      exact listed
  · rw [wellFormed.serviceKeys_addService, ← List.concat_eq_append]
    exact List.Nodup.concat free wellFormed.serviceKeys
  · intro service same
    obtain ⟨allocated, capability⟩ := wellFormed.default service same
    refine ⟨registry.identities.services.allocated_alloc _ allocated, ?_⟩
    rw [service_addService registry ident type netCapability network allocated]
    exact capability

theorem addDefaultService (wellFormed : registry.WellFormed) (ident : String)
    (type : NetworkType) (network : Ref Network)
    (labelled : registry.identities.Labelled ⟨ident, type, .internet, network⟩)
    (listed : network ∈ registry.networks)
    (free : (network, NetCapabilities.internet) ∉
      registry.netServices.map registry.serviceKey) :
    (registry.addDefaultService ident type network).WellFormed := by
  obtain ⟨identities, networks, suppliers, keys, services, owners, serviceKeys, _⟩ :=
    wellFormed.addService ident type .internet network labelled listed free
  refine ⟨identities, networks, suppliers, keys, services, owners, serviceKeys, ?_⟩
  intro service same
  obtain rfl : registry.identities.services.fresh = service := Option.some.inj same
  refine ⟨registry.identities.services.allocated_fresh _, ?_⟩
  exact congrArg ServiceIdentity.netCapability
    (registry.service_addService_fresh ident type .internet network)

/-- The services of a network that has none yet. -/
theorem createServices (wellFormed : registry.WellFormed) (ident : String) (type : NetworkType)
    (netCapabilities : UInt64) (network : Ref Network)
    (labelled : ∀ capability, capability = .internet ∨ capability = .mms →
      registry.identities.Labelled ⟨ident, type, capability, network⟩)
    (listed : network ∈ registry.networks)
    (free : ∀ capability,
      (network, capability) ∉ registry.netServices.map registry.serviceKey) :
    (registry.createServices ident type netCapabilities network).WellFormed := by
  have mmsLabelled := labelled .mms (Or.inr rfl)
  unfold Registry.createServices
  cases NetCapabilities.internet.isIn netCapabilities with
  | false =>
    cases NetCapabilities.mms.isIn netCapabilities with
    | false => exact wellFormed
    | true => exact wellFormed.addService ident type .mms network mmsLabelled listed (free .mms)
  | true =>
    have internet := wellFormed.addDefaultService ident type network
      (labelled .internet (Or.inl rfl)) listed (free .internet)
    cases NetCapabilities.mms.isIn netCapabilities with
    | false => exact internet
    | true =>
      refine internet.addService ident type .mms network
        ⟨mmsLabelled.network, mmsLabelled.type, mmsLabelled.ident, mmsLabelled.capability⟩
        listed ?_
      show (network, NetCapabilities.mms) ∉
        (registry.addService ident type .internet network).netServices.map
          (registry.addService ident type .internet network).serviceKey
      rw [wellFormed.serviceKeys_addService, List.mem_append, not_or, List.mem_singleton]
      exact ⟨free .mms, fun same => absurd (Prod.mk.inj same).2 (by decide)⟩

/-- Creating a supplier with a key no listed supplier has. -/
theorem create (wellFormed : registry.WellFormed) (type : NetworkType) (ident : String)
    (netCapabilities : UInt64)
    (free : ∀ supplier ∈ registry.netSupplier, registry.key supplier ≠ (type, ident)) :
    (registry.create type ident netCapabilities).WellFormed := by
  refine (wellFormed.enroll type ident free).createServices ident type netCapabilities _ ?_ ?_ ?_
  · intro capability served
    refine ⟨registry.identities.networks.allocated_fresh _, ?_, ?_, served⟩
    · exact congrArg SupplierIdentity.type (registry.holder_enroll_fresh type ident).symm
    · exact congrArg SupplierIdentity.ident (registry.holder_enroll_fresh type ident).symm
  · exact List.mem_append_right _ (List.mem_singleton.mpr rfl)
  · intro capability member
    obtain ⟨service, listed, same⟩ := List.mem_map.mp member
    have owner := wellFormed.owners service listed
    rw [show (registry.service service).network = registry.identities.networks.fresh from
      (Prod.mk.inj same).1] at owner
    exact registry.identities.networks.fresh_notMem wellFormed.networks owner

/-! ### Lookups by supplier id -/

/-- The supplier found by its id is listed and has that id. -/
theorem supplierOfId_spec {supplierId : UInt32} {supplier : Ref NetSupplier}
    (found : registry.supplierOfId supplierId = some supplier) :
    supplier ∈ registry.netSupplier ∧ supplierId = (registry.supplier supplier).supplierId := by
  have hit := List.find?_some found
  exact ⟨List.mem_of_find?_eq_some found, beq_iff_eq.mp hit⟩

/-- The two lookups by id find a network and the supplier it holds. -/
theorem supplierOfId_eq (wellFormed : registry.WellFormed) (supplierId : UInt32) :
    registry.supplierOfId supplierId =
      (registry.networkOfId supplierId).map fun network => (registry.network network).supplier := by
  unfold supplierOfId networkOfId
  rw [← wellFormed.suppliers, List.find?_map]
  refine congrArg (Option.map _) (congrArg (fun test => List.find? test _) ?_)
  funext network
  exact Bool.beq_comm

/-- A listed network is the one its holder's key belongs to. -/
theorem holderKeys (wellFormed : registry.WellFormed) :
    (registry.networks.map fun network =>
      registry.key (registry.network network).supplier).Nodup := by
  have keys := wellFormed.keys
  rw [← wellFormed.suppliers, List.map_map] at keys
  exact keys

theorem networks_nodup (wellFormed : registry.WellFormed) : registry.networks.Nodup :=
  wellFormed.holderKeys.of_map

theorem netSupplier_nodup (wellFormed : registry.WellFormed) : registry.netSupplier.Nodup :=
  wellFormed.keys.of_map

theorem netServices_nodup (wellFormed : registry.WellFormed) : registry.netServices.Nodup :=
  wellFormed.serviceKeys.of_map

/-- `Network::operator==` tells listed networks apart, whatever their ids are. -/
theorem sameNetwork_iff (wellFormed : registry.WellFormed) {first second : Ref Network}
    (firstListed : first ∈ registry.networks) (secondListed : second ∈ registry.networks) :
    registry.sameNetwork first second = true ↔ first = second := by
  constructor
  · intro same
    unfold sameNetwork at same
    simp only [Bool.and_eq_true, beq_iff_eq] at same
    obtain ⟨⟨⟨_, types⟩, idents⟩, _⟩ := same
    exact List.inj_on_of_nodup_map wellFormed.holderKeys firstListed secondListed
      (Prod.ext types idents)
  · intro same
    rw [same]
    unfold sameNetwork
    simp only [beq_self_eq_true, Bool.and_self]

/-! ### Removing keeps the invariant -/

/-- Fewer services. -/
theorem withServices (wellFormed : registry.WellFormed) {netServices : List (Ref NetService)}
    (fewer : netServices.Sublist registry.netServices) :
    { registry with netServices := netServices }.WellFormed :=
  { wellFormed with
    services := fun service member => wellFormed.services service (fewer.subset member)
    owners := fun service member => wellFormed.owners service (fewer.subset member)
    serviceKeys := wellFormed.serviceKeys.sublist (fewer.map _) }

/-- A removal leaves the other networks. -/
theorem mem_networks_remove (wellFormed : registry.WellFormed) {supplierId : UInt32}
    {network : Ref Network} (found : registry.networkOfId supplierId = some network)
    (other : Ref Network) :
    other ∈ (registry.remove supplierId network).networks ↔
      other ∈ registry.networks ∧ other ≠ network :=
  mem_eraseP found wellFormed.networks_nodup other

/-- A removal leaves the services of the other networks. -/
theorem mem_netServices_remove (wellFormed : registry.WellFormed) {supplierId : UInt32}
    {network : Ref Network} (found : registry.networkOfId supplierId = some network)
    (service : Ref NetService) :
    service ∈ (registry.remove supplierId network).netServices ↔
      service ∈ registry.netServices ∧ (registry.service service).network ≠ network := by
  have listed : network ∈ registry.networks := List.mem_of_find?_eq_some found
  unfold remove
  rw [List.mem_filter]
  refine and_congr_right fun member => ?_
  rw [Bool.not_eq_true', Bool.eq_false_iff, Ne,
    wellFormed.sameNetwork_iff (wellFormed.owners service member) listed]

/-- A removal leaves the other suppliers. -/
theorem mem_netSupplier_remove (wellFormed : registry.WellFormed) {supplierId : UInt32}
    {supplier : Ref NetSupplier} (found : registry.supplierOfId supplierId = some supplier)
    (network : Ref Network) (other : Ref NetSupplier) :
    other ∈ (registry.remove supplierId network).netSupplier ↔
      other ∈ registry.netSupplier ∧ other ≠ supplier :=
  mem_eraseP found wellFormed.netSupplier_nodup other

theorem remove (wellFormed : registry.WellFormed) {supplierId : UInt32} {network : Ref Network}
    (found : registry.networkOfId supplierId = some network) :
    (registry.remove supplierId network).WellFormed := by
  refine ⟨wellFormed.identities, ?_, ?_, ?_, ?_, ?_, ?_, wellFormed.default⟩
  · intro other member
    exact wellFormed.networks other ((wellFormed.mem_networks_remove found other).mp member).1
  · show (registry.networks.eraseP _).map _ = registry.netSupplier.eraseP _
    rw [← wellFormed.suppliers, List.eraseP_map]
    refine congrArg (List.map _) (congrArg (fun test => List.eraseP test _) ?_)
    funext other
    exact Bool.beq_comm
  · exact wellFormed.keys.sublist (List.eraseP_sublist.map _)
  · intro service member
    exact wellFormed.services service
      ((wellFormed.mem_netServices_remove found service).mp member).1
  · intro service member
    obtain ⟨before, different⟩ := (wellFormed.mem_netServices_remove found service).mp member
    exact (wellFormed.mem_networks_remove found _).mpr
      ⟨wellFormed.owners service before, different⟩
  · exact wellFormed.serviceKeys.sublist (List.filter_sublist.map _)

theorem unregister (wellFormed : registry.WellFormed) (supplierId : UInt32) :
    (registry.unregister supplierId).WellFormed := by
  have corresponding := wellFormed.supplierOfId_eq supplierId
  unfold Registry.unregister
  cases found : registry.networkOfId supplierId with
  | none =>
    rw [found] at corresponding
    rw [corresponding]
    exact wellFormed
  | some network =>
    rw [found] at corresponding
    rw [corresponding]
    exact wellFormed.remove found

/-! ### Capability updates keep the invariant -/

/-- What the lookup the updates share returns: a listed network with its supplier. -/
theorem supplierAndNetwork_ok (wellFormed : registry.WellFormed) {supplierId : UInt32}
    {supplier : Ref NetSupplier} {network : Ref Network}
    (found : registry.supplierAndNetwork supplierId = .ok (supplier, network)) :
    registry.supplierOfId supplierId = some supplier ∧
      registry.networkOfId supplierId = some network ∧
        (registry.network network).supplier = supplier := by
  unfold supplierAndNetwork at found
  cases byId : registry.supplierOfId supplierId with
  | none =>
    rw [byId] at found
    exact absurd found (by simp)
  | some first =>
    have sameId : supplierId = (registry.supplier first).supplierId :=
      (supplierOfId_spec byId).2
    rw [byId] at found
    dsimp only at found
    rw [← sameId] at found
    cases owned : registry.networkOfId supplierId with
    | none =>
      rw [owned] at found
      exact absurd found (by simp)
    | some second =>
      rw [owned] at found
      obtain ⟨rfl, rfl⟩ : first = supplier ∧ second = network := by
        simpa using found
      refine ⟨rfl, rfl, ?_⟩
      have corresponding := wellFormed.supplierOfId_eq supplierId
      rw [byId, owned] at corresponding
      exact (Option.some.inj corresponding).symm

theorem listed_ok (wellFormed : registry.WellFormed) {supplierId : UInt32}
    {supplier : Ref NetSupplier} {network : Ref Network}
    (found : registry.supplierAndNetwork supplierId = .ok (supplier, network)) :
    network ∈ registry.networks :=
  List.mem_of_find?_eq_some (wellFormed.supplierAndNetwork_ok found).2.1

/-- The labels the updates give to new services are those of the network's supplier. -/
theorem labelled_ok (wellFormed : registry.WellFormed) {supplierId : UInt32}
    {supplier : Ref NetSupplier} {network : Ref Network}
    (found : registry.supplierAndNetwork supplierId = .ok (supplier, network))
    {capability : NetCapabilities} (served : capability = .internet ∨ capability = .mms) :
    registry.identities.Labelled ⟨(registry.supplier supplier).ident,
      (registry.supplier supplier).type, capability, network⟩ := by
  obtain ⟨_, _, held⟩ := wellFormed.supplierAndNetwork_ok found
  refine ⟨wellFormed.networks network (wellFormed.listed_ok found), ?_, ?_, served⟩
  · rw [← held]
    rfl
  · rw [← held]
    rfl

/-- A network without a service of a capability has no service key with it. -/
theorem serviceKey_free {netCapability : NetCapabilities} {network : Ref Network}
    (unlisted : registry.netServices.any
      (registry.isServiceOf (registry.network network).netId netCapability) = false) :
    (network, netCapability) ∉ registry.netServices.map registry.serviceKey := by
  intro member
  obtain ⟨service, listed, same⟩ := List.mem_map.mp member
  obtain ⟨sameNetwork, sameCapability⟩ := Prod.mk.inj same
  refine List.any_eq_false.mp unlisted service listed ?_
  unfold isServiceOf
  rw [sameNetwork, sameCapability]
  simp only [beq_self_eq_true, Bool.and_self]

theorem updateCapability (wellFormed : registry.WellFormed) (ident : String)
    (type : NetworkType) (network : Ref Network) (netCapability : NetCapabilities)
    (netCapabilities : UInt64)
    (labelled : registry.identities.Labelled ⟨ident, type, netCapability, network⟩)
    (listed : network ∈ registry.networks) :
    (registry.updateCapability ident type network netCapability netCapabilities).WellFormed := by
  unfold Registry.updateCapability
  dsimp only
  cases served : registry.netServices.any
      (registry.isServiceOf (registry.network network).netId netCapability) with
  | true =>
    cases netCapability.isIn netCapabilities with
    | true => exact wellFormed
    | false => exact wellFormed.withServices List.eraseP_sublist
  | false =>
    cases netCapability.isIn netCapabilities with
    | true =>
      exact wellFormed.addService ident type netCapability network labelled listed
        (serviceKey_free served)
    | false => exact wellFormed

/-- A capability update drops a service exactly when the mask lacks the capability and the
service is the first one of the network id with it. -/
theorem mem_netServices_updateCapability (wellFormed : registry.WellFormed) (ident : String)
    (type : NetworkType) (network : Ref Network) (netCapability : NetCapabilities)
    (netCapabilities : UInt64) {service : Ref NetService}
    (allocated : registry.identities.services.Allocated service) :
    service ∈ (registry.updateCapability ident type network netCapability
        netCapabilities).netServices ↔
      service ∈ registry.netServices ∧
        (netCapability.isIn netCapabilities = true ∨
          registry.netServices.find?
            (registry.isServiceOf (registry.network network).netId netCapability) ≠
              some service) := by
  unfold Registry.updateCapability
  dsimp only
  cases asked : netCapability.isIn netCapabilities with
  | true =>
    rw [if_pos rfl, and_iff_left (Or.inl rfl)]
    split
    · exact Iff.rfl
    · show service ∈ registry.netServices ++ [registry.identities.services.fresh] ↔ _
      rw [List.mem_append, List.mem_singleton, or_iff_left]
      intro same
      rw [same] at allocated
      exact absurd allocated (Nat.lt_irrefl _)
  | false =>
    rw [if_neg Bool.false_ne_true]
    cases found : registry.netServices.find?
        (registry.isServiceOf (registry.network network).netId netCapability) with
    | none =>
      have unlisted : registry.netServices.any
          (registry.isServiceOf (registry.network network).netId netCapability) = false :=
        List.any_eq_false.mpr (List.find?_eq_none.mp found)
      rw [unlisted, if_neg Bool.false_ne_true]
      simp
    | some first =>
      have listed : registry.netServices.any
          (registry.isServiceOf (registry.network network).netId netCapability) = true :=
        List.any_eq_true.mpr
          ⟨first, List.mem_of_find?_eq_some found, List.find?_some found⟩
      rw [listed, if_pos rfl]
      show service ∈ registry.netServices.eraseP _ ↔ _
      rw [mem_eraseP found wellFormed.netServices_nodup]
      simp [eq_comm]

end Registry.WellFormed

namespace Registry

/-- Constructed services are what they were. -/
theorem service_updateCapability (registry : Registry) (ident : String) (type : NetworkType)
    (network : Ref Network) (netCapability : NetCapabilities) (netCapabilities : UInt64)
    {service : Ref NetService} (allocated : registry.identities.services.Allocated service) :
    (registry.updateCapability ident type network netCapability netCapabilities).service
        service = registry.service service ∧
      (registry.updateCapability ident type network netCapability
        netCapabilities).identities.services.Allocated service := by
  unfold updateCapability
  dsimp only
  split
  · split
    · exact ⟨rfl, allocated⟩
    · exact ⟨service_addService registry ident type netCapability network allocated,
        registry.identities.services.allocated_alloc _ allocated⟩
  · split
    · exact ⟨rfl, allocated⟩
    · exact ⟨rfl, allocated⟩

/-- A capability update touches the services only. -/
theorem updateCapability_keeps (registry : Registry) (ident : String) (type : NetworkType)
    (network : Ref Network) (netCapability : NetCapabilities) (netCapabilities : UInt64) :
    ∃ services netServices,
      registry.updateCapability ident type network netCapability netCapabilities =
        { registry with
          identities := { registry.identities with services := services }
          netServices := netServices } := by
  unfold updateCapability
  dsimp only
  split
  · split
    · exact ⟨_, _, rfl⟩
    · exact ⟨_, _, rfl⟩
  · split
    · exact ⟨_, _, rfl⟩
    · exact ⟨_, _, rfl⟩

namespace WellFormed

variable {registry : Registry}

theorem updateCapabilities (wellFormed : registry.WellFormed) (supplierId : UInt32)
    (netCapabilities : UInt64) :
    (registry.updateCapabilities supplierId netCapabilities).WellFormed := by
  unfold Registry.updateCapabilities
  cases found : registry.supplierAndNetwork supplierId with
  | error code => exact wellFormed
  | ok pair =>
    obtain ⟨supplier, network⟩ := pair
    have listed := wellFormed.listed_ok found
    have internet := wellFormed.updateCapability _ _ network .internet netCapabilities
      (wellFormed.labelled_ok found (Or.inl rfl)) listed
    have mms := wellFormed.labelled_ok found (Or.inr rfl)
    obtain ⟨services, netServices, same⟩ := registry.updateCapability_keeps
      (registry.supplier supplier).ident (registry.supplier supplier).type network .internet
      netCapabilities
    dsimp only
    rw [same] at internet ⊢
    exact internet.updateCapability _ _ network .mms netCapabilities
      ⟨mms.network, mms.type, mms.ident, mms.capability⟩ listed

/-! ### Steps and runs -/

/-- A key that was not found is free. -/
theorem key_free {netType : UInt32} {ident : String}
    (valid : ¬(netType ≥ NetworkType.max.code ∨ netType ≤ NetworkType.unknown.code))
    (unknown : registry.supplierOfKey netType ident = none) :
    ∀ supplier ∈ registry.netSupplier,
      registry.key supplier ≠ (NetworkType.ofCode netType, ident) := by
  intro supplier listed same
  obtain ⟨sameType, sameIdent⟩ := Prod.mk.inj same
  have missed := List.find?_eq_none.mp unknown supplier listed
  rw [sameType, NetworkType.code_ofCode valid, sameIdent] at missed
  simp only [beq_self_eq_true, Bool.and_self, not_true_eq_false] at missed

theorem register (wellFormed : registry.WellFormed) (netType : UInt32) (ident : String)
    (netCapabilities : UInt64) :
    (registry.register netType ident netCapabilities).WellFormed := by
  unfold Registry.register
  split
  · exact wellFormed
  · rename_i valid
    cases unknown : registry.supplierOfKey netType ident with
    | some _ => exact wellFormed
    | none => exact wellFormed.create _ ident netCapabilities (key_free valid unknown)

theorem step (wellFormed : registry.WellFormed) (action : NetConnService.Action) :
    (registry.step action).WellFormed := by
  cases action with
  | registerNetSupplier netType ident netCapabilities =>
    exact wellFormed.register netType ident netCapabilities
  | unregisterNetSupplier supplierId => exact wellFormed.unregister supplierId
  | updateNetCapabilities supplierId netCapabilities =>
    exact wellFormed.updateCapabilities supplierId netCapabilities
  | updateNetSupplierInfo _ _ => exact wellFormed
  | updateNetLinkInfo _ _ => exact wellFormed
  | registerNetConnCallback _ => exact wellFormed
  | registerNetConnCallbackBySpecifier _ _ => exact wellFormed
  | unregisterNetConnCallback _ => exact wellFormed
  | unregisterNetConnCallbackBySpecifier _ _ => exact wellFormed
  | reConnectServiceTask => exact wellFormed

end WellFormed

end Registry

namespace NetConnService

theorem start_wellFormed (answers : Nat → Int) : (start answers).registry.WellFormed := by
  refine ⟨⟨rfl, rfl, NetIdManager.reserved_zero.symm, ?_, ?_, ?_, ?_⟩, ?_, rfl, List.nodup_nil,
    ?_, ?_, List.nodup_nil, ?_⟩
  · exact fun ref allocated => absurd allocated (Nat.not_lt_zero _)
  · exact fun ref allocated => absurd allocated (Nat.not_lt_zero _)
  · exact fun ref allocated => absurd allocated (Nat.not_lt_zero _)
  · exact fun ref allocated => absurd allocated (Nat.not_lt_zero _)
  · exact fun network member => absurd member List.not_mem_nil
  · exact fun service member => absurd member List.not_mem_nil
  · exact fun service member => absurd member List.not_mem_nil
  · exact fun service same => absurd same (Option.some_ne_none service).symm

theorem step_wellFormed (state : NetConnService) (action : Action)
    (wellFormed : state.registry.WellFormed) : (state.step action).registry.WellFormed := by
  rw [registry_step]
  exact wellFormed.step action

/-- Every state of every run has a well-formed registry. -/
theorem run_wellFormed (answers : Nat → Int) (actions : List Action) :
    (run step (start answers) actions).registry.WellFormed :=
  run_invariant step (fun state => state.registry.WellFormed) step_wellFormed
    (start_wellFormed answers) actions

end NetConnService

end NetManager
