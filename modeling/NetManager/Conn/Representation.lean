/-
This file proves the representation invariant of the connection service: its
lists agree with each other and every key the service looks objects up by is a
key. The shape of the lists is the well-formedness of the registry and holds in
every run. That ids are keys is a matter of counting: supplier ids are distinct
while the 32-bit counter has not come round, and net ids are distinct as long as
no more suppliers were created than there are net ids.
-/

import Mathlib.Algebra.Group.Nat.Defs
import NetManager.Conn.WellFormed

namespace NetManager

open Library

/-! ### Ids are keys while their counters last -/

/-- The supplier ids are distinct until the counter comes round. -/
theorem supplierIdAt_injective {first second : Nat} (firstSmall : first < 2 ^ 32 - 0x03EB)
    (secondSmall : second < 2 ^ 32 - 0x03EB) (same : supplierIdAt first = supplierIdAt second) :
    first = second := by
  have firstValue : (supplierIdAt first).toNat = 0x03EB + first :=
    UInt32.toNat_ofNat_of_lt' (show 0x03EB + first < 2 ^ 32 by omega)
  have secondValue : (supplierIdAt second).toNat = 0x03EB + second :=
    UInt32.toNat_ofNat_of_lt' (show 0x03EB + second < 2 ^ 32 by omega)
  rw [same, secondValue] at firstValue
  exact (Nat.add_left_cancel firstValue).symm

namespace Registry.WellFormed

variable {registry : Registry}

/-- Before the counter comes round, a supplier is known by its id. -/
theorem supplierId_injective (wellFormed : registry.WellFormed)
    (few : registry.identities.suppliers.size ≤ 2 ^ 32 - 0x03EB) {first second : Ref NetSupplier}
    (firstAllocated : registry.identities.suppliers.Allocated first)
    (secondAllocated : registry.identities.suppliers.Allocated second)
    (same : (registry.supplier first).supplierId = (registry.supplier second).supplierId) :
    first = second := by
  have firstId := wellFormed.identities.supplierId first firstAllocated
  have secondId := wellFormed.identities.supplierId second secondAllocated
  refine Ref.ext (supplierIdAt_injective (Nat.lt_of_lt_of_le firstAllocated few)
    (Nat.lt_of_lt_of_le secondAllocated few) ?_)
  rw [← firstId, ← secondId]
  exact same

/-- While there are net ids left, a network is known by its net id, which is its number. -/
theorem netId_eq (wellFormed : registry.WellFormed)
    (few : registry.identities.suppliers.size ≤ NetIdManager.capacity) {network : Ref Network}
    (allocated : registry.identities.networks.Allocated network) :
    (registry.network network).netId = network.address := by
  have room : network.address < NetIdManager.capacity := by
    refine Nat.lt_of_lt_of_le ?_ few
    rw [← wellFormed.identities.paired]
    exact allocated
  have identity : registry.network network = _ := wellFormed.identities.network network allocated
  rw [identity]
  exact NetIdManager.netIdAt_of_lt room

theorem netId_injective (wellFormed : registry.WellFormed)
    (few : registry.identities.suppliers.size ≤ NetIdManager.capacity) {first second : Ref Network}
    (firstAllocated : registry.identities.networks.Allocated first)
    (secondAllocated : registry.identities.networks.Allocated second)
    (same : (registry.network first).netId = (registry.network second).netId) :
    first = second := by
  rw [wellFormed.netId_eq few firstAllocated, wellFormed.netId_eq few secondAllocated] at same
  exact Ref.ext (Int.ofNat.inj same)

end Registry.WellFormed

/-! ### The representation invariant -/

namespace NetConnService

/-- How many suppliers were created since the service started. -/
def createdSuppliers (state : NetConnService) : Nat := state.world.supplierHeap.size

/-- What the lists of the service always satisfy: supplier ids and (type, ident) pairs are keys
of the suppliers, the networks are those of the suppliers in the same order, net ids are keys of
the networks, and a service belongs to a listed network, carries the labels of its supplier and
is the only one of that network with its capability. -/
structure RepresentationInvariant (state : NetConnService) : Prop where
  supplierIds :
    (state.netSupplier.map fun supplier => (state.world.supplier supplier).supplierId).Nodup
  supplierKeys :
    (state.netSupplier.map fun supplier =>
      ((state.world.supplier supplier).netSupplierType,
        (state.world.supplier supplier).netSupplierIdent)).Nodup
  networksOfSuppliers :
    state.networks.map (fun network => (state.world.network network).supplier) =
      state.netSupplier
  netIds : (state.networks.map fun network => (state.world.network network).netId).Nodup
  serviceNetworks : ∀ service ∈ state.netServices,
    (state.world.service service).network ∈ state.networks
  serviceTypes : ∀ service ∈ state.netServices,
    (state.world.service service).networkType =
      (state.world.supplier
        (state.world.network (state.world.service service).network).supplier).netSupplierType
  serviceIdents : ∀ service ∈ state.netServices,
    (state.world.service service).ident =
      (state.world.supplier
        (state.world.network (state.world.service service).network).supplier).netSupplierIdent
  serviceCapabilities : ∀ service ∈ state.netServices,
    (state.world.service service).netCapability = .internet ∨
      (state.world.service service).netCapability = .mms
  serviceKeys :
    (state.netServices.map fun service =>
      ((state.world.service service).network,
        (state.world.service service).netCapability)).Nodup

/-- A well-formed registry whose counters last represents its suppliers. -/
theorem RepresentationInvariant.of_wellFormed {state : NetConnService}
    (wellFormed : state.registry.WellFormed)
    (few : state.createdSuppliers ≤ NetIdManager.capacity) : state.RepresentationInvariant := by
  have fewIds : state.registry.identities.suppliers.size ≤ 2 ^ 32 - 0x03EB :=
    le_trans few (by decide)
  have label (service : Ref NetService) (member : service ∈ state.netServices) :=
    wellFormed.identities.service service (wellFormed.services service member)
  refine ⟨?_, wellFormed.keys, wellFormed.suppliers, ?_, wellFormed.owners,
    fun service member => (label service member).type,
    fun service member => (label service member).ident,
    fun service member => (label service member).capability, wellFormed.serviceKeys⟩
  · refine wellFormed.netSupplier_nodup.map_on fun first firstListed second secondListed same => ?_
    exact wellFormed.supplierId_injective fewIds (wellFormed.supplier_allocated firstListed)
      (wellFormed.supplier_allocated secondListed) same
  · refine wellFormed.networks_nodup.map_on fun first firstListed second secondListed same => ?_
    exact wellFormed.netId_injective few (wellFormed.networks first firstListed)
      (wellFormed.networks second secondListed) same

/-- Every state of a run that has created at most as many suppliers as there are net ids
satisfies the representation invariant, whatever the controller answers. -/
theorem representationInvariant_run (answers : Nat → Int) (actions : List Action)
    (few : (run step (start answers) actions).createdSuppliers ≤ 64512) :
    (run step (start answers) actions).RepresentationInvariant :=
  RepresentationInvariant.of_wellFormed (run_wellFormed answers actions) few

/-- Two suppliers, a capability change and an unregistration. -/
theorem representationInvariant_example :
    (run step (start fun _ => 1) [.registerNetSupplier 1 "slot0" 3,
      .registerNetSupplier 2 "eth0" 1, .updateNetCapabilities 1003 2,
      .unregisterNetSupplier 1004]).RepresentationInvariant :=
  representationInvariant_run _ _ (by decide)

end NetConnService

end NetManager
