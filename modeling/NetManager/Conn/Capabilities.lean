/-
This file says which services a network is left with when its supplier declares
capabilities. A declaration tests for a service and deletes it by net id and
capability, over a list all suppliers share, and deletes the first match only.
Well-formedness makes this exact: the pairs of network and capability are keys of
the service list, and while net ids are left the net id stands for the network, so
the first match is the service of that network or there is none.

One branch of `UpdateNetCapabilities` therefore sets one key of the list
(`mem_serviceKeys_updateCapability`); everything else follows from the keys.
-/

import NetManager.Conn.Isolation

namespace NetManager

open Library

/-- The capabilities a mask asks for, of those services are made for. -/
def NetCapabilities.requested (netCapabilities : UInt64) : List NetCapabilities :=
  [NetCapabilities.internet, .mms].filter fun netCapability => netCapability.isIn netCapabilities

@[simp] theorem NetCapabilities.mem_requested (netCapabilities : UInt64)
    (netCapability : NetCapabilities) :
    netCapability ∈ requested netCapabilities ↔
      (netCapability = .internet ∨ netCapability = .mms) ∧
        netCapability.isIn netCapabilities = true := by
  simp [requested]

theorem NetCapabilities.requested_nodup (netCapabilities : UInt64) :
    (requested netCapabilities).Nodup :=
  List.Nodup.filter _ (by decide)

namespace Registry

/-! ### Service keys -/

/-- The capabilities of the listed services of a network. -/
def capabilitiesOf (registry : Registry) (network : Ref Network) : List NetCapabilities :=
  (registry.servicesOf network).map fun service => (registry.service service).netCapability

@[simp] theorem mem_servicesOf (registry : Registry) (network : Ref Network)
    (service : Ref NetService) :
    service ∈ registry.servicesOf network ↔
      service ∈ registry.netServices ∧ (registry.service service).network = network := by
  simp [servicesOf]

/-- A network has the capabilities its key is listed with. -/
theorem mem_capabilitiesOf (registry : Registry) (network : Ref Network)
    (netCapability : NetCapabilities) :
    netCapability ∈ registry.capabilitiesOf network ↔
      (network, netCapability) ∈ registry.netServices.map registry.serviceKey := by
  simp [capabilitiesOf, serviceKey, and_assoc]

namespace WellFormed

variable {registry : Registry}

/-- A network has a capability once at most. -/
theorem capabilitiesOf_nodup (wellFormed : registry.WellFormed) (network : Ref Network) :
    (registry.capabilitiesOf network).Nodup := by
  have keys : ((registry.servicesOf network).map registry.serviceKey).Nodup :=
    wellFormed.serviceKeys.sublist (List.filter_sublist.map _)
  have paired : (registry.servicesOf network).map registry.serviceKey =
      (registry.capabilitiesOf network).map fun netCapability => (network, netCapability) := by
    unfold capabilitiesOf
    rw [List.map_map]
    refine List.map_congr_left fun service member => ?_
    have owner := ((registry.mem_servicesOf network service).mp member).2
    exact Prod.ext owner rfl
  rw [paired] at keys
  exact keys.of_map

/-- While net ids are left, the test by net id and capability is a test of the key. -/
theorem isServiceOf_iff (wellFormed : registry.WellFormed)
    (few : registry.identities.suppliers.size ≤ NetIdManager.capacity) {network : Ref Network}
    (listed : network ∈ registry.networks) (netCapability : NetCapabilities)
    {service : Ref NetService} (member : service ∈ registry.netServices) :
    registry.isServiceOf (registry.network network).netId netCapability service = true ↔
      registry.serviceKey service = (network, netCapability) := by
  have owner := wellFormed.owners service member
  unfold isServiceOf serviceKey
  rw [Bool.and_eq_true, beq_iff_eq, beq_iff_eq, Prod.mk.injEq]
  refine and_congr ⟨fun same => ?_, fun same => by rw [same]⟩ eq_comm
  exact wellFormed.netId_injective few (wellFormed.networks _ owner)
    (wellFormed.networks network listed) same

theorem any_isServiceOf_iff (wellFormed : registry.WellFormed)
    (few : registry.identities.suppliers.size ≤ NetIdManager.capacity) {network : Ref Network}
    (listed : network ∈ registry.networks) (netCapability : NetCapabilities) :
    registry.netServices.any
        (registry.isServiceOf (registry.network network).netId netCapability) = true ↔
      (network, netCapability) ∈ registry.netServices.map registry.serviceKey := by
  rw [List.any_eq_true, List.mem_map]
  refine exists_congr fun service => and_congr_right fun member => ?_
  exact wellFormed.isServiceOf_iff few listed netCapability member

/-- Deleting by net id and capability deletes the key. -/
theorem serviceKeys_eraseP (wellFormed : registry.WellFormed)
    (few : registry.identities.suppliers.size ≤ NetIdManager.capacity) {network : Ref Network}
    (listed : network ∈ registry.networks) (netCapability : NetCapabilities) :
    (registry.netServices.eraseP (registry.isServiceOf (registry.network network).netId
        netCapability)).map registry.serviceKey =
      (registry.netServices.map registry.serviceKey).erase (network, netCapability) :=
  map_eraseP fun _ member => wellFormed.isServiceOf_iff few listed netCapability member

/-- One branch of a capability update sets one key: whether it is listed afterwards is what the
mask says, and the other keys stay as they are. -/
theorem mem_serviceKeys_updateCapability (wellFormed : registry.WellFormed)
    (few : registry.identities.suppliers.size ≤ NetIdManager.capacity) (ident : String)
    (type : NetworkType) {network : Ref Network} (listed : network ∈ registry.networks)
    (netCapability : NetCapabilities) (netCapabilities : UInt64)
    (key : Ref Network × NetCapabilities) :
    key ∈ (registry.updateCapability ident type network netCapability
          netCapabilities).netServices.map
        (registry.updateCapability ident type network netCapability
          netCapabilities).serviceKey ↔
      if key = (network, netCapability) then netCapability.isIn netCapabilities = true
      else key ∈ registry.netServices.map registry.serviceKey := by
  have tested := wellFormed.any_isServiceOf_iff few listed netCapability
  unfold Registry.updateCapability
  dsimp only
  cases asked : netCapability.isIn netCapabilities with
  | true =>
    rw [if_pos rfl]
    split
    · rename_i present
      have member := tested.mp present
      split
      · rename_i same
        rw [same]
        exact iff_of_true member rfl
      · rfl
    · rw [wellFormed.serviceKeys_addService, List.mem_append, List.mem_singleton]
      split
      · rename_i same
        exact iff_of_true (Or.inr same) rfl
      · rename_i other
        exact or_iff_left other
  | false =>
    rw [if_neg Bool.false_ne_true]
    split
    · have erased := wellFormed.serviceKeys_eraseP few listed netCapability
      show key ∈ (registry.netServices.eraseP _).map registry.serviceKey ↔ _
      rw [erased, wellFormed.serviceKeys.mem_erase_iff]
      split
      · rename_i same
        exact iff_of_false (fun member => member.1 same) Bool.false_ne_true
      · rename_i other
        exact and_iff_right other
    · rename_i absent
      split
      · rename_i same
        rw [same]
        exact iff_of_false (fun member => absent (tested.mpr member)) Bool.false_ne_true
      · rfl

/-- A wanted service is no victim of a branch, neither of its own nor of the other one. -/
theorem wanted_updateCapability (wellFormed : registry.WellFormed) (ident : String)
    (type : NetworkType) (network : Ref Network) (netCapability : NetCapabilities)
    (netCapabilities : UInt64) {service : Ref NetService}
    (member : service ∈ registry.netServices)
    (wanted : (registry.service service).netCapability.isIn netCapabilities = true) :
    service ∈ (registry.updateCapability ident type network netCapability
      netCapabilities).netServices := by
  refine (wellFormed.mem_netServices_updateCapability ident type network netCapability
    netCapabilities (wellFormed.services service member)).mpr ⟨member, ?_⟩
  refine or_iff_not_imp_left.mpr fun lacks found => lacks ?_
  have hit := List.find?_some found
  unfold isServiceOf at hit
  rw [Bool.and_eq_true] at hit
  rw [eq_of_beq hit.2]
  exact wanted

/-! ### Both branches -/

/-- Services are made for two capabilities only. -/
theorem served (wellFormed : registry.WellFormed) {network : Ref Network}
    {netCapability : NetCapabilities}
    (member : (network, netCapability) ∈ registry.netServices.map registry.serviceKey) :
    netCapability = .internet ∨ netCapability = .mms := by
  obtain ⟨service, listed, same⟩ := List.mem_map.mp member
  have label := wellFormed.identities.service service (wellFormed.services service listed)
  rw [← (Prod.mk.inj same).2]
  exact label.capability

end WellFormed

/-- The lookup the updates share reads the membership only. -/
theorem supplierAndNetwork_of_membership {first second : Registry}
    (same : first.membership = second.membership) (supplierId : UInt32) :
    first.supplierAndNetwork supplierId = second.supplierAndNetwork supplierId := by
  obtain ⟨suppliers, networkHeap, _, networks, netSupplier⟩ := Membership.mk.inj same
  unfold supplierAndNetwork supplierOfId networkOfId holder supplier network
  rw [suppliers, networkHeap, networks, netSupplier]

theorem updateCapabilities_ok {registry : Registry} {supplierId : UInt32}
    {supplier : Ref NetSupplier} {network : Ref Network}
    (found : registry.supplierAndNetwork supplierId = .ok (supplier, network))
    (netCapabilities : UInt64) :
    registry.updateCapabilities supplierId netCapabilities =
      (registry.updateCapability (registry.supplier supplier).ident
          (registry.supplier supplier).type network .internet netCapabilities).updateCapability
        (registry.supplier supplier).ident (registry.supplier supplier).type network .mms
        netCapabilities := by
  simp only [updateCapabilities, found]

namespace WellFormed

variable {registry : Registry} {supplierId : UInt32} {supplier : Ref NetSupplier}
  {network : Ref Network}

/-- A network has the capabilities that were declared for its supplier, and no other. -/
theorem mem_capabilitiesOf_updateCapabilities (wellFormed : registry.WellFormed)
    (few : registry.identities.suppliers.size ≤ NetIdManager.capacity)
    (found : registry.supplierAndNetwork supplierId = .ok (supplier, network))
    (netCapabilities : UInt64) (netCapability : NetCapabilities) :
    netCapability ∈ (registry.updateCapabilities supplierId netCapabilities).capabilitiesOf
        network ↔ netCapability ∈ NetCapabilities.requested netCapabilities := by
  have listed := wellFormed.listed_ok found
  have membership := registry.membership_updateCapability (registry.supplier supplier).ident
    (registry.supplier supplier).type network .internet netCapabilities
  have internet := wellFormed.updateCapability (registry.supplier supplier).ident
    (registry.supplier supplier).type network .internet netCapabilities
    (wellFormed.labelled_ok found (Or.inl rfl)) listed
  have suppliers := congrArg (Heap.size ∘ Membership.suppliers) membership
  have networks := congrArg Membership.networks membership
  have served : (network, netCapability) ∈ registry.netServices.map registry.serviceKey → _ :=
    wellFormed.served
  rw [mem_capabilitiesOf, updateCapabilities_ok found,
    internet.mem_serviceKeys_updateCapability (le_of_eq_of_le suppliers few) _ _
      (by rw [show Registry.networks _ = registry.networks from networks]; exact listed),
    wellFormed.mem_serviceKeys_updateCapability few _ _ listed, NetCapabilities.mem_requested]
  cases netCapability with
  | internet => simp
  | mms => simp
  | none => simpa using served
  | max => simpa using served

/-- A network has each declared capability once. -/
theorem capabilitiesOf_updateCapabilities (wellFormed : registry.WellFormed)
    (few : registry.identities.suppliers.size ≤ NetIdManager.capacity)
    (found : registry.supplierAndNetwork supplierId = .ok (supplier, network))
    (netCapabilities : UInt64) :
    ((registry.updateCapabilities supplierId netCapabilities).capabilitiesOf network).Perm
      (NetCapabilities.requested netCapabilities) := by
  have distinct := (wellFormed.updateCapabilities supplierId netCapabilities).capabilitiesOf_nodup
    network
  refine (List.perm_ext_iff_of_nodup distinct (NetCapabilities.requested_nodup _)).mpr ?_
  exact wellFormed.mem_capabilitiesOf_updateCapabilities few found netCapabilities

/-- A wanted service of the network is still listed for it. -/
theorem wanted_updateCapabilities (wellFormed : registry.WellFormed)
    (found : registry.supplierAndNetwork supplierId = .ok (supplier, network))
    (netCapabilities : UInt64) {service : Ref NetService}
    (member : service ∈ registry.servicesOf network)
    (wanted : (registry.service service).netCapability.isIn netCapabilities = true) :
    service ∈ (registry.updateCapabilities supplierId netCapabilities).servicesOf network := by
  obtain ⟨listed, owner⟩ := (registry.mem_servicesOf network service).mp member
  have internet := wellFormed.updateCapability (registry.supplier supplier).ident
    (registry.supplier supplier).type network .internet netCapabilities
    (wellFormed.labelled_ok found (Or.inl rfl)) (wellFormed.listed_ok found)
  obtain ⟨first, allocated⟩ := registry.service_updateCapability
    (registry.supplier supplier).ident (registry.supplier supplier).type network .internet
    netCapabilities (wellFormed.services service listed)
  obtain ⟨second, _⟩ := service_updateCapability _ (registry.supplier supplier).ident
    (registry.supplier supplier).type network .mms netCapabilities allocated
  have stays := wellFormed.wanted_updateCapability (registry.supplier supplier).ident
    (registry.supplier supplier).type network .internet netCapabilities listed wanted
  rw [updateCapabilities_ok found, mem_servicesOf, second, first]
  refine ⟨internet.wanted_updateCapability _ _ network .mms netCapabilities stays ?_, owner⟩
  rw [first]
  exact wanted

/-- While supplier ids are left, the id of a listed supplier finds it and its network. -/
theorem supplierAndNetwork_listed (wellFormed : registry.WellFormed)
    (few : registry.identities.suppliers.size ≤ 2 ^ 32 - 0x03EB)
    (listed : network ∈ registry.networks) :
    registry.supplierAndNetwork (registry.holder network).supplierId =
      .ok ((registry.network network).supplier, network) := by
  have owned : registry.networkOfId (registry.holder network).supplierId = some network := by
    cases found : registry.networkOfId (registry.holder network).supplierId with
    | none =>
      have missed := List.find?_eq_none.mp found network listed
      simp at missed
    | some other =>
      have otherListed : other ∈ registry.networks := List.mem_of_find?_eq_some found
      have same := List.find?_some found
      rw [beq_iff_eq] at same
      have suppliers := wellFormed.supplierId_injective few
        (wellFormed.identities.supplier_allocated (wellFormed.networks other otherListed))
        (wellFormed.identities.supplier_allocated (wellFormed.networks network listed)) same
      exact congrArg some (List.inj_on_of_nodup_map wellFormed.holderKeys otherListed listed
        (congrArg registry.key suppliers))
  have byId := wellFormed.supplierOfId_eq (registry.holder network).supplierId
  rw [owned] at byId
  unfold supplierAndNetwork
  rw [byId]
  dsimp only [Option.map_some]
  rw [show (registry.supplier (registry.network network).supplier).supplierId =
    (registry.holder network).supplierId from rfl, owned]

end WellFormed

end Registry

/-! ### Declaring capabilities -/

namespace NetConnService

/-- The capabilities of the listed services of a network. -/
def capabilitiesOf (state : NetConnService) (network : Ref Network) : List NetCapabilities :=
  (state.servicesOf network).map fun service => (state.world.service service).netCapability

/-- The network has one service for each capability the mask asks for, and no other service. -/
def Offers (state : NetConnService) (network : Ref Network) (netCapabilities : UInt64) : Prop :=
  (state.capabilitiesOf network).Perm (NetCapabilities.requested netCapabilities)

instance (state : NetConnService) (network : Ref Network) (netCapabilities : UInt64) :
    Decidable (state.Offers network netCapabilities) :=
  inferInstanceAs (Decidable (List.Perm _ _))

/-- What declaring capabilities for a supplier does: it succeeds, its network has exactly the
services that were asked for, those it had and keeps are the same objects holding what they held,
and declaring them again does nothing. -/
structure Declares (state : NetConnService) (supplierId : UInt32) (network : Ref Network)
    (netCapabilities : UInt64) : Prop where
  returned : (state.updateNetCapabilities supplierId netCapabilities).1 = .none
  offered : (state.updateNetCapabilities supplierId netCapabilities).2.Offers network
    netCapabilities
  kept : ∀ service ∈ state.servicesOf network,
    (state.world.service service).netCapability.isIn netCapabilities = true →
      service ∈ (state.updateNetCapabilities supplierId netCapabilities).2.servicesOf network ∧
        (state.updateNetCapabilities supplierId netCapabilities).2.world.service service =
          state.world.service service
  repeated :
    (state.updateNetCapabilities supplierId netCapabilities).2.updateNetCapabilities supplierId
        netCapabilities =
      (.none, (state.updateNetCapabilities supplierId netCapabilities).2)

variable {state : NetConnService} {supplierId : UInt32} {supplier : Ref NetSupplier}
  {network : Ref Network}

theorem updateNetCapabilities_ok
    (found : state.getSupplierAndNetwork supplierId = .ok (supplier, network))
    (netCapabilities : UInt64) :
    state.updateNetCapabilities supplierId netCapabilities =
      (.none, (state.updateCapability (state.world.supplier supplier).netSupplierIdent
          (state.world.supplier supplier).netSupplierType network .internet
          netCapabilities).updateCapability (state.world.supplier supplier).netSupplierIdent
        (state.world.supplier supplier).netSupplierType network .mms netCapabilities) := by
  simp only [updateNetCapabilities, found]

/-- A branch does nothing when the service is there exactly if it is wanted. -/
theorem updateCapability_settled (ident : String) (type : NetworkType)
    (netCapability : NetCapabilities) (netCapabilities : UInt64)
    (settled : state.isServiceInList (state.world.network network).netId netCapability =
      netCapability.isIn netCapabilities) :
    state.updateCapability ident type network netCapability netCapabilities = state := by
  unfold updateCapability
  dsimp only
  rw [settled]
  cases netCapability.isIn netCapabilities with
  | true => simp
  | false => simp

/-- A declaration does nothing when the network has what is asked for. -/
theorem updateNetCapabilities_settled (wellFormed : state.registry.WellFormed)
    (few : state.createdSuppliers ≤ NetIdManager.capacity)
    (found : state.getSupplierAndNetwork supplierId = .ok (supplier, network))
    {netCapabilities : UInt64} (offered : state.Offers network netCapabilities) :
    state.updateNetCapabilities supplierId netCapabilities = (.none, state) := by
  have settled (netCapability : NetCapabilities)
      (served : netCapability = .internet ∨ netCapability = .mms) :
      state.isServiceInList (state.world.network network).netId netCapability =
        netCapability.isIn netCapabilities := by
    refine Bool.eq_iff_iff.mpr (Iff.trans (wellFormed.any_isServiceOf_iff few
      (wellFormed.listed_ok found) netCapability) ?_)
    rw [← Registry.mem_capabilitiesOf]
    refine Iff.trans offered.mem_iff ?_
    rw [NetCapabilities.mem_requested]
    exact and_iff_right served
  rw [updateNetCapabilities_ok found,
    updateCapability_settled _ _ _ _ (settled .internet (Or.inl rfl)),
    updateCapability_settled _ _ _ _ (settled .mms (Or.inr rfl))]

theorem declares (wellFormed : state.registry.WellFormed)
    (few : state.createdSuppliers ≤ NetIdManager.capacity)
    (found : state.getSupplierAndNetwork supplierId = .ok (supplier, network))
    (netCapabilities : UInt64) : state.Declares supplierId network netCapabilities := by
  have after := registry_updateNetCapabilities state supplierId netCapabilities
  have membership := state.registry.membership_updateCapabilities supplierId netCapabilities
  have offered : (state.updateNetCapabilities supplierId netCapabilities).2.Offers network
      netCapabilities := by
    have perm := wellFormed.capabilitiesOf_updateCapabilities few found netCapabilities
    rw [← after] at perm
    exact perm
  refine ⟨?_, offered, fun service member wanted => ⟨?_, ?_⟩, ?_⟩
  · rw [updateNetCapabilities_ok found]
  · have stays := wellFormed.wanted_updateCapabilities found netCapabilities member wanted
    rw [← after] at stays
    exact stays
  · have spares := updateNetCapabilities_spares state supplierId netCapabilities supplier network
    exact (spares.services service (wellFormed.services service
      ((state.registry.mem_servicesOf network service).mp member).1)).2
  · have still := wellFormed.updateCapabilities supplierId netCapabilities
    have lookup := Registry.supplierAndNetwork_of_membership membership supplierId
    have size := congrArg (Heap.size ∘ Membership.suppliers) membership
    rw [← after] at still lookup size
    exact updateNetCapabilities_settled still (le_of_eq_of_le size few) (lookup.trans found)
      offered

/-- In every state of a run that has created at most as many suppliers as there are net ids,
declaring capabilities for a registered supplier leaves its network with exactly the services
that were asked for. -/
theorem declares_run (answers : Nat → Int) (actions : List Action)
    (few : (run step (start answers) actions).createdSuppliers ≤ 64512)
    (netCapabilities : UInt64) :
    ∀ supplier ∈ (run step (start answers) actions).netSupplier,
      ∃ network ∈ (run step (start answers) actions).networks,
        ((run step (start answers) actions).world.network network).supplier = supplier ∧
          (run step (start answers) actions).Declares
            ((run step (start answers) actions).world.supplier supplier).supplierId network
            netCapabilities := by
  have wellFormed := run_wellFormed answers actions
  intro supplier registered
  obtain ⟨network, listed, rfl⟩ := wellFormed.exists_network registered
  refine ⟨network, listed, rfl, ?_⟩
  exact declares wellFormed few
    (wellFormed.supplierAndNetwork_listed (le_trans few (by decide)) listed) netCapabilities

/-- A supplier with an INTERNET service that now asks for MMS only. -/
theorem declares_example :
    ∃ network ∈ (run step (start fun _ => 1) [.registerNetSupplier 1 "slot0" 1]).networks,
      ((run step (start fun _ => 1) [.registerNetSupplier 1 "slot0" 1]).world.network
          network).supplier = ⟨0⟩ ∧
        (run step (start fun _ => 1) [.registerNetSupplier 1 "slot0" 1]).Declares 1003 network
          2 :=
  declares_run _ _ (by decide) 2 ⟨0⟩ (by decide)

end NetConnService

end NetManager
