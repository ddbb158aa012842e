/-
This file says what the capability mask of a registration is worth. It is worth
something once: the registration that creates the supplier gives its network the
services the mask asks for, and a registration that finds the supplier returns its
id and does nothing at all.

The services of a new network are read off the keys of the service list again: the
creation appends one key for each capability that is asked for, and no older
service belongs to the network.
-/

import NetManager.Conn.Capabilities

namespace NetManager

open Library

namespace NetCapabilities

theorem isIn_zero (netCapability : NetCapabilities) : netCapability.isIn 0 = false := by
  cases netCapability <;> rfl

theorem requested_eq (netCapabilities : UInt64) :
    requested netCapabilities =
      (if NetCapabilities.internet.isIn netCapabilities then [.internet] else []) ++
        if NetCapabilities.mms.isIn netCapabilities then [.mms] else [] := by
  unfold requested
  cases internet : NetCapabilities.internet.isIn netCapabilities with
  | true =>
    cases mms : NetCapabilities.mms.isIn netCapabilities with
    | true => simp [internet, mms]
    | false => simp [internet, mms]
  | false =>
    cases mms : NetCapabilities.mms.isIn netCapabilities with
    | true => simp [internet, mms]
    | false => simp [internet, mms]

end NetCapabilities

namespace Registry

/-! ### The services of a new supplier -/

theorem createServices_zero (registry : Registry) (ident : String) (type : NetworkType)
    (network : Ref Network) : registry.createServices ident type 0 network = registry := by
  simp [createServices, NetCapabilities.isIn_zero]

theorem holder_enroll {registry : Registry} (wellFormed : registry.WellFormed)
    (type : NetworkType) (ident : String) {network : Ref Network}
    (allocated : registry.identities.networks.Allocated network) :
    (registry.enroll type ident).holder network = registry.holder network := by
  unfold holder
  rw [network_enroll registry type ident allocated]
  exact registry.supplier_enroll type ident (wellFormed.identities.supplier_allocated allocated)

namespace WellFormed

variable {registry : Registry}

/-- The service keys after the services of a network without any were created. -/
theorem serviceKeys_createServices (wellFormed : registry.WellFormed) (ident : String)
    (type : NetworkType) (netCapabilities : UInt64) (network : Ref Network)
    (labelled : registry.identities.Labelled ⟨ident, type, .internet, network⟩)
    (listed : network ∈ registry.networks)
    (free : (network, NetCapabilities.internet) ∉ registry.netServices.map registry.serviceKey) :
    (registry.createServices ident type netCapabilities network).netServices.map
        (registry.createServices ident type netCapabilities network).serviceKey =
      registry.netServices.map registry.serviceKey ++
        (NetCapabilities.requested netCapabilities).map fun netCapability =>
          (network, netCapability) := by
  have internet := wellFormed.serviceKeys_addService ident type .internet network
  rw [NetCapabilities.requested_eq]
  unfold Registry.createServices
  cases NetCapabilities.internet.isIn netCapabilities with
  | false =>
    cases NetCapabilities.mms.isIn netCapabilities with
    | false => simp
    | true => exact wellFormed.serviceKeys_addService ident type .mms network
  | true =>
    cases NetCapabilities.mms.isIn netCapabilities with
    | false => exact internet
    | true =>
      have default := wellFormed.addDefaultService ident type network labelled listed free
      refine (default.serviceKeys_addService ident type .mms network).trans ?_
      rw [show (registry.addDefaultService ident type network).netServices.map
        (registry.addDefaultService ident type network).serviceKey = _ from internet]
      simp

/-- Creating a supplier gives its network the services the mask asks for. -/
theorem capabilitiesOf_create (wellFormed : registry.WellFormed) (type : NetworkType)
    (ident : String) (netCapabilities : UInt64)
    (free : ∀ supplier ∈ registry.netSupplier, registry.key supplier ≠ (type, ident)) :
    ((registry.create type ident netCapabilities).capabilitiesOf
      registry.identities.networks.fresh).Perm (NetCapabilities.requested netCapabilities) := by
  have created := wellFormed.create type ident netCapabilities free
  have unserved (netCapability : NetCapabilities) :
      (registry.identities.networks.fresh, netCapability) ∉
        registry.netServices.map registry.serviceKey := by
    intro member
    obtain ⟨service, listed, same⟩ := List.mem_map.mp member
    have owner := wellFormed.owners service listed
    rw [show (registry.service service).network = registry.identities.networks.fresh from
      (Prod.mk.inj same).1] at owner
    exact registry.identities.networks.fresh_notMem wellFormed.networks owner
  have keys := (wellFormed.enroll type ident free).serviceKeys_createServices ident type
    netCapabilities registry.identities.networks.fresh
    ⟨registry.identities.networks.allocated_fresh _,
      congrArg SupplierIdentity.type (registry.holder_enroll_fresh type ident).symm,
      congrArg SupplierIdentity.ident (registry.holder_enroll_fresh type ident).symm, Or.inl rfl⟩
    (List.mem_append_right _ (List.mem_singleton.mpr rfl)) (unserved .internet)
  refine (List.perm_ext_iff_of_nodup (created.capabilitiesOf_nodup _)
    (NetCapabilities.requested_nodup _)).mpr fun netCapability => ?_
  rw [mem_capabilitiesOf]
  unfold Registry.create
  rw [keys]
  refine Iff.trans List.mem_append (Iff.trans (or_iff_right (unserved netCapability)) ?_)
  simp

/-- While supplier ids are left, the id of a new supplier finds it and its network. -/
theorem supplierAndNetwork_create (wellFormed : registry.WellFormed)
    (few : registry.identities.suppliers.size + 1 ≤ 2 ^ 32 - 0x03EB) (type : NetworkType)
    (ident : String) (netCapabilities : UInt64)
    (free : ∀ supplier ∈ registry.netSupplier, registry.key supplier ≠ (type, ident)) :
    (registry.create type ident netCapabilities).supplierAndNetwork
        registry.identities.nextNetSupplierId =
      .ok (registry.identities.suppliers.fresh, registry.identities.networks.fresh) := by
  have lookup := (wellFormed.enroll type ident free).supplierAndNetwork_listed few
    (List.mem_append_right _ (List.mem_singleton_self registry.identities.networks.fresh))
  rw [holder_enroll_fresh, network_enroll_fresh] at lookup
  refine (supplierAndNetwork_of_membership ?_ _).trans lookup
  exact membership_createServices _ _ _ _ _

end WellFormed

end Registry

/-! ### What a registration offers -/

namespace NetConnService

/-- The mask of a registration counts once: the registration returns an id that finds a supplier
and its network; a network that was created for it offers what the mask asks for, and a supplier
that was there is returned and nothing changes. -/
structure RegistersOnce (state : NetConnService) (netType : UInt32) (ident : String)
    (netCapabilities : UInt64) (supplierId : UInt32) (supplier : Ref NetSupplier)
    (network : Ref Network) : Prop where
  returned : (state.perform (.registerNetSupplier netType ident netCapabilities)).1 =
    asInt32 supplierId
  located : (state.step (.registerNetSupplier netType ident
    netCapabilities)).getSupplierAndNetwork supplierId = .ok (supplier, network)
  created : state.getNetSupplierFromList netType ident = none →
    (state.step (.registerNetSupplier netType ident netCapabilities)).Offers network
      netCapabilities
  found : ∀ known, state.getNetSupplierFromList netType ident = some known →
    known = supplier ∧
      state.step (.registerNetSupplier netType ident netCapabilities) = state

/-- In every state of a run that has created at most as many suppliers as there are net ids, the
mask of a registration counts when it creates the supplier and only then. -/
theorem registersOnce_run (answers : Nat → Int) (actions : List Action)
    (few : (run step (start answers) actions).createdSuppliers ≤ 64512) (netType : UInt32)
    (ident : String) (netCapabilities : UInt64) (valid : ValidType netType) :
    ∃ supplierId supplier network,
      (run step (start answers) actions).RegistersOnce netType ident netCapabilities supplierId
        supplier network := by
  have wellFormed := run_wellFormed answers actions
  generalize run step (start answers) actions = state at few wellFormed ⊢
  have fewIds : state.registry.identities.suppliers.size + 1 ≤ 2 ^ 32 - 0x03EB :=
    le_trans (Nat.succ_le_succ few) (by decide)
  cases looked : state.getNetSupplierFromList netType ident with
  | some known =>
    have registered : known ∈ state.netSupplier := List.mem_of_find?_eq_some looked
    obtain ⟨network, listed, rfl⟩ := wellFormed.exists_network registered
    have performed := perform_register_known valid looked netCapabilities
    have located := wellFormed.supplierAndNetwork_listed (le_trans (Nat.le_succ _) fewIds) listed
    have same : state.step (.registerNetSupplier netType ident netCapabilities) = state :=
      congrArg Prod.snd performed
    refine ⟨_, _, network, congrArg Prod.fst performed, by rw [same]; exact located, ?_, ?_⟩
    · intro unknown
      rw [looked] at unknown
      exact absurd unknown (Option.some_ne_none _)
    · intro supplier found
      exact ⟨Option.some.inj (found.symm.trans looked), same⟩
  | none =>
    have performed := perform_register_new valid looked netCapabilities
    have unknown : state.registry.supplierOfKey netType ident = none := looked
    have free := Registry.WellFormed.key_free valid unknown
    have created := registry_register_new valid looked netCapabilities
    have located := wellFormed.supplierAndNetwork_create fewIds (NetworkType.ofCode netType) ident
      netCapabilities free
    have offered := wellFormed.capabilitiesOf_create _ ident netCapabilities free
    rw [← created] at located offered
    refine ⟨_, _, _, congrArg Prod.fst performed, located, fun _ => offered, fun known found => ?_⟩
    rw [looked] at found
    exact absurd found.symm (Option.some_ne_none _)

/-- A second supplier, with both capabilities. -/
theorem registersOnce_example : ∃ supplierId supplier network,
    (run step (start fun _ => 1) [.registerNetSupplier 1 "slot0" 1]).RegistersOnce 2 "eth0" 3
      supplierId supplier network :=
  registersOnce_run _ _ (by decide) 2 "eth0" 3 (by unfold ValidType; decide)

/-- A supplier registered without capabilities keeps none when it is registered again with
INTERNET. -/
theorem second_registration_offers_nothing :
    ((run step (start fun _ => 1) [.registerNetSupplier 1 "slot0" 0]).perform
        (.registerNetSupplier 1 "slot0" 1)).1 = 1003 ∧
      (run step (start fun _ => 1) [.registerNetSupplier 1 "slot0" 0,
          .registerNetSupplier 1 "slot0" 1]).getSupplierAndNetwork 1003 = .ok (⟨0⟩, ⟨0⟩) ∧
        ¬(run step (start fun _ => 1) [.registerNetSupplier 1 "slot0" 0,
          .registerNetSupplier 1 "slot0" 1]).Offers ⟨0⟩ 1 :=
  ⟨by decide, rfl, by decide⟩

end NetConnService

end NetManager
