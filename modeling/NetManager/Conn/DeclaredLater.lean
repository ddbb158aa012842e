/-
This file compares the two ways to declare capabilities: at the registration, or by
`UpdateNetCapabilities` after it. The services are created by the same lines in
both. But the registration also makes a new INTERNET service the default one and
connects it, which the update does not, and the update looks the network up by the
id it is given and tests for services by net id, which the registration does not.

So the two ways end in the same state exactly when the mask lacks INTERNET and
neither look-up meets an older object (`DeclaresAlike`). While supplier ids and net
ids are left the look-ups never do, and the INTERNET bit alone decides.
-/

import Mathlib.Data.List.Find
import NetManager.Conn.DefaultService
import NetManager.Conn.RegisteredCapabilities

namespace NetManager

open Library

/-! ### Registering without INTERNET -/

namespace NetConnService

variable {state : NetConnService}

theorem connectDefaultService_none (noDefault : state.defaultNetService = none) :
    state.connectDefaultService = state := by
  simp only [connectDefaultService, noDefault]

/-- Without INTERNET a new supplier is enrolled and gets the MMS service that is asked for. -/
theorem createSupplier_noInternet (type : NetworkType) (ident : String)
    {netCapabilities : UInt64}
    (noInternet : NetCapabilities.internet.isIn netCapabilities = false) :
    state.createSupplier type ident netCapabilities =
      if NetCapabilities.mms.isIn netCapabilities then
        (state.createSupplier type ident 0).addService ident type .mms
          state.world.networkHeap.fresh
      else state.createSupplier type ident 0 := by
  unfold createSupplier createServices
  simp only [noInternet, NetCapabilities.isIn_zero]
  cases NetCapabilities.mms.isIn netCapabilities with
  | true => rfl
  | false => rfl

theorem registry_createSupplier_zero (state : NetConnService) (type : NetworkType)
    (ident : String) :
    (state.createSupplier type ident 0).registry = state.registry.enroll type ident := by
  rw [registry_createSupplier]
  exact Registry.createServices_zero _ ident type _

/-- Registering without INTERNET leaves a service without default service without one. -/
theorem createSupplier_noDefault (noDefault : state.defaultNetService = none)
    (type : NetworkType) (ident : String) {netCapabilities : UInt64}
    (noInternet : NetCapabilities.internet.isIn netCapabilities = false) :
    (state.createSupplier type ident netCapabilities).defaultNetService = none := by
  rw [createSupplier_noInternet type ident noInternet]
  split
  · exact noDefault
  · exact noDefault

/-! ### Counting services -/

/-- A branch of a capability update adds the service that is asked for and missing, or takes away
the one that is there and not asked for. -/
theorem length_updateCapability (state : NetConnService) (ident : String) (type : NetworkType)
    (network : Ref Network) (netCapability : NetCapabilities) (netCapabilities : UInt64) :
    (state.updateCapability ident type network netCapability netCapabilities).netServices.length +
        (state.isServiceInList (state.world.network network).netId netCapability).toNat =
      state.netServices.length + (netCapability.isIn netCapabilities).toNat := by
  unfold updateCapability
  dsimp only
  cases listed : state.isServiceInList (state.world.network network).netId netCapability with
  | true =>
    obtain ⟨service, member, hit⟩ := List.any_eq_true.mp listed
    cases netCapability.isIn netCapabilities with
    | true => simp
    | false => simpa [deleteServiceFromListByCap] using List.length_eraseP_add_one member hit
  | false =>
    cases netCapability.isIn netCapabilities with
    | true => simp [addService]
    | false => simp

theorem length_createSupplier (state : NetConnService) (type : NetworkType) (ident : String)
    {netCapabilities : UInt64}
    (noInternet : NetCapabilities.internet.isIn netCapabilities = false) :
    (state.createSupplier type ident netCapabilities).netServices.length =
      (state.createSupplier type ident 0).netServices.length +
        (NetCapabilities.mms.isIn netCapabilities).toNat := by
  rw [createSupplier_noInternet type ident noInternet]
  cases NetCapabilities.mms.isIn netCapabilities with
  | true => simp [addService]
  | false => simp

/-- Deleting the service of one capability is not seen by the test for another. -/
theorem isServiceInList_deleteServiceFromListByCap (netId : Int)
    {deleted netCapability : NetCapabilities} (different : deleted ≠ netCapability) :
    (state.deleteServiceFromListByCap netId deleted).isServiceInList netId netCapability =
      state.isServiceInList netId netCapability := by
  have kept : (state.netServices.eraseP (state.isServiceOf netId deleted)).filter
      (state.isServiceOf netId netCapability) =
        state.netServices.filter (state.isServiceOf netId netCapability) := by
    refine filter_eraseP fun service _ hit => ?_
    unfold isServiceOf at hit ⊢
    rw [Bool.and_eq_true, beq_iff_eq, beq_iff_eq] at hit
    rw [← hit.2, beq_false_of_ne different.symm, Bool.and_false]
  refine Bool.eq_iff_iff.mpr ?_
  show (state.netServices.eraseP _).any (state.isServiceOf netId netCapability) = true ↔ _
  unfold isServiceInList
  simp only [List.any_eq_true, ← List.mem_filter, kept]

/-- Both branches of an update without INTERNET together. -/
theorem length_updateNetCapabilities {supplierId : UInt32} {supplier : Ref NetSupplier}
    {network : Ref Network}
    (found : state.getSupplierAndNetwork supplierId = .ok (supplier, network))
    {netCapabilities : UInt64}
    (noInternet : NetCapabilities.internet.isIn netCapabilities = false) :
    (state.updateNetCapabilities supplierId netCapabilities).2.netServices.length +
        (state.isServiceInList (state.world.network network).netId .mms).toNat +
        (state.isServiceInList (state.world.network network).netId .internet).toNat =
      state.netServices.length + (NetCapabilities.mms.isIn netCapabilities).toNat := by
  have first := state.length_updateCapability (state.world.supplier supplier).netSupplierIdent
    (state.world.supplier supplier).netSupplierType network .internet netCapabilities
  have second := (state.updateCapability (state.world.supplier supplier).netSupplierIdent
    (state.world.supplier supplier).netSupplierType network .internet
    netCapabilities).length_updateCapability (state.world.supplier supplier).netSupplierIdent
      (state.world.supplier supplier).netSupplierType network .mms netCapabilities
  have between : (state.updateCapability (state.world.supplier supplier).netSupplierIdent
      (state.world.supplier supplier).netSupplierType network .internet
      netCapabilities).isServiceInList ((state.updateCapability
        (state.world.supplier supplier).netSupplierIdent
        (state.world.supplier supplier).netSupplierType network .internet
        netCapabilities).world.network network).netId .mms =
      state.isServiceInList (state.world.network network).netId .mms := by
    unfold updateCapability
    simp only [noInternet, Bool.false_eq_true, if_false]
    split
    · exact isServiceInList_deleteServiceFromListByCap _ (by decide)
    · rfl
  rw [between] at second
  rw [noInternet, Bool.toNat_false] at first
  rw [updateNetCapabilities_ok found]
  dsimp only
  omega

end NetConnService

/-! ### Look-ups after enrolling a supplier -/

namespace Registry.WellFormed

variable {registry : Registry}

/-- The id of the new supplier finds an older network that has it, or else the new one. -/
theorem networkOfId_enroll (wellFormed : registry.WellFormed) (type : NetworkType)
    (ident : String) :
    (registry.enroll type ident).networkOfId registry.identities.nextNetSupplierId =
      some ((registry.networkOfId registry.identities.nextNetSupplierId).getD
        registry.identities.networks.fresh) := by
  have old : registry.networks.find? (fun network =>
      ((registry.enroll type ident).holder network).supplierId ==
        registry.identities.nextNetSupplierId) =
      registry.networkOfId registry.identities.nextNetSupplierId := by
    refine List.find?_congr fun network listed => ?_
    rw [holder_enroll wellFormed type ident (wellFormed.networks network listed)]
  have new : [registry.identities.networks.fresh].find? (fun network =>
      ((registry.enroll type ident).holder network).supplierId ==
        registry.identities.nextNetSupplierId) = some registry.identities.networks.fresh := by
    refine List.find?_cons_of_pos ?_
    rw [holder_enroll_fresh]
    exact beq_self_eq_true _
  show (registry.networks ++ [registry.identities.networks.fresh]).find? _ = _
  rw [List.find?_append, old, new]
  cases registry.networkOfId registry.identities.nextNetSupplierId with
  | none => rfl
  | some network => rfl

/-- The test for services by net id reads the older networks only. -/
theorem any_isServiceOf_enroll (wellFormed : registry.WellFormed) (type : NetworkType)
    (ident : String) (netId : Int) (netCapability : NetCapabilities) :
    (registry.enroll type ident).netServices.any
        ((registry.enroll type ident).isServiceOf netId netCapability) =
      registry.netServices.any (registry.isServiceOf netId netCapability) := by
  refine Bool.eq_iff_iff.mpr ?_
  rw [List.any_eq_true, List.any_eq_true]
  refine exists_congr fun service => and_congr_right fun member => ?_
  have owner := wellFormed.networks _ (wellFormed.owners service member)
  unfold isServiceOf
  rw [show (registry.enroll type ident).service service = registry.service service from rfl,
    network_enroll registry type ident owner]

end Registry.WellFormed

/-! ### Declaring capabilities later -/

namespace NetConnService

/-- The two states list suppliers, networks and services with the same contents in the same
order, and have the same default service. -/
structure SameState (first second : NetConnService) : Prop where
  suppliers : first.netSupplier.map first.world.supplier =
    second.netSupplier.map second.world.supplier
  networks : first.networks.map first.world.network = second.networks.map second.world.network
  services : first.netServices.map first.world.service =
    second.netServices.map second.world.service
  default : first.defaultNetService.map first.world.service =
    second.defaultNetService.map second.world.service

theorem SameState.refl (state : NetConnService) : state.SameState state := ⟨rfl, rfl, rfl, rfl⟩

/-- The net id of the network that the id of the next supplier will find: that of an older
network with this id, or else the one that will be reserved. -/
def nextNetId (state : NetConnService) : Int :=
  match state.getNetworkFromListBySupplierId state.world.nextNetSupplierId with
  | some network => (state.world.network network).netId
  | none => state.world.netIdManager.reserveNetId.1

/-- Declaring the capabilities at the registration or later comes to the same: INTERNET is not
among them, no listed service has the net id that will be looked for, and where an MMS service
will be created the next supplier id is in use by no listed supplier. -/
structure DeclaresAlike (state : NetConnService) (netCapabilities : UInt64) : Prop where
  noInternet : NetCapabilities.internet.isIn netCapabilities = false
  internetFree : state.isServiceInList state.nextNetId .internet = false
  mmsFree : state.isServiceInList state.nextNetId .mms = false
  idFree : NetCapabilities.mms.isIn netCapabilities = true →
    state.getNetSupplierFromListById state.world.nextNetSupplierId = none

variable {state : NetConnService} {netType : UInt32} {ident : String}

/-- What the update finds after the registration. -/
theorem enrolled_found (wellFormed : state.registry.WellFormed) (type : NetworkType)
    (ident : String)
    (free : ∀ supplier ∈ state.registry.netSupplier,
      state.registry.key supplier ≠ (type, ident)) :
    ∃ supplier, (state.createSupplier type ident 0).getSupplierAndNetwork
        state.world.nextNetSupplierId =
      .ok (supplier, (state.getNetworkFromListBySupplierId
        state.world.nextNetSupplierId).getD state.world.networkHeap.fresh) := by
  have enrolled := registry_createSupplier_zero state type ident
  have after := wellFormed.enroll type ident free
  have owned : (state.createSupplier type ident 0).registry.networkOfId
      state.world.nextNetSupplierId = some ((state.getNetworkFromListBySupplierId
        state.world.nextNetSupplierId).getD state.world.networkHeap.fresh) := by
    rw [enrolled]
    exact wellFormed.networkOfId_enroll type ident
  rw [← enrolled] at after
  rcases getSupplierAndNetwork_cases after state.world.nextNetSupplierId with
    ⟨_, missing⟩ | ⟨supplier, network, found, same, _⟩
  · exact absurd (owned.symm.trans missing) (Option.some_ne_none _)
  · refine ⟨supplier, found.trans ?_⟩
    rw [Option.some.inj (same.symm.trans owned)]

theorem enrolled_netId (wellFormed : state.registry.WellFormed) (type : NetworkType)
    (ident : String) :
    ((state.createSupplier type ident 0).world.network
      ((state.getNetworkFromListBySupplierId state.world.nextNetSupplierId).getD
        state.world.networkHeap.fresh)).netId = state.nextNetId := by
  show ((state.createSupplier type ident 0).registry.network _).netId = _
  rw [registry_createSupplier_zero]
  unfold nextNetId
  cases owned : state.getNetworkFromListBySupplierId state.world.nextNetSupplierId with
  | none => exact congrArg NetworkIdentity.netId (state.registry.network_enroll_fresh type ident)
  | some network =>
    exact congrArg NetworkIdentity.netId (state.registry.network_enroll type ident
      (wellFormed.networks network (List.mem_of_find?_eq_some owned)))

theorem enrolled_isServiceInList (wellFormed : state.registry.WellFormed) (type : NetworkType)
    (ident : String) (netId : Int) (netCapability : NetCapabilities) :
    (state.createSupplier type ident 0).isServiceInList netId netCapability =
      state.isServiceInList netId netCapability := by
  have same := wellFormed.any_isServiceOf_enroll type ident netId netCapability
  rw [← registry_createSupplier_zero] at same
  exact same

/-- An update without INTERNET of a net id without services adds the MMS service asked for. -/
theorem updateNetCapabilities_unserved {supplierId : UInt32} {supplier : Ref NetSupplier}
    {network : Ref Network}
    (found : state.getSupplierAndNetwork supplierId = .ok (supplier, network))
    {netCapabilities : UInt64}
    (noInternet : NetCapabilities.internet.isIn netCapabilities = false)
    (internetFree : state.isServiceInList (state.world.network network).netId .internet = false)
    (mmsFree : state.isServiceInList (state.world.network network).netId .mms = false) :
    (state.updateNetCapabilities supplierId netCapabilities).2 =
      if NetCapabilities.mms.isIn netCapabilities then
        state.addService (state.world.supplier supplier).netSupplierIdent
          (state.world.supplier supplier).netSupplierType .mms network
      else state := by
  rw [updateNetCapabilities_ok found,
    updateCapability_settled _ _ .internet _ (internetFree.trans noInternet.symm)]
  unfold updateCapability
  simp only [mmsFree, Bool.false_eq_true, if_false]

theorem world_service_addService_fresh (state : NetConnService) (ident : String)
    (type : NetworkType) (netCapability : NetCapabilities) (network : Ref Network) :
    (state.addService ident type netCapability network).world.service
        state.world.serviceHeap.fresh =
      { ident := ident, networkType := type, netCapability := netCapability,
        network := network } :=
  state.world.serviceHeap.cell_alloc_fresh _

/-- The network of the service added last can be read off the state. -/
theorem SameState.addService_network {firstIdent secondIdent : String}
    {firstType secondType : NetworkType} {netCapability : NetCapabilities}
    {first second : Ref Network}
    (same : SameState (state.addService firstIdent firstType netCapability first)
      (state.addService secondIdent secondType netCapability second)) : first = second := by
  have services : (state.netServices ++ [state.world.serviceHeap.fresh]).map
      (state.addService firstIdent firstType netCapability first).world.service =
        (state.netServices ++ [state.world.serviceHeap.fresh]).map
          (state.addService secondIdent secondType netCapability second).world.service :=
    same.services
  rw [List.map_append, List.map_append, List.map_singleton, List.map_singleton,
    world_service_addService_fresh, world_service_addService_fresh] at services
  have last := (List.cons.inj (List.append_inj_right' services rfl)).1
  exact congrArg NetService.network last

/-- The new supplier is found under its id unless an older one has the id. -/
theorem enrolled_identity (wellFormed : state.registry.WellFormed) (type : NetworkType)
    (ident : String)
    (free : ∀ supplier ∈ state.registry.netSupplier,
      state.registry.key supplier ≠ (type, ident)) {supplier : Ref NetSupplier}
    (found : (state.createSupplier type ident 0).getSupplierAndNetwork
        state.world.nextNetSupplierId = .ok (supplier, state.world.networkHeap.fresh)) :
    ((state.createSupplier type ident 0).world.supplier supplier).netSupplierIdent = ident ∧
      ((state.createSupplier type ident 0).world.supplier supplier).netSupplierType = type := by
  have after := wellFormed.enroll type ident free
  rw [← registry_createSupplier_zero] at after
  obtain ⟨_, _, held⟩ := after.supplierAndNetwork_ok found
  have labels : (state.createSupplier type ident 0).registry.supplier supplier =
      state.registry.identities.newSupplier type ident := by
    rw [← held, registry_createSupplier_zero]
    exact state.registry.holder_enroll_fresh type ident
  exact ⟨congrArg SupplierIdentity.ident labels, congrArg SupplierIdentity.type labels⟩

/-- What the update after the registration does where it meets no service. -/
theorem updateNetCapabilities_enrolled (wellFormed : state.registry.WellFormed)
    (type : NetworkType) (ident : String) {supplier : Ref NetSupplier}
    (found : (state.createSupplier type ident 0).getSupplierAndNetwork
        state.world.nextNetSupplierId =
      .ok (supplier, (state.getNetworkFromListBySupplierId
        state.world.nextNetSupplierId).getD state.world.networkHeap.fresh))
    {netCapabilities : UInt64}
    (noInternet : NetCapabilities.internet.isIn netCapabilities = false)
    (internetFree : state.isServiceInList state.nextNetId .internet = false)
    (mmsFree : state.isServiceInList state.nextNetId .mms = false) :
    ((state.createSupplier type ident 0).updateNetCapabilities state.world.nextNetSupplierId
        netCapabilities).2 =
      if NetCapabilities.mms.isIn netCapabilities then
        (state.createSupplier type ident 0).addService
          ((state.createSupplier type ident 0).world.supplier supplier).netSupplierIdent
          ((state.createSupplier type ident 0).world.supplier supplier).netSupplierType .mms
          ((state.getNetworkFromListBySupplierId state.world.nextNetSupplierId).getD
            state.world.networkHeap.fresh)
      else state.createSupplier type ident 0 := by
  refine updateNetCapabilities_unserved found noInternet ?_ ?_
  · rw [enrolled_netId wellFormed, enrolled_isServiceInList wellFormed]
    exact internetFree
  · rw [enrolled_netId wellFormed, enrolled_isServiceInList wellFormed]
    exact mmsFree

/-- Where the two ways agree the update met no service: there are as many services either way. -/
theorem SameState.unserved {type : NetworkType} {ident : String} {netCapabilities : UInt64}
    (same : SameState (state.createSupplier type ident netCapabilities)
      ((state.createSupplier type ident 0).updateNetCapabilities state.world.nextNetSupplierId
        netCapabilities).2)
    (wellFormed : state.registry.WellFormed)
    (free : ∀ supplier ∈ state.registry.netSupplier,
      state.registry.key supplier ≠ (type, ident))
    (noInternet : NetCapabilities.internet.isIn netCapabilities = false) :
    state.isServiceInList state.nextNetId .internet = false ∧
      state.isServiceInList state.nextNetId .mms = false := by
  obtain ⟨supplier, found⟩ := enrolled_found wellFormed type ident free
  have declared := length_updateNetCapabilities found noInternet
  rw [enrolled_netId wellFormed, enrolled_isServiceInList wellFormed,
    enrolled_isServiceInList wellFormed] at declared
  have created := state.length_createSupplier type ident noInternet
  have lengths := congrArg List.length same.services
  rw [List.length_map, List.length_map] at lengths
  exact ⟨Bool.toNat_eq_zero.mp (by omega), Bool.toNat_eq_zero.mp (by omega)⟩

/-- Without INTERNET the two ways differ when the update meets an older object, and only then. -/
theorem sameState_enrolled_iff (wellFormed : state.registry.WellFormed) (type : NetworkType)
    (ident : String)
    (free : ∀ supplier ∈ state.registry.netSupplier,
      state.registry.key supplier ≠ (type, ident)) {netCapabilities : UInt64}
    (noInternet : NetCapabilities.internet.isIn netCapabilities = false) :
    SameState (state.createSupplier type ident netCapabilities)
        ((state.createSupplier type ident 0).updateNetCapabilities state.world.nextNetSupplierId
          netCapabilities).2 ↔ state.DeclaresAlike netCapabilities := by
  obtain ⟨supplier, found⟩ := enrolled_found wellFormed type ident free
  have corresponding : state.getNetSupplierFromListById state.world.nextNetSupplierId =
      (state.getNetworkFromListBySupplierId state.world.nextNetSupplierId).map _ :=
    wellFormed.supplierOfId_eq state.world.nextNetSupplierId
  constructor
  · intro same
    obtain ⟨internetFree, mmsFree⟩ := same.unserved wellFormed free noInternet
    refine ⟨noInternet, internetFree, mmsFree, fun asked => ?_⟩
    cases owned : state.getNetworkFromListBySupplierId state.world.nextNetSupplierId with
    | none =>
      rw [owned] at corresponding
      exact corresponding
    | some older =>
      rw [createSupplier_noInternet type ident noInternet,
        updateNetCapabilities_enrolled wellFormed type ident found noInternet internetFree mmsFree,
        owned, asked, if_pos rfl, if_pos rfl] at same
      have listed : older ∈ state.networks := List.mem_of_find?_eq_some owned
      have sameNetwork : state.world.networkHeap.fresh = older := same.addService_network
      rw [← sameNetwork] at listed
      exact absurd listed (state.registry.identities.networks.fresh_notMem wellFormed.networks)
  · intro alike
    rw [createSupplier_noInternet type ident noInternet, updateNetCapabilities_enrolled wellFormed
      type ident found noInternet alike.internetFree alike.mmsFree]
    cases asked : NetCapabilities.mms.isIn netCapabilities with
    | false => exact .refl _
    | true =>
      have missing : state.getNetworkFromListBySupplierId state.world.nextNetSupplierId = none :=
        Option.map_eq_none_iff.mp (corresponding.symm.trans (alike.idFree asked))
      rw [missing] at found ⊢
      obtain ⟨sameIdent, sameType⟩ := enrolled_identity wellFormed type ident free found
      rw [sameIdent, sameType]
      exact .refl _

/-- The registration with INTERNET chooses a default service. -/
theorem default_register_internet (valid : ValidType netType)
    (unknown : state.getNetSupplierFromList netType ident = none) {netCapabilities : UInt64}
    (internet : NetCapabilities.internet.isIn netCapabilities = true) :
    (state.step (.registerNetSupplier netType ident netCapabilities)).defaultNetService =
      some state.world.serviceHeap.fresh := by
  have registry := registry_register_new valid unknown netCapabilities
  refine (congrArg Registry.defaultNetService registry).trans ?_
  exact (Registry.defaultNetService_create _ _ _ _).trans (if_pos internet)

/-- An update of capabilities never chooses a default service. -/
theorem default_updateNetCapabilities (state : NetConnService) (supplierId : UInt32)
    (netCapabilities : UInt64) :
    (state.updateNetCapabilities supplierId netCapabilities).2.defaultNetService =
      state.defaultNetService := by
  have registry := registry_updateNetCapabilities state supplierId netCapabilities
  refine (congrArg Registry.defaultNetService registry).trans ?_
  unfold Registry.updateCapabilities
  split
  · rfl
  · exact (Registry.updateCapabilities_keeps _ _ _ _ _).1

/-- In every state of a run without a default service, registering a new supplier with a mask
and registering it without one and declaring the mask later end in the same state exactly when
the mask lacks INTERNET and the update meets no older object. -/
theorem sameState_run_iff (answers : Nat → Int) (actions : List Action) (netType : UInt32)
    (ident : String) (netCapabilities : UInt64) (supplierId : UInt32) (valid : ValidType netType)
    (unknown : (run step (start answers) actions).getNetSupplierFromList netType ident = none)
    (noDefault : (run step (start answers) actions).defaultNetService = none)
    (returned : ((run step (start answers) actions).perform
      (.registerNetSupplier netType ident 0)).1 = asInt32 supplierId) :
    SameState
        (step (run step (start answers) actions)
          (.registerNetSupplier netType ident netCapabilities))
        (run step (run step (start answers) actions) [.registerNetSupplier netType ident 0,
          .updateNetCapabilities supplierId netCapabilities]) ↔
      (run step (start answers) actions).DeclaresAlike netCapabilities := by
  have wellFormed := run_wellFormed answers actions
  generalize run step (start answers) actions = state at unknown noDefault returned wellFormed ⊢
  have bare : state.step (.registerNetSupplier netType ident 0) =
      state.createSupplier (NetworkType.ofCode netType) ident 0 := by
    unfold step
    rw [perform_register_new valid unknown]
    exact connectDefaultService_none
      (createSupplier_noDefault noDefault _ ident (NetCapabilities.isIn_zero _))
  obtain rfl : supplierId = state.world.nextNetSupplierId := by
    rw [perform_register_new valid unknown] at returned
    exact (asInt32_injective returned).symm
  have key : state.registry.supplierOfKey netType ident = none := unknown
  rw [run_cons, run_cons, run_nil, bare]
  show SameState _ ((state.createSupplier _ ident 0).updateNetCapabilities _ _).2 ↔ _
  cases internet : NetCapabilities.internet.isIn netCapabilities with
  | true =>
    refine iff_of_false (fun same => ?_) fun alike => ?_
    · have default := same.default
      rw [default_register_internet valid unknown internet, default_updateNetCapabilities,
        createSupplier_noDefault noDefault _ ident (NetCapabilities.isIn_zero _)] at default
      exact absurd default (Option.some_ne_none _)
    · exact absurd (internet.symm.trans alike.noInternet) (by decide)
  | false =>
    have created : state.step (.registerNetSupplier netType ident netCapabilities) =
        state.createSupplier (NetworkType.ofCode netType) ident netCapabilities := by
      unfold step
      rw [perform_register_new valid unknown]
      exact connectDefaultService_none (createSupplier_noDefault noDefault _ ident internet)
    rw [created]
    exact sameState_enrolled_iff wellFormed _ ident (Registry.WellFormed.key_free valid key)
      internet

/-- An MMS supplier next to an ethernet one. -/
theorem sameState_example :
    SameState
      (step (run step (start fun _ => 1) [.registerNetSupplier 2 "eth0" 0])
        (.registerNetSupplier 1 "slot0" 2))
      (run step (run step (start fun _ => 1) [.registerNetSupplier 2 "eth0" 0])
        [.registerNetSupplier 1 "slot0" 0, .updateNetCapabilities 1004 2]) :=
  (sameState_run_iff _ _ 1 "slot0" 2 1004 (by unfold ValidType; decide) (by decide) (by decide)
    (by decide)).mpr ⟨by decide, by decide, by decide, by decide⟩

/-- INTERNET declared at the registration becomes the default service, and declared later it
does not. -/
theorem internet_declared_later_differs :
    ((start fun _ => 1).perform (.registerNetSupplier 1 "slot0" 0)).1 = 1003 ∧
      ¬SameState (step (start fun _ => 1) (.registerNetSupplier 1 "slot0" 1))
        (run step (start fun _ => 1) [.registerNetSupplier 1 "slot0" 0,
          .updateNetCapabilities 1003 1]) :=
  ⟨by decide, fun same => absurd same.default (by decide)⟩

/-- While supplier ids and net ids are left, the INTERNET bit alone decides. -/
theorem declaresAlike_iff (wellFormed : state.registry.WellFormed)
    (few : state.createdSuppliers < NetIdManager.capacity) (netCapabilities : UInt64) :
    state.DeclaresAlike netCapabilities ↔
      NetCapabilities.internet.isIn netCapabilities = false := by
  have unknown : state.getNetSupplierFromListById state.world.nextNetSupplierId = none := by
    refine List.find?_eq_none.mpr fun supplier listed same => ?_
    have allocated := wellFormed.supplier_allocated listed
    have id := wellFormed.identities.supplierId supplier allocated
    have next := wellFormed.identities.nextId
    have earlier : supplier.address < state.createdSuppliers := allocated
    rw [beq_iff_eq] at same
    have equal := supplierIdAt_injective (lt_trans few (by decide))
      (lt_trans (lt_trans earlier few) (by decide)) ((next.symm.trans same).trans id)
    exact absurd equal.symm (Nat.ne_of_lt earlier)
  have missing : state.getNetworkFromListBySupplierId state.world.nextNetSupplierId = none :=
    Option.map_eq_none_iff.mp
      ((wellFormed.supplierOfId_eq state.world.nextNetSupplierId).symm.trans unknown)
  have paired := wellFormed.identities.paired
  have reserved : state.nextNetId = state.createdSuppliers := by
    have pool : state.world.netIdManager =
      NetIdManager.reserved state.registry.identities.networks.size := wellFormed.identities.pool
    unfold nextNetId
    rw [missing, pool, NetIdManager.reserveNetId_reserved, paired]
    exact NetIdManager.netIdAt_of_lt few
  have unserved (netCapability : NetCapabilities) :
      state.isServiceInList state.nextNetId netCapability = false := by
    refine List.any_eq_false.mpr fun service member hit => ?_
    have owner := wellFormed.networks _ (wellFormed.owners service member)
    have earlier : _ < state.registry.identities.networks.size := owner
    have own := wellFormed.netId_eq (le_of_lt few) owner
    unfold isServiceOf at hit
    rw [Bool.and_eq_true, beq_iff_eq, reserved] at hit
    have equal := Int.ofNat.inj (own.symm.trans hit.1)
    rw [paired] at earlier
    exact absurd equal (Nat.ne_of_lt earlier)
  exact ⟨fun alike => alike.noInternet,
    fun noInternet => ⟨noInternet, unserved .internet, unserved .mms, fun _ => unknown⟩⟩

end NetConnService

end NetManager
