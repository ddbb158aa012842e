/-
This file says what an action can do to the membership of the registry, that is to
everything but the services: it enrols one supplier with its network, it removes one
supplier with its network, or it leaves the membership as it was. The three cases are
told apart by the action and by what its lookups find, so an invariant of suppliers,
networks or ids has three cases to check instead of ten actions to unfold.
-/

import NetManager.Conn.WellFormed

namespace NetManager

open Library

/-! ### Membership -/

/-- Which suppliers and networks exist and are listed, and which net ids are in use. -/
structure Membership where
  suppliers : Heap NetSupplier SupplierIdentity
  networkHeap : Heap Network NetworkIdentity
  netIdManager : NetIdManager
  networks : List (Ref Network)
  netSupplier : List (Ref NetSupplier)

namespace Registry

/-- The membership of a registry. -/
def membership (registry : Registry) : Membership where
  suppliers := registry.identities.suppliers
  networkHeap := registry.identities.networks
  netIdManager := registry.identities.netIdManager
  networks := registry.networks
  netSupplier := registry.netSupplier

theorem membership_createServices (registry : Registry) (ident : String) (type : NetworkType)
    (netCapabilities : UInt64) (network : Ref Network) :
    (registry.createServices ident type netCapabilities network).membership =
      registry.membership :=
  createServices_keeps (motive := fun after => after.membership = registry.membership) rfl
    ident type netCapabilities network id fun _ same => same

theorem membership_updateCapability (registry : Registry) (ident : String) (type : NetworkType)
    (network : Ref Network) (netCapability : NetCapabilities) (netCapabilities : UInt64) :
    (registry.updateCapability ident type network netCapability netCapabilities).membership =
      registry.membership := by
  obtain ⟨_, _, same⟩ := registry.updateCapability_keeps ident type network netCapability
    netCapabilities
  rw [same]
  rfl

theorem membership_updateCapabilities (registry : Registry) (supplierId : UInt32)
    (netCapabilities : UInt64) :
    (registry.updateCapabilities supplierId netCapabilities).membership =
      registry.membership := by
  unfold updateCapabilities
  split
  · rfl
  · dsimp only
    rw [membership_updateCapability, membership_updateCapability]

/-! ### What an action can do -/

/-- The registration creates a supplier: its type is valid and its key is unknown. -/
def Creates (registry : Registry) (netType : UInt32) (ident : String) : Prop :=
  ¬(netType ≥ NetworkType.max.code ∨ netType ≤ NetworkType.unknown.code) ∧
    registry.supplierOfKey netType ident = none

/-- The three things an action can do to the membership. -/
inductive Change (registry : Registry) : NetConnService.Action → Prop
  | enrolled (netType : UInt32) (ident : String) (netCapabilities : UInt64)
      (creates : registry.Creates netType ident)
      (same : (registry.step (.registerNetSupplier netType ident netCapabilities)).membership =
        (registry.enroll (NetworkType.ofCode netType) ident).membership) :
      Change registry (.registerNetSupplier netType ident netCapabilities)
  | removed (supplierId : UInt32) (network : Ref Network)
      (supplierFound : registry.supplierOfId supplierId =
        some (registry.network network).supplier)
      (networkFound : registry.networkOfId supplierId = some network)
      (same : registry.step (.unregisterNetSupplier supplierId) =
        registry.remove supplierId network) :
      Change registry (.unregisterNetSupplier supplierId)
  | kept (action : NetConnService.Action)
      (known : ∀ netType ident netCapabilities,
        action = .registerNetSupplier netType ident netCapabilities →
          ¬registry.Creates netType ident)
      (unknown : ∀ supplierId, action = .unregisterNetSupplier supplierId →
        registry.supplierOfId supplierId = none)
      (same : (registry.step action).membership = registry.membership) :
      Change registry action

/-- An action that is neither a registration nor an unregistration. -/
theorem Change.of_other (registry : Registry) (action : NetConnService.Action)
    (notRegister : ∀ netType ident netCapabilities,
      action ≠ .registerNetSupplier netType ident netCapabilities)
    (notUnregister : ∀ supplierId, action ≠ .unregisterNetSupplier supplierId)
    (same : (registry.step action).membership = registry.membership) :
    registry.Change action :=
  .kept action (fun _ _ _ equal => absurd equal (notRegister _ _ _))
    (fun _ equal => absurd equal (notUnregister _)) same

theorem change_register (registry : Registry) (netType : UInt32) (ident : String)
    (netCapabilities : UInt64) :
    registry.Change (.registerNetSupplier netType ident netCapabilities) := by
  by_cases creates : registry.Creates netType ident
  · refine .enrolled netType ident netCapabilities creates ?_
    show (registry.register netType ident netCapabilities).membership = _
    unfold register
    rw [if_neg creates.1, creates.2]
    exact membership_createServices _ _ _ _ _
  · refine .kept _ ?_ (fun supplierId equal => by cases equal) ?_
    · intro netType ident netCapabilities equal
      cases equal
      exact creates
    · show (registry.register netType ident netCapabilities).membership = _
      unfold register
      split
      · rfl
      · rename_i valid
        cases known : registry.supplierOfKey netType ident with
        | some supplier => rfl
        | none => exact absurd ⟨valid, known⟩ creates

theorem WellFormed.change_unregister {registry : Registry} (wellFormed : registry.WellFormed)
    (supplierId : UInt32) : registry.Change (.unregisterNetSupplier supplierId) := by
  have corresponding := wellFormed.supplierOfId_eq supplierId
  cases found : registry.networkOfId supplierId with
  | none =>
    rw [found] at corresponding
    refine .kept _ (fun _ _ _ equal => by cases equal) ?_ ?_
    · intro supplierId equal
      cases equal
      exact corresponding
    · show (registry.unregister supplierId).membership = _
      unfold Registry.unregister
      rw [corresponding]
      rfl
  | some network =>
    rw [found] at corresponding
    refine .removed supplierId network corresponding found ?_
    show registry.unregister supplierId = _
    unfold Registry.unregister
    rw [corresponding, found]
    rfl

/-- Every action of a well-formed registry does one of the three things. -/
theorem WellFormed.change {registry : Registry} (wellFormed : registry.WellFormed)
    (action : NetConnService.Action) : registry.Change action := by
  cases action with
  | registerNetSupplier netType ident netCapabilities =>
    exact registry.change_register netType ident netCapabilities
  | unregisterNetSupplier supplierId => exact wellFormed.change_unregister supplierId
  | updateNetCapabilities supplierId netCapabilities =>
    exact .of_other registry _ (by simp) (by simp)
      (registry.membership_updateCapabilities supplierId netCapabilities)
  | updateNetSupplierInfo _ _ => exact .of_other registry _ (by simp) (by simp) rfl
  | updateNetLinkInfo _ _ => exact .of_other registry _ (by simp) (by simp) rfl
  | registerNetConnCallback _ => exact .of_other registry _ (by simp) (by simp) rfl
  | registerNetConnCallbackBySpecifier _ _ => exact .of_other registry _ (by simp) (by simp) rfl
  | unregisterNetConnCallback _ => exact .of_other registry _ (by simp) (by simp) rfl
  | unregisterNetConnCallbackBySpecifier _ _ =>
    exact .of_other registry _ (by simp) (by simp) rfl
  | reConnectServiceTask => exact .of_other registry _ (by simp) (by simp) rfl

end Registry

namespace NetConnService

/-- The lookup the updates share finds the listed network of a known supplier, and fails for an
unknown one. -/
theorem getSupplierAndNetwork_cases {state : NetConnService}
    (wellFormed : state.registry.WellFormed) (supplierId : UInt32) :
    (state.getSupplierAndNetwork supplierId = .error .noSupplier ∧
      state.getNetworkFromListBySupplierId supplierId = none) ∨
    ∃ supplier network, state.getSupplierAndNetwork supplierId = .ok (supplier, network) ∧
      state.getNetworkFromListBySupplierId supplierId = some network ∧
        network ∈ state.networks := by
  have corresponding : state.getNetSupplierFromListById supplierId =
      (state.getNetworkFromListBySupplierId supplierId).map _ :=
    wellFormed.supplierOfId_eq supplierId
  unfold getSupplierAndNetwork
  cases owned : state.getNetworkFromListBySupplierId supplierId with
  | none =>
    rw [owned] at corresponding
    rw [corresponding]
    exact Or.inl ⟨rfl, rfl⟩
  | some network =>
    rw [owned] at corresponding
    rw [Option.map_some] at corresponding
    have registered : state.registry.supplierOfId supplierId = some _ := corresponding
    have sameId := (Registry.WellFormed.supplierOfId_spec registered).2
    rw [corresponding]
    dsimp only
    rw [show (state.world.supplier _).supplierId = supplierId from sameId.symm, owned]
    exact Or.inr ⟨_, network, rfl, rfl, List.mem_of_find?_eq_some owned⟩

end NetConnService

end NetManager
