/-
This file settles when the default service is a live one. `RegisterNetSupplier`
writes `defaultNetService_`, but nothing ever resets it: `UnregisterNetSupplier`
removes the services of a network and `UpdateNetCapabilities` removes the INTERNET
service of a supplier, whether or not the service removed is the default one.

The default service stays live exactly as long as neither of the two removes it,
and on such runs everything `RegisterNetSupplier` and the reconnect timer connect
or disconnect is a listed INTERNET service of a registered supplier.
-/

import NetManager.Conn.WellFormed

namespace NetManager

open Library

/-! ### Live default services -/

namespace NetConnService

/-- The default service, if there is one, is a listed INTERNET service of a listed network. -/
def DefaultLive (state : NetConnService) : Prop :=
  ∀ service, state.defaultNetService = some service →
    service ∈ state.netServices ∧
      (state.world.service service).netCapability = .internet ∧
        (state.world.service service).network ∈ state.networks

/-- The action does not remove the default service: it does not unregister the supplier of the
default service's network, and it does not take INTERNET away from a supplier whose INTERNET
service is the default one. -/
def KeepsDefault (state : NetConnService) : Action → Prop
  | .unregisterNetSupplier supplierId =>
    ∀ service, state.defaultNetService = some service →
      state.getNetworkFromListBySupplierId supplierId ≠
        some (state.world.service service).network
  | .updateNetCapabilities supplierId netCapabilities =>
    NetCapabilities.internet.isIn netCapabilities = true ∨
      ∀ service supplier network, state.defaultNetService = some service →
        state.getSupplierAndNetwork supplierId = .ok (supplier, network) →
          state.netServices.find?
            (state.isServiceOf (state.world.network network).netId .internet) ≠ some service
  | _ => True

/-- The state in which an action calls `ServiceConnect` or `ServiceDisConnect` on the default
service, if it reaches such a call. -/
def operating (state : NetConnService) : Action → Option NetConnService
  | .registerNetSupplier netType ident netCapabilities =>
    if netType ≥ NetworkType.max.code ∨ netType ≤ NetworkType.unknown.code then none
    else
      match state.getNetSupplierFromList netType ident with
      | some _ => none
      | none => some (state.createSupplier (NetworkType.ofCode netType) ident netCapabilities)
  | .reConnectServiceTask => if state.reConnectTimer = 0 then none else some state
  | _ => none

/-- The actions that reach the default service: a registration that creates a supplier, and a
timer that fires. -/
theorem operating_cases {state moment : NetConnService} {action : Action}
    (reached : state.operating action = some moment) :
    (∃ netType ident netCapabilities,
      action = .registerNetSupplier netType ident netCapabilities ∧
        moment = state.createSupplier (NetworkType.ofCode netType) ident netCapabilities ∧
          state.step action = moment.connectDefaultService) ∨
      (action = .reConnectServiceTask ∧ moment = state ∧ state.reConnectTimer ≠ 0) := by
  cases action with
  | registerNetSupplier netType ident netCapabilities =>
    unfold operating at reached
    dsimp only at reached
    split at reached
    · exact absurd reached (Option.some_ne_none moment).symm
    · rename_i valid
      cases known : state.getNetSupplierFromList netType ident with
      | some supplier =>
        rw [known] at reached
        exact absurd reached (Option.some_ne_none moment).symm
      | none =>
        rw [known] at reached
        have created := Option.some.inj reached
        refine Or.inl ⟨netType, ident, netCapabilities, rfl, created.symm, ?_⟩
        simp only [step, perform, registerNetSupplier, if_neg valid, known, created]
  | reConnectServiceTask =>
    unfold operating at reached
    dsimp only at reached
    split at reached
    · exact absurd reached (Option.some_ne_none moment).symm
    · rename_i pending
      exact Or.inr ⟨rfl, (Option.some.inj reached).symm, pending⟩
  | _ => exact absurd reached (Option.some_ne_none moment).symm

/-- What the action connects or disconnects is a listed INTERNET service of a registered
supplier. -/
def OperatesLive (state : NetConnService) (action : Action) : Prop :=
  ∀ moment service, state.operating action = some moment →
    moment.defaultNetService = some service →
      service ∈ moment.netServices ∧
        (moment.world.service service).netCapability = .internet ∧
          (moment.world.network (moment.world.service service).network).supplier ∈
            moment.netSupplier

end NetConnService

/-! ### The same on the registry -/

namespace Registry

/-- `NetConnService.DefaultLive` on the registry. -/
def DefaultLive (registry : Registry) : Prop :=
  ∀ service, registry.defaultNetService = some service →
    service ∈ registry.netServices ∧
      (registry.service service).netCapability = .internet ∧
        (registry.service service).network ∈ registry.networks

/-- `NetConnService.KeepsDefault` on the registry. -/
def KeepsDefault (registry : Registry) : NetConnService.Action → Prop
  | .unregisterNetSupplier supplierId =>
    ∀ service, registry.defaultNetService = some service →
      registry.networkOfId supplierId ≠ some (registry.service service).network
  | .updateNetCapabilities supplierId netCapabilities =>
    NetCapabilities.internet.isIn netCapabilities = true ∨
      ∀ service supplier network, registry.defaultNetService = some service →
        registry.supplierAndNetwork supplierId = .ok (supplier, network) →
          registry.netServices.find?
            (registry.isServiceOf (registry.network network).netId .internet) ≠ some service
  | _ => True

/-! ### Registration keeps the default service live -/

variable {registry : Registry}

theorem DefaultLive.enroll (live : registry.DefaultLive) (type : NetworkType) (ident : String) :
    (registry.enroll type ident).DefaultLive := by
  intro service same
  obtain ⟨listed, capability, owner⟩ := live service same
  exact ⟨listed, capability, List.mem_append_left _ owner⟩

theorem DefaultLive.addService (live : registry.DefaultLive)
    (services : ∀ service ∈ registry.netServices, registry.identities.services.Allocated service)
    (ident : String) (type : NetworkType) (netCapability : NetCapabilities)
    (network : Ref Network) :
    (registry.addService ident type netCapability network).DefaultLive := by
  intro service same
  obtain ⟨listed, capability, owner⟩ := live service same
  rw [registry.service_addService ident type netCapability network (services service listed)]
  exact ⟨List.mem_append_left _ listed, capability, owner⟩

/-- The service that becomes the default one is live, whatever was the default before. -/
theorem addDefaultService_live (registry : Registry) (ident : String) (type : NetworkType)
    (network : Ref Network) (listed : network ∈ registry.networks) :
    (registry.addDefaultService ident type network).DefaultLive := by
  intro service same
  obtain rfl : registry.identities.services.fresh = service := Option.some.inj same
  have identity := registry.service_addService_fresh ident type .internet network
  refine ⟨List.mem_append_right _ (List.mem_singleton.mpr rfl), ?_, ?_⟩
  · exact congrArg ServiceIdentity.netCapability identity
  · show ((registry.addService ident type .internet network).service _).network ∈ _
    rw [identity]
    exact listed

theorem DefaultLive.create (live : registry.DefaultLive) (wellFormed : registry.WellFormed)
    (type : NetworkType) (ident : String) (netCapabilities : UInt64) :
    (registry.create type ident netCapabilities).DefaultLive := by
  have listed : registry.identities.networks.fresh ∈ (registry.enroll type ident).networks :=
    List.mem_append_right _ (List.mem_singleton.mpr rfl)
  have enrolled := live.enroll type ident
  unfold Registry.create createServices
  cases NetCapabilities.internet.isIn netCapabilities with
  | false =>
    cases NetCapabilities.mms.isIn netCapabilities with
    | false => exact enrolled
    | true => exact enrolled.addService wellFormed.services ident type .mms _
  | true =>
    have internet := (registry.enroll type ident).addDefaultService_live ident type _ listed
    cases NetCapabilities.mms.isIn netCapabilities with
    | false => exact internet
    | true =>
      refine internet.addService (fun service member => ?_) ident type .mms _
      rcases List.mem_append.mp member with before | new
      · exact registry.identities.services.allocated_alloc _ (wellFormed.services service before)
      · rw [List.mem_singleton.mp new]
        exact registry.identities.services.allocated_fresh _

/-! ### Exactly when the default service stays live -/

theorem DefaultLive.unregister_iff (live : registry.DefaultLive)
    (wellFormed : registry.WellFormed) (supplierId : UInt32) :
    (registry.unregister supplierId).DefaultLive ↔
      registry.KeepsDefault (.unregisterNetSupplier supplierId) := by
  have corresponding := wellFormed.supplierOfId_eq supplierId
  unfold Registry.unregister
  cases found : registry.networkOfId supplierId with
  | none =>
    rw [found] at corresponding
    rw [corresponding]
    refine iff_of_true live fun service _ same => ?_
    rw [found] at same
    exact Option.some_ne_none _ same.symm
  | some network =>
    rw [found] at corresponding
    rw [corresponding]
    constructor
    · intro after service same removed
      rw [found, Option.some.injEq] at removed
      have kept := (wellFormed.mem_netServices_remove found service).mp (after service same).1
      exact kept.2 removed.symm
    · intro guard service same
      obtain ⟨listed, capability, owner⟩ := live service same
      have different : (registry.service service).network ≠ network := by
        intro removed
        exact guard service same (by rw [found, removed])
      exact ⟨(wellFormed.mem_netServices_remove found service).mpr ⟨listed, different⟩,
        capability, (wellFormed.mem_networks_remove found _).mpr ⟨owner, different⟩⟩

/-- Whether a service with capability INTERNET survives both branches of a capability update. -/
theorem mem_netServices_updateCapabilities (wellFormed : registry.WellFormed)
    (ident : String) (type : NetworkType) (network : Ref Network) (netCapabilities : UInt64)
    (labelled : registry.identities.Labelled ⟨ident, type, .internet, network⟩)
    (listed : network ∈ registry.networks) {service : Ref NetService}
    (allocated : registry.identities.services.Allocated service)
    (capability : (registry.service service).netCapability = .internet) :
    service ∈ ((registry.updateCapability ident type network .internet
        netCapabilities).updateCapability ident type network .mms netCapabilities).netServices ↔
      service ∈ registry.netServices ∧
        (NetCapabilities.internet.isIn netCapabilities = true ∨
          registry.netServices.find?
            (registry.isServiceOf (registry.network network).netId .internet) ≠
              some service) := by
  obtain ⟨same, stillAllocated⟩ := registry.service_updateCapability ident type network .internet
    netCapabilities allocated
  have internet := wellFormed.updateCapability ident type network .internet netCapabilities
    labelled listed
  rw [internet.mem_netServices_updateCapability ident type network .mms netCapabilities
      stillAllocated,
    wellFormed.mem_netServices_updateCapability ident type network .internet netCapabilities
      allocated]
  refine and_iff_left_of_imp fun _ => Or.inr fun found => ?_
  -- the service found by the second branch is an MMS service
  have hit := List.find?_some found
  unfold isServiceOf at hit
  rw [same, capability, Bool.and_eq_true] at hit
  exact absurd hit.2 (by decide)

/-- What a capability update leaves as it was. -/
theorem updateCapabilities_keeps (registry : Registry) (ident : String) (type : NetworkType)
    (network : Ref Network) (netCapabilities : UInt64) :
    let updated := (registry.updateCapability ident type network .internet
      netCapabilities).updateCapability ident type network .mms netCapabilities
    updated.defaultNetService = registry.defaultNetService ∧
      updated.networks = registry.networks ∧
        ∀ service, registry.identities.services.Allocated service →
          updated.service service = registry.service service := by
  obtain ⟨_, _, first⟩ := registry.updateCapability_keeps ident type network .internet
    netCapabilities
  obtain ⟨_, _, second⟩ := (registry.updateCapability ident type network .internet
    netCapabilities).updateCapability_keeps ident type network .mms netCapabilities
  refine ⟨?_, ?_, fun service allocated => ?_⟩
  · rw [second, first]
  · rw [second, first]
  · have afterFirst := registry.service_updateCapability ident type network .internet
      netCapabilities allocated
    exact (service_updateCapability _ ident type network .mms netCapabilities
      afterFirst.2).1.trans afterFirst.1

theorem DefaultLive.updateCapabilities_iff (live : registry.DefaultLive)
    (wellFormed : registry.WellFormed) (supplierId : UInt32) (netCapabilities : UInt64) :
    (registry.updateCapabilities supplierId netCapabilities).DefaultLive ↔
      registry.KeepsDefault (.updateNetCapabilities supplierId netCapabilities) := by
  unfold Registry.updateCapabilities
  cases found : registry.supplierAndNetwork supplierId with
  | error code =>
    refine iff_of_true live (Or.inr fun service supplier network _ same => ?_)
    rw [found] at same
    exact absurd same (by simp)
  | ok pair =>
    obtain ⟨supplier, network⟩ := pair
    have surviving (service : Ref NetService) (same : registry.defaultNetService = some service) :=
      mem_netServices_updateCapabilities wellFormed (registry.supplier supplier).ident
        (registry.supplier supplier).type network netCapabilities
        (wellFormed.labelled_ok found (Or.inl rfl)) (wellFormed.listed_ok found)
        (wellFormed.default service same).1 (wellFormed.default service same).2
    have unchanged := registry.updateCapabilities_keeps (registry.supplier supplier).ident
      (registry.supplier supplier).type network netCapabilities
    dsimp only
    constructor
    · intro after
      refine or_iff_not_imp_left.mpr fun lacks service _ _ same located => ?_
      obtain ⟨rfl, rfl⟩ : supplier = _ ∧ network = _ := by simpa [found] using located
      have kept := (surviving service same).mp (after service (unchanged.1.trans same)).1
      exact kept.2.resolve_left lacks
    · intro guard service same
      have before : registry.defaultNetService = some service := unchanged.1.symm.trans same
      obtain ⟨listed, capability, owner⟩ := live service before
      have identity := unchanged.2.2 service (wellFormed.default service before).1
      refine ⟨(surviving service before).mpr ⟨listed, guard.imp_right fun kept => ?_⟩, ?_, ?_⟩
      · exact kept service supplier network before found
      · rw [identity]
        exact capability
      · rw [identity, unchanged.2.1]
        exact owner

/-- One action keeps the default service live exactly when it does not remove it. -/
theorem DefaultLive.step_iff (live : registry.DefaultLive) (wellFormed : registry.WellFormed)
    (action : NetConnService.Action) :
    (registry.step action).DefaultLive ↔ registry.KeepsDefault action := by
  cases action with
  | registerNetSupplier netType ident netCapabilities =>
    refine iff_of_true ?_ trivial
    show (registry.register netType ident netCapabilities).DefaultLive
    unfold Registry.register
    split
    · exact live
    · split
      · exact live
      · exact live.create wellFormed _ ident netCapabilities
  | unregisterNetSupplier supplierId => exact live.unregister_iff wellFormed supplierId
  | updateNetCapabilities supplierId netCapabilities =>
    exact live.updateCapabilities_iff wellFormed supplierId netCapabilities
  | updateNetSupplierInfo _ _ => exact iff_of_true live trivial
  | updateNetLinkInfo _ _ => exact iff_of_true live trivial
  | registerNetConnCallback _ => exact iff_of_true live trivial
  | registerNetConnCallbackBySpecifier _ _ => exact iff_of_true live trivial
  | unregisterNetConnCallback _ => exact iff_of_true live trivial
  | unregisterNetConnCallbackBySpecifier _ _ => exact iff_of_true live trivial
  | reConnectServiceTask => exact iff_of_true live trivial

end Registry

/-! ### Runs of the service -/

namespace NetConnService

theorem defaultLive_iff (state : NetConnService) :
    state.DefaultLive ↔ state.registry.DefaultLive := Iff.rfl

theorem keepsDefault_iff (state : NetConnService) (action : Action) :
    state.KeepsDefault action ↔ state.registry.KeepsDefault action := by
  cases action with
  | unregisterNetSupplier _ => exact Iff.rfl
  | updateNetCapabilities _ _ => exact Iff.rfl
  | registerNetSupplier _ _ _ => exact Iff.rfl
  | updateNetSupplierInfo _ _ => exact Iff.rfl
  | updateNetLinkInfo _ _ => exact Iff.rfl
  | registerNetConnCallback _ => exact Iff.rfl
  | registerNetConnCallbackBySpecifier _ _ => exact Iff.rfl
  | unregisterNetConnCallback _ => exact Iff.rfl
  | unregisterNetConnCallbackBySpecifier _ _ => exact Iff.rfl
  | reConnectServiceTask => exact Iff.rfl

theorem defaultLive_step (state : NetConnService) (action : Action)
    (wellFormed : state.registry.WellFormed) (live : state.DefaultLive) :
    (state.step action).DefaultLive ↔ state.KeepsDefault action := by
  rw [defaultLive_iff, registry_step, keepsDefault_iff]
  exact Registry.DefaultLive.step_iff ((defaultLive_iff state).mp live) wellFormed action

/-- The supplier of a live default service is registered. -/
theorem DefaultLive.registered {state : NetConnService} (live : state.DefaultLive)
    (wellFormed : state.registry.WellFormed) {service : Ref NetService}
    (same : state.defaultNetService = some service) :
    (state.world.network (state.world.service service).network).supplier ∈
      state.netSupplier :=
  wellFormed.supplier_listed (live service same).2.2

/-- The moment an action connects the default service has the registry of the state before the
action or of the state after it. -/
theorem operating_registry (state : NetConnService) (action : Action) (moment : NetConnService)
    (reached : state.operating action = some moment) :
    moment.registry = state.registry ∨ moment.registry = (state.step action).registry := by
  rcases operating_cases reached with ⟨_, _, _, _, _, stepped⟩ | ⟨_, rfl, _⟩
  · right
    rw [stepped, registry_connectDefaultService]
  · exact Or.inl rfl

/-- A default service that is live before and after an action is live at the moment the action
connects it. -/
theorem operatesLive_of_live (state : NetConnService) (action : Action)
    (wellFormed : state.registry.WellFormed) (before : state.DefaultLive)
    (after : (state.step action).DefaultLive) : state.OperatesLive action := by
  intro moment service reached same
  have live : moment.DefaultLive ∧ moment.registry.WellFormed := by
    rw [defaultLive_iff] at before after ⊢
    rcases operating_registry state action moment reached with start | finish
    · rw [start]
      exact ⟨before, wellFormed⟩
    · rw [finish]
      exact ⟨after, step_wellFormed state action wellFormed⟩
  obtain ⟨listed, capability, _⟩ := live.1 service same
  exact ⟨listed, capability, live.1.registered live.2 same⟩

/-- The default service is live in every state of a run, and everything connected or
disconnected on the way is live, exactly when no action of the run removes the default
service. -/
theorem defaultLive_run (answers : Nat → Int) (actions : List Action) :
    (Always step DefaultLive (start answers) actions ∧
        Guarded step OperatesLive (start answers) actions) ↔
      Guarded step KeepsDefault (start answers) actions := by
  have exactGuard : Always step DefaultLive (start answers) actions ↔
      Guarded step KeepsDefault (start answers) actions :=
    always_iff_guarded step step_wellFormed defaultLive_step (start_wellFormed answers)
      (fun service same => absurd same (Option.some_ne_none service).symm) actions
  rw [← exactGuard]
  refine and_iff_left_of_imp ?_
  rintro always before action after rfl
  exact operatesLive_of_live _ action (run_wellFormed answers before)
    (always before (action :: after) rfl) (always.after step)

/-- Unregistering the supplier of the default service leaves a default service that is not
listed any more. The next registration connects it all the same: the second controller call is
made for a supplier that is gone. -/
theorem unregister_keeps_stale_default :
    ¬ (run step (start fun _ => 1) [.registerNetSupplier 1 "slot0" 1,
        .unregisterNetSupplier 1003]).DefaultLive ∧
      (run step (start fun _ => 1) [.registerNetSupplier 1 "slot0" 1,
        .unregisterNetSupplier 1003]).netSupplier = [] ∧
      (run step (start fun _ => 0) [.registerNetSupplier 1 "slot0" 1,
        .unregisterNetSupplier 1003, .registerNetSupplier 2 "eth0" 0]).world.controllerCalls =
          [⟨.releaseNetwork, "slot0", .internet, 0⟩, ⟨.releaseNetwork, "slot0", .internet, 0⟩] := by
  refine ⟨fun live => ?_, by decide, by decide⟩
  have listed := (live ⟨0⟩ (by decide)).1
  exact absurd listed (by decide)

end NetConnService

end NetManager
