/-
This file is about the callbacks clients register by a specifier. The specifier selects the
first service of its type whose capability it contains. Services keep their order, so the
service that was selected once is selected again as long as it is listed, and the same specifier
takes the callback back.

The selection does not read the ident of the specifier. So the service of another supplier is
selected when it stands before those of the supplier that is meant.
-/

import NetManager.Conn.Withdrawal

namespace NetManager

open Library

/-! ### Keeping a callback -/

/-- The action unregisters the callback, from every service or from one. -/
def NetConnService.Action.Unregisters (callback : INetConnCallback) :
    NetConnService.Action → Prop
  | .unregisterNetConnCallback (some given) => given.asObject = callback.asObject
  | .unregisterNetConnCallbackBySpecifier _ (some given) => given.asObject = callback.asObject
  | _ => False

/-- Whoever had the callback has it still. -/
def World.Retains (callback : INetConnCallback) (before after : World) : Prop :=
  ∀ service, before.serviceHeap.Allocated service → before.HasCallback service callback →
    after.serviceHeap.Allocated service ∧ after.HasCallback service callback

namespace World.Retains

variable {callback : INetConnCallback} {before after : World}

theorem refl (world : World) : world.Retains callback world :=
  fun _ allocated has => ⟨allocated, has⟩

theorem trans {first second third : World} (earlier : first.Retains callback second)
    (later : second.Retains callback third) : first.Retains callback third := by
  intro service allocated had
  obtain ⟨middle, has⟩ := earlier service allocated had
  exact later service middle has

/-- What replaces one list by a list that lost nothing. -/
theorem of_set {this : Ref NetService} {list : List INetConnCallback}
    (lists : after.callbacks = before.callbacks.set this list)
    (has : before.HasCallback this callback →
      callback.asObject ∈ list.map INetConnCallback.asObject) : before.Retains callback after := by
  intro service allocated had
  change after.callbacks.Allocated service ∧ _ ∈ (after.callbacks.cell service).map _
  rw [lists]
  refine ⟨allocated, ?_⟩
  by_cases here : service = this
  · subst here
    rw [Heap.cell_set_self]
    exact has had
  · rw [Heap.cell_set_of_ne _ _ here]
    exact had

/-- Services that are not written keep their callbacks. -/
theorem of_servicesGrow (grow : before.ServicesGrow after) : before.Retains callback after := by
  intro service allocated has
  obtain ⟨stays, same⟩ := grow.kept service allocated
  refine ⟨stays, ?_⟩
  rw [HasCallback, World.service, same]
  exact has

theorem frame (callback : INetConnCallback) : World.Frame (World.Retains callback) where
  refl := refl
  trans := trans
  makeSupplier := fun world type ident =>
    of_servicesGrow (ServicesGrow.frame.makeSupplier world type ident)
  makeNetwork := fun world supplier =>
    of_servicesGrow (ServicesGrow.frame.makeNetwork world supplier)
  makeService := fun world ident type netCapability network =>
    of_servicesGrow (ServicesGrow.frame.makeService world ident type netCapability network)
  destroy := fun world network => of_servicesGrow (ServicesGrow.frame.destroy world network)
  updateNetSupplierInfo := fun world network netSupplierInfo =>
    of_servicesGrow (ServicesGrow.frame.updateNetSupplierInfo world network netSupplierInfo)
  updateNetLinkInfo := fun world network netLinkInfo =>
    of_servicesGrow (ServicesGrow.frame.updateNetLinkInfo world network netLinkInfo)

theorem registerNetConnCallback (world : World) (this : Ref NetService)
    (registered : INetConnCallback) :
    world.Retains callback (NetService.registerNetConnCallback world this registered) :=
  of_set (NetService.callbacks_registerNetConnCallback world this registered)
    mem_subscribe_of_mem

theorem unregisterNetConnCallback (world : World) (this : Ref NetService)
    {unregistered : INetConnCallback}
    (different : unregistered.asObject ≠ callback.asObject) :
    world.Retains callback (NetService.unregisterNetConnCallback world this unregistered).2 :=
  of_set (NetService.callbacks_unregisterNetConnCallback world this unregistered)
    (mem_unsubscribe_of_ne different.symm)

theorem foldl {visit : World → Ref NetService → World}
    (each : ∀ (world : World) service, world.Retains callback (visit world service))
    (services : List (Ref NetService)) (world : World) :
    world.Retains callback (services.foldl visit world) := by
  induction services generalizing world with
  | nil => exact refl world
  | cons service rest inductionHypothesis =>
    exact (each world service).trans (inductionHypothesis (visit world service))

end World.Retains

namespace NetConnService

/-- No service loses a callback unless the action unregisters it. -/
theorem retains_step (state : NetConnService) {action : Action} {callback : INetConnCallback}
    (kept : ¬ action.Unregisters callback) :
    state.world.Retains callback (state.step action).world := by
  cases about : action.aboutCallback with
  | false =>
    refine (World.Retains.frame callback).step ?_ state about
    intro service before after states reports other allocated has
    have lists := reports.callbacks
    change after.callbacks.Allocated other ∧ _ ∈ (after.callbacks.cell other).map _
    rw [lists]
    exact ⟨allocated, has⟩
  | true =>
    cases action with
    | registerNetConnCallback registered =>
      simp only [step, perform, registerNetConnCallback]
      split
      · exact .refl _
      · split
        · exact .refl _
        · exact .foldl (fun world service => .registerNetConnCallback world service _) _ _
    | registerNetConnCallbackBySpecifier netSpecifier registered =>
      simp only [step, perform, registerNetConnCallbackBySpecifier]
      split
      · split
        · exact .refl _
        · split
          · exact .refl _
          · exact .registerNetConnCallback _ _ _
      · exact .refl _
    | unregisterNetConnCallback unregistered =>
      simp only [step, perform, unregisterNetConnCallback]
      split
      · exact .refl _
      · split
        · exact .refl _
        · exact .foldl (fun world service => .unregisterNetConnCallback world service kept) _ _
    | unregisterNetConnCallbackBySpecifier netSpecifier unregistered =>
      simp only [step, perform, unregisterNetConnCallbackBySpecifier]
      split
      · split
        · exact .refl _
        · split
          · exact .refl _
          · exact .unregisterNetConnCallback _ _ kept
      · exact .refl _
    | _ => cases about

/-! ### The selected service -/

/-- The kind of services a specifier asks for, which does not depend on its ident. -/
def kindOf (netSpecifier : NetSpecifier) (service : ServiceIdentity) : Bool :=
  service.networkType.code == netSpecifier.netType &&
    service.netCapability.code &&& netSpecifier.netCapabilities == service.netCapability.code

theorem findService_eq (state : NetConnService) (netSpecifier : NetSpecifier) :
    state.findService netSpecifier = state.registry.netServices.find? fun service =>
      kindOf netSpecifier (state.registry.service service) := rfl

variable {state : NetConnService} {netSpecifier : NetSpecifier} {callback : INetConnCallback}
variable {service : Ref NetService}

/-- The selected service stays selected while it is listed. -/
theorem findService_step (wellFormed : state.registry.WellFormed)
    (found : state.findService netSpecifier = some service) {action : Action}
    (listed : service ∈ (state.step action).netServices) :
    (state.step action).findService netSpecifier = some service := by
  have keeps := state.registry.step_keepsOrder action
  rw [← registry_step] at keeps
  rw [findService_eq] at found ⊢
  exact keeps.find? wellFormed (kindOf netSpecifier) found listed

theorem mem_of_findService (found : state.findService netSpecifier = some service) :
    service ∈ state.netServices := List.mem_of_find?_eq_some found

theorem nonempty_of_findService (found : state.findService netSpecifier = some service) :
    ¬ state.netServices.isEmpty = true := by
  rw [List.isEmpty_iff]
  exact List.ne_nil_of_mem (mem_of_findService found)

/-- A registration is a registration with the selected service. -/
theorem registerBySpecifier_eq (found : state.findService netSpecifier = some service)
    (callback : INetConnCallback) :
    state.registerNetConnCallbackBySpecifier (some netSpecifier) (some callback) =
      (.none, { state with
        world := NetService.registerNetConnCallback state.world service callback }) := by
  simp only [registerNetConnCallbackBySpecifier, if_neg (nonempty_of_findService found), found]

/-- So is an unregistration. -/
theorem unregisterBySpecifier_eq (found : state.findService netSpecifier = some service)
    (callback : INetConnCallback) :
    state.unregisterNetConnCallbackBySpecifier (some netSpecifier) (some callback) =
      ((NetService.unregisterNetConnCallback state.world service callback).1, { state with
        world := (NetService.unregisterNetConnCallback state.world service callback).2 }) := by
  simp only [unregisterNetConnCallbackBySpecifier, if_neg (nonempty_of_findService found), found]

/-- A registration is accepted exactly when a service is selected. -/
theorem registerBySpecifier_accepted_iff (state : NetConnService) (netSpecifier : NetSpecifier)
    (callback : INetConnCallback) :
    (state.registerNetConnCallbackBySpecifier (some netSpecifier) (some callback)).1 = .none ↔
      ∃ service, state.findService netSpecifier = some service := by
  constructor
  · intro accepted
    simp only [registerNetConnCallbackBySpecifier] at accepted
    split at accepted
    · cases accepted
    · cases found : state.findService netSpecifier with
      | none =>
        rw [found] at accepted
        cases accepted
      | some service => exact ⟨service, rfl⟩
  · rintro ⟨service, found⟩
    rw [registerBySpecifier_eq found]

/-! ### Undoing a registration -/

/-- The specifier selects the service, and the service has the callback. -/
structure Attached (netSpecifier : NetSpecifier) (callback : INetConnCallback)
    (service : Ref NetService) (state : NetConnService) : Prop where
  found : state.findService netSpecifier = some service
  has : state.world.HasCallback service callback

theorem Attached.step (attached : Attached netSpecifier callback service state)
    (wellFormed : state.registry.WellFormed) {action : Action}
    (kept : ¬ action.Unregisters callback)
    (listed : service ∈ (state.step action).netServices) :
    Attached netSpecifier callback service (state.step action) := by
  have allocated := wellFormed.services service (mem_of_findService attached.found)
  exact ⟨findService_step wellFormed attached.found listed,
    (retains_step state kept service allocated attached.has).2⟩

theorem Attached.run (attached : Attached netSpecifier callback service state)
    (wellFormed : state.registry.WellFormed) {later : List Action}
    (kept : ∀ action ∈ later, ¬ action.Unregisters callback)
    (listed : Always NetConnService.step (fun state => service ∈ state.netServices) state later) :
    Attached netSpecifier callback service (run NetConnService.step state later) := by
  induction later generalizing state with
  | nil => exact attached
  | cons action rest inductionHypothesis =>
    obtain ⟨keptNow, keptLater⟩ := List.forall_mem_cons.mp kept
    obtain ⟨_, listedLater⟩ := (always_cons _ _ state action rest).mp listed
    have next := attached.step wellFormed keptNow (listedLater [] rest rfl)
    exact inductionHypothesis next (step_wellFormed state action wellFormed) keptLater listedLater

/-- The unregistration by the specifier is accepted, takes the callback from the service and no
other, and no other service from its callbacks. -/
structure Undone (netSpecifier : NetSpecifier) (callback : INetConnCallback)
    (service : Ref NetService) (state : NetConnService) : Prop where
  code : (state.unregisterNetConnCallbackBySpecifier (some netSpecifier)
    (some callback)).1 = .none
  removed : ¬ (state.unregisterNetConnCallbackBySpecifier (some netSpecifier)
    (some callback)).2.world.HasCallback service callback
  others : (state.unregisterNetConnCallbackBySpecifier (some netSpecifier)
    (some callback)).2.callbacksOf service =
      Library.others INetConnCallback.asObject (state.callbacksOf service) callback
  elsewhere : ∀ other, other ≠ service → (state.unregisterNetConnCallbackBySpecifier
    (some netSpecifier) (some callback)).2.callbacksOf other = state.callbacksOf other

theorem Attached.undone (attached : Attached netSpecifier callback service state)
    (wellFormed : state.registry.WellFormed) (distinct : state.world.DistinctCallbacks) :
    Undone netSpecifier callback service state := by
  have found := attached.found
  have lists := NetService.callbacks_unregisterNetConnCallback state.world service callback
  have after : (state.unregisterNetConnCallbackBySpecifier (some netSpecifier)
      (some callback)).2.callbacksOf service =
        Library.others INetConnCallback.asObject (state.callbacksOf service) callback := by
    rw [unregisterBySpecifier_eq found]
    show (World.callbacks _).cell service = _
    rw [lists, Heap.cell_set_self]
    exact unsubscribe_eq_others
      (distinct service (wellFormed.services service (mem_of_findService found))) callback
  refine ⟨?_, ?_, after, fun other different => ?_⟩
  · rw [unregisterBySpecifier_eq found]
    have present := (NetService.callback_found_iff state.world service callback).mpr attached.has
    simp only [NetService.unregisterNetConnCallback, if_pos present]
  · show callback.asObject ∉ List.map _ (callbacksOf _ service)
    rw [after]
    exact notMem_others _ callback
  · rw [unregisterBySpecifier_eq found]
    show (World.callbacks _).cell other = _
    rw [lists, Heap.cell_set_of_ne _ _ different]
    rfl

theorem callbacksOf_registerBySpecifier (found : state.findService netSpecifier = some service)
    (callback : INetConnCallback) {other : Ref NetService} (different : other ≠ service) :
    (state.step (.registerNetConnCallbackBySpecifier (some netSpecifier)
      (some callback))).callbacksOf other = state.callbacksOf other := by
  have lists := NetService.callbacks_registerNetConnCallback state.world service callback
  simp only [NetConnService.step, perform, registerBySpecifier_eq found callback]
  show (World.callbacks _).cell other = _
  rw [lists, Heap.cell_set_of_ne _ _ different]
  rfl

theorem attached_register (wellFormed : state.registry.WellFormed)
    (found : state.findService netSpecifier = some service) (callback : INetConnCallback) :
    Attached netSpecifier callback service
      (state.step (.registerNetConnCallbackBySpecifier (some netSpecifier) (some callback))) := by
  have lists := NetService.callbacks_registerNetConnCallback state.world service callback
  refine ⟨findService_step wellFormed found ?_, ?_⟩
  · simp only [NetConnService.step, perform, registerBySpecifier_eq found callback]
    exact mem_of_findService found
  · simp only [NetConnService.step, perform, registerBySpecifier_eq found callback]
    show _ ∈ ((World.callbacks _).cell service).map _
    rw [lists, Heap.cell_set_self]
    exact mem_subscribe _ callback

/-- In every state of a run, an accepted registration by a specifier attaches the callback to one
service, and after every later run that does not unregister the callback and keeps the service
listed, the same specifier takes the callback from this service and changes no other. -/
theorem registration_undone (answers : Nat → Int) (actions : List Action)
    (netSpecifier : NetSpecifier) (callback : INetConnCallback)
    (accepted : ((run step (start answers) actions).registerNetConnCallbackBySpecifier
      (some netSpecifier) (some callback)).1 = .none) :
    ∃ service, Attached netSpecifier callback service
        ((run step (start answers) actions).step
          (.registerNetConnCallbackBySpecifier (some netSpecifier) (some callback))) ∧
      (∀ other, other ≠ service → ((run step (start answers) actions).step
        (.registerNetConnCallbackBySpecifier (some netSpecifier)
          (some callback))).callbacksOf other =
            (run step (start answers) actions).callbacksOf other) ∧
      ∀ later : List Action, (∀ action ∈ later, ¬ action.Unregisters callback) →
        Always step (fun state => service ∈ state.netServices)
          ((run step (start answers) actions).step
            (.registerNetConnCallbackBySpecifier (some netSpecifier) (some callback))) later →
        Undone netSpecifier callback service
          (run step ((run step (start answers) actions).step
            (.registerNetConnCallbackBySpecifier (some netSpecifier) (some callback))) later) := by
  have wellFormed := run_wellFormed answers actions
  have distinct := distinctCallbacks_run answers actions
  generalize run step (start answers) actions = state at accepted wellFormed distinct ⊢
  obtain ⟨service, found⟩ := (registerBySpecifier_accepted_iff _ _ _).mp accepted
  have attached := attached_register wellFormed found callback
  refine ⟨service, attached, fun other different => ?_, fun later kept listed => ?_⟩
  · exact callbacksOf_registerBySpecifier found callback different
  · have next := step_wellFormed state
      (.registerNetConnCallbackBySpecifier (some netSpecifier) (some callback)) wellFormed
    have nextDistinct := distinctCallbacks_step state
      (.registerNetConnCallbackBySpecifier (some netSpecifier) (some callback)) distinct
    exact (attached.run next kept listed).undone
      (run_invariant step (fun state => state.registry.WellFormed) step_wellFormed next later)
      (run_invariant step (fun state => state.world.DistinctCallbacks) distinctCallbacks_step
        nextDistinct later)

/-- Another supplier is registered in front of the unregistration. -/
theorem registration_undone_example :
    Undone ⟨"slot0", 1, 1⟩ ⟨7⟩ ⟨0⟩
      (run step ((run step (start fun _ => 1) [.registerNetSupplier 1 "slot0" 1]).step
        (.registerNetConnCallbackBySpecifier (some ⟨"slot0", 1, 1⟩) (some ⟨7⟩)))
        [.registerNetSupplier 1 "slot1" 1, .unregisterNetConnCallback (some ⟨8⟩)]) := by
  obtain ⟨service, attached, _, undone⟩ := registration_undone (fun _ => 1)
    [.registerNetSupplier 1 "slot0" 1] ⟨"slot0", 1, 1⟩ ⟨7⟩ (by decide)
  obtain rfl : service = ⟨0⟩ := Option.some.inj (attached.found.symm.trans (by decide))
  refine undone _ ?_ ?_
  · simp [Action.Unregisters]
  · simp only [always_cons, always_nil]
    decide

/-! ### Whose service is selected -/

/-- The service has the type of the specifier and a capability it contains. -/
def Fits (netSpecifier : NetSpecifier) (state : NetConnService) (service : Ref NetService) : Prop :=
  (state.world.service service).networkType.code = netSpecifier.netType ∧
    (state.world.service service).netCapability.code &&& netSpecifier.netCapabilities =
      (state.world.service service).netCapability.code

theorem kindOf_iff (state : NetConnService) (netSpecifier : NetSpecifier)
    (service : Ref NetService) :
    kindOf netSpecifier (state.registry.service service) = true ↔
      state.Fits netSpecifier service := by
  simp only [kindOf, Bool.and_eq_true, beq_iff_eq]
  rfl

/-- The service is listed, fits, and has the ident of the specifier. -/
structure IsMeant (netSpecifier : NetSpecifier) (state : NetConnService)
    (service : Ref NetService) : Prop where
  listed : service ∈ state.netServices
  fits : state.Fits netSpecifier service
  ident : (state.world.service service).ident = netSpecifier.ident

/-- An accepted registration attaches the callback to a service that is meant, and it is refused
for want of a service only when none is meant. -/
structure SelectsOwn (netSpecifier : NetSpecifier) (callback : INetConnCallback)
    (state : NetConnService) : Prop where
  accepted : (state.registerNetConnCallbackBySpecifier (some netSpecifier)
      (some callback)).1 = .none →
    ∃ service, state.IsMeant netSpecifier service ∧
      (state.registerNetConnCallbackBySpecifier (some netSpecifier) (some callback)).2 =
        { state with world := NetService.registerNetConnCallback state.world service callback } ∧
      state.findService netSpecifier = some service
  refused : (state.registerNetConnCallbackBySpecifier (some netSpecifier)
      (some callback)).1 = .netTypeNotFound →
    ∀ service, ¬ state.IsMeant netSpecifier service

/-- The first listed service that fits has the ident of the specifier. -/
def FirstIsMeant (netSpecifier : NetSpecifier) (state : NetConnService) : Prop :=
  ∀ before service after, state.netServices = before ++ service :: after →
    state.Fits netSpecifier service →
    (∀ earlier ∈ before, ¬ state.Fits netSpecifier earlier) →
    (state.world.service service).ident = netSpecifier.ident

/-- The selection is the first listed service that fits. -/
theorem findService_iff (state : NetConnService) (netSpecifier : NetSpecifier)
    (service : Ref NetService) :
    state.findService netSpecifier = some service ↔
      state.Fits netSpecifier service ∧ ∃ before after,
        state.netServices = before ++ service :: after ∧
          ∀ earlier ∈ before, ¬ state.Fits netSpecifier earlier := by
  rw [findService_eq, List.find?_eq_some_iff_append, kindOf_iff]
  simp only [Bool.not_eq_true', ← Bool.not_eq_true, kindOf_iff]
  rfl

/-- A specifier selects a service that is meant exactly when the first listed service that fits has
its ident. -/
theorem selectsOwn_iff (state : NetConnService) (netSpecifier : NetSpecifier)
    (callback : INetConnCallback) :
    state.SelectsOwn netSpecifier callback ↔ state.FirstIsMeant netSpecifier := by
  constructor
  · intro selects before service after split fits first
    have found := (state.findService_iff netSpecifier service).mpr
      ⟨fits, before, after, split, first⟩
    obtain ⟨meant, isMeant, _, same⟩ := selects.accepted
      ((registerBySpecifier_accepted_iff state netSpecifier callback).mpr ⟨service, found⟩)
    rw [Option.some.inj (found.symm.trans same)]
    exact isMeant.ident
  · intro firstIsMeant
    refine ⟨fun accepted => ?_, fun refused service meant => ?_⟩
    · obtain ⟨service, found⟩ := (registerBySpecifier_accepted_iff _ _ _).mp accepted
      obtain ⟨fits, before, after, split, first⟩ := (state.findService_iff _ _).mp found
      refine ⟨service, ⟨mem_of_findService found, fits, ?_⟩, ?_, found⟩
      · exact firstIsMeant before service after split fits first
      · rw [registerBySpecifier_eq found]
    · cases found : state.findService netSpecifier with
      | some selected =>
        rw [registerBySpecifier_eq found] at refused
        cases refused
      | none =>
        rw [findService_eq] at found
        exact List.find?_eq_none.mp found service meant.listed ((kindOf_iff _ _ _).mpr meant.fits)

/-- With two suppliers of one type, a client that asks for the second one is subscribed to the
first. -/
theorem other_supplier_selected :
    ((run step (start fun _ => 1) [.registerNetSupplier 1 "slot0" 1,
        .registerNetSupplier 1 "slot1" 1]).registerNetConnCallbackBySpecifier
          (some ⟨"slot1", 1, 1⟩) (some ⟨7⟩)).1 = .none ∧
      ((run step (start fun _ => 1) [.registerNetSupplier 1 "slot0" 1,
        .registerNetSupplier 1 "slot1" 1]).step (.registerNetConnCallbackBySpecifier
          (some ⟨"slot1", 1, 1⟩) (some ⟨7⟩))).world.HasCallback ⟨0⟩ ⟨7⟩ ∧
      ((run step (start fun _ => 1) [.registerNetSupplier 1 "slot0" 1,
        .registerNetSupplier 1 "slot1" 1]).world.service ⟨0⟩).ident = "slot0" ∧
      ¬ (run step (start fun _ => 1) [.registerNetSupplier 1 "slot0" 1,
        .registerNetSupplier 1 "slot1" 1]).SelectsOwn ⟨"slot1", 1, 1⟩ ⟨7⟩ := by
  refine ⟨by decide, by decide, by decide, fun selects => ?_⟩
  obtain ⟨service, meant, _, found⟩ := selects.accepted (by decide)
  obtain rfl : service = ⟨0⟩ := Option.some.inj (found.symm.trans (by decide))
  exact absurd meant.ident (by decide)

end NetConnService

end NetManager
