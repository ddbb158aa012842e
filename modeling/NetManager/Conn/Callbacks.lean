/-
This file proves that the callback lists of the services are sets. A registration subscribes a
callback with services of the list, an unregistration unsubscribes it, and nothing else touches
the lists of the services there are; a new service has an empty one. So all lists have distinct
remote objects in every run, and the requests insert and erase one element.
-/

import NetManager.Conn.Growth
import NetManager.Conn.Reports
import NetManager.Library.Subscription

namespace NetManager

open Library

/-! ### Frames over a whole step -/

namespace NetConnService

/-- The attempt of an action changes the state of the service. -/
def Action.attempts : Action → World → Ref NetService → Bool
  | .reConnectServiceTask => NetService.reconnects
  | _ => NetService.connects

theorem passes_attempt (action : Action) (world : World) (service : Ref NetService) :
    NetService.Passes service world (action.attempt world service)
      (action.attempts world service) := by
  cases action with
  | reConnectServiceTask => exact NetService.passes_reConnect world service
  | _ => exact NetService.passes_serviceConnect world service

/-- What an action does to the world once the default service is connected. -/
theorem passes_operating {state moment : NetConnService} {action : Action}
    (reached : state.operating action = some moment) :
    (state.step action).world = moment.world ∨
      ∃ service, moment.defaultNetService = some service ∧
        NetService.Passes service moment.world (state.step action).world
          (action.attempts moment.world service) := by
  obtain ⟨missing, selected⟩ := operating_attempt state action reached
  cases default : moment.defaultNetService with
  | none => exact Or.inl (missing default)
  | some service =>
    right
    refine ⟨service, rfl, ?_⟩
    rw [(selected service default).2]
    exact passes_attempt action moment.world service

end NetConnService

/-- A frame that respects what services report respects every action that is not about a
callback. -/
theorem World.Frame.step {Rel : World → World → Prop} (frame : World.Frame Rel)
    (reports : ∀ {service before after states}, NetService.Reports service before states after →
      Rel before after)
    (state : NetConnService) {action : NetConnService.Action}
    (other : action.aboutCallback = false) : Rel state.world (state.step action).world := by
  cases reached : state.operating action with
  | none => exact frame.quiet state reached other
  | some moment =>
    have opened := frame.operating state reached
    rcases NetConnService.passes_operating reached with same | ⟨_, _, _, passed, _⟩
    · rw [same]
      exact opened
    · exact frame.trans opened (reports passed)

theorem World.CallbackFrame.step {Allowed : INetConnCallback → Prop}
    {Rel : World → World → Prop} (frame : World.CallbackFrame Allowed Rel)
    (reports : ∀ {service before after states}, NetService.Reports service before states after →
      Rel before after)
    (state : NetConnService) (action : NetConnService.Action)
    (allowed : ∀ callback, state.Registers callback action → Allowed callback) :
    Rel state.world (state.step action).world := by
  cases about : action.aboutCallback with
  | true => exact frame.aboutCallback state about allowed
  | false => exact frame.toFrame.step reports state about

/-! ### Callback lists -/

/-- Services without callbacks may be made, and no service is written. -/
def World.ServicesGrow (before after : World) : Prop :=
  Heap.GrowsBy (fun service => service.netConnCallback = []) before.serviceHeap after.serviceHeap

theorem World.ServicesGrow.frame : World.Frame World.ServicesGrow where
  refl := fun world => Heap.GrowsBy.refl _ world.serviceHeap
  trans := Heap.GrowsBy.trans
  makeSupplier := fun world _ _ => Heap.GrowsBy.refl _ world.serviceHeap
  makeNetwork := fun world _ => Heap.GrowsBy.refl _ world.serviceHeap
  makeService := fun world _ _ _ _ => Heap.GrowsBy.alloc world.serviceHeap rfl
  destroy := fun world _ => Heap.GrowsBy.refl _ world.serviceHeap
  updateNetSupplierInfo := by
    intro world network netSupplierInfo
    unfold World.ServicesGrow
    rw [(Network.silent_updateNetSupplierInfo world network netSupplierInfo).serviceHeap]
    exact Heap.GrowsBy.refl _ world.serviceHeap
  updateNetLinkInfo := fun world _ _ => Heap.GrowsBy.refl _ world.serviceHeap

namespace NetService

/-- The search for a callback looks for its remote object. -/
theorem callback_found_iff (world : World) (this : Ref NetService)
    (callback : INetConnCallback) :
    (world.service this).netConnCallback.any (callback.asObject == ·.asObject) = true ↔
      callback.asObject ∈ (world.callbacks.cell this).map INetConnCallback.asObject :=
  any_name_iff INetConnCallback.asObject (world.service this).netConnCallback callback.asObject

/-- A callback that is there is not added again. -/
theorem registerNetConnCallback_of_mem {world : World} {this : Ref NetService}
    {callback : INetConnCallback}
    (present : callback.asObject ∈ (world.callbacks.cell this).map INetConnCallback.asObject) :
    registerNetConnCallback world this callback = world :=
  if_pos ((callback_found_iff world this callback).mpr present)

theorem callbacks_registerNetConnCallback (world : World) (this : Ref NetService)
    (callback : INetConnCallback) :
    (registerNetConnCallback world this callback).callbacks = world.callbacks.set this
      (subscribe INetConnCallback.asObject (world.callbacks.cell this) callback) := by
  by_cases present : callback.asObject ∈
      (world.callbacks.cell this).map INetConnCallback.asObject
  · rw [registerNetConnCallback_of_mem present, subscribe_of_mem present, Heap.set_cell]
  · rw [subscribe_of_notMem present, registerNetConnCallback,
      if_neg fun found => present ((callback_found_iff world this callback).mp found)]
    exact world.serviceHeap.map_set NetService.netConnCallback this _

theorem callbacks_unregisterNetConnCallback (world : World) (this : Ref NetService)
    (callback : INetConnCallback) :
    (unregisterNetConnCallback world this callback).2.callbacks = world.callbacks.set this
      (unsubscribe INetConnCallback.asObject (world.callbacks.cell this) callback) := by
  by_cases present : callback.asObject ∈
      (world.callbacks.cell this).map INetConnCallback.asObject
  · rw [unregisterNetConnCallback,
      if_pos ((callback_found_iff world this callback).mpr present)]
    exact world.serviceHeap.map_set NetService.netConnCallback this _
  · rw [unsubscribe_of_notMem present, Heap.set_cell, unregisterNetConnCallback,
      if_neg fun found => present ((callback_found_iff world this callback).mp found)]

end NetService

/-- All callbacks of a service have distinct remote objects. -/
def World.DistinctCallbacks (world : World) : Prop :=
  ∀ service, world.callbacks.Allocated service →
    ((world.callbacks.cell service).map INetConnCallback.asObject).Nodup

theorem World.DistinctCallbacks.of_set {before after : World} (distinct : before.DistinctCallbacks)
    {this : Ref NetService} {list : List INetConnCallback}
    (lists : after.callbacks = before.callbacks.set this list)
    (nodup : before.callbacks.Allocated this → (list.map INetConnCallback.asObject).Nodup) :
    after.DistinctCallbacks := by
  intro service allocated
  rw [lists] at allocated ⊢
  by_cases here : service = this
  · subst here
    rw [Heap.cell_set_self]
    exact nodup allocated
  · rw [Heap.cell_set_of_ne _ _ here]
    exact distinct service allocated

/-- Every action keeps the callbacks distinct. -/
theorem World.DistinctCallbacks.frame :
    World.CallbackFrame (fun _ => True) fun before after =>
      before.DistinctCallbacks → after.DistinctCallbacks where
  refl := fun _ distinct => distinct
  trans := fun earlier later distinct => later (earlier distinct)
  makeSupplier := fun _ _ _ distinct => distinct
  makeNetwork := fun _ _ distinct => distinct
  makeService := by
    intro world ident type netCapability network distinct
    have made := World.ServicesGrow.frame.makeService world ident type netCapability network
    refine made.forall_allocated
      (fun service => (service.netConnCallback.map INetConnCallback.asObject).Nodup) distinct ?_
    intro service blank
    rw [blank]
    exact List.nodup_nil
  destroy := fun _ _ distinct => distinct
  updateNetSupplierInfo := by
    intro world network netSupplierInfo distinct
    have silent := Network.silent_updateNetSupplierInfo world network netSupplierInfo
    unfold World.DistinctCallbacks World.callbacks
    rw [silent.serviceHeap]
    exact distinct
  updateNetLinkInfo := fun _ _ _ distinct => distinct
  registerNetConnCallback := fun world this callback _ distinct => distinct.of_set
    (NetService.callbacks_registerNetConnCallback world this callback)
    fun allocated => nodup_subscribe (distinct this allocated) callback
  unregisterNetConnCallback := fun world this callback distinct => distinct.of_set
    (NetService.callbacks_unregisterNetConnCallback world this callback)
    fun allocated => nodup_unsubscribe (distinct this allocated) callback

namespace NetConnService

theorem distinctCallbacks_step (state : NetConnService) (action : Action)
    (distinct : state.world.DistinctCallbacks) : (state.step action).world.DistinctCallbacks := by
  refine World.DistinctCallbacks.frame.step ?_ state action (fun _ _ => trivial) distinct
  intro service before after states reports distinct
  unfold World.DistinctCallbacks
  rw [reports.callbacks]
  exact distinct

theorem distinctCallbacks_run (answers : Nat → Int) (actions : List Action) :
    (run step (start answers) actions).world.DistinctCallbacks :=
  run_invariant step (fun state => state.world.DistinctCallbacks) distinctCallbacks_step
    (fun _ allocated => absurd allocated (Nat.not_lt_zero _)) actions

/-! ### The two requests -/

/-- The callbacks of a service. -/
def callbacksOf (state : NetConnService) (service : Ref NetService) : List INetConnCallback :=
  (state.world.service service).netConnCallback

/-- Visiting services with a function that changes the list of each. -/
theorem callbacks_foldl {visit : World → Ref NetService → World}
    {change : List INetConnCallback → List INetConnCallback}
    (each : ∀ world service, (visit world service).callbacks =
      world.callbacks.set service (change (world.callbacks.cell service)))
    (services : List (Ref NetService)) (world : World) :
    (services.foldl visit world).callbacks = world.callbacks.visit change services := by
  induction services generalizing world with
  | nil => rfl
  | cons service rest inductionHypothesis =>
    rw [List.foldl_cons, inductionHypothesis, each]
    rfl

/-- A registration subscribes the callback with every listed service. -/
theorem callbacks_register (state : NetConnService) (callback : INetConnCallback) :
    (state.registerNetConnCallback (some callback)).2.world.callbacks =
      state.world.callbacks.visit (subscribe INetConnCallback.asObject · callback)
        state.netServices := by
  unfold registerNetConnCallback
  dsimp only
  split
  · rename_i nobody
    rw [List.isEmpty_iff.mp nobody]
    rfl
  · exact callbacks_foldl (fun world service =>
      NetService.callbacks_registerNetConnCallback world service callback) _ _

/-- An unregistration unsubscribes it from every listed service. -/
theorem callbacks_unregister (state : NetConnService) (callback : INetConnCallback) :
    (state.unregisterNetConnCallback (some callback)).2.world.callbacks =
      state.world.callbacks.visit (unsubscribe INetConnCallback.asObject · callback)
        state.netServices := by
  unfold unregisterNetConnCallback
  dsimp only
  split
  · rename_i nobody
    rw [List.isEmpty_iff.mp nobody]
    rfl
  · exact callbacks_foldl (fun world service =>
      NetService.callbacks_unregisterNetConnCallback world service callback) _ _

theorem netServices_register (state : NetConnService) (callback : Option INetConnCallback) :
    (state.registerNetConnCallback callback).2.netServices = state.netServices :=
  congrArg Registry.netServices (registry_registerNetConnCallback state callback)

theorem netServices_unregister (state : NetConnService) (callback : Option INetConnCallback) :
    (state.unregisterNetConnCallback callback).2.netServices = state.netServices :=
  congrArg Registry.netServices (registry_unregisterNetConnCallback state callback)

/-- Registering where everybody has the callback changes nothing. -/
theorem register_of_mem {state : NetConnService} {callback : INetConnCallback}
    (present : ∀ service ∈ state.netServices,
      callback.asObject ∈ (state.callbacksOf service).map INetConnCallback.asObject) :
    (state.registerNetConnCallback (some callback)).2 = state := by
  have still : state.netServices.foldl
      (fun world service => NetService.registerNetConnCallback world service callback)
      state.world = state.world := by
    generalize state.netServices = services at present
    induction services with
    | nil => rfl
    | cons service rest inductionHypothesis =>
      rw [List.foldl_cons, NetService.registerNetConnCallback_of_mem
        (present service List.mem_cons_self)]
      exact inductionHypothesis fun other member => present other (List.mem_cons_of_mem _ member)
  unfold registerNetConnCallback
  dsimp only
  split
  · rfl
  · rw [still]

variable {state : NetConnService}

/-- The list of each service after a registration. -/
theorem callbacksOf_register (wellFormed : state.registry.WellFormed)
    (callback : INetConnCallback) (service : Ref NetService) :
    (state.registerNetConnCallback (some callback)).2.callbacksOf service =
      if service ∈ state.netServices then
        subscribe INetConnCallback.asObject (state.callbacksOf service) callback
      else state.callbacksOf service := by
  show (state.registerNetConnCallback (some callback)).2.world.callbacks.cell service = _
  rw [callbacks_register]
  exact state.world.callbacks.cell_visit _ wellFormed.netServices_nodup service

/-- The list of each service after an unregistration. -/
theorem callbacksOf_unregister (wellFormed : state.registry.WellFormed)
    (callback : INetConnCallback) (service : Ref NetService) :
    (state.unregisterNetConnCallback (some callback)).2.callbacksOf service =
      if service ∈ state.netServices then
        unsubscribe INetConnCallback.asObject (state.callbacksOf service) callback
      else state.callbacksOf service := by
  show (state.unregisterNetConnCallback (some callback)).2.world.callbacks.cell service = _
  rw [callbacks_unregister]
  exact state.world.callbacks.cell_visit _ wellFormed.netServices_nodup service

/-! ### Sets -/

/-- Registering and unregistering a callback insert and erase one element of sets. -/
structure CallbackSets (state : NetConnService) : Prop where
  distinct : ∀ service, state.world.serviceHeap.Allocated service →
    ((state.callbacksOf service).map INetConnCallback.asObject).Nodup
  register : ∀ callback, (state.registerNetConnCallback (some callback)).1 = .none →
    let registered := (state.registerNetConnCallback (some callback)).2
    (∀ service ∈ registered.netServices,
      (registered.callbacksOf service).countP (callback.asObject == ·.asObject) = 1) ∧
    (∀ service, others INetConnCallback.asObject (registered.callbacksOf service) callback =
      others INetConnCallback.asObject (state.callbacksOf service) callback) ∧
    (∀ service, service ∉ registered.netServices →
      registered.callbacksOf service = state.callbacksOf service) ∧
    (registered.registerNetConnCallback (some callback)).2 = registered
  unregister : ∀ callback, (state.unregisterNetConnCallback (some callback)).1 = .none →
    let unregistered := (state.unregisterNetConnCallback (some callback)).2
    (∀ service ∈ unregistered.netServices,
      callback.asObject ∉
        (unregistered.callbacksOf service).map INetConnCallback.asObject) ∧
    (∀ service, others INetConnCallback.asObject (unregistered.callbacksOf service) callback =
      others INetConnCallback.asObject (state.callbacksOf service) callback) ∧
    ∀ service, service ∉ unregistered.netServices →
      unregistered.callbacksOf service = state.callbacksOf service
  restore : ∀ callback, (∀ service ∈ state.netServices,
      callback.asObject ∉ (state.callbacksOf service).map INetConnCallback.asObject) →
    ∀ service, ((state.registerNetConnCallback
        (some callback)).2.unregisterNetConnCallback (some callback)).2.callbacksOf service =
      state.callbacksOf service

/-- The callback lists are sets in every state of a run. -/
theorem callbackSets_run (answers : Nat → Int) (actions : List Action) :
    (run step (start answers) actions).CallbackSets := by
  have wellFormed := run_wellFormed answers actions
  have allDistinct := distinctCallbacks_run answers actions
  generalize run step (start answers) actions = state at wellFormed allDistinct
  have distinct (service : Ref NetService) (listed : service ∈ state.netServices) :
      ((state.callbacksOf service).map INetConnCallback.asObject).Nodup :=
    allDistinct service (wellFormed.services service listed)
  refine ⟨allDistinct, ?_, ?_, ?_⟩
  · intro callback _
    dsimp only
    rw [netServices_register]
    refine ⟨?_, ?_, ?_, ?_⟩
    · intro service listed
      rw [callbacksOf_register wellFormed, if_pos listed]
      exact countP_subscribe (distinct service listed) callback
    · intro service
      rw [callbacksOf_register wellFormed]
      split
      · exact others_subscribe _ callback
      · rfl
    · intro service unlisted
      rw [callbacksOf_register wellFormed, if_neg unlisted]
    · refine register_of_mem ?_
      intro service listed
      rw [netServices_register] at listed
      rw [callbacksOf_register wellFormed, if_pos listed]
      exact mem_subscribe _ callback
  · intro callback _
    dsimp only
    rw [netServices_unregister]
    refine ⟨?_, ?_, ?_⟩
    · intro service listed
      rw [callbacksOf_unregister wellFormed, if_pos listed,
        unsubscribe_eq_others (distinct service listed)]
      exact notMem_others _ callback
    · intro service
      rw [callbacksOf_unregister wellFormed]
      split
      · exact others_unsubscribe _ callback
      · rfl
    · intro service unlisted
      rw [callbacksOf_unregister wellFormed, if_neg unlisted]
  · intro callback absent service
    have stillWellFormed : (state.registerNetConnCallback
        (some callback)).2.registry.WellFormed := by
      rw [registry_registerNetConnCallback]
      exact wellFormed
    rw [callbacksOf_unregister stillWellFormed, netServices_register,
      callbacksOf_register wellFormed]
    by_cases listed : service ∈ state.netServices
    · rw [if_pos listed, if_pos listed]
      exact unsubscribe_subscribe (absent service listed)
    · rw [if_neg listed, if_neg listed]

end NetConnService

end NetManager
