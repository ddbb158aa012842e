/-
This file settles when a callback that was unregistered is left alone. An unregistration takes
the callback from the services of the list, and nobody gets it back without a registration. But
the default service is connected and disconnected whether or not it is listed, and a service that
was taken from the list keeps its callbacks. So the callback is told nothing exactly as long as
no default service of this kind changes its state.
-/

import NetManager.Conn.Notifications
import NetManager.Conn.ServiceOrder

namespace NetManager

open Library

/-! ### Lists of services -/

namespace Registry

/-- The list of services gained new services only. -/
structure ListsFresh (before after : Registry) : Prop where
  listed : ∀ service ∈ after.netServices,
    service ∈ before.netServices ∨ ¬ before.identities.services.Allocated service
  allocated : ∀ service, before.identities.services.Allocated service →
    after.identities.services.Allocated service

/-- No action lists a service that was taken from the list. -/
theorem step_listsFresh (registry : Registry) (action : NetConnService.Action) :
    registry.ListsFresh (registry.step action) := by
  have keeps := registry.step_keepsOrder action
  refine ⟨fun service listed => ?_, fun service allocated => (keeps.services service allocated).1⟩
  by_cases allocated : registry.identities.services.Allocated service
  · exact Or.inl (keeps.mem_of_mem allocated listed)
  · exact Or.inr allocated

end Registry

/-! ### Who has a callback -/

/-- The callback is on the list of the service. -/
def World.HasCallback (world : World) (service : Ref NetService) (callback : INetConnCallback) :
    Prop :=
  callback.asObject ∈ (world.service service).netConnCallback.map INetConnCallback.asObject

instance (world : World) (service : Ref NetService) (callback : INetConnCallback) :
    Decidable (world.HasCallback service callback) :=
  inferInstanceAs (Decidable (_ ∈ _))

/-- Whoever has the callback had it before. -/
def World.GainsNot (callback : INetConnCallback) (before after : World) : Prop :=
  ∀ service, after.serviceHeap.Allocated service → after.HasCallback service callback →
    before.serviceHeap.Allocated service ∧ before.HasCallback service callback

/-- What replaces one list by a list that gained nothing. -/
theorem World.GainsNot.of_set {callback : INetConnCallback} {before after : World}
    {this : Ref NetService} {list : List INetConnCallback}
    (lists : after.callbacks = before.callbacks.set this list)
    (had : callback.asObject ∈ list.map INetConnCallback.asObject →
      before.HasCallback this callback) : before.GainsNot callback after := by
  intro service allocated has
  change after.callbacks.Allocated service at allocated
  change _ ∈ (after.callbacks.cell service).map _ at has
  rw [lists] at allocated has
  refine ⟨allocated, ?_⟩
  by_cases here : service = this
  · subst here
    rw [Heap.cell_set_self] at has
    exact had has
  · rw [Heap.cell_set_of_ne _ _ here] at has
    exact has

/-- Nobody gets a callback when another one is registered. -/
theorem World.GainsNot.frame (callback : INetConnCallback) :
    World.CallbackFrame (fun registered => callback.asObject ≠ registered.asObject)
      (World.GainsNot callback) where
  refl := fun _ _ allocated has => ⟨allocated, has⟩
  trans := by
    intro first second third earlier later service allocated has
    obtain ⟨middle, hadMiddle⟩ := later service allocated has
    exact earlier service middle hadMiddle
  makeSupplier := fun _ _ _ _ allocated has => ⟨allocated, has⟩
  makeNetwork := fun _ _ _ allocated has => ⟨allocated, has⟩
  makeService := by
    intro world ident type netCapability network
    have made := World.ServicesGrow.frame.makeService world ident type netCapability network
    intro service allocated has
    by_cases old : world.serviceHeap.Allocated service
    · rw [HasCallback, World.service, (made.kept service old).2] at has
      exact ⟨old, has⟩
    · rw [HasCallback, World.service, made.new service allocated old] at has
      exact absurd has List.not_mem_nil
  destroy := fun _ _ _ allocated has => ⟨allocated, has⟩
  updateNetSupplierInfo := by
    intro world network netSupplierInfo service allocated has
    have silent := Network.silent_updateNetSupplierInfo world network netSupplierInfo
    rw [silent.serviceHeap] at allocated
    rw [HasCallback, World.service, silent.serviceHeap] at has
    exact ⟨allocated, has⟩
  updateNetLinkInfo := fun _ _ _ _ allocated has => ⟨allocated, has⟩
  registerNetConnCallback := fun world this registered different => .of_set
    (NetService.callbacks_registerNetConnCallback world this registered)
    (mem_of_mem_subscribe different)
  unregisterNetConnCallback := fun world this unregistered => .of_set
    (NetService.callbacks_unregisterNetConnCallback world this unregistered)
    mem_of_mem_unsubscribe

namespace NetConnService

/-- No action gives a callback to a service unless it registers the callback. -/
theorem gainsNot_step (state : NetConnService) (action : Action) {callback : INetConnCallback}
    (unregistered : ¬ state.Registers callback action) :
    state.world.GainsNot callback (state.step action).world := by
  refine (World.GainsNot.frame callback).step ?_ state action ?_
  · intro service before after states reports other allocated has
    have lists := reports.callbacks
    change Heap.Allocated (World.callbacks _) other at allocated
    change _ ∈ ((World.callbacks _).cell other).map _ at has
    rw [lists] at allocated has
    exact ⟨allocated, has⟩
  · intro registered registers same
    exact unregistered (registers.of_same same.symm)

/-- No listed service has the callback. -/
def Withdrawn (callback : INetConnCallback) (state : NetConnService) : Prop :=
  ∀ service ∈ state.netServices, ¬ state.world.HasCallback service callback

theorem withdrawn_step {callback : INetConnCallback} {state : NetConnService} (action : Action)
    (wellFormed : state.registry.WellFormed) (withdrawn : state.Withdrawn callback)
    (unregistered : ¬ state.Registers callback action) :
    (state.step action).Withdrawn callback := by
  intro service listed has
  have stepWellFormed := step_wellFormed state action wellFormed
  obtain ⟨allocated, had⟩ := gainsNot_step state action unregistered service
    (stepWellFormed.services service listed) has
  have inList : service ∈ (state.step action).registry.netServices := listed
  rw [registry_step] at inList
  rcases (state.registry.step_listsFresh action).listed service inList with old | fresh
  · exact withdrawn service old had
  · exact fresh allocated

end NetConnService

/-! ### What a callback is told -/

/-- The notifications of a callback, by whatever service. -/
def World.toldTo (world : World) (callback : INetConnCallback) : List Notification :=
  world.notifications.filter fun notification =>
    notification.callback.asObject = callback.asObject

/-- A callback is told something exactly when it is on the list and the service acts. -/
theorem NetService.Passes.toldTo_iff {this : Ref NetService} {before after : World} {acts : Bool}
    (passes : Passes this before after acts) (callback : INetConnCallback) :
    after.toldTo callback = before.toldTo callback ↔
      ¬ (before.HasCallback this callback ∧ acts = true) := by
  obtain ⟨states, reports, _, some⟩ := passes
  unfold World.toldTo World.HasCallback
  rw [reports.notifications, List.filter_append, List.append_right_eq_self,
    List.filter_eq_nil_iff]
  constructor
  · rintro silent ⟨has, rfl⟩
    obtain ⟨registered, member, same⟩ := List.mem_map.mp has
    have nonempty : states ≠ [] := fun empty => absurd (some.mp empty) (by decide)
    obtain ⟨state, passed⟩ := List.exists_mem_of_ne_nil states nonempty
    exact silent _ (List.mem_flatMap.mpr ⟨state, passed, List.mem_map_of_mem member⟩)
      (decide_eq_true same)
  · intro apart notification member told
    obtain ⟨state, passed, toldNow⟩ := List.mem_flatMap.mp member
    obtain ⟨registered, onList, rfl⟩ := List.mem_map.mp toldNow
    refine apart ⟨List.mem_map.mpr ⟨registered, onList, of_decide_eq_true told⟩, ?_⟩
    rw [← Bool.not_eq_false]
    exact fun rests => List.ne_nil_of_mem passed (some.mpr rests)

/-- Whether a service acts depends on the service and the flag of its network. -/
theorem NetService.acts_congr {before after : World} {this : Ref NetService}
    (same : after.service this = before.service this)
    (flags : (after.network (before.service this).network).flags =
      (before.network (before.service this).network).flags) :
    connects after this = connects before this ∧
      reconnects after this = reconnects before this := by
  have isConnected : isConnected after this = isConnected before this := by
    unfold NetService.isConnected
    rw [same]
  have isConnecting : isConnecting after this = isConnecting before this := by
    unfold NetService.isConnecting
    rw [same, show (after.network (before.service this).network).isConnecting =
      (before.network (before.service this).network).isConnecting from
        congrArg Flags.isConnecting flags]
  unfold connects reconnects
  rw [isConnected, isConnecting, same]
  exact ⟨rfl, rfl⟩

namespace NetConnService

/-- The action makes a new default service. -/
def Action.replacesDefault : Action → Bool
  | .registerNetSupplier _ _ netCapabilities => NetCapabilities.internet.isIn netCapabilities
  | _ => false

/-- The action connects or reconnects the default service it finds, and changes its state. -/
def changesDefault (state : NetConnService) (action : Action) (service : Ref NetService) : Bool :=
  (state.operating action).isSome && !action.replacesDefault &&
    action.attempts state.world service

/-- The action does not change the state of a default service that is not listed and has the
callback. -/
def SparesRemoved (callback : INetConnCallback) (state : NetConnService) (action : Action) :
    Prop :=
  ∀ service, state.defaultNetService = some service → service ∉ state.netServices →
    state.world.HasCallback service callback → state.changesDefault action service = false

variable {state moment : NetConnService} {action : Action}

/-- The service that is connected. -/
theorem operating_default (reached : state.operating action = some moment) :
    moment.defaultNetService =
      if action.replacesDefault then some state.world.serviceHeap.fresh
      else state.defaultNetService := by
  rcases operating_cases reached with ⟨netType, ident, netCapabilities, rfl, rfl, _⟩ | ⟨rfl, rfl, _⟩
  · have registry := congrArg Registry.defaultNetService
      (registry_createSupplier state (NetworkType.ofCode netType) ident netCapabilities)
    exact registry.trans (Registry.defaultNetService_create _ _ _ _)
  · rfl

/-- Until it is connected, nothing happens to a service. -/
theorem attempts_operating (wellFormed : state.registry.WellFormed)
    (reached : state.operating action = some moment) {service : Ref NetService}
    (allocated : state.world.serviceHeap.Allocated service) :
    moment.world.service service = state.world.service service ∧
      action.attempts moment.world service = action.attempts state.world service := by
  have same := ((World.ServicesGrow.frame.operating state reached).kept service allocated).2
  have owner := (wellFormed.identities.service service allocated).network
  have flags := ((World.Grows.frame.operating state reached).networkKept _ owner).2
  have acts := NetService.acts_congr same flags
  refine ⟨same, ?_⟩
  cases action with
  | reConnectServiceTask => exact acts.2
  | _ => exact acts.1

/-- While no listed service has the callback, the service that is connected tells it something
exactly when the service was the default one before, is not listed and acts. -/
theorem tells_iff {callback : INetConnCallback} (wellFormed : state.registry.WellFormed)
    (withdrawn : state.Withdrawn callback) (reached : state.operating action = some moment)
    {service : Ref NetService} (selected : moment.defaultNetService = some service) :
    ¬ (moment.world.HasCallback service callback ∧ action.attempts moment.world service = true) ↔
      state.SparesRemoved callback action := by
  have opened := World.ServicesGrow.frame.operating state reached
  have default := operating_default reached
  rw [selected] at default
  cases replaces : action.replacesDefault with
  | true =>
    -- the default service was just made, so it has no callbacks
    rw [replaces, if_pos rfl, Option.some.injEq] at default
    have blank := opened.new service (default_allocated wellFormed reached selected)
      (by rw [default]; exact Nat.lt_irrefl _)
    refine iff_of_true (fun told => ?_) (fun other _ _ _ => ?_)
    · rw [World.HasCallback, World.service, blank] at told
      exact List.not_mem_nil told.1
    · unfold changesDefault
      rw [replaces, Bool.not_true, Bool.and_false, Bool.false_and]
  | false =>
    rw [replaces, if_neg Bool.false_ne_true] at default
    have allocated := (wellFormed.default service default.symm).1
    obtain ⟨same, attempts⟩ := attempts_operating wellFormed reached allocated
    have changes : state.changesDefault action service = action.attempts state.world service := by
      unfold changesDefault
      rw [reached, replaces, Option.isSome_some, Bool.not_false, Bool.and_true, Bool.true_and]
    unfold World.HasCallback
    rw [same, attempts]
    constructor
    · intro apart other present _ has
      obtain rfl : service = other := Option.some.inj (default.trans present)
      rw [changes, ← Bool.not_eq_true]
      exact fun acts => apart ⟨has, acts⟩
    · rintro spares ⟨has, acts⟩
      have unlisted : service ∉ state.netServices := fun listed => withdrawn service listed has
      have still := spares service default.symm unlisted has
      rw [changes, acts] at still
      exact Bool.noConfusion still

/-- While no listed service has the callback, an action leaves it alone exactly when it does not
change the state of a default service that was taken from the list. -/
theorem toldTo_step_iff {callback : INetConnCallback} (wellFormed : state.registry.WellFormed)
    (withdrawn : state.Withdrawn callback) (action : Action) :
    (state.step action).world.toldTo callback = state.world.toldTo callback ↔
      state.SparesRemoved callback action := by
  cases reached : state.operating action with
  | none =>
    have untold := World.Untold.frame.of_quiet state reached fun _ _ => trivial
    refine iff_of_true (congrArg (List.filter _) untold.notifications) fun service _ _ _ => ?_
    unfold changesDefault
    rw [reached, Option.isSome_none, Bool.false_and, Bool.false_and]
  | some moment =>
    have untold := World.Untold.frame.operating state reached
    have before : moment.world.toldTo callback = state.world.toldTo callback :=
      congrArg (List.filter _) untold.notifications
    obtain ⟨missing, selected⟩ := operating_attempt state action reached
    cases default : moment.defaultNetService with
    | none =>
      refine iff_of_true ((congrArg (World.toldTo · callback) (missing default)).trans before) ?_
      have nobody := operating_default reached
      rw [default] at nobody
      intro service present
      cases replaces : action.replacesDefault with
      | true =>
        rw [replaces, if_pos rfl] at nobody
        exact absurd nobody.symm (Option.some_ne_none _)
      | false =>
        rw [replaces, if_neg Bool.false_ne_true, present] at nobody
        exact absurd nobody.symm (Option.some_ne_none _)
    | some service =>
      have passes := passes_attempt action moment.world service
      rw [← (selected service default).2] at passes
      rw [← before, passes.toldTo_iff]
      exact tells_iff wellFormed withdrawn reached default

/-! ### Runs after an unregistration -/

/-- After an unregistration no listed service has the callback. -/
theorem withdrawn_unregister {state : NetConnService} (wellFormed : state.registry.WellFormed)
    (distinct : state.world.DistinctCallbacks) (callback : INetConnCallback) :
    (state.unregisterNetConnCallback (some callback)).2.Withdrawn callback := by
  intro service listed has
  rw [netServices_unregister] at listed
  change callback.asObject ∈ List.map _ (callbacksOf _ service) at has
  have different : ((state.callbacksOf service).map INetConnCallback.asObject).Nodup :=
    distinct service (wellFormed.services service listed)
  rw [callbacksOf_unregister wellFormed, if_pos listed, unsubscribe_eq_others different] at has
  exact notMem_others _ callback has

/-- What holds from an unregistration to the next registration of the callback. -/
structure Unregistered (callback : INetConnCallback) (state : NetConnService) : Prop where
  wellFormed : state.registry.WellFormed
  withdrawn : state.Withdrawn callback

/-- Between an unregistration that is answered with `ERR_NONE` and the next registration, a
callback is told nothing exactly when no action on the way changes the state of a default service
that is not listed and still has the callback. -/
theorem unregistered_silent_iff (answers : Nat → Int) (before after : List Action)
    (callback : INetConnCallback) (unregistered : NetConnService)
    (answer : (run step (start answers) before).unregisterNetConnCallback (some callback) =
      (.none, unregistered))
    (apart : Guarded step (fun state action => ¬ state.Registers callback action)
      unregistered after) :
    Always step (fun state => state.world.toldTo callback = unregistered.world.toldTo callback)
        unregistered after ↔
      Guarded step (SparesRemoved callback) unregistered after := by
  have initial : unregistered.Unregistered callback := by
    have wellFormed := run_wellFormed answers before
    have same : unregistered = _ := (congrArg Prod.snd answer).symm
    refine ⟨?_, ?_⟩
    · rw [same, registry_unregisterNetConnCallback]
      exact wellFormed
    · rw [same]
      exact withdrawn_unregister wellFormed (distinctCallbacks_run answers before) callback
  refine always_iff_guarded_of_allowed step ?_ ?_ initial ?_ apart
  · intro state action holds unregistered
    exact ⟨step_wellFormed state action holds.wellFormed,
      withdrawn_step action holds.wellFormed holds.withdrawn unregistered⟩
  · intro state action holds _ silent
    rw [← silent]
    exact toldTo_step_iff holds.wellFormed holds.withdrawn action
  · rfl

/-- While the default service is listed, the reconnect timer tells an unregistered callback
nothing. -/
theorem listed_default_silent :
    Always step (fun state => state.world.toldTo ⟨7⟩ =
        (run step (start fun _ => 0) [.registerNetSupplier 1 "slot0" 1,
          .registerNetConnCallback (some ⟨7⟩),
          .unregisterNetConnCallback (some ⟨7⟩)]).world.toldTo ⟨7⟩)
      (run step (start fun _ => 0) [.registerNetSupplier 1 "slot0" 1,
        .registerNetConnCallback (some ⟨7⟩), .unregisterNetConnCallback (some ⟨7⟩)])
      [.reConnectServiceTask] := by
  refine (unregistered_silent_iff (fun _ => 0) [.registerNetSupplier 1 "slot0" 1,
    .registerNetConnCallback (some ⟨7⟩)] [.reConnectServiceTask] ⟨7⟩ _ rfl ?_).mpr ?_
  · exact (guarded_cons _ _ _ _ _).mpr ⟨not_false, guarded_nil _ _ _⟩
  · refine (guarded_cons _ _ _ _ _).mpr ⟨fun service selected unlisted => ?_, guarded_nil _ _ _⟩
    obtain rfl : service = ⟨0⟩ := (Option.some.inj selected).symm
    exact absurd (by decide) unlisted

/-- The supplier of the default service is unregistered, then a callback of all services. The
unregistration is answered with `ERR_NONE`, for there is another service; but the reconnect timer
connects the default service, and the callback is told of it. -/
theorem removed_default_tells :
    ∃ unregistered,
      (run step (start fun _ => 0) [.registerNetSupplier 2 "eth0" 2,
        .registerNetSupplier 1 "slot0" 1, .registerNetConnCallback (some ⟨7⟩),
        .unregisterNetSupplier 1004]).unregisterNetConnCallback (some ⟨7⟩) =
          (.none, unregistered) ∧
      Guarded step (fun state action => ¬ state.Registers ⟨7⟩ action) unregistered
        [.reConnectServiceTask] ∧
      ¬ Always step (fun state => state.world.toldTo ⟨7⟩ = unregistered.world.toldTo ⟨7⟩)
        unregistered [.reConnectServiceTask] := by
  refine ⟨_, rfl, ?_, fun silent => ?_⟩
  · exact (guarded_cons _ _ _ _ _).mpr ⟨not_false, guarded_nil _ _ _⟩
  · exact absurd (silent [.reConnectServiceTask] [] rfl) (by decide)

end NetConnService

end NetManager
