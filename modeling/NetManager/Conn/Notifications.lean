/-
This file proves that no notification is lost and none is made twice. Every state update of a
service is recorded with the callbacks the service had at that moment. The notifications that
were made are, in order, one for each callback of each record; as the callbacks of a service are
distinct, a callback was told once of every update it was registered for. The last update of a
service left it in the state it is in.
-/

import NetManager.Conn.Callbacks

namespace NetManager

open Library

/-! ### Records and notifications -/

/-- What callbacks are told of a state update. -/
def StateUpdate.info (update : StateUpdate) : NetConnCallbackInfo where
  netState := update.serviceState.code
  netType := update.networkType.code

/-- The notifications of a state update. -/
def StateUpdate.notifications (update : StateUpdate) : List Notification :=
  update.netConnCallback.map fun callback => ⟨update.service, callback, update.info⟩

/-- The update is one of the service, made while the callback was on its list. -/
def StateUpdate.Reaches (update : StateUpdate) (service : Ref NetService)
    (callback : INetConnCallback) : Prop :=
  update.service = service ∧
    callback.asObject ∈ update.netConnCallback.map INetConnCallback.asObject

instance (update : StateUpdate) (service : Ref NetService) (callback : INetConnCallback) :
    Decidable (update.Reaches service callback) :=
  inferInstanceAs (Decidable (_ ∧ _))

namespace World

/-- What a callback was told by a service, in order. -/
def received (world : World) (service : Ref NetService) (callback : INetConnCallback) :
    List NetConnCallbackInfo :=
  (world.notifications.filter fun notification =>
    notification.service = service ∧
      notification.callback.asObject = callback.asObject).map Notification.info

/-- The state updates a service made while the callback was on its list, in order. -/
def updatesWhile (world : World) (service : Ref NetService) (callback : INetConnCallback) :
    List StateUpdate :=
  world.stateUpdates.filter fun update => update.Reaches service callback

/-- The latest state update of a service. -/
def latestUpdate (world : World) (service : Ref NetService) : Option StateUpdate :=
  (world.stateUpdates.filter fun update => update.service = service).getLast?

end World

/-- With distinct callbacks, each is told once. -/
theorem StateUpdate.told (update : StateUpdate)
    (distinct : (update.netConnCallback.map INetConnCallback.asObject).Nodup)
    (service : Ref NetService) (callback : INetConnCallback) :
    (update.notifications.filter fun notification =>
      notification.service = service ∧
        notification.callback.asObject = callback.asObject).map Notification.info =
      if update.Reaches service callback then [update.info] else [] := by
  unfold StateUpdate.notifications StateUpdate.Reaches
  rw [List.filter_map, List.map_map]
  by_cases here : update.service = service
  · have once := told_eq distinct callback.asObject update.info
    simp only [here, true_and]
    rw [← once]
    refine congrArg₂ List.map rfl (List.filter_congr fun other _ => ?_)
    simp only [Function.comp_apply, true_and]
    rw [Bool.eq_iff_iff, decide_eq_true_iff, beq_iff_eq, eq_comm]
  · simp only [here, false_and, decide_false, Function.comp_def, List.filter_false, List.map_nil,
      if_false]

theorem told_flatMap {updates : List StateUpdate}
    (distinct : ∀ update ∈ updates,
      (update.netConnCallback.map INetConnCallback.asObject).Nodup)
    (service : Ref NetService) (callback : INetConnCallback) :
    ((updates.flatMap StateUpdate.notifications).filter fun notification =>
      notification.service = service ∧
        notification.callback.asObject = callback.asObject).map Notification.info =
      (updates.filter fun update => update.Reaches service callback).map StateUpdate.info := by
  induction updates with
  | nil => rfl
  | cons update rest inductionHypothesis =>
    obtain ⟨first, others⟩ := List.forall_mem_cons.mp distinct
    rw [List.flatMap_cons, List.filter_append, List.map_append, inductionHypothesis others,
      update.told first, List.filter_cons]
    by_cases reaches : update.Reaches service callback
    · rw [if_pos reaches, if_pos (decide_eq_true reaches)]
      rfl
    · rw [if_neg reaches, if_neg (by rwa [decide_eq_true_iff])]
      rfl

/-! ### Faithful worlds -/

/-- The notifications are the ones of the records, and the records agree with the services. -/
structure World.Faithful (world : World) : Prop where
  notifications : world.notifications = world.stateUpdates.flatMap StateUpdate.notifications
  distinct : ∀ update ∈ world.stateUpdates,
    (update.netConnCallback.map INetConnCallback.asObject).Nodup
  named : ∀ update ∈ world.stateUpdates, update.serviceState ≠ .unknown
  allocated : ∀ update ∈ world.stateUpdates, world.serviceHeap.Allocated update.service
  current : ∀ service update, world.latestUpdate service = some update →
    (world.service service).state = update.serviceState
  callbacks : world.DistinctCallbacks

namespace World

/-- The updates of a service a new update of some service adds. -/
theorem latestUpdate_append {before after : World} {update : StateUpdate}
    (recorded : after.stateUpdates = before.stateUpdates ++ [update]) (service : Ref NetService) :
    after.latestUpdate service =
      if update.service = service then some update else before.latestUpdate service := by
  unfold latestUpdate
  rw [recorded, List.filter_append]
  by_cases here : update.service = service
  · rw [if_pos here, List.filter_cons_of_pos (by simp [here])]
    exact List.getLast?_concat
  · rw [if_neg here, List.filter_cons_of_neg (by simp [here]), List.filter_nil, List.append_nil]

/-- What leaves the records, the notifications and the states alone. -/
theorem Faithful.of_kept {before after : World} (faithful : before.Faithful)
    (notifications : after.notifications = before.notifications)
    (stateUpdates : after.stateUpdates = before.stateUpdates)
    (kept : ∀ service, before.serviceHeap.Allocated service →
      after.serviceHeap.Allocated service ∧
        (after.service service).state = (before.service service).state)
    (callbacks : after.DistinctCallbacks) : after.Faithful := by
  refine ⟨?_, ?_, ?_, ?_, ?_, callbacks⟩
  · rw [notifications, stateUpdates]
    exact faithful.notifications
  · rw [stateUpdates]
    exact faithful.distinct
  · rw [stateUpdates]
    exact faithful.named
  · rw [stateUpdates]
    exact fun update recorded => (kept _ (faithful.allocated update recorded)).1
  · intro service update latest
    rw [latestUpdate, stateUpdates] at latest
    have recorded := List.mem_filter.mp (List.mem_of_getLast? latest)
    have owner : update.service = service := of_decide_eq_true recorded.2
    have allocated := faithful.allocated update recorded.1
    rw [owner] at allocated
    rw [(kept service allocated).2]
    exact faithful.current service update latest

/-- A world that grows without telling anybody anything. -/
structure Untold (before after : World) : Prop where
  notifications : after.notifications = before.notifications
  stateUpdates : after.stateUpdates = before.stateUpdates

theorem Untold.refl (world : World) : world.Untold world := ⟨rfl, rfl⟩

theorem Untold.trans {first second third : World} (earlier : first.Untold second)
    (later : second.Untold third) : first.Untold third :=
  ⟨later.notifications.trans earlier.notifications,
    later.stateUpdates.trans earlier.stateUpdates⟩

theorem Untold.frame : World.CallbackFrame (fun _ => True) Untold where
  __ := World.RegistrationFrame.of_setCallbacks Untold.refl Untold.trans fun _ _ _ => ⟨rfl, rfl⟩
  makeSupplier := fun _ _ _ => ⟨rfl, rfl⟩
  makeNetwork := fun _ _ => ⟨rfl, rfl⟩
  makeService := fun _ _ _ _ _ => ⟨rfl, rfl⟩
  destroy := fun _ _ => ⟨rfl, rfl⟩
  updateNetSupplierInfo := fun world network netSupplierInfo =>
    have silent := Network.silent_updateNetSupplierInfo world network netSupplierInfo
    ⟨silent.notifications, silent.stateUpdates⟩
  updateNetLinkInfo := fun _ _ _ => ⟨rfl, rfl⟩

/-- A state update of a service there is. -/
theorem Faithful.updateServiceState {world : World} (faithful : world.Faithful)
    {this : Ref NetService} (allocated : world.serviceHeap.Allocated this)
    {serviceState : ServiceState} (named : serviceState ≠ .unknown) :
    (NetService.updateServiceState world this serviceState).Faithful := by
  let update : StateUpdate := ⟨this, serviceState, (world.service this).networkType,
    (world.service this).netConnCallback⟩
  have recorded : (NetService.updateServiceState world this serviceState).stateUpdates =
      world.stateUpdates ++ [update] := rfl
  have stored : NetService.storedState serviceState = serviceState := by
    cases serviceState with
    | unknown => exact absurd rfl named
    | _ => rfl
  refine ⟨?_, ?_, ?_, ?_, ?_, ?_⟩
  · rw [NetService.notifications_updateServiceState, recorded, List.flatMap_append,
      List.flatMap_singleton, ← faithful.notifications]
    rfl
  · rw [recorded]
    refine List.forall_mem_append.mpr ⟨faithful.distinct, List.forall_mem_singleton.mpr ?_⟩
    exact faithful.callbacks this allocated
  · rw [recorded]
    exact List.forall_mem_append.mpr ⟨faithful.named, List.forall_mem_singleton.mpr named⟩
  · rw [recorded]
    exact List.forall_mem_append.mpr ⟨faithful.allocated, List.forall_mem_singleton.mpr allocated⟩
  · intro service latest found
    rw [latestUpdate_append recorded] at found
    by_cases here : this = service
    · rw [if_pos here, Option.some.injEq] at found
      rw [← here, NetService.service_updateServiceState, ← found]
      exact stored
    · rw [if_neg here] at found
      rw [NetService.service_updateServiceState_of_ne world (Ne.symm here)]
      exact faithful.current service latest found
  · unfold DistinctCallbacks
    rw [NetService.callbacks_updateServiceState]
    exact faithful.callbacks

/-- What a service reports is recorded and told. -/
theorem Faithful.reports {before after : World} (faithful : before.Faithful)
    {this : Ref NetService} (allocated : before.serviceHeap.Allocated this)
    {states : List ServiceState} (reports : NetService.Reports this before states after)
    (named : ∀ state ∈ states, state ≠ .unknown) : after.Faithful := by
  refine (reports.invariant
    (fun world => world.Faithful ∧ world.serviceHeap.Allocated this) (· ≠ .unknown)
    ?_ ?_ named ⟨faithful, allocated⟩).1
  · rintro world serviceState isNamed ⟨isFaithful, isAllocated⟩
    exact ⟨isFaithful.updateServiceState isAllocated isNamed, isAllocated⟩
  · rintro world quiet silent ⟨isFaithful, isAllocated⟩
    refine ⟨isFaithful.of_kept silent.notifications silent.stateUpdates ?_ ?_, ?_⟩
    · intro service inWorld
      unfold World.service
      rw [silent.serviceHeap]
      exact ⟨inWorld, rfl⟩
    · unfold DistinctCallbacks World.callbacks
      rw [silent.serviceHeap]
      exact isFaithful.callbacks
    · rw [silent.serviceHeap]
      exact isAllocated

end World

/-! ### Every run -/

namespace NetConnService

/-- The default service is allocated at the moment it is connected. -/
theorem default_allocated {state moment : NetConnService} {action : Action}
    (wellFormed : state.registry.WellFormed) (reached : state.operating action = some moment)
    {service : Ref NetService} (selected : moment.defaultNetService = some service) :
    moment.world.serviceHeap.Allocated service := by
  have momentWellFormed : moment.registry.WellFormed := by
    rcases operating_registry state action moment reached with before | after
    · rw [before]
      exact wellFormed
    · rw [after]
      exact step_wellFormed state action wellFormed
  exact (momentWellFormed.default service selected).1

theorem faithful_step (state : NetConnService) (action : Action)
    (wellFormed : state.registry.WellFormed) (faithful : state.world.Faithful) :
    (state.step action).world.Faithful := by
  have grown {after : World} (untold : state.world.Untold after) (grows : state.world.Grows after)
      (distinct : after.DistinctCallbacks) : after.Faithful := by
    refine faithful.of_kept untold.notifications untold.stateUpdates (fun service allocated => ?_)
      distinct
    obtain ⟨stillAllocated, same, _⟩ := grows.serviceKept service allocated
    exact ⟨stillAllocated, same⟩
  have distinct := distinctCallbacks_step state action faithful.callbacks
  cases reached : state.operating action with
  | none =>
    exact grown (World.Untold.frame.of_quiet state reached fun _ _ => trivial)
      (grows_quiet state action reached) distinct
  | some moment =>
    have opened : moment.world.Faithful :=
      grown (World.Untold.frame.operating state reached) (World.Grows.frame.operating state reached)
        (World.DistinctCallbacks.frame.operating state reached faithful.callbacks)
    rcases passes_operating reached with same | ⟨service, selected, states, passed, named, _⟩
    · rw [same]
      exact opened
    · exact opened.reports (default_allocated wellFormed reached selected) passed named

theorem start_faithful (answers : Nat → Int) : (start answers).world.Faithful :=
  ⟨rfl, fun _ absent => absurd absent List.not_mem_nil,
    fun _ absent => absurd absent List.not_mem_nil, fun _ absent => absurd absent List.not_mem_nil,
    fun _ _ absent => absurd absent (Option.some_ne_none _).symm,
    fun _ allocated => absurd allocated (Nat.not_lt_zero _)⟩

theorem faithful_run (answers : Nat → Int) (actions : List Action) :
    (run step (start answers) actions).world.Faithful :=
  (run_invariant step (fun state => state.registry.WellFormed ∧ state.world.Faithful)
    (fun state action holds => ⟨step_wellFormed state action holds.1,
      faithful_step state action holds.1 holds.2⟩)
    ⟨start_wellFormed answers, start_faithful answers⟩ actions).2

/-- What a callback was told by a service are the state updates the service made while it had the
callback, each once and in order; and if it had the callback at the latest of them, the last state
the callback was told is the state of the service. -/
theorem notifications_run (answers : Nat → Int) (actions : List Action)
    (service : Ref NetService) (callback : INetConnCallback) :
    let world := (run step (start answers) actions).world
    world.received service callback =
        (world.updatesWhile service callback).map StateUpdate.info ∧
      ∀ update, world.latestUpdate service = some update → update.Reaches service callback →
        (world.received service callback).getLast?.map NetConnCallbackInfo.netState =
          some (world.service service).state.code := by
  intro world
  have faithful : world.Faithful := faithful_run answers actions
  have told : world.received service callback =
      (world.updatesWhile service callback).map StateUpdate.info := by
    unfold World.received
    rw [faithful.notifications]
    exact told_flatMap faithful.distinct service callback
  refine ⟨told, fun update latest reaches => ?_⟩
  have last : (world.updatesWhile service callback).getLast? = some update := by
    have narrowed : world.updatesWhile service callback =
        (world.stateUpdates.filter fun update => update.service = service).filter
          fun update => update.Reaches service callback := by
      rw [List.filter_filter]
      refine List.filter_congr fun update _ => ?_
      rw [← Bool.decide_and, decide_eq_decide]
      exact (and_iff_left_of_imp And.left).symm
    rw [narrowed]
    exact getLast?_filter latest (decide_eq_true reaches)
  rw [told, List.getLast?_map, last, faithful.current service update latest]
  rfl

end NetConnService

end NetManager
