/-
This file puts the connection service and the clients of its callbacks together. While the service
acts it tells the callbacks on its lists, through their proxies, and some of the clients may be gone
by then; meanwhile anyone may send messages to the stub of a callback.

As far as its messages are delivered, the service calls a client once for every state update that
was made while a service had its callback, in the order of the updates, and whatever other clients
there are. It calls nobody with a null pointer: that takes a message of someone else.
-/

import NetManager.Ipc.NetConnCallback

namespace NetManager

open Library Message

/-- The connection service, and what the callbacks were called with, by their remote objects. -/
structure CallbackSystem where
  service : NetConnService
  called : Nat → List (Option NetConnCallbackInfo) := fun _ => []

/-! ### State updates are only added -/

/-- No state update is forgotten. -/
def World.Recalls (before after : World) : Prop := before.stateUpdates <+: after.stateUpdates

theorem World.Recalls.refl (world : World) : world.Recalls world := List.prefix_refl _

theorem World.Recalls.trans {first second third : World} (earlier : first.Recalls second)
    (later : second.Recalls third) : first.Recalls third := List.IsPrefix.trans earlier later

theorem World.Recalls.frame : World.CallbackFrame (fun _ => True) World.Recalls where
  __ := World.RegistrationFrame.of_setCallbacks World.Recalls.refl World.Recalls.trans
    fun _ _ _ => List.prefix_refl _
  makeSupplier := fun _ _ _ => List.prefix_refl _
  makeNetwork := fun _ _ => List.prefix_refl _
  makeService := fun _ _ _ _ _ => List.prefix_refl _
  destroy := fun _ _ => List.prefix_refl _
  updateNetSupplierInfo := fun world network netSupplierInfo => by
    unfold World.Recalls
    rw [(Network.silent_updateNetSupplierInfo world network netSupplierInfo).stateUpdates]
  updateNetLinkInfo := fun _ _ _ => List.prefix_refl _

theorem NetService.Reports.recalls {this : Ref NetService} {before after : World}
    {states : List ServiceState} (reports : NetService.Reports this before states after) :
    before.Recalls after := by
  refine reports.invariant before.Recalls (fun _ => True) ?_ ?_ (fun _ _ => trivial)
    (List.prefix_refl _)
  · intro world serviceState _ recalls
    exact recalls.trans (List.prefix_append _ _)
  · intro world quiet silent recalls
    unfold World.Recalls
    rw [silent.stateUpdates]
    exact recalls

/-- A step adds state updates, and tells the callbacks of them. -/
theorem NetConnService.told_step (state : NetConnService) (action : NetConnService.Action)
    (wellFormed : state.registry.WellFormed) (faithful : state.world.Faithful) :
    ∃ more, (state.step action).world.stateUpdates = state.world.stateUpdates ++ more ∧
      (state.step action).world.notifications =
        state.world.notifications ++ more.flatMap StateUpdate.notifications ∧
      ∀ update ∈ more, (update.netConnCallback.map INetConnCallback.asObject).Nodup := by
  obtain ⟨more, added⟩ := World.Recalls.frame.step NetService.Reports.recalls state action
    fun _ _ => trivial
  have after := faithful_step state action wellFormed faithful
  refine ⟨more, added.symm, ?_, fun update member => after.distinct update ?_⟩
  · rw [after.notifications, ← added, List.flatMap_append, ← faithful.notifications]
  · rw [← added]
    exact List.mem_append_right _ member

namespace CallbackSystem

/-! ### Events -/

/-- What can happen: the service acts, while the callbacks have these remote objects, or someone
sends a message to the stub of a callback. -/
inductive Event
  | service (action : NetConnService.Action) (remotes : Nat → Remote)
  | message (object : Nat) (code : UInt32) (data : List MessageCell)

section Events

/- What the clients do when they are called, codes of the base system, and
`IPCObjectStub::OnRemoteRequest`. -/
variable (client : Nat → Option NetConnCallbackInfo → Int32)
  (errFlattenObject errNullObject : Int)
  (ipcObjectStub : UInt32 → List MessageCell → Int × List MessageCell)

/-- One call of a callback by the service. -/
def tell (remotes : Nat → Remote) (called : Nat → List (Option NetConnCallbackInfo))
    (notification : Notification) : Nat → List (Option NetConnCallbackInfo) :=
  let object := notification.callback.asObject
  Function.update called object (called object ++
    (NetConnCallbackProxy.netConnStateChanged (client object) errFlattenObject errNullObject
      ipcObjectStub (remotes object) notification.info).2)

/-- One event. -/
def step (state : CallbackSystem) : Event → CallbackSystem
  | .service action remotes =>
    let after := state.service.step action
    let made := after.world.notifications.drop state.service.world.notifications.length
    { service := after
      called := made.foldl (tell client errFlattenObject errNullObject ipcObjectStub remotes)
        state.called }
  | .message object code data =>
    { state with called := Function.update state.called object (state.called object ++
      (NetConnCallbackStub.onRemoteRequest (client object) errFlattenObject ipcObjectStub code
        data).called) }

end Events

/-- What a callback with this remote object is to be told of state updates: of those that were made
while a service had it. -/
def owed (updates : List StateUpdate) (object : Nat) : List (Option NetConnCallbackInfo) :=
  (updates.filter fun update => object ∈ update.netConnCallback.map INetConnCallback.asObject).map
    (some ∘ StateUpdate.info)

/-- Nobody but the service sends messages to the stub of the callback. -/
def Event.Undisturbed (object : Nat) : Event → Prop
  | .service _ _ => True
  | .message other _ _ => other ≠ object

/-- Messages of the service reach the callback. -/
def Event.Delivers (object : Nat) : Event → Prop
  | .service _ remotes => remotes object = .stub
  | .message _ _ _ => True

variable {client : Nat → Option NetConnCallbackInfo → Int32}
  {errFlattenObject errNullObject : Int}
  {ipcObjectStub : UInt32 → List MessageCell → Int × List MessageCell}

/-! ### One event -/

/-- What callbacks are told fits in a parcel. -/
theorem inInt32_info (update : StateUpdate) : update.info.InInt32 := by
  have codes (serviceState : ServiceState) :
      -2 ^ 31 ≤ serviceState.code ∧ serviceState.code < 2 ^ 31 := by
    cases serviceState with
    | _ => decide
  exact codes update.serviceState

/-- Telling a callback calls its client, if it is reached. -/
theorem called_tell (remotes : Nat → Remote) (called : Nat → List (Option NetConnCallbackInfo))
    {notification : Notification} (fits : notification.info.InInt32) (object : Nat) :
    tell client errFlattenObject errNullObject ipcObjectStub remotes called notification object =
      called object ++ if notification.callback.asObject = object ∧ remotes object = .stub then
        [some notification.info] else [] := by
  unfold tell
  rw [NetConnCallbackProxy.called_netConnStateChanged _ _ _ _ _ fits]
  by_cases same : notification.callback.asObject = object
  · subst same
    rw [Function.update_self]
    by_cases reached : remotes notification.callback.asObject = .stub
    · rw [if_pos reached, if_pos ⟨rfl, reached⟩]
    · rw [if_neg reached, if_neg fun both => reached both.2]
  · rw [Function.update_of_ne (Ne.symm same), if_neg fun both => same both.1, List.append_nil]

/-- Telling the callbacks of an update calls each client on the list once, if it is reached. -/
theorem called_update (remotes : Nat → Remote) (called : Nat → List (Option NetConnCallbackInfo))
    (update : StateUpdate)
    (distinct : (update.netConnCallback.map INetConnCallback.asObject).Nodup) (object : Nat) :
    update.notifications.foldl
        (tell client errFlattenObject errNullObject ipcObjectStub remotes) called object =
      called object ++
        if object ∈ update.netConnCallback.map INetConnCallback.asObject ∧
            remotes object = .stub then [some update.info] else [] := by
  unfold StateUpdate.notifications
  rw [List.foldl_map]
  generalize update.netConnCallback = callbacks at distinct
  induction callbacks generalizing called with
  | nil =>
    rw [if_neg fun both => List.not_mem_nil both.1, List.append_nil]
    rfl
  | cons callback rest inductionHypothesis =>
    rw [List.map_cons, List.nodup_cons] at distinct
    have fits : (Notification.mk update.service callback update.info).info.InInt32 :=
      inInt32_info update
    rw [List.foldl_cons, inductionHypothesis _ distinct.2, called_tell remotes called fits,
      List.append_assoc, List.map_cons]
    refine congrArg (called object ++ ·) ?_
    by_cases same : callback.asObject = object
    · subst same
      have absent : ¬(callback.asObject ∈ rest.map INetConnCallback.asObject ∧
          remotes callback.asObject = .stub) := fun both => distinct.1 both.1
      rw [if_neg absent, List.append_nil]
      exact if_congr (and_congr_left' (iff_of_true rfl List.mem_cons_self)) rfl rfl
    · rw [if_neg fun both => same both.1, List.nil_append]
      refine if_congr (and_congr_left' ?_) rfl rfl
      rw [List.mem_cons, or_iff_right (Ne.symm same)]

/-- Telling the callbacks of several updates. -/
theorem called_updates (remotes : Nat → Remote)
    (called : Nat → List (Option NetConnCallbackInfo)) (updates : List StateUpdate)
    (distinct : ∀ update ∈ updates,
      (update.netConnCallback.map INetConnCallback.asObject).Nodup) (object : Nat) :
    (updates.flatMap StateUpdate.notifications).foldl
        (tell client errFlattenObject errNullObject ipcObjectStub remotes) called object =
      called object ++ if remotes object = .stub then owed updates object else [] := by
  unfold owed
  induction updates generalizing called with
  | nil =>
    rw [List.filter_nil, List.map_nil, ite_self, List.append_nil]
    rfl
  | cons update rest inductionHypothesis =>
    obtain ⟨first, others⟩ := List.forall_mem_cons.mp distinct
    rw [List.flatMap_cons, List.foldl_append, inductionHypothesis _ others,
      called_update remotes called update first, List.append_assoc]
    refine congrArg (called object ++ ·) ?_
    by_cases reached : remotes object = .stub
    · rw [if_pos reached, if_pos reached, List.filter_cons]
      by_cases listed : object ∈ update.netConnCallback.map INetConnCallback.asObject
      · rw [if_pos ⟨listed, reached⟩, if_pos (decide_eq_true listed)]
        rfl
      · rw [if_neg fun both => listed both.1, if_neg fun found => listed (of_decide_eq_true found)]
        rfl
    · rw [if_neg reached, if_neg reached, if_neg fun both => reached both.2]
      rfl

/-! ### Every run -/

/-- How the calls of a client come from the events and the state updates made meanwhile. -/
structure Told (object : Nat) (events : List Event) (updates : List StateUpdate)
    (called : List (Option NetConnCallbackInfo)) : Prop where
  null : none ∈ called → ∃ code data, Event.message object code data ∈ events ∧
    none ∈ NetConnCallbackStub.heard code data
  inOrder : (∀ event ∈ events, event.Undisturbed object) → called.Sublist (owed updates object)
  all : (∀ event ∈ events, event.Undisturbed object) → (∀ event ∈ events, event.Delivers object) →
    called = owed updates object

theorem owed_append (updates more : List StateUpdate) (object : Nat) :
    owed (updates ++ more) object = owed updates object ++ owed more object := by
  unfold owed
  rw [List.filter_append, List.map_append]

theorem Told.none (object : Nat) : Told object [] [] [] :=
  ⟨fun absent => absurd absent List.not_mem_nil, fun _ => List.Sublist.refl _, fun _ _ => rfl⟩

theorem Told.cons {object : Nat} {event : Event} {rest : List Event}
    {updates more : List StateUpdate} {called later : List (Option NetConnCallbackInfo)}
    (first : Told object [event] updates called) (others : Told object rest more later) :
    Told object (event :: rest) (updates ++ more) (called ++ later) := by
  refine ⟨fun null => ?_, fun undisturbed => ?_, fun undisturbed delivered => ?_⟩
  · rcases List.mem_append.mp null with now | afterwards
    · obtain ⟨code, data, sent, hears⟩ := first.null now
      exact ⟨code, data, List.mem_cons.mpr (Or.inl (List.mem_singleton.mp sent)), hears⟩
    · obtain ⟨code, data, sent, hears⟩ := others.null afterwards
      exact ⟨code, data, List.mem_cons_of_mem _ sent, hears⟩
  · obtain ⟨now, later⟩ := List.forall_mem_cons.mp undisturbed
    rw [owed_append]
    exact (first.inOrder (List.forall_mem_singleton.mpr now)).append (others.inOrder later)
  · obtain ⟨now, later⟩ := List.forall_mem_cons.mp undisturbed
    obtain ⟨reached, reachedLater⟩ := List.forall_mem_cons.mp delivered
    rw [owed_append, first.all (List.forall_mem_singleton.mpr now)
      (List.forall_mem_singleton.mpr reached), others.all later reachedLater]

/-- What one event makes of the calls of a client. -/
theorem called_step (state : CallbackSystem) (wellFormed : state.service.registry.WellFormed)
    (faithful : state.service.world.Faithful) (event : Event) (object : Nat) :
    let after := step client errFlattenObject errNullObject ipcObjectStub state event
    ∃ more said, after.service.world.stateUpdates = state.service.world.stateUpdates ++ more ∧
      after.called object = state.called object ++ said ∧ Told object [event] more said := by
  intro after
  cases event with
  | service action remotes =>
    obtain ⟨more, updates, notifications, distinct⟩ :=
      state.service.told_step action wellFormed faithful
    have made : (state.service.step action).world.notifications.drop
        state.service.world.notifications.length = more.flatMap StateUpdate.notifications := by
      rw [notifications, List.drop_left]
    refine ⟨more, if remotes object = .stub then owed more object else [], updates, ?_, ?_⟩
    · have said : after.called = ((state.service.step action).world.notifications.drop
          state.service.world.notifications.length).foldl
            (tell client errFlattenObject errNullObject ipcObjectStub remotes) state.called := rfl
      rw [said, made]
      exact called_updates remotes state.called more distinct object
    · refine ⟨fun null => ?_, fun _ => ?_, fun _ delivered => ?_⟩
      · split at null
        · obtain ⟨update, _, absent⟩ := List.mem_map.mp null
          exact absurd absent (Option.some_ne_none _)
        · exact absurd null List.not_mem_nil
      · split
        · exact List.Sublist.refl _
        · exact List.nil_sublist _
      · exact if_pos (List.forall_mem_singleton.mp delivered)
  | message other code data =>
    have said : after.called = Function.update state.called other (state.called other ++
        NetConnCallbackStub.heard code data) := by
      rw [← NetConnCallbackStub.called_onRemoteRequest (client other) errFlattenObject
        ipcObjectStub code data]
      rfl
    by_cases same : object = other
    · subst same
      refine ⟨[], NetConnCallbackStub.heard code data, (List.append_nil _).symm, ?_,
        fun null => ⟨code, data, List.mem_cons_self, null⟩, fun undisturbed => ?_,
        fun undisturbed => ?_⟩
      · rw [said, Function.update_self]
      · exact (undisturbed _ List.mem_cons_self rfl).elim
      · exact (undisturbed _ List.mem_cons_self rfl).elim
    · refine ⟨[], [], (List.append_nil _).symm, ?_, fun null => absurd null List.not_mem_nil,
        fun _ => List.Sublist.refl _, fun _ _ => rfl⟩
      rw [said, Function.update_of_ne same, List.append_nil]

theorem called_run_from (state : CallbackSystem) (wellFormed : state.service.registry.WellFormed)
    (faithful : state.service.world.Faithful) (events : List Event) (object : Nat) :
    let reached :=
      run (step client errFlattenObject errNullObject ipcObjectStub) state events
    ∃ more said, reached.service.world.stateUpdates = state.service.world.stateUpdates ++ more ∧
      reached.called object = state.called object ++ said ∧ Told object events more said := by
  induction events generalizing state with
  | nil => exact ⟨[], [], (List.append_nil _).symm, (List.append_nil _).symm, Told.none object⟩
  | cons event rest inductionHypothesis =>
    intro reached
    obtain ⟨now, called, updates, said, told⟩ :=
      @called_step client errFlattenObject errNullObject ipcObjectStub state wellFormed faithful
        event object
    have kept : (step client errFlattenObject errNullObject ipcObjectStub state
        event).service.registry.WellFormed ∧ (step client errFlattenObject errNullObject
          ipcObjectStub state event).service.world.Faithful := by
      cases event with
      | service action remotes =>
        exact ⟨NetConnService.step_wellFormed state.service action wellFormed,
          NetConnService.faithful_step state.service action wellFormed faithful⟩
      | message other code data => exact ⟨wellFormed, faithful⟩
    obtain ⟨later, calledLater, updatesLater, saidLater, toldLater⟩ :=
      inductionHypothesis _ kept.1 kept.2
    refine ⟨now ++ later, called ++ calledLater, ?_, ?_, told.cons toldLater⟩
    · exact updatesLater.trans (by rw [updates, List.append_assoc])
    · exact saidLater.trans (by rw [said, List.append_assoc])

/-- Before anything has happened. -/
def start (answers : Nat → Int) : CallbackSystem where
  service := NetConnService.start answers

/-- In every run, the calls of a client come in the order of the state updates they tell, each at
most once, and exactly once when all messages to it are delivered, as long as nobody else sends
messages to its stub; and it is called with a null pointer only by a message of somebody else. -/
theorem called_run (client : Nat → Option NetConnCallbackInfo → Int32)
    (errFlattenObject errNullObject : Int)
    (ipcObjectStub : UInt32 → List MessageCell → Int × List MessageCell) (answers : Nat → Int)
    (events : List Event) (object : Nat) :
    let reached :=
      run (step client errFlattenObject errNullObject ipcObjectStub) (start answers) events
    Told object events reached.service.world.stateUpdates (reached.called object) := by
  intro reached
  obtain ⟨more, said, updates, called, told⟩ :=
    @called_run_from client errFlattenObject errNullObject ipcObjectStub (start answers)
      (NetConnService.start_wellFormed answers) (NetConnService.start_faithful answers) events
      object
  have sameUpdates : reached.service.world.stateUpdates = more := updates
  have sameCalls : reached.called object = said := called
  rw [sameUpdates, sameCalls]
  exact told

end CallbackSystem

end NetManager
