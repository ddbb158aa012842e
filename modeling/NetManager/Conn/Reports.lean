/-
This file says what a service tells its callbacks. Whatever `ServiceConnect` and
`ServiceDisConnect` do is a sequence of state updates of one service, and nothing they do in
between writes a service or reaches a callback. So everybody on the callback list of the
service is told of every update of the sequence, in order, and nobody else is told anything.
-/

import NetManager.Conn.Identity

namespace NetManager

open Library

/-- The callback lists of the services. -/
def World.callbacks (world : World) : Heap NetService (List INetConnCallback) :=
  world.serviceHeap.map NetService.netConnCallback

/-! ### Silence -/

/-- No service is written and no callback is reached. -/
structure World.Silent (before after : World) : Prop where
  serviceHeap : after.serviceHeap = before.serviceHeap
  notifications : after.notifications = before.notifications
  stateUpdates : after.stateUpdates = before.stateUpdates

theorem World.Silent.refl (world : World) : world.Silent world := ⟨rfl, rfl, rfl⟩

theorem World.Silent.trans {first second third : World} (earlier : first.Silent second)
    (later : second.Silent third) : first.Silent third :=
  ⟨later.serviceHeap.trans earlier.serviceHeap, later.notifications.trans earlier.notifications,
    later.stateUpdates.trans earlier.stateUpdates⟩

theorem NetSupplier.silent_supplierDisconnection (world : World) (this : Ref NetSupplier)
    (netCapabilities : NetCapabilities) :
    world.Silent (supplierDisconnection world this netCapabilities).2 := by
  unfold supplierDisconnection
  split
  · exact .refl world
  · dsimp only
    split
    · exact ⟨rfl, rfl, rfl⟩
    · exact ⟨rfl, rfl, rfl⟩

/-- Activating a network and taking it down reach no service. -/
theorem World.silent_frame : World.ActivationFrame World.Silent where
  refl := World.Silent.refl
  trans := World.Silent.trans
  supplierDisconnection := NetSupplier.silent_supplierDisconnection
  activate _ _ := ⟨rfl, rfl, rfl⟩

theorem Network.silent_updateNetSupplierInfo (world : World) (this : Ref Network)
    (netSupplierInfo : NetSupplierInfo) :
    world.Silent (updateNetSupplierInfo world this netSupplierInfo) := by
  unfold updateNetSupplierInfo
  dsimp only
  split
  · exact ⟨rfl, rfl, rfl⟩
  · exact ⟨rfl, rfl, rfl⟩

namespace NetService

theorem service_updateServiceState (world : World) (this : Ref NetService)
    (serviceState : ServiceState) :
    (updateServiceState world this serviceState).service this =
      { world.service this with state := storedState serviceState } :=
  world.serviceHeap.cell_set_self this _

theorem service_updateServiceState_of_ne (world : World) {this service : Ref NetService}
    (different : service ≠ this) (serviceState : ServiceState) :
    (updateServiceState world this serviceState).service service = world.service service :=
  world.serviceHeap.cell_set_of_ne _ different

/-- Everybody on the list of the service is told of a state update. -/
theorem notifications_updateServiceState (world : World) (this : Ref NetService)
    (serviceState : ServiceState) :
    (updateServiceState world this serviceState).notifications =
      world.notifications ++ (world.service this).netConnCallback.map fun callback =>
        ⟨this, callback, serviceState.code, (world.service this).networkType.code⟩ := by
  show _ ++ ((updateServiceState world this serviceState).service this).netConnCallback.map _ = _
  rw [service_updateServiceState]
  rfl

theorem callbacks_updateServiceState (world : World) (this : Ref NetService)
    (serviceState : ServiceState) :
    (updateServiceState world this serviceState).callbacks = world.callbacks :=
  world.serviceHeap.map_set_of_kept NetService.netConnCallback this
    { world.service this with state := storedState serviceState } rfl

/-! ### Reports -/

/-- The service passes through the states, and is silent in between. -/
inductive Reports (this : Ref NetService) : World → List ServiceState → World → Prop
  | silent {before after : World} (silent : before.Silent after) : Reports this before [] after
  | update {before middle after : World} {states : List ServiceState}
      (earlier : Reports this before states middle) (serviceState : ServiceState)
      (silent : (updateServiceState middle this serviceState).Silent after) :
      Reports this before (states ++ [serviceState]) after

namespace Reports

variable {this : Ref NetService} {before middle after : World}
variable {states more : List ServiceState}

theorem append (earlier : Reports this before states middle)
    (later : Reports this middle more after) : Reports this before (states ++ more) after := by
  induction later with
  | silent silent =>
    rw [List.append_nil]
    cases earlier with
    | silent before => exact .silent (before.trans silent)
    | update earlier serviceState before => exact .update earlier serviceState (before.trans silent)
  | update _ serviceState silent inductionHypothesis =>
    rw [← List.append_assoc]
    exact .update inductionHypothesis serviceState silent

theorem of_update (world : World) (this : Ref NetService) (serviceState : ServiceState) :
    Reports this world [serviceState] (updateServiceState world this serviceState) :=
  .update (.silent (.refl world)) serviceState (.refl _)

/-- What state updates and silence keep, reports keep. -/
theorem invariant (Invariant : World → Prop) (given : ServiceState → Prop)
    (updates : ∀ world serviceState, given serviceState → Invariant world →
      Invariant (updateServiceState world this serviceState))
    (silence : ∀ {world quiet : World}, world.Silent quiet → Invariant world → Invariant quiet)
    (reports : Reports this before states after)
    (allGiven : ∀ serviceState ∈ states, given serviceState) (initial : Invariant before) :
    Invariant after := by
  induction reports with
  | silent silent => exact silence silent initial
  | update _ serviceState silent inductionHypothesis =>
    have earlier := inductionHypothesis fun state member =>
      allGiven state (List.mem_append_left _ member)
    have last := allGiven serviceState (List.mem_append_right _ List.mem_cons_self)
    exact silence silent (updates _ serviceState last earlier)

theorem callbacks (reports : Reports this before states after) :
    after.callbacks = before.callbacks := by
  refine reports.invariant (fun world => world.callbacks = before.callbacks) (fun _ => True)
    ?_ ?_ (fun _ _ => trivial) rfl
  · intro world serviceState _ same
    exact (callbacks_updateServiceState world this serviceState).trans same
  · intro world quiet silent same
    rw [World.callbacks, silent.serviceHeap]
    exact same

theorem networkType (reports : Reports this before states after) :
    (after.service this).networkType = (before.service this).networkType := by
  refine reports.invariant
    (fun world => (world.service this).networkType = (before.service this).networkType)
    (fun _ => True) ?_ ?_ (fun _ _ => trivial) rfl
  · intro world serviceState _ same
    rw [service_updateServiceState]
    exact same
  · intro world quiet silent same
    rw [World.service, silent.serviceHeap]
    exact same

/-- Everybody on the list is told of every state, in order. -/
theorem notifications (reports : Reports this before states after) :
    after.notifications = before.notifications ++ states.flatMap fun serviceState =>
      (before.service this).netConnCallback.map fun callback =>
        ⟨this, callback, serviceState.code, (before.service this).networkType.code⟩ := by
  induction reports with
  | silent silent => rw [silent.notifications, List.flatMap_nil, List.append_nil]
  | update earlier serviceState silent inductionHypothesis =>
    rename_i middle _ _
    have list : (middle.service this).netConnCallback = (before.service this).netConnCallback :=
      congrArg (fun callbacks => callbacks.cell this) earlier.callbacks
    rw [silent.notifications, notifications_updateServiceState, inductionHypothesis, list,
      earlier.networkType, List.flatMap_append, List.flatMap_singleton, List.append_assoc]

end Reports

/-! ### What the services do -/

/-- `ServiceConnect` reaches the network. -/
def connects (world : World) (this : Ref NetService) : Bool :=
  !isConnecting world this && !isConnected world this &&
    (world.service this).networkType == .cellular

/-- `ReConnectService` disconnects the service or reaches its network. -/
def reconnects (world : World) (this : Ref NetService) : Bool :=
  isConnected world this || isConnecting world this ||
    (world.service this).networkType == .cellular

/-- A call passes through states that have a name, and through some exactly when it acts. -/
def Passes (this : Ref NetService) (before after : World) (acts : Bool) : Prop :=
  ∃ states, Reports this before states after ∧ (∀ state ∈ states, state ≠ .unknown) ∧
    (states = [] ↔ acts = false)

theorem Passes.rest (this : Ref NetService) (world : World) : Passes this world world false :=
  ⟨[], .silent (.refl world), fun _ member => absurd member (by simp), iff_of_true rfl rfl⟩

/-- Whatever follows a call that acts, the two of them act. -/
theorem Passes.append {this : Ref NetService} {before middle after : World} {acts : Bool}
    (first : Passes this before middle true) (second : Passes this middle after acts) :
    Passes this before after true := by
  obtain ⟨states, reports, named, some⟩ := first
  obtain ⟨more, later, alsoNamed, _⟩ := second
  refine ⟨states ++ more, reports.append later, ?_, ?_⟩
  · intro state member
    exact (List.mem_append.mp member).elim (named state) (alsoNamed state)
  · rw [List.append_eq_nil_iff, some]
    simp

theorem reports_networkConnect (world : World) (this : Ref NetService) :
    Reports this world [.connecting] (networkConnect world this).2 :=
  .update (.silent (.refl world)) .connecting (World.silent_frame.networkConnect _ _ _)

theorem silent_networkDisConnect (world : World) (this : Ref NetService) :
    world.Silent (networkDisConnect world this).2 :=
  World.silent_frame.networkDisconnect _ _ _

/-- A connection that fails, and one that succeeds. -/
theorem reports_connectCellular (world : World) (this : Ref NetService) :
    Reports this world [.idle, .connecting, .failure, .disconnected, .idle]
        (connectCellular world this).2 ∨
      Reports this world [.idle, .connecting, .ready] (connectCellular world this).2 := by
  have connecting := (Reports.of_update world this .idle).append
    (reports_networkConnect (updateServiceState world this .idle) this)
  unfold connectCellular
  dsimp only
  split
  · left
    have released := Reports.update connecting .failure
      (silent_networkDisConnect (updateServiceState
        (networkConnect (updateServiceState world this .idle) this).2 this .failure) this)
    exact (released.update .disconnected (.refl _)).update .idle (.refl _)
  · right
    exact connecting.update .ready (.refl _)

theorem passes_serviceConnect (world : World) (this : Ref NetService) :
    Passes this world (serviceConnect world this).2 (connects world this) := by
  unfold serviceConnect connects
  cases isConnecting world this with
  | true => exact .rest this world
  | false =>
    cases isConnected world this with
    | true => exact .rest this world
    | false =>
      cases (world.service this).networkType with
      | cellular =>
        rcases reports_connectCellular world this with failed | succeeded
        · exact ⟨_, failed, by decide, by decide⟩
        · exact ⟨_, succeeded, by decide, by decide⟩
      | unknown => exact .rest this world
      | ethernet => exact .rest this world
      | max => exact .rest this world

/-- A disconnection acts unless the service is disconnecting or disconnected. -/
theorem passes_serviceDisConnect (world : World) (this : Ref NetService) :
    Passes this world (serviceDisConnect world this).2
      ((world.service this).state != .disconnecting &&
        (world.service this).state != .disconnected) := by
  have released : Reports this world [.disconnecting]
      (networkDisConnect (updateServiceState world this .disconnecting) this).2 :=
    .update (.silent (.refl world)) .disconnecting (silent_networkDisConnect _ this)
  unfold serviceDisConnect
  split
  · rename_i disconnecting
    rw [disconnecting]
    exact .rest this world
  · rename_i disconnected
    rw [disconnected]
    exact .rest this world
  · rename_i notDisconnecting notDisconnected
    rw [bne_iff_ne.mpr notDisconnecting, bne_iff_ne.mpr notDisconnected]
    dsimp only
    split
    · exact ⟨_, released.update .failure (.refl _), by decide, by decide⟩
    · exact ⟨_, (released.update .disconnected (.refl _)).update .idle (.refl _), by decide,
        by decide⟩

theorem passes_reConnect (world : World) (this : Ref NetService) :
    Passes this world (reConnect world this).2 (reconnects world this) := by
  unfold reConnect reconnects
  split
  · rename_i active
    have awake : ((world.service this).state != .disconnecting &&
        (world.service this).state != .disconnected) = true := by
      unfold isConnected isConnecting at active
      cases state : (world.service this).state <;> simp_all
    have disconnection := passes_serviceDisConnect world this
    rw [awake] at disconnection
    rw [active]
    exact disconnection.append (passes_serviceConnect _ this)
  · rename_i inactive
    have connection := passes_serviceConnect world this
    rw [Bool.not_eq_true, Bool.or_eq_false_iff] at inactive
    rw [connects, inactive.1, inactive.2] at connection
    rw [inactive.1, inactive.2]
    exact connection

end NetService

end NetManager
