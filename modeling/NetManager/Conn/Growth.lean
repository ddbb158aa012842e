/-
This file says what the actions do to flags and states outside of attempts to connect:
nothing, except that new networks come with their flags down and new services are idle
(`World.Grows`). An action that reaches the connection of the default service grows the
world first and then makes one attempt (`operating_spec`).
-/

import NetManager.Conn.Connection
import NetManager.Conn.Frame

namespace NetManager

open Library

/-! ### Worlds that grow -/

/-- From one world to the other networks and services may be added, with their flags down and
idle, and nothing else changes in what the connection state machine decides by. -/
structure World.Grows (before after : World) : Prop where
  networkKept : ∀ network, before.networkHeap.Allocated network →
    after.networkHeap.Allocated network ∧
      (after.network network).flags = (before.network network).flags
  networkNew : ∀ network, after.networkHeap.Allocated network →
    ¬before.networkHeap.Allocated network → (after.network network).flags = ⟨false, false⟩
  serviceKept : ∀ service, before.serviceHeap.Allocated service →
    after.serviceHeap.Allocated service ∧
      (after.service service).state = (before.service service).state ∧
        (after.service service).network = (before.service service).network
  serviceNew : ∀ service, after.serviceHeap.Allocated service →
    ¬before.serviceHeap.Allocated service → (after.service service).state = .idle

namespace World.Grows

theorem refl (world : World) : world.Grows world :=
  ⟨fun _ allocated => ⟨allocated, rfl⟩, fun _ allocated unallocated =>
    absurd allocated unallocated, fun _ allocated => ⟨allocated, rfl, rfl⟩,
    fun _ allocated unallocated => absurd allocated unallocated⟩

theorem trans {first second third : World} (earlier : first.Grows second)
    (later : second.Grows third) : first.Grows third := by
  refine ⟨?_, ?_, ?_, ?_⟩
  · intro network allocated
    obtain ⟨middle, kept⟩ := earlier.networkKept network allocated
    obtain ⟨last, same⟩ := later.networkKept network middle
    exact ⟨last, same.trans kept⟩
  · intro network allocated new
    by_cases middle : second.networkHeap.Allocated network
    · rw [(later.networkKept network middle).2]
      exact earlier.networkNew network middle new
    · exact later.networkNew network allocated middle
  · intro service allocated
    obtain ⟨middle, kept, owner⟩ := earlier.serviceKept service allocated
    obtain ⟨last, same, sameOwner⟩ := later.serviceKept service middle
    exact ⟨last, same.trans kept, sameOwner.trans owner⟩
  · intro service allocated new
    by_cases middle : second.serviceHeap.Allocated service
    · rw [(later.serviceKept service middle).2.1]
      exact earlier.serviceNew service middle new
    · exact later.serviceNew service allocated middle

/-- A change of neither the connection nor the identities. -/
theorem of_same {before after : World} (connection : after.connection = before.connection)
    (identities : after.identities = before.identities) : before.Grows after := by
  have networkSize : after.networkHeap.size = before.networkHeap.size :=
    congrArg (fun connection : Connection => connection.networks.size) connection
  have serviceSize : after.serviceHeap.size = before.serviceHeap.size :=
    congrArg (fun connection : Connection => connection.services.size) connection
  have flags (network : Ref Network) : (after.network network).flags =
      (before.network network).flags :=
    congrArg (fun connection : Connection => connection.networks.cell network) connection
  have state (service : Ref NetService) : (after.service service).state =
      (before.service service).state :=
    congrArg (fun connection : Connection => connection.services.cell service) connection
  refine ⟨?_, ?_, ?_, ?_⟩
  · intro network allocated
    exact ⟨Nat.lt_of_lt_of_eq allocated networkSize.symm, flags network⟩
  · intro network allocated new
    exact absurd (Nat.lt_of_lt_of_eq allocated networkSize) new
  · intro service allocated
    exact ⟨Nat.lt_of_lt_of_eq allocated serviceSize.symm, state service,
      World.service_network identities service⟩
  · intro service allocated new
    exact absurd (Nat.lt_of_lt_of_eq allocated serviceSize) new

/-- Nor of the heaps they are read from. -/
theorem of_heaps {before after : World} (networks : after.networkHeap = before.networkHeap)
    (services : after.serviceHeap = before.serviceHeap) : before.Grows after := by
  obtain ⟨suppliers, networkHeap, serviceHeap⟩ := after
  obtain rfl : networkHeap = before.networkHeap := networks
  obtain rfl : serviceHeap = before.serviceHeap := services
  obtain ⟨kept, new, serviceKept, serviceNew⟩ := refl before
  exact ⟨kept, new, serviceKept, serviceNew⟩

theorem makeSupplier (world : World) (type : NetworkType) (ident : String) :
    world.Grows (NetSupplier.make world type ident).2 :=
  of_heaps rfl rfl

theorem makeNetwork (world : World) (supplier : Ref NetSupplier) :
    world.Grows (Network.make world supplier).2 := by
  refine ⟨?_, ?_, fun _ allocated => ⟨allocated, rfl, rfl⟩,
    fun _ allocated new => absurd allocated new⟩
  · intro network allocated
    exact ⟨world.networkHeap.allocated_alloc _ allocated,
      congrArg Network.flags (world.networkHeap.cell_alloc_of_allocated _ allocated)⟩
  · intro network allocated new
    obtain rfl := ((world.networkHeap.allocated_alloc_iff _ network).mp allocated).resolve_left new
    exact congrArg Network.flags (world.networkHeap.cell_alloc_fresh _)

theorem makeService (world : World) (ident : String) (networkType : NetworkType)
    (netCapability : NetCapabilities) (network : Ref Network) :
    world.Grows (NetService.make world ident networkType netCapability network).2 := by
  refine ⟨fun _ allocated => ⟨allocated, rfl⟩, fun _ allocated new => absurd allocated new,
    ?_, ?_⟩
  · intro service allocated
    have kept := world.serviceHeap.cell_alloc_of_allocated
      { ident := ident, networkType := networkType, netCapability := netCapability,
        network := network } allocated
    exact ⟨world.serviceHeap.allocated_alloc _ allocated, congrArg NetService.state kept,
      congrArg NetService.network kept⟩
  · intro service allocated new
    obtain rfl := ((world.serviceHeap.allocated_alloc_iff _ service).mp allocated).resolve_left new
    exact congrArg NetService.state (world.serviceHeap.cell_alloc_fresh _)

end World.Grows

/-! ### Operations that keep flags and states -/

theorem Network.connection_updateNetSupplierInfo (world : World) (this : Ref Network)
    (netSupplierInfo : NetSupplierInfo) :
    (updateNetSupplierInfo world this netSupplierInfo).connection = world.connection := by
  unfold updateNetSupplierInfo
  dsimp only
  split
  · rfl
  · rw [World.connection_setNetwork]
    exact Connection.flag_cell _ _

theorem Network.connection_updateNetLinkInfo (world : World) (this : Ref Network)
    (netLinkInfo : NetLinkInfo) :
    (updateNetLinkInfo world this netLinkInfo).connection = world.connection := by
  unfold updateNetLinkInfo
  rw [World.connection_setNetwork]
  exact Connection.flag_cell _ _

theorem NetService.grows_setCallbacks (world : World) (this : Ref NetService)
    (netConnCallback : List INetConnCallback) :
    world.Grows (world.setService this { world.service this with netConnCallback }) := by
  refine .of_same ?_ (World.identities_setService _ _ _ rfl)
  rw [World.connection_setService]
  exact Connection.become_cell _ _

/-! ### Actions -/

/-- Every request lets the world grow. -/
theorem World.Grows.frame : World.CallbackFrame (fun _ => True) World.Grows where
  __ := World.RegistrationFrame.of_setCallbacks .refl .trans NetService.grows_setCallbacks
  makeSupplier := .makeSupplier
  makeNetwork := .makeNetwork
  makeService := .makeService
  destroy := fun _ _ => .of_heaps rfl rfl
  updateNetSupplierInfo := fun _ _ _ =>
    .of_same (Network.connection_updateNetSupplierInfo _ _ _)
      (Network.identities_updateNetSupplierInfo _ _ _)
  updateNetLinkInfo := fun _ _ _ =>
    .of_same (Network.connection_updateNetLinkInfo _ _ _)
      (Network.identities_updateNetLinkInfo _ _ _)

namespace NetConnService

/-- An action that does not reach the connection of the default service only lets the world
grow. -/
theorem grows_quiet (state : NetConnService) (action : Action)
    (quiet : state.operating action = none) : state.world.Grows (state.step action).world :=
  World.Grows.frame.of_quiet state quiet fun _ _ => trivial

/-- What an action does to the default service: a timer reconnects it, a registration connects
it. -/
def Action.attempt : Action → World → Ref NetService → World
  | .reConnectServiceTask => fun world service => (NetService.reConnect world service).2
  | _ => fun world service => (NetService.serviceConnect world service).2

/-- An action that reaches the default service ends with the world the attempt leaves. -/
theorem operating_attempt (state : NetConnService) (action : Action) {moment : NetConnService}
    (reached : state.operating action = some moment) :
    (moment.defaultNetService = none → (state.step action).world = moment.world) ∧
      ∀ service, moment.defaultNetService = some service →
        (state.step action).defaultNetService = some service ∧
          (state.step action).world = action.attempt moment.world service := by
  rcases operating_cases reached with ⟨_, _, _, rfl, _, stepped⟩ | ⟨rfl, rfl, pending⟩
  · rw [stepped]
    refine ⟨fun missing => ?_, fun service selected => ?_⟩
    · unfold connectDefaultService
      rw [missing]
    · unfold connectDefaultService
      rw [selected]
      dsimp only
      split
      · exact ⟨rfl, rfl⟩
      · exact ⟨rfl, rfl⟩
  · refine ⟨fun missing => ?_, fun service selected => ?_⟩
    · simp only [step, perform, if_neg pending, reConnectService, missing]
    · simp only [step, perform, if_neg pending, reConnectService, selected]
      exact ⟨trivial, rfl⟩

end NetConnService

/-- An action that updates no network, when the attempts to connect and the callback requests
respect the frame, too. -/
theorem World.ConstructionFrame.step {Rel : World → World → Prop}
    (frame : World.ConstructionFrame Rel) (state : NetConnService)
    {action : NetConnService.Action}
    (attempts : ∀ world service, Rel world (action.attempt world service))
    (callbacks : action.aboutCallback = true → Rel state.world (state.step action).world)
    (constructs : action.updatesNetwork = false) : Rel state.world (state.step action).world := by
  cases about : action.aboutCallback with
  | true => exact callbacks about
  | false =>
    cases reached : state.operating action with
    | none => exact frame.quiet state reached about constructs
    | some moment =>
      have opened := frame.operating state reached
      obtain ⟨missing, selected⟩ := NetConnService.operating_attempt state action reached
      cases default : moment.defaultNetService with
      | none =>
        rw [missing default]
        exact opened
      | some service =>
        rw [(selected service default).2]
        exact frame.trans opened (attempts moment.world service)

/-- What connecting a service respects, every attempt respects. -/
theorem World.ConnectionFrame.attempt {Rel : World → World → Prop}
    (frame : World.ConnectionFrame Rel) (action : NetConnService.Action) (world : World)
    (service : Ref NetService) : Rel world (action.attempt world service) := by
  cases action with
  | reConnectServiceTask => exact frame.reConnect world service
  | _ => exact frame.serviceConnect world service

namespace NetConnService

/-- The moment an action connects the default service is reached by growth, and the action ends
with the world the attempt leaves. -/
theorem operating_spec (state : NetConnService) (action : Action) {moment : NetConnService}
    (reached : state.operating action = some moment) :
    state.world.Grows moment.world ∧
      (moment.defaultNetService = none → (state.step action).world = moment.world) ∧
        ∀ service, moment.defaultNetService = some service →
          (state.step action).defaultNetService = some service ∧
            ((state.step action).world = (NetService.serviceConnect moment.world service).2 ∨
              (state.step action).world = (NetService.reConnect moment.world service).2) := by
  obtain ⟨missing, selected⟩ := operating_attempt state action reached
  refine ⟨World.Grows.frame.operating state reached, missing, fun service found => ?_⟩
  obtain ⟨same, attempted⟩ := selected service found
  refine ⟨same, ?_⟩
  rw [attempted]
  cases action with
  | reConnectServiceTask => exact Or.inr rfl
  | _ => exact Or.inl rfl

end NetConnService

end NetManager
