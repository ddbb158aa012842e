/-
This file settles when a cellular service can be connected. Nothing ever takes the flags
of a network down: a successful connect raises them, and after the disconnection that
precedes every reconnection the service rests on a network that still says it is
connecting.

So a service can be connected exactly when the flag of its network is down, and a
reconnection succeeds exactly under the same condition. Over a run, everything stays
connectable exactly as long as no attempt to connect was ever answered with `REG_OK`.
-/

import NetManager.Conn.Attempt

namespace NetManager

open Library

namespace NetConnService

/-! ### Connectable services -/

/-- The world in which the controller gives one answer from now on. -/
def answering (world : World) (errCode : Int) : World := { world with answers := fun _ => errCode }

/-- When the controller answers `REG_OK`, connecting the service succeeds and leaves it ready. -/
def Connectable (world : World) (service : Ref NetService) : Prop :=
  (NetService.serviceConnect (answering world NetSupplier.regOk) service).1 =
      .serviceRequestSuccess ∧
    ((NetService.serviceConnect (answering world NetSupplier.regOk) service).2.service
      service).state = .ready

/-- When the controller answers `REG_OK`, `ReConnectService` succeeds and leaves the service
ready. -/
def Reconnectable (state : NetConnService) (service : Ref NetService) : Prop :=
  { state with world := answering state.world NetSupplier.regOk }.reConnectService.1 =
      .serviceRequestSuccess ∧
    ({ state with
      world := answering state.world NetSupplier.regOk }.reConnectService.2.world.service
        service).state = .ready

theorem answering_steady {world : World} (steady : world.Steady) (errCode : Int) :
    (answering world errCode).Steady :=
  ⟨steady.paired, steady.settled, steady.active⟩

variable {world : World} {service : Ref NetService}

theorem connects_ready (steady : world.Steady) (wellFormed : world.identities.WellFormed)
    (allocated : world.serviceHeap.Allocated service)
    (cellular : (world.service service).networkType = .cellular)
    (flag : (world.network (world.service service).network).isConnecting = false) :
    Connectable world service := by
  obtain ⟨success, same⟩ := World.Steady.connects
    (answering_steady steady NetSupplier.regOk) wellFormed allocated flag cellular rfl
  exact ⟨success, (World.reads_activate same).2.2.1⟩

/-- A cellular service that is not connected can be connected exactly when the flag of its network
is down. -/
theorem connectable_iff (steady : world.Steady) (wellFormed : world.identities.WellFormed)
    (allocated : world.serviceHeap.Allocated service)
    (cellular : (world.service service).networkType = .cellular)
    (notReady : (world.service service).state ≠ .ready) :
    Connectable world service ↔
      (world.network (world.service service).network).isConnecting = false := by
  constructor
  · rintro ⟨success, _⟩
    refine Bool.eq_false_iff.mpr fun flag => ?_
    have resting := (steady.settled service allocated).resolve_right notReady
    rw [NetService.serviceConnect_connecting (answering world NetSupplier.regOk) service resting
      flag] at success
    have clash : ResultCode.serviceConnecting = .serviceRequestSuccess := success
    exact absurd clash (by decide)
  · exact connects_ready steady wellFormed allocated cellular

/-- `ReConnectService` acts on the default service. -/
theorem reConnectService_default (state : NetConnService) {service : Ref NetService}
    (default : state.defaultNetService = some service) :
    state.reConnectService =
      ((NetService.reConnect state.world service).1,
        { state with world := (NetService.reConnect state.world service).2 }) := by
  unfold reConnectService
  rw [default]

/-- A cellular default service can be reconnected exactly when the flag of its network is down,
whatever its state is. -/
theorem reconnectable_iff {state : NetConnService} (steady : state.world.Steady)
    (wellFormed : state.world.identities.WellFormed)
    (allocated : state.world.serviceHeap.Allocated service)
    (cellular : (state.world.service service).networkType = .cellular)
    (default : state.defaultNetService = some service) :
    Reconnectable state service ↔
      (state.world.network (state.world.service service).network).isConnecting = false := by
  unfold Reconnectable
  rw [reConnectService_default
    { state with world := answering state.world NetSupplier.regOk } default]
  constructor
  · rintro ⟨success, _⟩
    refine Bool.eq_false_iff.mpr fun flag => ?_
    have answer := (NetService.reConnect_connecting (answering state.world NetSupplier.regOk)
      service (steady.settled service allocated) flag).1
    have clash : ResultCode.serviceConnecting = .serviceRequestSuccess := answer.symm.trans success
    exact absurd clash (by decide)
  · intro flag
    have same : NetService.reConnect (answering state.world NetSupplier.regOk) service =
        NetService.serviceConnect (answering state.world NetSupplier.regOk) service :=
      NetService.reConnect_resting _ service (steady.resting allocated flag) flag
    rw [same]
    exact connects_ready steady wellFormed allocated cellular flag

/-! ### Runs -/

/-- The registry is well formed and the world is steady. -/
structure Consistent (state : NetConnService) : Prop where
  registry : state.registry.WellFormed
  steady : state.world.Steady

/-- The service is listed or the default one. -/
def Holds (state : NetConnService) (service : Ref NetService) : Prop :=
  service ∈ state.netServices ∨ state.defaultNetService = some service

theorem Consistent.allocated {state : NetConnService} (consistent : state.Consistent)
    {service : Ref NetService} (holds : state.Holds service) :
    state.world.serviceHeap.Allocated service := by
  rcases holds with listed | selected
  · exact consistent.registry.services service listed
  · exact (consistent.registry.default service selected).1

/-- The moment an action connects the default service is consistent. -/
theorem Consistent.moment {state moment : NetConnService} (consistent : state.Consistent)
    {action : Action} (reached : state.operating action = some moment) : moment.Consistent := by
  refine ⟨?_, consistent.steady.of_grows consistent.registry.identities
    (operating_spec state action reached).1⟩
  rcases operating_registry state action moment reached with start | finish
  · rw [start]
    exact consistent.registry
  · rw [finish]
    exact step_wellFormed state action consistent.registry

theorem step_consistent (state : NetConnService) (action : Action)
    (consistent : state.Consistent) : (state.step action).Consistent := by
  refine ⟨step_wellFormed state action consistent.registry, ?_⟩
  cases reached : state.operating action with
  | none =>
    exact consistent.steady.of_grows consistent.registry.identities
      (grows_quiet state action reached)
  | some moment =>
    obtain ⟨_, unselected, selected⟩ := operating_spec state action reached
    have ready := consistent.moment reached
    cases default : moment.defaultNetService with
    | none =>
      rw [unselected default]
      exact ready.steady
    | some service =>
      exact World.Attempted.steady (selected service default).2 ready.steady
        ready.registry.identities (ready.allocated (Or.inr default))

theorem start_consistent (answers : Nat → Int) : (start answers).Consistent :=
  ⟨start_wellFormed answers,
    ⟨fun _ allocated => absurd allocated (Nat.not_lt_zero _),
      fun _ allocated => absurd allocated (Nat.not_lt_zero _),
      fun _ allocated => absurd allocated (Nat.not_lt_zero _)⟩⟩

theorem start_inactive (answers : Nat → Int) : (start answers).world.Inactive :=
  fun _ allocated => absurd allocated (Nat.not_lt_zero _)

theorem run_consistent (answers : Nat → Int) (actions : List Action) :
    (run step (start answers) actions).Consistent :=
  run_invariant step Consistent step_consistent (start_consistent answers) actions

/-- Every cellular service that is not connected can be connected, and the default service, when
it is cellular, can be reconnected. -/
def Healthy (state : NetConnService) : Prop :=
  ∀ service, state.Holds service → (state.world.service service).networkType = .cellular →
    ((state.world.service service).state ≠ .ready →
        (state.world.service service).state ≠ .connected → Connectable state.world service) ∧
      (state.defaultNetService = some service → Reconnectable state service)

/-- If the action attempts to connect a cellular default service, the controller does not answer
`REG_OK`. -/
def AttemptRefused (state : NetConnService) (action : Action) : Prop :=
  ∀ moment service, state.operating action = some moment →
    moment.defaultNetService = some service →
      (moment.world.service service).networkType = .cellular →
        moment.world.answers moment.world.controllerCalls.length ≠ NetSupplier.regOk

theorem healthy_of_inactive {state : NetConnService} (consistent : state.Consistent)
    (inactive : state.world.Inactive) : state.Healthy := by
  intro service holds cellular
  have allocated := consistent.allocated holds
  have network := (consistent.registry.identities.service service allocated).network
  have flag := (Flags.mk.inj (inactive _ network)).1
  refine ⟨fun notReady _ => ?_, fun default => ?_⟩
  · exact (connectable_iff consistent.steady consistent.registry.identities allocated cellular
      notReady).mpr flag
  · exact (reconnectable_iff consistent.steady consistent.registry.identities allocated cellular
      default).mpr flag

/-- A refused action keeps all flags down. -/
theorem inactive_step (state : NetConnService) (action : Action) (consistent : state.Consistent)
    (inactive : state.world.Inactive) (refused : state.AttemptRefused action) :
    (state.step action).world.Inactive := by
  cases reached : state.operating action with
  | none => exact inactive.of_grows (grows_quiet state action reached)
  | some moment =>
    obtain ⟨grows, unselected, selected⟩ := operating_spec state action reached
    have ready := consistent.moment reached
    have calm := inactive.of_grows grows
    cases default : moment.defaultNetService with
    | none =>
      rw [unselected default]
      exact calm
    | some service =>
      exact World.Attempted.inactive (selected service default).2 ready.steady
        ready.registry.identities (ready.allocated (Or.inr default)) calm
        (refused moment service reached default)

/-- An attempt that is answered with `REG_OK` leaves a default service that cannot be
reconnected. -/
theorem refused_of_healthy (state : NetConnService) (action : Action)
    (consistent : state.Consistent) (inactive : state.world.Inactive)
    (healthy : (state.step action).Healthy) : state.AttemptRefused action := by
  intro moment service reached default cellular answered
  obtain ⟨grows, _, selected⟩ := operating_spec state action reached
  obtain ⟨stillDefault, attempted⟩ := selected service default
  have attempt : moment.world.Attempted (state.step action).world service := attempted
  have ready := consistent.moment reached
  have allocated := ready.allocated (Or.inr default)
  have network := (ready.registry.identities.service service allocated).network
  have flag := (Flags.mk.inj ((inactive.of_grows grows) _ network)).1
  obtain ⟨_, same⟩ := ready.steady.connects ready.registry.identities allocated flag cellular
    answered
  rw [← attempt.eq_serviceConnect ready.steady allocated flag] at same
  have after := step_consistent state action consistent
  have type := (World.service_networkType attempt.identities service).trans cellular
  have reconnectable := (healthy service (Or.inr stillDefault) type).2 stillDefault
  have down := (reconnectable_iff after.steady after.registry.identities
    (after.allocated (Or.inr stillDefault)) type stillDefault).mp reconnectable
  rw [World.service_network attempt.identities service,
    (Flags.mk.inj (World.reads_activate same).1).1] at down
  exact absurd down (by decide)

/-- In every state of every run a cellular service that is not connected can be connected exactly
when the flag of its network is down, and a cellular default service can be reconnected exactly
under the same condition. Both hold in every state of a run exactly when no attempt of the run to
connect a cellular default service is answered with `REG_OK`. -/
theorem healthy_run (answers : Nat → Int) (actions : List Action) :
    (∀ service, (run step (start answers) actions).Holds service →
      ((run step (start answers) actions).world.service service).networkType = .cellular →
        (((run step (start answers) actions).world.service service).state ≠ .ready →
            ((run step (start answers) actions).world.service service).state ≠ .connected →
              (Connectable (run step (start answers) actions).world service ↔
                ((run step (start answers) actions).world.network
                  ((run step (start answers) actions).world.service
                    service).network).isConnecting = false)) ∧
          ((run step (start answers) actions).defaultNetService = some service →
            (Reconnectable (run step (start answers) actions) service ↔
              ((run step (start answers) actions).world.network
                ((run step (start answers) actions).world.service
                  service).network).isConnecting = false))) ∧
      (Always step Healthy (start answers) actions ↔
        Guarded step AttemptRefused (start answers) actions) := by
  refine ⟨?_, ?_, ?_⟩
  · intro service holds cellular
    have consistent := run_consistent answers actions
    have allocated := consistent.allocated holds
    exact ⟨fun notReady _ => connectable_iff consistent.steady consistent.registry.identities
        allocated cellular notReady,
      reconnectable_iff consistent.steady consistent.registry.identities allocated cellular⟩
  · refine guarded_of_always step (fun state => state.Consistent ∧ state.world.Inactive)
      (fun state action invariant refused => ?_)
      (fun state action invariant => refused_of_healthy state action invariant.1 invariant.2)
      ⟨start_consistent answers, start_inactive answers⟩
    exact ⟨step_consistent state action invariant.1,
      inactive_step state action invariant.1 invariant.2 refused⟩
  · intro guarded before after split
    have inactive : Always step (fun state => state.world.Inactive) (start answers) actions :=
      always_of_guarded step step_consistent inactive_step (start_consistent answers)
        (start_inactive answers) guarded
    exact healthy_of_inactive (run_consistent answers before) (inactive before after split)

/-- A cellular supplier whose service is connected: `ReConnectService` takes it down and answers
that it is connecting, although the controller answers `REG_OK` to every call. -/
theorem reconnect_takes_down :
    (run step (start fun _ => 1) [.registerNetSupplier 1 "slot0" 1]).defaultNetService =
        some ⟨0⟩ ∧
      ((run step (start fun _ => 1) [.registerNetSupplier 1 "slot0" 1]).world.service ⟨0⟩).state =
        .ready ∧
      (run step (start fun _ => 1) [.registerNetSupplier 1 "slot0" 1]).reConnectService.1 =
        .serviceConnecting ∧
      ((run step (start fun _ => 1)
        [.registerNetSupplier 1 "slot0" 1]).reConnectService.2.world.service ⟨0⟩).state = .idle ∧
      ¬ (run step (start fun _ => 1) [.registerNetSupplier 1 "slot0" 1]).Healthy := by
  refine ⟨by decide, by decide, by decide, by decide, fun healthy => ?_⟩
  have reconnectable := (healthy ⟨0⟩ (Or.inr (by decide)) (by decide)).2 (by decide)
  exact absurd reconnectable.1 (by decide)

end NetConnService

end NetManager
