/-
This file looks at a connection from the side of the cellular controller, which sees
nothing but requests and releases. A disciplined client releases what it requested, once,
and reports a connection only after a request that was answered `REG_OK`.

A network is activated through `SupplierDisconnection`, and nothing calls
`SupplierConnection`. So whatever the services do, the controller gets no request at
all, and the client is disciplined exactly as long as nobody tries to connect.
-/

import NetManager.Conn.Attempt
import NetManager.Conn.NetConnService

namespace NetManager

open Library

/-! ### Disciplined clients -/

/-- The call is answered with `REG_OK`. -/
def ControllerCall.Granted (call : ControllerCall) (request : ControllerRequest) (ident : String)
    (netCapability : NetCapabilities) : Prop :=
  call.request = request ∧ call.ident = ident ∧ call.netCapability = netCapability ∧
    call.errCode = NetSupplier.regOk

/-- A request for the network was granted, and no release was granted since. -/
def Outstanding (calls : List ControllerCall) (ident : String)
    (netCapability : NetCapabilities) : Prop :=
  ∃ earlier call later, calls = earlier ++ call :: later ∧
    call.Granted .requestNetwork ident netCapability ∧
      ∀ next ∈ later, ¬ next.Granted .releaseNetwork ident netCapability

/-- Every release is issued while a request for the same network is outstanding. -/
def ReleasesDisciplined (calls : List ControllerCall) : Prop :=
  ∀ before call after, calls = before ++ call :: after → call.request = .releaseNetwork →
    Outstanding before call.ident call.netCapability

/-- Every call is a release. -/
def ReleasesOnly (calls : List ControllerCall) : Prop :=
  ∀ call ∈ calls, call.request = .releaseNetwork

theorem ReleasesOnly.append {first second : List ControllerCall} (head : ReleasesOnly first)
    (tail : ReleasesOnly second) : ReleasesOnly (first ++ second) :=
  fun call mem => (List.mem_append.mp mem).elim (head call) (tail call)

/-- Who only ever releases is disciplined by never calling. -/
theorem ReleasesOnly.disciplined_iff {calls : List ControllerCall} (only : ReleasesOnly calls) :
    ReleasesDisciplined calls ↔ calls = [] := by
  constructor
  · intro disciplined
    cases calls with
    | nil => rfl
    | cons call rest =>
      obtain ⟨earlier, request, later, split, _⟩ :=
        disciplined [] call rest rfl (only call (List.mem_cons_self ..))
      exact absurd split (by simp)
  · rintro rfl before call after split
    exact absurd split (by simp)

/-! ### The calls of the operations -/

/-- From one world to the next the controller was asked for releases only. -/
def World.ReleasesTo (before after : World) : Prop :=
  ∃ more, after.controllerCalls = before.controllerCalls ++ more ∧ ReleasesOnly more

namespace World.ReleasesTo

variable {before middle after : World}

/-- Nobody asked the controller. -/
theorem of_silent (silent : after.controllerCalls = before.controllerCalls) :
    before.ReleasesTo after := by
  refine ⟨[], ?_, fun call mem => absurd mem (by simp)⟩
  rw [silent, List.append_nil]

theorem trans (first : before.ReleasesTo middle) (second : middle.ReleasesTo after) :
    before.ReleasesTo after := by
  obtain ⟨some, head, someOnly⟩ := first
  obtain ⟨more, tail, moreOnly⟩ := second
  refine ⟨some ++ more, ?_, someOnly.append moreOnly⟩
  rw [tail, head, List.append_assoc]

theorem releasesOnly (releases : before.ReleasesTo after)
    (only : ReleasesOnly before.controllerCalls) : ReleasesOnly after.controllerCalls := by
  obtain ⟨more, calls, moreOnly⟩ := releases
  rw [calls]
  exact only.append moreOnly

/-- Calls are not taken back. -/
theorem ne_nil (releases : before.ReleasesTo after) (called : before.controllerCalls ≠ []) :
    after.controllerCalls ≠ [] := by
  obtain ⟨more, calls, _⟩ := releases
  rw [calls]
  exact List.append_ne_nil_of_left_ne_nil called more

end World.ReleasesTo

namespace NetSupplier

theorem calls_supplierDisconnection (world : World) (this : Ref NetSupplier)
    (netCapabilities : NetCapabilities) {controller : NetController}
    (controlled : (world.supplier this).netController = some controller) :
    (supplierDisconnection world this netCapabilities).2.controllerCalls =
      world.controllerCalls ++ [⟨.releaseNetwork, (world.supplier this).netSupplierIdent,
        netCapabilities, world.nextAnswer⟩] := by
  unfold supplierDisconnection
  rw [controlled]
  dsimp only
  split
  · rfl
  · rfl

theorem releasesTo_supplierDisconnection (world : World) (this : Ref NetSupplier)
    (netCapabilities : NetCapabilities) :
    world.ReleasesTo (supplierDisconnection world this netCapabilities).2 := by
  cases controlled : (world.supplier this).netController with
  | none =>
    refine World.ReleasesTo.of_silent ?_
    unfold supplierDisconnection
    rw [controlled]
  | some controller =>
    refine ⟨_, calls_supplierDisconnection world this netCapabilities controlled, ?_⟩
    simp [ReleasesOnly]

end NetSupplier

namespace Network

/-- Activating a network that is not connected calls the controller. -/
theorem calls_networkConnect (world : World) (this : Ref Network)
    (netCapability : NetCapabilities) {controller : NetController}
    (idle : (world.network this).isConnected = false)
    (controlled : (world.supplier (world.network this).supplier).netController =
      some controller) :
    (networkConnect world this netCapability).2.controllerCalls ≠ [] := by
  have called : (NetSupplier.supplierDisconnection world (world.network this).supplier
      netCapability).2.controllerCalls ≠ [] := by
    rw [NetSupplier.calls_supplierDisconnection world _ netCapability controlled]
    simp
  unfold networkConnect
  rw [idle, if_neg Bool.false_ne_true]
  dsimp only
  split
  · exact called
  · exact called

end Network

namespace NetService

variable (world : World) (this : Ref NetService)

/-- A state update writes nothing but the service. -/
theorem heaps_updateServiceState (serviceState : ServiceState) :
    (updateServiceState world this serviceState).networkHeap = world.networkHeap ∧
      (updateServiceState world this serviceState).supplierHeap = world.supplierHeap ∧
        (updateServiceState world this serviceState).controllerCalls = world.controllerCalls :=
  ⟨rfl, rfl, rfl⟩

theorem heaps_updateServiceState_twice (first second : ServiceState) :
    let after := updateServiceState (updateServiceState world this first) this second
    after.networkHeap = world.networkHeap ∧ after.supplierHeap = world.supplierHeap ∧
      after.controllerCalls = world.controllerCalls := by
  obtain ⟨networks, suppliers, calls⟩ := heaps_updateServiceState world this first
  obtain ⟨networksToo, suppliersToo, callsToo⟩ :=
    heaps_updateServiceState (updateServiceState world this first) this second
  exact ⟨networksToo.trans networks, suppliersToo.trans suppliers, callsToo.trans calls⟩

/-- Connecting a service asks the controller for releases only. -/
theorem releasesTo_frame : World.ConnectionFrame World.ReleasesTo where
  refl _ := .of_silent rfl
  trans := .trans
  supplierDisconnection := NetSupplier.releasesTo_supplierDisconnection
  activate _ _ := .of_silent rfl
  updateServiceState _ _ _ := .of_silent rfl

end NetService

/-! ### Dormant worlds -/

/-- Every service is cellular and rests, nothing is connected and nobody called the controller. -/
structure World.Dormant (world : World) : Prop where
  cellular : ∀ service, world.serviceHeap.Allocated service →
    (world.service service).networkType = .cellular
  resting : ∀ service, world.serviceHeap.Allocated service →
    NetService.Resting (world.service service).state
  network : ∀ service, world.serviceHeap.Allocated service →
    world.networkHeap.Allocated (world.service service).network
  controlled : ∀ network, world.networkHeap.Allocated network →
    (world.supplier (world.network network).supplier).netController = some .telephony
  inactive : world.Inactive
  disconnected : ∀ network, world.networkHeap.Allocated network →
    (world.supplier (world.network network).supplier).connected = false
  silent : world.controllerCalls = []

/-- At every network the flag agrees with that of the supplier. -/
def World.FlagsAgree (world : World) : Prop :=
  ∀ network, world.networkHeap.Allocated network →
    (world.network network).isConnected =
      (world.supplier (world.network network).supplier).connected

namespace World.Dormant

variable {world : World} {service : Ref NetService}

theorem flagsAgree (dormant : world.Dormant) : world.FlagsAgree := by
  intro network allocated
  rw [(Flags.mk.inj (dormant.inactive network allocated)).2, dormant.disconnected network allocated]

/-- What only writes services leaves the rest of a dormant world as it is. -/
theorem of_services {after : World} (dormant : world.Dormant)
    (networkHeap : after.networkHeap = world.networkHeap)
    (supplierHeap : after.supplierHeap = world.supplierHeap)
    (controllerCalls : after.controllerCalls = world.controllerCalls)
    (services : ∀ service, after.serviceHeap.Allocated service →
      (after.service service).networkType = .cellular ∧
        NetService.Resting (after.service service).state ∧
          world.networkHeap.Allocated (after.service service).network) : after.Dormant := by
  refine ⟨fun service allocated => (services service allocated).1,
    fun service allocated => (services service allocated).2.1,
    fun service allocated => ?_, ?_, ?_, ?_, controllerCalls.trans dormant.silent⟩
  · rw [networkHeap]
    exact (services service allocated).2.2
  · unfold World.supplier World.network
    rw [networkHeap, supplierHeap]
    exact dormant.controlled
  · unfold World.Inactive World.network
    rw [networkHeap]
    exact dormant.inactive
  · unfold World.supplier World.network
    rw [networkHeap, supplierHeap]
    exact dormant.disconnected

/-- A disconnection fails without asking the controller and leaves the world dormant. -/
theorem serviceDisConnect (dormant : world.Dormant)
    (allocated : world.serviceHeap.Allocated service) :
    (NetService.serviceDisConnect world service).1 = .serviceDisconnectedFail ∧
      (NetService.serviceDisConnect world service).2.Dormant := by
  have disconnecting :=
    NetService.identities_updateServiceState world service .disconnecting
  have idle : NetService.networkDisConnect
      (NetService.updateServiceState world service .disconnecting) service =
        (-1, NetService.updateServiceState world service .disconnecting) := by
    have network := dormant.inactive _ (dormant.network service allocated)
    unfold NetService.networkDisConnect
    dsimp only
    rw [Network.networkDisconnect_idle _ _ _
      (by rw [World.service_network disconnecting service]; exact network)]
    rfl
  have connection : (NetService.updateServiceState
      (NetService.updateServiceState world service .disconnecting) service .failure).connection =
        world.connection.become service .failure := by
    rw [NetService.connection_updateServiceState, NetService.connection_updateServiceState,
      Connection.become_become]
    rfl
  have identities : (NetService.updateServiceState
      (NetService.updateServiceState world service .disconnecting) service .failure).identities =
        world.identities := by
    rw [NetService.identities_updateServiceState, disconnecting]
  obtain ⟨_, own, others⟩ := reads_become connection
  rw [NetService.serviceDisConnect_settled world service
    (Or.inl (dormant.resting service allocated)), idle, if_pos (show (-1 : Int) < 0 by decide)]
  obtain ⟨networks, suppliers, calls⟩ :=
    NetService.heaps_updateServiceState_twice world service .disconnecting .failure
  refine ⟨rfl, dormant.of_services networks suppliers calls fun other otherAllocated => ?_⟩
  have allocatedBefore := (allocated_of_identities identities).2 other otherAllocated
  refine ⟨?_, ?_, ?_⟩
  · rw [World.service_networkType identities other]
    exact dormant.cellular other allocatedBefore
  · by_cases this : other = service
    · rw [this, own]
      exact Or.inr rfl
    · rw [others other this]
      exact dormant.resting other allocatedBefore
  · rw [World.service_network identities other]
    exact dormant.network other allocatedBefore

/-- A connection is attempted. -/
theorem serviceConnect_eq (dormant : world.Dormant)
    (allocated : world.serviceHeap.Allocated service) :
    NetService.serviceConnect world service = NetService.connectCellular world service := by
  have flags := Flags.mk.inj (dormant.inactive _ (dormant.network service allocated))
  rw [NetService.serviceConnect_resting world service (dormant.resting service allocated) flags.1,
    if_pos (dormant.cellular service allocated)]

/-- So is a reconnection. -/
theorem reConnect_eq (dormant : world.Dormant)
    (allocated : world.serviceHeap.Allocated service) :
    NetService.reConnect world service = NetService.serviceConnect world service := by
  have flags := Flags.mk.inj (dormant.inactive _ (dormant.network service allocated))
  exact NetService.reConnect_resting world service (dormant.resting service allocated) flags.1

/-- An attempt to connect calls the controller. -/
theorem connectCellular_calls (dormant : world.Dormant)
    (allocated : world.serviceHeap.Allocated service) :
    (NetService.connectCellular world service).2.controllerCalls ≠ [] := by
  refine (NetService.releasesTo_frame.afterConnectNetwork world service).ne_nil ?_
  have identities : (NetService.updateServiceState (NetService.updateServiceState world service
      .idle) service .connecting).identities = world.identities := by
    rw [NetService.identities_updateServiceState, NetService.identities_updateServiceState]
  have network := World.service_network identities service
  have owner := dormant.network service allocated
  obtain ⟨networks, suppliers, _⟩ :=
    NetService.heaps_updateServiceState_twice world service .idle .connecting
  unfold NetService.networkConnect
  dsimp only
  rw [network]
  refine Network.calls_networkConnect _ _ _ ?_ (?_ : _ = some .telephony)
  · unfold World.network
    rw [networks]
    exact (Flags.mk.inj (dormant.inactive _ owner)).2
  · unfold World.supplier World.network
    rw [networks, suppliers]
    exact dormant.controlled _ owner

end World.Dormant

/-! ### Runs of operations -/

/-- What can be done to a service from outside. -/
inductive ServiceOp
  | connect (service : Ref NetService)
  | disconnect (service : Ref NetService)
  | reconnect (service : Ref NetService)

namespace ServiceOp

/-- The service an operation is about. -/
def service : ServiceOp → Ref NetService
  | connect service => service
  | disconnect service => service
  | reconnect service => service

/-- What an operation returns and leaves. -/
def perform (world : World) : ServiceOp → ResultCode × World
  | connect service => NetService.serviceConnect world service
  | disconnect service => NetService.serviceDisConnect world service
  | reconnect service => NetService.reConnect world service

/-- One step of a run of operations. -/
def step (world : World) (op : ServiceOp) : World := (op.perform world).2

/-- The releases so far were disciplined, and the flags agree. -/
def Disciplined (world : World) : Prop :=
  ReleasesDisciplined world.controllerCalls ∧ world.FlagsAgree

/-- If the operation reports a connection, a request for the network was granted. -/
def SuccessRequested (world : World) (op : ServiceOp) : Prop :=
  (op.perform world).1 = .serviceRequestSuccess →
    ∃ call ∈ (step world op).controllerCalls, call.Granted .requestNetwork
      (world.supplier
        (world.network (world.service op.service).network).supplier).netSupplierIdent
      (world.service op.service).netCapability

theorem releasesTo_step (world : World) (op : ServiceOp) : world.ReleasesTo (step world op) := by
  cases op with
  | connect service => exact NetService.releasesTo_frame.serviceConnect world service
  | disconnect service => exact NetService.releasesTo_frame.serviceDisConnect world service
  | reconnect service => exact NetService.releasesTo_frame.reConnect world service

theorem identities_step (world : World) (op : ServiceOp) :
    (step world op).identities = world.identities := by
  cases op with
  | connect service => exact NetService.identities_serviceConnect world service
  | disconnect service => exact NetService.identities_serviceDisConnect world service
  | reconnect service => exact NetService.identities_reConnect world service

/-- No run ever requests a network. -/
theorem run_releasesOnly {world : World} (only : ReleasesOnly world.controllerCalls)
    (ops : List ServiceOp) : ReleasesOnly (run step world ops).controllerCalls :=
  run_invariant step (fun world => ReleasesOnly world.controllerCalls)
    (fun world op only => (releasesTo_step world op).releasesOnly only) only ops

variable {world : World}

theorem disciplined_of_dormant (dormant : world.Dormant) : Disciplined world := by
  have only : ReleasesOnly world.controllerCalls := by
    rw [dormant.silent]
    exact fun call mem => absurd mem (by simp)
  exact ⟨only.disciplined_iff.mpr dormant.silent, dormant.flagsAgree⟩

/-- The first attempt to connect is not disciplined. -/
theorem attempt_undisciplined (dormant : world.Dormant) (op : ServiceOp)
    (allocated : world.serviceHeap.Allocated op.service)
    (attempt : ∀ service, op ≠ .disconnect service) : ¬ Disciplined (step world op) := by
  have called : (step world op).controllerCalls ≠ [] := by
    have connected := dormant.connectCellular_calls allocated
    rw [← dormant.serviceConnect_eq allocated] at connected
    cases op with
    | connect service => exact connected
    | disconnect service => exact absurd rfl (attempt service)
    | reconnect service =>
      rw [← dormant.reConnect_eq allocated] at connected
      exact connected
  have only : ReleasesOnly world.controllerCalls := by
    rw [dormant.silent]
    exact fun call mem => absurd mem (by simp)
  intro disciplined
  exact called (((releasesTo_step world op).releasesOnly only).disciplined_iff.mp disciplined.1)

/-- From a dormant world, releases stay disciplined, the flags agree and every reported connection
was requested, at every moment of a run, exactly when the run contains nothing but
disconnections. -/
theorem disciplined_run (dormant : world.Dormant) (ops : List ServiceOp)
    (named : ∀ op ∈ ops, world.serviceHeap.Allocated op.service) :
    (Always step Disciplined world ops ∧ Guarded step SuccessRequested world ops) ↔
      ∀ op ∈ ops, ∃ service, op = .disconnect service := by
  induction ops generalizing world with
  | nil =>
    rw [always_nil]
    exact ⟨fun _ op mem => absurd mem (by simp),
      fun _ => ⟨disciplined_of_dormant dormant, guarded_nil step SuccessRequested world⟩⟩
  | cons op rest inductionHypothesis =>
    have allocated := named op (List.mem_cons_self ..)
    rw [always_cons, guarded_cons]
    by_cases attempt : ∀ service, op ≠ .disconnect service
    · have undisciplined := attempt_undisciplined dormant op allocated attempt
      constructor
      · rintro ⟨⟨_, always⟩, _⟩
        exact absurd (always [] rest rfl) undisciplined
      · intro disconnects
        obtain ⟨service, this⟩ := disconnects op (List.mem_cons_self ..)
        exact absurd this (attempt service)
    · obtain ⟨service, this⟩ := not_forall_not.mp attempt
      subst this
      obtain ⟨failed, next⟩ := dormant.serviceDisConnect allocated
      have tail := inductionHypothesis next fun op mem =>
        (World.allocated_of_identities (identities_step world (.disconnect service)).symm).2 _
          (named op (List.mem_cons_of_mem _ mem))
      constructor
      · rintro ⟨⟨_, always⟩, _, guarded⟩ op mem
        rcases List.mem_cons.mp mem with rfl | mem
        · exact ⟨service, rfl⟩
        · exact tail.mp ⟨always, guarded⟩ op mem
      · intro disconnects
        obtain ⟨always, guarded⟩ := tail.mpr fun op mem =>
          disconnects op (List.mem_cons_of_mem _ mem)
        refine ⟨⟨disciplined_of_dormant dormant, always⟩, fun success => ?_, guarded⟩
        have clash : ResultCode.serviceDisconnectedFail = .serviceRequestSuccess :=
          failed.symm.trans success
        exact absurd clash (by decide)

/-- A cellular supplier with two services of one network, before anything is connected. -/
def slotWorld : World :=
  ((NetConnService.start fun _ => NetSupplier.regOk).createSupplier .cellular "slot0" 3).world

theorem slotWorld_dormant : slotWorld.Dormant :=
  ⟨by decide, by decide, by decide, by decide, by unfold World.Inactive; decide, by decide,
    by decide⟩

/-- Disconnecting both services. -/
theorem disciplined_example :
    Always step Disciplined slotWorld [.disconnect ⟨0⟩, .disconnect ⟨1⟩] ∧
      Guarded step SuccessRequested slotWorld [.disconnect ⟨0⟩, .disconnect ⟨1⟩] :=
  (disciplined_run slotWorld_dormant _ (by decide)).mpr (by simp)

/-- The first connection of a service reports success after a release that nobody requested, and
leaves a network that says it is connected on a supplier that says it is not. -/
theorem connect_releases :
    slotWorld.Dormant ∧
      (perform slotWorld (.connect ⟨0⟩)).1 = .serviceRequestSuccess ∧
      (step slotWorld (.connect ⟨0⟩)).controllerCalls =
        [⟨.releaseNetwork, "slot0", .internet, 1⟩] ∧
      ¬ ReleasesDisciplined (step slotWorld (.connect ⟨0⟩)).controllerCalls ∧
      ¬ (step slotWorld (.connect ⟨0⟩)).FlagsAgree ∧
      ¬ SuccessRequested slotWorld (.connect ⟨0⟩) := by
  have calls : (step slotWorld (.connect ⟨0⟩)).controllerCalls =
      [⟨.releaseNetwork, "slot0", .internet, 1⟩] := by decide
  have only : ReleasesOnly (step slotWorld (.connect ⟨0⟩)).controllerCalls := by
    rw [calls]
    simp [ReleasesOnly]
  refine ⟨slotWorld_dormant, by decide, calls, ?_, ?_, ?_⟩
  · rw [only.disciplined_iff, calls]
    exact List.cons_ne_nil _ _
  · intro agree
    exact absurd (agree ⟨0⟩ (by decide)) (by decide)
  · intro requested
    obtain ⟨call, mem, granted⟩ := requested (by decide)
    exact absurd ((only call mem).symm.trans granted.1) (by decide)

end ServiceOp

end NetManager
