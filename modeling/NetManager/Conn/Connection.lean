/-
This file says what the operations of the connection state machine do, in terms of
the two things the machine decides by: the flags of the networks and the states of
the services. Everything else about the world is either fixed (`World.identities`) or
only written.

The sources of trouble are visible here. A network is activated through
`SupplierDisconnection`, so the only request the controller ever gets is a release,
and no operation resets the flags of a network.
-/

import NetManager.Conn.Identity

namespace NetManager

open Library

/-! ### Flags and states -/

/-- The connection flags of a network. -/
structure Flags where
  isConnecting : Bool
  isConnected : Bool
deriving DecidableEq

/-- The flags a network has. -/
def Network.flags (object : Network) : Flags := ⟨object.isConnecting, object.isConnected⟩

/-- The flags of the networks and the states of the services. -/
structure Connection where
  networks : Heap Network Flags
  services : Heap NetService ServiceState

namespace Connection

/-- A service goes to a state. -/
def become (connection : Connection) (service : Ref NetService) (state : ServiceState) :
    Connection :=
  { connection with services := connection.services.set service state }

/-- A network gets flags. -/
def flag (connection : Connection) (network : Ref Network) (flags : Flags) : Connection :=
  { connection with networks := connection.networks.set network flags }

/-- A network is marked as connecting and connected. -/
def activate (connection : Connection) (network : Ref Network) : Connection :=
  connection.flag network ⟨true, true⟩

/-- Going to the state one is in changes nothing. -/
theorem become_cell (connection : Connection) (service : Ref NetService) :
    connection.become service (connection.services.cell service) = connection := by
  unfold become
  rw [Heap.set_cell]

/-- Getting the flags one has changes nothing. -/
theorem flag_cell (connection : Connection) (network : Ref Network) :
    connection.flag network (connection.networks.cell network) = connection := by
  unfold flag
  rw [Heap.set_cell]

@[simp] theorem become_become (connection : Connection) (service : Ref NetService)
    (first second : ServiceState) :
    (connection.become service first).become service second =
      connection.become service second := by
  unfold become
  rw [Heap.set_set]

end Connection

namespace World

/-- The flags and states of a world. -/
def connection (world : World) : Connection where
  networks := world.networkHeap.map Network.flags
  services := world.serviceHeap.map NetService.state

/-- What the controller will answer to the next call. -/
def nextAnswer (world : World) : Int := world.answers world.controllerCalls.length

theorem connection_setNetwork (world : World) (ref : Ref Network) (object : Network) :
    (world.setNetwork ref object).connection = world.connection.flag ref object.flags := by
  unfold connection setNetwork Connection.flag
  rw [Heap.map_set]

theorem connection_setService (world : World) (ref : Ref NetService) (object : NetService) :
    (world.setService ref object).connection = world.connection.become ref object.state := by
  unfold connection setService Connection.become
  rw [Heap.map_set]

/-- The network of a service is an identity. -/
theorem service_network {first second : World} (same : first.identities = second.identities)
    (service : Ref NetService) :
    (first.service service).network = (second.service service).network :=
  congrArg (fun identities : Identities => (identities.services.cell service).network) same

/-- So is its type. -/
theorem service_networkType {first second : World} (same : first.identities = second.identities)
    (service : Ref NetService) :
    (first.service service).networkType = (second.service service).networkType :=
  congrArg (fun identities : Identities => (identities.services.cell service).networkType) same

end World

/-! ### Suppliers and networks -/

namespace NetSupplier

/-- A disconnection asks for a release and succeeds when the answer is `REG_OK`. -/
theorem supplierDisconnection_answer (world : World) (this : Ref NetSupplier)
    (netCapabilities : NetCapabilities) {controller : NetController}
    (controlled : (world.supplier this).netController = some controller) :
    (supplierDisconnection world this netCapabilities).1 = decide (world.nextAnswer = regOk) := by
  unfold supplierDisconnection
  rw [controlled]
  dsimp only
  split
  · rename_i answered
    exact (decide_eq_true answered).symm
  · rename_i refused
    exact (decide_eq_false refused).symm

theorem connection_supplierDisconnection (world : World) (this : Ref NetSupplier)
    (netCapabilities : NetCapabilities) :
    (supplierDisconnection world this netCapabilities).2.connection = world.connection := by
  unfold supplierDisconnection
  split
  · rfl
  · dsimp only
    split
    · rfl
    · rfl

end NetSupplier

namespace Network

/-- A network that is not connected is activated when the answer is `REG_OK`, and left as it is
otherwise. -/
theorem networkConnect_spec (world : World) (this : Ref Network)
    (netCapability : NetCapabilities) {controller : NetController}
    (idle : (world.network this).isConnected = false)
    (controlled : (world.supplier (world.network this).supplier).netController =
      some controller) :
    (networkConnect world this netCapability).1 =
        decide (world.nextAnswer = NetSupplier.regOk) ∧
      (networkConnect world this netCapability).2.connection =
        if world.nextAnswer = NetSupplier.regOk then world.connection.activate this
        else world.connection := by
  have answer := NetSupplier.supplierDisconnection_answer world (world.network this).supplier
    netCapability controlled
  have kept := NetSupplier.connection_supplierDisconnection world (world.network this).supplier
    netCapability
  unfold networkConnect
  rw [if_neg (by rw [idle]; exact Bool.false_ne_true)]
  dsimp only
  by_cases answered : world.nextAnswer = NetSupplier.regOk
  · rw [decide_eq_true answered] at answer
    rw [answer, if_pos rfl, if_pos answered]
    refine ⟨(decide_eq_true answered).symm, ?_⟩
    rw [World.connection_setNetwork, kept]
    rfl
  · rw [decide_eq_false answered] at answer
    rw [answer, if_neg Bool.false_ne_true, if_neg answered]
    exact ⟨(decide_eq_false answered).symm, kept⟩

theorem connection_networkDisconnect (world : World) (this : Ref Network)
    (netCapability : NetCapabilities) :
    (networkDisconnect world this netCapability).2.connection = world.connection := by
  unfold networkDisconnect
  split
  · rfl
  · exact NetSupplier.connection_supplierDisconnection _ _ _

/-- A network with both flags down is not disconnected, and nobody is asked. -/
theorem networkDisconnect_idle (world : World) (this : Ref Network)
    (netCapability : NetCapabilities) (idle : (world.network this).flags = ⟨false, false⟩) :
    networkDisconnect world this netCapability = (false, world) := by
  obtain ⟨connecting, connected⟩ := Flags.mk.inj idle
  unfold networkDisconnect
  rw [connecting, connected]
  rfl

end Network

/-! ### Services -/

namespace NetService

/-- A state a service rests in while it is not connected. -/
def Resting (state : ServiceState) : Prop := state = .idle ∨ state = .failure

instance (state : ServiceState) : Decidable (Resting state) :=
  inferInstanceAs (Decidable (state = .idle ∨ state = .failure))

theorem connection_updateServiceState (world : World) (this : Ref NetService)
    (serviceState : ServiceState) :
    (updateServiceState world this serviceState).connection =
      world.connection.become this (storedState serviceState) :=
  world.connection_setService this
    { world.service this with state := storedState serviceState }

theorem nextAnswer_updateServiceState (world : World) (this : Ref NetService)
    (serviceState : ServiceState) :
    (updateServiceState world this serviceState).nextAnswer = world.nextAnswer := rfl

/-- A ready service answers that it is connected. -/
theorem serviceConnect_ready (world : World) (this : Ref NetService)
    (ready : (world.service this).state = .ready) :
    serviceConnect world this = (.serviceConnected, world) := by
  have connecting : isConnecting world this = false := by
    unfold isConnecting
    rw [ready]
  have connected : isConnected world this = true := by
    unfold isConnected
    rw [ready]
  unfold serviceConnect
  rw [connecting, connected]
  rfl

/-- A resting service of a network with the flag up answers that it is connecting. -/
theorem serviceConnect_connecting (world : World) (this : Ref NetService)
    (resting : Resting (world.service this).state)
    (flag : (world.network (world.service this).network).isConnecting = true) :
    serviceConnect world this = (.serviceConnecting, world) := by
  have connecting : isConnecting world this = true := by
    unfold isConnecting
    rcases resting with idle | failure
    · rw [idle]
      exact flag
    · rw [failure]
      exact flag
  unfold serviceConnect
  rw [connecting]
  rfl

/-- A resting service of a network with the flag down tries to connect if it is cellular. -/
theorem serviceConnect_resting (world : World) (this : Ref NetService)
    (resting : Resting (world.service this).state)
    (flag : (world.network (world.service this).network).isConnecting = false) :
    serviceConnect world this =
      if (world.service this).networkType = .cellular then connectCellular world this
      else (.invalidNetorkType, world) := by
  have connecting : isConnecting world this = false := by
    unfold isConnecting
    rcases resting with idle | failure
    · rw [idle]
      exact flag
    · rw [failure]
      exact flag
  have connected : isConnected world this = false := by
    unfold isConnected
    rcases resting with idle | failure
    · rw [idle]
    · rw [failure]
  unfold serviceConnect
  rw [connecting, connected]
  cases (world.service this).networkType with
  | cellular => rfl
  | unknown => rfl
  | ethernet => rfl
  | max => rfl

theorem connection_networkDisConnect (world : World) (this : Ref NetService) :
    (networkDisConnect world this).2.connection = world.connection :=
  Network.connection_networkDisconnect _ _ _

/-- The attempt to activate the network of a service. -/
theorem networkConnect_spec (world : World) (this : Ref NetService) {controller : NetController}
    (idle : (world.network (world.service this).network).isConnected = false)
    (controlled : (world.supplier
      (world.network (world.service this).network).supplier).netController = some controller) :
    (networkConnect world this).1 =
        (if world.nextAnswer = NetSupplier.regOk then 0 else -1) ∧
      (networkConnect world this).2.connection =
        if world.nextAnswer = NetSupplier.regOk then
          (world.connection.activate (world.service this).network).become this .connecting
        else world.connection.become this .connecting := by
  have same : ((updateServiceState world this .connecting).service this).network =
      (world.service this).network :=
    World.service_network (identities_updateServiceState world this .connecting) this
  have kept := connection_updateServiceState world this .connecting
  have spec := Network.networkConnect_spec (updateServiceState world this .connecting)
    (world.service this).network
    ((updateServiceState world this .connecting).service this).netCapability idle controlled
  rw [nextAnswer_updateServiceState, kept] at spec
  obtain ⟨result, connection⟩ := spec
  unfold networkConnect
  dsimp only
  rw [same, result, connection]
  by_cases answered : world.nextAnswer = NetSupplier.regOk
  · rw [decide_eq_true answered, if_pos rfl, if_pos answered, if_pos answered, if_pos answered]
    exact ⟨rfl, rfl⟩
  · rw [decide_eq_false answered, if_neg Bool.false_ne_true, if_neg answered, if_neg answered,
      if_neg answered]
    exact ⟨rfl, rfl⟩

/-- The attempt to connect a service of an idle network: it makes the service ready and activates
the network when the answer is `REG_OK`, and leaves the service idle otherwise. -/
theorem connectCellular_spec (world : World) (this : Ref NetService)
    {controller : NetController}
    (idle : (world.network (world.service this).network).isConnected = false)
    (controlled : (world.supplier
      (world.network (world.service this).network).supplier).netController = some controller) :
    (world.nextAnswer = NetSupplier.regOk →
        (connectCellular world this).1 = .serviceRequestSuccess ∧
          (connectCellular world this).2.connection =
            (world.connection.activate (world.service this).network).become this .ready) ∧
      (world.nextAnswer ≠ NetSupplier.regOk →
        (connectCellular world this).1 = .serviceRequestConnectFail ∧
          (connectCellular world this).2.connection = world.connection.become this .idle) := by
  have same : ((updateServiceState world this .idle).service this).network =
      (world.service this).network :=
    World.service_network (identities_updateServiceState world this .idle) this
  have spec := networkConnect_spec (updateServiceState world this .idle) this
    (by rw [same]; exact idle) (by rw [same]; exact controlled)
  rw [nextAnswer_updateServiceState, same, connection_updateServiceState] at spec
  obtain ⟨result, connection⟩ := spec
  constructor
  · intro answered
    rw [if_pos answered] at result connection
    unfold connectCellular
    dsimp only
    rw [result, if_neg (lt_irrefl 0), connection_updateServiceState, connection]
    refine ⟨rfl, ?_⟩
    show (((world.connection.become this .idle).activate _).become this .connecting).become
      this .ready = _
    rw [Connection.become_become]
    exact Connection.become_become (world.connection.activate _) this .idle .ready
  · intro refused
    rw [if_neg refused] at result connection
    unfold connectCellular
    dsimp only
    rw [result, if_pos (by decide), connection_updateServiceState, connection_updateServiceState,
      connection_networkDisConnect, connection_updateServiceState, connection]
    refine ⟨rfl, ?_⟩
    rw [Connection.become_become, Connection.become_become, Connection.become_become,
      Connection.become_become]
    rfl

/-- A disconnection of a service that is not disconnecting or disconnected disconnects its
network. -/
theorem serviceDisConnect_settled (world : World) (this : Ref NetService)
    (settled : Resting (world.service this).state ∨ (world.service this).state = .ready) :
    serviceDisConnect world this =
      if (networkDisConnect (updateServiceState world this .disconnecting) this).1 < 0 then
        (.serviceDisconnectedFail, updateServiceState
          (networkDisConnect (updateServiceState world this .disconnecting) this).2 this .failure)
      else
        (.serviceDisconnectedSuccess, updateServiceState (updateServiceState
          (networkDisConnect (updateServiceState world this .disconnecting) this).2
            this .disconnected) this .idle) := by
  unfold serviceDisConnect
  rcases settled with (idle | failure) | ready
  · rw [idle]
  · rw [failure]
  · rw [ready]

/-- It makes the service rest, and keeps the flags of its network. -/
theorem serviceDisConnect_spec (world : World) (this : Ref NetService)
    (settled : Resting (world.service this).state ∨ (world.service this).state = .ready) :
    ∃ rest, Resting rest ∧
      (serviceDisConnect world this).2.connection = world.connection.become this rest := by
  rw [serviceDisConnect_settled world this settled]
  split
  · refine ⟨.failure, Or.inr rfl, ?_⟩
    rw [connection_updateServiceState, connection_networkDisConnect,
      connection_updateServiceState, Connection.become_become]
    rfl
  · refine ⟨.idle, Or.inl rfl, ?_⟩
    rw [connection_updateServiceState, connection_updateServiceState,
      connection_networkDisConnect, connection_updateServiceState, Connection.become_become,
      Connection.become_become]
    rfl

/-- A reconnection of a service whose network has the flag up never gets past the answer that it
is connecting. -/
theorem reConnect_connecting (world : World) (this : Ref NetService)
    (settled : Resting (world.service this).state ∨ (world.service this).state = .ready)
    (flag : (world.network (world.service this).network).isConnecting = true) :
    (reConnect world this).1 = .serviceConnecting ∧
      ∃ rest, Resting rest ∧
        (reConnect world this).2.connection = world.connection.become this rest := by
  obtain ⟨rest, resting, disconnected⟩ := serviceDisConnect_spec world this settled
  have busy : (isConnected world this || isConnecting world this) = true := by
    rcases settled with (idle | failure) | ready
    · unfold isConnecting
      rw [idle, flag, Bool.or_true]
    · unfold isConnecting
      rw [failure, flag, Bool.or_true]
    · unfold isConnected
      rw [ready, Bool.true_or]
  have identities := identities_serviceDisConnect world this
  have network : ((serviceDisConnect world this).2.service this).network =
      (world.service this).network := World.service_network identities this
  have state : ((serviceDisConnect world this).2.service this).state = rest := by
    have cell := congrArg (fun connection : Connection => connection.services.cell this)
      disconnected
    exact cell.trans (Heap.cell_set_self _ _ _)
  have stillUp : ((serviceDisConnect world this).2.network
      (world.service this).network).isConnecting = true := by
    have cell := congrArg (fun connection : Connection =>
      (connection.networks.cell (world.service this).network).isConnecting) disconnected
    exact cell.trans flag
  have answer := serviceConnect_connecting (serviceDisConnect world this).2 this
    (by rw [state]; exact resting) (by rw [network]; exact stillUp)
  unfold reConnect
  rw [if_pos busy, answer]
  exact ⟨rfl, rest, resting, disconnected⟩

/-- A reconnection of a resting service of a network with the flag down is a connection. -/
theorem reConnect_resting (world : World) (this : Ref NetService)
    (resting : Resting (world.service this).state)
    (flag : (world.network (world.service this).network).isConnecting = false) :
    reConnect world this = serviceConnect world this := by
  have calm : (isConnected world this || isConnecting world this) = false := by
    unfold isConnected isConnecting
    rcases resting with idle | failure
    · rw [idle, flag, Bool.or_false]
    · rw [failure, flag, Bool.or_false]
  unfold reConnect
  rw [calm]
  rfl

end NetService

end NetManager
