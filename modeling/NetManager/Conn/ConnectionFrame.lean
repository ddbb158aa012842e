/-
This file says once what connecting and disconnecting a service is made of. A relation between
worlds that is reflexive and transitive, and that the calls to a controller, the flags of a network
and the updates of a service state respect, relates the world before a connection to the world
after it.
-/

import NetManager.Conn.NetService

namespace NetManager

open Library

/-- A relation that the calls to a controller and the flags of an activated network respect. -/
structure World.ActivationFrame (Rel : World → World → Prop) : Prop where
  refl : ∀ world, Rel world world
  trans : ∀ {first second third}, Rel first second → Rel second third → Rel first third
  supplierDisconnection : ∀ world this netCapabilities,
    Rel world (NetSupplier.supplierDisconnection world this netCapabilities).2
  activate : ∀ world this, Rel world (world.setNetwork this
    { world.network this with isConnecting := true, isConnected := true })

/-- A relation that updates of a service state respect, too. -/
structure World.ConnectionFrame (Rel : World → World → Prop) : Prop
    extends World.ActivationFrame Rel where
  updateServiceState : ∀ world this serviceState,
    Rel world (NetService.updateServiceState world this serviceState)

/-! ### Networks -/

namespace World.ActivationFrame

variable {Rel : World → World → Prop} (frame : World.ActivationFrame Rel)
variable (world : World) (this : Ref Network) (netCapability : NetCapabilities)

include frame

theorem networkConnect : Rel world (Network.networkConnect world this netCapability).2 := by
  have asked := frame.supplierDisconnection world (world.network this).supplier netCapability
  unfold Network.networkConnect
  split
  · exact frame.refl world
  · dsimp only
    split
    · exact frame.trans asked (frame.activate _ this)
    · exact asked

theorem networkDisconnect : Rel world (Network.networkDisconnect world this netCapability).2 := by
  unfold Network.networkDisconnect
  split
  · exact frame.refl world
  · exact frame.supplierDisconnection _ _ _

end World.ActivationFrame

/-! ### Services -/

namespace World.ConnectionFrame

variable {Rel : World → World → Prop} (frame : World.ConnectionFrame Rel)
variable (world : World) (this : Ref NetService)

include frame

theorem connectNetwork : Rel world (NetService.networkConnect world this).2 :=
  frame.trans (frame.updateServiceState world this .connecting) (frame.networkConnect _ _ _)

theorem disconnectNetwork : Rel world (NetService.networkDisConnect world this).2 :=
  frame.networkDisconnect _ _ _

/-- What an attempt does after the network was asked to connect. -/
theorem afterConnectNetwork :
    Rel (NetService.networkConnect (NetService.updateServiceState world this .idle) this).2
      (NetService.connectCellular world this).2 := by
  unfold NetService.connectCellular
  dsimp only
  split
  · refine frame.trans (frame.updateServiceState _ this .failure) ?_
    refine frame.trans (frame.disconnectNetwork _ this) ?_
    exact frame.trans (frame.updateServiceState _ this .disconnected)
      (frame.updateServiceState _ this .idle)
  · exact frame.updateServiceState _ this .ready

theorem connectCellular : Rel world (NetService.connectCellular world this).2 := by
  refine frame.trans (frame.updateServiceState world this .idle) ?_
  exact frame.trans (frame.connectNetwork _ this) (frame.afterConnectNetwork world this)

theorem serviceConnect : Rel world (NetService.serviceConnect world this).2 := by
  unfold NetService.serviceConnect
  split
  · exact frame.refl world
  split
  · exact frame.refl world
  cases (world.service this).networkType with
  | cellular => exact frame.connectCellular world this
  | unknown => exact frame.refl world
  | ethernet => exact frame.refl world
  | max => exact frame.refl world

theorem serviceDisConnect : Rel world (NetService.serviceDisConnect world this).2 := by
  have released : Rel world (NetService.networkDisConnect
      (NetService.updateServiceState world this .disconnecting) this).2 :=
    frame.trans (frame.updateServiceState world this .disconnecting)
      (frame.disconnectNetwork _ this)
  unfold NetService.serviceDisConnect
  split
  · exact frame.refl world
  · exact frame.refl world
  · dsimp only
    split
    · exact frame.trans released (frame.updateServiceState _ this .failure)
    · exact frame.trans released (frame.trans (frame.updateServiceState _ this .disconnected)
        (frame.updateServiceState _ this .idle))

theorem reConnect : Rel world (NetService.reConnect world this).2 := by
  unfold NetService.reConnect
  split
  · exact frame.trans (frame.serviceDisConnect world this) (frame.serviceConnect _ this)
  · exact frame.serviceConnect world this

end World.ConnectionFrame

end NetManager
