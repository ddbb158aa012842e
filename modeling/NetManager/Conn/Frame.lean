/-
This file says once what the requests are made of. A relation between worlds that is reflexive
and transitive, and that every construction, destruction and update respects, relates the world
before a request to the world after it; it only remains to say what the connection of a service
does. The callback requests are made of registrations and unregistrations in turn.
-/

import NetManager.Conn.DefaultService

namespace NetManager

open Library

/-! ### Frames -/

/-- A relation that the constructions and the destruction of objects respect. -/
structure World.ConstructionFrame (Rel : World → World → Prop) : Prop where
  refl : ∀ world, Rel world world
  trans : ∀ {first second third}, Rel first second → Rel second third → Rel first third
  makeSupplier : ∀ world type ident, Rel world (NetSupplier.make world type ident).2
  makeNetwork : ∀ world supplier, Rel world (Network.make world supplier).2
  makeService : ∀ world ident type netCapability network,
    Rel world (NetService.make world ident type netCapability network).2
  destroy : ∀ world network, Rel world (Network.destroy world network)

/-- A relation that updates of objects respect, too. -/
structure World.Frame (Rel : World → World → Prop) : Prop
    extends World.ConstructionFrame Rel where
  updateNetSupplierInfo : ∀ world network netSupplierInfo,
    Rel world (Network.updateNetSupplierInfo world network netSupplierInfo)
  updateNetLinkInfo : ∀ world network netLinkInfo,
    Rel world (Network.updateNetLinkInfo world network netLinkInfo)

/-- A relation that unregistrations of callbacks respect, and registrations of those allowed. -/
structure World.RegistrationFrame (Allowed : INetConnCallback → Prop)
    (Rel : World → World → Prop) : Prop where
  refl : ∀ world, Rel world world
  trans : ∀ {first second third}, Rel first second → Rel second third → Rel first third
  registerNetConnCallback : ∀ world service callback, Allowed callback →
    Rel world (NetService.registerNetConnCallback world service callback)
  unregisterNetConnCallback : ∀ world service callback,
    Rel world (NetService.unregisterNetConnCallback world service callback).2

/-- A registration and an unregistration write the callbacks of a service, or nothing. -/
theorem World.RegistrationFrame.of_setCallbacks {Rel : World → World → Prop}
    (refl : ∀ world, Rel world world)
    (trans : ∀ {first second third}, Rel first second → Rel second third → Rel first third)
    (setCallbacks : ∀ world service netConnCallback, Rel world
      (world.setService service { world.service service with netConnCallback })) :
    World.RegistrationFrame (fun _ => True) Rel where
  refl := refl
  trans := trans
  registerNetConnCallback world service callback _ := by
    unfold NetService.registerNetConnCallback
    dsimp only
    split
    · exact refl world
    · exact setCallbacks world service _
  unregisterNetConnCallback world service callback := by
    unfold NetService.unregisterNetConnCallback
    dsimp only
    split
    · exact setCallbacks world service _
    · exact refl world

/-- A frame that respects callback requests, too. -/
structure World.CallbackFrame (Allowed : INetConnCallback → Prop) (Rel : World → World → Prop) :
    Prop extends World.Frame Rel, World.RegistrationFrame Allowed Rel

namespace NetConnService

/-- The action is one of the four callback requests. -/
def Action.aboutCallback : Action → Bool
  | .registerNetConnCallback _ => true
  | .registerNetConnCallbackBySpecifier _ _ => true
  | .unregisterNetConnCallback _ => true
  | .unregisterNetConnCallbackBySpecifier _ _ => true
  | _ => false

/-- The action may call the updates of a network. -/
def Action.updatesNetwork : Action → Bool
  | .updateNetSupplierInfo _ _ => true
  | .updateNetLinkInfo _ _ => true
  | _ => false

/-- The action registers the callback, and the registration is answered with `ERR_NONE`. -/
def Registers (state : NetConnService) (callback : INetConnCallback) : Action → Prop
  | .registerNetConnCallback (some registered) =>
    registered.asObject = callback.asObject ∧
      (state.registerNetConnCallback (some registered)).1 = .none
  | .registerNetConnCallbackBySpecifier netSpecifier (some registered) =>
    registered.asObject = callback.asObject ∧
      (state.registerNetConnCallbackBySpecifier netSpecifier (some registered)).1 = .none
  | _ => False

/-- Registering a callback is about its remote object. -/
theorem Registers.of_same {state : NetConnService} {registered callback : INetConnCallback}
    {action : Action} (registers : state.Registers registered action)
    (same : registered.asObject = callback.asObject) : state.Registers callback action := by
  cases action with
  | registerNetConnCallback accepted =>
    cases accepted with
    | none => exact registers
    | some accepted => exact ⟨registers.1.trans same, registers.2⟩
  | registerNetConnCallbackBySpecifier _ accepted =>
    cases accepted with
    | none => exact registers
    | some accepted => exact ⟨registers.1.trans same, registers.2⟩
  | _ => exact registers

end NetConnService

/-! ### Requests -/

namespace World.ConstructionFrame

variable {Rel : World → World → Prop} (frame : World.ConstructionFrame Rel)
variable (state : NetConnService)

include frame

theorem dropNetwork (network : Ref Network) :
    Rel state.world (state.dropNetwork network).world := by
  unfold NetConnService.dropNetwork
  split
  · exact frame.refl _
  · exact frame.destroy _ network

theorem assignDefaultNetService (service : Ref NetService) :
    Rel state.world (state.assignDefaultNetService service).world := by
  unfold NetConnService.assignDefaultNetService
  cases state.defaultNetService with
  | none => exact frame.refl _
  | some replaced => exact frame.dropNetwork { state with defaultNetService := some service } _

theorem addService (ident : String) (type : NetworkType) (netCapability : NetCapabilities)
    (network : Ref Network) :
    Rel state.world (state.addService ident type netCapability network).world :=
  frame.makeService state.world ident type netCapability network

theorem createServices (ident : String) (type : NetworkType) (netCapabilities : UInt64)
    (network : Ref Network) :
    Rel state.world (state.createServices ident type netCapabilities network).world := by
  have internet : Rel state.world (state.addDefaultService ident type network).world :=
    frame.trans (frame.addService state ident type .internet network)
      (frame.assignDefaultNetService _ _)
  unfold NetConnService.createServices
  cases NetCapabilities.internet.isIn netCapabilities with
  | false =>
    cases NetCapabilities.mms.isIn netCapabilities with
    | false => exact frame.refl _
    | true => exact frame.addService state ident type .mms network
  | true =>
    cases NetCapabilities.mms.isIn netCapabilities with
    | false => exact internet
    | true => exact frame.trans internet (frame.addService _ ident type .mms network)

theorem createSupplier (type : NetworkType) (ident : String) (netCapabilities : UInt64) :
    Rel state.world (state.createSupplier type ident netCapabilities).world := by
  have created := frame.trans (frame.makeSupplier state.world type ident)
    (frame.makeNetwork (NetSupplier.make state.world type ident).2 state.world.supplierHeap.fresh)
  exact frame.trans created (frame.createServices
    { state with
      world := (Network.make (NetSupplier.make state.world type ident).2
        state.world.supplierHeap.fresh).2 }
    ident type netCapabilities state.world.networkHeap.fresh)

theorem updateCapability (ident : String) (type : NetworkType) (network : Ref Network)
    (netCapability : NetCapabilities) (netCapabilities : UInt64) :
    Rel state.world
      (state.updateCapability ident type network netCapability netCapabilities).world := by
  unfold NetConnService.updateCapability
  dsimp only
  split
  · split
    · exact frame.refl _
    · exact frame.addService state ident type netCapability network
  · split
    · exact frame.refl _
    · exact frame.refl _

theorem unregisterNetSupplier (supplierId : UInt32) :
    Rel state.world (state.unregisterNetSupplier supplierId).2.world := by
  unfold NetConnService.unregisterNetSupplier
  split
  · exact frame.refl _
  · split
    · exact frame.refl _
    · rename_i network _
      exact frame.dropNetwork (((state.deleteServiceFromListByNet
        network).deleteNetworkFromListBySupplierId supplierId).deleteSupplierFromListById
          supplierId) network

theorem updateNetCapabilities (supplierId : UInt32) (netCapabilities : UInt64) :
    Rel state.world (state.updateNetCapabilities supplierId netCapabilities).2.world := by
  unfold NetConnService.updateNetCapabilities
  split
  · exact frame.refl _
  · exact frame.trans (frame.updateCapability state _ _ _ .internet netCapabilities)
      (frame.updateCapability _ _ _ _ .mms netCapabilities)

/-- The moment an action connects the default service. -/
theorem operating {action : NetConnService.Action} {moment : NetConnService}
    (reached : state.operating action = some moment) : Rel state.world moment.world := by
  rcases NetConnService.operating_cases reached with
    ⟨_, ident, netCapabilities, _, rfl, _⟩ | ⟨_, rfl, _⟩
  · exact frame.createSupplier state _ ident netCapabilities
  · exact frame.refl _

/-- An action that neither connects the default service, nor is about a callback, nor updates a
network. -/
theorem quiet {action : NetConnService.Action} (quiet : state.operating action = none)
    (other : action.aboutCallback = false) (constructs : action.updatesNetwork = false) :
    Rel state.world (state.step action).world := by
  cases action with
  | registerNetSupplier netType ident netCapabilities =>
    have unchanged : state.step (.registerNetSupplier netType ident netCapabilities) = state := by
      unfold NetConnService.operating at quiet
      dsimp only at quiet
      simp only [NetConnService.step, NetConnService.perform, NetConnService.registerNetSupplier]
      split
      · rfl
      · rename_i valid
        rw [if_neg valid] at quiet
        cases known : state.getNetSupplierFromList netType ident with
        | some supplier => rfl
        | none =>
          rw [known] at quiet
          exact absurd quiet (Option.some_ne_none _)
    rw [unchanged]
    exact frame.refl _
  | reConnectServiceTask =>
    have unchanged : state.step .reConnectServiceTask = state := by
      unfold NetConnService.operating at quiet
      dsimp only at quiet
      simp only [NetConnService.step, NetConnService.perform]
      split
      · rfl
      · rename_i pending
        rw [if_neg pending] at quiet
        exact absurd quiet (Option.some_ne_none _)
    rw [unchanged]
    exact frame.refl _
  | unregisterNetSupplier supplierId => exact frame.unregisterNetSupplier state supplierId
  | updateNetCapabilities supplierId netCapabilities =>
    exact frame.updateNetCapabilities state supplierId netCapabilities
  | updateNetSupplierInfo _ _ => cases constructs
  | updateNetLinkInfo _ _ => cases constructs
  | registerNetConnCallback _ => cases other
  | registerNetConnCallbackBySpecifier _ _ => cases other
  | unregisterNetConnCallback _ => cases other
  | unregisterNetConnCallbackBySpecifier _ _ => cases other

end World.ConstructionFrame

namespace World.Frame

variable {Rel : World → World → Prop} (frame : World.Frame Rel) (state : NetConnService)

include frame

theorem updateSupplierInfo (supplierId : UInt32) (netSupplierInfo : Option NetSupplierInfo) :
    Rel state.world (state.updateNetSupplierInfo supplierId netSupplierInfo).2.world := by
  unfold NetConnService.updateNetSupplierInfo
  split
  · exact frame.refl _
  · split
    · exact frame.refl _
    · exact frame.updateNetSupplierInfo _ _ _

theorem updateLinkInfo (supplierId : UInt32) (netLinkInfo : Option NetLinkInfo) :
    Rel state.world (state.updateNetLinkInfo supplierId netLinkInfo).2.world := by
  unfold NetConnService.updateNetLinkInfo
  split
  · exact frame.refl _
  · split
    · exact frame.refl _
    · exact frame.updateNetLinkInfo _ _ _

/-- An action that neither connects the default service nor is about a callback. -/
theorem quiet {action : NetConnService.Action} (quiet : state.operating action = none)
    (other : action.aboutCallback = false) : Rel state.world (state.step action).world := by
  cases constructs : action.updatesNetwork with
  | false => exact frame.toConstructionFrame.quiet state quiet other constructs
  | true =>
    cases action with
    | updateNetSupplierInfo supplierId netSupplierInfo =>
      exact frame.updateSupplierInfo state supplierId netSupplierInfo
    | updateNetLinkInfo supplierId netLinkInfo =>
      exact frame.updateLinkInfo state supplierId netLinkInfo
    | _ => cases constructs

end World.Frame

/-! ### Callback requests -/

namespace World.RegistrationFrame

variable {Allowed : INetConnCallback → Prop} {Rel : World → World → Prop}
variable (frame : World.RegistrationFrame Allowed Rel) (state : NetConnService)

include frame

theorem foldl {visit : World → Ref NetService → World}
    (each : ∀ world service, Rel world (visit world service)) (services : List (Ref NetService))
    (world : World) : Rel world (services.foldl visit world) := by
  induction services generalizing world with
  | nil => exact frame.refl world
  | cons service rest inductionHypothesis =>
    exact frame.trans (each world service) (inductionHypothesis (visit world service))

/-- A registration with every listed service. -/
theorem registration (callback : INetConnCallback)
    (allowed : (state.registerNetConnCallback (some callback)).1 = .none → Allowed callback) :
    Rel state.world (state.registerNetConnCallback (some callback)).2.world := by
  unfold NetConnService.registerNetConnCallback at allowed ⊢
  dsimp only at allowed ⊢
  split
  · exact frame.refl _
  · rename_i listed
    rw [if_neg listed] at allowed
    exact frame.foldl (fun world service =>
      frame.registerNetConnCallback world service callback (allowed rfl)) _ _

/-- A registration with the service that is asked for. -/
theorem registrationBySpecifier (netSpecifier : NetSpecifier) (callback : INetConnCallback)
    (allowed : (state.registerNetConnCallbackBySpecifier (some netSpecifier)
      (some callback)).1 = .none → Allowed callback) :
    Rel state.world (state.registerNetConnCallbackBySpecifier (some netSpecifier)
      (some callback)).2.world := by
  unfold NetConnService.registerNetConnCallbackBySpecifier at allowed ⊢
  dsimp only at allowed ⊢
  split
  · exact frame.refl _
  · rename_i listed
    rw [if_neg listed] at allowed
    cases found : state.findService netSpecifier with
    | none => exact frame.refl _
    | some service =>
      rw [found] at allowed
      exact frame.registerNetConnCallback _ service callback (allowed rfl)

theorem unregistration (callback : Option INetConnCallback) :
    Rel state.world (state.unregisterNetConnCallback callback).2.world := by
  unfold NetConnService.unregisterNetConnCallback
  split
  · exact frame.refl _
  · split
    · exact frame.refl _
    · exact frame.foldl (fun world service => frame.unregisterNetConnCallback world service _) _ _

theorem unregistrationBySpecifier (netSpecifier : Option NetSpecifier)
    (callback : Option INetConnCallback) :
    Rel state.world (state.unregisterNetConnCallbackBySpecifier netSpecifier callback).2.world := by
  unfold NetConnService.unregisterNetConnCallbackBySpecifier
  split
  · split
    · exact frame.refl _
    · split
      · exact frame.refl _
      · exact frame.unregisterNetConnCallback _ _ _
  · exact frame.refl _

theorem aboutCallback {action : NetConnService.Action} (about : action.aboutCallback = true)
    (allowed : ∀ callback, state.Registers callback action → Allowed callback) :
    Rel state.world (state.step action).world := by
  cases action with
  | registerNetConnCallback callback =>
    cases callback with
    | none => exact frame.refl _
    | some callback =>
      exact frame.registration state callback fun answer => allowed callback ⟨rfl, answer⟩
  | registerNetConnCallbackBySpecifier netSpecifier callback =>
    cases netSpecifier with
    | none => exact frame.refl _
    | some netSpecifier =>
      cases callback with
      | none => exact frame.refl _
      | some callback =>
        exact frame.registrationBySpecifier state netSpecifier callback fun answer =>
          allowed callback ⟨rfl, answer⟩
  | unregisterNetConnCallback callback => exact frame.unregistration state callback
  | unregisterNetConnCallbackBySpecifier netSpecifier callback =>
    exact frame.unregistrationBySpecifier state netSpecifier callback
  | _ => cases about

end World.RegistrationFrame

/-- An action that does not connect the default service. -/
theorem World.CallbackFrame.of_quiet {Allowed : INetConnCallback → Prop}
    {Rel : World → World → Prop} (frame : World.CallbackFrame Allowed Rel)
    (state : NetConnService) {action : NetConnService.Action}
    (quiet : state.operating action = none)
    (allowed : ∀ callback, state.Registers callback action → Allowed callback) :
    Rel state.world (state.step action).world := by
  cases about : action.aboutCallback with
  | true => exact frame.toRegistrationFrame.aboutCallback state about allowed
  | false => exact frame.toFrame.quiet state quiet about

end NetManager
