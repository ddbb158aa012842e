/-
This file proves that the DHCP client of a device is started and stopped in turns. Only the
handling of a link event starts or stops it, and it looks at `dhcpReqState_` first and sets it
afterwards, so the flag always tells what the last of these calls was, whatever the mode of the
device was in between.
-/

import NetManager.Ethernet.EthernetManagement
import Mathlib.Data.List.Chain

namespace NetManager

open Library

/-! ### Calls -/

namespace SentCall

/-- The device whose DHCP client a call starts (`true`) or stops (`false`). -/
def dhcpClient (sent : SentCall) : Option (String × Bool) :=
  match sent.call with
  | .startDhcpClient dev _ => some (dev, true)
  | .stopDhcpClient dev _ => some (dev, false)
  | _ => none

/-- The supplier a call speaks for. -/
def supplierId (sent : SentCall) : Option Int :=
  match sent.call with
  | .updateNetSupplierInfo netSupplier _ => some netSupplier
  | .updateNetLinkInfo netSupplier _ => some netSupplier
  | _ => none

end SentCall

namespace DevInterfaceState

/-- The starts and stops of DHCP clients, in order. -/
def dhcpCalls (this : DevInterfaceState) : List (String × Bool) :=
  this.sent.filterMap SentCall.dhcpClient

/-! ### What leaves the DHCP client alone -/

/-- Only the connection service, for the supplier of the device, and the kernel were called. -/
structure Informs (before after : DevInterfaceState) : Prop where
  netSupplier : after.netSupplier = before.netSupplier
  dhcpReqState : after.dhcpReqState = before.dhcpReqState
  sent : ∃ calls, after.sent = before.sent ++ calls ∧ ∀ call ∈ calls,
    call.dhcpClient = none ∧ ∀ netSupplier, call.supplierId = some netSupplier →
      netSupplier = before.netSupplier

theorem Informs.refl (this : DevInterfaceState) : Informs this this :=
  ⟨rfl, rfl, appended_refl this.sent⟩

theorem Informs.trans {first second third : DevInterfaceState} (earlier : Informs first second)
    (later : Informs second third) : Informs first third := by
  have sent := later.sent
  rw [earlier.netSupplier] at sent
  exact ⟨later.netSupplier.trans earlier.netSupplier,
    later.dhcpReqState.trans earlier.dhcpReqState, appended_trans earlier.sent sent⟩

theorem informs_send (this : DevInterfaceState) {call : DeviceCall}
    (notDhcp : SentCall.dhcpClient ⟨this.connLinkState, this.ifcfg, call⟩ = none)
    (own : ∀ netSupplier, SentCall.supplierId ⟨this.connLinkState, this.ifcfg, call⟩ =
      some netSupplier → netSupplier = this.netSupplier) : Informs this (this.send call) :=
  ⟨rfl, rfl, appended_single this.sent ⟨notDhcp, own⟩⟩

/-- Setting the flags of the link. -/
theorem informs_linked (this : DevInterfaceState) (up lowerUp : Bool) :
    Informs this { this with linkUp := up, lowerUp := lowerUp } :=
  ⟨rfl, rfl, (Informs.refl this).sent⟩

/-- Registering the supplier of the device makes a call for no supplier. -/
theorem dhcp_remoteRegisterNetSupplier (this : DevInterfaceState) (supplierId : Int) :
    (this.remoteRegisterNetSupplier supplierId).dhcpCalls = this.dhcpCalls ∧
      (this.remoteRegisterNetSupplier supplierId).dhcpReqState = this.dhcpReqState := by
  unfold remoteRegisterNetSupplier dhcpCalls
  split
  · exact ⟨List.filterMap_append.trans (List.append_nil _), rfl⟩
  · exact ⟨rfl, rfl⟩

theorem informs_remoteUpdateNetLinkInfo (this : DevInterfaceState) :
    Informs this this.remoteUpdateNetLinkInfo := by
  unfold remoteUpdateNetLinkInfo
  split
  · exact Informs.refl this
  · split
    · exact Informs.refl this
    · exact this.informs_send rfl fun _ same => (Option.some.inj same).symm

theorem informs_remoteUpdateNetSupplierInfo (this : DevInterfaceState) :
    Informs this this.remoteUpdateNetSupplierInfo := by
  have available : Informs this this.updateSupplierAvailable :=
    ⟨rfl, rfl, (Informs.refl this).sent⟩
  unfold remoteUpdateNetSupplierInfo
  split
  · exact Informs.refl this
  · exact available.trans (informs_send _ rfl fun _ same => (Option.some.inj same).symm)

theorem informs_setIfcfg (this : DevInterfaceState) (ifcfg : InterfaceConfiguration) :
    Informs this (this.setIfcfg ifcfg) := by
  have configured : Informs this { this with ifcfg := some ifcfg } :=
    ⟨rfl, rfl, (Informs.refl this).sent⟩
  have derived : Informs this
      ({ this with ifcfg := some ifcfg } : DevInterfaceState).updateLinkInfo :=
    ⟨rfl, rfl, (Informs.refl this).sent⟩
  unfold setIfcfg
  dsimp only
  split
  · have addressed : Informs this
        ({ this with ifcfg := some ifcfg } : DevInterfaceState).updateLinkInfo.setIpAddr :=
      derived.trans (informs_send _ rfl fun _ same => by cases same)
    split
    · exact addressed.trans (informs_remoteUpdateNetLinkInfo _)
    · exact addressed
  · exact configured

theorem informs_updateLinkInfoDhcp (this : DevInterfaceState) (iface : String)
    (result : DhcpResult) : Informs this (this.updateLinkInfoDhcp iface result) :=
  ⟨rfl, rfl, (Informs.refl this).sent⟩

theorem Informs.dhcpCalls {before after : DevInterfaceState} (informs : Informs before after) :
    after.dhcpCalls = before.dhcpCalls :=
  filterMap_appended informs.sent fun _ informing => informing.1

/-! ### Turns -/

/-- Starts and stops take turns, and the first is a start. -/
def Alternate (calls : List Bool) : Prop := (false :: calls).IsChain (· ≠ ·)

theorem Alternate.append {calls : List Bool} (alternate : Alternate calls) {call : Bool}
    (turn : calls.getLast?.getD false ≠ call) : Alternate (calls ++ [call]) := by
  have appended : (false :: calls ++ [call]).IsChain (· ≠ ·) := by
    refine List.IsChain.append alternate (List.isChain_singleton call) ?_
    rintro last isLast first ⟨⟩
    rw [Option.mem_def, List.getLast?_cons, Option.some.injEq] at isLast
    rwa [isLast] at turn
  exact appended

/-- The starts and stops of the device, against the flag of the device. -/
structure TakesTurns (dev : String) (this : DevInterfaceState) : Prop where
  named : ∀ call ∈ this.dhcpCalls, call.1 = dev
  alternate : Alternate (this.dhcpCalls.map Prod.snd)
  requested : (this.dhcpCalls.map Prod.snd).getLast?.getD false = this.dhcpReqState

theorem TakesTurns.informs {dev : String} {before after : DevInterfaceState}
    (turns : TakesTurns dev before) (informs : Informs before after) : TakesTurns dev after := by
  refine ⟨?_, ?_, ?_⟩
  · rw [informs.dhcpCalls]
    exact turns.named
  · rw [informs.dhcpCalls]
    exact turns.alternate
  · rw [informs.dhcpCalls, informs.dhcpReqState]
    exact turns.requested

/-- A call that sets the flag to what it was not. -/
theorem TakesTurns.switch {dev : String} {before after : DevInterfaceState}
    (turns : TakesTurns dev before) {call : Bool}
    (made : after.dhcpCalls = before.dhcpCalls ++ [(dev, call)])
    (other : before.dhcpReqState ≠ call) (flag : after.dhcpReqState = call) :
    TakesTurns dev after := by
  refine ⟨?_, ?_, ?_⟩
  · rw [made]
    exact List.forall_mem_append.mpr ⟨turns.named, List.forall_mem_singleton.mpr rfl⟩
  · rw [made, List.map_append]
    refine turns.alternate.append ?_
    rw [turns.requested]
    exact other
  · rw [made, List.map_append, flag]
    exact congrArg (Option.getD · false) List.getLast?_concat

end DevInterfaceState

namespace EthernetManagement

open DevInterfaceState

/-! ### Every step -/

theorem makeDevice_takesTurns (info : NlkEventInfo) (supplierId : Int) :
    TakesTurns info.iface (makeDevice info supplierId) := by
  have untouched : TakesTurns info.iface {} :=
    ⟨fun _ absent => absurd absent List.not_mem_nil, List.isChain_singleton false, rfl⟩
  obtain ⟨named, alternate, requested⟩ :=
    untouched.informs (informs_setIfcfg {} { mode := .static })
  let linked : DevInterfaceState := { ({} : DevInterfaceState).setIfcfg { mode := .static } with
    devName := info.iface, linkUp := info.up, lowerUp := info.lowerUp }
  obtain ⟨sameCalls, sameFlag⟩ := linked.dhcp_remoteRegisterNetSupplier supplierId
  have registered : TakesTurns info.iface (linked.remoteRegisterNetSupplier supplierId) := by
    refine ⟨?_, ?_, ?_⟩
    · rw [sameCalls]
      exact named
    · rw [sameCalls]
      exact alternate
    · rw [sameCalls, sameFlag]
      exact requested
  unfold makeDevice
  dsimp only
  split
  · exact registered.informs (informs_remoteUpdateNetSupplierInfo _)
  · exact registered

theorem updateDevice_takesTurns {dev : String} {devState : DevInterfaceState}
    (turns : TakesTurns dev devState) (up lowerUp : Bool) :
    TakesTurns dev (updateDevice devState dev up lowerUp) := by
  have linked := informs_linked devState up lowerUp
  unfold updateDevice
  dsimp only
  split
  · have updated := linked.trans (informs_remoteUpdateNetSupplierInfo _)
    split
    · rename_i starts
      have stopped : devState.dhcpReqState ≠ true := by
        rw [Bool.and_eq_true, Bool.not_eq_true'] at starts
        rw [show devState.dhcpReqState = false from starts.2]
        exact Bool.false_ne_true
      rw [← updated.dhcpReqState] at stopped
      refine (turns.informs updated).switch ?_ stopped rfl
      unfold dhcpCalls send
      rw [List.filterMap_append, List.filterMap_append, List.append_assoc]
      rfl
    · exact turns.informs (updated.trans (informs_remoteUpdateNetLinkInfo _))
  · split
    · rename_i stops
      have started : devState.dhcpReqState ≠ false := by
        rw [show devState.dhcpReqState = true from (Bool.and_eq_true_iff.mp stops).2]
        exact Bool.true_eq_false.mp
      refine TakesTurns.informs ?_ (informs_remoteUpdateNetSupplierInfo _)
      exact (turns.informs linked).switch List.filterMap_append started rfl
    · exact turns.informs (linked.trans (informs_remoteUpdateNetSupplierInfo _))

theorem deviceStep_takesTurns {dev : String} {devState : DevInterfaceState}
    (turns : TakesTurns dev devState) (action : Action) :
    TakesTurns dev (deviceStep dev devState action) := by
  unfold deviceStep
  split
  · cases action with
    | handle info => exact updateDevice_takesTurns turns info.up info.lowerUp
    | setIfaceConfig iface cfg =>
      dsimp only
      split
      · exact turns.informs (informs_setIfcfg devState cfg)
      · exact turns
    | onSuccess ifname result =>
      dsimp only
      split
      · exact turns.informs ((informs_updateLinkInfoDhcp devState dev result).trans
          (informs_remoteUpdateNetLinkInfo _))
      · exact turns
  · exact turns

/-! ### Every run -/

/-- Each device starts and stops its own DHCP client in turns, its flag tells which of the two it
did last, and what happens to another device leaves it as it is. -/
structure DhcpPaired (this : EthernetManagement) : Prop where
  named : ∀ dev devState, this.devs.read dev = some devState →
    ∀ call ∈ devState.dhcpCalls, call.1 = dev
  alternate : ∀ dev devState, this.devs.read dev = some devState →
    Alternate (devState.dhcpCalls.map Prod.snd)
  requested : ∀ dev devState, this.devs.read dev = some devState →
    (devState.dhcpReqState = true ↔
      (devState.dhcpCalls.map Prod.snd).getLast? = some true)
  apart : ∀ dev action, action.iface ≠ dev →
    (this.step action).devs.read dev = this.devs.read dev

/-- DHCP clients are started and stopped in turns in every run. -/
theorem dhcpPaired_run (answers : Nat → Int) (linkInfos : List NlkEventInfo)
    (actions : List Action) : (run step (init answers linkInfos) actions).DhcpPaired := by
  have turns (dev : String) (devState : DevInterfaceState)
      (reached : (run step (init answers linkInfos) actions).devs.read dev = some devState) :
      TakesTurns dev devState := by
    rw [read_run, Option.map_eq_some_iff] at reached
    obtain ⟨made, known, rfl⟩ := reached
    obtain ⟨info, supplierId, rfl, rfl⟩ := init_read answers linkInfos known
    exact run_invariant _ (TakesTurns info.iface)
      (fun _ action holds => deviceStep_takesTurns holds action)
      (makeDevice_takesTurns info supplierId) actions
  refine ⟨fun dev devState reached => (turns dev devState reached).named,
    fun dev devState reached => (turns dev devState reached).alternate, ?_, ?_⟩
  · intro dev devState reached
    rw [← (turns dev devState reached).requested]
    cases (devState.dhcpCalls.map Prod.snd).getLast? with
    | none => decide
    | some call => exact (Option.some.injEq call true).symm ▸ Iff.rfl
  · intro dev action other
    rw [read_step, funext (deviceStep_other other), Option.map_id']

end EthernetManagement

end NetManager
