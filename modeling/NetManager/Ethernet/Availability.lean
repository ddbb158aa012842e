/-
This file proves that what an Ethernet device reports follows its link. Only
`RemoteUpdateNetSupplierInfo` changes the link state after the registration, and it takes it from
the two flags of the link; everything else the manager does with a device leaves the flags, the
link state and the reports alone.
-/

import NetManager.Ethernet.EthernetManagement

namespace NetManager

open Library

namespace DevInterfaceState

/-! ### What keeps the reports -/

/-- A call that reports no availability, and no link information while the link is
unavailable. -/
def Harmless (sent : SentCall) : Prop :=
  sent.supplierInfo = none ∧ (sent.connLinkState = .linkUnavailable → sent.linkInfo = none)

/-- Nothing but the configuration, the link information and the DHCP request changed, and only
harmless calls were made. -/
structure Quiet (before after : DevInterfaceState) : Prop where
  linkUp : after.linkUp = before.linkUp
  lowerUp : after.lowerUp = before.lowerUp
  netSupplier : after.netSupplier = before.netSupplier
  connLinkState : after.connLinkState = before.connLinkState
  sent : ∃ calls, after.sent = before.sent ++ calls ∧ ∀ call ∈ calls, Harmless call

theorem Quiet.refl (this : DevInterfaceState) : Quiet this this :=
  ⟨rfl, rfl, rfl, rfl, appended_refl this.sent⟩

theorem Quiet.trans {first second third : DevInterfaceState} (earlier : Quiet first second)
    (later : Quiet second third) : Quiet first third where
  linkUp := later.linkUp.trans earlier.linkUp
  lowerUp := later.lowerUp.trans earlier.lowerUp
  netSupplier := later.netSupplier.trans earlier.netSupplier
  connLinkState := later.connLinkState.trans earlier.connLinkState
  sent := appended_trans earlier.sent later.sent

theorem quiet_send (this : DevInterfaceState) {call : DeviceCall}
    (harmless : Harmless ⟨this.connLinkState, this.ifcfg, call⟩) : Quiet this (this.send call) :=
  ⟨rfl, rfl, rfl, rfl, appended_single this.sent harmless⟩

theorem quiet_remoteUpdateNetLinkInfo (this : DevInterfaceState) :
    Quiet this this.remoteUpdateNetLinkInfo := by
  unfold remoteUpdateNetLinkInfo
  split
  · exact Quiet.refl this
  · rename_i available
    split
    · exact Quiet.refl this
    · exact this.quiet_send ⟨rfl, fun unavailable => absurd unavailable available⟩

theorem quiet_setIfcfg (this : DevInterfaceState) (ifcfg : InterfaceConfiguration) :
    Quiet this (this.setIfcfg ifcfg) := by
  have configured : Quiet this { this with ifcfg := some ifcfg } :=
    ⟨rfl, rfl, rfl, rfl, (Quiet.refl this).sent⟩
  unfold setIfcfg
  dsimp only
  split
  · have addressed : Quiet this
        ({ this with ifcfg := some ifcfg } : DevInterfaceState).updateLinkInfo.setIpAddr :=
      ⟨rfl, rfl, rfl, rfl, _, rfl, fun sent member => by
        rw [List.mem_singleton.mp member]; exact ⟨rfl, fun _ => rfl⟩⟩
    split
    · exact addressed.trans (quiet_remoteUpdateNetLinkInfo _)
    · exact addressed
  · exact configured

/-- Asking the DHCP service for something. -/
theorem quiet_dhcp (this : DevInterfaceState) {call : DeviceCall} (dhcpReqState : Bool)
    (harmless : Harmless ⟨this.connLinkState, this.ifcfg, call⟩) :
    Quiet this { this.send call with dhcpReqState := dhcpReqState } :=
  ⟨rfl, rfl, rfl, rfl, (this.quiet_send harmless).sent⟩

theorem quiet_updateLinkInfoDhcp (this : DevInterfaceState) (iface : String)
    (result : DhcpResult) : Quiet this (this.updateLinkInfoDhcp iface result) :=
  ⟨rfl, rfl, rfl, rfl, (Quiet.refl this).sent⟩

/-! ### Registration -/

/-- What the answer to the registration decides once and for all. -/
structure Registration (supplierId : Int) (this : DevInterfaceState) : Prop where
  netSupplier : this.netSupplier = supplierId
  failed : supplierId ≤ minimumSupplierId →
    this.connLinkState = .unregistered ∧ this.supplierInfosSent = []
  succeeded : minimumSupplierId < supplierId → this.connLinkState ≠ .unregistered
  linkInfos : ∀ call ∈ this.sent, call.connLinkState = .linkUnavailable → call.linkInfo = none

/-- The link state and the last report agree with the two flags of the link. -/
structure Tracks (supplierId : Int) (this : DevInterfaceState) : Prop
    extends Registration supplierId this where
  available : minimumSupplierId < supplierId →
    (this.connLinkState = .linkAvailable ↔ this.linkUp = true ∧ this.lowerUp = true)
  reported : ∀ info, this.supplierInfosSent.getLast? = some info →
    info.isAvailable = (this.linkUp && this.lowerUp)

theorem Quiet.supplierInfosSent {before after : DevInterfaceState} (quiet : Quiet before after) :
    after.supplierInfosSent = before.supplierInfosSent :=
  filterMap_appended quiet.sent fun _ harmless => harmless.1

theorem Registration.quiet {supplierId : Int} {before after : DevInterfaceState}
    (registration : Registration supplierId before) (quiet : Quiet before after) :
    Registration supplierId after := by
  refine ⟨quiet.netSupplier.trans registration.netSupplier, ?_, ?_, ?_⟩
  · rw [quiet.connLinkState, quiet.supplierInfosSent]
    exact registration.failed
  · rw [quiet.connLinkState]
    exact registration.succeeded
  · obtain ⟨calls, appended, harmless⟩ := quiet.sent
    intro call member
    rw [appended] at member
    rcases List.mem_append.mp member with member | member
    · exact registration.linkInfos call member
    · exact (harmless call member).2

theorem Tracks.quiet {supplierId : Int} {before after : DevInterfaceState}
    (tracks : Tracks supplierId before) (quiet : Quiet before after) : Tracks supplierId after := by
  refine ⟨tracks.toRegistration.quiet quiet, ?_, ?_⟩
  · rw [quiet.connLinkState, quiet.linkUp, quiet.lowerUp]
    exact tracks.available
  · rw [quiet.supplierInfosSent, quiet.linkUp, quiet.lowerUp]
    exact tracks.reported

/-- Registering decides the registration. -/
theorem registration_remoteRegisterNetSupplier (this : DevInterfaceState) (supplierId : Int)
    (fresh : this.connLinkState = .unregistered)
    (harmless : ∀ call ∈ this.sent, Harmless call) :
    Registration supplierId (this.remoteRegisterNetSupplier supplierId) ∧
      (this.remoteRegisterNetSupplier supplierId).connLinkState ≠ .linkAvailable ∧
      (this.remoteRegisterNetSupplier supplierId).supplierInfosSent = [] := by
  have unsent : (this.remoteRegisterNetSupplier supplierId).supplierInfosSent = [] := by
    unfold remoteRegisterNetSupplier supplierInfosSent
    rw [if_pos fresh, List.filterMap_eq_nil_iff]
    intro call member
    rcases List.mem_append.mp member with member | member
    · exact (harmless call member).1
    · rw [List.mem_singleton.mp member]
      rfl
  have answered : (this.remoteRegisterNetSupplier supplierId).connLinkState =
      if supplierId > minimumSupplierId then .registered else .unregistered := by
    unfold remoteRegisterNetSupplier
    rw [if_pos fresh]
  refine ⟨⟨?_, ?_, ?_, ?_⟩, ?_, unsent⟩
  · unfold remoteRegisterNetSupplier
    rw [if_pos fresh]
  · intro failed
    rw [answered, if_neg (Int.not_lt.mpr failed)]
    exact ⟨rfl, unsent⟩
  · intro succeeded
    rw [answered, if_pos succeeded]
    exact fun same => by cases same
  · unfold remoteRegisterNetSupplier
    rw [if_pos fresh]
    intro call member
    rcases List.mem_append.mp member with member | member
    · exact (harmless call member).2
    · rw [List.mem_singleton.mp member]
      exact fun _ => rfl
  · rw [answered]
    split <;> exact fun same => by cases same

/-- Setting the flags of the link keeps the registration. -/
theorem Registration.linked {supplierId : Int} {this : DevInterfaceState}
    (registration : Registration supplierId this) (up lowerUp : Bool) :
    Registration supplierId { this with linkUp := up, lowerUp := lowerUp } :=
  ⟨registration.netSupplier, registration.failed, registration.succeeded, registration.linkInfos⟩

/-- `RemoteUpdateNetSupplierInfo` brings the link state and the report up to date. -/
theorem tracks_remoteUpdateNetSupplierInfo {supplierId : Int} {this : DevInterfaceState}
    (registration : Registration supplierId this) :
    Tracks supplierId this.remoteUpdateNetSupplierInfo := by
  unfold remoteUpdateNetSupplierInfo
  by_cases unregistered : this.connLinkState = .unregistered
  · have failed : supplierId ≤ minimumSupplierId :=
      Int.not_lt.mp fun succeeded => registration.succeeded succeeded unregistered
    rw [if_pos unregistered]
    refine ⟨registration, fun succeeded => absurd failed (Int.not_le.mpr succeeded), ?_⟩
    intro info last
    rw [(registration.failed failed).2] at last
    cases last
  · have succeeded : minimumSupplierId < supplierId :=
      Int.not_le.mp fun failed => unregistered (registration.failed failed).1
    rw [if_neg unregistered]
    have reports : (this.updateSupplierAvailable.send (.updateNetSupplierInfo
        this.updateSupplierAvailable.netSupplier
        this.updateSupplierAvailable.netSupplierInfo)).supplierInfosSent =
        this.supplierInfosSent ++ [this.updateSupplierAvailable.netSupplierInfo] :=
      List.filterMap_append
    refine ⟨⟨registration.netSupplier, fun failed => absurd succeeded (Int.not_lt.mpr failed),
      fun _ => ?_, ?_⟩, fun _ => ?_, ?_⟩
    · show (if (this.linkUp && this.lowerUp) = true then ConnLinkState.linkAvailable
        else .linkUnavailable) ≠ .unregistered
      split <;> exact fun same => by cases same
    · intro call member
      rcases List.mem_append.mp member with member | member
      · exact registration.linkInfos call member
      · rw [List.mem_singleton.mp member]
        exact fun _ => rfl
    · show (if (this.linkUp && this.lowerUp) = true then ConnLinkState.linkAvailable
        else .linkUnavailable) = .linkAvailable ↔ _
      rw [← Bool.and_eq_true]
      split
      · rename_i both
        exact ⟨fun _ => both, fun _ => rfl⟩
      · rename_i notBoth
        exact ⟨fun same => absurd same (by simp), fun both => absurd both notBoth⟩
    · intro info last
      rw [reports, List.getLast?_append, List.getLast?_singleton, Option.some_or] at last
      rw [← Option.some.inj last]
      rfl

end DevInterfaceState

namespace EthernetManagement

open DevInterfaceState

/-! ### Every step -/

theorem makeDevice_tracks (info : NlkEventInfo) (supplierId : Int) :
    Tracks supplierId (makeDevice info supplierId) := by
  have configured := quiet_setIfcfg {} { mode := .static }
  have harmless : ∀ call ∈ (({} : DevInterfaceState).setIfcfg { mode := .static }).sent,
      Harmless call := by
    obtain ⟨calls, appended, harmless⟩ := configured.sent
    rw [appended]
    exact harmless
  let named : DevInterfaceState := { ({} : DevInterfaceState).setIfcfg { mode := .static } with
    devName := info.iface, linkUp := info.up, lowerUp := info.lowerUp }
  obtain ⟨registration, unavailable, unsent⟩ :=
    named.registration_remoteRegisterNetSupplier supplierId configured.connLinkState harmless
  unfold makeDevice
  dsimp only
  split
  · exact tracks_remoteUpdateNetSupplierInfo registration
  · rename_i down
    refine ⟨registration, fun _ => ⟨fun available => absurd available unavailable, ?_⟩, ?_⟩
    · rintro ⟨up, lowerUp⟩
      rw [remoteRegisterNetSupplier, if_pos configured.connLinkState] at up lowerUp
      exact absurd (Bool.and_eq_true_iff.mpr ⟨up, lowerUp⟩) down
    · intro info last
      rw [unsent] at last
      cases last

theorem updateDevice_tracks {supplierId : Int} {devState : DevInterfaceState}
    (registration : Registration supplierId devState) (dev : String) (up lowerUp : Bool) :
    Tracks supplierId (updateDevice devState dev up lowerUp) := by
  have linked := registration.linked up lowerUp
  unfold updateDevice
  dsimp only
  split
  · have updated := tracks_remoteUpdateNetSupplierInfo linked
    split
    · exact updated.quiet ((quiet_send _ ⟨rfl, fun _ => rfl⟩).trans
        (quiet_dhcp _ true ⟨rfl, fun _ => rfl⟩))
    · exact updated.quiet (quiet_remoteUpdateNetLinkInfo _)
  · refine tracks_remoteUpdateNetSupplierInfo ?_
    split
    · exact linked.quiet (quiet_dhcp _ false ⟨rfl, fun _ => rfl⟩)
    · exact linked

theorem deviceStep_tracks {supplierId : Int} {devState : DevInterfaceState}
    (tracks : Tracks supplierId devState) (dev : String) (action : Action) :
    Tracks supplierId (deviceStep dev devState action) := by
  unfold deviceStep
  split
  · cases action with
    | handle info => exact updateDevice_tracks tracks.toRegistration dev info.up info.lowerUp
    | setIfaceConfig iface cfg =>
      dsimp only
      split
      · exact tracks.quiet (quiet_setIfcfg devState cfg)
      · exact tracks
    | onSuccess ifname result =>
      dsimp only
      split
      · exact tracks.quiet ((quiet_updateLinkInfoDhcp devState dev result).trans
          (quiet_remoteUpdateNetLinkInfo _))
      · exact tracks
  · exact tracks

/-! ### Every run -/

/-- Whatever happens after the start, the link state and the last report of a registered device
agree with its link, it sends no link information while the link is unavailable, and a device
that could not be registered reports nothing. -/
theorem availability_tracks_link (answers : Nat → Int) (linkInfos : List NlkEventInfo)
    {dev : String} {made device : DevInterfaceState} (actions : List Action)
    (known : (init answers linkInfos).devs.read dev = some made)
    (reached : (run step (init answers linkInfos) actions).devs.read dev = some device) :
    (minimumSupplierId < made.netSupplier →
      (device.connLinkState = .linkAvailable ↔ device.linkUp = true ∧ device.lowerUp = true) ∧
      (∀ info, device.supplierInfosSent.getLast? = some info →
        info.isAvailable = (device.linkUp && device.lowerUp)) ∧
      ∀ call ∈ device.sent, call.connLinkState = .linkUnavailable → call.linkInfo = none) ∧
    (made.netSupplier ≤ minimumSupplierId →
      device.connLinkState = .unregistered ∧ device.supplierInfosSent = []) := by
  obtain ⟨info, supplierId, _, rfl⟩ := init_read answers linkInfos known
  have initially := makeDevice_tracks info supplierId
  rw [read_run, known, Option.map_some, Option.some.injEq] at reached
  have tracks : Tracks supplierId device := by
    rw [← reached]
    exact run_invariant (deviceStep dev) (Tracks supplierId)
      (fun devState action tracks => deviceStep_tracks tracks dev action) initially actions
  rw [initially.netSupplier]
  exact ⟨fun succeeded => ⟨tracks.available succeeded, tracks.reported, tracks.linkInfos⟩,
    tracks.failed⟩

/-- An interface whose link goes down and comes back. -/
theorem flap_tracks_link :
    let eth0 (flags : UInt64) : NlkEventInfo := { iface := "eth0", ifiFlags := flags }
    ((run step (init (fun _ => 1001) [eth0 0x10001])
      [.handle (eth0 0x1), .handle (eth0 0x10001)]).devs.read "eth0").map
        DevInterfaceState.connLinkState = some .linkAvailable := by
  intro eth0
  obtain ⟨made, known, answered⟩ := Option.map_eq_some_iff.mp
    (show ((init (fun _ => 1001) [eth0 0x10001]).devs.read "eth0").map
      DevInterfaceState.netSupplier = some 1001 by decide)
  obtain ⟨device, reached, flags⟩ := Option.map_eq_some_iff.mp
    (show ((run step (init (fun _ => 1001) [eth0 0x10001])
      [.handle (eth0 0x1), .handle (eth0 0x10001)]).devs.read "eth0").map
        (fun device => (device.linkUp, device.lowerUp)) = some (true, true) by decide)
  have tracks := (availability_tracks_link _ _ _ known reached).1 (by rw [answered]; decide)
  rw [reached, Option.map_some, tracks.1.mpr (Prod.mk.inj flags)]

end EthernetManagement

end NetManager
