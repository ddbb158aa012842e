/-
This file settles when a DHCP client is left running. A link event in mode DHCP leaves the client
running exactly when there is a carrier, whatever it did before; but a configuration does not
touch the client, and a link event in another mode does not look at it. So a client outlives its
purpose when the mode changes under it, and then nothing stops it.
-/

import NetManager.Ethernet.DhcpClient
import NetManager.Ethernet.StaticConfiguration

namespace NetManager

open Library

namespace DevInterfaceState

/-! ### Running clients -/

/-- The DHCP client of the interface was started, and not stopped since. -/
def ClientRunning (dev : String) (this : DevInterfaceState) : Prop :=
  this.dhcpCalls.getLast? = some (dev, true)

instance (dev : String) (this : DevInterfaceState) : Decidable (this.ClientRunning dev) :=
  inferInstanceAs (Decidable (this.dhcpCalls.getLast? = some (dev, true)))

/-- The flag of a device tells whether its client is running. -/
theorem TakesTurns.clientRunning_iff {dev : String} {this : DevInterfaceState}
    (turns : TakesTurns dev this) : this.ClientRunning dev ↔ this.dhcpReqState = true := by
  have requested := turns.requested
  unfold ClientRunning
  rw [List.getLast?_map] at requested
  cases last : this.dhcpCalls.getLast? with
  | none => simp [← requested, last]
  | some call =>
    obtain rfl : call.1 = dev := turns.named call (List.mem_of_getLast? last)
    simp [← requested, last, Prod.ext_iff]

/-- A running client has a carrier, and the device is not configured statically. -/
def Tended (this : DevInterfaceState) : Prop :=
  this.dhcpReqState = true → this.lowerUp = true ∧ this.getIPSetMode ≠ .static

@[simp] theorem lowerUp_remoteUpdateNetLinkInfo (this : DevInterfaceState) :
    this.remoteUpdateNetLinkInfo.lowerUp = this.lowerUp :=
  congrArg Prod.snd this.links_remoteUpdateNetLinkInfo

@[simp] theorem lowerUp_setIfcfg (this : DevInterfaceState) (ifcfg : InterfaceConfiguration) :
    (this.setIfcfg ifcfg).lowerUp = this.lowerUp :=
  congrArg Prod.snd (this.links_setIfcfg ifcfg)

theorem getIPSetMode_setIfcfg (this : DevInterfaceState) (ifcfg : InterfaceConfiguration) :
    (this.setIfcfg ifcfg).getIPSetMode = ifcfg.mode := by
  unfold getIPSetMode
  rw [(this.setIfcfg_keepsConfiguration ifcfg).ifcfg]

end DevInterfaceState

namespace EthernetManagement

open DevInterfaceState

/-! ### What an action does to the client -/

/-- In mode DHCP the client runs after a link event exactly when there is a carrier; in another
mode a link event leaves it as it is. -/
theorem dhcpReqState_updateDevice (devState : DevInterfaceState) (dev : String)
    (up lowerUp : Bool) :
    (updateDevice devState dev up lowerUp).dhcpReqState =
      if devState.getIPSetMode = .dhcp then lowerUp else devState.dhcpReqState := by
  have linkedMode : ({ devState with linkUp := up, lowerUp := lowerUp } :
      DevInterfaceState).getIPSetMode = devState.getIPSetMode := rfl
  unfold updateDevice
  dsimp only
  rw [linkedMode]
  cases lowerUp with
  | true =>
    rw [if_pos rfl]
    split
    · rename_i starts
      rw [Bool.and_eq_true, decide_eq_true_iff] at starts
      rw [if_pos starts.1]
    · rename_i notStarts
      rw [(informs_remoteUpdateNetLinkInfo _).dhcpReqState,
        (informs_remoteUpdateNetSupplierInfo _).dhcpReqState]
      split
      · rename_i dhcp
        simpa [dhcp] using notStarts
      · rfl
  | false =>
    rw [if_neg Bool.false_ne_true, (informs_remoteUpdateNetSupplierInfo _).dhcpReqState]
    split
    · rename_i stops
      rw [Bool.and_eq_true, decide_eq_true_iff] at stops
      rw [if_pos stops.1]
    · rename_i notStops
      split
      · rename_i dhcp
        simpa [dhcp] using notStops
      · rfl

@[simp] theorem lowerUp_updateDevice (devState : DevInterfaceState) (dev : String)
    (up lowerUp : Bool) : (updateDevice devState dev up lowerUp).lowerUp = lowerUp :=
  congrArg Prod.snd (links_updateDevice devState dev up lowerUp)

theorem getIPSetMode_updateDevice (devState : DevInterfaceState) (dev : String)
    (up lowerUp : Bool) :
    (updateDevice devState dev up lowerUp).getIPSetMode = devState.getIPSetMode := by
  unfold getIPSetMode
  rw [(keepsConfiguration_updateDevice devState dev up lowerUp).ifcfg]

/-- The action leaves no client behind: the mode does not become static while the client runs, and
the carrier is not lost while it runs in a mode other than DHCP. -/
def LeavesNoClient (devState : DevInterfaceState) : Action → Prop
  | .handle info => info.lowerUp = false → devState.dhcpReqState = true →
      devState.getIPSetMode = .dhcp
  | .setIfaceConfig _ cfg => devState.linkUp = true → cfg.mode = .static →
      devState.dhcpReqState = false
  | .onSuccess _ _ => True

/-- An action keeps the client of its device tended exactly when it leaves no client behind. -/
theorem tended_deviceStep_iff (devState : DevInterfaceState) (action : Action)
    (tended : Tended devState) :
    Tended (deviceStep action.iface devState action) ↔ LeavesNoClient devState action := by
  unfold deviceStep
  rw [if_pos rfl]
  cases action with
  | handle info =>
    unfold Tended LeavesNoClient
    dsimp only
    rw [dhcpReqState_updateDevice, lowerUp_updateDevice, getIPSetMode_updateDevice]
    by_cases dhcp : devState.getIPSetMode = .dhcp
    · rw [if_pos dhcp, dhcp]
      exact iff_of_true (fun carrier => ⟨carrier, by decide⟩) fun _ _ => rfl
    · rw [if_neg dhcp]
      constructor
      · intro after lost running
        rw [(after running).1] at lost
        cases lost
      · intro guard running
        refine ⟨?_, (tended running).2⟩
        cases carrier : info.lowerUp with
        | true => rfl
        | false => exact absurd (guard carrier running) dhcp
  | setIfaceConfig iface cfg =>
    unfold LeavesNoClient
    dsimp only
    by_cases up : devState.linkUp = true
    · rw [if_pos up]
      unfold Tended
      rw [(informs_setIfcfg devState cfg).dhcpReqState, lowerUp_setIfcfg, getIPSetMode_setIfcfg]
      constructor
      · intro after _ static
        cases running : devState.dhcpReqState with
        | false => rfl
        | true => exact absurd static (after running).2
      · intro guard running
        refine ⟨(tended running).1, fun static => ?_⟩
        rw [guard up static] at running
        cases running
    · rw [if_neg up]
      exact iff_of_true tended fun isUp => absurd isUp up
  | onSuccess ifname result =>
    refine iff_of_true ?_ trivial
    dsimp only
    split
    · unfold Tended
      rw [(informs_remoteUpdateNetLinkInfo _).dhcpReqState, lowerUp_remoteUpdateNetLinkInfo]
      unfold getIPSetMode
      rw [(keepsConfiguration_remoteUpdateNetLinkInfo _).ifcfg]
      exact tended
    · exact tended

/-! ### The last link event -/

/-- Only a link event makes the device start or stop a client. -/
theorem dhcpReqState_deviceStep {dev : String} {action : Action}
    (absent : linkEvent dev action = none) (devState : DevInterfaceState) :
    (deviceStep dev devState action).dhcpReqState = devState.dhcpReqState := by
  unfold deviceStep
  split
  · rename_i about
    cases action with
    | handle info =>
      have event : linkEvent dev (.handle info) = some info := if_pos about
      rw [event] at absent
      cases absent
    | setIfaceConfig iface cfg =>
      dsimp only
      split
      · exact (informs_setIfcfg _ _).dhcpReqState
      · rfl
    | onSuccess ifname result =>
      dsimp only
      split
      · exact (informs_remoteUpdateNetLinkInfo _).dhcpReqState
      · rfl
  · rfl

/-- The last link event sets the carrier of its device; without one the client is left alone. -/
theorem linked_run (dev : String) (devState : DevInterfaceState) (actions : List Action) :
    (run (deviceStep dev) devState actions).lowerUp =
        ((lastLinkEvent dev actions).map NlkEventInfo.lowerUp).getD devState.lowerUp ∧
      (lastLinkEvent dev actions = none →
        (run (deviceStep dev) devState actions).dhcpReqState = devState.dhcpReqState) := by
  constructor
  · have flags := congrArg Prod.snd (links_run dev devState actions)
    cases last : lastLinkEvent dev actions with
    | none => rw [last] at flags; exact flags
    | some info => rw [last] at flags; exact flags
  · induction actions using List.reverseRecOn with
    | nil => exact fun _ => rfl
    | append_singleton actions action inductionHypothesis =>
      intro absent
      rw [lastLinkEvent_concat, Option.or_eq_none_iff] at absent
      rw [run_concat, dhcpReqState_deviceStep absent.1, inductionHypothesis absent.2]

theorem makeDevice_dhcpReqState (info : NlkEventInfo) (supplierId : Int) :
    (makeDevice info supplierId).dhcpReqState = false := by
  unfold makeDevice
  dsimp only
  split
  · rw [(informs_remoteUpdateNetSupplierInfo _).dhcpReqState,
      (dhcp_remoteRegisterNetSupplier _ _).2]
    exact (informs_setIfcfg {} { mode := .static }).dhcpReqState
  · rw [(dhcp_remoteRegisterNetSupplier _ _).2]
    exact (informs_setIfcfg {} { mode := .static }).dhcpReqState

/-! ### Every run -/

/-- After these actions no client is running on a device whose last link event had no carrier or
whose configuration is static. -/
def NoStrayClient (start : EthernetManagement) (actions : List Action) : Prop :=
  (run step start actions).AllDevices fun dev devState =>
    ((∃ info, lastLinkEvent dev actions = some info ∧ info.lowerUp = false) ∨
      devState.getIPSetMode = .static) → ¬ devState.ClientRunning dev

/-- The flags of the devices say whether there is a stray client. -/
theorem noStrayClient_iff (answers : Nat → Int) (linkInfos : List NlkEventInfo)
    (actions : List Action) :
    NoStrayClient (init answers linkInfos) actions ↔
      (run step (init answers linkInfos) actions).AllDevices fun _ devState =>
        Tended devState := by
  refine forall_congr' fun dev => forall_congr' fun devState => forall_congr' fun reached => ?_
  have turns : TakesTurns dev devState :=
    run_invariant step (AllDevices TakesTurns)
      (allDevices_step fun _ _ action turns => deviceStep_takesTurns turns action)
      (allDevices_init makeDevice_takesTurns answers linkInfos) actions dev devState reached
  rw [read_run, Option.map_eq_some_iff] at reached
  obtain ⟨made, known, rfl⟩ := reached
  obtain ⟨info, supplierId, rfl, rfl⟩ := init_read answers linkInfos known
  obtain ⟨lowerUp, untouched⟩ := linked_run info.iface (makeDevice info supplierId) actions
  dsimp only
  rw [turns.clientRunning_iff]
  constructor
  · intro noStray running
    refine ⟨?_, fun static => noStray (Or.inr static) running⟩
    cases last : lastLinkEvent info.iface actions with
    | none =>
      rw [untouched last, makeDevice_dhcpReqState] at running
      cases running
    | some event =>
      rw [lowerUp, last]
      cases carrier : event.lowerUp with
      | true => exact carrier
      | false => exact absurd running (noStray (Or.inl ⟨event, last, carrier⟩))
  · rintro tended (⟨event, last, lost⟩ | static) running
    · have carrier := (tended running).1
      rw [lowerUp, last] at carrier
      rw [show event.lowerUp = true from carrier] at lost
      cases lost
    · exact (tended running).2 static

/-- No client is ever left running exactly when no action of the run leaves one behind. -/
theorem noStrayClient_run (answers : Nat → Int) (linkInfos : List NlkEventInfo)
    (actions : List Action) :
    (∀ before after, actions = before ++ after →
        NoStrayClient (init answers linkInfos) before) ↔
      Guarded step (DeviceMeets LeavesNoClient) (init answers linkInfos) actions := by
  have idle : (init answers linkInfos).AllDevices fun _ devState => Tended devState := by
    refine allDevices_init (fun info supplierId running => ?_) answers linkInfos
    rw [makeDevice_dhcpReqState] at running
    cases running
  simp only [noStrayClient_iff]
  have anything (dev : String) (devState : DevInterfaceState) (action : Action) : True → True :=
    id
  exact always_allDevices_iff anything
    (fun devState action _ tended => tended_deviceStep_iff devState action tended)
    (fun _ _ _ => trivial) idle actions

/-- A configuration that becomes static leaves the client running, and so does the loss of the
carrier after it. -/
theorem static_mode_strays :
    let eth0 (flags : UInt64) : NlkEventInfo := { iface := "eth0", ifiFlags := flags }
    ¬ (∀ before after,
      [Action.setIfaceConfig "eth0" { mode := .dhcp }, .handle (eth0 0x10001),
        .setIfaceConfig "eth0" { mode := .static }, .handle (eth0 0x1)] = before ++ after →
      NoStrayClient (init (fun _ => 1001) [eth0 0x10001]) before) := by
  intro eth0 always
  have noStray := always _ [] (List.append_nil _).symm
  obtain ⟨device, reached, holds⟩ := Option.map_eq_some_iff.mp
    (show ((run step (init (fun _ => 1001) [eth0 0x10001])
      [.setIfaceConfig "eth0" { mode := .dhcp }, .handle (eth0 0x10001),
        .setIfaceConfig "eth0" { mode := .static }, .handle (eth0 0x1)]).devs.read "eth0").map
      (fun device => (device.getIPSetMode, decide (device.ClientRunning "eth0"))) =
        some (.static, true) by decide)
  obtain ⟨static, running⟩ := Prod.mk.inj holds
  exact noStray "eth0" device reached (Or.inr static) (of_decide_eq_true running)

end EthernetManagement

end NetManager
