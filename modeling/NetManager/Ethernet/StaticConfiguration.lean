/-
This file proves that a static configuration reaches the connection service. A configuration sets
the link information of the device and is sent at once when the link is available; a link that
becomes available later sends it then, because the manager sends the link information right after
it has reported the link. Everything else that happens to a device keeps what it was configured
with, and sends only the link information it has.
-/

import NetManager.Ethernet.EthernetManagement

namespace NetManager

open Library

/-- The lists of the link information are the ones of a static configuration. -/
structure Derives (dev : String) (ipStatic : StaticConfiguration) (linkInfo : NetLinkInfo) :
    Prop where
  netAddrList : linkInfo.netAddrList = [ipStatic.ipAddr]
  routeList : linkInfo.routeList =
    [{ iface := dev, destination := ipStatic.route, gateway := ipStatic.gate }]
  dnsList : linkInfo.dnsList = ipStatic.dnsServers

namespace DevInterfaceState

theorem staticLinkInfo_derives (devName : String) (ipStatic : StaticConfiguration)
    (linkInfo : NetLinkInfo) :
    Derives devName ipStatic (staticLinkInfo devName ipStatic linkInfo) :=
  ⟨rfl, rfl, rfl⟩

/-! ### What keeps a configuration -/

/-- The device is configured as before, and the link information it sent is the one it has. -/
structure KeepsConfiguration (before after : DevInterfaceState) : Prop where
  devName : after.devName = before.devName
  ifcfg : after.ifcfg = before.ifcfg
  linkInfo : after.linkInfo = before.linkInfo
  sent : ∃ calls, after.sent = before.sent ++ calls ∧ ∀ call ∈ calls,
    call.ifcfg = before.ifcfg ∧ ∀ info, call.linkInfo = some info → before.linkInfo = some info

theorem KeepsConfiguration.refl (this : DevInterfaceState) : KeepsConfiguration this this :=
  ⟨rfl, rfl, rfl, appended_refl this.sent⟩

theorem KeepsConfiguration.trans {first second third : DevInterfaceState}
    (earlier : KeepsConfiguration first second) (later : KeepsConfiguration second third) :
    KeepsConfiguration first third := by
  have sent := later.sent
  rw [earlier.ifcfg, earlier.linkInfo] at sent
  exact ⟨later.devName.trans earlier.devName, later.ifcfg.trans earlier.ifcfg,
    later.linkInfo.trans earlier.linkInfo, appended_trans earlier.sent sent⟩

/-- A call that is not about link information. -/
theorem keepsConfiguration_send (this : DevInterfaceState) {call : DeviceCall}
    (other : SentCall.linkInfo ⟨this.connLinkState, this.ifcfg, call⟩ = none) :
    KeepsConfiguration this (this.send call) := by
  refine ⟨rfl, rfl, rfl, appended_single this.sent ⟨rfl, fun info found => ?_⟩⟩
  rw [other] at found
  cases found

/-- Asking the DHCP service for something. -/
theorem keepsConfiguration_dhcp (this : DevInterfaceState) {call : DeviceCall}
    (dhcpReqState : Bool)
    (other : SentCall.linkInfo ⟨this.connLinkState, this.ifcfg, call⟩ = none) :
    KeepsConfiguration this { this.send call with dhcpReqState := dhcpReqState } :=
  ⟨rfl, rfl, rfl, (this.keepsConfiguration_send other).sent⟩

/-- What `RemoteUpdateNetLinkInfo` does. -/
theorem remoteUpdateNetLinkInfo_cases (this : DevInterfaceState) :
    (this.connLinkState = .linkUnavailable ∨ this.linkInfo = none) ∧
      this.remoteUpdateNetLinkInfo = this ∨
    ∃ info, this.connLinkState ≠ .linkUnavailable ∧ this.linkInfo = some info ∧
      this.remoteUpdateNetLinkInfo = this.send (.updateNetLinkInfo this.netSupplier info) := by
  unfold remoteUpdateNetLinkInfo
  by_cases unavailable : this.connLinkState = .linkUnavailable
  · exact Or.inl ⟨Or.inl unavailable, if_pos unavailable⟩
  · rw [if_neg unavailable]
    cases this.linkInfo with
    | none => exact Or.inl ⟨Or.inr rfl, rfl⟩
    | some info => exact Or.inr ⟨info, unavailable, rfl, rfl⟩

theorem keepsConfiguration_remoteUpdateNetLinkInfo (this : DevInterfaceState) :
    KeepsConfiguration this this.remoteUpdateNetLinkInfo := by
  rcases this.remoteUpdateNetLinkInfo_cases with ⟨_, same⟩ | ⟨info, _, current, same⟩
  · rw [same]
    exact KeepsConfiguration.refl this
  · rw [same]
    exact ⟨rfl, rfl, rfl, appended_single this.sent ⟨rfl, fun _ found => current.trans found⟩⟩

theorem keepsConfiguration_remoteUpdateNetSupplierInfo (this : DevInterfaceState) :
    KeepsConfiguration this this.remoteUpdateNetSupplierInfo := by
  unfold remoteUpdateNetSupplierInfo
  split
  · exact KeepsConfiguration.refl this
  · refine KeepsConfiguration.trans ?_ (keepsConfiguration_send this.updateSupplierAvailable ?_)
    · exact ⟨rfl, rfl, rfl, (KeepsConfiguration.refl this).sent⟩
    · rfl

/-- `SetIfcfg` stores the configuration with its link information, and sends what was stored. -/
theorem setIfcfg_keepsConfiguration (this : DevInterfaceState) (cfg : InterfaceConfiguration) :
    KeepsConfiguration
      { this with
        ifcfg := some cfg
        linkInfo :=
          if cfg.mode = .static then
            some (staticLinkInfo this.devName cfg.ipStatic (this.linkInfo.getD {}))
          else this.linkInfo }
      (this.setIfcfg cfg) := by
  unfold setIfcfg
  dsimp only
  by_cases static : cfg.mode = .static
  · rw [if_pos static, if_pos static]
    have addressed : KeepsConfiguration
        ({ this with ifcfg := some cfg } : DevInterfaceState).updateLinkInfo
        ({ this with ifcfg := some cfg } : DevInterfaceState).updateLinkInfo.setIpAddr :=
      keepsConfiguration_send _ rfl
    split
    · exact addressed.trans (keepsConfiguration_remoteUpdateNetLinkInfo _)
    · exact addressed
  · rw [if_neg static, if_neg static]
    exact KeepsConfiguration.refl _

/-- Sending the link information of an available link makes it the last that was sent. -/
theorem remoteUpdateNetLinkInfo_last {this : DevInterfaceState} {info : NetLinkInfo}
    (current : this.linkInfo = some info)
    (available : this.remoteUpdateNetLinkInfo.connLinkState = .linkAvailable) :
    this.remoteUpdateNetLinkInfo.linkInfosSent.getLast? = some info := by
  rcases this.remoteUpdateNetLinkInfo_cases with ⟨unsent, same⟩ | ⟨_, _, found, same⟩
  · rw [same] at available
    rw [available, current] at unsent
    exact absurd unsent (by simp)
  · rw [current, Option.some.injEq] at found
    rw [same, linkInfosSent, send, List.filterMap_append, ← found]
    exact List.getLast?_concat

end DevInterfaceState

namespace EthernetManagement

open DevInterfaceState

theorem keepsConfiguration_updateDevice (devState : DevInterfaceState) (dev : String)
    (up lowerUp : Bool) : KeepsConfiguration devState (updateDevice devState dev up lowerUp) := by
  have linked : KeepsConfiguration devState { devState with linkUp := up, lowerUp := lowerUp } :=
    ⟨rfl, rfl, rfl, (KeepsConfiguration.refl devState).sent⟩
  refine linked.trans ?_
  unfold updateDevice
  dsimp only
  split
  · refine (keepsConfiguration_remoteUpdateNetSupplierInfo _).trans ?_
    split
    · exact (keepsConfiguration_send _ rfl).trans (keepsConfiguration_dhcp _ true rfl)
    · exact keepsConfiguration_remoteUpdateNetLinkInfo _
  · refine KeepsConfiguration.trans ?_ (keepsConfiguration_remoteUpdateNetSupplierInfo _)
    split
    · exact keepsConfiguration_dhcp _ false rfl
    · exact KeepsConfiguration.refl _

/-! ### Delivery -/

/-- The device has a static configuration, and the connection service knows it when the link is
available. -/
structure Delivered (dev : String) (cfg : InterfaceConfiguration) (this : DevInterfaceState) :
    Prop where
  static : cfg.mode = .static
  ifcfg : this.ifcfg = some cfg
  derives : ∃ info, this.linkInfo = some info ∧ Derives dev cfg.ipStatic info
  delivered : this.connLinkState = .linkAvailable → this.linkInfosSent.getLast? = this.linkInfo

/-- A configuration is delivered at once when the link is available. -/
theorem delivered_setIfcfg (this : DevInterfaceState) {cfg : InterfaceConfiguration}
    (static : cfg.mode = .static) : Delivered this.devName cfg (this.setIfcfg cfg) := by
  have keeps := this.setIfcfg_keepsConfiguration cfg
  have stored := keeps.linkInfo
  rw [if_pos static] at stored
  refine ⟨static, keeps.ifcfg, ⟨_, stored, staticLinkInfo_derives _ _ _⟩, ?_⟩
  rw [stored]
  unfold setIfcfg
  dsimp only
  rw [if_pos static]
  split
  · exact remoteUpdateNetLinkInfo_last rfl
  · rename_i unavailable
    exact fun available => absurd available unavailable

/-- A link whose carrier is lost is not available. -/
theorem unavailable_of_lowerUp {this : DevInterfaceState} (down : this.lowerUp = false) :
    this.remoteUpdateNetSupplierInfo.connLinkState ≠ .linkAvailable := by
  unfold remoteUpdateNetSupplierInfo
  split
  · rename_i unregistered
    rw [unregistered]
    exact fun same => by cases same
  · simp only [send, updateSupplierAvailable, down, Bool.and_false, Bool.false_eq_true, if_false]
    exact fun same => by cases same

/-- What a link event does to a device without DHCP. -/
theorem updateDevice_of_not_dhcp {devState : DevInterfaceState}
    (notDhcp : devState.getIPSetMode ≠ .dhcp) (dev : String) (up lowerUp : Bool) :
    updateDevice devState dev up lowerUp =
      let linked : DevInterfaceState := { devState with linkUp := up, lowerUp := lowerUp }
      if lowerUp then linked.remoteUpdateNetSupplierInfo.remoteUpdateNetLinkInfo
      else linked.remoteUpdateNetSupplierInfo := by
  have static : (devState.getIPSetMode = .dhcp) = False := eq_false notDhcp
  unfold updateDevice
  unfold getIPSetMode at static ⊢
  simp only [static, decide_false, Bool.false_and, Bool.false_eq_true, if_false]

/-- A configuration that waited is delivered when the link becomes available. -/
theorem Delivered.updateDevice {dev : String} {cfg : InterfaceConfiguration}
    {devState : DevInterfaceState} (before : Delivered dev cfg devState) (iface : String)
    (up lowerUp : Bool) :
    Delivered dev cfg (EthernetManagement.updateDevice devState iface up lowerUp) := by
  have keeps := keepsConfiguration_updateDevice devState iface up lowerUp
  obtain ⟨info, current, derives⟩ := before.derives
  refine ⟨before.static, keeps.ifcfg.trans before.ifcfg,
    ⟨info, keeps.linkInfo.trans current, derives⟩, ?_⟩
  rw [keeps.linkInfo, current]
  have notDhcp : devState.getIPSetMode ≠ .dhcp := by
    unfold getIPSetMode
    rw [before.ifcfg]
    dsimp only
    rw [before.static]
    decide
  rw [updateDevice_of_not_dhcp notDhcp]
  cases lowerUp with
  | true =>
    exact remoteUpdateNetLinkInfo_last
      ((keepsConfiguration_remoteUpdateNetSupplierInfo _).linkInfo.trans current)
  | false => exact fun available => absurd available (unavailable_of_lowerUp rfl)

/-! ### The last configuration -/

/-- A configuration is accepted when the device is known and its link is up. -/
theorem setIfaceConfig_succeeds_iff (this : EthernetManagement) (iface : String)
    (cfg : InterfaceConfiguration) :
    (this.perform (.setIfaceConfig iface cfg)).1 = ethernetSuccess ↔
      ∃ devState, this.devs.read iface = some devState ∧ devState.linkUp = true := by
  simp only [perform, updateDevInterfaceState]
  have refused : ethernetError ≠ ethernetSuccess := by decide
  cases known : this.devs.read iface with
  | none =>
    refine ⟨fun failed => absurd failed refused, ?_⟩
    rintro ⟨_, found, _⟩
    cases found
  | some devState =>
    by_cases up : devState.linkUp = true
    · simp only [up, Bool.not_true, Bool.false_eq_true, if_false, true_iff]
      exact ⟨devState, rfl, up⟩
    · simp only [up, Bool.not_false, if_true]
      refine ⟨fun failed => absurd failed refused, ?_⟩
      rintro ⟨_, ⟨⟩, isUp⟩
      exact absurd isUp up

/-- What the device of an interface is configured with by an action. -/
def configuredBy (dev : String) (this : EthernetManagement) (action : Action) :
    Option InterfaceConfiguration :=
  match action with
  | .setIfaceConfig iface cfg =>
    if iface = dev ∧ (this.perform action).1 = ethernetSuccess then some cfg else none
  | _ => none

/-- The last configuration that was accepted for an interface in a run. -/
def lastConfiguration (dev : String) : EthernetManagement → List Action →
    Option InterfaceConfiguration
  | _, [] => none
  | this, action :: rest =>
    (lastConfiguration dev (this.step action) rest).or (configuredBy dev this action)

/-- Only static configurations are set and no DHCP result arrives. -/
def OnlyStatic (action : Action) : Prop :=
  match action with
  | .handle _ => True
  | .setIfaceConfig _ cfg => cfg.mode = .static
  | .onSuccess _ _ => False

theorem deviceStep_devName (dev : String) (devState : DevInterfaceState) (action : Action) :
    (deviceStep dev devState action).devName = devState.devName := by
  unfold deviceStep
  split
  · cases action with
    | handle info =>
      exact (keepsConfiguration_updateDevice devState dev info.up info.lowerUp).devName
    | setIfaceConfig iface cfg =>
      dsimp only
      split
      · exact (devState.setIfcfg_keepsConfiguration cfg).devName
      · rfl
    | onSuccess ifname result =>
      dsimp only
      split
      · exact (keepsConfiguration_remoteUpdateNetLinkInfo _).devName
      · rfl
  · rfl

/-- Only an accepted request configures the device. -/
theorem configuredBy_eq_some {dev : String} {this : EthernetManagement} {action : Action}
    {cfg : InterfaceConfiguration} (configured : configuredBy dev this action = some cfg) :
    action = .setIfaceConfig dev cfg ∧
      ∃ devState, this.devs.read dev = some devState ∧ devState.linkUp = true := by
  cases action with
  | handle info => cases configured
  | setIfaceConfig iface requested =>
    unfold configuredBy at configured
    dsimp only at configured
    split at configured
    · rename_i accepted
      obtain ⟨rfl, succeeded⟩ := accepted
      cases configured
      exact ⟨rfl, (this.setIfaceConfig_succeeds_iff _ _).mp succeeded⟩
    · cases configured
  | onSuccess ifname result => cases configured

/-- A step that does not configure the device keeps what was delivered. -/
theorem Delivered.deviceStep {this : EthernetManagement} {dev : String}
    {devState : DevInterfaceState} (known : this.devs.read dev = some devState) {action : Action}
    (onlyStatic : OnlyStatic action) (unconfigured : configuredBy dev this action = none)
    {cfg : InterfaceConfiguration} (before : Delivered dev cfg devState) :
    Delivered dev cfg (EthernetManagement.deviceStep dev devState action) := by
  by_cases about : action.iface = dev
  · unfold EthernetManagement.deviceStep
    rw [if_pos about]
    cases action with
    | handle info => exact before.updateDevice dev info.up info.lowerUp
    | setIfaceConfig iface requested =>
      have down : ¬ devState.linkUp = true := by
        intro up
        have accepted := (this.setIfaceConfig_succeeds_iff iface requested).mpr
          ⟨devState, by rw [show iface = dev from about, known], up⟩
        rw [show configuredBy dev this (.setIfaceConfig iface requested) = some requested from
          if_pos ⟨about, accepted⟩] at unconfigured
        cases unconfigured
      dsimp only
      rw [if_neg down]
      exact before
    | onSuccess ifname result => exact onlyStatic.elim
  · rw [deviceStep_other about]
    exact before

/-- The device has what was last configured. -/
theorem delivered_run {this : EthernetManagement} {dev : String} {devState : DevInterfaceState}
    (known : this.devs.read dev = some devState) (named : devState.devName = dev)
    (actions : List Action) (onlyStatic : ∀ action ∈ actions, OnlyStatic action)
    (current : Option InterfaceConfiguration)
    (before : ∀ cfg, current = some cfg → Delivered dev cfg devState) (cfg : InterfaceConfiguration)
    (last : (lastConfiguration dev this actions).or current = some cfg) :
    Delivered dev cfg (run (deviceStep dev) devState actions) := by
  induction actions generalizing this devState current with
  | nil => exact before cfg last
  | cons action rest inductionHypothesis =>
    rw [lastConfiguration, Option.or_assoc] at last
    refine inductionHypothesis
      (by rw [read_step, known, Option.map_some]) ((deviceStep_devName _ _ _).trans named)
      (fun next member => onlyStatic next (List.mem_cons_of_mem _ member)) _ ?_ last
    intro requested here
    cases configured : configuredBy dev this action with
    | none =>
      rw [configured, Option.none_or] at here
      exact (before requested here).deviceStep known (onlyStatic action List.mem_cons_self)
        configured
    | some accepted =>
      rw [configured, Option.some_or, Option.some.injEq] at here
      obtain ⟨rfl, found, isKnown, up⟩ := configuredBy_eq_some configured
      rw [known, Option.some.injEq] at isKnown
      have static := onlyStatic _ List.mem_cons_self
      subst here isKnown named
      simp only [EthernetManagement.deviceStep, Action.iface, up, if_true]
      exact delivered_setIfcfg devState static

theorem makeDevice_devName (info : NlkEventInfo) (supplierId : Int) :
    (makeDevice info supplierId).devName = info.iface := by
  have registered (this : DevInterfaceState) :
      (this.remoteRegisterNetSupplier supplierId).devName = this.devName := by
    unfold remoteRegisterNetSupplier
    split <;> rfl
  unfold makeDevice
  dsimp only
  split
  · exact (keepsConfiguration_remoteUpdateNetSupplierInfo _).devName.trans (registered _)
  · exact registered _

/-- Every device has the name of its interface. -/
theorem devName_run (answers : Nat → Int) (linkInfos : List NlkEventInfo)
    (actions : List Action) {dev : String} {device : DevInterfaceState}
    (reached : (run step (init answers linkInfos) actions).devs.read dev = some device) :
    device.devName = dev := by
  rw [read_run] at reached
  obtain ⟨made, known, rfl⟩ := Option.map_eq_some_iff.mp reached
  obtain ⟨info, supplierId, rfl, rfl⟩ := init_read answers linkInfos known
  exact run_invariant _ (fun devState => devState.devName = info.iface)
    (fun devState action named => (deviceStep_devName _ devState action).trans named)
    (makeDevice_devName info supplierId) actions

/-- When only static configurations are set and no DHCP result arrives, the connection service
knows the last configuration of every available device. -/
theorem static_configuration_delivered (answers : Nat → Int) (linkInfos : List NlkEventInfo)
    {dev : String} {device : DevInterfaceState} {actions : List Action}
    (onlyStatic : ∀ action ∈ actions, OnlyStatic action) (cfg : InterfaceConfiguration)
    (last : lastConfiguration dev (init answers linkInfos) actions = some cfg)
    (reached : (run step (init answers linkInfos) actions).devs.read dev = some device)
    (available : device.connLinkState = .linkAvailable) :
    ∃ linkInfo, device.linkInfo = some linkInfo ∧
      device.linkInfosSent.getLast? = some linkInfo ∧ Derives dev cfg.ipStatic linkInfo := by
  rw [read_run] at reached
  obtain ⟨made, known, rfl⟩ := Option.map_eq_some_iff.mp reached
  obtain ⟨info, supplierId, rfl, rfl⟩ := init_read answers linkInfos known
  have delivered := delivered_run known (makeDevice_devName info supplierId) actions onlyStatic
    none (fun _ absent => by cases absent) cfg (by rw [last, Option.some_or])
  obtain ⟨linkInfo, current, derives⟩ := delivered.derives
  exact ⟨linkInfo, current, (delivered.delivered available).trans current, derives⟩

/-- A configuration that is set without a carrier is sent when the carrier comes. -/
theorem waiting_configuration_delivered :
    let eth0 (flags : UInt64) : NlkEventInfo := { iface := "eth0", ifiFlags := flags }
    let ipStatic : StaticConfiguration := { ipAddr := { address := "192.168.1.2" } }
    ((run step (init (fun _ => 1001) [eth0 0x1])
      [.setIfaceConfig "eth0" { mode := .static, ipStatic := ipStatic },
        .handle (eth0 0x10001)]).devs.read "eth0").map
      (fun device => device.linkInfosSent.getLast?.map NetLinkInfo.netAddrList) =
        some (some [ipStatic.ipAddr]) := by
  intro eth0 ipStatic
  obtain ⟨device, reached, available⟩ := Option.map_eq_some_iff.mp
    (show ((run step (init (fun _ => 1001) [eth0 0x1])
      [.setIfaceConfig "eth0" { mode := .static, ipStatic := ipStatic },
        .handle (eth0 0x10001)]).devs.read "eth0").map
      DevInterfaceState.connLinkState = some .linkAvailable by decide)
  obtain ⟨linkInfo, _, sent, derives⟩ := static_configuration_delivered _ _
    (by
      intro action member
      rcases List.mem_cons.mp member with rfl | member
      · rfl
      · rw [List.mem_singleton.mp member]
        exact trivial)
    { mode := .static, ipStatic := ipStatic } (by decide) reached available
  rw [reached, Option.map_some, sent, Option.map_some, derives.netAddrList]

end EthernetManagement

end NetManager
