/-
This file proves when a static configuration survives. The manager takes a DHCP result for any
device whose link is up: it replaces the addresses and the routes of a static configuration and
adds to its DNS servers. Nothing else touches the link information of a static configuration, so
it lasts exactly as long as no result comes.
-/

import NetManager.Ethernet.StaticConfiguration

namespace NetManager

open Library

namespace DevInterfaceState

/-! ### A static configuration -/

/-- While the device has a static configuration, its link information is the one of the
configuration, and so is all link information it sent after its first calls. -/
structure KeepsStatic (dev : String) (sentBefore : Nat) (this : DevInterfaceState) : Prop where
  derives : ∀ cfg, this.ifcfg = some cfg → cfg.mode = .static →
    ∃ info, this.linkInfo = some info ∧ Derives dev cfg.ipStatic info
  sent : ∀ call ∈ this.sent.drop sentBefore, ∀ cfg, call.ifcfg = some cfg → cfg.mode = .static →
    ∀ info, call.linkInfo = some info → Derives dev cfg.ipStatic info

/-- Sending the link information it has keeps a static configuration. -/
theorem KeepsConfiguration.keepsStatic {dev : String} {sentBefore : Nat}
    {before after : DevInterfaceState} (same : KeepsConfiguration before after)
    (keeps : KeepsStatic dev sentBefore before) (present : sentBefore ≤ before.sent.length) :
    KeepsStatic dev sentBefore after := by
  obtain ⟨calls, appended, current⟩ := same.sent
  refine ⟨?_, ?_⟩
  · rw [same.ifcfg, same.linkInfo]
    exact keeps.derives
  · rw [appended, List.drop_append_of_le_length present]
    intro call member cfg configured static info sent
    rcases List.mem_append.mp member with member | member
    · exact keeps.sent call member cfg configured static info sent
    · obtain ⟨sameIfcfg, sameInfo⟩ := current call member
      obtain ⟨found, isCurrent, derives⟩ := keeps.derives cfg (sameIfcfg ▸ configured) static
      rw [sameInfo info sent, Option.some.injEq] at isCurrent
      rwa [isCurrent]

/-- Setting a configuration keeps it. -/
theorem keepsStatic_setIfcfg {this : DevInterfaceState} {sentBefore : Nat}
    (present : sentBefore ≤ this.sent.length) (cfg : InterfaceConfiguration)
    (sent : ∀ call ∈ this.sent.drop sentBefore, ∀ cfg, call.ifcfg = some cfg →
      cfg.mode = .static → ∀ info, call.linkInfo = some info →
        Derives this.devName cfg.ipStatic info) :
    KeepsStatic this.devName sentBefore (this.setIfcfg cfg) := by
  refine (this.setIfcfg_keepsConfiguration cfg).keepsStatic ⟨?_, sent⟩ present
  rintro _ ⟨⟩ static
  exact ⟨_, if_pos static, staticLinkInfo_derives _ _ _⟩

/-- A DHCP result adds two DNS servers to the ones of a static configuration. -/
theorem not_keepsStatic_updateLinkInfoDhcp {dev : String} {sentBefore : Nat}
    {this : DevInterfaceState} (keeps : KeepsStatic dev sentBefore this)
    {cfg : InterfaceConfiguration} (configured : this.ifcfg = some cfg)
    (static : cfg.mode = .static) (result : DhcpResult) :
    ¬ KeepsStatic dev sentBefore (this.updateLinkInfoDhcp dev result).remoteUpdateNetLinkInfo := by
  intro stillKeeps
  have same := keepsConfiguration_remoteUpdateNetLinkInfo (this.updateLinkInfoDhcp dev result)
  obtain ⟨info, current, derives⟩ := keeps.derives cfg configured static
  obtain ⟨after, found, stillDerives⟩ :=
    stillKeeps.derives cfg (same.ifcfg.trans configured) static
  rw [same.linkInfo, updateLinkInfoDhcp, current, Option.getD_some, Option.some.injEq] at found
  have servers := congrArg (fun linkInfo => linkInfo.dnsList.length) found
  simp only [dhcpLinkInfo, List.length_append, derives.dnsList, stillDerives.dnsList,
    List.length_cons, List.length_nil] at servers
  omega

/-- Without a static configuration a DHCP result breaks none. -/
theorem keepsStatic_updateLinkInfoDhcp {dev : String} {sentBefore : Nat}
    {this : DevInterfaceState} (keeps : KeepsStatic dev sentBefore this)
    (present : sentBefore ≤ this.sent.length) (notStatic : this.getIPSetMode ≠ .static)
    (result : DhcpResult) :
    KeepsStatic dev sentBefore (this.updateLinkInfoDhcp dev result).remoteUpdateNetLinkInfo := by
  have updated : KeepsStatic dev sentBefore (this.updateLinkInfoDhcp dev result) := by
    refine ⟨fun cfg configured static => absurd ?_ notStatic, keeps.sent⟩
    rw [getIPSetMode, show this.ifcfg = some cfg from configured]
    exact static
  exact (keepsConfiguration_remoteUpdateNetLinkInfo _).keepsStatic updated present

end DevInterfaceState

namespace EthernetManagement

open DevInterfaceState

/-! ### Every step -/

/-- A step keeps a static configuration unless it brings a DHCP result. -/
theorem keepsStatic_deviceStep_iff {dev : String} {sentBefore : Nat}
    {devState : DevInterfaceState} (named : devState.devName = dev)
    (present : sentBefore ≤ devState.sent.length) (configured : devState.ifcfg ≠ none)
    (keeps : KeepsStatic dev sentBefore devState) (action : Action) :
    KeepsStatic dev sentBefore (deviceStep dev devState action) ↔
      ∀ result, action = .onSuccess dev result → devState.linkUp = true →
        devState.getIPSetMode ≠ .static := by
  by_cases about : action.iface = dev
  · unfold deviceStep
    rw [if_pos about]
    cases action with
    | handle info =>
      refine iff_of_true ?_ (fun _ same => by cases same)
      exact (keepsConfiguration_updateDevice devState dev info.up info.lowerUp).keepsStatic
        keeps present
    | setIfaceConfig iface cfg =>
      refine iff_of_true ?_ (fun _ same => by cases same)
      dsimp only
      split
      · subst named
        exact keepsStatic_setIfcfg present cfg keeps.sent
      · exact keeps
    | onSuccess ifname result =>
      obtain rfl : ifname = dev := about
      dsimp only
      constructor
      · rintro stillKeeps _ ⟨⟩ up static
        obtain ⟨cfg, hasConfiguration⟩ := Option.ne_none_iff_exists'.mp configured
        rw [getIPSetMode, hasConfiguration] at static
        rw [if_pos up] at stillKeeps
        exact not_keepsStatic_updateLinkInfoDhcp keeps hasConfiguration static result stillKeeps
      · intro guard
        split
        · rename_i up
          exact keepsStatic_updateLinkInfoDhcp keeps present (guard result rfl up) result
        · exact keeps
  · rw [deviceStep_other about]
    refine iff_of_true keeps ?_
    rintro _ rfl _
    exact absurd rfl about

/-- The device has its name and a configuration, and made its first calls. -/
structure Configured (dev : String) (sentBefore : Nat) (devState : DevInterfaceState) : Prop where
  named : devState.devName = dev
  present : sentBefore ≤ devState.sent.length
  configured : devState.ifcfg ≠ none

theorem Configured.of_keepsConfiguration {dev : String} {sentBefore : Nat}
    {before after : DevInterfaceState} (same : KeepsConfiguration before after)
    (configured : Configured dev sentBefore before) : Configured dev sentBefore after := by
  obtain ⟨calls, appended, _⟩ := same.sent
  refine ⟨same.devName.trans configured.named, ?_, ?_⟩
  · rw [appended, List.length_append]
    exact Nat.le_add_right_of_le configured.present
  · rw [same.ifcfg]
    exact configured.configured

theorem configured_setIfcfg {dev : String} {sentBefore : Nat} {devState : DevInterfaceState}
    (named : devState.devName = dev) (present : sentBefore ≤ devState.sent.length)
    (cfg : InterfaceConfiguration) : Configured dev sentBefore (devState.setIfcfg cfg) :=
  Configured.of_keepsConfiguration (devState.setIfcfg_keepsConfiguration cfg)
    ⟨named, present, fun absent => by cases absent⟩

theorem Configured.deviceStep {dev : String} {sentBefore : Nat} {devState : DevInterfaceState}
    (configured : Configured dev sentBefore devState) (action : Action) :
    Configured dev sentBefore (EthernetManagement.deviceStep dev devState action) := by
  unfold EthernetManagement.deviceStep
  split
  · cases action with
    | handle info =>
      exact Configured.of_keepsConfiguration
        (keepsConfiguration_updateDevice devState dev info.up info.lowerUp) configured
    | setIfaceConfig iface cfg =>
      dsimp only
      split
      · exact configured_setIfcfg configured.named configured.present cfg
      · exact configured
    | onSuccess ifname result =>
      dsimp only
      split
      · exact Configured.of_keepsConfiguration (keepsConfiguration_remoteUpdateNetLinkInfo _)
          ⟨configured.named, configured.present, configured.configured⟩
      · exact configured
  · exact configured

/-! ### Every run -/

/-- The calls made for an interface so far. -/
def callsSent (this : EthernetManagement) (dev : String) : Nat :=
  match this.devs.read dev with
  | none => 0
  | some devState => devState.sent.length

/-- The static configuration of an interface is in force, and nothing else was sent for it after
its first calls. -/
def StaticInForce (dev : String) (sentBefore : Nat) (this : EthernetManagement) : Prop :=
  ∀ devState, this.devs.read dev = some devState → KeepsStatic dev sentBefore devState

/-- No DHCP result is taken for an interface that has a static configuration. -/
def NoLateResult (dev : String) (this : EthernetManagement) (action : Action) : Prop :=
  ∀ result, action = .onSuccess dev result → ∀ devState, this.devs.read dev = some devState →
    devState.linkUp = true → devState.getIPSetMode ≠ .static

/-- The interface is known and was configured. -/
def HasConfigured (dev : String) (sentBefore : Nat) (this : EthernetManagement) : Prop :=
  ∃ devState, this.devs.read dev = some devState ∧ Configured dev sentBefore devState

theorem hasConfigured_step {dev : String} {sentBefore : Nat} (this : EthernetManagement)
    (action : Action) (configured : HasConfigured dev sentBefore this) :
    HasConfigured dev sentBefore (this.step action) := by
  obtain ⟨devState, known, isConfigured⟩ := configured
  exact ⟨_, by rw [read_step, known, Option.map_some], isConfigured.deviceStep action⟩

/-- A step keeps a static configuration in force unless it takes a DHCP result. -/
theorem staticInForce_step {dev : String} {sentBefore : Nat} (this : EthernetManagement)
    (action : Action) (configured : HasConfigured dev sentBefore this)
    (inForce : StaticInForce dev sentBefore this) :
    StaticInForce dev sentBefore (this.step action) ↔ NoLateResult dev this action := by
  obtain ⟨devState, known, isConfigured⟩ := configured
  have exactStep := keepsStatic_deviceStep_iff isConfigured.named isConfigured.present
    isConfigured.configured (inForce devState known) action
  unfold StaticInForce NoLateResult
  rw [read_step, known]
  simpa using exactStep

/-- From a configuration that is accepted on, static configurations stay in force at every moment
exactly when no DHCP result is taken for the interface while it has one. -/
theorem static_in_force_iff (answers : Nat → Int) (linkInfos : List NlkEventInfo)
    (before after : List Action) {dev : String} {cfg : InterfaceConfiguration}
    (accepted : ((run step (init answers linkInfos) before).perform
      (.setIfaceConfig dev cfg)).1 = ethernetSuccess) :
    let configuring := run step (init answers linkInfos) before
    let configured := configuring.step (.setIfaceConfig dev cfg)
    Always step (StaticInForce dev (configuring.callsSent dev)) configured after ↔
      Guarded step (NoLateResult dev) configured after := by
  intro configuring configured
  obtain ⟨devState, known, up⟩ := (setIfaceConfig_succeeds_iff _ _ _).mp accepted
  have named : devState.devName = dev := devName_run answers linkInfos before known
  have sentBefore : configuring.callsSent dev = devState.sent.length := by
    unfold callsSent
    rw [known]
  have stored : configured.devs.read dev = some (devState.setIfcfg cfg) := by
    rw [read_step, known, Option.map_some]
    simp only [EthernetManagement.deviceStep, Action.iface, up, if_true]
  rw [sentBefore]
  refine always_iff_guarded step hasConfigured_step staticInForce_step
    ⟨_, stored, configured_setIfcfg named (Nat.le_refl _) cfg⟩ ?_ after
  intro found isKnown
  rw [stored, Option.some.injEq] at isKnown
  rw [← isKnown, ← named]
  refine keepsStatic_setIfcfg (Nat.le_refl _) cfg ?_
  rw [List.drop_length]
  exact fun call member => absurd member (by simp)

/-- A result that DHCP was asked for before the configuration became static overwrites it. -/
theorem late_result_overwrites :
    let eth0 : NlkEventInfo := { iface := "eth0", ifiFlags := 0x10001 }
    let start := init (fun _ => 1001) [eth0]
    let result : DhcpResult :=
      { iptype := 0, strYourCli := "10.0.0.7", strServer := "10.0.0.1", strRouter1 := "10.0.0.1"
        strRouter2 := "*", strDns1 := "10.0.0.1", strDns2 := "10.0.0.2" }
    (start.perform (.setIfaceConfig "eth0" { mode := .dhcp })).1 = ethernetSuccess ∧
      ¬ Always step (StaticInForce "eth0" (start.callsSent "eth0"))
        (start.step (.setIfaceConfig "eth0" { mode := .dhcp }))
        [.handle eth0,
          .setIfaceConfig "eth0"
            { mode := .static, ipStatic := { ipAddr := { address := "192.168.1.2" } } },
          .onSuccess "eth0" result] := by
  intro eth0 start result
  refine ⟨by decide, fun always => ?_⟩
  have inForce := always _ [] (List.append_nil _).symm
  obtain ⟨device, known, holds⟩ := Option.map_eq_some_iff.mp
    (show ((run step (start.step (.setIfaceConfig "eth0" { mode := .dhcp }))
      [.handle eth0,
        .setIfaceConfig "eth0"
          { mode := .static, ipStatic := { ipAddr := { address := "192.168.1.2" } } },
        .onSuccess "eth0" result]).devs.read "eth0").map
      (fun device => (device.ifcfg, device.linkInfo.map NetLinkInfo.netAddrList)) =
        some (some { mode := .static, ipStatic := { ipAddr := { address := "192.168.1.2" } } },
          some [{ address := "10.0.0.7" }]) by decide)
  obtain ⟨configured, overwritten⟩ := Prod.mk.inj holds
  obtain ⟨info, current, derives⟩ := (inForce device known).derives _ configured rfl
  rw [current, Option.map_some, derives.netAddrList] at overwritten
  exact absurd overwritten (by decide)

/-- Without a late result, a configuration that follows DHCP stays in force. -/
theorem configuration_after_dhcp_in_force :
    let eth0 : NlkEventInfo := { iface := "eth0", ifiFlags := 0x10001 }
    let start := init (fun _ => 1001) [eth0]
    Always step (StaticInForce "eth0" (start.callsSent "eth0"))
      (start.step (.setIfaceConfig "eth0" { mode := .dhcp }))
      [.handle eth0, .setIfaceConfig "eth0" { mode := .static }, .handle eth0] := by
  intro eth0 start
  refine (static_in_force_iff (fun _ => 1001) [eth0] [] _ (by decide)).mpr ?_
  rintro before action after split result rfl
  have listed : Action.onSuccess "eth0" result ∈
      [Action.handle eth0, .setIfaceConfig "eth0" { mode := .static }, .handle eth0] := by
    rw [split]
    exact List.mem_append_right before List.mem_cons_self
  simp at listed

end EthernetManagement

end NetManager
