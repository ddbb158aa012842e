/-
This file settles whether link information names its own interface. The connection service reads
the interface from the name in the link information, and nothing in the Ethernet manager ever sets
that name. The routes are another matter: a configuration and a DHCP result write the name of the
interface into them, but `Init` configures a device before it names it. So whatever a device sends
has no name, and its routes have one unless they are still the ones of `Init`.
-/

import NetManager.Ethernet.StaticConfiguration

namespace NetManager

open Library

/-- The routes of the link information name the interface. -/
def NetLinkInfo.RoutesName (dev : String) (linkInfo : NetLinkInfo) : Prop :=
  ∀ route ∈ linkInfo.routeList, route.iface = dev

namespace DevInterfaceState

/-- The link information that `Init` gives a device, which has no name then. -/
def initialLinkInfo : NetLinkInfo := staticLinkInfo "" {} {}

/-- All link information that was sent names the interface, and so do its routes. -/
def NamesItself (dev : String) (this : DevInterfaceState) : Prop :=
  ∀ linkInfo ∈ this.linkInfosSent, linkInfo.ifaceName = dev ∧ linkInfo.RoutesName dev

/-- The routes of all link information that was sent name the interface. -/
def RoutesNameItself (dev : String) (this : DevInterfaceState) : Prop :=
  ∀ linkInfo ∈ this.linkInfosSent, linkInfo.RoutesName dev

/-! ### What is sent -/

@[simp] theorem linkInfosSent_send (this : DevInterfaceState) (call : DeviceCall) :
    (this.send call).linkInfosSent =
      this.linkInfosSent ++ (SentCall.linkInfo ⟨this.connLinkState, this.ifcfg, call⟩).toList := by
  unfold linkInfosSent send
  rw [List.filterMap_append]
  cases called : SentCall.linkInfo ⟨this.connLinkState, this.ifcfg, call⟩ <;> simp [called]

@[simp] theorem linkInfosSent_remoteUpdateNetSupplierInfo (this : DevInterfaceState) :
    this.remoteUpdateNetSupplierInfo.linkInfosSent = this.linkInfosSent := by
  unfold remoteUpdateNetSupplierInfo
  split
  · rfl
  · exact (linkInfosSent_send _ _).trans (List.append_nil _)

theorem linkInfosSent_remoteUpdateNetLinkInfo (this : DevInterfaceState) :
    this.remoteUpdateNetLinkInfo.linkInfosSent = this.linkInfosSent ++
      if this.connLinkState = .linkUnavailable then [] else this.linkInfo.toList := by
  rcases this.remoteUpdateNetLinkInfo_cases with ⟨unsent, same⟩ | ⟨info, available, current, same⟩
  · rw [same]
    rcases unsent with unavailable | absent
    · simp [unavailable]
    · simp [absent]
  · rw [same, if_neg available, current, linkInfosSent_send]
    rfl

/-- The link of a device is unavailable after its report when it is registered and not up. -/
theorem linkUnavailable_remoteUpdateNetSupplierInfo (this : DevInterfaceState) :
    this.remoteUpdateNetSupplierInfo.connLinkState = .linkUnavailable ↔
      this.connLinkState ≠ .unregistered ∧ (this.linkUp && this.lowerUp) = false := by
  unfold remoteUpdateNetSupplierInfo
  by_cases unregistered : this.connLinkState = .unregistered
  · simp [unregistered]
  · cases up : this.linkUp && this.lowerUp with
    | true => simp [unregistered, send, updateSupplierAvailable, up]
    | false => simp [unregistered, send, updateSupplierAvailable, up]

end DevInterfaceState

namespace EthernetManagement

open DevInterfaceState

/-- A link event with a carrier sends the link information of the device, unless it starts the
DHCP client or the link of a registered device is not up. -/
def sendsOnLink (devState : DevInterfaceState) (up lowerUp : Bool) : Bool :=
  lowerUp && !(devState.getIPSetMode = .dhcp && !devState.dhcpReqState) &&
    (devState.connLinkState = .unregistered || up)

/-- The action sends the link information of the device: a link event with a carrier, a static
configuration of an available link, or a DHCP result for a link that is up. -/
def reportsLinkInfo (devState : DevInterfaceState) : Action → Bool
  | .handle info => sendsOnLink devState info.up info.lowerUp
  | .setIfaceConfig _ cfg =>
    devState.linkUp && cfg.mode = .static && devState.connLinkState = .linkAvailable
  | .onSuccess _ _ => devState.linkUp && devState.connLinkState ≠ .linkUnavailable

theorem linkInfosSent_updateDevice (devState : DevInterfaceState) (dev : String)
    (up lowerUp : Bool) :
    (updateDevice devState dev up lowerUp).linkInfosSent = devState.linkInfosSent ++
      if sendsOnLink devState up lowerUp then devState.linkInfo.toList else [] := by
  cases lowerUp with
  | false =>
    have silent : sendsOnLink devState up false = false := rfl
    rw [silent, if_neg Bool.false_ne_true, List.append_nil]
    unfold updateDevice
    dsimp only
    rw [if_neg Bool.false_ne_true, linkInfosSent_remoteUpdateNetSupplierInfo]
    split
    · exact (linkInfosSent_send _ _).trans (List.append_nil _)
    · rfl
  | true =>
    have linkedMode : ({ devState with linkUp := up, lowerUp := true } :
        DevInterfaceState).getIPSetMode = devState.getIPSetMode := rfl
    unfold updateDevice sendsOnLink
    dsimp only
    rw [if_pos rfl, linkedMode, Bool.true_and]
    by_cases starts : (decide (devState.getIPSetMode = .dhcp) && !devState.dhcpReqState) = true
    · rw [if_pos starts, starts, Bool.not_true, Bool.false_and, if_neg Bool.false_ne_true]
      refine ((linkInfosSent_send _ _).trans (List.append_nil _)).trans ?_
      refine ((linkInfosSent_send _ _).trans (List.append_nil _)).trans ?_
      rw [linkInfosSent_remoteUpdateNetSupplierInfo, List.append_nil]
      rfl
    · rw [if_neg starts, Bool.not_eq_true _ |>.mp starts, linkInfosSent_remoteUpdateNetLinkInfo,
        linkInfosSent_remoteUpdateNetSupplierInfo,
        (keepsConfiguration_remoteUpdateNetSupplierInfo _).linkInfo]
      simp only [linkUnavailable_remoteUpdateNetSupplierInfo]
      cases up with
      | true => simp [linkInfosSent]
      | false =>
        by_cases unregistered : devState.connLinkState = .unregistered
        · simp [unregistered, linkInfosSent]
        · simp [unregistered, linkInfosSent]

theorem linkInfosSent_setIfcfg (devState : DevInterfaceState) (cfg : InterfaceConfiguration) :
    (devState.setIfcfg cfg).linkInfosSent = devState.linkInfosSent ++
      if cfg.mode = .static ∧ devState.connLinkState = .linkAvailable then
        (devState.setIfcfg cfg).linkInfo.toList
      else [] := by
  by_cases static : cfg.mode = .static
  · have stored := (devState.setIfcfg_keepsConfiguration cfg).linkInfo
    rw [if_pos static] at stored
    rw [stored]
    obtain ⟨addressed, made⟩ : ∃ addressed, addressed =
        ({ devState with ifcfg := some cfg } : DevInterfaceState).updateLinkInfo.setIpAddr :=
      ⟨_, rfl⟩
    have sameState : addressed.connLinkState = devState.connLinkState := by rw [made]; rfl
    have current : addressed.linkInfo =
        some (staticLinkInfo devState.devName cfg.ipStatic (devState.linkInfo.getD {})) := by
      rw [made]
      rfl
    have silent : addressed.linkInfosSent = devState.linkInfosSent := by
      rw [made]
      exact (linkInfosSent_send _ _).trans (List.append_nil _)
    unfold setIfcfg
    dsimp only
    rw [if_pos static, ← made, sameState]
    by_cases available : devState.connLinkState = .linkAvailable
    · rw [if_pos available, linkInfosSent_remoteUpdateNetLinkInfo, silent, current, sameState]
      simp [static, available]
    · rw [if_neg available, silent]
      simp [available]
  · unfold setIfcfg
    simp [static, linkInfosSent]

/-- A step sends the link information that it leaves the device with, or none. -/
theorem linkInfosSent_deviceStep (devState : DevInterfaceState) (action : Action) :
    (deviceStep action.iface devState action).linkInfosSent = devState.linkInfosSent ++
      if reportsLinkInfo devState action then
        (deviceStep action.iface devState action).linkInfo.toList
      else [] := by
  unfold deviceStep
  rw [if_pos rfl]
  cases action with
  | handle info =>
    have kept := keepsConfiguration_updateDevice devState info.iface info.up info.lowerUp
    dsimp only [Action.iface]
    rw [linkInfosSent_updateDevice, kept.linkInfo]
    rfl
  | setIfaceConfig iface cfg =>
    dsimp only [Action.iface, reportsLinkInfo]
    by_cases up : devState.linkUp = true
    · simp [up, linkInfosSent_setIfcfg devState cfg]
    · simp [up]
  | onSuccess ifname result =>
    dsimp only [Action.iface, reportsLinkInfo]
    by_cases up : devState.linkUp = true
    · have sameState : (devState.updateLinkInfoDhcp ifname result).connLinkState =
        devState.connLinkState := rfl
      have silent : (devState.updateLinkInfoDhcp ifname result).linkInfosSent =
        devState.linkInfosSent := rfl
      rw [if_pos up, linkInfosSent_remoteUpdateNetLinkInfo,
        (keepsConfiguration_remoteUpdateNetLinkInfo _).linkInfo, sameState, silent]
      by_cases unavailable : devState.connLinkState = .linkUnavailable
      · simp [unavailable]
      · simp [unavailable, up]
    · simp [up]

/-! ### What the link information says -/

/-- The device has link information. It has no name, and its routes name the interface unless it
is still the one of `Init`. -/
structure Unnamed (dev : String) (this : DevInterfaceState) : Prop where
  named : dev ≠ ""
  devName : this.devName = dev
  linkInfo : ∃ linkInfo, this.linkInfo = some linkInfo ∧ linkInfo.ifaceName = "" ∧
    (linkInfo.RoutesName dev ∨ linkInfo = initialLinkInfo)

theorem not_routesName_initialLinkInfo {dev : String} (named : dev ≠ "") :
    ¬ initialLinkInfo.RoutesName dev :=
  fun routes => named (routes _ (List.mem_singleton_self _)).symm

theorem routesName_staticLinkInfo (devName : String) (ipStatic : StaticConfiguration)
    (linkInfo : NetLinkInfo) : (staticLinkInfo devName ipStatic linkInfo).RoutesName devName := by
  intro route member
  rw [List.mem_singleton.mp member]

theorem routesName_dhcpLinkInfo (iface : String) (result : DhcpResult) (linkInfo : NetLinkInfo) :
    (dhcpLinkInfo iface result linkInfo).RoutesName iface := by
  have named (strRouter : String) (route : Route)
      (member : route ∈ dhcpRoute iface result strRouter) : route.iface = iface := by
    unfold dhcpRoute at member
    split at member
    · rw [List.mem_singleton.mp member]
    · cases member
  intro route member
  rcases List.mem_append.mp member with first | second
  · exact named _ route first
  · exact named _ route second

theorem unnamed_deviceStep (dev : String) (devState : DevInterfaceState) (action : Action)
    (unnamed : Unnamed dev devState) : Unnamed dev (deviceStep dev devState action) := by
  refine ⟨unnamed.named, (deviceStep_devName dev devState action).trans unnamed.devName, ?_⟩
  obtain ⟨linkInfo, current, noName, routes⟩ := unnamed.linkInfo
  unfold deviceStep
  split
  · cases action with
    | handle info =>
      rw [(keepsConfiguration_updateDevice devState dev info.up info.lowerUp).linkInfo]
      exact unnamed.linkInfo
    | setIfaceConfig iface cfg =>
      dsimp only
      split
      · rw [(devState.setIfcfg_keepsConfiguration cfg).linkInfo]
        dsimp only
        split
        · refine ⟨_, rfl, ?_, Or.inl (unnamed.devName ▸ routesName_staticLinkInfo _ _ _)⟩
          rw [current]
          exact noName
        · exact unnamed.linkInfo
      · exact unnamed.linkInfo
    | onSuccess ifname result =>
      dsimp only
      split
      · rw [(keepsConfiguration_remoteUpdateNetLinkInfo _).linkInfo]
        refine ⟨_, rfl, ?_, Or.inl (routesName_dhcpLinkInfo _ _ _)⟩
        rw [current]
        exact noName
      · exact unnamed.linkInfo
  · exact unnamed.linkInfo

/-- What `Init` makes of an interface with a name. It sends nothing but its report. -/
theorem makeDevice_unnamed (info : NlkEventInfo) (supplierId : Int) (named : info.iface ≠ "") :
    Unnamed info.iface (makeDevice info supplierId) ∧
      (makeDevice info supplierId).linkInfosSent = [] := by
  obtain ⟨registered, made, devName, linkInfo, silent⟩ :
      ∃ registered : DevInterfaceState,
        makeDevice info supplierId = (if info.up && info.lowerUp then
          registered.remoteUpdateNetSupplierInfo else registered) ∧
        registered.devName = info.iface ∧ registered.linkInfo = some initialLinkInfo ∧
        registered.linkInfosSent = [] :=
    ⟨_, rfl, rfl, rfl, rfl⟩
  have same : KeepsConfiguration registered (makeDevice info supplierId) ∧
      (makeDevice info supplierId).linkInfosSent = registered.linkInfosSent := by
    rw [made]
    split
    · exact ⟨keepsConfiguration_remoteUpdateNetSupplierInfo _,
        linkInfosSent_remoteUpdateNetSupplierInfo _⟩
    · exact ⟨KeepsConfiguration.refl _, rfl⟩
  refine ⟨⟨named, same.1.devName.trans devName, initialLinkInfo, same.1.linkInfo.trans linkInfo,
    rfl, Or.inr rfl⟩, same.2.trans silent⟩

theorem unnamed_init (answers : Nat → Int) (linkInfos : List NlkEventInfo) :
    (init answers linkInfos).AllDevices fun dev devState =>
      Unnamed dev devState ∧ devState.linkInfosSent = [] := by
  intro dev devState known
  obtain ⟨named, info, _, supplierId, rfl, rfl⟩ := init_made answers linkInfos known
  exact makeDevice_unnamed info supplierId named

/-! ### Every run -/

/-- The action sends no link information of the device. -/
def SendsNoLinkInfo (devState : DevInterfaceState) (action : Action) : Prop :=
  reportsLinkInfo devState action = false

/-- A link event does not find the link information of `Init`; a configuration and a DHCP result
replace it. -/
def Replaced (devState : DevInterfaceState) : Action → Prop
  | .handle _ => devState.linkInfo ≠ some initialLinkInfo
  | .setIfaceConfig _ _ => True
  | .onSuccess _ _ => True

/-- The link information of `Init` is not sent. -/
def SentReplaced (devState : DevInterfaceState) (action : Action) : Prop :=
  reportsLinkInfo devState action = true → Replaced devState action

/-- A step keeps all link information naming its interface exactly when it sends none. -/
theorem namesItself_deviceStep_iff {devState : DevInterfaceState} {action : Action}
    (unnamed : Unnamed action.iface devState) (names : NamesItself action.iface devState) :
    NamesItself action.iface (deviceStep action.iface devState action) ↔
      SendsNoLinkInfo devState action := by
  have after := unnamed_deviceStep _ _ action unnamed
  obtain ⟨linkInfo, current, noName, _⟩ := after.linkInfo
  unfold NamesItself SendsNoLinkInfo
  rw [linkInfosSent_deviceStep, current]
  cases reportsLinkInfo devState action with
  | false => simpa [NamesItself] using names
  | true =>
    simp only [if_true, Option.toList_some, Bool.true_eq_false, iff_false]
    intro allNamed
    have claimed := (allNamed linkInfo (by simp)).1
    exact unnamed.named (claimed.symm.trans noName)

/-- The link information that a step sends names the interface in its routes exactly when it
replaces that of `Init` or finds it replaced. -/
theorem routesName_deviceStep_iff {devState : DevInterfaceState} {action : Action}
    (unnamed : Unnamed action.iface devState) (reports : reportsLinkInfo devState action = true)
    {linkInfo : NetLinkInfo}
    (sent : (deviceStep action.iface devState action).linkInfo = some linkInfo) :
    linkInfo.RoutesName action.iface ↔ Replaced devState action := by
  unfold deviceStep at sent
  rw [if_pos rfl] at sent
  cases action with
  | handle info =>
    dsimp only [Action.iface] at sent
    rw [(keepsConfiguration_updateDevice devState info.iface info.up info.lowerUp).linkInfo] at sent
    obtain ⟨current, isCurrent, _, routes⟩ := unnamed.linkInfo
    obtain rfl : current = linkInfo := Option.some.inj (isCurrent.symm.trans sent)
    unfold Replaced
    rw [sent, ne_eq, Option.some.injEq]
    constructor
    · rintro named rfl
      exact not_routesName_initialLinkInfo unnamed.named named
    · exact routes.resolve_right
  | setIfaceConfig iface cfg =>
    simp only [reportsLinkInfo, Bool.and_eq_true, decide_eq_true_iff] at reports
    obtain ⟨⟨up, static⟩, _⟩ := reports
    dsimp only [Action.iface] at sent
    rw [if_pos up, (devState.setIfcfg_keepsConfiguration cfg).linkInfo] at sent
    dsimp only at sent
    rw [if_pos static, Option.some.injEq] at sent
    rw [← sent, unnamed.devName]
    exact iff_of_true (routesName_staticLinkInfo _ _ _) trivial
  | onSuccess ifname result =>
    simp only [reportsLinkInfo, Bool.and_eq_true] at reports
    dsimp only [Action.iface] at sent
    rw [if_pos reports.1, (keepsConfiguration_remoteUpdateNetLinkInfo _).linkInfo] at sent
    rw [← Option.some.inj sent]
    exact iff_of_true (routesName_dhcpLinkInfo _ _ _) trivial

/-- A step keeps the routes of all link information naming their interface exactly when it does
not send the link information of `Init`. -/
theorem routesNameItself_deviceStep_iff {devState : DevInterfaceState} {action : Action}
    (unnamed : Unnamed action.iface devState) (names : RoutesNameItself action.iface devState) :
    RoutesNameItself action.iface (deviceStep action.iface devState action) ↔
      SentReplaced devState action := by
  have after := unnamed_deviceStep _ _ action unnamed
  obtain ⟨linkInfo, current, _, _⟩ := after.linkInfo
  unfold RoutesNameItself SentReplaced
  rw [linkInfosSent_deviceStep, current]
  cases reports : reportsLinkInfo devState action with
  | false => simpa [RoutesNameItself] using names
  | true =>
    rw [← routesName_deviceStep_iff unnamed reports current]
    simp only [if_true, Option.toList_some, List.forall_mem_append, List.forall_mem_singleton,
      forall_const]
    exact and_iff_right names

/-- All link information of a run names its interface exactly when none is sent. -/
theorem namesItself_run (answers : Nat → Int) (linkInfos : List NlkEventInfo)
    (actions : List Action) :
    Always step (AllDevices NamesItself) (init answers linkInfos) actions ↔
      Guarded step (DeviceMeets SendsNoLinkInfo) (init answers linkInfos) actions := by
  have made := unnamed_init answers linkInfos
  refine always_allDevices_iff unnamed_deviceStep
    (fun _ _ unnamed names => namesItself_deviceStep_iff unnamed names)
    (fun dev devState known => (made dev devState known).1) ?_ actions
  intro dev devState known linkInfo member
  rw [(made dev devState known).2] at member
  cases member

/-- The first link information of an interface has no name. -/
theorem link_information_unnamed :
    let eth0 : NlkEventInfo := { iface := "eth0", ifiFlags := 0x10001 }
    ¬ Always step (AllDevices NamesItself) (init (fun _ => 1001) [eth0]) [.handle eth0] := by
  intro eth0 always
  have sent : ((run step (init (fun _ => 1001) [eth0]) [.handle eth0]).devs.read "eth0").map
      linkInfosSent = some [initialLinkInfo] := by decide
  obtain ⟨devState, reached, sentOnce⟩ := Option.map_eq_some_iff.mp sent
  have named := always [.handle eth0] [] rfl "eth0" devState reached initialLinkInfo
    (by rw [sentOnce]; exact List.mem_singleton_self _)
  exact absurd named.1 (by decide)

/-- The routes of all link information of a run name their interface exactly when none is sent
before the link information of `Init` was replaced. -/
theorem routesNameItself_run (answers : Nat → Int) (linkInfos : List NlkEventInfo)
    (actions : List Action) :
    Always step (AllDevices RoutesNameItself) (init answers linkInfos) actions ↔
      Guarded step (DeviceMeets SentReplaced) (init answers linkInfos) actions := by
  have made := unnamed_init answers linkInfos
  refine always_allDevices_iff unnamed_deviceStep
    (fun _ _ unnamed names => routesNameItself_deviceStep_iff unnamed names)
    (fun dev devState known => (made dev devState known).1) ?_ actions
  intro dev devState known linkInfo member
  rw [(made dev devState known).2] at member
  cases member

end EthernetManagement

end NetManager
