/-
This file settles for which suppliers a device speaks. Its calls carry the id the registration in
`Init` was answered with, and that is an error code when the registration failed. Then the device
stays unregistered and reports no link state. But the check before link information is sent looks
for another state, so a device without a supplier sends link information as soon as a link event
or a DHCP result has some for it.
-/

import NetManager.Ethernet.Availability
import NetManager.Ethernet.StaticConfiguration
import NetManager.Ethernet.DhcpClient

namespace NetManager

open Library

/-- The call registers the device. -/
def SentCall.registers (sent : SentCall) : Bool :=
  match sent.call with
  | .registerNetSupplier _ _ _ => true
  | _ => false

namespace DevInterfaceState

/-- The suppliers the device spoke for, in order. -/
def suppliersNamed (this : DevInterfaceState) : List Int := this.sent.filterMap SentCall.supplierId

/-- The device speaks for nobody before it has registered, and afterwards only for the supplier
with which the registration was answered, when that is a valid id. -/
structure SpeaksForHeld (answer : Int) (this : DevInterfaceState) : Prop where
  registeredFirst : ∃ earlier registering later, this.sent = earlier ++ registering :: later ∧
    registering.registers = true ∧ ∀ call ∈ earlier, call.supplierId = none
  held : ∀ netSupplier ∈ this.suppliersNamed, minimumSupplierId < netSupplier ∧
    netSupplier = answer

/-! ### What a device says -/

/-- Calls were made, and those that name a supplier name the one of the device. -/
structure NamesOwn (before after : DevInterfaceState) : Prop where
  netSupplier : after.netSupplier = before.netSupplier
  sent : ∃ calls, after.sent = before.sent ++ calls ∧
    ∀ call ∈ calls, ∀ netSupplier, call.supplierId = some netSupplier →
      netSupplier = before.netSupplier

theorem Informs.namesOwn {before after : DevInterfaceState} (informs : Informs before after) :
    NamesOwn before after := by
  obtain ⟨calls, appended, informing⟩ := informs.sent
  exact ⟨informs.netSupplier, calls, appended, fun call member => (informing call member).2⟩

theorem NamesOwn.trans {first second third : DevInterfaceState} (earlier : NamesOwn first second)
    (later : NamesOwn second third) : NamesOwn first third := by
  have sent := later.sent
  rw [earlier.netSupplier] at sent
  exact ⟨later.netSupplier.trans earlier.netSupplier, appended_trans earlier.sent sent⟩

theorem namesOwn_send (this : DevInterfaceState) {call : DeviceCall}
    (silent : SentCall.supplierId ⟨this.connLinkState, this.ifcfg, call⟩ = none) :
    NamesOwn this (this.send call) := by
  refine ⟨rfl, appended_single this.sent fun netSupplier named => ?_⟩
  rw [silent] at named
  cases named

/-- Asking the DHCP service for something. -/
theorem namesOwn_dhcp (this : DevInterfaceState) {call : DeviceCall} (dhcpReqState : Bool)
    (silent : SentCall.supplierId ⟨this.connLinkState, this.ifcfg, call⟩ = none) :
    NamesOwn this { this.send call with dhcpReqState := dhcpReqState } :=
  ⟨rfl, (this.namesOwn_send silent).sent⟩

theorem NamesOwn.mem_suppliersNamed {before after : DevInterfaceState}
    (own : NamesOwn before after) {netSupplier : Int}
    (member : netSupplier ∈ after.suppliersNamed) :
    netSupplier ∈ before.suppliersNamed ∨ netSupplier = before.netSupplier := by
  obtain ⟨calls, appended, ownCalls⟩ := own.sent
  unfold suppliersNamed at member ⊢
  rw [appended, List.filterMap_append] at member
  rcases List.mem_append.mp member with old | new
  · exact Or.inl old
  · obtain ⟨call, made, named⟩ := List.mem_filterMap.mp new
    exact Or.inr (ownCalls call made netSupplier named)

/-- Sending link information names the supplier, unless the link is unavailable. -/
theorem suppliersNamed_remoteUpdateNetLinkInfo {this : DevInterfaceState}
    (available : this.connLinkState ≠ .linkUnavailable) (present : this.linkInfo ≠ none) :
    this.remoteUpdateNetLinkInfo.suppliersNamed = this.suppliersNamed ++ [this.netSupplier] := by
  rcases this.remoteUpdateNetLinkInfo_cases with ⟨unsent, _⟩ | ⟨info, _, _, sent⟩
  · exact absurd unsent (not_or.mpr ⟨available, present⟩)
  · rw [sent]
    exact List.filterMap_append

end DevInterfaceState

namespace EthernetManagement

open DevInterfaceState

/-! ### Every step -/

theorem updateDevice_namesOwn (devState : DevInterfaceState) (dev : String) (up lowerUp : Bool) :
    NamesOwn devState (updateDevice devState dev up lowerUp) := by
  have linked := (informs_linked devState up lowerUp).namesOwn
  refine linked.trans ?_
  unfold updateDevice
  dsimp only
  split
  · have updated := (informs_remoteUpdateNetSupplierInfo
      { devState with linkUp := up, lowerUp := lowerUp }).namesOwn
    refine updated.trans ?_
    split
    · exact (namesOwn_send _ rfl).trans (namesOwn_dhcp _ true rfl)
    · exact (informs_remoteUpdateNetLinkInfo _).namesOwn
  · refine NamesOwn.trans ?_ (informs_remoteUpdateNetSupplierInfo _).namesOwn
    split
    · exact namesOwn_dhcp _ false rfl
    · exact (Informs.refl _).namesOwn

theorem deviceStep_namesOwn (dev : String) (devState : DevInterfaceState) (action : Action) :
    NamesOwn devState (deviceStep dev devState action) := by
  unfold deviceStep
  split
  · cases action with
    | handle info => exact updateDevice_namesOwn devState dev info.up info.lowerUp
    | setIfaceConfig iface cfg =>
      dsimp only
      split
      · exact (informs_setIfcfg devState cfg).namesOwn
      · exact (Informs.refl _).namesOwn
    | onSuccess ifname result =>
      dsimp only
      split
      · exact ((informs_updateLinkInfoDhcp devState dev result).trans
          (informs_remoteUpdateNetLinkInfo _)).namesOwn
      · exact (Informs.refl _).namesOwn
  · exact (Informs.refl _).namesOwn

/-- The action sends the link information of a device whose link is not unavailable: a link event
with a carrier, unless it starts the DHCP client, and a DHCP result for a link that is up. -/
def sendsLinkInfo (devState : DevInterfaceState) : Action → Bool
  | .handle info => info.lowerUp && !(devState.getIPSetMode = .dhcp && !devState.dhcpReqState)
  | .setIfaceConfig _ _ => false
  | .onSuccess _ _ => devState.linkUp

/-- What an unregistered device says on a link event. -/
theorem suppliersNamed_updateDevice {devState : DevInterfaceState}
    (unregistered : devState.connLinkState = .unregistered) (present : devState.linkInfo ≠ none)
    (dev : String) (up lowerUp : Bool) :
    (updateDevice devState dev up lowerUp).suppliersNamed = devState.suppliersNamed ++
      if lowerUp && !(devState.getIPSetMode = .dhcp && !devState.dhcpReqState) then
        [devState.netSupplier]
      else [] := by
  let linked : DevInterfaceState := { devState with linkUp := up, lowerUp := lowerUp }
  have silent : linked.remoteUpdateNetSupplierInfo = linked := if_pos unregistered
  have available : linked.connLinkState ≠ .linkUnavailable := by
    rw [show linked.connLinkState = .unregistered from unregistered]
    exact fun same => by cases same
  have named (call : DeviceCall) (this : DevInterfaceState)
      (other : SentCall.supplierId ⟨this.connLinkState, this.ifcfg, call⟩ = none) :
      (this.send call).suppliersNamed = this.suppliersNamed := by
    unfold suppliersNamed send
    rw [List.filterMap_append, List.filterMap_cons_none other, List.filterMap_nil,
      List.append_nil]
  cases lowerUp with
  | true =>
    have linkedUp : updateDevice devState dev up true =
        if devState.getIPSetMode = .dhcp && !devState.dhcpReqState then
          { (linked.remoteUpdateNetSupplierInfo.send (.startDhcpClient dev false)).send
            (.getDhcpResult dev dhcpTimeout) with dhcpReqState := true }
        else linked.remoteUpdateNetSupplierInfo.remoteUpdateNetLinkInfo := rfl
    rw [linkedUp, silent, Bool.true_and]
    cases devState.getIPSetMode = .dhcp && !devState.dhcpReqState with
    | true => exact ((named _ _ rfl).trans (named _ _ rfl)).trans (List.append_nil _).symm
    | false => exact suppliersNamed_remoteUpdateNetLinkInfo available present
  | false =>
    have linkedDown : updateDevice devState dev up false =
        (if devState.getIPSetMode = .dhcp && devState.dhcpReqState then
          { linked.send (.stopDhcpClient dev false) with dhcpReqState := false }
        else linked).remoteUpdateNetSupplierInfo := rfl
    rw [linkedDown]
    split
    · have stopped : { linked.send (.stopDhcpClient dev false) with dhcpReqState := false
          }.remoteUpdateNetSupplierInfo = { linked.send (.stopDhcpClient dev false) with
          dhcpReqState := false } := if_pos unregistered
      rw [stopped]
      exact (named (.stopDhcpClient dev false) linked rfl).trans (List.append_nil _).symm
    · rw [silent]
      exact (List.append_nil _).symm

/-- What an unregistered device says in one step. -/
theorem suppliersNamed_deviceStep {devState : DevInterfaceState}
    (unregistered : devState.connLinkState = .unregistered) (present : devState.linkInfo ≠ none)
    {dev : String} {action : Action} (about : action.iface = dev) :
    (deviceStep dev devState action).suppliersNamed = devState.suppliersNamed ++
      if sendsLinkInfo devState action then [devState.netSupplier] else [] := by
  unfold deviceStep
  rw [if_pos about]
  cases action with
  | handle info => exact suppliersNamed_updateDevice unregistered present dev info.up info.lowerUp
  | setIfaceConfig iface cfg =>
    have unsent : (devState.setIfcfg cfg).suppliersNamed = devState.suppliersNamed := by
      unfold setIfcfg
      dsimp only
      split
      · rw [if_neg]
        · exact List.filterMap_append.trans (List.append_nil _)
        · show devState.connLinkState ≠ .linkAvailable
          rw [unregistered]
          exact fun same => by cases same
      · rfl
    dsimp only
    split
    · rw [unsent]
      exact (List.append_nil _).symm
    · exact (List.append_nil _).symm
  | onSuccess ifname result =>
    unfold sendsLinkInfo
    dsimp only
    split
    · have available : (devState.updateLinkInfoDhcp dev result).connLinkState ≠
          .linkUnavailable := by
        rw [show (devState.updateLinkInfoDhcp dev result).connLinkState = .unregistered from
          unregistered]
        exact fun same => by cases same
      exact suppliersNamed_remoteUpdateNetLinkInfo available (Option.some_ne_none _)
    · exact (List.append_nil _).symm

/-! ### The answer to the registration -/

/-- What a device keeps of its registration, in addition to the link it reports. -/
structure RegisteredWith (answer : Int) (this : DevInterfaceState) : Prop
    extends Tracks answer this where
  present : this.linkInfo ≠ none
  registeredFirst : ∃ earlier registering later, this.sent = earlier ++ registering :: later ∧
    registering.registers = true ∧ ∀ call ∈ earlier, call.supplierId = none
  own : ∀ netSupplier ∈ this.suppliersNamed, netSupplier = answer

theorem registeredFirst_trans {before after : DevInterfaceState} (own : NamesOwn before after)
    (first : ∃ earlier registering later, before.sent = earlier ++ registering :: later ∧
      registering.registers = true ∧ ∀ call ∈ earlier, call.supplierId = none) :
    ∃ earlier registering later, after.sent = earlier ++ registering :: later ∧
      registering.registers = true ∧ ∀ call ∈ earlier, call.supplierId = none := by
  obtain ⟨earlier, registering, later, split, registers, silent⟩ := first
  obtain ⟨calls, appended, _⟩ := own.sent
  refine ⟨earlier, registering, later ++ calls, ?_, registers, silent⟩
  rw [appended, split, List.append_assoc, List.cons_append]

theorem makeDevice_registeredWith (info : NlkEventInfo) (answer : Int) :
    RegisteredWith answer (makeDevice info answer) := by
  let named : DevInterfaceState := { ({} : DevInterfaceState).setIfcfg { mode := .static } with
    devName := info.iface, linkUp := info.up, lowerUp := info.lowerUp }
  have made : makeDevice info answer = if info.up && info.lowerUp then
      (named.remoteRegisterNetSupplier answer).remoteUpdateNetSupplierInfo
    else named.remoteRegisterNetSupplier answer := rfl
  have updated : NamesOwn (named.remoteRegisterNetSupplier answer) (makeDevice info answer) := by
    rw [made]
    split
    · exact (informs_remoteUpdateNetSupplierInfo _).namesOwn
    · exact (Informs.refl _).namesOwn
  refine ⟨makeDevice_tracks info answer, ?_, ?_, ?_⟩
  · rw [made]
    split
    · rw [(keepsConfiguration_remoteUpdateNetSupplierInfo _).linkInfo]
      exact Option.some_ne_none _
    · exact Option.some_ne_none _
  · refine registeredFirst_trans updated ⟨_, _, [], rfl, rfl, ?_⟩
    exact List.forall_mem_singleton.mpr rfl
  · intro netSupplier member
    rcases updated.mem_suppliersNamed member with old | new
    · cases old
    · exact new

theorem RegisteredWith.deviceStep {answer : Int} {devState : DevInterfaceState}
    (registered : RegisteredWith answer devState) (dev : String) (action : Action) :
    RegisteredWith answer (EthernetManagement.deviceStep dev devState action) := by
  have own := deviceStep_namesOwn dev devState action
  refine ⟨deviceStep_tracks registered.toTracks dev action, ?_,
    registeredFirst_trans own registered.registeredFirst, ?_⟩
  · unfold EthernetManagement.deviceStep
    split
    · cases action with
      | handle info =>
        rw [(keepsConfiguration_updateDevice devState dev info.up info.lowerUp).linkInfo]
        exact registered.present
      | setIfaceConfig iface cfg =>
        dsimp only
        split
        · rw [(devState.setIfcfg_keepsConfiguration cfg).linkInfo]
          dsimp only
          split
          · exact Option.some_ne_none _
          · exact registered.present
        · exact registered.present
      | onSuccess ifname result =>
        dsimp only
        split
        · rw [(keepsConfiguration_remoteUpdateNetLinkInfo _).linkInfo]
          exact Option.some_ne_none _
        · exact registered.present
    · exact registered.present
  · intro netSupplier member
    rcases own.mem_suppliersNamed member with old | new
    · exact registered.own netSupplier old
    · exact new.trans registered.netSupplier

/-- A device whose registration was answered with a valid id may say anything, any other device
must not speak. -/
theorem RegisteredWith.speaksForHeld_iff {answer : Int} {devState : DevInterfaceState}
    (registered : RegisteredWith answer devState) :
    SpeaksForHeld answer devState ↔
      minimumSupplierId < answer ∨ devState.suppliersNamed = [] := by
  constructor
  · intro speaks
    cases named : devState.suppliersNamed with
    | nil => exact Or.inr rfl
    | cons netSupplier rest =>
      obtain ⟨valid, same⟩ := speaks.held netSupplier (by rw [named]; exact List.mem_cons_self)
      exact Or.inl (same ▸ valid)
  · intro allowed
    refine ⟨registered.registeredFirst, fun netSupplier member => ?_⟩
    have own := registered.own netSupplier member
    rcases allowed with valid | silent
    · exact ⟨own ▸ valid, own⟩
    · rw [silent] at member
      cases member

theorem makeDevice_speaksForHeld (info : NlkEventInfo) (answer : Int) :
    SpeaksForHeld answer (makeDevice info answer) := by
  refine (makeDevice_registeredWith info answer).speaksForHeld_iff.mpr ?_
  by_cases valid : minimumSupplierId < answer
  · exact Or.inl valid
  · right
    let named : DevInterfaceState := { ({} : DevInterfaceState).setIfcfg { mode := .static } with
      devName := info.iface, linkUp := info.up, lowerUp := info.lowerUp }
    have silent : (named.remoteRegisterNetSupplier answer).remoteUpdateNetSupplierInfo =
        named.remoteRegisterNetSupplier answer := if_pos (if_neg valid)
    unfold makeDevice
    dsimp only
    split
    · exact congrArg suppliersNamed silent
    · rfl

/-- A step keeps a device honest exactly when it does not make an unregistered device speak. -/
theorem RegisteredWith.speaksForHeld_deviceStep {answer : Int} {devState : DevInterfaceState}
    (registered : RegisteredWith answer devState) (speaks : SpeaksForHeld answer devState)
    {dev : String} {action : Action} (about : action.iface = dev) :
    SpeaksForHeld answer (EthernetManagement.deviceStep dev devState action) ↔
      (devState.netSupplier ≤ minimumSupplierId → sendsLinkInfo devState action = false) := by
  rw [(registered.deviceStep dev action).speaksForHeld_iff, registered.netSupplier]
  by_cases valid : minimumSupplierId < answer
  · exact iff_of_true (Or.inl valid) fun failed => absurd valid (Int.not_lt.mpr failed)
  · have failed := Int.not_lt.mp valid
    have silent := (registered.speaksForHeld_iff.mp speaks).resolve_left valid
    rw [or_iff_right valid, imp_iff_right failed, suppliersNamed_deviceStep
      (registered.failed failed).1 registered.present about, silent, List.nil_append]
    cases sendsLinkInfo devState action with
    | true => exact iff_of_false (List.cons_ne_nil _ _) (Ne.symm Bool.false_ne_true)
    | false => exact iff_of_true rfl rfl

/-! ### Every run -/

/-- The registration of an interface, counted from the first. `Init` registers every interface that
has a name, and keeps the first of each name. -/
def registrationOf (linkInfos : List NlkEventInfo) (dev : String) : Nat :=
  (linkInfos.filter fun info => info.iface ≠ "").findIdx fun info => info.iface = dev

/-- A device that `Init` has made stays. -/
theorem foldl_addDevice_keeps (linkInfos : List NlkEventInfo) {dev : String}
    {devState : DevInterfaceState} (this : EthernetManagement)
    (known : this.devs.read dev = some devState) :
    (linkInfos.foldl addDevice this).devs.read dev = some devState := by
  refine List.foldlRecOn linkInfos addDevice
    (motive := fun this => this.devs.read dev = some devState) known ?_
  intro this known info _
  by_cases unnamed : info.iface = ""
  · rw [show this.addDevice info = this from if_pos unnamed, known]
  · rw [this.addDevice_read unnamed, known, Option.some_or]

/-- The devices `Init` adds to those that it has made. -/
theorem foldl_addDevice_read (linkInfos : List NlkEventInfo) {dev : String}
    {devState : DevInterfaceState} (this : EthernetManagement)
    (absent : this.devs.read dev = none)
    (known : (linkInfos.foldl addDevice this).devs.read dev = some devState) :
    ∃ info, info.iface = dev ∧ devState =
      makeDevice info (this.answers (this.registrations + registrationOf linkInfos dev)) := by
  induction linkInfos generalizing this with
  | nil =>
    rw [List.foldl_nil, absent] at known
    cases known
  | cons info rest inductionHypothesis =>
    rw [List.foldl_cons] at known
    unfold registrationOf
    by_cases unnamed : info.iface = ""
    · rw [List.filter_cons_of_neg (by simp [unnamed])]
      rw [show this.addDevice info = this from if_pos unnamed] at known
      exact inductionHypothesis this absent known
    · rw [List.filter_cons_of_pos (by simp [unnamed]), List.findIdx_cons]
      have added := this.addDevice_read unnamed dev
      rw [absent, Option.none_or] at added
      by_cases here : info.iface = dev
      · rw [if_pos here] at added
        rw [foldl_addDevice_keeps rest _ added] at known
        rw [decide_eq_true here, cond_true, Nat.add_zero]
        exact ⟨info, here, (Option.some.inj known).symm⟩
      · rw [if_neg here] at added
        rw [decide_eq_false here, cond_false]
        obtain ⟨found, sameName, made⟩ := inductionHypothesis _ added known
        have counted : this.addDevice info = { this with
            devs := (this.addDevice info).devs, registrations := this.registrations + 1 } := by
          unfold addDevice
          rw [if_neg unnamed]
        rw [counted] at made
        refine ⟨found, sameName, made.trans ?_⟩
        rw [Nat.add_right_comm, Nat.add_assoc]
        rfl

theorem init_read_answered (answers : Nat → Int) (linkInfos : List NlkEventInfo) {dev : String}
    {devState : DevInterfaceState}
    (known : (init answers linkInfos).devs.read dev = some devState) :
    ∃ info, info.iface = dev ∧
      devState = makeDevice info (answers (registrationOf linkInfos dev)) := by
  obtain ⟨info, named, made⟩ := foldl_addDevice_read linkInfos { answers := answers } rfl known
  rw [Nat.zero_add] at made
  exact ⟨info, named, made⟩

/-- Every device speaks only for the supplier that its registration was answered with. -/
def AllSpeakForHeld (answers : Nat → Int) (linkInfos : List NlkEventInfo)
    (this : EthernetManagement) : Prop :=
  ∀ dev devState, this.devs.read dev = some devState →
    SpeaksForHeld (answers (registrationOf linkInfos dev)) devState

/-- The action does not make a device whose registration failed send link information. -/
def KeepsSilent (this : EthernetManagement) (action : Action) : Prop :=
  ∀ devState, this.devs.read action.iface = some devState →
    devState.netSupplier ≤ minimumSupplierId → sendsLinkInfo devState action = false

/-- Every device keeps what its registration in `Init` was answered with. -/
def AllRegistered (answers : Nat → Int) (linkInfos : List NlkEventInfo)
    (this : EthernetManagement) : Prop :=
  ∀ dev devState, this.devs.read dev = some devState →
    RegisteredWith (answers (registrationOf linkInfos dev)) devState

/-- The devices of a run speak only for the suppliers they hold exactly as long as no device whose
registration failed is made to send link information. -/
theorem speakForHeld_run (answers : Nat → Int) (linkInfos : List NlkEventInfo)
    (actions : List Action) :
    Always step (AllSpeakForHeld answers linkInfos) (init answers linkInfos) actions ↔
      Guarded step KeepsSilent (init answers linkInfos) actions := by
  have registered : AllRegistered answers linkInfos (init answers linkInfos) := by
    intro dev devState known
    obtain ⟨info, _, rfl⟩ := init_read_answered answers linkInfos known
    exact makeDevice_registeredWith info _
  have speak : AllSpeakForHeld answers linkInfos (init answers linkInfos) := by
    intro dev devState known
    obtain ⟨info, _, rfl⟩ := init_read_answered answers linkInfos known
    exact makeDevice_speaksForHeld info _
  exact always_allDevices_iff
    (fun dev _ action registeredHere => registeredHere.deviceStep dev action)
    (fun _ _ registeredHere speaks => registeredHere.speaksForHeld_deviceStep speaks rfl)
    registered speak actions

/-- A device that could not be registered sends its link information for the supplier `-1` when
its link comes up again. -/
theorem unregistered_device_speaks :
    let eth0 (flags : UInt64) : NlkEventInfo := { iface := "eth0", ifiFlags := flags }
    let start := init (fun _ => -1) [eth0 0x1]
    ((run step start [.handle (eth0 0x10001)]).devs.read "eth0").map suppliersNamed =
        some [-1] ∧
      ¬ Always step (AllSpeakForHeld (fun _ => -1) [eth0 0x1]) start [.handle (eth0 0x10001)] := by
  intro eth0 start
  have named : ((run step start [.handle (eth0 0x10001)]).devs.read "eth0").map suppliersNamed =
      some [-1] := by decide
  refine ⟨named, fun always => ?_⟩
  obtain ⟨devState, reached, spoke⟩ := Option.map_eq_some_iff.mp named
  obtain ⟨valid, _⟩ := (always [.handle (eth0 0x10001)] [] rfl "eth0" devState reached).held (-1)
    (by rw [spoke]; exact List.mem_singleton_self _)
  exact absurd valid (by decide)

end EthernetManagement

end NetManager
