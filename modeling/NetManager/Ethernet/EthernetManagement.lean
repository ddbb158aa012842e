/-
This file models the Ethernet manager: the devices it knows by the names of their interfaces,
and what it does with them when a link changes, when a client sets a configuration and when
DHCP has a result. All three act on one device, so a run of the manager is, for each device, a
run of that device alone.
-/

import Mathlib.Data.List.Induction
import NetManager.Ethernet.DevInterfaceState
import NetManager.Library.Run
import NetManager.Library.Table

namespace NetManager

open Library

/-- `NlkEventInfo` of `nlk_event_handle.h`. -/
structure NlkEventInfo where
  iface : String := ""
  ifiFlags : UInt64 := 0
deriving DecidableEq, Repr

namespace NlkEventInfo

/-- The flag `IFF_UP`. -/
def up (info : NlkEventInfo) : Bool := info.ifiFlags &&& 0x1 != 0

/-- The flag `IFF_LOWER_UP`. -/
def lowerUp (info : NlkEventInfo) : Bool := info.ifiFlags &&& 0x10000 != 0

/-- The two flags together. -/
def links (info : NlkEventInfo) : Bool × Bool := (info.up, info.lowerUp)

end NlkEventInfo

namespace DevInterfaceState

/-- What the device knows of the flags of its link. -/
def links (this : DevInterfaceState) : Bool × Bool := (this.linkUp, this.lowerUp)

@[simp] theorem links_remoteUpdateNetSupplierInfo (this : DevInterfaceState) :
    this.remoteUpdateNetSupplierInfo.links = this.links := by
  unfold remoteUpdateNetSupplierInfo
  split
  · rfl
  · rfl

@[simp] theorem links_remoteUpdateNetLinkInfo (this : DevInterfaceState) :
    this.remoteUpdateNetLinkInfo.links = this.links := by
  unfold remoteUpdateNetLinkInfo
  split
  · rfl
  · cases this.linkInfo with
    | none => rfl
    | some linkInfo => rfl

@[simp] theorem links_setIfcfg (this : DevInterfaceState) (ifcfg : InterfaceConfiguration) :
    (this.setIfcfg ifcfg).links = this.links := by
  unfold setIfcfg
  dsimp only
  split
  · split
    · exact links_remoteUpdateNetLinkInfo _
    · rfl
  · rfl

end DevInterfaceState

/-- `EthernetManagement` of `ethernet_management.h`, facing a connection service that answers the
registrations it makes. Its DHCP service is never null: the constructor makes it. -/
structure EthernetManagement where
  devs : Table String DevInterfaceState := ∅
  answers : Nat → Int
  registrations : Nat := 0

namespace EthernetManagement

open DevInterfaceState

/-- `ETHERNET_ERROR`. -/
def ethernetError : Int := -1

/-- `ETHERNET_SUCCESS`. -/
def ethernetSuccess : Int := 0

/-- `DHCP_TIMEOUT`. -/
def dhcpTimeout : Int := 60

/-! ### Starting -/

/-- The device `Init` makes of an interface. It is configured before it has a name. -/
def makeDevice (info : NlkEventInfo) (supplierId : Int) : DevInterfaceState :=
  let configured := ({} : DevInterfaceState).setIfcfg { mode := .static }
  let named := { configured with
    devName := info.iface, linkUp := info.up, lowerUp := info.lowerUp }
  let registered := named.remoteRegisterNetSupplier supplierId
  if info.up && info.lowerUp then registered.remoteUpdateNetSupplierInfo else registered

/-- What `Init` does with one interface. The map keeps the first device of a name. -/
def addDevice (this : EthernetManagement) (info : NlkEventInfo) : EthernetManagement :=
  if info.iface = "" then this
  else
    let devState := makeDevice info (this.answers this.registrations)
    { this with
      devs := if info.iface ∈ this.devs then this.devs else this.devs.store info.iface devState
      registrations := this.registrations + 1 }

/-- `EthernetManagement::Init`, for the interfaces the kernel lists. -/
def init (answers : Nat → Int) (linkInfos : List NlkEventInfo) : EthernetManagement :=
  linkInfos.foldl addDevice { answers := answers }

/-! ### Events and requests -/

/-- The part of `UpdateInterfaceState` that acts on the device. -/
def updateDevice (devState : DevInterfaceState) (dev : String) (up lowerUp : Bool) :
    DevInterfaceState :=
  let linked := { devState with linkUp := up, lowerUp := lowerUp }
  let mode := linked.getIPSetMode
  if lowerUp then
    let updated := linked.remoteUpdateNetSupplierInfo
    if mode = .dhcp && !linked.dhcpReqState then
      let started := (updated.send (.startDhcpClient dev false)).send
        (.getDhcpResult dev dhcpTimeout)
      { started with dhcpReqState := true }
    else updated.remoteUpdateNetLinkInfo
  else
    let stopped :=
      if mode = .dhcp && linked.dhcpReqState then
        { linked.send (.stopDhcpClient dev false) with dhcpReqState := false }
      else linked
    stopped.remoteUpdateNetSupplierInfo

/-- `EthernetManagement::UpdateInterfaceState`. -/
def updateInterfaceState (this : EthernetManagement) (dev : String) (up lowerUp : Bool) :
    EthernetManagement :=
  match this.devs.read dev with
  | none => this
  | some devState =>
    { this with devs := this.devs.store dev (updateDevice devState dev up lowerUp) }

/-- `EthernetManagement::Handle`. -/
def handle (this : EthernetManagement) (info : NlkEventInfo) : EthernetManagement :=
  this.updateInterfaceState info.iface info.up info.lowerUp

/-- `EthernetManagement::UpdateDevInterfaceState`. -/
def updateDevInterfaceState (this : EthernetManagement) (iface : String)
    (cfg : InterfaceConfiguration) : Int × EthernetManagement :=
  match this.devs.read iface with
  | none => (ethernetError, this)
  | some devState =>
    if !devState.linkUp then (ethernetError, this)
    else (ethernetSuccess, { this with devs := this.devs.store iface (devState.setIfcfg cfg) })

/-- `EthernetManagement::UpdateDevInterfaceLinkInfo`. -/
def updateDevInterfaceLinkInfo (this : EthernetManagement) (iface : String)
    (result : DhcpResult) : Int × EthernetManagement :=
  match this.devs.read iface with
  | none => (ethernetError, this)
  | some devState =>
    if !devState.linkUp then (ethernetError, this)
    else
      (ethernetSuccess, { this with
        devs := this.devs.store iface
          (devState.updateLinkInfoDhcp iface result).remoteUpdateNetLinkInfo })

/-! ### The state machine -/

/-- What can happen to the manager: a link event, a `SetIfaceConfig` request, a DHCP result. -/
inductive Action
  | handle (info : NlkEventInfo)
  | setIfaceConfig (iface : String) (cfg : InterfaceConfiguration)
  | onSuccess (ifname : String) (result : DhcpResult)
deriving DecidableEq, Repr

/-- One action: the code it returns, if it returns one, and the state after it. -/
def perform (this : EthernetManagement) : Action → Int × EthernetManagement
  | .handle info => (ethernetSuccess, this.handle info)
  | .setIfaceConfig iface cfg => this.updateDevInterfaceState iface cfg
  | .onSuccess ifname result => (ethernetSuccess, (this.updateDevInterfaceLinkInfo ifname result).2)

/-- The state after one action. -/
def step (this : EthernetManagement) (action : Action) : EthernetManagement :=
  (this.perform action).2

/-- The interface an action is about. -/
def Action.iface : Action → String
  | .handle info => info.iface
  | .setIfaceConfig iface _ => iface
  | .onSuccess ifname _ => ifname

/-! ### One device -/

/-- What an action does to the device of an interface. -/
def deviceStep (dev : String) (devState : DevInterfaceState) (action : Action) :
    DevInterfaceState :=
  if action.iface = dev then
    match action with
    | .handle info => updateDevice devState dev info.up info.lowerUp
    | .setIfaceConfig _ cfg => if devState.linkUp then devState.setIfcfg cfg else devState
    | .onSuccess _ result =>
      if devState.linkUp then (devState.updateLinkInfoDhcp dev result).remoteUpdateNetLinkInfo
      else devState
  else devState

theorem deviceStep_other {dev : String} {action : Action} (different : action.iface ≠ dev)
    (devState : DevInterfaceState) : deviceStep dev devState action = devState :=
  if_neg different

/-- A step leaves every device alone, or stores the step of the device it is about. -/
theorem step_cases (this : EthernetManagement) (action : Action) :
    ((this.step action).devs = this.devs ∧
      ∀ devState, this.devs.read action.iface = some devState →
        deviceStep action.iface devState action = devState) ∨
    ∃ devState, this.devs.read action.iface = some devState ∧
      (this.step action).devs =
        this.devs.store action.iface (deviceStep action.iface devState action) := by
  cases action with
  | handle info =>
    simp only [step, perform, handle, updateInterfaceState, deviceStep, Action.iface, if_true]
    cases known : this.devs.read info.iface with
    | none => exact Or.inl ⟨rfl, fun devState found => by cases found⟩
    | some devState => exact Or.inr ⟨devState, rfl, rfl⟩
  | setIfaceConfig iface cfg =>
    simp only [step, perform, updateDevInterfaceState, deviceStep, Action.iface, if_true]
    cases known : this.devs.read iface with
    | none => exact Or.inl ⟨rfl, fun devState found => by cases found⟩
    | some devState =>
      by_cases up : devState.linkUp = true
      · exact Or.inr ⟨devState, rfl, by simp only [up, Bool.not_true, Bool.false_eq_true, if_false,
          if_true]⟩
      · refine Or.inl ⟨by simp only [up, Bool.not_false, if_true], ?_⟩
        rintro found ⟨⟩
        exact if_neg up
  | onSuccess ifname result =>
    simp only [step, perform, updateDevInterfaceLinkInfo, deviceStep, Action.iface, if_true]
    cases known : this.devs.read ifname with
    | none => exact Or.inl ⟨rfl, fun devState found => by cases found⟩
    | some devState =>
      by_cases up : devState.linkUp = true
      · exact Or.inr ⟨devState, rfl, by simp only [up, Bool.not_true, Bool.false_eq_true, if_false,
          if_true]⟩
      · refine Or.inl ⟨by simp only [up, Bool.not_false, if_true], ?_⟩
        rintro found ⟨⟩
        exact if_neg up

/-- A step of the manager is a step of each device. -/
theorem read_step (this : EthernetManagement) (action : Action) (dev : String) :
    (this.step action).devs.read dev =
      (this.devs.read dev).map fun devState => deviceStep dev devState action := by
  by_cases about : action.iface = dev
  · subst about
    rcases this.step_cases action with ⟨same, unchanged⟩ | ⟨devState, known, stored⟩
    · rw [same]
      cases known : this.devs.read action.iface with
      | none => rfl
      | some devState => rw [Option.map_some, unchanged devState known]
    · rw [stored, Table.read_store, Function.update_self, known, Option.map_some]
  · rw [funext (deviceStep_other about), Option.map_id']
    rcases this.step_cases action with ⟨same, _⟩ | ⟨devState, _, stored⟩
    · rw [same]
    · rw [stored, Table.read_store, Function.update_of_ne (Ne.symm about)]

/-- A run of the manager is a run of each device. -/
theorem read_run (this : EthernetManagement) (actions : List Action) (dev : String) :
    (run step this actions).devs.read dev =
      (this.devs.read dev).map fun devState => run (deviceStep dev) devState actions := by
  rw [run_reading step (fun manager => manager.devs.read dev)
    (fun device action => device.map fun devState => deviceStep dev devState action)
    (fun manager action => manager.read_step action dev)]
  cases this.devs.read dev with
  | none =>
    refine run_invariant _ (fun device => device = none) ?_ rfl actions
    rintro _ action rfl
    rfl
  | some devState =>
    induction actions generalizing devState with
    | nil => rfl
    | cons action rest inductionHypothesis =>
      exact inductionHypothesis (deviceStep dev devState action)

/-- The devices after one more interface. -/
theorem addDevice_read (this : EthernetManagement) {info : NlkEventInfo}
    (named : info.iface ≠ "") (dev : String) :
    (this.addDevice info).devs.read dev = (this.devs.read dev).or
      (if info.iface = dev then some (makeDevice info (this.answers this.registrations))
      else none) := by
  unfold addDevice
  rw [if_neg named]
  dsimp only
  by_cases listed : info.iface ∈ this.devs
  · rw [if_pos listed]
    split
    · rename_i here
      obtain ⟨devState, known⟩ := Option.isSome_iff_exists.mp (AList.lookup_isSome.mpr listed)
      rw [← here, show this.devs.read info.iface = some devState from known, Option.some_or]
    · exact (Option.or_none).symm
  · rw [if_neg listed, Table.read_store]
    split
    · rename_i here
      rw [← here, Function.update_self,
        show this.devs.read info.iface = none from AList.lookup_eq_none.mpr listed, Option.none_or]
    · rename_i elsewhere
      rw [Function.update_of_ne (Ne.symm elsewhere), Option.or_none]

/-- Every device of the manager was made by `Init`, of an interface that has a name. -/
theorem init_made (answers : Nat → Int) (linkInfos : List NlkEventInfo) {dev : String}
    {devState : DevInterfaceState}
    (known : (init answers linkInfos).devs.read dev = some devState) :
    dev ≠ "" ∧ ∃ info ∈ linkInfos, ∃ supplierId, info.iface = dev ∧
      devState = makeDevice info supplierId := by
  have made := List.foldlRecOn linkInfos addDevice
    (motive := fun this => ∀ devState, this.devs.read dev = some devState →
      dev ≠ "" ∧ ∃ info ∈ linkInfos, ∃ supplierId, info.iface = dev ∧
        devState = makeDevice info supplierId)
    (b := { answers := answers }) (fun devState found => by cases found) ?_
  · exact made devState known
  · intro this made info member devState found
    unfold addDevice at found
    split at found
    · exact made devState found
    · rename_i named
      dsimp only at found
      split at found
      · exact made devState found
      · rw [Table.read_store, Function.update_apply] at found
        split at found
        · rename_i here
          exact ⟨here ▸ named, info, member, _, here.symm, (Option.some.inj found).symm⟩
        · exact made devState found

theorem init_read (answers : Nat → Int) (linkInfos : List NlkEventInfo) {dev : String}
    {devState : DevInterfaceState}
    (known : (init answers linkInfos).devs.read dev = some devState) :
    ∃ info supplierId, info.iface = dev ∧ devState = makeDevice info supplierId := by
  obtain ⟨_, info, _, supplierId, made⟩ := init_made answers linkInfos known
  exact ⟨info, supplierId, made⟩

/-! ### The flags of the link -/

theorem makeDevice_links (info : NlkEventInfo) (supplierId : Int) :
    (makeDevice info supplierId).links = info.links := by
  unfold makeDevice
  dsimp only
  split
  · exact links_remoteUpdateNetSupplierInfo _
  · rfl

theorem links_updateDevice (devState : DevInterfaceState) (dev : String) (up lowerUp : Bool) :
    (updateDevice devState dev up lowerUp).links = (up, lowerUp) := by
  unfold updateDevice
  dsimp only
  split
  · split
    · exact links_remoteUpdateNetSupplierInfo _
    · rw [links_remoteUpdateNetLinkInfo, links_remoteUpdateNetSupplierInfo]
      rfl
  · rw [links_remoteUpdateNetSupplierInfo]
    split
    · rfl
    · rfl

/-- The flags `Init` gives a device are those of the first record with its name. -/
theorem links_foldl_addDevice (linkInfos : List NlkEventInfo) (this : EthernetManagement)
    {dev : String} (named : dev ≠ "") :
    ((linkInfos.foldl addDevice this).devs.read dev).map links =
      ((this.devs.read dev).map links).or
        ((linkInfos.find? fun info => info.iface = dev).map NlkEventInfo.links) := by
  induction linkInfos generalizing this with
  | nil => rw [List.foldl_nil, List.find?_nil, Option.map_none, Option.or_none]
  | cons info rest inductionHypothesis =>
    rw [List.foldl_cons, inductionHypothesis, List.find?_cons]
    by_cases about : info.iface = dev
    · rw [addDevice_read this (by rw [about]; exact named), if_pos about, decide_eq_true about]
      cases this.devs.read dev with
      | none => exact congrArg (Option.or · _) (congrArg some (makeDevice_links info _))
      | some devState => rfl
    · rw [decide_eq_false about]
      by_cases nameless : info.iface = ""
      · rw [addDevice, if_pos nameless]
      · rw [addDevice_read this nameless, if_neg about, Option.or_none]

theorem links_init (answers : Nat → Int) (linkInfos : List NlkEventInfo) {dev : String}
    (named : dev ≠ "") :
    ((init answers linkInfos).devs.read dev).map links =
      (linkInfos.find? fun info => info.iface = dev).map NlkEventInfo.links := by
  rw [init, links_foldl_addDevice linkInfos _ named]
  rfl

/-- `Init` knows the interfaces that have a name. -/
theorem known_init (answers : Nat → Int) (linkInfos : List NlkEventInfo) (dev : String) :
    ((init answers linkInfos).devs.read dev).isSome = true ↔
      dev ≠ "" ∧ ∃ info ∈ linkInfos, info.iface = dev := by
  constructor
  · intro known
    obtain ⟨devState, found⟩ := Option.isSome_iff_exists.mp known
    obtain ⟨named, info, member, _, about, _⟩ := init_made answers linkInfos found
    exact ⟨named, info, member, about⟩
  · rintro ⟨named, info, member, about⟩
    have known := congrArg Option.isSome (links_init answers linkInfos named)
    rw [Option.isSome_map, Option.isSome_map] at known
    rw [known, List.find?_isSome]
    exact ⟨info, member, decide_eq_true about⟩

/-! ### Link events -/

/-- The link event an action brings for an interface. -/
def linkEvent (dev : String) : Action → Option NlkEventInfo
  | .handle info => if info.iface = dev then some info else none
  | _ => none

/-- The last link event for an interface in a run. -/
def lastLinkEvent (dev : String) (actions : List Action) : Option NlkEventInfo :=
  (actions.filterMap (linkEvent dev)).getLast?

theorem lastLinkEvent_concat (dev : String) (actions : List Action) (action : Action) :
    lastLinkEvent dev (actions ++ [action]) =
      (linkEvent dev action).or (lastLinkEvent dev actions) := by
  unfold lastLinkEvent
  rw [List.filterMap_append, List.getLast?_append]
  cases event : linkEvent dev action with
  | none => simp [event]
  | some info => simp [event]

/-- A link event sets the flags of its device, and nothing else does. -/
theorem links_deviceStep (dev : String) (devState : DevInterfaceState) (action : Action) :
    (deviceStep dev devState action).links =
      ((linkEvent dev action).map NlkEventInfo.links).getD devState.links := by
  by_cases about : action.iface = dev
  · unfold deviceStep
    rw [if_pos about]
    cases action with
    | handle info =>
      have event : linkEvent dev (.handle info) = some info := if_pos about
      rw [event]
      exact links_updateDevice devState dev info.up info.lowerUp
    | setIfaceConfig iface cfg =>
      dsimp only
      split
      · exact links_setIfcfg devState cfg
      · rfl
    | onSuccess ifname result =>
      dsimp only
      split
      · exact links_remoteUpdateNetLinkInfo _
      · rfl
  · rw [deviceStep_other about]
    cases action with
    | handle info =>
      rw [show linkEvent dev (.handle info) = none from if_neg about]
      rfl
    | setIfaceConfig | onSuccess => rfl

/-- The flags of a device are those of the last link event for it. -/
theorem links_run (dev : String) (devState : DevInterfaceState) (actions : List Action) :
    (run (deviceStep dev) devState actions).links =
      ((lastLinkEvent dev actions).map NlkEventInfo.links).getD devState.links := by
  induction actions using List.reverseRecOn with
  | nil => rfl
  | append_singleton actions action inductionHypothesis =>
    rw [run_concat, lastLinkEvent_concat, links_deviceStep, inductionHypothesis]
    cases linkEvent dev action with
    | none => rfl
    | some info => rfl

/-! ### All devices -/

/-- Something holds of every device, under the name of its interface. -/
def AllDevices (Holds : String → DevInterfaceState → Prop) (this : EthernetManagement) : Prop :=
  ∀ dev devState, this.devs.read dev = some devState → Holds dev devState

/-- The device an action is about, if it is known, meets a guard. -/
def DeviceMeets (guard : DevInterfaceState → Action → Prop) (this : EthernetManagement)
    (action : Action) : Prop :=
  ∀ devState, this.devs.read action.iface = some devState → guard devState action

theorem allDevices_step {Holds : String → DevInterfaceState → Prop}
    (preserved : ∀ dev devState action, Holds dev devState →
      Holds dev (deviceStep dev devState action))
    (this : EthernetManagement) (action : Action) (all : this.AllDevices Holds) :
    (this.step action).AllDevices Holds := by
  intro dev devState reached
  rw [read_step, Option.map_eq_some_iff] at reached
  obtain ⟨before, known, rfl⟩ := reached
  exact preserved dev before action (all dev before known)

/-- What holds of the devices `Init` makes holds of all devices after it. -/
theorem allDevices_init {Holds : String → DevInterfaceState → Prop}
    (made : ∀ info supplierId, Holds info.iface (makeDevice info supplierId))
    (answers : Nat → Int) (linkInfos : List NlkEventInfo) :
    (init answers linkInfos).AllDevices Holds := by
  intro dev devState known
  obtain ⟨info, supplierId, rfl, rfl⟩ := init_read answers linkInfos known
  exact made info supplierId

/-- When an action keeps the device it is about good exactly under a guard, all devices stay good
in a run exactly when every action meets the guard. -/
theorem always_allDevices_iff {Invariant Good : String → DevInterfaceState → Prop}
    {guard : DevInterfaceState → Action → Prop}
    (preserved : ∀ dev devState action, Invariant dev devState →
      Invariant dev (deviceStep dev devState action))
    (exactStep : ∀ devState action, Invariant action.iface devState →
      Good action.iface devState →
        (Good action.iface (deviceStep action.iface devState action) ↔ guard devState action))
    {this : EthernetManagement} (invariant : this.AllDevices Invariant)
    (initial : this.AllDevices Good) (actions : List Action) :
    Always step (AllDevices Good) this actions ↔
      Guarded step (DeviceMeets guard) this actions := by
  refine always_iff_guarded step (allDevices_step preserved) ?_ invariant initial actions
  intro this action invariant good
  constructor
  · intro after devState known
    refine (exactStep devState action (invariant _ _ known) (good _ _ known)).mp (after _ _ ?_)
    rw [read_step, known, Option.map_some]
  · intro meets dev devState reached
    rw [read_step, Option.map_eq_some_iff] at reached
    obtain ⟨before, known, rfl⟩ := reached
    by_cases about : action.iface = dev
    · subst about
      exact (exactStep before action (invariant _ _ known) (good _ _ known)).mpr
        (meets before known)
    · rw [deviceStep_other about]
      exact good dev before known

end EthernetManagement

end NetManager
