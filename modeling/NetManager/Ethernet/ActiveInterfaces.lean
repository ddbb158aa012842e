/-
This file compares the two queries about active interfaces. `IsActivate` answers for one
interface with the up flag of its last link event. `GetActivateInterfaces` lists the names of
the device map, whatever the state of their links. So the list agrees with the queries exactly
while every known device is up.
-/

import NetManager.Ethernet.EthernetManagement

namespace NetManager

open Library

namespace EthernetManagement

/-! ### The two queries -/

/-- `EthernetManagement::IsActivate`. -/
def isActivate (this : EthernetManagement) (iface : String) : Int :=
  match this.devs.read iface with
  | none => ethernetError
  | some devState => if devState.linkUp then 1 else 0

/-- `EthernetManagement::GetActivateInterfaces`: the names in the order of the map. -/
def getActivateInterfaces (this : EthernetManagement) : List String :=
  this.devs.keys.mergeSort fun first second => decide (first ≤ second)

/-! ### The last link event -/

/-- What the manager was told last about an interface: the last link event after the start, or
else the record of the kernel's list that `Init` made the device of. -/
def lastReport (linkInfos : List NlkEventInfo) (actions : List Action) (iface : String) :
    Option NlkEventInfo :=
  (lastLinkEvent iface actions).or (linkInfos.find? fun info => info.iface = iface)

/-- The interface has a name, and the kernel listed it at the start. -/
def Listed (linkInfos : List NlkEventInfo) (iface : String) : Prop :=
  iface ≠ "" ∧ ∃ info ∈ linkInfos, info.iface = iface

/-- The last link event about the interface had the up flag. -/
def LastUp (linkInfos : List NlkEventInfo) (actions : List Action) (iface : String) : Prop :=
  ∃ event, lastReport linkInfos actions iface = some event ∧ event.up = true

/-- After the start with these interfaces and these actions, the list of active interfaces names
each interface that the query calls active once and no other, and these are the known devices
whose last link event had the up flag. -/
structure ActivesAgree (linkInfos : List NlkEventInfo) (actions : List Action)
    (this : EthernetManagement) : Prop where
  distinct : this.getActivateInterfaces.Nodup
  queried : ∀ iface, iface ∈ this.getActivateInterfaces ↔ this.isActivate iface = 1
  followed : ∀ iface, iface ∈ this.getActivateInterfaces ↔
    Listed linkInfos iface ∧ LastUp linkInfos actions iface

/-! ### What the queries read -/

theorem getActivateInterfaces_nodup (this : EthernetManagement) :
    this.getActivateInterfaces.Nodup :=
  (List.mergeSort_perm _ _).symm.nodup this.devs.nodupKeys

theorem mem_getActivateInterfaces (this : EthernetManagement) (iface : String) :
    iface ∈ this.getActivateInterfaces ↔ (this.devs.read iface).isSome = true := by
  rw [getActivateInterfaces, (List.mergeSort_perm _ _).mem_iff, Table.read, AList.lookup_isSome,
    AList.mem_keys]

theorem isActivate_eq_one_iff (this : EthernetManagement) (iface : String) :
    this.isActivate iface = 1 ↔
      (this.devs.read iface).map DevInterfaceState.linkUp = some true := by
  unfold isActivate
  cases this.devs.read iface with
  | none => simp [ethernetError]
  | some devState => simp

/-! ### Every state reached -/

variable (answers : Nat → Int) (linkInfos : List NlkEventInfo) (actions : List Action)

/-- The interfaces the manager knows are those the kernel listed. -/
theorem known_reached (iface : String) :
    ((run step (init answers linkInfos) actions).devs.read iface).isSome = true ↔
      Listed linkInfos iface := by
  rw [read_run, Option.isSome_map, known_init]
  rfl

/-- The flags the manager knows of an interface it knows are those it was told last. -/
theorem links_reached {iface : String} (listed : Listed linkInfos iface) :
    ∃ report, lastReport linkInfos actions iface = some report ∧
      ((run step (init answers linkInfos) actions).devs.read iface).map
        DevInterfaceState.links = some report.links := by
  obtain ⟨devState, known⟩ :=
    Option.isSome_iff_exists.mp ((known_init answers linkInfos iface).mpr listed)
  have made := links_init answers linkInfos listed.1
  rw [known, Option.map_some] at made
  rw [read_run, known, Option.map_some, Option.map_some, links_run, lastReport]
  cases lastLinkEvent iface actions with
  | some event => exact ⟨event, rfl, rfl⟩
  | none =>
    obtain ⟨report, found, same⟩ := Option.map_eq_some_iff.mp made.symm
    exact ⟨report, by rw [Option.none_or, found], congrArg some same.symm⟩

/-- `IsActivate` answers 1 for the known devices whose last report had the up flag. -/
theorem isActivate_reached (iface : String) :
    (run step (init answers linkInfos) actions).isActivate iface = 1 ↔
      Listed linkInfos iface ∧ LastUp linkInfos actions iface := by
  by_cases listed : Listed linkInfos iface
  · obtain ⟨report, last, flags⟩ := links_reached answers linkInfos actions listed
    obtain ⟨devState, known, same⟩ := Option.map_eq_some_iff.mp flags
    have up : devState.linkUp = report.up := congrArg Prod.fst same
    rw [isActivate_eq_one_iff, known, Option.map_some, Option.some.injEq, up,
      and_iff_right listed, LastUp, last]
    simp
  · have unknown : (run step (init answers linkInfos) actions).devs.read iface = none := by
      rw [← Option.not_isSome_iff_eq_none, known_reached]
      exact listed
    rw [isActivate_eq_one_iff, unknown]
    exact iff_of_false (fun found => by cases found) fun both => listed both.1

/-- In every state reached, the list of active interfaces agrees with the queries and the link
events exactly when the last link event of every known device had the up flag. -/
theorem activesAgree_iff :
    ActivesAgree linkInfos actions (run step (init answers linkInfos) actions) ↔
      ∀ iface, Listed linkInfos iface → LastUp linkInfos actions iface := by
  have member (iface : String) :
      iface ∈ (run step (init answers linkInfos) actions).getActivateInterfaces ↔
        Listed linkInfos iface := by
    rw [mem_getActivateInterfaces, known_reached]
  constructor
  · intro agree iface listed
    exact ((agree.followed iface).mp ((member iface).mpr listed)).2
  · intro up
    have active (iface : String) :
        Listed linkInfos iface ↔ Listed linkInfos iface ∧ LastUp linkInfos actions iface :=
      (and_iff_left_of_imp (up iface)).symm
    refine ⟨getActivateInterfaces_nodup _, fun iface => ?_, fun iface => ?_⟩
    · rw [member, isActivate_reached, ← active]
    · rw [member, ← active]

/-- An interface that is down is listed as active. -/
theorem interface_down_listed :
    ¬ ActivesAgree [{ iface := "eth0" }] []
      (run step (init (fun _ => 1001) [{ iface := "eth0" }]) [])
    := by
  intro agree
  have member : "eth0" ∈
      (run step (init (fun _ => 1001) [{ iface := "eth0" }]) []).getActivateInterfaces := by
    rw [mem_getActivateInterfaces]
    decide
  exact absurd ((agree.queried "eth0").mp member) (by decide)

end EthernetManagement

end NetManager
