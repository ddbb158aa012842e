/-
This file says what the Ethernet manager is for its clients: a book of interfaces. The book has a
record of every interface that the kernel listed at the start, with the up flag of its last link
event and the configuration that was last accepted. A configuration is accepted while the flag is
set. The list of active interfaces is the list of all records, whatever their flags.

The manager itself has devices with connection states, DHCP states and calls that they made. None
of these can be seen through the four requests.
-/

import NetManager.Ethernet.ActiveInterfaces
import NetManager.Ipc.EthernetService

namespace NetManager

open Library

/-! ### The book -/

/-- What clients can learn of an interface. -/
structure InterfaceRecord where
  up : Bool
  configuration : InterfaceConfiguration
deriving DecidableEq

/-- The records of the interfaces that are known. -/
abbrev InterfaceBook := String → Option InterfaceRecord

/-- The requests of `i_ethernet_service.h`. -/
inductive InterfaceRequest
  | setIfaceConfig (iface : String) (ic : InterfaceConfiguration)
  | getIfaceConfig (iface : String)
  | isActivate (iface : String)
  | getActivateInterfaces
deriving DecidableEq

/-- What a request does to the manager, when it does anything. -/
def InterfaceRequest.action? : InterfaceRequest → Option EthernetManagement.Action
  | .setIfaceConfig iface ic => some (.setIfaceConfig iface ic)
  | _ => none

/-- What a request is answered with. -/
inductive InterfaceAnswer
  | code (value : Int)
  | configuration (ic : Option InterfaceConfiguration)
  | interfaces (ifaces : List String)
deriving DecidableEq

namespace InterfaceBook

open EthernetManagement

/-- What an action makes of the record of an interface. -/
def recordStep (iface : String) (record : InterfaceRecord) : Action → InterfaceRecord
  | .handle info => if info.iface = iface then { record with up := info.up } else record
  | .setIfaceConfig name cfg =>
    if name = iface ∧ record.up = true then { record with configuration := cfg } else record
  | .onSuccess _ _ => record

/-- The book after an action. -/
def step (this : InterfaceBook) (action : Action) : InterfaceBook := fun iface =>
  (this iface).map fun record => recordStep iface record action

/-- The book of the interfaces that the kernel lists. Nothing is configured. -/
def ofLinks (linkInfos : List NlkEventInfo) : InterfaceBook := fun iface =>
  if iface = "" then none
  else (linkInfos.find? fun info => info.iface = iface).map fun info =>
    { up := info.up, configuration := { mode := .static } }

/-- What the book answers. -/
def Answers (this : InterfaceBook) : InterfaceRequest → InterfaceAnswer → Prop
  | .setIfaceConfig iface _, answer =>
    answer = .code (if (this iface).any InterfaceRecord.up then ethernetSuccess else ethernetError)
  | .getIfaceConfig iface, answer =>
    answer = .configuration ((this iface).map InterfaceRecord.configuration)
  | .isActivate iface, answer =>
    answer = .code ((this iface).elim ethernetError fun record => if record.up then 1 else 0)
  | .getActivateInterfaces, answer =>
    ∃ ifaces, answer = .interfaces ifaces ∧ ifaces.Pairwise (· < ·) ∧
      ∀ iface, iface ∈ ifaces ↔ (this iface).isSome = true

/-- A book has one answer to a request. -/
theorem Answers.unique {this : InterfaceBook} {request : InterfaceRequest}
    {first second : InterfaceAnswer} (firstAnswers : this.Answers request first)
    (secondAnswers : this.Answers request second) : first = second := by
  cases request with
  | setIfaceConfig iface ic => exact firstAnswers.trans secondAnswers.symm
  | getIfaceConfig iface => exact firstAnswers.trans secondAnswers.symm
  | isActivate iface => exact firstAnswers.trans secondAnswers.symm
  | getActivateInterfaces =>
    obtain ⟨ifaces, rfl, sorted, listed⟩ := firstAnswers
    obtain ⟨others, rfl, otherSorted, otherListed⟩ := secondAnswers
    have different {left right : String} (less : left < right) : left ≠ right := by
      rintro rfl
      exact String.lt_irrefl left less
    have sameMembers : ifaces.Perm others :=
      (List.perm_ext_iff_of_nodup (sorted.imp different) (otherSorted.imp different)).mpr
        fun iface => (listed iface).trans (otherListed iface).symm
    have apart (left right : String) (_ : left ∈ ifaces) (_ : right ∈ others)
        (less : left < right) (more : right < left) : left = right :=
      absurd more (String.lt_asymm less)
    exact congrArg InterfaceAnswer.interfaces
      (List.Perm.eq_of_pairwise apart sorted otherSorted sameMembers)

/-- The configurations in the book can be written. -/
def Fits (this : InterfaceBook) : Prop :=
  ∀ iface record, this iface = some record → record.configuration.ipStatic.ListFits

theorem Fits.step {this : InterfaceBook} (fits : this.Fits) {action : Action}
    (given : EthernetService.Fits action) : (this.step action).Fits := by
  intro iface record kept
  obtain ⟨before, known, rfl⟩ := Option.map_eq_some_iff.mp kept
  cases action with
  | handle info =>
    unfold recordStep
    dsimp only
    split
    · exact fits iface before known
    · exact fits iface before known
  | setIfaceConfig name cfg =>
    unfold recordStep
    dsimp only
    split
    · exact given name cfg rfl
    · exact fits iface before known
  | onSuccess ifname result => exact fits iface before known

theorem Fits.run {this : InterfaceBook} (fits : this.Fits) {actions : List Action}
    (given : ∀ action ∈ actions, EthernetService.Fits action) :
    (Library.run InterfaceBook.step this actions).Fits := by
  induction actions generalizing this with
  | nil => exact fits
  | cons action rest inductionHypothesis =>
    obtain ⟨head, tail⟩ := List.forall_mem_cons.mp given
    exact inductionHypothesis (fits.step head) tail

theorem fits_ofLinks (linkInfos : List NlkEventInfo) : (ofLinks linkInfos).Fits := by
  intro iface record kept
  unfold ofLinks at kept
  split at kept
  · cases kept
  · obtain ⟨info, _, rfl⟩ := Option.map_eq_some_iff.mp kept
    exact Nat.two_pow_pos 32

end InterfaceBook

/-! ### The manager keeps the book -/

namespace EthernetManagement

/-- The manager knows the interfaces of the book, with their flags and configurations. Each of its
devices is configured. -/
def Represents (this : EthernetManagement) (book : InterfaceBook) : Prop :=
  ∀ iface, (this.devs.read iface).map (fun devState => (devState.linkUp, devState.ifcfg)) =
    (book iface).map fun record => (record.up, some record.configuration)

/-- The device of an interface with a record. -/
theorem Represents.device {this : EthernetManagement} {book : InterfaceBook}
    (represents : this.Represents book) {iface : String} {record : InterfaceRecord}
    (known : book iface = some record) :
    ∃ devState, this.devs.read iface = some devState ∧ devState.linkUp = record.up ∧
      devState.ifcfg = some record.configuration := by
  have same := represents iface
  rw [known, Option.map_some] at same
  obtain ⟨devState, read, fields⟩ := Option.map_eq_some_iff.mp same
  obtain ⟨up, ifcfg⟩ := Prod.mk.inj fields
  exact ⟨devState, read, up, ifcfg⟩

/-- An interface without a record has no device. -/
theorem Represents.no_device {this : EthernetManagement} {book : InterfaceBook}
    (represents : this.Represents book) {iface : String} (unknown : book iface = none) :
    this.devs.read iface = none := by
  have same := represents iface
  rw [unknown, Option.map_none] at same
  exact Option.map_eq_none_iff.mp same

/-- What an action does to the flag and the configuration of a device is what it does to the
record of its interface. -/
theorem deviceStep_record {this : EthernetManagement} {iface : String}
    {devState : DevInterfaceState} (known : this.devs.read iface = some devState)
    {record : InterfaceRecord} (up : devState.linkUp = record.up)
    (ifcfg : devState.ifcfg = some record.configuration) (action : Action) :
    (deviceStep iface devState action).linkUp = (InterfaceBook.recordStep iface record action).up ∧
      (deviceStep iface devState action).ifcfg =
        some (InterfaceBook.recordStep iface record action).configuration := by
  have links := congrArg Prod.fst (links_deviceStep iface devState action)
  have configured := deviceStep_ifcfg known action
  rw [ifcfg] at configured
  cases action with
  | handle info =>
    refine ⟨links.trans ?_, configured.trans ?_⟩
    · unfold linkEvent InterfaceBook.recordStep
      dsimp only
      split
      · rfl
      · exact up
    · unfold InterfaceBook.recordStep
      dsimp only
      split
      · rfl
      · rfl
  | setIfaceConfig name cfg =>
    refine ⟨links.trans ?_, configured.trans ?_⟩
    · unfold InterfaceBook.recordStep
      dsimp only
      split
      · exact up
      · exact up
    · have accepted := this.setIfaceConfig_succeeds_iff name cfg
      unfold configuredBy InterfaceBook.recordStep
      dsimp only
      by_cases about : name = iface
      · subst about
        by_cases isUp : record.up = true
        · rw [if_pos ⟨rfl, accepted.mpr ⟨devState, known, up.trans isUp⟩⟩, if_pos ⟨rfl, isUp⟩,
            Option.some_or]
        · rw [if_neg, if_neg fun both => isUp both.2, Option.none_or]
          rintro ⟨_, succeeded⟩
          obtain ⟨other, found, linkUp⟩ := accepted.mp succeeded
          obtain rfl := Option.some.inj (found.symm.trans known)
          exact isUp (up.symm.trans linkUp)
      · rw [if_neg fun both => about both.1, if_neg fun both => about both.1, Option.none_or]
  | onSuccess ifname result => exact ⟨links.trans up, configured⟩

/-- A step of the manager is a step of the book. -/
theorem Represents.step {this : EthernetManagement} {book : InterfaceBook}
    (represents : this.Represents book) (action : Action) :
    (this.step action).Represents (book.step action) := by
  intro iface
  rw [read_step]
  unfold InterfaceBook.step
  cases known : book iface with
  | none =>
    rw [represents.no_device known]
    rfl
  | some record =>
    obtain ⟨devState, read, up, ifcfg⟩ := represents.device known
    obtain ⟨upAfter, ifcfgAfter⟩ := deviceStep_record read up ifcfg action
    rw [read]
    exact congrArg some (Prod.ext upAfter ifcfgAfter)

theorem Represents.run {this : EthernetManagement} {book : InterfaceBook}
    (represents : this.Represents book) (actions : List Action) :
    (Library.run EthernetManagement.step this actions).Represents
      (Library.run InterfaceBook.step book actions) := by
  induction actions generalizing this book with
  | nil => exact represents
  | cons action rest inductionHypothesis => exact inductionHypothesis (represents.step action)

/-- `Init` makes the book of the interfaces that the kernel lists. -/
theorem represents_init (answers : Nat → Int) (linkInfos : List NlkEventInfo) :
    (init answers linkInfos).Represents (.ofLinks linkInfos) := by
  intro iface
  unfold InterfaceBook.ofLinks
  by_cases named : iface = ""
  · have unknown : (init answers linkInfos).devs.read iface = none := by
      rw [← Option.not_isSome_iff_eq_none, known_init]
      exact fun known => known.1 named
    rw [if_pos named, unknown]
    rfl
  · have links := links_init answers linkInfos named
    rw [if_neg named]
    cases known : (init answers linkInfos).devs.read iface with
    | none =>
      rw [known, Option.map_none] at links
      rw [Option.map_eq_none_iff.mp links.symm]
      rfl
    | some devState =>
      have configured := getDevInterfaceCfg_init known
      unfold getDevInterfaceCfg at configured
      rw [known] at configured links
      obtain ⟨info, listed, same⟩ := Option.map_eq_some_iff.mp links.symm
      rw [listed]
      exact congrArg some (Prod.ext (congrArg Prod.fst same).symm configured)

/-! ### Answers -/

/-- The names in the list of active interfaces are in order, and each is there once. -/
theorem getActivateInterfaces_sorted (this : EthernetManagement) :
    this.getActivateInterfaces.Pairwise (· < ·) := by
  have transitive (first second third : String) (before : decide (first ≤ second) = true)
      (after : decide (second ≤ third) = true) : decide (first ≤ third) = true :=
    decide_eq_true (String.le_trans (of_decide_eq_true before) (of_decide_eq_true after))
  have total (first second : String) :
      (decide (first ≤ second) || decide (second ≤ first)) = true := by
    rw [Bool.or_eq_true, decide_eq_true_iff, decide_eq_true_iff]
    exact String.le_total first second
  have sorted := List.pairwise_mergeSort transitive total this.devs.keys
  refine (sorted.and this.getActivateInterfaces_nodup).imp fun {first second} both => ?_
  exact String.not_le.mp fun more =>
    both.2 (String.le_antisymm (of_decide_eq_true both.1) more)

/-- There are at most as many active interfaces as the kernel listed. -/
theorem length_getActivateInterfaces_le (answers : Nat → Int) (linkInfos : List NlkEventInfo)
    (actions : List Action) :
    (Library.run EthernetManagement.step (init answers linkInfos)
      actions).getActivateInterfaces.length ≤ linkInfos.length := by
  have listed : (Library.run EthernetManagement.step (init answers linkInfos)
      actions).getActivateInterfaces ⊆ linkInfos.map NlkEventInfo.iface := by
    intro iface member
    obtain ⟨_, info, listed, same⟩ :=
      (known_reached answers linkInfos actions iface).mp ((mem_getActivateInterfaces _ _).mp member)
    exact List.mem_map.mpr ⟨info, listed, same⟩
  have fewer := (List.subperm_of_subset (getActivateInterfaces_nodup _) listed).length_le
  rwa [List.length_map] at fewer

/-- What `EthernetService` answers. -/
def told (this : EthernetManagement) : InterfaceRequest → InterfaceAnswer
  | .setIfaceConfig iface ic => .code (this.updateDevInterfaceState iface ic).1
  | .getIfaceConfig iface => .configuration (this.getDevInterfaceCfg iface)
  | .isActivate iface => .code (this.isActivate iface)
  | .getActivateInterfaces => .interfaces this.getActivateInterfaces

/-- The manager answers as the book it keeps. -/
theorem Represents.answers {this : EthernetManagement} {book : InterfaceBook}
    (represents : this.Represents book) (request : InterfaceRequest) :
    book.Answers request (this.told request) := by
  cases request with
  | setIfaceConfig iface ic =>
    refine congrArg InterfaceAnswer.code ?_
    unfold updateDevInterfaceState
    cases known : book iface with
    | none =>
      rw [represents.no_device known]
      rfl
    | some record =>
      obtain ⟨devState, read, up, _⟩ := represents.device known
      rw [read]
      dsimp only
      rw [up]
      cases isUp : record.up with
      | false => simp [isUp]
      | true => simp [isUp]
  | getIfaceConfig iface =>
    refine congrArg InterfaceAnswer.configuration ?_
    unfold getDevInterfaceCfg
    cases known : book iface with
    | none =>
      rw [represents.no_device known]
      rfl
    | some record =>
      obtain ⟨devState, read, _, ifcfg⟩ := represents.device known
      rw [read]
      exact ifcfg
  | isActivate iface =>
    refine congrArg InterfaceAnswer.code ?_
    unfold isActivate
    cases known : book iface with
    | none =>
      rw [represents.no_device known]
      rfl
    | some record =>
      obtain ⟨devState, read, up, _⟩ := represents.device known
      rw [read]
      dsimp only
      rw [up]
      rfl
  | getActivateInterfaces =>
    refine ⟨this.getActivateInterfaces, rfl, this.getActivateInterfaces_sorted, fun iface => ?_⟩
    have same := congrArg Option.isSome (represents iface)
    rw [Option.isSome_map, Option.isSome_map] at same
    rw [mem_getActivateInterfaces, same]

/-- The manager after a request. -/
def after (this : EthernetManagement) (request : InterfaceRequest) : EthernetManagement :=
  request.action?.elim this this.step

end EthernetManagement

end NetManager
