/-
This file settles which link changes are lost while the Ethernet service starts. `OnStart` starts
the listener, whose socket collects the changes of the kernel from then on, takes a snapshot of
the flags into the devices, and registers the manager with the listener last. The listener does
not wait for that: what it takes from the socket earlier, it hands to nobody. So a change that
comes after the snapshot is lost when the listener is faster than `OnStart`, and the device keeps
the old flags until the next change.
-/

import NetManager.Ethernet.EthernetManagement
import Mathlib.Logic.Function.Iterate

namespace NetManager

open Library

/-- How far `OnStart` has come. -/
inductive StartPhase
  | stopped
  | listening
  | initialised
  | running
deriving DecidableEq, Repr

/-- `EthernetService` of `ethernet_service.h` while it starts: the flags the kernel has for each
Ethernet link, the messages in the socket of the listener, and the handlers in `nlkHandles_`, each
of which is the Ethernet manager. -/
structure EthernetServiceStart where
  phase : StartPhase := .stopped
  kernel : Table String UInt64
  queue : List NlkEventInfo := []
  nlkHandles : Nat := 0
  ethManagement : EthernetManagement

namespace EthernetServiceStart

open EthernetManagement DevInterfaceState

/-! ### Starting -/

/-- The links the kernel lists. -/
def linkInfos (kernel : Table String UInt64) : List NlkEventInfo :=
  kernel.entries.map fun link => { iface := link.1, ifiFlags := link.2 }

/-- The next step of `EthernetService::OnStart`: `nlkRtnl_.Init`, `ethManagement_->Init` and
`ethManagement_->RegisterNlk`. -/
def onStart (this : EthernetServiceStart) : EthernetServiceStart :=
  match this.phase with
  | .stopped => { this with phase := .listening }
  | .listening => { this with
      phase := .initialised
      ethManagement := EthernetManagement.init this.ethManagement.answers
        (linkInfos this.kernel) }
  | .initialised => { this with phase := .running, nlkHandles := this.nlkHandles + 1 }
  | .running => this

/-- The kernel changes the flags of a link, and tells the socket when it is bound. -/
def change (this : EthernetServiceStart) (info : NlkEventInfo) : EthernetServiceStart :=
  { this with
    kernel := this.kernel.store info.iface info.ifiFlags
    queue := if this.phase = .stopped then this.queue else this.queue ++ [info] }

/-- `NetLinkRtnl::ProcessIfInfoMsg`: every handler gets the message. -/
def processIfInfoMsg (this : EthernetServiceStart) (info : NlkEventInfo) : EthernetServiceStart :=
  { this with
    ethManagement :=
      Nat.iterate (fun manager => manager.handle info) this.nlkHandles this.ethManagement }

/-- `NetLinkRtnl::NetLinkHandle`, when there is a message in the socket. -/
def netLinkHandle (this : EthernetServiceStart) : EthernetServiceStart :=
  match this.queue with
  | [] => this
  | info :: rest => { this with queue := rest }.processIfInfoMsg info

/-! ### The state machine -/

/-- Who takes the next step: `OnStart`, the kernel or the listener thread. -/
inductive Action
  | onStart
  | change (info : NlkEventInfo)
  | netLinkHandle
deriving DecidableEq, Repr

/-- The state after one step. -/
def step (this : EthernetServiceStart) : Action → EthernetServiceStart
  | .onStart => this.onStart
  | .change info => this.change info
  | .netLinkHandle => this.netLinkHandle

/-- The listener waits, or takes the first message. -/
theorem netLinkHandle_cases (this : EthernetServiceStart) :
    this.queue = [] ∧ this.netLinkHandle = this ∨
      ∃ info rest, this.queue = info :: rest ∧
        this.netLinkHandle = { this with queue := rest }.processIfInfoMsg info := by
  unfold netLinkHandle
  cases this.queue with
  | nil => exact Or.inl ⟨rfl, rfl⟩
  | cons info rest => exact Or.inr ⟨info, rest, rfl, rfl⟩

@[simp] theorem phase_netLinkHandle (this : EthernetServiceStart) :
    this.netLinkHandle.phase = this.phase := by
  rcases this.netLinkHandle_cases with ⟨_, same⟩ | ⟨info, rest, _, same⟩
  · rw [same]
  · rw [same]
    rfl

/-- The service before `OnStart`. -/
def before (answers : Nat → Int) (kernel : Table String UInt64) : EthernetServiceStart :=
  { kernel := kernel, ethManagement := { answers := answers } }

/-- Once `OnStart` has finished and the socket is empty, the devices know the flags of the
kernel. -/
def NoChangeLost (this : EthernetServiceStart) : Prop :=
  this.phase = .running → this.queue = [] →
    this.ethManagement.AllDevices fun dev devState =>
      ∃ flags, this.kernel.read dev = some flags ∧
        devState.links = NlkEventInfo.links ⟨dev, flags⟩

/-! ### What the queue will do to a device -/

/-- The flags of a link after the messages in a queue. -/
def linksAfter (queue : List NlkEventInfo) (dev : String) (links : Bool × Bool) : Bool × Bool :=
  queue.foldl (fun links info => if info.iface = dev then info.links else links) links

/-- Once all messages in the socket are handled, the devices will know the flags of the kernel. -/
def Tracked (this : EthernetServiceStart) : Prop :=
  this.ethManagement.AllDevices fun dev devState =>
    ∃ flags, this.kernel.read dev = some flags ∧
      linksAfter this.queue dev devState.links = NlkEventInfo.links ⟨dev, flags⟩

@[simp] theorem linksAfter_nil (dev : String) (links : Bool × Bool) :
    linksAfter [] dev links = links := rfl

@[simp] theorem linksAfter_cons (info : NlkEventInfo) (rest : List NlkEventInfo) (dev : String)
    (links : Bool × Bool) :
    linksAfter (info :: rest) dev links =
      linksAfter rest dev (if info.iface = dev then info.links else links) := rfl

@[simp] theorem linksAfter_concat (queue : List NlkEventInfo) (info : NlkEventInfo) (dev : String)
    (links : Bool × Bool) :
    linksAfter (queue ++ [info]) dev links =
      if info.iface = dev then info.links else linksAfter queue dev links := by
  simp [linksAfter]

/-! ### One step -/

/-- What holds of the flags of all devices after a message. -/
theorem allDevices_handle_iff (Holds : String → Bool × Bool → Prop) (manager : EthernetManagement)
    (info : NlkEventInfo) :
    (manager.handle info).AllDevices (fun dev devState => Holds dev devState.links) ↔
      manager.AllDevices fun dev devState =>
        Holds dev (if info.iface = dev then info.links else devState.links) := by
  have handled (dev : String) (devState : DevInterfaceState) :
      (deviceStep dev devState (.handle info)).links =
        if info.iface = dev then info.links else devState.links := by
    rw [links_deviceStep, linkEvent]
    split
    · rfl
    · rfl
  have readHandled (dev : String) : (manager.handle info).devs.read dev =
      (manager.devs.read dev).map fun devState => deviceStep dev devState (.handle info) :=
    manager.read_step (.handle info) dev
  unfold AllDevices
  simp only [readHandled, Option.map_eq_some_iff, ← handled]
  constructor
  · intro after dev devState known
    exact after dev _ ⟨devState, known, rfl⟩
  · rintro now dev _ ⟨devState, known, rfl⟩
    exact now dev devState known

/-- `OnStart` registers the manager once, and last. -/
def RegisteredLast (this : EthernetServiceStart) : Prop :=
  this.nlkHandles = if this.phase = .running then 1 else 0

theorem registeredLast_step (this : EthernetServiceStart) (action : Action)
    (registered : this.RegisteredLast) : (this.step action).RegisteredLast := by
  unfold RegisteredLast at registered ⊢
  cases action with
  | onStart =>
    unfold step onStart
    cases phase : this.phase <;> simp [registered, phase]
  | change info => exact registered
  | netLinkHandle =>
    unfold step netLinkHandle
    cases this.queue <;> exact registered

/-- A change of the kernel is tracked once the socket is bound. -/
theorem tracked_change {this : EthernetServiceStart} (info : NlkEventInfo)
    (bound : this.phase ≠ .stopped) (tracked : this.Tracked) : (this.change info).Tracked := by
  intro dev devState known
  obtain ⟨flags, current, after⟩ := tracked dev devState known
  unfold change
  simp only [if_neg bound, Table.read_store, Function.update_apply, linksAfter_concat]
  by_cases about : dev = info.iface
  · subst about
    exact ⟨info.ifiFlags, by simp, by simp⟩
  · exact ⟨flags, by rw [if_neg about, current], by rw [if_neg (Ne.symm about), after]⟩

/-- A message that the manager gets does to its device what it would have done later. -/
theorem tracked_netLinkHandle_iff {this : EthernetServiceStart} (registered : this.nlkHandles = 1) :
    this.netLinkHandle.Tracked ↔ this.Tracked := by
  rcases this.netLinkHandle_cases with ⟨_, same⟩ | ⟨info, rest, waiting, same⟩
  · rw [same]
  · rw [same]
    unfold Tracked processIfInfoMsg
    simp only [registered, Function.iterate_one, waiting, linksAfter_cons]
    exact allDevices_handle_iff (fun dev links => ∃ flags, this.kernel.read dev = some flags ∧
      linksAfter rest dev links = NlkEventInfo.links ⟨dev, flags⟩) this.ethManagement info

/-! ### The window -/

/-- The listener drops no news: between the snapshot and the registration it takes a message only
when the device knows the flags already, or another message about it waits. -/
def DropsNoNews (this : EthernetServiceStart) (action : Action) : Prop :=
  action = .netLinkHandle → this.phase = .initialised → ∀ info rest, this.queue = info :: rest →
    ∀ devState, this.ethManagement.devs.read info.iface = some devState →
      linksAfter rest info.iface devState.links = linksAfter rest info.iface info.links

theorem linksAfter_of_forall_ne {queue : List NlkEventInfo} {dev : String}
    (silent : ∀ info ∈ queue, info.iface ≠ dev) (links : Bool × Bool) :
    linksAfter queue dev links = links := by
  induction queue with
  | nil => rfl
  | cons info rest inductionHypothesis =>
    obtain ⟨head, tail⟩ := List.forall_mem_cons.mp silent
    rw [linksAfter_cons, if_neg head]
    exact inductionHypothesis tail

/-- A message about a device decides its flags, whatever they were. -/
theorem linksAfter_of_mem {queue : List NlkEventInfo} {info : NlkEventInfo} (member : info ∈ queue)
    (links other : Bool × Bool) :
    linksAfter queue info.iface links = linksAfter queue info.iface other := by
  induction queue generalizing links other with
  | nil => cases member
  | cons head rest inductionHypothesis =>
    rw [linksAfter_cons, linksAfter_cons]
    by_cases about : head.iface = info.iface
    · rw [if_pos about, if_pos about]
    · rw [if_neg about, if_neg about]
      refine inductionHypothesis ?_ links other
      exact (List.mem_cons.mp member).resolve_left fun same => about (same ▸ rfl)

/-- Of each link the socket holds no message, or last the flags of the kernel. -/
def Current (this : EthernetServiceStart) : Prop :=
  ∀ dev, (∀ info ∈ this.queue, info.iface ≠ dev) ∨
    ∃ flags, this.kernel.read dev = some flags ∧
      ∀ links, linksAfter this.queue dev links = NlkEventInfo.links ⟨dev, flags⟩

/-- The socket is empty before it is bound, and current. -/
structure Listening (this : EthernetServiceStart) : Prop where
  registered : this.RegisteredLast
  unbound : this.phase = .stopped → this.queue = []
  current : this.Current

theorem current_change {this : EthernetServiceStart} (info : NlkEventInfo)
    (bound : this.phase ≠ .stopped) (current : this.Current) : (this.change info).Current := by
  intro dev
  unfold change
  simp only [if_neg bound, Table.read_store, Function.update_apply, linksAfter_concat]
  by_cases about : dev = info.iface
  · subst about
    exact Or.inr ⟨info.ifiFlags, by simp, by simp⟩
  · rcases current dev with silent | ⟨flags, read, after⟩
    · left
      intro message member
      rcases List.mem_append.mp member with old | new
      · exact silent message old
      · rw [List.mem_singleton.mp new]
        exact Ne.symm about
    · exact Or.inr ⟨flags, by rw [if_neg about, read], by simpa [Ne.symm about] using after⟩

theorem current_netLinkHandle {this : EthernetServiceStart} (current : this.Current) :
    this.netLinkHandle.Current := by
  rcases this.netLinkHandle_cases with ⟨_, same⟩ | ⟨info, rest, waiting, same⟩
  · rw [same]
    exact current
  · rw [same]
    intro dev
    show (∀ message ∈ rest, message.iface ≠ dev) ∨ ∃ flags, this.kernel.read dev = some flags ∧
      ∀ links, linksAfter rest dev links = NlkEventInfo.links ⟨dev, flags⟩
    by_cases silent : ∀ message ∈ rest, message.iface ≠ dev
    · exact Or.inl silent
    · push Not at silent
      obtain ⟨message, member, rfl⟩ := silent
      rcases current message.iface with never | ⟨flags, read, after⟩
      · exact absurd rfl (never message (waiting ▸ List.mem_cons_of_mem info member))
      · refine Or.inr ⟨flags, read, fun links => ?_⟩
        rw [← after links, waiting, linksAfter_cons]
        exact linksAfter_of_mem member _ _

theorem listening_step (this : EthernetServiceStart) (action : Action)
    (listening : this.Listening) : (this.step action).Listening := by
  refine ⟨registeredLast_step this action listening.registered, ?_, ?_⟩
  · intro stopped
    cases action with
    | onStart =>
      unfold step onStart at stopped
      cases phase : this.phase <;> simp [phase] at stopped
    | change info =>
      have phase : this.phase = .stopped := stopped
      exact (if_pos phase).trans (listening.unbound phase)
    | netLinkHandle =>
      have empty := listening.unbound (this.phase_netLinkHandle.symm.trans stopped)
      rcases this.netLinkHandle_cases with ⟨_, same⟩ | ⟨info, rest, waiting, _⟩
      · exact (congrArg EthernetServiceStart.queue same).trans empty
      · rw [waiting] at empty
        cases empty
  · cases action with
    | onStart =>
      have same : (this.onStart).queue = this.queue ∧ this.onStart.kernel = this.kernel := by
        unfold onStart
        cases this.phase <;> exact ⟨rfl, rfl⟩
      unfold Current step
      rw [same.1, same.2]
      exact listening.current
    | change info =>
      by_cases stopped : this.phase = .stopped
      · have empty : (this.change info).queue = [] :=
          (if_pos stopped).trans (listening.unbound stopped)
        intro dev
        left
        rw [show (this.step (.change info)).queue = [] from empty]
        exact List.forall_mem_nil _
      · exact current_change info stopped listening.current
    | netLinkHandle => exact current_netLinkHandle listening.current

/-- The snapshot is up to date. -/
theorem tracked_snapshot {this : EthernetServiceStart} (current : this.Current)
    (answers : Nat → Int) :
    ({ this with ethManagement := EthernetManagement.init answers (linkInfos this.kernel) } :
      EthernetServiceStart).Tracked := by
  intro dev devState known
  obtain ⟨_, info, listed, supplierId, rfl, rfl⟩ := init_made answers _ known
  obtain ⟨⟨name, flags⟩, member, rfl⟩ := List.mem_map.mp listed
  have read : this.kernel.read name = some flags := AList.mem_lookup_iff.mpr member
  refine ⟨flags, read, ?_⟩
  rw [makeDevice_links]
  rcases current name with silent | ⟨found, same, after⟩
  · exact linksAfter_of_forall_ne silent _
  · rw [read] at same
    rw [Option.some.inj same]
    exact after _

/-- Dropping a message loses nothing exactly when its device knows the flags already, or another
message about it waits. -/
theorem tracked_dropped_iff {this : EthernetServiceStart} {info : NlkEventInfo}
    {rest : List NlkEventInfo} (waiting : this.queue = info :: rest) (tracked : this.Tracked) :
    ({ this with queue := rest } : EthernetServiceStart).Tracked ↔
      ∀ message later, this.queue = message :: later →
        ∀ devState, this.ethManagement.devs.read message.iface = some devState →
          linksAfter later message.iface devState.links =
            linksAfter later message.iface message.links := by
  have expected (dev : String) (devState : DevInterfaceState)
      (known : this.ethManagement.devs.read dev = some devState) := tracked dev devState known
  simp only [waiting, linksAfter_cons] at expected
  constructor
  · intro still message later split devState known
    obtain ⟨rfl, rfl⟩ := List.cons.inj (waiting.symm.trans split)
    obtain ⟨flags, current, after⟩ := expected _ _ known
    obtain ⟨same, found, stillAfter⟩ := still _ _ known
    rw [if_pos rfl] at after
    rw [after, stillAfter, Option.some.inj (current.symm.trans found)]
  · intro noNews dev devState known
    obtain ⟨flags, current, after⟩ := expected dev devState known
    refine ⟨flags, current, ?_⟩
    by_cases about : info.iface = dev
    · subst about
      rw [if_pos rfl] at after
      exact (noNews info rest waiting devState known).trans after
    · rw [if_neg about] at after
      exact after

/-- A step keeps the devices tracked until the registration exactly when it drops no news. -/
theorem tracked_step_iff (this : EthernetServiceStart) (action : Action)
    (listening : this.Listening) (tracked : this.phase = .initialised → this.Tracked) :
    ((this.step action).phase = .initialised → (this.step action).Tracked) ↔
      this.DropsNoNews action := by
  cases action with
  | onStart =>
    refine iff_of_true ?_ (fun same => by cases same)
    unfold step onStart
    cases phase : this.phase with
    | stopped => exact fun initialised => by cases initialised
    | listening => exact fun _ => tracked_snapshot listening.current _
    | initialised => exact fun initialised => by cases initialised
    | running => exact fun initialised => by rw [phase] at initialised; cases initialised
  | change info =>
    refine iff_of_true (fun initialised => ?_) (fun same => by cases same)
    have phase : this.phase = .initialised := initialised
    exact tracked_change info (by rw [phase]; decide) (tracked phase)
  | netLinkHandle =>
    show (this.netLinkHandle.phase = .initialised → this.netLinkHandle.Tracked) ↔ _
    rw [phase_netLinkHandle]
    unfold DropsNoNews
    rw [imp_iff_right rfl]
    refine imp_congr_right fun phase => ?_
    have registered := listening.registered
    unfold RegisteredLast at registered
    rw [phase, if_neg (by decide)] at registered
    rcases this.netLinkHandle_cases with ⟨empty, same⟩ | ⟨info, rest, waiting, same⟩
    · rw [same]
      refine iff_of_true (tracked phase) fun info rest waiting => ?_
      rw [empty] at waiting
      cases waiting
    · have dropped : this.netLinkHandle = { this with queue := rest } := by
        rw [same, processIfInfoMsg]
        simp only [registered]
        rfl
      rw [dropped]
      exact tracked_dropped_iff waiting (tracked phase)

/-! ### Every run -/

/-- When `OnStart` registers the manager, no change was lost. -/
def RegistersTracked (this : EthernetServiceStart) (action : Action) : Prop :=
  action = .onStart → this.phase = .initialised → this.Tracked

/-- A service that runs stays up to date, and one that starts to run is when no change was lost
before. -/
theorem tracked_step (this : EthernetServiceStart) (action : Action)
    (registered : this.RegisteredLast) (tracked : this.phase = .running → this.Tracked)
    (guard : this.RegistersTracked action) :
    (this.step action).phase = .running → (this.step action).Tracked := by
  cases action with
  | onStart =>
    unfold step onStart
    cases phase : this.phase with
    | stopped => exact fun running => by cases running
    | listening => exact fun running => by cases running
    | initialised => exact fun _ => guard rfl phase
    | running => exact fun _ => tracked phase
  | change info =>
    intro running
    have phase : this.phase = .running := running
    exact tracked_change info (by rw [phase]; decide) (tracked phase)
  | netLinkHandle =>
    intro running
    have phase : this.phase = .running := this.phase_netLinkHandle.symm.trans running
    unfold RegisteredLast at registered
    rw [if_pos phase] at registered
    exact (tracked_netLinkHandle_iff registered).mpr (tracked phase)

/-- With an empty socket, the devices that are up to date are the ones that will be. -/
theorem tracked_iff_of_empty {this : EthernetServiceStart} (empty : this.queue = []) :
    this.Tracked ↔ this.ethManagement.AllDevices fun dev devState =>
      ∃ flags, this.kernel.read dev = some flags ∧
        devState.links = NlkEventInfo.links ⟨dev, flags⟩ := by
  unfold Tracked
  simp only [empty, linksAfter_nil]

/-- The listener empties the socket, and the devices are up to date then if they will be now. -/
theorem netLinkHandle_drains {queue : List NlkEventInfo} (this : EthernetServiceStart)
    (waiting : this.queue = queue) (running : this.phase = .running)
    (registered : this.nlkHandles = 1) :
    let drained := run step this (List.replicate queue.length .netLinkHandle)
    drained.phase = .running ∧ drained.queue = [] ∧ (drained.Tracked ↔ this.Tracked) := by
  induction queue generalizing this with
  | nil => exact ⟨running, waiting, Iff.rfl⟩
  | cons info rest inductionHypothesis =>
    have handled : this.netLinkHandle = { this with queue := rest }.processIfInfoMsg info := by
      unfold netLinkHandle
      rw [waiting]
    obtain ⟨stillRunning, empty, same⟩ := inductionHypothesis this.netLinkHandle
      (by rw [handled]; rfl) (by rw [handled]; exact running) (by rw [handled]; exact registered)
    exact ⟨stillRunning, empty, same.trans (tracked_netLinkHandle_iff registered)⟩

/-- Every device is up to date, or will be, when the listener has dropped no news. -/
theorem registersTracked_of_dropsNoNews (answers : Nat → Int) (kernel : Table String UInt64)
    {actions : List Action} (guarded : Guarded step DropsNoNews (before answers kernel) actions) :
    Guarded step RegistersTracked (before answers kernel) actions := by
  have listening : (before answers kernel).Listening :=
    ⟨rfl, fun _ => rfl, fun dev => Or.inl (List.forall_mem_nil _)⟩
  have always := (always_iff_guarded step listening_step tracked_step_iff listening
    (fun initialised => by cases initialised) actions).mpr guarded
  rintro earlier action later split _ phase
  exact always earlier (action :: later) split phase

/-- No change is lost when every device is up to date, or will be with the messages that are still
in the socket, at the moment the manager is registered. When one is not, the device shows it as
soon as the socket is empty. So the listener has to drop no news before that, and it is enough if it
does not. -/
theorem noChangeLost_run (answers : Nat → Int) (kernel : Table String UInt64) :
    (∀ actions, Guarded step RegistersTracked (before answers kernel) actions →
      Always step NoChangeLost (before answers kernel) actions) ∧
    (∀ actions, ¬ RegistersTracked (run step (before answers kernel) actions) .onStart →
      ∃ later, ¬ Always step NoChangeLost (before answers kernel)
        (actions ++ .onStart :: later)) ∧
    ∀ actions, Guarded step DropsNoNews (before answers kernel) actions →
      Guarded step RegistersTracked (before answers kernel) actions := by
  have registeredFirst : (before answers kernel).RegisteredLast := rfl
  refine ⟨?_, ?_, fun actions => registersTracked_of_dropsNoNews answers kernel⟩
  · intro actions guarded
    have stopped : (before answers kernel).phase = .running → (before answers kernel).Tracked :=
      fun running => by cases running
    have always : Always step (fun this => this.phase = .running → this.Tracked)
        (before answers kernel) actions :=
      always_of_guarded step registeredLast_step tracked_step registeredFirst stopped guarded
    intro earlier later split running empty
    exact (tracked_iff_of_empty empty).mp (always earlier later split running)
  · intro actions lost
    unfold RegistersTracked at lost
    rw [imp_iff_right rfl, Classical.not_imp] at lost
    obtain ⟨phase, untracked⟩ := lost
    have registered := run_invariant step RegisteredLast registeredLast_step registeredFirst
      actions
    revert phase untracked registered
    generalize reached : run step (before answers kernel) actions = this
    intro phase untracked registered
    have started : this.onStart = { this with phase := .running, nlkHandles := 1 } := by
      unfold RegisteredLast at registered
      unfold onStart
      simp [phase, registered]
    obtain ⟨running, empty, same⟩ := netLinkHandle_drains this.onStart rfl
      (by rw [started]) (by rw [started])
    refine ⟨List.replicate this.onStart.queue.length .netLinkHandle, fun always => untracked ?_⟩
    have atEnd := always _ [] (List.append_nil _).symm
    rw [run_append, run_cons, reached] at atEnd
    have tracked := same.mp ((tracked_iff_of_empty empty).mpr (atEnd running empty))
    rw [started] at tracked
    exact tracked

/-- A carrier that is lost before the snapshot, whose message is dropped, and comes back before the
registration. -/
theorem noChangeLost_run_example :
    let down : NlkEventInfo := { iface := "eth0", ifiFlags := 0x1 }
    let up : NlkEventInfo := { iface := "eth0", ifiFlags := 0x10001 }
    let start := before (fun _ => 1001) ((∅ : Table String UInt64).store "eth0" 0x10001)
    let actions : List Action :=
      [.onStart, .change down, .onStart, .netLinkHandle, .change up, .onStart, .netLinkHandle]
    Always step NoChangeLost start actions ∧ (run step start actions).phase = .running ∧
      (run step start actions).queue = [] := by
  intro down up start actions
  obtain ⟨noChangeLost, _, registersTracked⟩ :=
    noChangeLost_run (fun _ => 1001) ((∅ : Table String UInt64).store "eth0" 0x10001)
  refine ⟨noChangeLost actions (registersTracked actions ?_), by decide, by decide⟩
  simp only [actions, guarded_cons]
  refine ⟨?_, ?_, ?_, ?_, ?_, ?_, ?_, guarded_nil _ _ _⟩
  · rintro ⟨⟩
  · rintro ⟨⟩
  · rintro ⟨⟩
  · -- the device knows the flags of the message from the snapshot
    rintro - - info rest waiting devState known
    obtain ⟨rfl, rfl⟩ : down = info ∧ [] = rest := List.cons.inj waiting
    have links := congrArg (Option.map DevInterfaceState.links) known
    exact (Option.some.inj (links.symm.trans (by decide : _ = some down.links)))
  · rintro ⟨⟩
  · rintro ⟨⟩
  · rintro - phase
    exact absurd phase (by decide)

/-- A carrier that is lost after the snapshot, and handled before the registration. -/
theorem change_lost_before_registration :
    let eth0 : NlkEventInfo := { iface := "eth0", ifiFlags := 0x1 }
    ¬ Always step NoChangeLost
      (before (fun _ => 1001) ((∅ : Table String UInt64).store "eth0" 0x10001))
      [.onStart, .onStart, .change eth0, .netLinkHandle, .onStart] := by
  intro eth0 always
  have stale := always _ [] (List.append_nil _).symm (by decide) (by decide)
  obtain ⟨devState, known, links⟩ := Option.map_eq_some_iff.mp
    (show ((run step (before (fun _ => 1001) ((∅ : Table String UInt64).store "eth0" 0x10001))
      [.onStart, .onStart, .change eth0, .netLinkHandle, .onStart]).ethManagement.devs.read
        "eth0").map links = some (true, true) by decide)
  obtain ⟨flags, current, same⟩ := stale "eth0" devState known
  obtain rfl : 0x1 = flags := Option.some.inj ((show _ = some _ by decide).symm.trans current)
  rw [links] at same
  exact absurd same (by decide)

end EthernetServiceStart

end NetManager
