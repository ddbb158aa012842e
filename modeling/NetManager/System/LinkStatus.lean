/-
This file shows that the connection service learns what the kernel announces. Once a datagram was
announced, its flags are in the socket of the listener, in the calls it has still to make, or in a
device; and what a device knows is in the entry of its interface or under way to it.

So when nothing is on its way any more, an Ethernet entry is available exactly when the flags that
the kernel announced last say so. It takes that the socket of the listener is bound before the dump,
and that the listener reads nothing between the dump and the registration.
-/

import NetManager.System.LinkSystem

namespace NetManager

open Library NetLinkRtnl
open EthernetServiceStart (linksAfter)

/-! ### The services -/

namespace EthernetSystem

variable {this : EthernetSystem}

/-- What holds of the flags of all devices, and of the interfaces that `Init` has still to add. -/
structure OfLinks (Holds : String → Bool × Bool → Prop) (this : EthernetSystem) : Prop where
  devices : this.ethernet.AllDevices fun dev devState => Holds dev devState.links
  listed : ∀ info ∈ this.linkInfos, info.iface ≠ "" → Holds info.iface info.links

theorem OfLinks.register {Holds : String → Bool × Bool → Prop} {info : NlkEventInfo}
    {rest : List NlkEventInfo} (listed : this.linkInfos = info :: rest)
    (ofLinks : this.OfLinks Holds) :
    ({ this with linkInfos := rest }.register info).OfLinks Holds := by
  have first := ofLinks.listed
  rw [listed] at first
  obtain ⟨head, tail⟩ := List.forall_mem_cons.mp first
  have left : ({ this with linkInfos := rest }.register info).linkInfos = rest := by
    unfold EthernetSystem.register
    split
    · rfl
    · rfl
  refine ⟨fun dev devState known => ?_, fun other member => tail other (left ▸ member)⟩
  by_cases named : info.iface = ""
  · have skipped : { this with linkInfos := rest }.register info =
        { this with linkInfos := rest } := if_pos named
    rw [skipped] at known
    exact ofLinks.devices dev devState known
  · rw [register_devices named] at known
    cases before : this.ethernet.devs.read dev with
    | some old =>
      rw [before, Option.some_or] at known
      exact Option.some.inj known ▸ ofLinks.devices dev old before
    | none =>
      rw [before, Option.none_or] at known
      split at known
      · rename_i here
        subst here
        rw [← Option.some.inj known, EthernetManagement.makeDevice_links]
        exact head named
      · cases known

/-- Only a call of `Handle` changes flags. -/
theorem OfLinks.step {Holds : String → Bool × Bool → Prop} (ofLinks : this.OfLinks Holds)
    {action : Action} (other : ∀ info, action ≠ .ethernet (.handle info)) :
    (this.step action).OfLinks Holds := by
  cases action with
  | client action => exact ⟨ofLinks.devices, ofLinks.listed⟩
  | deliver =>
    unfold EthernetSystem.step
    dsimp only
    split
    · exact ofLinks
    · exact ⟨ofLinks.devices, ofLinks.listed⟩
  | addDevice =>
    unfold EthernetSystem.step
    dsimp only
    split
    · rename_i info rest _ listed
      exact OfLinks.register listed ofLinks
    · exact ofLinks
  | ethernet action =>
    unfold EthernetSystem.step
    dsimp only
    split
    · refine ⟨fun dev devState known => ?_, ofLinks.listed⟩
      have read := this.ethernet.read_step action dev
      rw [show (this.act action).ethernet = this.ethernet.step action from rfl, read] at known
      obtain ⟨before, same, rfl⟩ := Option.map_eq_some_iff.mp known
      show Holds dev (EthernetManagement.deviceStep dev before action).links
      rw [EthernetManagement.links_deviceStep]
      cases action with
      | handle info => exact absurd rfl (other info)
      | setIfaceConfig iface cfg => exact ofLinks.devices dev before same
      | onSuccess ifname result => exact ofLinks.devices dev before same
    · exact ofLinks

/-- The manager handles the news of a link. -/
theorem OfLinks.handle {Holds : String → Bool × Bool → Prop} {info : NlkEventInfo}
    (done : this.linkInfos = [])
    (ofLinks : this.OfLinks fun dev links =>
      Holds dev (if info.iface = dev then info.links else links)) :
    (this.act (.handle info)).OfLinks Holds := by
  refine ⟨(EthernetServiceStart.allDevices_handle_iff Holds this.ethernet info).mpr
    ofLinks.devices, fun other member => ?_⟩
  rw [show (this.act (.handle info)).linkInfos = [] from done] at member
  exact absurd member List.not_mem_nil

/-- The manager has no devices, and nothing to do. -/
structure Unstarted (this : EthernetSystem) : Prop where
  devices : ∀ dev, this.ethernet.devs.read dev = none
  linkInfos : this.linkInfos = []
  underWay : this.underWay = []

theorem Unstarted.step (unstarted : this.Unstarted) (action : Action) :
    (this.step action).Unstarted := by
  cases action with
  | client action => exact ⟨unstarted.devices, unstarted.linkInfos, unstarted.underWay⟩
  | deliver =>
    unfold EthernetSystem.step
    dsimp only
    rw [unstarted.underWay]
    exact unstarted
  | addDevice =>
    unfold EthernetSystem.step
    dsimp only
    rw [unstarted.underWay, unstarted.linkInfos]
    exact unstarted
  | ethernet action =>
    have acts : this.step (.ethernet action) = this.act action := by
      unfold EthernetSystem.step
      dsimp only
      rw [unstarted.underWay, unstarted.linkInfos]
    rw [acts]
    refine ⟨fun dev => ?_, unstarted.linkInfos, ?_⟩
    · rw [show (this.act action).ethernet = this.ethernet.step action from rfl,
        this.ethernet.read_step, unstarted.devices, Option.map_none]
    · unfold act
      dsimp only
      rw [unstarted.devices]

/-- The interfaces to add come when there are no devices yet. -/
theorem Connected.lists (connected : this.Connected) (unstarted : this.Unstarted)
    {linkInfos : List NlkEventInfo} (distinct : linkInfos.Pairwise fun first second =>
      first.iface = "" ∨ first.iface ≠ second.iface) :
    { this with linkInfos := linkInfos }.Connected where
  wellFormed := connected.wellFormed
  devices dev devState known :=
    absurd (known.symm.trans (unstarted.devices dev)) (Option.some_ne_none _)
  entries supplierId entry kept type := by
    obtain ⟨devState, known, _⟩ := connected.entries supplierId entry kept type
    exact absurd (known.symm.trans (unstarted.devices entry.ident)) (Option.some_ne_none _)
  distinct := distinct
  unknown info _ _ := unstarted.devices info.iface
  known call member := absurd (show call ∈ this.underWay from member)
    (unstarted.underWay ▸ List.not_mem_nil)

end EthernetSystem

namespace LinkSystem

variable {platform : NetLinkRtnl.Platform} {this : LinkSystem} {sent : List (List Message)}

/-! ### The invariant -/

/-- `Init` has its dump. -/
def dumped : StartPhase → Bool
  | .stopped | .listening => false
  | .initialised | .running => true

/-- What the listener has still to say, with these messages in its socket. -/
def news (this : LinkSystem) (sent : List (List Message)) : List NlkEventInfo :=
  this.calls ++ sent.flatMap linksOf

/-- The listener hears all that is announced once its socket is bound, and hands on what it reads
once the manager is registered. -/
structure Listens (platform : NetLinkRtnl.Platform) (this : LinkSystem)
    (sent : List (List Message)) : Prop where
  socket : this.socket = sent.map (dump platform.order)
  fits : ∀ messages ∈ sent, (dump platform.order messages).length ≤ nlkBuffLen
  unbound : this.bound = false → sent = []
  bound : dumped this.phase = true → this.bound = true
  nlkHandles : this.nlkHandles = if this.phase = .running then [()] else []
  silent : this.phase ≠ .running → this.calls = []
  current : Current this.kernel (this.news sent)

/-- The services have nothing to do before the dump, and their devices will have the flags of the
kernel when the news has been handled. -/
structure Informed (platform : NetLinkRtnl.Platform) (this : LinkSystem)
    (sent : List (List Message)) : Prop extends Listens platform this sent where
  unstarted : dumped this.phase = false → this.services.Unstarted
  ofLinks : this.services.OfLinks (Ends this.kernel (this.news sent))
  connected : this.services.Connected
  reported : this.services.ethernet.AllDevices fun _ => DevInterfaceState.HasReported

theorem ofLinks_unstarted {services : EthernetSystem} (unstarted : services.Unstarted)
    (Holds : String → Bool × Bool → Prop) : services.OfLinks Holds where
  devices dev _ known :=
    absurd (known.symm.trans (unstarted.devices dev)) (Option.some_ne_none _)
  listed _ member := absurd (unstarted.linkInfos ▸ member) List.not_mem_nil

theorem dumped_of_running (running : this.phase = .running) : dumped this.phase = true := by
  rw [running]
  rfl

/-! ### One step -/

theorem Informed.announce (informed : Informed platform this sent) {messages : List Message}
    (fits : (dump platform.order messages).length ≤ nlkBuffLen) :
    Informed platform (this.announce platform messages)
      (if this.bound then sent ++ [messages] else sent) := by
  cases bound : this.bound with
  | true =>
    have said : (this.announce platform messages).news (sent ++ [messages]) =
        this.news sent ++ linksOf messages := by
      show this.calls ++ (sent ++ [messages]).flatMap linksOf = _
      rw [List.flatMap_append, ← List.append_assoc, List.flatMap_singleton]
      rfl
    rw [if_pos rfl]
    refine ⟨⟨?_, ?_, ?_, fun _ => bound, informed.nlkHandles, informed.silent, ?_⟩,
      informed.unstarted, ?_, informed.connected, informed.reported⟩
    · have socket : (this.announce platform messages).socket =
          this.socket ++ [dump platform.order messages] := if_pos bound
      rw [socket, informed.socket, List.map_append, List.map_singleton]
    · intro other member
      rcases List.mem_append.mp member with before | new
      · exact informed.fits other before
      · exact List.mem_singleton.mp new ▸ fits
    · intro unbound
      exact absurd (bound.symm.trans unbound) Bool.true_eq_false_eq_False
    · rw [said]
      exact informed.current.announced _
    · rw [said]
      exact ⟨fun dev devState known => (informed.ofLinks.devices dev devState known).announced _,
        fun info member named => (informed.ofLinks.listed info member named).announced _⟩
  | false =>
    have early : dumped this.phase = false :=
      Bool.not_eq_true _ ▸ fun late => Bool.false_ne_true (bound.symm.trans (informed.bound late))
    have nothing : (this.announce platform messages).news sent = [] := by
      show this.calls ++ sent.flatMap linksOf = []
      rw [informed.unbound bound, informed.silent fun running =>
        Bool.false_ne_true (early.symm.trans (dumped_of_running running))]
      rfl
    rw [if_neg Bool.false_ne_true]
    refine ⟨⟨?_, informed.fits, informed.unbound, informed.bound, informed.nlkHandles,
      informed.silent, ?_⟩, informed.unstarted, ?_, informed.connected, informed.reported⟩
    · have socket : (this.announce platform messages).socket = this.socket :=
        if_neg (bound ▸ Bool.false_ne_true)
      rw [socket, informed.socket]
    · rw [nothing]
      exact fun dev => Or.inl (List.forall_mem_nil _)
    · exact ofLinks_unstarted (informed.unstarted early) _

/-- The listener reads a datagram. Before the dump it may drop what it says, since the dump will say
it again. -/
theorem Informed.netLinkHandle (informed : Informed platform this sent)
    (inTime : this.phase ≠ .initialised) :
    ∃ sent, Informed platform (this.netLinkHandle platform) sent := by
  unfold LinkSystem.netLinkHandle
  split
  · rename_i datagram rest none reads
    have socket := informed.socket
    rw [reads] at socket
    obtain ⟨messages, more, rfl, rfl, rfl⟩ := List.map_eq_cons_iff.mp socket.symm
    obtain ⟨fits, fitsMore⟩ := List.forall_mem_cons.mp informed.fits
    have said : this.news (messages :: more) = linksOf messages ++ more.flatMap linksOf := by
      show this.calls ++ _ = _
      rw [none]
      rfl
    have current := informed.current
    have ofLinks := informed.ofLinks
    rw [said] at current ofLinks
    have unbound : this.bound = false → more = [] := fun unbound =>
      absurd (informed.unbound unbound) (List.cons_ne_nil _ _)
    by_cases running : this.phase = .running
    · have handles : callsOf platform this.nlkHandles (dump platform.order messages) =
          linksOf messages := by
        rw [callsOf_dump platform _ fits, informed.nlkHandles, if_pos running]
        exact List.flatMap_singleton' _
      rw [handles]
      refine ⟨more, ⟨rfl, fitsMore, unbound, informed.bound, informed.nlkHandles,
        fun stopped => absurd running stopped, current⟩, informed.unstarted, ofLinks,
        informed.connected, informed.reported⟩
    · have early : dumped this.phase = false := by
        cases phase : this.phase with
        | stopped => rfl
        | listening => rfl
        | initialised => exact absurd phase inTime
        | running => exact absurd phase running
      have handles : callsOf platform this.nlkHandles (dump platform.order messages) = [] := by
        rw [callsOf_dump platform _ fits, informed.nlkHandles, if_neg running]
        exact List.flatMap_eq_nil_iff.mpr fun _ _ => rfl
      rw [handles]
      exact ⟨more, ⟨rfl, fitsMore, unbound, informed.bound, informed.nlkHandles, fun _ => rfl,
        Current.dropped _ current⟩, informed.unstarted,
        ofLinks_unstarted (informed.unstarted early) _, informed.connected, informed.reported⟩
  · exact ⟨sent, informed⟩

/-- The manager handles the first news. -/
theorem Informed.handle (informed : Informed platform this sent) :
    Informed platform this.handle sent := by
  unfold LinkSystem.handle
  split
  · rename_i info rest calls idle done
    have running : this.phase = .running := by
      by_contra stopped
      exact absurd (calls.symm.trans (informed.silent stopped)) (List.cons_ne_nil _ _)
    have said : this.news sent = info :: (rest ++ sent.flatMap linksOf) := by
      show this.calls ++ _ = _
      rw [calls]
      rfl
    have current := informed.current
    have ofLinks := informed.ofLinks
    rw [said] at current ofLinks
    refine ⟨⟨informed.socket, informed.fits, informed.unbound, informed.bound,
      informed.nlkHandles, fun stopped => absurd running stopped, ?_⟩, fun early => ?_,
      ofLinks.handle done, informed.connected.acts idle done _, ?_⟩
    · exact Current.dropped [info] current
    · exact absurd (early.symm.trans (dumped_of_running running)) Bool.false_ne_true
    · exact EthernetManagement.allDevices_step
        (fun dev _ action before => EthernetManagement.hasReported_deviceStep before dev action)
        this.services.ethernet _ informed.reported
  · exact informed

theorem Informed.onStart (informed : Informed platform this sent) :
    Informed platform this.onStart sent := by
  unfold LinkSystem.onStart
  split
  · rename_i phase
    have early : dumped this.phase = false := phase ▸ rfl
    have handles := informed.nlkHandles
    have quiet : this.calls = [] := informed.silent fun running =>
      Bool.false_ne_true (early.symm.trans (dumped_of_running running))
    rw [phase] at handles
    exact ⟨⟨informed.socket, informed.fits, informed.unbound,
      fun late => absurd late Bool.false_ne_true, handles, fun _ => quiet, informed.current⟩,
      fun _ => informed.unstarted early, informed.ofLinks, informed.connected, informed.reported⟩
  · rename_i phase _ _
    have handles := informed.nlkHandles
    rw [phase] at handles
    refine ⟨⟨informed.socket, informed.fits, informed.unbound,
      fun _ => informed.bound (phase ▸ rfl), ?_, fun stopped => absurd rfl stopped,
      informed.current⟩, fun early => ?_,
      informed.ofLinks, informed.connected, informed.reported⟩
    · show this.nlkHandles ++ [()] = _
      rw [handles]
      rfl
    · exact absurd early.symm Bool.false_ne_true
  · exact informed

/-- What the dump says first is what the kernel has announced. -/
theorem Tells.infos {kernel : Table String UInt64} {reply : DumpReply platform.order}
    (tells : Tells kernel reply) :
    let infos := (getLinkInfo platform reply.socket []).result.getD []
    (∀ info ∈ infos, info.iface ≠ "" → kernel.read info.iface = some info.ifiFlags) ∧
      infos.Pairwise fun first second => first.iface = "" ∨ first.iface ≠ second.iface := by
  intro infos
  have read : infos = (reply.first.filterMap Message.link?).map fun link =>
      link.eventInfo.getD {} := by
    show (getLinkInfo platform reply.socket []).result.getD [] = _
    rw [getLinkInfo_reply, Option.getD_some]
  have first : (reply.first.filterMap Message.link?).Sublist reply.newlinks := by
    rw [newlinks_eq]
    exact List.sublist_append_left _ _
  rw [read]
  constructor
  · intro info member named
    obtain ⟨link, listed, rfl⟩ := List.mem_map.mp member
    cases told : link.eventInfo with
    | none =>
      rw [told] at named
      exact absurd rfl named
    | some info => exact tells.flags link (first.subset listed) info told
  · refine (tells.once.sublist first).map _ fun link other once => ?_
    cases told : link.eventInfo with
    | none => exact Or.inl rfl
    | some info =>
      cases toldOther : other.eventInfo with
      | none =>
        by_cases unnamed : info.iface = ""
        · exact Or.inl unnamed
        · exact Or.inr unnamed
      | some otherInfo => exact Or.inr (once info told otherInfo toldOther)

/-- `Init` gets a true dump while the listener collects what comes later. -/
theorem Informed.snapshot (informed : Informed platform this sent)
    {reply : DumpReply platform.order}
    (inTime : this.phase = .listening → this.bound = true ∧ Tells this.kernel reply) :
    Informed platform (this.snapshot platform reply) sent := by
  unfold LinkSystem.snapshot
  split
  · rename_i phase
    obtain ⟨bound, tells⟩ := inTime phase
    have unstarted := informed.unstarted (phase ▸ rfl)
    obtain ⟨flags, distinct⟩ := tells.infos
    have handles := informed.nlkHandles
    have quiet : this.calls = [] := informed.silent fun running => by
      rw [phase] at running
      cases running
    rw [phase] at handles
    refine ⟨⟨informed.socket, informed.fits, informed.unbound, fun _ => bound, handles,
      fun _ => quiet, informed.current⟩, fun early => absurd early.symm Bool.false_ne_true,
      ⟨fun dev _ known => ?_, fun info member named => ?_⟩,
      informed.connected.lists unstarted distinct, informed.reported⟩
    · exact absurd (known.symm.trans (unstarted.devices dev)) (Option.some_ne_none _)
    · exact informed.current.ends (flags info member named)
  · exact informed

/-- What else happens in the services leaves the flags. -/
theorem Informed.services (informed : Informed platform this sent)
    {action : EthernetSystem.Action}
    (few : (this.services.step action).connection.createdSuppliers ≤ 2 ^ 31 - 1003)
    (leaves : this.services.LeavesEthernet action)
    (other : ∀ info, action ≠ .ethernet (.handle info)) :
    Informed platform { this with services := this.services.step action } sent where
  socket := informed.socket
  fits := informed.fits
  unbound := informed.unbound
  bound := informed.bound
  nlkHandles := informed.nlkHandles
  silent := informed.silent
  current := informed.current
  unstarted early := (informed.unstarted early).step action
  ofLinks := informed.ofLinks.step other
  connected := informed.connected.step few leaves
  reported := EthernetSystem.allDevices_step
    (fun info supplierId _ => EthernetManagement.makeDevice_hasReported info supplierId)
    (fun dev _ action before => EthernetManagement.hasReported_deviceStep before dev action)
    this.services action informed.reported

/-- What happens in the services when something else than a call of `Handle` happens there. -/
theorem services_cases (this : LinkSystem) (action : EthernetSystem.Action) :
    this.step platform (.services action) = this ∨
      (∀ info, action ≠ .ethernet (.handle info)) ∧ this.step platform (.services action) =
        { this with services := this.services.step action } := by
  cases action with
  | ethernet request =>
    cases request with
    | handle info => exact Or.inl rfl
    | setIfaceConfig iface cfg => exact Or.inr ⟨fun _ same => (by cases same), rfl⟩
    | onSuccess ifname result => exact Or.inr ⟨fun _ same => (by cases same), rfl⟩
  | addDevice => exact Or.inr ⟨fun _ same => (by cases same), rfl⟩
  | deliver => exact Or.inr ⟨fun _ same => (by cases same), rfl⟩
  | client request => exact Or.inr ⟨fun _ same => (by cases same), rfl⟩

/-- A step is at most one step of the connection service. -/
theorem connection_step (this : LinkSystem) (action : Action platform.order) :
    (this.step platform action).services.connection = this.services.connection ∨
      ∃ request, (this.step platform action).services = this.services.step request := by
  cases action with
  | announce messages => exact Or.inl rfl
  | bind =>
    unfold step
    dsimp only
    split
    · exact Or.inl rfl
    · exact Or.inl rfl
  | netLinkHandle =>
    unfold step LinkSystem.netLinkHandle
    dsimp only
    split
    · exact Or.inl rfl
    · exact Or.inl rfl
  | handle =>
    unfold step LinkSystem.handle
    dsimp only
    split
    · exact Or.inl rfl
    · exact Or.inl rfl
  | onStart =>
    unfold step LinkSystem.onStart
    dsimp only
    split
    · exact Or.inl rfl
    · exact Or.inl rfl
    · exact Or.inl rfl
  | snapshot reply =>
    unfold step LinkSystem.snapshot
    dsimp only
    split
    · exact Or.inl rfl
    · exact Or.inl rfl
  | services action =>
    rcases this.services_cases action with same | ⟨_, same⟩
    · exact Or.inl (congrArg (·.services.connection) same)
    · exact Or.inr ⟨action, congrArg (·.services) same⟩

/-- Every step keeps the invariant. -/
theorem Informed.step (informed : Informed platform this sent) {action : Action platform.order}
    (inTime : this.InTime platform action)
    (few : (this.step platform action).services.connection.createdSuppliers ≤ 2 ^ 31 - 1003) :
    ∃ sent, Informed platform (this.step platform action) sent := by
  cases action with
  | announce messages => exact ⟨_, informed.announce inTime⟩
  | bind =>
    unfold LinkSystem.step
    dsimp only
    split
    · exact ⟨sent, informed⟩
    · exact ⟨sent, ⟨informed.socket, informed.fits,
        fun unbound => absurd unbound.symm Bool.false_ne_true, fun _ => rfl, informed.nlkHandles,
        informed.silent, informed.current⟩, informed.unstarted, informed.ofLinks,
        informed.connected, informed.reported⟩
  | netLinkHandle => exact informed.netLinkHandle inTime
  | handle => exact ⟨sent, informed.handle⟩
  | onStart => exact ⟨sent, informed.onStart⟩
  | snapshot reply => exact ⟨sent, informed.snapshot inTime⟩
  | services action =>
    rcases this.services_cases action with same | ⟨other, same⟩
    · rw [same]
      exact ⟨sent, informed⟩
    · rw [same] at few ⊢
      exact ⟨sent, informed.services few inTime other⟩

/-! ### Every run -/

theorem created_step (wellFormed : this.services.connection.registry.WellFormed)
    (action : Action platform.order) :
    (this.step platform action).services.connection.registry.WellFormed ∧
      this.services.connection.createdSuppliers ≤
        (this.step platform action).services.connection.createdSuppliers := by
  rcases this.connection_step action with same | ⟨request, same⟩
  · rw [same]
    exact ⟨wellFormed, le_rfl⟩
  · rw [same]
    exact EthernetSystem.created_step wellFormed request

theorem created_run (wellFormed : this.services.connection.registry.WellFormed)
    (actions : List (Action platform.order)) :
    this.services.connection.createdSuppliers ≤
      (run (step platform) this actions).services.connection.createdSuppliers := by
  induction actions generalizing this with
  | nil => exact le_rfl
  | cons action rest inductionHypothesis =>
    obtain ⟨after, more⟩ := created_step wellFormed action
    exact more.trans (inductionHypothesis after)

theorem Informed.run (informed : Informed platform this sent)
    {actions : List (Action platform.order)}
    (inTime : Guarded (LinkSystem.step platform) (InTime platform) this actions)
    (few : (Library.run (LinkSystem.step platform) this
      actions).services.connection.createdSuppliers ≤ 2 ^ 31 - 1003) :
    ∃ sent, Informed platform (Library.run (LinkSystem.step platform) this actions) sent := by
  induction actions generalizing this sent with
  | nil => exact ⟨sent, informed⟩
  | cons action rest inductionHypothesis =>
    obtain ⟨now, later⟩ := (guarded_cons _ _ _ _ _).mp inTime
    obtain ⟨wellFormed, _⟩ := created_step informed.connected.wellFormed action
    obtain ⟨_, after⟩ := informed.step now ((created_run wellFormed rest).trans few)
    exact inductionHypothesis after later few

/-- When the listener has nothing left to hand on, a device has the flags of the kernel. -/
theorem Informed.links (informed : Informed platform this sent) (heard : this.socket = [])
    (handled : this.calls = []) {dev : String} {devState : DevInterfaceState}
    (known : this.services.ethernet.devs.read dev = some devState) :
    ∃ flags, this.kernel.read dev = some flags ∧
      devState.links = NlkEventInfo.links ⟨dev, flags⟩ := by
  have nothing : sent = [] :=
    List.map_eq_nil_iff.mp (informed.socket.symm.trans heard)
  have ends := informed.ofLinks.devices dev devState known
  have news : this.news sent = [] := by
    rw [nothing]
    exact (List.append_nil _).trans handled
  rw [news] at ends
  exact ends

end LinkSystem

end NetManager
