/-
This file follows the flags of a link from the kernel to the connection service. The kernel
announces its links in datagrams; the listener of the Ethernet service reads one after the other
and calls `Handle` for each link in it; the manager reports to the connection service. While the
service starts, it asks the kernel for a dump, makes its devices, and registers the manager with the
listener last.

What is on its way to a device is the news that the listener has still to hand on. It is current
when it says nothing of a link, or last what the kernel announced last.
-/

import NetManager.Ethernet.StartUpDump
import NetManager.Ethernet.StartUpRace
import NetManager.System.InterfaceStatus

namespace NetManager

open Library NetLinkRtnl
open EthernetServiceStart (linksAfter linksAfter_nil linksAfter_cons linksAfter_of_forall_ne
  linksAfter_of_mem allDevices_handle_iff)

/-! ### Datagrams -/

namespace NetLinkRtnl

/-- `NLK_BUFF_LEN`. -/
def nlkBuffLen : Nat := 2048

/-- What messages say of Ethernet links. -/
def linksOf (messages : List Message) : List NlkEventInfo :=
  (messages.filterMap Message.link?).filterMap LinkMessage.eventInfo

/-- The calls of `Handle` that `NetLinkHandle` makes for a datagram it reads into the zeroed
buffer. -/
def callsOf (platform : Platform) (nlkHandles : List Unit) (datagram : List UInt8) :
    List NlkEventInfo :=
  let received := datagram.take nlkBuffLen
  let buff := received ++ List.replicate (nlkBuffLen - received.length) 0
  let handled := processLinkEventMsg platform nlkHandles (some buff)
    (Int32.ofNat received.length) []
  (handled.result.getD []).map Prod.snd

/-- A datagram that fits makes the registered manager handle what it says, in order. -/
theorem callsOf_dump (platform : Platform) (nlkHandles : List Unit) {messages : List Message}
    (fits : (dump platform.order messages).length ≤ nlkBuffLen) :
    callsOf platform nlkHandles (dump platform.order messages) =
      (linksOf messages).flatMap fun info => nlkHandles.map fun _ => info := by
  have whole : (dump platform.order messages).take nlkBuffLen = dump platform.order messages :=
    List.take_of_length_le fits
  have received : (Int32.ofNat (dump platform.order messages).length).toInt =
      (dump platform.order messages).length := by
    rw [nlkBuffLen] at fits
    exact Int32.toInt_ofNat_of_lt (by omega)
  unfold callsOf
  dsimp only
  rw [whole]
  have lies : LiesAt (dump platform.order messages ++
      List.replicate (nlkBuffLen - (dump platform.order messages).length) 0)
      (dump platform.order messages) 0 := List.prefix_append _ _
  have inside := linksInside_dump lies received
  have short : (Int32.ofNat (dump platform.order messages).length).toInt ≤
      (dump platform.order messages ++
        List.replicate (nlkBuffLen - (dump platform.order messages).length) 0).length := by
    rw [received, List.length_append]
    omega
  have infos := congrArg (List.filterMap id) (linkInfoAt_dump lies received)
  rw [List.filterMap_map, List.filterMap_map] at infos
  have said : (linkMessages platform _ _).filterMap (linkInfoAt platform _) = linksOf messages :=
    infos
  rw [(processLinkEventMsg_spec nlkHandles short []).2 inside, List.nil_append, Option.getD_some,
    said, List.map_flatMap]
  refine congrArg (List.flatMap · _) (funext fun info => ?_)
  rw [List.map_map]
  rfl

end NetLinkRtnl

/-! ### Steps -/

/-- The flags the kernel announced last, how far `OnStart` has come, the listener with its socket,
its handlers and the calls it still has to make for the datagram it has read, and the services. -/
structure LinkSystem where
  kernel : Table String UInt64
  phase : StartPhase := .stopped
  bound : Bool := false
  socket : List (List UInt8) := []
  nlkHandles : List Unit := []
  calls : List NlkEventInfo := []
  services : EthernetSystem

namespace LinkSystem

/-- What can happen: the kernel announces links, the listener binds its socket, reads a datagram or
calls `Handle`, `OnStart` goes on, where `Init` gets a dump first, or something happens in the
services. -/
inductive Action (order : ByteOrder)
  | announce (messages : List Message)
  | bind
  | netLinkHandle
  | handle
  | onStart
  | snapshot (reply : DumpReply order)
  | services (action : EthernetSystem.Action)

section Steps

variable (platform : NetLinkRtnl.Platform)

/-- The kernel announces links to whoever listens. -/
def announce (this : LinkSystem) (messages : List Message) : LinkSystem :=
  { this with
    kernel := (linksOf messages).foldl (fun kernel info => kernel.store info.iface info.ifiFlags)
      this.kernel
    socket := if this.bound then this.socket ++ [dump platform.order messages] else this.socket }

/-- `NetLinkRtnl::NetLinkHandle` reads a datagram, when it is done with the last one. -/
def netLinkHandle (this : LinkSystem) : LinkSystem :=
  match this.calls, this.socket with
  | [], datagram :: rest =>
    { this with socket := rest, calls := callsOf platform this.nlkHandles datagram }
  | _, _ => this

/-- The listener calls `Handle` of the manager, when the manager is free. -/
def handle (this : LinkSystem) : LinkSystem :=
  match this.calls, this.services.underWay, this.services.linkInfos with
  | info :: rest, [], [] =>
    { this with calls := rest, services := this.services.act (.handle info) }
  | _, _, _ => this

/-- `EthernetService::OnStart` starts the listener, and registers the manager when it is done with
the devices. -/
def onStart (this : LinkSystem) : LinkSystem :=
  match this.phase, this.services.underWay, this.services.linkInfos with
  | .stopped, _, _ => { this with phase := .listening }
  | .initialised, [], [] => { this with phase := .running, nlkHandles := this.nlkHandles ++ [()] }
  | _, _, _ => this

/-- `EthernetManagement::Init` gets a dump of the links. -/
def snapshot (this : LinkSystem) (reply : DumpReply platform.order) : LinkSystem :=
  match this.phase with
  | .listening =>
    { this with
      phase := .initialised
      services := { this.services with
        linkInfos := (getLinkInfo platform reply.socket []).result.getD [] } }
  | _ => this

/-- One step. Only the listener calls `Handle`. -/
def step (this : LinkSystem) : Action platform.order → LinkSystem
  | .announce messages => this.announce platform messages
  | .bind => if this.phase = .stopped then this else { this with bound := true }
  | .netLinkHandle => this.netLinkHandle platform
  | .handle => this.handle
  | .onStart => this.onStart
  | .snapshot reply => this.snapshot platform reply
  | .services (.ethernet (.handle _)) => this
  | .services action => { this with services := this.services.step action }

/-- As the services start. -/
def start (answers : Nat → Int) (kernel : Table String UInt64) : LinkSystem where
  kernel := kernel
  services := .start answers []

/-- A dump says of each Ethernet link once what the kernel has announced of it. -/
structure Tells (kernel : Table String UInt64) {order : ByteOrder} (reply : DumpReply order) :
    Prop where
  flags : ∀ link ∈ reply.newlinks, ∀ info ∈ link.eventInfo,
    kernel.read info.iface = some info.ifiFlags
  once : reply.newlinks.Pairwise fun first second =>
    ∀ info ∈ first.eventInfo, ∀ other ∈ second.eventInfo, info.iface ≠ other.iface

/-- Datagrams fit the buffer, the dump is true and comes when the socket is bound, the listener
reads nothing between the dump and the registration, and other clients leave the suppliers of
Ethernet to the manager. -/
def InTime (this : LinkSystem) : Action platform.order → Prop
  | .announce messages => (dump platform.order messages).length ≤ nlkBuffLen
  | .snapshot reply => this.phase = .listening → this.bound = true ∧ Tells this.kernel reply
  | .netLinkHandle => this.phase ≠ .initialised
  | .services action => this.services.LeavesEthernet action
  | .bind | .handle | .onStart => True

end Steps

/-! ### What is on its way -/

/-- The flags of a link will be those of the kernel when this news has been handled. -/
def Ends (kernel : Table String UInt64) (news : List NlkEventInfo) (dev : String)
    (links : Bool × Bool) : Prop :=
  ∃ flags, kernel.read dev = some flags ∧
    linksAfter news dev links = NlkEventInfo.links ⟨dev, flags⟩

/-- The news says nothing of a link, or last what the kernel announced last. -/
def Current (kernel : Table String UInt64) (news : List NlkEventInfo) : Prop :=
  ∀ dev, (∀ info ∈ news, info.iface ≠ dev) ∨ ∀ links, Ends kernel news dev links

theorem linksAfter_append (news more : List NlkEventInfo) (dev : String) (links : Bool × Bool) :
    linksAfter (news ++ more) dev links = linksAfter more dev (linksAfter news dev links) :=
  List.foldl_append

/-- The kernel announces one link, and the news grows by it. -/
theorem Ends.store {kernel : Table String UInt64} {news : List NlkEventInfo} {dev : String}
    {links : Bool × Bool} (ends : Ends kernel news dev links) (info : NlkEventInfo) :
    Ends (kernel.store info.iface info.ifiFlags) (news ++ [info]) dev links := by
  obtain ⟨flags, read, after⟩ := ends
  unfold Ends
  rw [linksAfter_append, linksAfter_cons, linksAfter_nil]
  by_cases about : info.iface = dev
  · subst about
    rw [if_pos rfl, Table.read_store, Function.update_self]
    exact ⟨info.ifiFlags, rfl, rfl⟩
  · rw [if_neg about, Table.read_store, Function.update_of_ne (Ne.symm about)]
    exact ⟨flags, read, after⟩

/-- What the kernel announces is at the end of the news. -/
theorem Ends.announced {kernel : Table String UInt64} {news : List NlkEventInfo} {dev : String}
    {links : Bool × Bool} (ends : Ends kernel news dev links) (infos : List NlkEventInfo) :
    Ends (infos.foldl (fun kernel info => kernel.store info.iface info.ifiFlags) kernel)
      (news ++ infos) dev links := by
  induction infos generalizing kernel news with
  | nil => rwa [List.append_nil]
  | cons info rest inductionHypothesis =>
    have after := inductionHypothesis (ends.store info)
    rwa [List.append_assoc, List.singleton_append] at after

theorem Current.announced {kernel : Table String UInt64} {news : List NlkEventInfo}
    (current : Current kernel news) (infos : List NlkEventInfo) :
    Current (infos.foldl (fun kernel info => kernel.store info.iface info.ifiFlags) kernel)
      (news ++ infos) := by
  induction infos generalizing kernel news with
  | nil => rwa [List.append_nil]
  | cons info rest inductionHypothesis =>
    have first : Current (kernel.store info.iface info.ifiFlags) (news ++ [info]) := by
      intro dev
      by_cases about : info.iface = dev
      · subst about
        refine Or.inr fun links => ⟨info.ifiFlags, ?_, ?_⟩
        · rw [Table.read_store, Function.update_self]
        · rw [linksAfter_append, linksAfter_cons, linksAfter_nil, if_pos rfl]
      · rcases current dev with silent | ends
        · refine Or.inl fun other member => ?_
          rcases List.mem_append.mp member with before | new
          · exact silent other before
          · exact List.mem_singleton.mp new ▸ about
        · exact Or.inr fun links => (ends links).store info
    have after := inductionHypothesis first
    rwa [List.append_assoc, List.singleton_append] at after

/-- What is left of current news when the listener drops some is current. -/
theorem Current.dropped {kernel : Table String UInt64} (dropped : List NlkEventInfo)
    {news : List NlkEventInfo} (current : Current kernel (dropped ++ news)) :
    Current kernel news := by
  intro dev
  by_cases silent : ∀ info ∈ news, info.iface ≠ dev
  · exact Or.inl silent
  · push Not at silent
    obtain ⟨info, member, rfl⟩ := silent
    rcases current info.iface with never | ends
    · exact absurd rfl (never info (List.mem_append_right _ member))
    · refine Or.inr fun links => ?_
      obtain ⟨flags, read, after⟩ := ends links
      rw [linksAfter_append] at after
      exact ⟨flags, read, (linksAfter_of_mem member _ _).trans after⟩

/-- With current news, a link that has the flags of the kernel will have them. -/
theorem Current.ends {kernel : Table String UInt64} {news : List NlkEventInfo}
    (current : Current kernel news) {info : NlkEventInfo}
    (same : kernel.read info.iface = some info.ifiFlags) :
    Ends kernel news info.iface info.links := by
  rcases current info.iface with silent | ends
  · exact ⟨info.ifiFlags, same, linksAfter_of_forall_ne silent _⟩
  · exact ends info.links

end LinkSystem

end NetManager
