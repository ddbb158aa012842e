/-
This file models how the Ethernet manager learns the links at its start. `GetLinkInfo` asks the
kernel for a dump of the links and reads the answer once. The kernel answers with as many
datagrams as the links need, and one `read` returns one datagram. So the dump is complete exactly
when the datagrams after the first carry no link.
-/

import NetManager.Ethernet.NetLinkDump

namespace NetManager

open Library

namespace NetLinkRtnl

/-! ### The request -/

/-- `NLK_SOCK_BUF_LEN`. -/
def nlkSockBufLen : Nat := 20480

/-- What the system calls of `GetLinkInfo` meet: whether the socket is created, whether the request
is sent, and the datagrams that answer it. -/
structure DumpSocket where
  created : Bool
  sent : Bool
  datagrams : List (List UInt8)

/-- `read` into the zeroed buffer: what it returns, and the buffer after it. One call takes one
datagram, as far as it fits; on the non-blocking socket it fails when there is none. -/
def readOnce (datagrams : List (List UInt8)) : Int32 × List UInt8 :=
  match datagrams with
  | [] => (-1, List.replicate nlkSockBufLen 0)
  | datagram :: _ =>
    let received := datagram.take nlkSockBufLen
    (Int32.ofNat received.length,
      received ++ List.replicate (nlkSockBufLen - received.length) 0)

/-- `NetLinkRtnl::GetLinkInfo`. A failed `read` is logged only. -/
def getLinkInfo (platform : Platform) (socket : DumpSocket) (infos : List NlkEventInfo) :
    Traced Access (List NlkEventInfo) :=
  if !socket.created then pure infos
  else if !socket.sent then pure infos
  else
    let (ret, buff) := readOnce socket.datagrams
    processReadMsg platform (some buff) ret infos

/-- `EthernetManagement::Init`, with the interfaces that `GetLinkInfo` returns. -/
def initFromDump (platform : Platform) (socket : DumpSocket) (answers : Nat → Int) :
    Traced Access EthernetManagement :=
  EthernetManagement.init answers <$> getLinkInfo platform socket []

/-! ### The answer -/

/-- `NLMSG_DONE`. -/
def nlmsgDone : UInt16 := 3

/-- An answer to the request: one datagram or more, each of which fits the buffer, and at the end
of the last `NLMSG_DONE`. The socket joins no group, so the links come in `RTM_NEWLINK` messages
only. -/
structure DumpReply (order : ByteOrder) where
  first : List Message
  later : List (List Message)
  fits : ∀ datagram ∈ first :: later, (dump order datagram).length ≤ nlkSockBufLen
  newlink : ∀ link, Message.link link ∈ (first :: later).flatten →
    link.header.nlmsgType = rtmNewlink
  done : ∃ before message, (first :: later).flatten = before ++ [.other message] ∧
    message.header.nlmsgType = nlmsgDone

namespace DumpReply

variable {order : ByteOrder}

/-- The `RTM_NEWLINK` messages of all datagrams, in order. -/
def newlinks (reply : DumpReply order) : List LinkMessage :=
  (reply.first :: reply.later).flatten.filterMap Message.link?

/-- The socket the answer arrives at. -/
def socket (reply : DumpReply order) : DumpSocket where
  created := true
  sent := true
  datagrams := (reply.first :: reply.later).map (dump order)

end DumpReply

/-- `GetLinkInfo` returns a record for every `RTM_NEWLINK` message of the answer, in order, and
`Init` creates a device for every Ethernet interface among them that has a name. -/
structure DumpComplete (platform : Platform) (reply : DumpReply platform.order)
    (answers : Nat → Int) : Prop where
  records : (getLinkInfo platform reply.socket []).result =
    some (reply.newlinks.map fun link => link.eventInfo.getD {})
  devices : ∀ link ∈ reply.newlinks, link.ifInfo.ifiType = arphrdEther → link.iface ≠ "" →
    ∃ manager, (initFromDump platform reply.socket answers).result = some manager ∧
      (manager.devs.read link.iface).isSome = true

/-- The datagrams after the first carry no link. -/
def DumpReply.InOneDatagram {order : ByteOrder} (reply : DumpReply order) : Prop :=
  ∀ datagram ∈ reply.later, ∀ link, Message.link link ∉ datagram

/-! ### What one read returns -/

section Reading

variable {platform : Platform} (reply : DumpReply platform.order)

/-- `GetLinkInfo` returns the links of the first datagram. -/
theorem getLinkInfo_reply :
    (getLinkInfo platform reply.socket []).result =
      some ((reply.first.filterMap Message.link?).map fun link => link.eventInfo.getD {}) := by
  have fits : (dump platform.order reply.first).length ≤ nlkSockBufLen :=
    reply.fits _ List.mem_cons_self
  have whole : (dump platform.order reply.first).take nlkSockBufLen =
      dump platform.order reply.first := List.take_of_length_le fits
  have received : (Int32.ofNat (dump platform.order reply.first).length).toInt =
      (dump platform.order reply.first).length := by
    rw [nlkSockBufLen] at fits
    exact Int32.toInt_ofNat_of_lt (by omega)
  have read := processReadMsg_dump platform reply.first
    (List.replicate (nlkSockBufLen - (dump platform.order reply.first).length) 0) _ received []
  rw [List.nil_append, ← whole] at read
  simpa only [getLinkInfo, DumpReply.socket, List.map_cons, readOnce, whole, Bool.not_true,
    Bool.false_eq_true, if_false] using read

/-- A link message of an answer is in its first datagram or in a later one. -/
theorem newlinks_eq : reply.newlinks =
    reply.first.filterMap Message.link? ++ reply.later.flatten.filterMap Message.link? := by
  rw [DumpReply.newlinks, List.flatten_cons, List.filterMap_append]

theorem inOneDatagram_iff :
    reply.InOneDatagram ↔ reply.later.flatten.filterMap Message.link? = [] := by
  rw [List.filterMap_eq_nil_iff, List.forall_mem_flatten]
  refine forall₂_congr fun datagram _ => ?_
  constructor
  · intro none message member
    cases message with
    | link link => exact absurd member (none link)
    | other other => rfl
  · intro none link member
    cases none _ member

/-- When `GetLinkInfo` returns a record for a link, `Init` creates its device. -/
theorem device_of_record {linkInfos : List NlkEventInfo} (answers : Nat → Int)
    (read : (getLinkInfo platform reply.socket []).result = some linkInfos) {link : LinkMessage}
    (record : link.eventInfo.getD {} ∈ linkInfos) (ether : link.ifInfo.ifiType = arphrdEther)
    (named : link.iface ≠ "") :
    ∃ manager, (initFromDump platform reply.socket answers).result = some manager ∧
      (manager.devs.read link.iface).isSome = true := by
  have info : link.eventInfo.getD {} =
      { iface := link.iface, ifiFlags := link.ifInfo.ifiFlags.toUInt64 } := by
    rw [LinkMessage.eventInfo, if_pos ether, Option.getD_some]
  refine ⟨EthernetManagement.init answers linkInfos, ?_, ?_⟩
  · rw [initFromDump, Traced.result_map, read, Option.map_some]
  · rw [EthernetManagement.known_init]
    exact ⟨named, _, record, by rw [info]⟩

/-- The dump is complete exactly when the datagrams after the first carry no link. -/
theorem dumpComplete_iff (answers : Nat → Int) :
    DumpComplete platform reply answers ↔ reply.InOneDatagram := by
  rw [inOneDatagram_iff]
  constructor
  · intro complete
    have records := complete.records
    rw [getLinkInfo_reply, newlinks_eq, List.map_append, Option.some.injEq,
      List.self_eq_append_right, List.map_eq_nil_iff] at records
    exact records
  · intro none
    have all : reply.newlinks = reply.first.filterMap Message.link? := by
      rw [newlinks_eq, none, List.append_nil]
    have read := getLinkInfo_reply reply
    rw [← all] at read
    exact ⟨read, fun link member => device_of_record reply answers read
      (List.mem_map_of_mem (f := fun link => link.eventInfo.getD {}) member)⟩

end Reading

/-- The name `eth1`, with its NUL. -/
def secondName : Attribute where
  rtaType := 3
  payload := [101, 116, 104, 49, 0]
  padding := [0, 0, 0]
  rtaLen_lt := by decide
  padded := rfl
  terminated := fun _ => by decide

/-- Two interfaces in a datagram each. -/
def twoDatagrams : DumpReply littlePlatform.order where
  first := [.link (etherLink ethName)]
  later := [[.link (etherLink secondName), .other doneMessage]]
  fits := by decide
  newlink := by
    intro link member
    have listed : Message.link link ∈
        [.link (etherLink ethName), .link (etherLink secondName), .other doneMessage] := member
    simp only [List.mem_cons, Message.link.injEq, reduceCtorEq, List.not_mem_nil, or_false]
      at listed
    rcases listed with rfl | rfl
    · rfl
    · rfl
  done := ⟨[.link (etherLink ethName), .link (etherLink secondName)], doneMessage, rfl, rfl⟩

/-- The second interface is not read. -/
theorem second_datagram_lost :
    ¬ DumpComplete littlePlatform twoDatagrams fun _ => 1001 := by
  intro complete
  have records := complete.records
  rw [getLinkInfo_reply, Option.some.injEq] at records
  exact absurd (congrArg List.length records) (by decide)

end NetLinkRtnl

end NetManager
