/-
This file settles what is parsed from well-formed netlink messages. A link message is written down
as its header, its interface information and its attributes, each with its true length and padded
to four bytes; the other messages are a header and any payload. Over a dump of such messages both
parsers read exactly the link messages, in order: the one for dumps returns a record for each, the
one for events hands the records of the Ethernet links to the handlers.
-/

import NetManager.Ethernet.NetLinkBounds
import Mathlib.Data.List.TakeWhile

namespace NetManager

open Library

namespace NetLinkRtnl

/-! ### Attributes -/

/-- An attribute, with the bytes that pad it; the name of an interface has a NUL. -/
structure Attribute where
  rtaType : UInt16
  payload : List UInt8
  padding : List UInt8
  rtaLen_lt : 4 + payload.length < 2 ^ 16
  padded : payload.length + padding.length = (payload.length + 3) / 4 * 4
  terminated : rtaType.toNat = iflaIfname → 0 ∈ payload

namespace Attribute

/-- `rta_len`. -/
def rtaLen (this : Attribute) : UInt16 := UInt16.ofNat (4 + this.payload.length)

/-- The attribute as it is sent. -/
def bytes (order : ByteOrder) (this : Attribute) : List UInt8 :=
  order.bytes 2 this.rtaLen.toNat ++
    (order.bytes 2 this.rtaType.toNat ++ (this.payload ++ this.padding))

/-- The name of the interface: the characters up to the first NUL. -/
def name? (this : Attribute) : Option String :=
  if this.rtaType.toNat = iflaIfname then some (text (this.payload.takeWhile (· ≠ 0))) else none

end Attribute

/-! ### Messages -/

/-- What the header of a message says besides its length. -/
structure Nlmsghdr where
  nlmsgType : UInt16
  nlmsgFlags : UInt16
  nlmsgSeq : UInt32
  nlmsgPid : UInt32

/-- The header of a message of the given length. -/
def Nlmsghdr.bytes (order : ByteOrder) (nlmsgLen : UInt32) (this : Nlmsghdr) : List UInt8 :=
  order.bytes 4 nlmsgLen.toNat ++ (order.bytes 2 this.nlmsgType.toNat ++
    (order.bytes 2 this.nlmsgFlags.toNat ++ (order.bytes 4 this.nlmsgSeq.toNat ++
      order.bytes 4 this.nlmsgPid.toNat)))

/-- The interface information. -/
structure Ifinfomsg where
  ifiFamily : UInt8
  ifiPad : UInt8
  ifiType : UInt16
  ifiIndex : Int32
  ifiFlags : UInt32
  ifiChange : UInt32

/-- The interface information as it is sent. -/
def Ifinfomsg.bytes (order : ByteOrder) (this : Ifinfomsg) : List UInt8 :=
  [this.ifiFamily, this.ifiPad] ++ (order.bytes 2 this.ifiType.toNat ++
    (order.bytes 4 this.ifiIndex.toUInt32.toNat ++ (order.bytes 4 this.ifiFlags.toNat ++
      order.bytes 4 this.ifiChange.toNat)))

/-- A message about a link. Its length may or may not count the bytes that pad its last
attribute. -/
structure LinkMessage where
  header : Nlmsghdr
  link : isLink header.nlmsgType = true
  ifInfo : Ifinfomsg
  attrs : List Attribute
  uncounted : Nat
  uncounted_le : uncounted ≤ (attrs.getLast?.map fun last => last.padding.length).getD 0

/-- A message of another type. -/
structure OtherMessage where
  header : Nlmsghdr
  other : isLink header.nlmsgType = false
  payload : List UInt8
  padding : List UInt8
  padded : payload.length + padding.length = (payload.length + 3) / 4 * 4

namespace LinkMessage

/-- The attributes as they are sent. -/
def attrBytes (order : ByteOrder) (this : LinkMessage) : List UInt8 :=
  this.attrs.flatMap (Attribute.bytes order)

/-- `nlmsg_len`. -/
def nlmsgLen (order : ByteOrder) (this : LinkMessage) : UInt32 :=
  UInt32.ofNat (32 + (this.attrBytes order).length - this.uncounted)

/-- The message as it is sent. -/
def bytes (order : ByteOrder) (this : LinkMessage) : List UInt8 :=
  this.header.bytes order (this.nlmsgLen order) ++
    (this.ifInfo.bytes order ++ this.attrBytes order)

/-- The name of the last name attribute. -/
def iface (this : LinkMessage) : String := (this.attrs.filterMap Attribute.name?).getLast?.getD ""

/-- What the message says, if it is about an Ethernet link. -/
def eventInfo (this : LinkMessage) : Option NlkEventInfo :=
  if this.ifInfo.ifiType = arphrdEther then
    some { iface := this.iface, ifiFlags := this.ifInfo.ifiFlags.toUInt64 }
  else none

end LinkMessage

/-- A netlink message. -/
inductive Message
  | link (message : LinkMessage)
  | other (message : OtherMessage)

namespace Message

/-- `nlmsg_len`. -/
def nlmsgLen (order : ByteOrder) : Message → UInt32
  | link message => message.nlmsgLen order
  | other message => UInt32.ofNat (16 + message.payload.length)

/-- The message as it is sent. -/
def bytes (order : ByteOrder) : Message → List UInt8
  | link message => message.bytes order
  | other message => message.header.bytes order (UInt32.ofNat (16 + message.payload.length)) ++
      (message.payload ++ message.padding)

/-- The message about a link. -/
def link? : Message → Option LinkMessage
  | link message => some message
  | other _ => none

end Message

/-! ### Attributes in memory -/

section Dump

variable {platform : Platform} {memory : List UInt8}

theorem toNat_rtaLen (attr : Attribute) :
    attr.rtaLen.toUInt32.toNat = 4 + attr.payload.length := by
  rw [UInt16.toNat_toUInt32]
  exact UInt16.toNat_ofNat_of_lt' attr.rtaLen_lt

theorem length_attribute (order : ByteOrder) (attr : Attribute) :
    (attr.bytes order).length = 4 + (attr.payload.length + attr.padding.length) := by
  unfold Attribute.bytes
  simp only [List.length_append, ByteOrder.length_bytes]
  omega

/-- An attribute is laid out with its true size. -/
theorem laidOut_attribute (platform : Platform) (attr : Attribute) :
    RecordKind.LaidOut (attributes platform) (attr.bytes platform.order)
      attr.rtaLen.toUInt32 where
  header_le := by
    rw [toNat_rtaLen]
    exact Nat.le_add_right 4 _
  padded := by
    have padded := attr.padded
    rw [toNat_rtaLen, length_attribute]
    omega
  claimed memory place lies :=
    congrArg (Option.map UInt16.toUInt32) (ByteOrder.u16At_eq_some lies.left)

/-- The attribute is found at the place, in a message that ends at the bound. -/
abbrev AttributeAt (platform : Platform) (memory : List UInt8) (bound : Int) (place : Nat)
    (attr : Attribute) : Prop :=
  RecordKind.FoundAt (attributes platform) memory bound (attr.bytes platform.order)
    attr.rtaLen.toUInt32 place

variable {bound : Int} {place : Nat} {attr : Attribute}

theorem isName_attributeAt (found : AttributeAt platform memory bound place attr) :
    isName platform memory place = (attr.rtaType.toNat == iflaIfname) := by
  have typed : platform.order.u16At memory (place + 2) = some attr.rtaType := by
    have lies := found.lies.right.left
    rw [ByteOrder.length_bytes] at lies
    exact ByteOrder.u16At_eq_some lies
  unfold isName
  rw [typed, Option.any_some]

/-- The payload of an attribute lies after its header. -/
theorem payload_attributeAt (found : AttributeAt platform memory bound place attr) :
    LiesAt memory attr.payload (place + 4) := by
  have lies := found.lies.right.right.left
  rwa [ByteOrder.length_bytes, ByteOrder.length_bytes] at lies

/-- A C string that starts with the payload ends in it. -/
theorem takeWhile_payload {payload : List UInt8} {start : Nat} (lies : LiesAt memory payload start)
    (terminated : 0 ∈ payload) :
    (memory.drop start).takeWhile (· ≠ 0) = payload.takeWhile (· ≠ 0) := by
  obtain ⟨after, same⟩ := lies
  have ends : ¬ (payload.takeWhile (· ≠ 0)).length = payload.length := by
    intro whole
    have all : payload.takeWhile (· ≠ 0) = payload :=
      (List.takeWhile_prefix _).eq_of_length whole
    have zero := List.takeWhile_eq_self_iff.mp all 0 terminated
    simp at zero
  rw [← same, List.takeWhile_append, if_neg ends]

/-- The name that is copied from an attribute is the one it was given. -/
theorem name_attributeAt (found : AttributeAt platform memory bound place attr) :
    (if isName platform memory place then
      some (text ((memory.drop (place + 4)).takeWhile (· ≠ 0))) else none) = attr.name? := by
  rw [isName_attributeAt found]
  unfold Attribute.name?
  by_cases named : attr.rtaType.toNat = iflaIfname
  · rw [if_pos (beq_iff_eq.mpr named), if_pos named,
      takeWhile_payload (payload_attributeAt found) (attr.terminated named)]
  · rw [if_neg (fun same => named (beq_iff_eq.mp same)), if_neg named]

/-- A name that is copied from an attribute ends before the bound. -/
theorem nul_attributeAt (found : AttributeAt platform memory bound place attr)
    (named : isName platform memory place = true) :
    ∃ index : Nat, place + 4 ≤ index ∧ (index : Int) < bound ∧ memory[index]? = some 0 := by
  rw [isName_attributeAt found] at named
  obtain ⟨index, within, zero⟩ := List.getElem_of_mem (attr.terminated (beq_iff_eq.mp named))
  have inside := found.inside
  rw [toNat_rtaLen] at inside
  refine ⟨place + 4 + index, Nat.le_add_right _ _, by push_cast at inside ⊢; omega, ?_⟩
  rw [(payload_attributeAt found).getElem? within, zero]

/-! ### Link messages in memory -/

/-- The attributes are padded to four bytes. -/
theorem dvd_length_attrBytes (order : ByteOrder) (attrs : List Attribute) :
    4 ∣ (attrs.flatMap (Attribute.bytes order)).length := by
  induction attrs with
  | nil => exact dvd_zero 4
  | cons attr rest inductionHypothesis =>
    have padded := attr.padded
    have here : 4 ∣ (attr.bytes order).length := by
      rw [length_attribute, padded]
      exact Nat.dvd_add (dvd_refl 4) (Nat.dvd_mul_left 4 _)
    rw [List.flatMap_cons, List.length_append]
    exact Nat.dvd_add here inductionHypothesis

variable {link : LinkMessage}

theorem uncounted_le_padding {last : Attribute} (member : last ∈ link.attrs.getLast?) :
    link.uncounted ≤ last.padding.length := by
  have least := link.uncounted_le
  rwa [Option.mem_def.mp member, Option.map_some, Option.getD_some] at least

/-- What is not counted is part of the padding of the last attribute. -/
theorem uncounted_bounds (order : ByteOrder) (link : LinkMessage) :
    link.uncounted ≤ 3 ∧ link.uncounted ≤ (link.attrBytes order).length := by
  cases last : link.attrs.getLast? with
  | none =>
    have least := link.uncounted_le
    rw [last, Option.map_none, Option.getD_none] at least
    exact ⟨by omega, by omega⟩
  | some attr =>
    have least := uncounted_le_padding (Option.mem_def.mpr last)
    have whole : (attr.bytes order).length ≤ (link.attrBytes order).length :=
      RecordKind.length_le_length_flatMap (List.mem_of_getLast? last)
    have padded := attr.padded
    rw [length_attribute] at whole
    exact ⟨by omega, by omega⟩

@[simp] theorem length_nlmsghdr (order : ByteOrder) (nlmsgLen : UInt32) (header : Nlmsghdr) :
    (header.bytes order nlmsgLen).length = 16 := by
  unfold Nlmsghdr.bytes
  simp only [List.length_append, ByteOrder.length_bytes]

@[simp] theorem length_ifinfomsg (order : ByteOrder) (ifInfo : Ifinfomsg) :
    (ifInfo.bytes order).length = 16 := by
  unfold Ifinfomsg.bytes
  simp only [List.length_append, List.length_cons, List.length_nil, ByteOrder.length_bytes]

theorem length_link (order : ByteOrder) (link : LinkMessage) :
    (link.bytes order).length = 32 + (link.attrBytes order).length := by
  unfold LinkMessage.bytes
  rw [List.length_append, List.length_append, length_nlmsghdr, length_ifinfomsg]
  omega

theorem toNat_nlmsgLen {order : ByteOrder} (small : (link.bytes order).length < 2 ^ 32) :
    (link.nlmsgLen order).toNat = 32 + (link.attrBytes order).length - link.uncounted := by
  rw [length_link] at small
  exact UInt32.toNat_ofNat_of_lt' (lt_of_le_of_lt (Nat.sub_le _ _) small)

/-- A message is laid out with its true size. -/
theorem laidOut_message (platform : Platform) (message : Message)
    (small : (message.bytes platform.order).length < 2 ^ 32) :
    RecordKind.LaidOut (messages platform) (message.bytes platform.order)
      (message.nlmsgLen platform.order) := by
  cases message with
  | link message =>
    have bounds := uncounted_bounds platform.order message
    have whole := dvd_length_attrBytes platform.order message.attrs
    have size := toNat_nlmsgLen small
    refine ⟨?_, ?_, fun memory place lies => ByteOrder.u32At_eq_some lies.left.left⟩
    · show 16 ≤ (message.nlmsgLen platform.order).toNat
      omega
    · show (message.bytes platform.order).length =
        ((message.nlmsgLen platform.order).toNat + 3) / 4 * 4
      rw [length_link, size]
      unfold LinkMessage.attrBytes at bounds ⊢
      omega
  | other message =>
    have length : ((Message.other message).bytes platform.order).length =
        16 + (message.payload.length + message.padding.length) := by
      show (message.header.bytes platform.order _ ++ _).length = _
      rw [List.length_append, List.length_append, length_nlmsghdr]
    have padded := message.padded
    have size : ((Message.other message).nlmsgLen platform.order).toNat =
        16 + message.payload.length :=
      UInt32.toNat_ofNat_of_lt' (show _ < 2 ^ 32 by omega)
    refine ⟨?_, ?_, fun memory place lies => ByteOrder.u32At_eq_some lies.left.left⟩
    · rw [size]
      exact Nat.le_add_right 16 _
    · rw [size, length]
      omega

/-- The message is found at the place. -/
abbrev MessageAt (platform : Platform) (memory : List UInt8) (bound : Int) (place : Nat)
    (message : Message) : Prop :=
  RecordKind.FoundAt (messages platform) memory bound (message.bytes platform.order)
    (message.nlmsgLen platform.order) place

variable {len : Int32}

/-- The fields of a header are where they are read. -/
theorem fields_nlmsghdr {header : Nlmsghdr} {nlmsgLen : UInt32}
    (lies : LiesAt memory (header.bytes platform.order nlmsgLen) place) :
    platform.order.u32At memory place = some nlmsgLen ∧
      platform.order.u16At memory (place + 4) = some header.nlmsgType := by
  have nlmsgType := lies.right.left
  rw [ByteOrder.length_bytes] at nlmsgType
  exact ⟨ByteOrder.u32At_eq_some lies.left, ByteOrder.u16At_eq_some nlmsgType⟩

/-- The fields of the interface information are where they are read. -/
theorem fields_ifinfomsg {ifInfo : Ifinfomsg}
    (lies : LiesAt memory (ifInfo.bytes platform.order) (place + 16)) :
    platform.order.u16At memory (place + 18) = some ifInfo.ifiType ∧
      platform.order.u32At memory (place + 24) = some ifInfo.ifiFlags := by
  have ifiType := lies.right.left
  have ifiFlags := lies.right.right.right.left
  simp only [ByteOrder.length_bytes, List.length_cons, List.length_nil] at ifiType ifiFlags
  exact ⟨ByteOrder.u16At_eq_some ifiType, ByteOrder.u32At_eq_some ifiFlags⟩

/-- The messages about links are told by their type. -/
theorem isLinkAt_messageAt {message : Message}
    (found : MessageAt platform memory len.toInt place message) :
    isLinkAt platform memory place = message.link?.isSome := by
  unfold isLinkAt
  cases message with
  | link message =>
    rw [(fields_nlmsghdr found.lies.left).2, Option.any_some, message.link]
    rfl
  | other message =>
    rw [(fields_nlmsghdr found.lies.left).2, Option.any_some, message.other]
    rfl

/-- The length of a link message is the true one. -/
theorem size_messageAt (found : MessageAt platform memory len.toInt place (.link link)) :
    (link.nlmsgLen platform.order).toNat =
        32 + (link.attrBytes platform.order).length - link.uncounted ∧
      (place + (link.nlmsgLen platform.order).toNat : Int) ≤ len.toInt := by
  have short := len.toInt_lt
  have inside : (place + (link.nlmsgLen platform.order).toNat : Int) ≤ len.toInt := found.inside
  have padded : (link.bytes platform.order).length =
      ((link.nlmsgLen platform.order).toNat + 3) / 4 * 4 := found.laidOut.padded
  exact ⟨toNat_nlmsgLen (by omega), inside⟩

/-- The loop over the attributes of a link message enters each of them. -/
theorem attributesAt_messageAt (found : MessageAt platform memory len.toInt place (.link link)) :
    List.Forall₂ (AttributeAt platform memory len.toInt) (attributesAt platform memory place)
      link.attrs := by
  have short := len.toInt_lt
  obtain ⟨size, inside⟩ := size_messageAt found
  have bounds := uncounted_bounds platform.order link
  have data : (link.nlmsgLen platform.order - 32).toInt32.toInt =
      (link.nlmsgLen platform.order).toNat - 32 := toInt_data (by omega) (by omega)
  have lies : LiesAt memory (link.attrBytes platform.order) (place + 32) := by
    have lies := found.lies.right.right
    rwa [length_nlmsghdr, length_ifinfomsg] at lies
  have total : (link.nlmsgLen platform.order - 32).toInt32.toInt + link.uncounted =
      (link.attrBytes platform.order).length := by omega
  have counted : ∀ last ∈ link.attrs.getLast?,
      last.rtaLen.toUInt32.toNat + link.uncounted ≤ (last.bytes platform.order).length := by
    intro last member
    have least := uncounted_le_padding member
    rw [toNat_rtaLen, length_attribute]
    omega
  have entered := RecordKind.visited_laidOut rfl
    (fun attr _ => laidOut_attribute platform attr) lies total counted
  unfold attributesAt
  rw [(fields_nlmsghdr found.lies.left).1]
  refine entered.imp fun attr place found => ⟨found.laidOut, found.lies, ?_⟩
  have own := found.inside
  push_cast at own
  omega

/-- A link message that is found says what it was given, and is inside. -/
theorem linkInfoAt_messageAt (found : MessageAt platform memory len.toInt place (.link link)) :
    linkInfoAt platform memory place = link.eventInfo := by
  have ifInfo : LiesAt memory (link.ifInfo.bytes platform.order) (place + 16) := by
    have lies := found.lies.right.left
    rwa [length_nlmsghdr] at lies
  obtain ⟨ifiType, ifiFlags⟩ := fields_ifinfomsg ifInfo
  have names : ((attributesAt platform memory place).filter (isName platform memory)).map
      (fun attr => text ((memory.drop (attr + 4)).takeWhile (· ≠ 0))) =
        link.attrs.filterMap Attribute.name? :=
    RecordKind.map_filter_eq_filterMap (attributesAt_messageAt found) fun _ _ => name_attributeAt
  have iface : ifaceAt platform memory place = link.iface := by
    unfold LinkMessage.iface
    rw [← names, List.getLast?_map]
    unfold ifaceAt nameAt
    cases ((attributesAt platform memory place).filter (isName platform memory)).getLast? with
    | none => rfl
    | some attr => rfl
  unfold linkInfoAt isEtherAt LinkMessage.eventInfo
  rw [ifiType, ifiFlags, iface]
  exact if_congr (by rw [beq_iff_eq, Option.some.injEq]) rfl rfl

theorem linkInside_messageAt (found : MessageAt platform memory len.toInt place (.link link)) :
    LinkInside platform memory len place := by
  have short := len.toInt_lt
  obtain ⟨size, inside⟩ := size_messageAt found
  have bounds := uncounted_bounds platform.order link
  refine ⟨by omega, fun _ attr named => ?_⟩
  obtain ⟨entered, name⟩ := List.mem_filter.mp (List.mem_of_getLast? named)
  exact RecordKind.forall_of_forall₂ (attributesAt_messageAt found)
    (fun _ _ found => nul_attributeAt found) attr entered name

/-! ### Dumps -/

/-- The messages as they are received. -/
def dump (order : ByteOrder) (sent : List Message) : List UInt8 :=
  sent.flatMap (Message.bytes order)

/-- What is received lies in the buffer. -/
theorem visited_dump {sent : List Message} (lies : LiesAt memory (dump platform.order sent) 0)
    (received : len.toInt = (dump platform.order sent).length) :
    List.Forall₂ (MessageAt platform memory len.toInt)
      ((messages platform).visited memory 0 len) sent := by
  have short := len.toInt_lt
  have laid : ∀ message ∈ sent, RecordKind.LaidOut (messages platform)
      (message.bytes platform.order) (message.nlmsgLen platform.order) := by
    intro message member
    have whole : (message.bytes platform.order).length ≤ (dump platform.order sent).length :=
      RecordKind.length_le_length_flatMap member
    exact laidOut_message platform message (by omega)
  have counted : ∀ last ∈ sent.getLast?,
      (last.nlmsgLen platform.order).toNat + 0 ≤ (last.bytes platform.order).length := by
    intro last member
    rw [(laid last (List.mem_of_getLast? member)).padded]
    omega
  refine RecordKind.visited_laidOut (by push_cast; omega) laid lies ?_ counted
  rw [Nat.cast_zero, add_zero, received]
  rfl

variable {sent : List Message}

/-- Every link message of a dump is inside. -/
theorem linksInside_dump (lies : LiesAt memory (dump platform.order sent) 0)
    (received : len.toInt = (dump platform.order sent).length) :
    LinksInside platform memory len := by
  intro place member
  obtain ⟨visited, link⟩ := List.mem_filter.mp member
  have inside : ∀ place message, MessageAt platform memory len.toInt place message →
      isLinkAt platform memory place = true → LinkInside platform memory len place := by
    intro place message found link
    cases message with
    | link message => exact linkInside_messageAt found
    | other message =>
      rw [isLinkAt_messageAt found] at link
      cases link
  exact RecordKind.forall_of_forall₂ (visited_dump lies received) inside place visited link

/-- The link messages of a dump say what they were given, in order. -/
theorem linkInfoAt_dump (lies : LiesAt memory (dump platform.order sent) 0)
    (received : len.toInt = (dump platform.order sent).length) :
    (linkMessages platform memory len).map (linkInfoAt platform memory) =
      (sent.filterMap Message.link?).map LinkMessage.eventInfo := by
  rw [List.map_filterMap]
  refine RecordKind.map_filter_eq_filterMap (visited_dump lies received) ?_
  intro place message found
  rw [isLinkAt_messageAt found]
  cases message with
  | link message =>
    rw [linkInfoAt_messageAt found]
    rfl
  | other message => rfl

/-- The parser for dumps returns one record for each link message of a dump at the start of the
buffer, in order. -/
theorem processReadMsg_dump (platform : Platform) (sent : List Message) (rest : List UInt8)
    (len : Int32) (received : len.toInt = (dump platform.order sent).length)
    (infos : List NlkEventInfo) :
    (processReadMsg platform (some (dump platform.order sent ++ rest)) len infos).result =
      some (infos ++ (sent.filterMap Message.link?).map fun link => link.eventInfo.getD {}) := by
  have lies : LiesAt (dump platform.order sent ++ rest) (dump platform.order sent) 0 :=
    List.prefix_append _ rest
  have short : len.toInt ≤ (dump platform.order sent ++ rest).length := by
    rw [received, List.length_append]
    omega
  have records := congrArg (List.map fun info => info.getD {}) (linkInfoAt_dump lies received)
  rw [List.map_map, List.map_map] at records
  rw [(processReadMsg_spec short infos).2 (linksInside_dump lies received)]
  exact congrArg (fun records => some (infos ++ records)) records

/-- Over every sequence of well-formed messages, whatever follows in the buffer, the parser for
dumps returns one record for each link message, which is empty if it is not about an Ethernet
link, and the parser for events hands to every handler the records of the Ethernet links and
nothing else. Both keep the order. -/
theorem dump_parsed {Handler : Type} (platform : Platform) (sent : List Message)
    (rest : List UInt8) (len : Int32)
    (received : len.toInt = (dump platform.order sent).length) (nlkHandles : List Handler) :
    (processReadMsg platform (some (dump platform.order sent ++ rest)) len []).result =
        some ((sent.filterMap Message.link?).map fun link => link.eventInfo.getD {}) ∧
      (processLinkEventMsg platform nlkHandles (some (dump platform.order sent ++ rest)) len
          []).result =
        some (((sent.filterMap Message.link?).filterMap LinkMessage.eventInfo).flatMap fun info =>
          nlkHandles.map fun handle => (handle, info)) := by
  have lies : LiesAt (dump platform.order sent ++ rest) (dump platform.order sent) 0 :=
    List.prefix_append _ rest
  have short : len.toInt ≤ (dump platform.order sent ++ rest).length := by
    rw [received, List.length_append]
    omega
  have inside := linksInside_dump lies received
  have infos := linkInfoAt_dump lies received
  constructor
  · exact processReadMsg_dump platform sent rest len received []
  · rw [(processLinkEventMsg_spec nlkHandles short []).2 inside, List.nil_append]
    have records := congrArg (List.filterMap id) infos
    rw [List.filterMap_map, List.filterMap_map] at records
    exact congrArg (fun infos => some (List.flatMap _ infos)) records

end Dump

/-! ### An example of a dump -/

/-- An `RTM_NEWLINK` message about an Ethernet link with the given name attribute. -/
def etherLink (name : Attribute) : LinkMessage where
  header := { nlmsgType := rtmNewlink, nlmsgFlags := 2, nlmsgSeq := 1, nlmsgPid := 0 }
  link := rfl
  ifInfo :=
    { ifiFamily := 0, ifiPad := 0, ifiType := arphrdEther, ifiIndex := 2, ifiFlags := 0x10003,
      ifiChange := 0 }
  attrs := [name]
  uncounted := 0
  uncounted_le := Nat.zero_le _

/-- An `NLMSG_DONE` message. -/
def doneMessage : OtherMessage where
  header := { nlmsgType := 3, nlmsgFlags := 2, nlmsgSeq := 1, nlmsgPid := 0 }
  other := rfl
  payload := [0, 0, 0, 0]
  padding := []
  padded := rfl

/-- The name `eth0`, with its NUL. -/
def ethName : Attribute where
  rtaType := 3
  payload := [101, 116, 104, 48, 0]
  padding := [0, 0, 0]
  rtaLen_lt := by decide
  padded := rfl
  terminated := fun _ => by decide

theorem ether_link_parsed :
    (processReadMsg littlePlatform
        (some (dump .little [.link (etherLink ethName), .other doneMessage] ++ [])) 64 []).result =
        some [{ iface := "eth0", ifiFlags := 0x10003 }] ∧
      (processLinkEventMsg littlePlatform ["first", "second"]
        (some (dump .little [.link (etherLink ethName), .other doneMessage] ++ [])) 64 []).result =
        some [("first", { iface := "eth0", ifiFlags := 0x10003 }),
          ("second", { iface := "eth0", ifiFlags := 0x10003 })] :=
  dump_parsed littlePlatform [.link (etherLink ethName), .other doneMessage] [] 64 (by decide)
    ["first", "second"]

end NetLinkRtnl

end NetManager
