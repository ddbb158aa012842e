/-
This file models how netlink messages are parsed: `ProcessReadMsg` collects what a dump of the
links says, `ProcessLinkEventMsg` hands what an event says to the registered handlers. Both walk
over the messages in the received bytes, and over the attributes in a message, with the macros of
the kernel headers, and both trust the lengths they find there. What the headers and the machine
fix is a parameter: the order of bytes and `IFLA_MAX`.
-/

import NetManager.Ethernet.EthernetManagement
import NetManager.Library.ByteOrder
import NetManager.Library.RecordWalk

namespace NetManager

open Library

namespace NetLinkRtnl

/-! ### Constants and structures of the kernel headers -/

/-- `RTM_NEWLINK`. -/
def rtmNewlink : UInt16 := 16

/-- `RTM_DELLINK`. -/
def rtmDellink : UInt16 := 17

/-- `ARPHRD_ETHER`. -/
def arphrdEther : UInt16 := 1

/-- `IFLA_IFNAME`. -/
def iflaIfname : Nat := 3

/-- The order of bytes of the machine, and the last attribute type its kernel headers know. -/
structure Platform where
  order : ByteOrder
  iflaMax : Nat
  iflaIfname_le : iflaIfname ≤ iflaMax

/-- An access to the received bytes: to a structure that lies at an offset, or to a character. -/
inductive Access
  | nlmsghdr (offset : Nat)
  | ifinfomsg (offset : Nat)
  | rtattr (offset : Nat)
  | character (offset : Nat)
deriving DecidableEq

/-- Where the access ends. -/
def Access.stop : Access → Nat
  | .nlmsghdr offset => offset + 16
  | .ifinfomsg offset => offset + 16
  | .rtattr offset => offset + 4
  | .character offset => offset + 1

/-- The access is to received bytes only. -/
def Access.Within (len : Int32) (access : Access) : Prop := (access.stop : Int) ≤ len.toInt

/-! ### Reading a link message -/

section Parsing

variable (platform : Platform) (memory : List UInt8)

/-- What `NLMSG_OK` and `NLMSG_NEXT` look at: `nlmsg_len`. -/
def messages : RecordKind Access where
  header := 16
  header_pos := by decide
  touch := .nlmsghdr
  size := fun memory nh => platform.order.u32At memory nh

/-- What `RTA_OK` and `RTA_NEXT` look at: `rta_len`. -/
def attributes : RecordKind Access where
  header := 4
  header_pos := by decide
  touch := .rtattr
  size := fun memory attr => (platform.order.u16At memory attr).map UInt16.toUInt32

/-- `struct rtattr *tb[IFLA_MAX + 1]`. -/
abbrev AttributeTable := Fin (platform.iflaMax + 1) → Option Nat

/-- `tb[attr->rta_type] = attr`, for the types there is a place for. -/
def enter (rtaType : UInt16) (attr : Nat) (tb : AttributeTable platform) :
    AttributeTable platform :=
  if known : rtaType.toNat ≤ platform.iflaMax then
    Function.update tb ⟨rtaType.toNat, Nat.lt_succ_of_le known⟩ (some attr)
  else tb

/-- `tb[IFLA_IFNAME]`. -/
def nameEntry (tb : AttributeTable platform) : Option Nat :=
  tb ⟨iflaIfname, Nat.lt_succ_of_le platform.iflaIfname_le⟩

/-- One round of the loop over the attributes. -/
def collect (attr : Nat) (tb : AttributeTable platform) :
    Traced Access (AttributeTable platform) := do
  Traced.touch (.rtattr attr)
  let rtaType ← Traced.require (platform.order.u16At memory (attr + 2))
  pure (enter platform rtaType attr tb)

/-- The characters of a C string up to the first NUL, which is looked for without a limit. -/
def cString : List UInt8 → Nat → Traced Access (List UInt8)
  | [], offset => do
    Traced.touch (.character offset)
    Traced.require none
  | byte :: rest, offset => do
    Traced.touch (.character offset)
    if byte = 0 then pure []
    else do
      let name ← cString rest (offset + 1)
      pure (byte :: name)

/-- A `std::string` holds bytes: each is one character. -/
def text (bytes : List UInt8) : String :=
  String.ofList (bytes.map fun byte => Char.ofNat byte.toNat)

/-- `std::string(reinterpret_cast<char *>(RTA_DATA(tb[IFLA_IFNAME])))`, if there is that
attribute. -/
def readName (tb : AttributeTable platform) : Traced Access String :=
  match nameEntry platform tb with
  | none => pure ""
  | some attr => text <$> cString (memory.drop (attr + 4)) (attr + 4)

/-- What `ProcessLinkMsg` and `ProcessIfInfoMsg` have in common: what a link message says, if it
is about an Ethernet link. -/
def readLink (nh : Nat) : Traced Access (Option NlkEventInfo) := do
  Traced.touch (.ifinfomsg (nh + 16))
  let ifiType ← Traced.require (platform.order.u16At memory (nh + 18))
  if ifiType ≠ arphrdEther then pure none
  else do
    Traced.touch (.nlmsghdr nh)
    let nlmsgLen ← Traced.require (platform.order.u32At memory nh)
    let tb ← (attributes platform).walk memory (collect platform memory) (nh + 32)
      (nlmsgLen - 32).toInt32 fun _ => none
    let iface ← readName platform memory tb
    Traced.touch (.ifinfomsg (nh + 16))
    let ifiFlags ← Traced.require (platform.order.u32At memory (nh + 24))
    pure (some { iface := iface, ifiFlags := ifiFlags.toUInt64 })

/-- `NetLinkRtnl::ProcessLinkMsg`: an empty record for another kind of link. -/
def processLinkMsg (nh : Nat) : Traced Access NlkEventInfo :=
  (fun info => info.getD {}) <$> readLink platform memory nh

/-- `infos.push_back(ProcessLinkMsg(*nh))`. -/
def pushLinkMsg (nh : Nat) (infos : List NlkEventInfo) : Traced Access (List NlkEventInfo) := do
  let info ← processLinkMsg platform memory nh
  pure (infos ++ [info])

/-- `NetLinkRtnl::ProcessIfInfoMsg`: no handler is called for another kind of link. -/
def processIfInfoMsg {Handler : Type} (nlkHandles : List Handler) (nh : Nat)
    (handled : List (Handler × NlkEventInfo)) :
    Traced Access (List (Handler × NlkEventInfo)) := do
  match ← readLink platform memory nh with
  | none => pure handled
  | some info => pure (handled ++ nlkHandles.map fun handle => (handle, info))

/-! ### Reading messages -/

/-- `RTM_NEWLINK` or `RTM_DELLINK`. -/
def isLink (nlmsgType : UInt16) : Bool := nlmsgType == rtmNewlink || nlmsgType == rtmDellink

/-- The `switch` over the type of a message. -/
def onLink {State : Type} (process : Nat → State → Traced Access State) (nh : Nat)
    (state : State) : Traced Access State := do
  Traced.touch (.nlmsghdr nh)
  let nlmsgType ← Traced.require (platform.order.u16At memory (nh + 4))
  if isLink nlmsgType then process nh state else pure state

/-- `NetLinkRtnl::ProcessReadMsg`. -/
def processReadMsg (pBuff : Option (List UInt8)) (len : Int32) (infos : List NlkEventInfo) :
    Traced Access (List NlkEventInfo) :=
  match pBuff with
  | none => pure infos
  | some memory => (messages platform).walk memory
      (onLink platform memory (pushLinkMsg platform memory)) 0 len infos

/-- `NetLinkRtnl::ProcessLinkEventMsg`, as the calls of `Handle` it makes. -/
def processLinkEventMsg {Handler : Type} (nlkHandles : List Handler)
    (pBuff : Option (List UInt8)) (len : Int32) (handled : List (Handler × NlkEventInfo)) :
    Traced Access (List (Handler × NlkEventInfo)) :=
  match pBuff with
  | none => pure handled
  | some memory => (messages platform).walk memory
      (onLink platform memory (processIfInfoMsg platform memory nlkHandles)) 0 len handled

end Parsing

end NetLinkRtnl

end NetManager
