/-
This file models the DNS resolver service and the stub in front of it: the stub reads a request
from a parcel, calls the service and writes a reply. The calls of the service are recorded, with
the arguments they are entered with, and a computation that dereferences a null pointer does not
return. What netd and the base classes do is a parameter.
-/

import NetManager.Ipc.EthernetService
import NetManager.Library.Traced
import Mathlib.Computability.RegularExpressions

namespace NetManager

open Library Parcel

/-! ### Resolver addresses -/

/-- `DnsAddrInfo` of `dns_addr_info.h`. -/
structure DnsAddrInfo where
  flags : Int32 := 0
  family : Int32 := 0
  sockType : Int32 := 0
  protocol : Int32 := 0
  addr : String := ""
  canonName : String := ""
deriving DecidableEq, Repr

namespace DnsAddrInfo

/-- `DnsAddrInfo::Marshalling`. -/
def marshalling (this : DnsAddrInfo) : ParcelM Unit := do
  writeInt32 this.flags
  writeInt32 this.family
  writeInt32 this.sockType
  writeInt32 this.protocol
  writeString this.addr

/-- `DnsAddrInfo::Unmarshalling`. -/
def unmarshalling : ParcelM DnsAddrInfo := do
  let flags ← readInt32
  let family ← readInt32
  let sockType ← readInt32
  let protocol ← readInt32
  let addr ← readString
  return { flags, family, sockType, protocol, addr }

/-- The cells of a resolver address. -/
def cells (this : DnsAddrInfo) : List ParcelCell :=
  [.int32 this.flags, .int32 this.family, .int32 this.sockType, .int32 this.protocol,
    .string this.addr]

theorem writes_marshalling (this : DnsAddrInfo) : Writes this.marshalling this.cells :=
  (writes_cell _).andThen <| (writes_cell _).andThen <| (writes_cell _).andThen <|
    (writes_cell _).andThen (writes_cell _)

/-- The canonical name does not travel, so only addresses without one are read. -/
theorem exact_unmarshalling : Exact unmarshalling cells fun this => this.canonName = "" := by
  have reads :=
    exact_readInt32.field flags (fun _ _ => congrArg flags) fun _ =>
    exact_readInt32.field family (fun _ _ => congrArg family) fun _ =>
    exact_readInt32.field sockType (fun _ _ => congrArg sockType) fun _ =>
    exact_readInt32.field protocol (fun _ _ => congrArg protocol) fun _ =>
    exact_readString.field addr (fun _ _ => congrArg addr) fun _ =>
    exact_pure (DnsAddrInfo.mk _ _ _ _ _ "")
  refine reads.congr (fun this => ?_) fun _ _ => rfl
  constructor
  · intro same
    rw [same]
  · intro nameless
    rw [← nameless]

end DnsAddrInfo

namespace DnsResolverService

open EthernetService Traced

/-! ### Host names -/

section HostNames

open RegularExpression

/-- One of the characters. -/
def anyOf (chars : List Char) : RegularExpression Char :=
  chars.foldr (fun char rest => RegularExpression.char char + rest) 0

def digits : List Char := "0123456789".toList

def lowercase : List Char := "abcdefghijklmnopqrstuvwxyz".toList

def uppercase : List Char := "ABCDEFGHIJKLMNOPQRSTUVWXYZ".toList

/-- The pattern repeated at least once. -/
def repeated (pattern : RegularExpression Char) : RegularExpression Char :=
  pattern * pattern.star

/-- `domainPattern`: `([0-9A-Za-z\-_\.]+)\.([0-9a-z]+\.[a-z]{2,3}(\.[a-z]{2})?)`. -/
def domainPattern : RegularExpression Char :=
  let dot := RegularExpression.char '.'
  let letter := anyOf lowercase
  repeated (anyOf (digits ++ uppercase ++ lowercase ++ ['-', '_', '.'])) * dot *
    (repeated (anyOf (digits ++ lowercase)) * dot * (letter ^ 2 + letter ^ 3) *
      (1 + dot * letter ^ 2))

/-- `IsDomainValid`. -/
def isDomainValid (hostName : String) : Bool :=
  if hostName = "" then false else domainPattern.rmatch hostName.toList

end HostNames

/-! ### netd -/

/-- `DNS_ERROR`. -/
def dnsError : Int32 := -1

/-- `DNS_SUCCESS`. -/
def dnsSuccess : Int32 := 0

/-- `AF_INET`. -/
def afInet : Int32 := 2

/-- `AF_INET6`. -/
def afInet6 : Int32 := 10

/-- `AI_PASSIVE`. -/
def aiPassive : Int32 := 1

/-- `SOCK_DGRAM`. -/
def sockDgram : Int32 := 2

/-- An entry of the list that `getaddrinfo` makes. `ai_addr` may be null; otherwise it is given as
`inet_ntop` writes the address in it. -/
structure AddrInfo where
  aiFlags : Int32
  aiFamily : Int32
  aiSocktype : Int32
  aiProtocol : Int32
  aiAddr : Option String
deriving DecidableEq, Repr

/-- The hints for `getaddrinfo`, as `InitAddrInfo` sets them. -/
structure AddrHints where
  aiFamily : Int32
  aiFlags : Int32
  aiProtocol : Int32
  aiSocktype : Int32
deriving DecidableEq, Repr

/-- What is answered to a question for the configuration of the resolver. -/
structure ResolverInfo where
  servers : List String
  domains : List String
  baseTimeoutMsec : UInt16
  retryCount : UInt8
  ret : Int32
deriving DecidableEq, Repr

/-- The methods of `NetdController` that the service calls, with the results they return; the null
list of addresses is empty. -/
structure Netd where
  getAddrInfo : String → String → AddrHints → UInt16 → Int32 × List AddrInfo
  createNetworkCache : UInt16 → Int32
  destoryNetworkCache : UInt16 → Int32
  flushNetworkCache : UInt16 → Int32
  setResolverConfig : UInt16 → UInt16 → UInt8 → List String → List String → Int32
  getResolverInfo : UInt16 → ResolverInfo

/-- `getaddrinfo` gives every internet address that it lists. -/
def Netd.FillsAddresses (netd : Netd) : Prop :=
  ∀ hostName server hints netId, ∀ entry ∈ (netd.getAddrInfo hostName server hints netId).2,
    entry.aiFamily = afInet ∨ entry.aiFamily = afInet6 → entry.aiAddr ≠ none

/-- A resolver that knows one address. -/
def oneAddress : Netd where
  getAddrInfo _ _ _ _ :=
    (0, [{ aiFlags := 0
           aiFamily := afInet
           aiSocktype := 1
           aiProtocol := 6
           aiAddr := some "10.0.0.1" }])
  createNetworkCache _ := 0
  destoryNetworkCache _ := 0
  flushNetworkCache _ := 0
  setResolverConfig _ _ _ _ _ := 0
  getResolverInfo _ := ⟨["10.0.0.1"], [], 0, 0, 0⟩

theorem oneAddress_fills : oneAddress.FillsAddresses := by
  intro hostName server hints netId entry member _
  rw [List.mem_singleton.mp member]
  exact Option.some_ne_none _

/-! ### The service -/

/-- A method of the service is entered. -/
inductive ServiceCall
  | getAddressesByName (hostName : String)
  | getAddrInfo (hostName server : String) (hints : Option DnsAddrInfo)
  | createNetworkCache (netId : UInt16)
  | destoryNetworkCache (netId : UInt16)
  | flushNetworkCache (netId : UInt16)
  | setResolverConfig (netId baseTimeoutMsec : UInt16) (retryCount : UInt8)
      (servers domains : List String)
  | getResolverInfo (netId : UInt16)
deriving DecidableEq, Repr

section Service

variable (netd : Netd)

/-- Push the address of an entry. -/
def processIp (addr : AddrInfo) (addrInfo : List INetAddr) :
    Traced ServiceCall (List INetAddr) := do
  let address ← require addr.aiAddr
  pure (addrInfo ++ [{ family := UInt8.ofInt addr.aiFamily.toInt, address := address }])

/-- `ProcessIPV4`, which writes the address as `AF_INET`. -/
def processIPV4 : AddrInfo → List INetAddr → Traced ServiceCall (List INetAddr) := processIp

/-- `ProcessIPV6`, which writes the address as `AF_INET6`. -/
def processIPV6 : AddrInfo → List INetAddr → Traced ServiceCall (List INetAddr) := processIp

/-- `DnsResolverService::GetAddressesByName`: the code and the addresses. -/
def getAddressesByName (hostName : String) : Traced ServiceCall (Int32 × List INetAddr) := do
  touch (.getAddressesByName hostName)
  if !isDomainValid hostName then pure (dnsError, [])
  else
    let hints : AddrHints :=
      { aiFamily := afInet, aiFlags := aiPassive, aiProtocol := 0, aiSocktype := sockDgram }
    let (ret, res) := netd.getAddrInfo hostName "" hints 0
    if ret ≠ 0 then pure (ret, [])
    else if res = [] then pure (dnsError, [])
    else do
      let addrInfo ← res.foldlM (fun addrInfo cur =>
        if cur.aiFamily = afInet then processIPV4 cur addrInfo
        else if cur.aiFamily = afInet6 then processIPV6 cur addrInfo
        else pure addrInfo) []
      pure (dnsSuccess, addrInfo)

/-- What `GetAddrInfo` makes of an entry. -/
def describe (cur : AddrInfo) : Traced ServiceCall DnsAddrInfo := do
  let d : DnsAddrInfo :=
    { flags := cur.aiFlags, family := cur.aiFamily, sockType := cur.aiSocktype,
      protocol := cur.aiProtocol }
  if d.family = afInet then do
    let addr ← require cur.aiAddr
    pure { d with addr := addr }
  else pure d

/-- `DnsResolverService::GetAddrInfo`: the code and the addresses. The hints are dereferenced as
they come. -/
def getAddrInfo (hostName server : String) (hints : Option DnsAddrInfo) :
    Traced ServiceCall (Int32 × List DnsAddrInfo) := do
  touch (.getAddrInfo hostName server hints)
  if !isDomainValid hostName then pure (dnsError, [])
  else do
    let hints ← require hints
    let hints2 : AddrHints :=
      { aiFamily := hints.family, aiFlags := hints.flags, aiProtocol := hints.protocol,
        aiSocktype := hints.sockType }
    let (ret, res) := netd.getAddrInfo hostName server hints2 0
    if ret < 0 then pure (ret, [])
    else if res = [] then pure (dnsError, [])
    else do
      let dnsAddrInfo ← res.foldlM (fun dnsAddrInfo cur => do
        let d ← describe cur
        pure (dnsAddrInfo ++ [d])) []
      pure (dnsSuccess, dnsAddrInfo)

/-- `DnsResolverService::CreateNetworkCache`. -/
def createNetworkCache (netId : UInt16) : Traced ServiceCall Int32 := do
  touch (.createNetworkCache netId)
  pure (netd.createNetworkCache netId)

/-- `DnsResolverService::DestoryNetworkCache`. -/
def destoryNetworkCache (netId : UInt16) : Traced ServiceCall Int32 := do
  touch (.destoryNetworkCache netId)
  pure (netd.destoryNetworkCache netId)

/-- `DnsResolverService::FlushNetworkCache`. -/
def flushNetworkCache (netId : UInt16) : Traced ServiceCall Int32 := do
  touch (.flushNetworkCache netId)
  pure (netd.flushNetworkCache netId)

/-- `DnsResolverService::SetResolverConfig`. -/
def setResolverConfig (netId baseTimeoutMsec : UInt16) (retryCount : UInt8)
    (servers domains : List String) : Traced ServiceCall Int32 := do
  touch (.setResolverConfig netId baseTimeoutMsec retryCount servers domains)
  pure (netd.setResolverConfig netId baseTimeoutMsec retryCount servers domains)

/-- `DnsResolverService::GetResolverInfo`. -/
def getResolverInfo (netId : UInt16) : Traced ServiceCall ResolverInfo := do
  touch (.getResolverInfo netId)
  pure (netd.getResolverInfo netId)

end Service

/-! ### The stub -/

/-- The descriptor of the interface. -/
def descriptor : String := "OHOS.NetManagerStandard.IDnsResolverService"

/-- `CMD_GET_ADDR_BY_NAME`. -/
def cmdGetAddrByName : UInt32 := 0

/-- `CMD_GET_ADDR_INFO`. -/
def cmdGetAddrInfo : UInt32 := 1

/-- `CMD_CRT_NETWORK_CACHE`. -/
def cmdCrtNetworkCache : UInt32 := 2

/-- `CMD_DEL_NETWORK_CACHE`. -/
def cmdDelNetworkCache : UInt32 := 3

/-- `CMD_FLS_NETWORK_CACHE`. -/
def cmdFlsNetworkCache : UInt32 := 4

/-- `CMD_SET_RESOLVER_CONFIG`. -/
def cmdSetResolverConfig : UInt32 := 5

/-- `CMD_GET_RESOLVER_INFO`. -/
def cmdGetResolverInfo : UInt32 := 6

/-- Write the length of a list as a signed number, then its items. -/
def writeCounted {Item : Type} (write : Item → ParcelM Unit) (items : List Item) :
    ParcelM Unit := do
  writeInt32 (Int32.ofNat items.length)
  items.forM write

/-- Read a signed length, then so many strings. A negative length ends the loop at once. -/
def readStrings : ParcelM (List String) := do
  let size ← readInt32
  readMany readString size.toInt.toNat

/-- What handling a request leaves: a code and a reply. -/
structure Handled where
  code : Int
  reply : List ParcelCell
deriving DecidableEq, Repr

section Stub

variable (commonErrOffset : Int) (netd : Netd)

/-- A request that could not be read. -/
def unreadable : Traced ServiceCall Handled := pure ⟨netmanagerErrReadDataFail commonErrOffset, []⟩

/-- A request with this reply. -/
def replied (written : ParcelM Unit) : Handled :=
  match written.run [] with
  | none => ⟨netmanagerErrWriteReplyFail commonErrOffset, []⟩
  | some (_, reply) => ⟨netmanagerSuccess, reply⟩

/-- `DnsResolverServiceStub::OnGetAddressesByName`. -/
def onGetAddressesByName (data : List ParcelCell) : Traced ServiceCall Handled :=
  match readString.run data with
  | none => unreadable commonErrOffset
  | some (hostName, _) => do
    let (ret, addrInfo) ← getAddressesByName netd hostName
    pure (replied commonErrOffset do
      writeCounted INetAddr.marshalling addrInfo
      writeInt32 ret)

/-- `DnsResolverServiceStub::OnGetAddrInfo`. The hints are null when they could not be read. -/
def onGetAddrInfo (data : List ParcelCell) : Traced ServiceCall Handled :=
  match readString.run data with
  | none => unreadable commonErrOffset
  | some (hostname, rest) =>
    match readString.run rest with
    | none => unreadable commonErrOffset
    | some (server, rest) => do
      let hints := (DnsAddrInfo.unmarshalling.run rest).map Prod.fst
      let (ret, dnsAddrInfo) ← getAddrInfo netd hostname server hints
      pure (replied commonErrOffset do
        writeCounted DnsAddrInfo.marshalling dnsAddrInfo
        writeInt32 ret)

/-- What the three requests about the cache of a network do. -/
def onNetworkCache (method : UInt16 → Traced ServiceCall Int32) (data : List ParcelCell) :
    Traced ServiceCall Handled :=
  match readUint16.run data with
  | none => unreadable commonErrOffset
  | some (netId, _) => do
    let ret ← method netId
    pure (replied commonErrOffset (writeInt32 ret))

/-- `DnsResolverServiceStub::OnCreateNetworkCache`. -/
def onCreateNetworkCache : List ParcelCell → Traced ServiceCall Handled :=
  onNetworkCache commonErrOffset (createNetworkCache netd)

/-- `DnsResolverServiceStub::OnDestoryNetworkCache`. -/
def onDestoryNetworkCache : List ParcelCell → Traced ServiceCall Handled :=
  onNetworkCache commonErrOffset (destoryNetworkCache netd)

/-- `DnsResolverServiceStub::OnFlushNetworkCache`. -/
def onFlushNetworkCache : List ParcelCell → Traced ServiceCall Handled :=
  onNetworkCache commonErrOffset (flushNetworkCache netd)

/-- What a request to set the configuration of the resolver carries. -/
def readResolverConfig : ParcelM (UInt16 × UInt16 × UInt8 × List String × List String) := do
  let netId ← readUint16
  let baseTimeoutMsec ← readUint16
  let retryCount ← readUint8
  let servers ← readStrings
  let domains ← readStrings
  return (netId, baseTimeoutMsec, retryCount, servers, domains)

/-- `DnsResolverServiceStub::OnSetResolverConfig`. -/
def onSetResolverConfig (data : List ParcelCell) : Traced ServiceCall Handled :=
  match readResolverConfig.run data with
  | none => unreadable commonErrOffset
  | some ((netId, baseTimeoutMsec, retryCount, servers, domains), _) => do
    let ret ← setResolverConfig netd netId baseTimeoutMsec retryCount servers domains
    pure (replied commonErrOffset (writeInt32 ret))

/-- `DnsResolverServiceStub::OnGetResolverInfo`. -/
def onGetResolverInfo (data : List ParcelCell) : Traced ServiceCall Handled :=
  match readUint16.run data with
  | none => unreadable commonErrOffset
  | some (netId, _) => do
    let info ← getResolverInfo netd netId
    pure (replied commonErrOffset do
      writeCounted writeString info.servers
      writeCounted writeString info.domains
      writeUint16 info.baseTimeoutMsec
      writeUint8 info.retryCount
      writeInt32 info.ret)

/-- `memberFuncMap_`. -/
def memberFuncMap (code : UInt32) : Option (List ParcelCell → Traced ServiceCall Handled) :=
  if code = cmdGetAddrByName then some (onGetAddressesByName commonErrOffset netd)
  else if code = cmdGetAddrInfo then some (onGetAddrInfo commonErrOffset netd)
  else if code = cmdCrtNetworkCache then some (onCreateNetworkCache commonErrOffset netd)
  else if code = cmdDelNetworkCache then some (onDestoryNetworkCache commonErrOffset netd)
  else if code = cmdFlsNetworkCache then some (onFlushNetworkCache commonErrOffset netd)
  else if code = cmdSetResolverConfig then some (onSetResolverConfig commonErrOffset netd)
  else if code = cmdGetResolverInfo then some (onGetResolverInfo commonErrOffset netd)
  else none

/-- `DnsResolverServiceStub::OnRemoteRequest`. A descriptor that cannot be read is empty. -/
def onRemoteRequest (ipcObjectStub : UInt32 → List ParcelCell → Handled) (code : UInt32)
    (data : List ParcelCell) : Traced ServiceCall Handled :=
  let (remoteDescripter, rest) := (readInterfaceToken.run data).getD ("", data)
  if descriptor ≠ remoteDescripter then
    pure ⟨netmanagerErrDescriptorMismatch commonErrOffset, []⟩
  else
    match memberFuncMap commonErrOffset netd code with
    | some requestFunc => requestFunc rest
    | none => pure (ipcObjectStub code rest)

/-- A request that names the interface is dispatched. -/
theorem onRemoteRequest_eq (ipcObjectStub : UInt32 → List ParcelCell → Handled) (code : UInt32)
    (data : List ParcelCell) :
    onRemoteRequest commonErrOffset netd ipcObjectStub code (.interfaceToken descriptor :: data) =
      match memberFuncMap commonErrOffset netd code with
      | some requestFunc => requestFunc data
      | none => pure (ipcObjectStub code data) := by
  unfold onRemoteRequest
  rw [run_readInterfaceToken, Option.getD_some]
  exact if_neg (not_not_intro rfl)

end Stub

end DnsResolverService

end NetManager
