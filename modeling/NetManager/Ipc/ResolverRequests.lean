/-
This file says what the DNS resolver service tells its clients, in terms of netd alone. A host name
is looked up when it is valid; `GetAddressesByName` makes an address of every internet entry that
is found, `GetAddrInfo` describes every entry. The other requests are passed on to netd.

A request that arrives at the stub enters one method of the service, with the arguments the client
gave, and what netd says is written in the reply.
-/

import NetManager.Ipc.ResolverReplies

namespace NetManager

open Library Parcel

namespace DnsResolverService

open EthernetService Traced

/-! ### Requests -/

/-- A request of a client, with the variables of the caller that are to be filled. -/
inductive ResolverRequest
  | getAddressesByName (hostName : String) (addrInfo : List INetAddr)
  | getAddrInfo (hostName server : String) (hints : DnsAddrInfo) (dnsAddrInfo : List DnsAddrInfo)
  | createNetworkCache (netId : UInt16)
  | destoryNetworkCache (netId : UInt16)
  | flushNetworkCache (netId : UInt16)
  | setResolverConfig (netId baseTimeoutMsec : UInt16) (retryCount : UInt8)
      (servers domains : List String)
  | getResolverInfo (netId : UInt16) (servers domains : List String) (baseTimeoutMsec : UInt16)
      (retryCount : UInt8)

/-- What a caller gets: the code, and its variables. -/
inductive ResolverAnswer
  | addresses (code : Int) (addrInfo : List INetAddr)
  | descriptions (code : Int) (dnsAddrInfo : List DnsAddrInfo)
  | code (code : Int)
  | info (received : Received)
deriving DecidableEq

namespace ResolverRequest

/-- The method of the service that the request is for. The canonical name of hints does not
travel. -/
def call : ResolverRequest → ServiceCall
  | .getAddressesByName hostName _ => .getAddressesByName hostName
  | .getAddrInfo hostName server hints _ =>
    .getAddrInfo hostName server (some { hints with canonName := "" })
  | .createNetworkCache netId => .createNetworkCache netId
  | .destoryNetworkCache netId => .destoryNetworkCache netId
  | .flushNetworkCache netId => .flushNetworkCache netId
  | .setResolverConfig netId baseTimeoutMsec retryCount servers domains =>
    .setResolverConfig netId baseTimeoutMsec retryCount servers domains
  | .getResolverInfo netId _ _ _ _ => .getResolverInfo netId

/-- The code of the request. -/
def code : ResolverRequest → UInt32
  | .getAddressesByName _ _ => cmdGetAddrByName
  | .getAddrInfo _ _ _ _ => cmdGetAddrInfo
  | .createNetworkCache _ => cmdCrtNetworkCache
  | .destoryNetworkCache _ => cmdDelNetworkCache
  | .flushNetworkCache _ => cmdFlsNetworkCache
  | .setResolverConfig _ _ _ _ _ => cmdSetResolverConfig
  | .getResolverInfo _ _ _ _ _ => cmdGetResolverInfo

/-- What stands behind the descriptor. -/
def cells : ResolverRequest → List ParcelCell
  | .getAddressesByName hostName _ => [.string hostName]
  | .getAddrInfo hostName server hints _ => [.string hostName, .string server] ++ hints.cells
  | .createNetworkCache netId | .destoryNetworkCache netId | .flushNetworkCache netId
  | .getResolverInfo netId _ _ _ _ => [.uint16 netId]
  | .setResolverConfig netId baseTimeoutMsec retryCount servers domains =>
    configCells netId baseTimeoutMsec retryCount servers domains

/-- The lists of the request can be counted. -/
def Fits : ResolverRequest → Prop
  | .setResolverConfig _ _ _ servers domains => servers.length < 2 ^ 31 ∧ domains.length < 2 ^ 31
  | _ => True

end ResolverRequest

/-! ### What netd says -/

namespace AddrInfo

/-- An internet entry as an address. -/
def internetAddress (this : AddrInfo) : Option INetAddr :=
  if this.aiFamily = afInet ∨ this.aiFamily = afInet6 then
    some { family := UInt8.ofInt this.aiFamily.toInt, address := this.aiAddr.getD "" }
  else none

/-- The description of an entry, which has the text of an `AF_INET` address only. -/
def description (this : AddrInfo) : DnsAddrInfo where
  flags := this.aiFlags
  family := this.aiFamily
  sockType := this.aiSocktype
  protocol := this.aiProtocol
  addr := if this.aiFamily = afInet then this.aiAddr.getD "" else ""

end AddrInfo

namespace Netd

variable (netd : Netd)

/-- The code of looking up a host, and what is made of the entries that are found. -/
def lookUp {Item : Type} (failed : Int32 → Prop) [DecidablePred failed]
    (make : List AddrInfo → List Item) (hostName server : String) (hints : AddrHints) :
    Int32 × List Item :=
  let (ret, res) := netd.getAddrInfo hostName server hints 0
  if isDomainValid hostName = false then (dnsError, [])
  else if failed ret then (ret, [])
  else if res = [] then (dnsError, [])
  else (dnsSuccess, make res)

/-- The addresses of a host. Every code but zero is a failure. -/
def addresses (hostName : String) : Int32 × List INetAddr :=
  netd.lookUp (· ≠ 0) (List.filterMap AddrInfo.internetAddress) hostName ""
    { aiFamily := afInet, aiFlags := aiPassive, aiProtocol := 0, aiSocktype := sockDgram }

/-- The descriptions of what is found for a host. The negative codes are failures. -/
def descriptions (hostName server : String) (hints : DnsAddrInfo) : Int32 × List DnsAddrInfo :=
  netd.lookUp (· < 0) (List.map AddrInfo.description) hostName server
    { aiFamily := hints.family, aiFlags := hints.flags, aiProtocol := hints.protocol,
      aiSocktype := hints.sockType }

/-- What a client is told: what is found is pushed behind what the caller had. -/
def told : ResolverRequest → ResolverAnswer
  | .getAddressesByName hostName addrInfo =>
    .addresses (netd.addresses hostName).1.toInt (addrInfo ++ (netd.addresses hostName).2)
  | .getAddrInfo hostName server hints dnsAddrInfo =>
    .descriptions (netd.descriptions hostName server hints).1.toInt
      (dnsAddrInfo ++ (netd.descriptions hostName server hints).2)
  | .createNetworkCache netId => .code (netd.createNetworkCache netId).toInt
  | .destoryNetworkCache netId => .code (netd.destoryNetworkCache netId).toInt
  | .flushNetworkCache netId => .code (netd.flushNetworkCache netId).toInt
  | .setResolverConfig netId baseTimeoutMsec retryCount servers domains =>
    .code (netd.setResolverConfig netId baseTimeoutMsec retryCount servers domains).toInt
  | .getResolverInfo netId servers domains _ _ =>
    .info
      { code := (netd.getResolverInfo netId).ret.toInt
        servers := servers ++ (netd.getResolverInfo netId).servers
        domains := domains ++ (netd.getResolverInfo netId).domains
        baseTimeoutMsec := (netd.getResolverInfo netId).baseTimeoutMsec
        retryCount := (netd.getResolverInfo netId).retryCount }

/-- What stands in the reply. -/
def replyCells : ResolverRequest → List ParcelCell
  | .getAddressesByName hostName _ =>
    countedCells INetAddr.cells (netd.addresses hostName).2 ++ [.int32 (netd.addresses hostName).1]
  | .getAddrInfo hostName server hints _ =>
    countedCells DnsAddrInfo.cells (netd.descriptions hostName server hints).2 ++
      [.int32 (netd.descriptions hostName server hints).1]
  | .createNetworkCache netId => [.int32 (netd.createNetworkCache netId)]
  | .destoryNetworkCache netId => [.int32 (netd.destoryNetworkCache netId)]
  | .flushNetworkCache netId => [.int32 (netd.flushNetworkCache netId)]
  | .setResolverConfig netId baseTimeoutMsec retryCount servers domains =>
    [.int32 (netd.setResolverConfig netId baseTimeoutMsec retryCount servers domains)]
  | .getResolverInfo netId _ _ _ _ => infoCells (netd.getResolverInfo netId)

/-- The lists of the reply can be counted. -/
def ReplyFits : ResolverRequest → Prop
  | .getAddressesByName hostName _ => (netd.addresses hostName).2.length < 2 ^ 31
  | .getAddrInfo hostName server hints _ =>
    (netd.descriptions hostName server hints).2.length < 2 ^ 31
  | .getResolverInfo netId _ _ _ _ =>
    (netd.getResolverInfo netId).servers.length < 2 ^ 31 ∧
      (netd.getResolverInfo netId).domains.length < 2 ^ 31
  | _ => True

end Netd

/-! ### The service -/

section Service

variable {netd : Netd} (fills : netd.FillsAddresses)

/-- The loop of `GetAddressesByName` pushes the addresses of the internet entries. -/
theorem process_all {entries : List AddrInfo} (filled : ∀ entry ∈ entries,
      entry.aiFamily = afInet ∨ entry.aiFamily = afInet6 → entry.aiAddr ≠ none) :
    (entries.foldlM (fun addrInfo cur =>
      if cur.aiFamily = afInet then processIPV4 cur addrInfo
      else if cur.aiFamily = afInet6 then processIPV6 cur addrInfo
      else pure addrInfo) [] : Traced ServiceCall (List INetAddr)) =
        pure (entries.filterMap AddrInfo.internetAddress) := by
  rw [List.filterMap_eq_flatMap_toList]
  refine foldlM_append (fun addrInfo cur member => ?_) []
  have process (internet : cur.aiFamily = afInet ∨ cur.aiFamily = afInet6) :
      (processIp cur addrInfo : Traced ServiceCall (List INetAddr)) =
        pure (addrInfo ++ cur.internetAddress.toList) := by
    obtain ⟨address, known⟩ := Option.ne_none_iff_exists'.mp (filled cur member internet)
    unfold processIp AddrInfo.internetAddress
    rw [if_pos internet, known]
    rfl
  by_cases inet : cur.aiFamily = afInet
  · rw [if_pos inet]
    exact process (Or.inl inet)
  · rw [if_neg inet]
    by_cases inet6 : cur.aiFamily = afInet6
    · rw [if_pos inet6]
      exact process (Or.inr inet6)
    · unfold AddrInfo.internetAddress
      rw [if_neg inet6, if_neg (not_or.mpr ⟨inet, inet6⟩), Option.toList_none, List.append_nil]

/-- The loop of `GetAddrInfo` pushes the descriptions of the entries. -/
theorem describe_all {entries : List AddrInfo} (filled : ∀ entry ∈ entries,
      entry.aiFamily = afInet ∨ entry.aiFamily = afInet6 → entry.aiAddr ≠ none) :
    (entries.foldlM (fun dnsAddrInfo cur => do
      let d ← describe cur
      pure (dnsAddrInfo ++ [d])) [] : Traced ServiceCall (List DnsAddrInfo)) =
        pure (entries.map AddrInfo.description) := by
  rw [List.map_eq_flatMap]
  refine foldlM_append (fun dnsAddrInfo cur member => ?_) []
  unfold describe AddrInfo.description
  dsimp only
  by_cases inet : cur.aiFamily = afInet
  · obtain ⟨addr, known⟩ := Option.ne_none_iff_exists'.mp (filled cur member (Or.inl inet))
    rw [if_pos inet, if_pos inet, known]
    rfl
  · rw [if_neg inet, if_neg inet]
    rfl

/-- What both questions do after checking the host name and the hints, when their loop makes
something of the entries. -/
theorem lookUp_eq {Item : Type} (failed : Int32 → Prop) [DecidablePred failed]
    {make : List AddrInfo → List Item} {loop : List AddrInfo → Traced ServiceCall (List Item)}
    {hostName server : String} {hints : AddrHints}
    (loops : loop (netd.getAddrInfo hostName server hints 0).2 =
      pure (make (netd.getAddrInfo hostName server hints 0).2)) :
    (if !isDomainValid hostName then pure (dnsError, [])
      else
        let (ret, res) := netd.getAddrInfo hostName server hints 0
        if failed ret then pure (ret, [])
        else if res = [] then pure (dnsError, [])
        else do
          let items ← loop res
          pure (dnsSuccess, items)) = pure (netd.lookUp failed make hostName server hints) := by
  unfold Netd.lookUp
  cases isDomainValid hostName with
  | false => rfl
  | true =>
    rcases found : netd.getAddrInfo hostName server hints 0 with ⟨ret, res⟩
    rw [found] at loops
    dsimp only at loops ⊢
    rw [if_neg (show ¬ (!true) = true by decide), if_neg (show ¬ true = false by decide)]
    by_cases fails : failed ret
    · rw [if_pos fails, if_pos fails]
    · rw [if_neg fails, if_neg fails]
      by_cases empty : res = []
      · rw [if_pos empty, if_pos empty]
      · rw [if_neg empty, if_neg empty, loops, pure_then]

include fills

/-- `GetAddressesByName` returns the addresses of the host. -/
theorem getAddressesByName_eq (hostName : String) :
    getAddressesByName netd hostName =
      ⟨[.getAddressesByName hostName], some (netd.addresses hostName)⟩ := by
  unfold getAddressesByName
  exact (congrArg (fun answer => touch (.getAddressesByName hostName) >>= fun _ => answer)
    (lookUp_eq (· ≠ 0) (process_all (fills hostName "" _ 0)))).trans rfl

/-- `GetAddrInfo` returns the descriptions of what is found for the host. -/
theorem getAddrInfo_eq (hostName server : String) (hints : DnsAddrInfo) :
    getAddrInfo netd hostName server (some hints) =
      ⟨[.getAddrInfo hostName server (some hints)],
        some (netd.descriptions hostName server hints)⟩ := by
  unfold getAddrInfo
  rw [require_some_bind]
  exact (congrArg (fun answer => touch (.getAddrInfo hostName server (some hints)) >>=
    fun _ => answer) (lookUp_eq (· < 0) (describe_all (fills hostName server _ 0)))).trans rfl

end Service

/-! ### The stub -/

section Stub

variable (commonErrOffset : Int) (ipcObjectStub : UInt32 → List ParcelCell → Handled) {netd : Netd}

/-- A method was entered, and what it returned is written. -/
theorem replied_eq {Answer : Type} {method : Traced ServiceCall Answer}
    {calls : List ServiceCall} {answer : Answer} (answers : method = ⟨calls, some answer⟩)
    {written : Answer → ParcelM Unit} {cells : List ParcelCell}
    (writes : Writes (written answer) cells) :
    (do
      let answer ← method
      pure (replied commonErrOffset (written answer))) =
        ⟨calls, some ⟨netmanagerSuccess, cells⟩⟩ := by
  have success : replied commonErrOffset (written answer) = ⟨netmanagerSuccess, cells⟩ := by
    unfold replied
    rw [writes]
    rfl
  rw [answers]
  show (⟨calls ++ [], some (replied commonErrOffset (written answer))⟩ :
    Traced ServiceCall Handled) = _
  rw [List.append_nil, success]

theorem onNetworkCache_eq (method : UInt16 → Traced ServiceCall Int32) {netId : UInt16}
    {calls : List ServiceCall} {ret : Int32} (answers : method netId = ⟨calls, some ret⟩) :
    onNetworkCache commonErrOffset method [.uint16 netId] =
      ⟨calls, some ⟨netmanagerSuccess, [.int32 ret]⟩⟩ := by
  unfold onNetworkCache
  rw [show readUint16.run [.uint16 netId] = some (netId, []) from rfl]
  exact replied_eq commonErrOffset answers (writes_cell _)

/-- A request that arrives enters its method once, and the reply is what netd says. -/
theorem onRemoteRequest_cells (fills : netd.FillsAddresses) {asked : ResolverRequest}
    (fits : asked.Fits) :
    onRemoteRequest commonErrOffset netd ipcObjectStub asked.code
        (.interfaceToken descriptor :: asked.cells) =
      ⟨[asked.call], some ⟨netmanagerSuccess, netd.replyCells asked⟩⟩ := by
  rw [onRemoteRequest_eq]
  cases asked with
  | getAddressesByName hostName addrInfo =>
    show onGetAddressesByName commonErrOffset netd [.string hostName] = _
    unfold onGetAddressesByName
    rw [show readString.run [.string hostName] = some (hostName, []) from rfl]
    exact replied_eq commonErrOffset (getAddressesByName_eq fills hostName)
      ((writes_counted INetAddr.writes_marshalling _).andThen (writes_cell _))
  | getAddrInfo hostName server hints dnsAddrInfo =>
    have readHints : DnsAddrInfo.unmarshalling.run hints.cells =
        some ({ hints with canonName := "" }, []) :=
      DnsAddrInfo.exact_unmarshalling.reads_whole
        (show ({ hints with canonName := "" } : DnsAddrInfo).canonName = "" from rfl)
    show onGetAddrInfo commonErrOffset netd (.string hostName :: .string server :: hints.cells) = _
    unfold onGetAddrInfo
    rw [show readString.run (.string hostName :: .string server :: hints.cells) =
      some (hostName, .string server :: hints.cells) from rfl]
    dsimp only
    rw [show readString.run (.string server :: hints.cells) = some (server, hints.cells) from rfl]
    dsimp only
    rw [readHints]
    exact replied_eq commonErrOffset (getAddrInfo_eq fills hostName server _)
      ((writes_counted DnsAddrInfo.writes_marshalling _).andThen (writes_cell _))
  | createNetworkCache netId =>
    exact onNetworkCache_eq commonErrOffset (createNetworkCache netd) rfl
  | destoryNetworkCache netId =>
    exact onNetworkCache_eq commonErrOffset (destoryNetworkCache netd) rfl
  | flushNetworkCache netId => exact onNetworkCache_eq commonErrOffset (flushNetworkCache netd) rfl
  | setResolverConfig netId baseTimeoutMsec retryCount servers domains =>
    show onSetResolverConfig commonErrOffset netd
      (configCells netId baseTimeoutMsec retryCount servers domains) = _
    unfold onSetResolverConfig
    rw [run_readResolverConfig netId baseTimeoutMsec retryCount fits.1 fits.2]
    rfl
  | getResolverInfo netId servers domains baseTimeoutMsec retryCount =>
    show onGetResolverInfo commonErrOffset netd [.uint16 netId] = _
    unfold onGetResolverInfo
    rw [show readUint16.run [.uint16 netId] = some (netId, []) from rfl]
    exact replied_eq commonErrOffset
      (show getResolverInfo netd netId = ⟨_, some (netd.getResolverInfo netId)⟩ from rfl)
      ((writes_strings _).andThen <| (writes_strings _).andThen <|
        (writes_cell _).andThen <| (writes_cell _).andThen (writes_cell _))

end Stub

end DnsResolverService

end NetManager
