/-
This file models the client of the DNS resolver, and the methods of its proxy that carry plain
values. The two questions for addresses give up on an empty host name before they look for a remote
object; the client and the proxy have codes of their own for what they could not ask.

netd changes with what it is told, in ways that are not known here. However the requests of clients
are mixed and whichever of them are lost, netd is told of exactly those that arrive, in their order,
and a client whose request arrives is told what netd says then. No client dereferences a null
pointer.
-/

import NetManager.Ipc.ResolverRequests
import NetManager.Ipc.Message

namespace NetManager

open Library Parcel Traced DnsResolverService
open EthernetService hiding descriptor Handled

namespace DnsResolverServiceProxy

section Proxy

variable (commonErrOffset : Int)

/-! ### Member functions -/

/-- What the methods with plain values have in common: they write the descriptor and a request,
send it, and read the reply. -/
def transact {Answer : Type} (remote : Remote) (code : UInt32) (written : ParcelM Unit)
    (giveUp : Int → Answer) (read : List ParcelCell → Answer) : Traced Dereference Answer :=
  match (writeInterfaceToken descriptor).run [] with
  | none => pure (giveUp (netmanagerErrWriteDescriptorTokenFail commonErrOffset))
  | some (_, data) =>
    match written.run data with
    | none => pure (giveUp (netmanagerErrWriteDataFail commonErrOffset))
    | some (_, data) =>
      askRemote commonErrOffset remote code data giveUp fun reply => pure (read reply)

/-- `DnsResolverServiceProxy::CreateNetworkCache`. -/
def createNetworkCache (remote : Remote) (netId : UInt16) : Traced Dereference Int :=
  transact commonErrOffset remote cmdCrtNetworkCache (writeUint16 netId) id readResult

/-- `DnsResolverServiceProxy::DestoryNetworkCache`. -/
def destoryNetworkCache (remote : Remote) (netId : UInt16) : Traced Dereference Int :=
  transact commonErrOffset remote cmdDelNetworkCache (writeUint16 netId) id readResult

/-- `DnsResolverServiceProxy::FlushNetworkCache`. -/
def flushNetworkCache (remote : Remote) (netId : UInt16) : Traced Dereference Int :=
  transact commonErrOffset remote cmdFlsNetworkCache (writeUint16 netId) id readResult

/-- `DnsResolverServiceProxy::SetResolverConfig`. -/
def setResolverConfig (remote : Remote) (netId baseTimeoutMsec : UInt16) (retryCount : UInt8)
    (servers domains : List String) : Traced Dereference Int :=
  transact commonErrOffset remote cmdSetResolverConfig (do
    writeUint16 netId
    writeUint16 baseTimeoutMsec
    writeUint8 retryCount
    writeCounted writeString servers
    writeCounted writeString domains) id readResult

/-- `DnsResolverServiceProxy::GetResolverInfo`. -/
def getResolverInfo (remote : Remote) (netId : UInt16) (servers domains : List String)
    (baseTimeoutMsec : UInt16) (retryCount : UInt8) : Traced Dereference Received :=
  let caller (code : Int) : Received := { code, servers, domains, baseTimeoutMsec, retryCount }
  transact commonErrOffset remote cmdGetResolverInfo (writeUint16 netId) caller
    (readResolverInfo commonErrOffset (caller 0))

end Proxy

end DnsResolverServiceProxy

namespace DnsResolverClient

section Client

/- The offset of the common error codes, and the code for having no proxy. -/
variable (commonErrOffset ipcProxyErr : Int)

/-- Every method asks for a proxy and gives up when there is none. -/
def withProxy {Answer : Type} (proxy : Option Remote) (giveUp : Int → Answer)
    (forward : Remote → Traced Dereference Answer) : Traced Dereference Answer :=
  match proxy with
  | none => pure (giveUp ipcProxyErr)
  | some remote => forward remote

/-- `DnsResolverClient::GetAddressesByName`. -/
def getAddressesByName (proxy : Option Remote) (hostName : String) (addrInfo : List INetAddr) :
    Traced Dereference (Int × List INetAddr) :=
  withProxy ipcProxyErr proxy (fun code => (code, addrInfo)) fun remote =>
    proxyGetAddressesByName commonErrOffset remote hostName addrInfo

/-- `DnsResolverClient::GetAddrInfo`. -/
def getAddrInfo (proxy : Option Remote) (hostName server : String) (hints : Option DnsAddrInfo)
    (dnsAddrInfo : List DnsAddrInfo) : Traced Dereference (Int × List DnsAddrInfo) :=
  withProxy ipcProxyErr proxy (fun code => (code, dnsAddrInfo)) fun remote =>
    proxyGetAddrInfo commonErrOffset remote hostName server hints dnsAddrInfo

/-- `DnsResolverClient::CreateNetworkCache`. -/
def createNetworkCache (proxy : Option Remote) (netId : UInt16) : Traced Dereference Int :=
  withProxy ipcProxyErr proxy id fun remote =>
    DnsResolverServiceProxy.createNetworkCache commonErrOffset remote netId

/-- `DnsResolverClient::DestoryNetworkCache`. -/
def destoryNetworkCache (proxy : Option Remote) (netId : UInt16) : Traced Dereference Int :=
  withProxy ipcProxyErr proxy id fun remote =>
    DnsResolverServiceProxy.destoryNetworkCache commonErrOffset remote netId

/-- `DnsResolverClient::FlushNetworkCache`. -/
def flushNetworkCache (proxy : Option Remote) (netId : UInt16) : Traced Dereference Int :=
  withProxy ipcProxyErr proxy id fun remote =>
    DnsResolverServiceProxy.flushNetworkCache commonErrOffset remote netId

/-- `DnsResolverClient::SetResolverConfig`. -/
def setResolverConfig (proxy : Option Remote) (netId baseTimeoutMsec : UInt16)
    (retryCount : UInt8) (servers domains : List String) : Traced Dereference Int :=
  withProxy ipcProxyErr proxy id fun remote =>
    DnsResolverServiceProxy.setResolverConfig commonErrOffset remote netId baseTimeoutMsec
      retryCount servers domains

/-- `DnsResolverClient::GetResolverInfo`. -/
def getResolverInfo (proxy : Option Remote) (netId : UInt16) (servers domains : List String)
    (baseTimeoutMsec : UInt16) (retryCount : UInt8) : Traced Dereference Received :=
  withProxy ipcProxyErr proxy (fun code => ⟨code, servers, domains, baseTimeoutMsec, retryCount⟩)
    fun remote => DnsResolverServiceProxy.getResolverInfo commonErrOffset remote netId servers
      domains baseTimeoutMsec retryCount

/-! ### Requests -/

/-- A request of a client that got this proxy. -/
def request (proxy : Option Remote) : ResolverRequest → Traced Dereference ResolverAnswer
  | .getAddressesByName hostName addrInfo =>
    (fun (code, addrInfo) => .addresses code addrInfo) <$>
      getAddressesByName commonErrOffset ipcProxyErr proxy hostName addrInfo
  | .getAddrInfo hostName server hints dnsAddrInfo =>
    (fun (code, dnsAddrInfo) => .descriptions code dnsAddrInfo) <$>
      getAddrInfo commonErrOffset ipcProxyErr proxy hostName server (some hints) dnsAddrInfo
  | .createNetworkCache netId =>
    .code <$> createNetworkCache commonErrOffset ipcProxyErr proxy netId
  | .destoryNetworkCache netId =>
    .code <$> destoryNetworkCache commonErrOffset ipcProxyErr proxy netId
  | .flushNetworkCache netId => .code <$> flushNetworkCache commonErrOffset ipcProxyErr proxy netId
  | .setResolverConfig netId baseTimeoutMsec retryCount servers domains =>
    .code <$> setResolverConfig commonErrOffset ipcProxyErr proxy netId baseTimeoutMsec retryCount
      servers domains
  | .getResolverInfo netId servers domains baseTimeoutMsec retryCount =>
    .info <$> getResolverInfo commonErrOffset ipcProxyErr proxy netId servers domains
      baseTimeoutMsec retryCount

/-- An answer that only has a code, with the variables of the caller as they were. -/
def gaveUp (asked : ResolverRequest) (code : Int) : ResolverAnswer :=
  match asked with
  | .getAddressesByName _ addrInfo => .addresses code addrInfo
  | .getAddrInfo _ _ _ dnsAddrInfo => .descriptions code dnsAddrInfo
  | .createNetworkCache _ | .destoryNetworkCache _ | .flushNetworkCache _
  | .setResolverConfig _ _ _ _ _ => .code code
  | .getResolverInfo _ servers domains baseTimeoutMsec retryCount =>
    .info ⟨code, servers, domains, baseTimeoutMsec, retryCount⟩

/-- A question about the empty host name. -/
def nameless : ResolverRequest → Bool
  | .getAddressesByName hostName _ | .getAddrInfo hostName _ _ _ => hostName = ""
  | _ => false

/-- The message of a request, if it comes to one. -/
def message (asked : ResolverRequest) : Option (UInt32 × List ParcelCell) :=
  if nameless asked then none else some (asked.code, .interfaceToken descriptor :: asked.cells)

/-- What a client makes of a reply. -/
def reads (asked : ResolverRequest) (reply : List ParcelCell) :
    Traced Dereference ResolverAnswer :=
  match asked with
  | .getAddressesByName _ addrInfo =>
    (fun (code, addrInfo) => .addresses code addrInfo) <$>
      readAddresses commonErrOffset addrInfo reply
  | .getAddrInfo _ _ _ dnsAddrInfo =>
    let (code, dnsAddrInfo) := readAddrInfo commonErrOffset dnsAddrInfo reply
    pure (.descriptions code dnsAddrInfo)
  | .createNetworkCache _ | .destoryNetworkCache _ | .flushNetworkCache _
  | .setResolverConfig _ _ _ _ _ => pure (.code (readResult reply))
  | .getResolverInfo _ servers domains baseTimeoutMsec retryCount =>
    pure (.info (readResolverInfo commonErrOffset
      ⟨0, servers, domains, baseTimeoutMsec, retryCount⟩ reply))

/-- The hints that are dereferenced to write a request. -/
def prepare : ResolverRequest → Traced Dereference Unit
  | .getAddrInfo _ _ hints _ => touch (.hints (some hints))
  | _ => pure ()

theorem map_askRemote {Answer Next : Type} (function : Answer → Next) (remote : Remote)
    (code : UInt32) (data : List ParcelCell) (giveUp : Int → Answer)
    (read : List ParcelCell → Traced Dereference Answer) :
    function <$> askRemote commonErrOffset remote code data giveUp read =
      askRemote commonErrOffset remote code data (fun code => function (giveUp code))
        fun reply => function <$> read reply := by
  cases remote with
  | none => rfl
  | some sendRequest =>
    unfold askRemote
    dsimp only
    split
    · rfl
    · rfl

theorem transact_eq {Answer : Type} {written : ParcelM Unit} {cells : List ParcelCell}
    (writes : Writes written cells) (remote : Remote) (code : UInt32) (giveUp : Int → Answer)
    (read : List ParcelCell → Answer) :
    DnsResolverServiceProxy.transact commonErrOffset remote code written giveUp read =
      askRemote commonErrOffset remote code (.interfaceToken descriptor :: cells) giveUp
        fun reply => pure (read reply) := by
  unfold DnsResolverServiceProxy.transact
  rw [show (writeInterfaceToken descriptor).run [] =
    some ((), [.interfaceToken descriptor]) from rfl]
  dsimp only
  rw [writes]
  rfl

/-- The methods differ in the message they send and in what they make of the reply. -/
theorem request_some (remote : Remote) (asked : ResolverRequest) :
    request commonErrOffset ipcProxyErr (some remote) asked =
      match message asked with
      | none => pure (gaveUp asked (netmanagerErrStringEmpty commonErrOffset))
      | some (code, data) => prepare asked >>= fun _ =>
        askRemote commonErrOffset remote code data (gaveUp asked)
          (reads commonErrOffset asked) := by
  have plain {Answer : Type} (function : Answer → ResolverAnswer) (code : UInt32)
      {written : ParcelM Unit} {cells : List ParcelCell} (writes : Writes written cells)
      (giveUp : Int → Answer) (read : List ParcelCell → Answer) :
      function <$> DnsResolverServiceProxy.transact commonErrOffset remote code written giveUp
          read =
        askRemote commonErrOffset remote code (.interfaceToken descriptor :: cells)
          (fun code => function (giveUp code)) fun reply => pure (function (read reply)) := by
    rw [transact_eq commonErrOffset writes, map_askRemote]
    rfl
  cases asked with
  | getAddressesByName hostName addrInfo =>
    by_cases named : hostName = ""
    · subst named
      rfl
    · unfold message
      rw [if_neg (by simpa [nameless] using named)]
      show _ <$> proxyGetAddressesByName commonErrOffset remote hostName addrInfo = _
      rw [proxyGetAddressesByName_eq commonErrOffset remote hostName addrInfo named, map_askRemote]
      rfl
  | getAddrInfo hostName server hints dnsAddrInfo =>
    by_cases named : hostName = ""
    · subst named
      rfl
    · unfold message
      rw [if_neg (by simpa [nameless] using named)]
      show _ <$> proxyGetAddrInfo commonErrOffset remote hostName server (some hints) dnsAddrInfo =
        _
      rw [proxyGetAddrInfo_eq commonErrOffset remote hostName server hints dnsAddrInfo named,
        map_andThen, map_askRemote]
      rfl
  | createNetworkCache netId => exact plain .code cmdCrtNetworkCache (writes_cell _) id readResult
  | destoryNetworkCache netId => exact plain .code cmdDelNetworkCache (writes_cell _) id readResult
  | flushNetworkCache netId => exact plain .code cmdFlsNetworkCache (writes_cell _) id readResult
  | setResolverConfig netId baseTimeoutMsec retryCount servers domains =>
    refine plain .code cmdSetResolverConfig ?_ id readResult
    exact (writes_cell _).andThen <| (writes_cell _).andThen <| (writes_cell _).andThen <|
      (writes_strings servers).andThen (writes_strings domains)
  | getResolverInfo netId servers domains baseTimeoutMsec retryCount =>
    exact plain .info cmdGetResolverInfo (writes_cell _)
      (fun code => ⟨code, servers, domains, baseTimeoutMsec, retryCount⟩)
      (readResolverInfo commonErrOffset ⟨0, servers, domains, baseTimeoutMsec, retryCount⟩)

/-! ### Replies -/

/-- The items that a reply announces are there. -/
theorem run_readMany_cells {Item : Type} {reader : ParcelM Item}
    {encode : Item → List ParcelCell} {Allowed : Item → Prop} (reads : Exact reader encode Allowed)
    {items : List Item} (allowed : ∀ item ∈ items, Allowed item) (few : items.length < 2 ^ 31)
    (rest : List ParcelCell) :
    (readMany reader (Int32.ofNat items.length).toInt.toNat).run (items.flatMap encode ++ rest) =
      some (items, rest) := by
  rw [toNat_count few]
  exact (exact_readMany reads items.length).reads_cells ⟨rfl, allowed⟩ rest

theorem returns_readAddresses {found : List INetAddr} (few : found.length < 2 ^ 31)
    (addrInfo : List INetAddr) (ret : Int32) :
    (readAddresses commonErrOffset addrInfo
      (countedCells INetAddr.cells found ++ [.int32 ret])).Returns Dereference.NotNull
        (ret.toInt, addrInfo ++ found) := by
  have read := run_readMany_cells INetAddr.exact_unmarshalling (fun _ _ => trivial) few
    [.int32 ret]
  have pushed : (pushAddresses (Int32.ofNat found.length).toInt.toNat addrInfo
      (found.flatMap INetAddr.cells ++ [.int32 ret])).Returns Dereference.NotNull
        (addrInfo ++ found, [.int32 ret]) := by
    refine (returns_iff _ _ _).mpr ⟨(safe_pushAddresses _ _ _).mpr ⟨found, _, read⟩, ?_⟩
    rw [pushAddresses_result, read]
    rfl
  exact pushed.bind _ (returns_pure _ _)

theorem readAddrInfo_cells {found : List DnsAddrInfo} (few : found.length < 2 ^ 31)
    (nameless : ∀ info ∈ found, info.canonName = "") (dnsAddrInfo : List DnsAddrInfo)
    (ret : Int32) :
    readAddrInfo commonErrOffset dnsAddrInfo
      (countedCells DnsAddrInfo.cells found ++ [.int32 ret]) =
        (ret.toInt, dnsAddrInfo ++ found) := by
  have pushed := pushMany_of_readMany (run_readMany_cells DnsAddrInfo.exact_unmarshalling nameless
    few [.int32 ret]) dnsAddrInfo
  unfold readAddrInfo
  rw [show readInt32.run (countedCells DnsAddrInfo.cells found ++ [.int32 ret]) =
    some (Int32.ofNat found.length, found.flatMap DnsAddrInfo.cells ++ [.int32 ret]) from rfl]
  dsimp only
  rw [pushed]
  rfl

/-- netd gives no canonical names. -/
theorem nameless_descriptions (netd : Netd) (hostName server : String) (hints : DnsAddrInfo) :
    ∀ info ∈ (netd.descriptions hostName server hints).2, info.canonName = "" := by
  have described (entries : List AddrInfo) :
      ∀ info ∈ entries.map AddrInfo.description, info.canonName = "" := by
    intro info member
    obtain ⟨entry, _, rfl⟩ := List.mem_map.mp member
    rfl
  unfold Netd.descriptions Netd.lookUp
  dsimp only
  split
  · exact described []
  · split
    · exact described []
    · split
      · exact described []
      · exact described _

/-- A client reads what netd says. -/
theorem returns_reads {netd : Netd} {asked : ResolverRequest} (fits : netd.ReplyFits asked) :
    (reads commonErrOffset asked (netd.replyCells asked)).Returns Dereference.NotNull
      (netd.told asked) := by
  cases asked with
  | getAddressesByName hostName addrInfo =>
    exact (returns_readAddresses commonErrOffset fits addrInfo _).map _ _
  | getAddrInfo hostName server hints dnsAddrInfo =>
    have read := readAddrInfo_cells commonErrOffset fits
      (nameless_descriptions netd hostName server hints) dnsAddrInfo
      (netd.descriptions hostName server hints).1
    unfold reads Netd.replyCells
    dsimp only
    rw [read]
    exact returns_pure _ _
  | createNetworkCache netId => exact returns_pure _ _
  | destoryNetworkCache netId => exact returns_pure _ _
  | flushNetworkCache netId => exact returns_pure _ _
  | setResolverConfig netId baseTimeoutMsec retryCount servers domains => exact returns_pure _ _
  | getResolverInfo netId servers domains baseTimeoutMsec retryCount =>
    unfold reads Netd.replyCells
    dsimp only
    rw [readResolverInfo_infoCells commonErrOffset fits.1 fits.2]
    exact returns_pure _ _

/-! ### The service behind the remote object -/

/- What the base classes do with other requests, and the code that a dead process replies with. -/
variable (ipcObjectStub : UInt32 → List ParcelCell → Handled) (deadReply : Int)

/-- The remote object of the service. A process that crashes while it handles a request replies
nothing. -/
def serviceObject (netd : Netd) (code : UInt32) (data : List ParcelCell) : Handled :=
  (onRemoteRequest commonErrOffset netd ipcObjectStub code data).result.getD ⟨deadReply, []⟩

/-- With the service as its remote object a method returns what `sendRequest` does, which goes
straight to the stub; and when the service crashes, it returns the code of a failure. -/
theorem transact_serviceObject (dead : deadReply ≠ errNone) (netd : Netd) {Answer : Type}
    (code : UInt32) (written : ParcelM Unit) (giveUp : Int → Answer)
    (read : List ParcelCell → Answer) :
    DnsResolverServiceProxy.transact commonErrOffset
        (some (serviceObject commonErrOffset ipcObjectStub deadReply netd)) code written giveUp
        read =
      pure ((sendRequest commonErrOffset netd ipcObjectStub code written giveUp read).result.getD
        (giveUp (netmanagerErrIpcConnectStubFail commonErrOffset))) := by
  unfold DnsResolverServiceProxy.transact sendRequest
  rw [show (writeInterfaceToken descriptor).run [] =
    some ((), [.interfaceToken descriptor]) from rfl]
  dsimp only
  cases written.run [.interfaceToken descriptor] with
  | none => rfl
  | some wrote =>
    obtain ⟨_, data⟩ := wrote
    dsimp only
    rw [result_bind]
    unfold askRemote serviceObject
    rcases Option.eq_none_or_eq_some
      (onRemoteRequest commonErrOffset netd ipcObjectStub code data).result with
      crashed | ⟨handled, returned⟩
    · simp only [crashed, Option.getD_none, Option.bind_none]
      rw [if_pos dead]
    · simp only [returned, Option.getD_some, Option.bind_some]
      split
      · rfl
      · rfl

/-- What a proxy has as its remote object. -/
def objectOf (netd : Netd) : Message.Remote → Remote
  | .null => none
  | .broken error => some fun _ _ => ⟨error, []⟩
  | .stub => some (serviceObject commonErrOffset ipcObjectStub deadReply netd)

/-- A request of a client, when netd is like this. -/
def asks (netd : Netd) (proxy : Option Message.Remote) (asked : ResolverRequest) :
    Traced Dereference ResolverAnswer :=
  request commonErrOffset ipcProxyErr
    (proxy.map (objectOf commonErrOffset ipcObjectStub deadReply netd)) asked

theorem returns_prepare (asked : ResolverRequest) :
    (prepare asked).Returns Dereference.NotNull () := by
  cases asked with
  | getAddrInfo hostName server hints dnsAddrInfo =>
    exact ⟨List.forall_mem_singleton.mpr (Option.some_ne_none hints), rfl⟩
  | _ => exact returns_pure _ _

/-- A client whose request arrives is told what netd says. -/
theorem asks_stub {netd : Netd} (fills : netd.FillsAddresses) {asked : ResolverRequest}
    (fits : asked.Fits) (replyFits : netd.ReplyFits asked) (named : nameless asked = false) :
    (asks commonErrOffset ipcProxyErr ipcObjectStub deadReply netd (some .stub) asked).Returns
      Dereference.NotNull (netd.told asked) := by
  have sent : message asked =
      some (asked.code, .interfaceToken descriptor :: asked.cells) := by
    unfold message
    rw [named]
    rfl
  have handled : serviceObject commonErrOffset ipcObjectStub deadReply netd asked.code
      (.interfaceToken descriptor :: asked.cells) = ⟨netmanagerSuccess, netd.replyCells asked⟩ := by
    unfold serviceObject
    rw [onRemoteRequest_cells commonErrOffset ipcObjectStub fills fits]
    rfl
  unfold asks
  rw [Option.map_some, request_some, sent]
  refine (returns_prepare asked).bind _ ?_
  show (askRemote commonErrOffset (some _) _ _ _ _).Returns _ _
  unfold askRemote
  dsimp only
  rw [handled]
  exact returns_reads commonErrOffset replyFits

/-! ### Requests that do not arrive -/

/-- There is no proxy or no remote object, sending the message returns an error, or there is no
message. -/
def Lost (proxy : Option Message.Remote) (asked : ResolverRequest) : Prop :=
  match proxy with
  | none | some .null => True
  | some (.broken error) => error ≠ errNone ∨ nameless asked = true
  | some .stub => nameless asked = true

/-- What a client is told when its request is lost. -/
def unreached (proxy : Option Message.Remote) (asked : ResolverRequest) : ResolverAnswer :=
  gaveUp asked (proxy.elim ipcProxyErr fun _ =>
    if nameless asked then netmanagerErrStringEmpty commonErrOffset
    else netmanagerErrIpcConnectStubFail commonErrOffset)

/- netd moves with the methods of the service that are entered, and with what others do. -/
variable {State Other : Type} (netd : State → Netd) (moves : State → ServiceCall ⊕ Other → State)

/-- netd after a request, or after what others do. -/
def serve (state : State) : (Option Message.Remote × ResolverRequest) ⊕ Other → State
  | .inl (some .stub, asked) =>
    (message asked).elim state fun (code, data) =>
      (onRemoteRequest commonErrOffset (netd state) ipcObjectStub code data).accesses.foldl
        (fun state call => moves state (.inl call)) state
  | .inl _ => state
  | .inr other => moves state (.inr other)

/-- The method of the service that a request enters when it arrives. -/
def delivered : (Option Message.Remote × ResolverRequest) ⊕ Other → Option (ServiceCall ⊕ Other)
  | .inl (some .stub, asked) => if nameless asked then none else some (.inl asked.call)
  | .inl _ => none
  | .inr other => some (.inr other)

/-- The lists of a request can be counted. -/
def EventFits : (Option Message.Remote × ResolverRequest) ⊕ Other → Prop
  | .inl (_, asked) => asked.Fits
  | .inr _ => True

theorem serve_eq (fills : ∀ state, (netd state).FillsAddresses) (state : State)
    {event : (Option Message.Remote × ResolverRequest) ⊕ Other} (fits : EventFits event) :
    serve commonErrOffset ipcObjectStub netd moves state event =
      (delivered event).elim state (moves state) := by
  rcases event with ⟨proxy, asked⟩ | other
  · rcases proxy with _ | remote
    · rfl
    · cases remote with
      | null => rfl
      | broken error => rfl
      | stub =>
        show (message asked).elim state _ =
          (if nameless asked then none else some (.inl asked.call)).elim state (moves state)
        unfold message
        cases nameless asked with
        | true => rfl
        | false =>
          show (onRemoteRequest commonErrOffset (netd state) ipcObjectStub asked.code
            (.interfaceToken descriptor :: asked.cells)).accesses.foldl _ state = _
          rw [onRemoteRequest_cells commonErrOffset ipcObjectStub (fills state) fits]
          rfl
  · rfl

end Client

end DnsResolverClient

end NetManager
