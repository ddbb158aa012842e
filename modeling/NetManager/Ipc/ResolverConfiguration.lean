/-
This file proves that the configuration of the resolver crosses process boundaries unchanged. The
proxy writes the netId, the timeout, the retry count and two counted lists, which the stub reads in
this order; the reply to a question carries the two lists first. A count is a signed number, so
what is written is read back when the lists have less than 2^31 items.
-/

import NetManager.Ipc.DnsResolverService

namespace NetManager

open Library Parcel

namespace DnsResolverService

open EthernetService Traced

section Codes

variable (commonErrOffset : Int)

/-- `NETMANAGER_ERR_WRITE_DATA_FAIL`. -/
def netmanagerErrWriteDataFail : Int := commonErrOffset + 9

/-- `NETMANAGER_ERR_READ_REPLY_FAIL`. -/
def netmanagerErrReadReplyFail : Int := commonErrOffset + 12

/-! ### The proxy -/

variable (netd : Netd) (ipcObjectStub : UInt32 → List ParcelCell → Handled)

/-- What the methods of the proxy have in common: they write the descriptor and a request, send
it, and read the reply. A method that cannot do one of these gives up with a code. -/
def sendRequest {Answer : Type} (code : UInt32) (written : ParcelM Unit)
    (giveUp : Int → Answer) (read : List ParcelCell → Answer) : Traced ServiceCall Answer :=
  match (writeInterfaceToken descriptor).run [] with
  | none => pure (giveUp (netmanagerErrWriteDescriptorTokenFail commonErrOffset))
  | some (_, data) =>
    match written.run data with
    | none => pure (giveUp (netmanagerErrWriteDataFail commonErrOffset))
    | some (_, data) => do
      let handled ← onRemoteRequest commonErrOffset netd ipcObjectStub code data
      if handled.code ≠ errNone then
        pure (giveUp (netmanagerErrIpcConnectStubFail commonErrOffset))
      else pure (read handled.reply)

/-- `reply.ReadInt32()`, which is zero when there is no number. -/
def readResult (reply : List ParcelCell) : Int :=
  match readInt32.run reply with
  | none => 0
  | some (ret, _) => ret.toInt

/-- `DnsResolverServiceProxy::SetResolverConfig`. -/
def proxySetResolverConfig (netId baseTimeoutMsec : UInt16) (retryCount : UInt8)
    (servers domains : List String) : Traced ServiceCall Int :=
  sendRequest commonErrOffset netd ipcObjectStub cmdSetResolverConfig (do
    writeUint16 netId
    writeUint16 baseTimeoutMsec
    writeUint8 retryCount
    writeCounted writeString servers
    writeCounted writeString domains) id readResult

/-- What `GetResolverInfo` of the proxy returns, and what it leaves in the variables of its
caller. -/
structure Received where
  code : Int
  servers : List String
  domains : List String
  baseTimeoutMsec : UInt16
  retryCount : UInt8
deriving DecidableEq, Repr

/-- How `DnsResolverServiceProxy::GetResolverInfo` reads the reply into the variables of its
caller. What was read before a failure stays there. -/
def readResolverInfo (caller : Received) (reply : List ParcelCell) : Received :=
  let failed (received : Received) : Received :=
    { received with code := netmanagerErrReadReplyFail commonErrOffset }
  match readInt32.run reply with
  | none => failed caller
  | some (size, rest) =>
    let (servers, rest) := pushMany readString size.toInt.toNat caller.servers rest
    let caller := { caller with servers := servers }
    match rest.bind readInt32.run with
    | none => failed caller
    | some (size, rest) =>
      let (domains, rest) := pushMany readString size.toInt.toNat caller.domains rest
      let caller := { caller with domains := domains }
      match rest.bind readUint16.run with
      | none => failed caller
      | some (baseTimeoutMsec, rest) =>
        let caller := { caller with baseTimeoutMsec := baseTimeoutMsec }
        match readUint8.run rest with
        | none => failed caller
        | some (retryCount, rest) =>
          { caller with retryCount := retryCount, code := readResult rest }

/-- `DnsResolverServiceProxy::GetResolverInfo`. -/
def proxyGetResolverInfo (netId : UInt16) (servers domains : List String)
    (baseTimeoutMsec : UInt16) (retryCount : UInt8) : Traced ServiceCall Received :=
  let caller (code : Int) : Received :=
    { code, servers, domains, baseTimeoutMsec, retryCount }
  sendRequest commonErrOffset netd ipcObjectStub cmdGetResolverInfo (writeUint16 netId) caller
    (readResolverInfo commonErrOffset (caller 0))

/-! ### Counted lists -/

/-- The cells of a list with a signed count. -/
def countedCells {Item : Type} (encode : Item → List ParcelCell) (items : List Item) :
    List ParcelCell :=
  .int32 (Int32.ofNat items.length) :: items.flatMap encode

theorem writes_counted {Item : Type} {write : Item → ParcelM Unit}
    {encode : Item → List ParcelCell} (writes : ∀ item, Writes (write item) (encode item))
    (items : List Item) : Writes (writeCounted write items) (countedCells encode items) :=
  (writes_cell _).andThen (writes_forM writes items)

/-- The cells of strings. -/
def stringCells (items : List String) : List ParcelCell :=
  countedCells (fun item => [.string item]) items

theorem writes_strings (items : List String) :
    Writes (writeCounted writeString items) (stringCells items) := by
  have writes (item : String) : Writes (writeString item) [.string item] := writes_cell _
  exact writes_counted writes items

theorem toNat_count {length : Nat} (few : length < 2 ^ 31) :
    (Int32.ofNat length).toInt.toNat = length := by
  rw [Int32.toInt_ofNat_of_lt few, Int.toNat_natCast]

theorem run_readMany_strings (items : List String) (rest : List ParcelCell) :
    (readMany readString items.length).run (items.flatMap (fun item => [.string item]) ++ rest) =
      some (items, rest) :=
  (exact_readMany exact_readString items.length _ _ _).mpr ⟨⟨rfl, fun _ _ => trivial⟩, rfl⟩

theorem run_readStrings {items : List String} (few : items.length < 2 ^ 31)
    (rest : List ParcelCell) :
    readStrings.run (stringCells items ++ rest) = some (items, rest) := by
  unfold readStrings
  rw [run_bind_eq_some]
  refine ⟨Int32.ofNat items.length, _, rfl, ?_⟩
  rw [toNat_count few]
  exact run_readMany_strings items rest

/-- Strings are pushed at the back of a list as they were written. -/
theorem pushMany_strings {items : List String} (few : items.length < 2 ^ 31)
    (caller : List String) (rest : List ParcelCell) :
    pushMany readString (Int32.ofNat items.length).toInt.toNat caller
        (items.flatMap (fun item => [.string item]) ++ rest) =
      (caller ++ items, some rest) := by
  rw [toNat_count few]
  exact pushMany_of_readMany (run_readMany_strings items rest) caller

/-! ### Requests and replies -/

/-- The cells of a request to set the configuration. -/
def configCells (netId baseTimeoutMsec : UInt16) (retryCount : UInt8)
    (servers domains : List String) : List ParcelCell :=
  [.uint16 netId, .uint16 baseTimeoutMsec, .uint8 retryCount] ++
    (stringCells servers ++ stringCells domains)

/-- The cells of a reply to a question for the configuration. -/
def infoCells (info : ResolverInfo) : List ParcelCell :=
  stringCells info.servers ++ (stringCells info.domains ++
    [.uint16 info.baseTimeoutMsec, .uint8 info.retryCount, .int32 info.ret])

theorem run_readResolverConfig (netId baseTimeoutMsec : UInt16) (retryCount : UInt8)
    {servers domains : List String} (fewServers : servers.length < 2 ^ 31)
    (fewDomains : domains.length < 2 ^ 31) :
    readResolverConfig.run (configCells netId baseTimeoutMsec retryCount servers domains) =
      some ((netId, baseTimeoutMsec, retryCount, servers, domains), []) := by
  unfold readResolverConfig configCells
  rw [run_bind_eq_some]
  refine ⟨netId, _, rfl, ?_⟩
  rw [run_bind_eq_some]
  refine ⟨baseTimeoutMsec, _, rfl, ?_⟩
  rw [run_bind_eq_some]
  refine ⟨retryCount, _, rfl, ?_⟩
  rw [run_bind_eq_some]
  refine ⟨servers, _, run_readStrings fewServers _, ?_⟩
  rw [run_bind_eq_some]
  refine ⟨domains, [], ?_, rfl⟩
  rw [← List.append_nil (stringCells domains)]
  exact run_readStrings fewDomains []

theorem readResolverInfo_infoCells {info : ResolverInfo}
    (fewServers : info.servers.length < 2 ^ 31) (fewDomains : info.domains.length < 2 ^ 31)
    (caller : Received) :
    readResolverInfo commonErrOffset caller (infoCells info) =
      { code := info.ret.toInt
        servers := caller.servers ++ info.servers
        domains := caller.domains ++ info.domains
        baseTimeoutMsec := info.baseTimeoutMsec
        retryCount := info.retryCount } := by
  have readServers (rest : List ParcelCell) : readInt32.run (stringCells info.servers ++ rest) =
      some (Int32.ofNat info.servers.length,
        info.servers.flatMap (fun item => [.string item]) ++ rest) := rfl
  have readDomains (rest : List ParcelCell) : readInt32.run (stringCells info.domains ++ rest) =
      some (Int32.ofNat info.domains.length,
        info.domains.flatMap (fun item => [.string item]) ++ rest) := rfl
  unfold readResolverInfo infoCells
  rw [readServers]
  dsimp only
  rw [pushMany_strings fewServers]
  dsimp only
  rw [Option.bind_some, readDomains]
  dsimp only
  rw [pushMany_strings fewDomains]
  rfl

/-- A request to set the configuration is sent as it is, and its reply is a number. -/
theorem sendRequest_eq {Answer : Type} {code : UInt32} {written : ParcelM Unit}
    {cells reply : List ParcelCell} {calls : List ServiceCall}
    (writes : Writes written cells)
    (handled : onRemoteRequest commonErrOffset netd ipcObjectStub code
      (.interfaceToken descriptor :: cells) = ⟨calls, some ⟨netmanagerSuccess, reply⟩⟩)
    (giveUp : Int → Answer) (read : List ParcelCell → Answer) :
    sendRequest commonErrOffset netd ipcObjectStub code written giveUp read =
      ⟨calls, some (read reply)⟩ := by
  have token : (writeInterfaceToken descriptor).run [] =
      some ((), [.interfaceToken descriptor]) := rfl
  unfold sendRequest
  rw [token]
  dsimp only
  rw [writes]
  dsimp only
  rw [List.singleton_append, handled]
  show (⟨calls ++ [], some (read reply)⟩ : Traced ServiceCall Answer) = _
  rw [List.append_nil]

/-- What is set reaches the service once and as it is. -/
theorem proxySetResolverConfig_eq (netId baseTimeoutMsec : UInt16) (retryCount : UInt8)
    {servers domains : List String} (fewServers : servers.length < 2 ^ 31)
    (fewDomains : domains.length < 2 ^ 31) :
    proxySetResolverConfig commonErrOffset netd ipcObjectStub netId baseTimeoutMsec retryCount
        servers domains =
      ⟨[.setResolverConfig netId baseTimeoutMsec retryCount servers domains],
        some (netd.setResolverConfig netId baseTimeoutMsec retryCount servers domains).toInt⟩ := by
  have writes : Writes (do
      writeUint16 netId
      writeUint16 baseTimeoutMsec
      writeUint8 retryCount
      writeCounted writeString servers
      writeCounted writeString domains)
      (configCells netId baseTimeoutMsec retryCount servers domains) :=
    (writes_cell _).andThen <| (writes_cell _).andThen <| (writes_cell _).andThen <|
      (writes_strings servers).andThen (writes_strings domains)
  have handled : onRemoteRequest commonErrOffset netd ipcObjectStub cmdSetResolverConfig
      (.interfaceToken descriptor ::
        configCells netId baseTimeoutMsec retryCount servers domains) =
      ⟨[.setResolverConfig netId baseTimeoutMsec retryCount servers domains],
        some ⟨netmanagerSuccess,
          [.int32 (netd.setResolverConfig netId baseTimeoutMsec retryCount servers domains)]⟩⟩ := by
    rw [onRemoteRequest_eq]
    show onSetResolverConfig commonErrOffset netd _ = _
    unfold onSetResolverConfig
    rw [run_readResolverConfig netId baseTimeoutMsec retryCount fewServers fewDomains]
    rfl
  exact sendRequest_eq commonErrOffset netd ipcObjectStub writes handled id readResult

/-- What the service answers reaches the caller as it is. -/
theorem proxyGetResolverInfo_eq (netId : UInt16) (servers domains : List String)
    (baseTimeoutMsec : UInt16) (retryCount : UInt8) {info : ResolverInfo}
    (answered : netd.getResolverInfo netId = info) (fewServers : info.servers.length < 2 ^ 31)
    (fewDomains : info.domains.length < 2 ^ 31) :
    proxyGetResolverInfo commonErrOffset netd ipcObjectStub netId servers domains baseTimeoutMsec
        retryCount =
      ⟨[.getResolverInfo netId], some
        { code := info.ret.toInt
          servers := servers ++ info.servers
          domains := domains ++ info.domains
          baseTimeoutMsec := info.baseTimeoutMsec
          retryCount := info.retryCount }⟩ := by
  have replies : Writes (do
      writeCounted writeString info.servers
      writeCounted writeString info.domains
      writeUint16 info.baseTimeoutMsec
      writeUint8 info.retryCount
      writeInt32 info.ret) (infoCells info) :=
    (writes_strings info.servers).andThen <| (writes_strings info.domains).andThen <|
      (writes_cell _).andThen <| (writes_cell _).andThen (writes_cell _)
  have handled : onRemoteRequest commonErrOffset netd ipcObjectStub cmdGetResolverInfo
      [.interfaceToken descriptor, .uint16 netId] =
      ⟨[.getResolverInfo netId], some ⟨netmanagerSuccess, infoCells info⟩⟩ := by
    have read : readUint16.run [.uint16 netId] = some (netId, []) := rfl
    rw [onRemoteRequest_eq]
    show onGetResolverInfo commonErrOffset netd [.uint16 netId] = _
    unfold onGetResolverInfo
    rw [read]
    dsimp only
    rw [show getResolverInfo netd netId = ⟨[.getResolverInfo netId], some info⟩ from
      answered ▸ rfl]
    show (⟨[.getResolverInfo netId], some (replied commonErrOffset _)⟩ :
      Traced ServiceCall Handled) = _
    unfold replied
    rw [replies]
    rfl
  have asked : Writes (writeUint16 netId) [.uint16 netId] := writes_cell _
  have crossed := sendRequest_eq commonErrOffset netd ipcObjectStub asked handled
    (fun code => (⟨code, servers, domains, baseTimeoutMsec, retryCount⟩ : Received))
    (readResolverInfo commonErrOffset ⟨0, servers, domains, baseTimeoutMsec, retryCount⟩)
  rw [readResolverInfo_infoCells commonErrOffset fewServers fewDomains] at crossed
  exact crossed

/-- The configuration of the resolver crosses unchanged in both directions. -/
theorem resolver_configuration_crosses :
    (∀ (netId baseTimeoutMsec : UInt16) (retryCount : UInt8) (servers domains : List String),
      servers.length < 2 ^ 31 → domains.length < 2 ^ 31 →
      proxySetResolverConfig commonErrOffset netd ipcObjectStub netId baseTimeoutMsec retryCount
          servers domains =
        ⟨[.setResolverConfig netId baseTimeoutMsec retryCount servers domains],
          some (netd.setResolverConfig netId baseTimeoutMsec retryCount
            servers domains).toInt⟩) ∧
    ∀ (netId : UInt16) (servers domains : List String) (baseTimeoutMsec : UInt16)
        (retryCount : UInt8) (info : ResolverInfo), netd.getResolverInfo netId = info →
      info.servers.length < 2 ^ 31 → info.domains.length < 2 ^ 31 →
      proxyGetResolverInfo commonErrOffset netd ipcObjectStub netId servers domains
          baseTimeoutMsec retryCount =
        ⟨[.getResolverInfo netId], some
          { code := info.ret.toInt
            servers := servers ++ info.servers
            domains := domains ++ info.domains
            baseTimeoutMsec := info.baseTimeoutMsec
            retryCount := info.retryCount }⟩ := by
  constructor
  · intro netId baseTimeoutMsec retryCount servers domains fewServers fewDomains
    exact proxySetResolverConfig_eq commonErrOffset netd ipcObjectStub netId baseTimeoutMsec
      retryCount fewServers fewDomains
  · intro netId servers domains baseTimeoutMsec retryCount info answered fewServers fewDomains
    exact proxyGetResolverInfo_eq commonErrOffset netd ipcObjectStub netId servers domains
      baseTimeoutMsec retryCount answered fewServers fewDomains

end Codes

/-- A question to a resolver that knows one server, from a caller that knows another. -/
theorem resolver_configuration_crosses_example :
    proxySetResolverConfig 0 oneAddress (fun _ _ => ⟨0, []⟩) 100 5000 2 ["8.8.8.8"] [] =
        ⟨[.setResolverConfig 100 5000 2 ["8.8.8.8"] []], some 0⟩ ∧
      (proxyGetResolverInfo 0 oneAddress (fun _ _ => ⟨0, []⟩) 100 ["8.8.8.8"] [] 5000 2).result =
        some ⟨0, ["8.8.8.8", "10.0.0.1"], [], 0, 0⟩ := by
  obtain ⟨sets, gets⟩ := resolver_configuration_crosses 0 oneAddress fun _ _ => ⟨0, []⟩
  refine ⟨sets 100 5000 2 ["8.8.8.8"] [] (by decide) (by decide), ?_⟩
  rw [gets 100 ["8.8.8.8"] [] 5000 2 _ rfl (by decide) (by decide)]
  rfl

end DnsResolverService

end NetManager
