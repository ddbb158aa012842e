/-
This file models the proxy of the Ethernet service and its client. The proxy writes a message and
reads the reply; it has codes and values of its own for what it could not ask, and the client has
others for when it got no proxy.

However clients are mixed and whichever of their calls are lost, they see one book. An answer that
was read is the answer of the book, as long as the lengths of the lists can be written; a call that
is lost changes nothing.
-/

import NetManager.Ipc.EthernetServiceStub

namespace NetManager

open Library Parcel Message EthernetManagement EthernetService EthernetServiceStub

namespace EthernetServiceProxy

section Proxy

/- The common error codes count up from an offset of the base system, which also has
`IPCObjectStub::OnRemoteRequest`. -/
variable (commonErrOffset : Int) (ipcObjectStub : UInt32 → List MessageCell → Int × List ParcelCell)

/-! ### Member functions -/

/-- Send a message. Without a reply there is the code of a failure. -/
def transact (remote : Remote) (ethManagement : EthernetManagement) (code : UInt32)
    (arguments : ParcelM Unit) : Except Int (List ParcelCell) × EthernetManagement :=
  match (do writeInterfaceToken descriptor; arguments : ParcelM Unit).run [] with
  | none => (.error (netmanagerErrWriteDescriptorTokenFail commonErrOffset), ethManagement)
  | some (_, data) =>
    match remote with
    | .null => (.error (netmanagerErrIpcConnectStubFail commonErrOffset), ethManagement)
    | .broken error =>
      (if error ≠ errNone then .error (netmanagerErrIpcConnectStubFail commonErrOffset) else .ok [],
        ethManagement)
    | .stub =>
      let handled :=
        onRemoteRequest commonErrOffset ipcObjectStub ethManagement code (data.map Sum.inl)
      (if handled.code ≠ errNone then .error (netmanagerErrIpcConnectStubFail commonErrOffset)
        else .ok handled.reply, handled.ethManagement)

/-- A number in a reply. A reply without one is read as zero. -/
def replyInt32 (reply : List ParcelCell) : Int :=
  ((readInt32.run reply).map fun read => read.1.toInt).getD 0

/-- A configuration in a reply that says there is one. -/
def replyConfiguration (reply : List ParcelCell) : Option InterfaceConfiguration :=
  match readInt32.run reply with
  | none => none
  | some (res, rest) =>
    if res ≠ getCfgSuc then none
    else (InterfaceConfiguration.unmarshalling.run rest).map Prod.fst

/-- So many strings. One that cannot be read is empty. -/
def readStrings : Nat → List ParcelCell → List String
  | 0, _ => []
  | size + 1, cells =>
    let read := (readString.run cells).getD ("", cells)
    read.1 :: readStrings size read.2

/-- The interfaces in a reply. -/
def replyInterfaces (reply : List ParcelCell) : List String :=
  let read := (readInt32.run reply).getD (0, reply)
  readStrings read.1.toInt.toNat read.2

/-- The code that is returned for what was sent. -/
def sentCode : Except Int (List ParcelCell) → Int
  | .error code => code
  | .ok reply => replyInt32 reply

/-- `EthernetServiceProxy::SetIfaceConfig`. -/
def setIfaceConfig (remote : Remote) (ethManagement : EthernetManagement) (iface : String)
    (ic : InterfaceConfiguration) : Int × EthernetManagement :=
  let sent := transact commonErrOffset ipcObjectStub remote ethManagement cmdSetIfCfg do
    writeString iface
    ic.marshalling
  (sentCode sent.1, sent.2)

/-- `EthernetServiceProxy::GetIfaceConfig`. -/
def getIfaceConfig (remote : Remote) (ethManagement : EthernetManagement) (iface : String) :
    Option InterfaceConfiguration × EthernetManagement :=
  let sent := transact commonErrOffset ipcObjectStub remote ethManagement cmdGetIfCfg
    (writeString iface)
  (sent.1.toOption.bind replyConfiguration, sent.2)

/-- `EthernetServiceProxy::IsActivate`. -/
def isActivate (remote : Remote) (ethManagement : EthernetManagement) (iface : String) :
    Int × EthernetManagement :=
  let sent := transact commonErrOffset ipcObjectStub remote ethManagement cmdIsActivate
    (writeString iface)
  (sentCode sent.1, sent.2)

/-- `EthernetServiceProxy::GetActivateInterfaces`. -/
def getActivateInterfaces (remote : Remote) (ethManagement : EthernetManagement) :
    List String × EthernetManagement :=
  let sent := transact commonErrOffset ipcObjectStub remote ethManagement cmdGetActivateInterface
    (pure ())
  ((sent.1.toOption.map replyInterfaces).getD [], sent.2)

end Proxy

end EthernetServiceProxy

namespace EthernetClient

section Client

/- What the proxy takes, and the code for having no proxy. -/
variable (commonErrOffset ipcProxyErr : Int)
  (ipcObjectStub : UInt32 → List MessageCell → Int × List ParcelCell)

/-- `EthernetClient::SetIfaceConfig`. -/
def setIfaceConfig (proxy : Option Remote) (ethManagement : EthernetManagement) (iface : String)
    (ic : InterfaceConfiguration) : Int × EthernetManagement :=
  match proxy with
  | none => (ipcProxyErr, ethManagement)
  | some remote =>
    EthernetServiceProxy.setIfaceConfig commonErrOffset ipcObjectStub remote ethManagement iface ic

/-- `EthernetClient::GetIfaceConfig`. -/
def getIfaceConfig (proxy : Option Remote) (ethManagement : EthernetManagement) (iface : String) :
    Option InterfaceConfiguration × EthernetManagement :=
  match proxy with
  | none => (none, ethManagement)
  | some remote =>
    EthernetServiceProxy.getIfaceConfig commonErrOffset ipcObjectStub remote ethManagement iface

/-- `EthernetClient::IsActivate`. -/
def isActivate (proxy : Option Remote) (ethManagement : EthernetManagement) (iface : String) :
    Int × EthernetManagement :=
  match proxy with
  | none => (ipcProxyErr, ethManagement)
  | some remote =>
    EthernetServiceProxy.isActivate commonErrOffset ipcObjectStub remote ethManagement iface

/-- `EthernetClient::GetActivateInterfaces`. -/
def getActivateInterfaces (proxy : Option Remote) (ethManagement : EthernetManagement) :
    List String × EthernetManagement :=
  match proxy with
  | none => ([], ethManagement)
  | some remote =>
    EthernetServiceProxy.getActivateInterfaces commonErrOffset ipcObjectStub remote ethManagement

/-! ### Requests -/

/-- A request of a client that got this proxy. -/
def request (proxy : Option Remote) (ethManagement : EthernetManagement) :
    InterfaceRequest → InterfaceAnswer × EthernetManagement
  | .setIfaceConfig iface ic =>
    (setIfaceConfig commonErrOffset ipcProxyErr ipcObjectStub proxy ethManagement iface ic).map
      .code id
  | .getIfaceConfig iface =>
    (getIfaceConfig commonErrOffset ipcObjectStub proxy ethManagement iface).map
      .configuration id
  | .isActivate iface =>
    (isActivate commonErrOffset ipcProxyErr ipcObjectStub proxy ethManagement iface).map .code id
  | .getActivateInterfaces =>
    (getActivateInterfaces commonErrOffset ipcObjectStub proxy ethManagement).map .interfaces id

/-- There is no proxy, it has no remote object, or sending a message returns an error. -/
def Lost : Option Remote → Prop
  | none | some .null => True
  | some (.broken error) => error ≠ errNone
  | some .stub => False

/-- What a client is told when its request is lost. -/
def unreached (proxy : Option Remote) : InterfaceRequest → InterfaceAnswer
  | .setIfaceConfig _ _ | .isActivate _ =>
    .code (proxy.elim ipcProxyErr fun _ => netmanagerErrIpcConnectStubFail commonErrOffset)
  | .getIfaceConfig _ => .configuration none
  | .getActivateInterfaces => .interfaces []

/-- What the proxy writes for a request. -/
def arguments : InterfaceRequest → ParcelM Unit
  | .setIfaceConfig iface ic => do
    writeString iface
    ic.marshalling
  | .getIfaceConfig iface | .isActivate iface => writeString iface
  | .getActivateInterfaces => pure ()

theorem writes_arguments (request : InterfaceRequest) :
    Writes (arguments request) (argumentCells request) := by
  cases request with
  | setIfaceConfig iface ic => exact (writes_cell _).andThen ic.writes_marshalling
  | getIfaceConfig iface => exact writes_cell _
  | isActivate iface => exact writes_cell _
  | getActivateInterfaces => exact writes_done

/-- What a client reads of what was sent for a request. -/
def reads (request : InterfaceRequest) (sent : Except Int (List ParcelCell)) : InterfaceAnswer :=
  match request with
  | .setIfaceConfig _ _ | .isActivate _ => .code (EthernetServiceProxy.sentCode sent)
  | .getIfaceConfig _ =>
    .configuration (sent.toOption.bind EthernetServiceProxy.replyConfiguration)
  | .getActivateInterfaces =>
    .interfaces ((sent.toOption.map EthernetServiceProxy.replyInterfaces).getD [])

/-- The member functions differ in what they write and in what they read. -/
theorem request_some (remote : Remote) (ethManagement : EthernetManagement)
    (request : InterfaceRequest) :
    EthernetClient.request commonErrOffset ipcProxyErr ipcObjectStub (some remote) ethManagement
        request =
      (EthernetServiceProxy.transact commonErrOffset ipcObjectStub remote ethManagement
        (requestCode request) (arguments request)).map (reads request) id := by
  cases request with
  | setIfaceConfig iface ic => rfl
  | getIfaceConfig iface => rfl
  | isActivate iface => rfl
  | getActivateInterfaces => rfl

/-! ### Requests that arrive -/

/-- A request whose list fits is handled as it is. -/
theorem transact_stub (ethManagement : EthernetManagement) {request : InterfaceRequest}
    (fits : RequestFits request) :
    EthernetServiceProxy.transact commonErrOffset ipcObjectStub .stub ethManagement
        (requestCode request) (arguments request) =
      (.ok (replyCells (ethManagement.told request)), ethManagement.after request) := by
  have written : (do writeInterfaceToken descriptor; arguments request : ParcelM Unit).run [] =
      some ((), .interfaceToken descriptor :: argumentCells request) :=
    (writes_cell _).andThen (writes_arguments request) []
  have hears : heard commonErrOffset (requestCode request,
      (.interfaceToken descriptor :: argumentCells request).map Sum.inl) = some request := by
    refine (heard_eq_some commonErrOffset _ _ request).mpr ⟨rfl, fits, [], ?_⟩
    rw [List.append_nil]
    rfl
  unfold EthernetServiceProxy.transact
  rw [written]
  dsimp only
  rw [onRemoteRequest_heard commonErrOffset ipcObjectStub ethManagement hears, handle_eq]
  rfl

/-- A client can read the answer. -/
def Readable : InterfaceAnswer → Prop
  | .code value => (Int32.ofInt value).toInt = value
  | .configuration ic => ∀ known, ic = some known → known.ipStatic.ListFits
  | .interfaces ifaces => ifaces.length < 2 ^ 31

theorem readStrings_map (ifaces : List String) :
    EthernetServiceProxy.readStrings ifaces.length (ifaces.map ParcelCell.string) = ifaces := by
  induction ifaces with
  | nil => rfl
  | cons iface rest inductionHypothesis => exact congrArg (iface :: ·) inductionHypothesis

/-- A client reads what was written for it. -/
theorem reads_replyCells (ethManagement : EthernetManagement) (request : InterfaceRequest)
    (readable : Readable (ethManagement.told request)) :
    reads request (.ok (replyCells (ethManagement.told request))) = ethManagement.told request := by
  cases request with
  | setIfaceConfig iface ic => exact congrArg InterfaceAnswer.code readable
  | isActivate iface => exact congrArg InterfaceAnswer.code readable
  | getIfaceConfig iface =>
    refine congrArg InterfaceAnswer.configuration ?_
    unfold told at readable ⊢
    dsimp only at readable ⊢
    cases configured : ethManagement.getDevInterfaceCfg iface with
    | none => rfl
    | some ic =>
      have read := run_unmarshalling (readable ic configured)
      show EthernetServiceProxy.replyConfiguration (.int32 getCfgSuc :: ic.cells) = some ic
      unfold EthernetServiceProxy.replyConfiguration
      rw [show readInt32.run (.int32 getCfgSuc :: ic.cells) = some (getCfgSuc, ic.cells) from rfl]
      dsimp only
      rw [if_neg (not_not_intro rfl), read, Option.map_some]
  | getActivateInterfaces =>
    have few : ethManagement.getActivateInterfaces.length < 2 ^ 31 := readable
    have size : (Int32.ofNat ethManagement.getActivateInterfaces.length).toInt.toNat =
        ethManagement.getActivateInterfaces.length := by
      rw [Int32.toInt_ofNat_of_lt few, Int.toNat_natCast]
    refine congrArg InterfaceAnswer.interfaces ?_
    show EthernetServiceProxy.readStrings
      (Int32.ofNat ethManagement.getActivateInterfaces.length).toInt.toNat
      (ethManagement.getActivateInterfaces.map ParcelCell.string) = _
    rw [size, readStrings_map]

/-- A client whose request arrives is told what the service says. -/
theorem request_stub (ethManagement : EthernetManagement) {request : InterfaceRequest}
    (fits : RequestFits request) (readable : Readable (ethManagement.told request)) :
    EthernetClient.request commonErrOffset ipcProxyErr ipcObjectStub (some .stub) ethManagement
        request = (ethManagement.told request, ethManagement.after request) := by
  rw [request_some, transact_stub commonErrOffset ipcObjectStub ethManagement fits]
  exact Prod.ext (reads_replyCells ethManagement request readable) rfl

/-- The service after a request that arrives. -/
theorem request_stub_snd (ethManagement : EthernetManagement) {request : InterfaceRequest}
    (fits : RequestFits request) :
    (EthernetClient.request commonErrOffset ipcProxyErr ipcObjectStub (some .stub) ethManagement
        request).2 = ethManagement.after request := by
  rw [request_some, transact_stub commonErrOffset ipcObjectStub ethManagement fits]
  rfl

/-! ### Requests that do not arrive -/

/-- A message to any other remote object leaves the manager as it is. -/
theorem transact_elsewhere {remote : Remote} (elsewhere : remote ≠ .stub)
    (ethManagement : EthernetManagement) (code : UInt32) (arguments : ParcelM Unit) :
    (EthernetServiceProxy.transact commonErrOffset ipcObjectStub remote ethManagement code
      arguments).2 = ethManagement := by
  unfold EthernetServiceProxy.transact
  split
  · rfl
  · cases remote with
    | null => rfl
    | broken error => rfl
    | stub => exact absurd rfl elsewhere

/-- A request without a proxy, or with one that reaches nobody, leaves the manager as it is. -/
theorem request_elsewhere {proxy : Option Remote} (elsewhere : proxy ≠ some .stub)
    (ethManagement : EthernetManagement) (request : InterfaceRequest) :
    (EthernetClient.request commonErrOffset ipcProxyErr ipcObjectStub proxy ethManagement
      request).2 = ethManagement := by
  cases proxy with
  | none => cases request <;> rfl
  | some remote =>
    rw [request_some]
    exact transact_elsewhere commonErrOffset ipcObjectStub
      (fun same => elsewhere (congrArg some same)) ethManagement _ _

/-- A lost request returns what the proxy or the client returns then. -/
theorem request_lost {proxy : Option Remote} (lost : Lost proxy)
    (ethManagement : EthernetManagement) (request : InterfaceRequest) :
    EthernetClient.request commonErrOffset ipcProxyErr ipcObjectStub proxy ethManagement request =
      (unreached commonErrOffset ipcProxyErr proxy request, ethManagement) := by
  cases proxy with
  | none => cases request <;> rfl
  | some remote =>
    have written : (do writeInterfaceToken descriptor; arguments request : ParcelM Unit).run [] =
        some ((), .interfaceToken descriptor :: argumentCells request) :=
      (writes_cell _).andThen (writes_arguments request) []
    have failed : EthernetServiceProxy.transact commonErrOffset ipcObjectStub remote ethManagement
        (requestCode request) (arguments request) =
        (.error (netmanagerErrIpcConnectStubFail commonErrOffset), ethManagement) := by
      unfold EthernetServiceProxy.transact
      rw [written]
      cases remote with
      | null => rfl
      | broken error =>
        dsimp only
        rw [if_pos (show error ≠ errNone from lost)]
      | stub => exact lost.elim
    rw [request_some, failed]
    cases request <;> rfl

/-! ### Every order of requests -/

/-- What a manager says that keeps a book can be read, as long as its lists can be written. -/
theorem readable_told {ethManagement : EthernetManagement} {book : InterfaceBook}
    (represents : ethManagement.Represents book) (fits : book.Fits)
    (few : ethManagement.getActivateInterfaces.length < 2 ^ 31) (request : InterfaceRequest) :
    Readable (ethManagement.told request) := by
  cases request with
  | setIfaceConfig iface ic => exact toInt_ofInt_updateDevInterfaceState ethManagement iface ic
  | getIfaceConfig iface =>
    intro ic configured
    have answers := InterfaceAnswer.configuration.inj (represents.answers (.getIfaceConfig iface))
    obtain ⟨record, known, rfl⟩ := Option.map_eq_some_iff.mp (answers.symm.trans configured)
    exact fits iface record known
  | isActivate iface =>
    show (Int32.ofInt (ethManagement.isActivate iface)).toInt = ethManagement.isActivate iface
    unfold EthernetManagement.isActivate
    split
    · rfl
    · split
      · rfl
      · rfl
  | getActivateInterfaces => exact few

/-- The manager after a client with this proxy has made a request. -/
def serve (ethManagement : EthernetManagement) (event : Option Remote × InterfaceRequest) :
    EthernetManagement :=
  (request commonErrOffset ipcProxyErr ipcObjectStub event.1 ethManagement event.2).2

/-- The request that reaches the service. -/
def delivered (event : Option Remote × InterfaceRequest) : Option InterfaceRequest :=
  if event.1 = some .stub then some event.2 else none

/-- The lists of the configurations in the requests can be written. -/
def EventFits (event : ServiceEvent (Option Remote × InterfaceRequest)) : Prop :=
  ∀ proxy request, event = .asked (proxy, request) → RequestFits request

theorem serve_eq (ethManagement : EthernetManagement) {event : Option Remote × InterfaceRequest}
    (fits : RequestFits event.2) :
    serve commonErrOffset ipcProxyErr ipcObjectStub ethManagement event =
      (delivered event).elim ethManagement fun request => ethManagement.after request := by
  unfold serve delivered
  by_cases reaches : event.1 = some .stub
  · rw [if_pos reaches, reaches]
    exact request_stub_snd commonErrOffset ipcProxyErr ipcObjectStub ethManagement fits
  · rw [if_neg reaches]
    exact request_elsewhere commonErrOffset ipcProxyErr ipcObjectStub reaches ethManagement event.2

/-- What is delivered fits. -/
theorem fits_delivered {events : List (ServiceEvent (Option Remote × InterfaceRequest))}
    (fits : ∀ event ∈ events, EventFits event) {action : Action}
    (member : action ∈ events.filterMap (ServiceEvent.action? delivered)) :
    EthernetService.Fits action := by
  obtain ⟨event, happens, does⟩ := List.mem_filterMap.mp member
  cases event with
  | handle info =>
    obtain rfl := Option.some.inj does
    intro iface ic same
    cases same
  | onSuccess ifname result =>
    obtain rfl := Option.some.inj does
    intro iface ic same
    cases same
  | asked question =>
    obtain ⟨request, heard, acts⟩ := Option.bind_eq_some_iff.mp does
    unfold delivered at heard
    split at heard
    · obtain rfl := Option.some.inj heard
      exact fits _ happens question.1 question.2 rfl action acts
    · cases heard

/-- However the requests of clients are mixed with each other and with the events of the links and
of DHCP, and whichever of them are lost: a request that reaches the service is answered as the book
says that the events and the requests which reached it before make, and a request that is lost gets
what the proxy or the client returns then and changes nothing. -/
theorem requests_answered (answers : Nat → Int) {linkInfos : List NlkEventInfo}
    (few : linkInfos.length < 2 ^ 31)
    {events : List (ServiceEvent (Option Remote × InterfaceRequest))}
    (fits : ∀ event ∈ events, EventFits event) :
    let reached := run (ServiceEvent.after (serve commonErrOffset ipcProxyErr ipcObjectStub))
      (init answers linkInfos) events
    let book := run InterfaceBook.step (.ofLinks linkInfos)
      (events.filterMap (ServiceEvent.action? delivered))
    ∀ asked, (RequestFits asked → book.Answers asked (EthernetClient.request commonErrOffset
        ipcProxyErr ipcObjectStub (some .stub) reached asked).1) ∧
      ∀ proxy, Lost proxy → EthernetClient.request commonErrOffset ipcProxyErr ipcObjectStub proxy
        reached asked = (unreached commonErrOffset ipcProxyErr proxy asked, reached) := by
  intro reached book asked
  have same : reached = run EthernetManagement.step (init answers linkInfos)
      (events.filterMap (ServiceEvent.action? delivered)) :=
    @ServiceEvent.after_run _ delivered (serve commonErrOffset ipcProxyErr ipcObjectStub) events
      (fun question member manager => serve_eq commonErrOffset ipcProxyErr ipcObjectStub manager
        (fits _ member question.1 question.2 rfl)) _
  have represents : reached.Represents book := by
    rw [same]
    exact (represents_init answers linkInfos).run _
  have bookFits : book.Fits :=
    (InterfaceBook.fits_ofLinks linkInfos).run fun action => fits_delivered fits
  have fewActive : reached.getActivateInterfaces.length < 2 ^ 31 := by
    rw [same]
    exact lt_of_le_of_lt (length_getActivateInterfaces_le answers linkInfos _) few
  refine ⟨fun askedFits => ?_, fun proxy lost =>
    request_lost commonErrOffset ipcProxyErr ipcObjectStub lost reached asked⟩
  rw [request_stub commonErrOffset ipcProxyErr ipcObjectStub reached askedFits
    (readable_told represents bookFits fewActive asked)]
  exact represents.answers asked

end Client

/-- One client configures an interface that is up, the request of another one is lost, and then
the link goes down. -/
theorem requests_answered_example :
    let eth0 (flags : UInt64) : NlkEventInfo := { iface := "eth0", ifiFlags := flags }
    let ic : InterfaceConfiguration :=
      { mode := .dhcp, ipStatic := { dnsServers := [{ address := "8.8.8.8" }] } }
    let events : List (ServiceEvent (Option Remote × InterfaceRequest)) :=
      [.asked (some .stub, .setIfaceConfig "eth0" ic),
        .asked (none, .setIfaceConfig "eth0" { mode := .static }), .handle (eth0 0x0)]
    (request 0 7 (fun _ _ => (1, [])) (some .stub)
      (run (ServiceEvent.after (serve 0 7 fun _ _ => (1, []))) (init (fun _ => 1001) [eth0 0x1])
        events) (.getIfaceConfig "eth0")).1 = .configuration (some ic) := by
  intro eth0 ic events
  have fits : ∀ event ∈ events, EventFits event := by
    have all (proxy : Option Remote) (configuration : InterfaceConfiguration)
        (short : configuration.ipStatic.ListFits) :
        EventFits (.asked (proxy, .setIfaceConfig "eth0" configuration)) := by
      rintro _ _ ⟨⟩
      exact (requestFits_setIfaceConfig "eth0" configuration).mpr short
    refine List.forall_mem_cons.mpr ⟨all _ ic (by decide), List.forall_mem_cons.mpr
      ⟨all _ { mode := .static } (by decide), List.forall_mem_singleton.mpr ?_⟩⟩
    intro _ _ same
    cases same
  have answered := (requests_answered 0 7 (fun _ _ => (1, [])) (fun _ => 1001)
    (show [eth0 0x1].length < 2 ^ 31 by decide) fits (.getIfaceConfig "eth0")).1
    (requestFits_of_none rfl)
  have known : (run InterfaceBook.step (.ofLinks [eth0 0x1])
      (events.filterMap (ServiceEvent.action? delivered)) "eth0").map
        InterfaceRecord.configuration = some ic := by decide
  exact answered.trans (congrArg InterfaceAnswer.configuration known)

end EthernetClient

end NetManager
