/-
This file models the stub of the Ethernet service with all its member functions, and the messages
that may reach it, which need not be well formed. What the stub can read is one of the four
requests, and what it cannot read is refused.

So whatever messages arrive between the events of the links and of DHCP, the manager keeps the book
of the configurations among them, and each request is answered from the book.
-/

import NetManager.Ipc.InterfaceBook
import NetManager.Ipc.Message

namespace NetManager

open Library Parcel Message

namespace EthernetServiceStub

open EthernetManagement EthernetService

def cmdSetIfCfg : UInt32 := 0
def cmdGetIfCfg : UInt32 := 1
def cmdIsActivate : UInt32 := 2
def cmdGetActivateInterface : UInt32 := 3

section Stub

/- The common error codes count up from an offset of the base system, which also has
`IPCObjectStub::OnRemoteRequest`. -/
variable (commonErrOffset : Int) (ipcObjectStub : UInt32 → List MessageCell → Int × List ParcelCell)

/-! ### Member functions -/

/-- What `EthernetServiceStub::OnSetIfaceConfig` reads, or the code it refuses the message with. -/
def onSetIfaceConfig (data : List MessageCell) : Except Int InterfaceRequest :=
  match (among readString).run data with
  | none => .error (netmanagerErrReadDataFail commonErrOffset)
  | some (iface, rest) =>
    match (among InterfaceConfiguration.unmarshalling).run rest with
    | none => .error (netmanagerErrLocalPtrNull commonErrOffset)
    | some (ic, _) => .ok (.setIfaceConfig iface ic)

/-- Read the name of an interface for a request. -/
def readIface (request : String → InterfaceRequest) (data : List MessageCell) :
    Except Int InterfaceRequest :=
  match (among readString).run data with
  | none => .error (netmanagerErrReadDataFail commonErrOffset)
  | some (iface, _) => .ok (request iface)

/-- What `EthernetServiceStub::OnGetIfaceConfig` reads. -/
def onGetIfaceConfig : List MessageCell → Except Int InterfaceRequest :=
  readIface commonErrOffset .getIfaceConfig

/-- What `EthernetServiceStub::OnIsActivate` reads. -/
def onIsActivate : List MessageCell → Except Int InterfaceRequest :=
  readIface commonErrOffset .isActivate

/-- What `EthernetServiceStub::OnGetActivateInterfaces` reads: nothing. -/
def onGetActivateInterfaces (_data : List MessageCell) : Except Int InterfaceRequest :=
  .ok .getActivateInterfaces

/-- `memberFuncMap_` of `EthernetServiceStub`. -/
def memberFuncMap (code : UInt32) : Option (List MessageCell → Except Int InterfaceRequest) :=
  if code = cmdSetIfCfg then some (onSetIfaceConfig commonErrOffset)
  else if code = cmdGetIfCfg then some (onGetIfaceConfig commonErrOffset)
  else if code = cmdIsActivate then some (onIsActivate commonErrOffset)
  else if code = cmdGetActivateInterface then some onGetActivateInterfaces
  else none

/-- What the member functions write to the reply. -/
def replies : InterfaceAnswer → ParcelM Unit
  | .code value => writeInt32 (Int32.ofInt value)
  | .configuration none => writeInt32 0
  | .configuration (some ic) => do
    writeInt32 getCfgSuc
    ic.marshalling
  | .interfaces ifaces => do
    writeInt32 (Int32.ofNat ifaces.length)
    ifaces.forM writeString

/-- What the member functions do with a request: ask the service and write its answer. -/
def handle (ethManagement : EthernetManagement) (request : InterfaceRequest) : Handled :=
  match (replies (ethManagement.told request)).run [] with
  | none => ⟨netmanagerErrWriteReplyFail commonErrOffset, [], ethManagement.after request⟩
  | some (_, reply) => ⟨netmanagerSuccess, reply, ethManagement.after request⟩

/-- `EthernetServiceStub::OnRemoteRequest`. -/
def onRemoteRequest (ethManagement : EthernetManagement) (code : UInt32)
    (data : List MessageCell) : Handled :=
  let (remoteDescripter, rest) := interfaceToken data
  if descriptor ≠ remoteDescripter then
    ⟨netmanagerErrDescriptorMismatch commonErrOffset, [], ethManagement⟩
  else
    match memberFuncMap commonErrOffset code with
    | none => ⟨(ipcObjectStub code rest).1, (ipcObjectStub code rest).2, ethManagement⟩
    | some requestFunc =>
      match requestFunc rest with
      | .error refused => ⟨refused, [], ethManagement⟩
      | .ok request => handle commonErrOffset ethManagement request

/-! ### What is heard -/

/-- The request that a message with a code and data is heard as. -/
def heard (message : UInt32 × List MessageCell) : Option InterfaceRequest :=
  let (remoteDescripter, rest) := interfaceToken message.2
  if descriptor ≠ remoteDescripter then none
  else (memberFuncMap commonErrOffset message.1).bind fun requestFunc => (requestFunc rest).toOption

/-- A message that is heard as a request is handled as that request. -/
theorem onRemoteRequest_heard (ethManagement : EthernetManagement) {code : UInt32}
    {data : List MessageCell} {request : InterfaceRequest}
    (hears : heard commonErrOffset (code, data) = some request) :
    onRemoteRequest commonErrOffset ipcObjectStub ethManagement code data =
      handle commonErrOffset ethManagement request := by
  unfold heard at hears
  unfold onRemoteRequest
  dsimp only at hears ⊢
  split at hears
  · cases hears
  · rename_i named
    obtain ⟨requestFunc, listed, reads⟩ := Option.bind_eq_some_iff.mp hears
    rw [if_neg named, listed]
    dsimp only
    cases read : requestFunc (interfaceToken data).2 with
    | error refused =>
      rw [read] at reads
      cases reads
    | ok found =>
      rw [read] at reads
      cases reads
      rfl

/-- A message that is not heard leaves the manager as it is. -/
theorem onRemoteRequest_unheard (ethManagement : EthernetManagement) {code : UInt32}
    {data : List MessageCell} (hears : heard commonErrOffset (code, data) = none) :
    (onRemoteRequest commonErrOffset ipcObjectStub ethManagement code data).ethManagement =
      ethManagement := by
  unfold heard at hears
  unfold onRemoteRequest
  dsimp only at hears ⊢
  split at hears
  · rename_i unnamed
    rw [if_pos unnamed]
  · rename_i named
    rw [if_neg named]
    cases listed : memberFuncMap commonErrOffset code with
    | none => rfl
    | some requestFunc =>
      rw [listed, Option.bind_some] at hears
      dsimp only
      cases read : requestFunc (interfaceToken data).2 with
      | error refused => rfl
      | ok request =>
        rw [read] at hears
        cases hears

/-! ### What the messages look like -/

/-- The code of the message for a request. -/
def requestCode : InterfaceRequest → UInt32
  | .setIfaceConfig _ _ => cmdSetIfCfg
  | .getIfaceConfig _ => cmdGetIfCfg
  | .isActivate _ => cmdIsActivate
  | .getActivateInterfaces => cmdGetActivateInterface

/-- The plain values that the arguments of a request are read from. -/
def argumentCells : InterfaceRequest → List ParcelCell
  | .setIfaceConfig iface ic => .string iface :: ic.cells
  | .getIfaceConfig iface | .isActivate iface => [.string iface]
  | .getActivateInterfaces => []

/-- The list of a configuration in the request can be written. -/
def RequestFits (request : InterfaceRequest) : Prop :=
  ∀ action, request.action? = some action → EthernetService.Fits action

theorem requestFits_setIfaceConfig (iface : String) (ic : InterfaceConfiguration) :
    RequestFits (.setIfaceConfig iface ic) ↔ ic.ipStatic.ListFits := by
  constructor
  · intro fits
    exact fits _ rfl iface ic rfl
  · rintro fits _ ⟨⟩ _ _ ⟨⟩
    exact fits

/-- A request that configures nothing fits. -/
theorem requestFits_of_none {request : InterfaceRequest} (none : request.action? = none) :
    RequestFits request := by
  intro action same
  rw [none] at same
  cases same

/-- A member function reads a request of its code, from the values of the request. -/
def ReadsRequests (code : UInt32)
    (requestFunc : List MessageCell → Except Int InterfaceRequest) : Prop :=
  ∀ data request, requestFunc data = .ok request ↔ requestCode request = code ∧
    RequestFits request ∧ ∃ rest, data = (argumentCells request).map Sum.inl ++ rest

/-- The name of an interface is read from one cell. -/
theorem readsIface : Exact (among readString : MessageM String)
    (fun iface => [.inl (.string iface)]) fun _ => True := exact_readString.among

theorem onSetIfaceConfig_reads : ReadsRequests cmdSetIfCfg (onSetIfaceConfig commonErrOffset) := by
  intro data request
  have readsConfiguration : Exact (among InterfaceConfiguration.unmarshalling : MessageM _) _ _ :=
    InterfaceConfiguration.exact_unmarshalling.among
  constructor
  · intro reads
    unfold onSetIfaceConfig at reads
    split at reads
    · cases reads
    · rename_i iface afterIface readIface
      obtain ⟨_, rfl⟩ := (readsIface _ _ _).mp readIface
      split at reads
      · cases reads
      · rename_i ic rest readConfiguration
        obtain ⟨fits, rfl⟩ := (readsConfiguration _ _ _).mp readConfiguration
        obtain rfl := Except.ok.inj reads
        exact ⟨rfl, (requestFits_setIfaceConfig iface ic).mpr fits, rest, rfl⟩
  · rintro ⟨code, fits, rest, rfl⟩
    cases request with
    | setIfaceConfig iface ic =>
      have readIface : (among readString).run ((argumentCells (.setIfaceConfig iface ic)).map
          Sum.inl ++ rest) = some (iface, ic.cells.map Sum.inl ++ rest) :=
        (readsIface _ _ _).mpr ⟨trivial, rfl⟩
      have readConfiguration := readsConfiguration.reads_cells
        ((requestFits_setIfaceConfig iface ic).mp fits) rest
      unfold onSetIfaceConfig
      rw [readIface]
      dsimp only
      rw [readConfiguration]
    | _ => exact absurd code (ne_of_beq_false rfl)

theorem readIface_reads {make : String → InterfaceRequest} {code : UInt32}
    (made : ∀ request, requestCode request = code → ∃ iface, request = make iface)
    (makes : ∀ iface, requestCode (make iface) = code ∧ RequestFits (make iface) ∧
      argumentCells (make iface) = [.string iface]) :
    ReadsRequests code (readIface commonErrOffset make) := by
  intro data request
  constructor
  · intro reads
    unfold readIface at reads
    split at reads
    · cases reads
    · rename_i iface rest readIface
      obtain ⟨_, rfl⟩ := (readsIface _ _ _).mp readIface
      obtain rfl := Except.ok.inj reads
      obtain ⟨sameCode, fits, cells⟩ := makes iface
      exact ⟨sameCode, fits, rest, by rw [cells]; rfl⟩
  · rintro ⟨sameCode, _, rest, rfl⟩
    obtain ⟨iface, rfl⟩ := made request sameCode
    have readName : (among readString : MessageM String).run
        ([ParcelCell.string iface].map Sum.inl ++ rest) = some (iface, rest) :=
      readsIface.reads_cells trivial rest
    unfold readIface
    rw [(makes iface).2.2, readName]

/-- A listed member function reads the requests of its code. -/
theorem memberFuncMap_reads {code : UInt32}
    {requestFunc : List MessageCell → Except Int InterfaceRequest}
    (listed : memberFuncMap commonErrOffset code = some requestFunc) :
    ReadsRequests code requestFunc := by
  unfold memberFuncMap at listed
  split_ifs at listed with setIfCfg getIfCfg isActivate getActivateInterface
  · rw [setIfCfg, ← Option.some.inj listed]
    exact onSetIfaceConfig_reads commonErrOffset
  · rw [getIfCfg, ← Option.some.inj listed]
    refine readIface_reads commonErrOffset (fun request sameCode => ?_)
      fun _ => ⟨rfl, requestFits_of_none rfl, rfl⟩
    cases request with
    | getIfaceConfig iface => exact ⟨iface, rfl⟩
    | _ => exact absurd sameCode (ne_of_beq_false rfl)
  · rw [isActivate, ← Option.some.inj listed]
    refine readIface_reads commonErrOffset (fun request sameCode => ?_)
      fun _ => ⟨rfl, requestFits_of_none rfl, rfl⟩
    cases request with
    | isActivate iface => exact ⟨iface, rfl⟩
    | _ => exact absurd sameCode (ne_of_beq_false rfl)
  · rw [getActivateInterface, ← Option.some.inj listed]
    intro data request
    constructor
    · intro reads
      obtain rfl := Except.ok.inj reads
      exact ⟨rfl, requestFits_of_none rfl, data, rfl⟩
    · rintro ⟨sameCode, _⟩
      cases request with
      | getActivateInterfaces => rfl
      | _ => exact absurd sameCode (ne_of_beq_false rfl)

/-- Every request has a member function. -/
theorem memberFuncMap_requestCode (request : InterfaceRequest) :
    ∃ requestFunc, memberFuncMap commonErrOffset (requestCode request) = some requestFunc := by
  cases request with
  | setIfaceConfig iface ic => exact ⟨_, rfl⟩
  | getIfaceConfig iface => exact ⟨_, rfl⟩
  | isActivate iface => exact ⟨_, rfl⟩
  | getActivateInterfaces => exact ⟨_, rfl⟩

/-- A message is heard as a request exactly when it has the code of the request, names the
interface, and goes on with the values of the request, which fit. -/
theorem heard_eq_some (code : UInt32) (data : List MessageCell) (request : InterfaceRequest) :
    heard commonErrOffset (code, data) = some request ↔
      code = requestCode request ∧ RequestFits request ∧ ∃ rest, data =
        .inl (.interfaceToken descriptor) :: (argumentCells request).map Sum.inl ++ rest := by
  constructor
  · intro hears
    unfold heard at hears
    dsimp only at hears
    split at hears
    · cases hears
    · rename_i named
      have nonempty : descriptor ≠ "" := by decide
      have token := interfaceToken_eq nonempty
        (Prod.ext (not_not.mp named).symm rfl : interfaceToken data = (descriptor, _))
      obtain ⟨requestFunc, listed, reads⟩ := Option.bind_eq_some_iff.mp hears
      cases read : requestFunc (interfaceToken data).2 with
      | error refused =>
        rw [read] at reads
        cases reads
      | ok found =>
        rw [read] at reads
        obtain rfl : found = request := Option.some.inj reads
        obtain ⟨sameCode, fits, rest, cells⟩ :=
          (memberFuncMap_reads commonErrOffset listed _ _).mp read
        exact ⟨sameCode.symm, fits, rest, token.trans (congrArg (_ :: ·) cells)⟩
  · rintro ⟨rfl, fits, rest, rfl⟩
    obtain ⟨requestFunc, listed⟩ := memberFuncMap_requestCode commonErrOffset request
    have read := (memberFuncMap_reads commonErrOffset listed _ request).mpr
      ⟨rfl, fits, rest, rfl⟩
    unfold heard
    rw [List.cons_append, interfaceToken_cons]
    dsimp only
    rw [if_neg (not_not_intro rfl), listed, Option.bind_some, read]
    rfl

/-! ### Replies -/

/-- The plain values of a reply. -/
def replyCells : InterfaceAnswer → List ParcelCell
  | .code value => [.int32 (Int32.ofInt value)]
  | .configuration none => [.int32 0]
  | .configuration (some ic) => .int32 getCfgSuc :: ic.cells
  | .interfaces ifaces => .int32 (Int32.ofNat ifaces.length) :: ifaces.map ParcelCell.string

theorem writes_replies (answer : InterfaceAnswer) :
    Writes (replies answer) (replyCells answer) := by
  cases answer with
  | code value => exact writes_cell _
  | configuration ic =>
    cases ic with
    | none => exact writes_cell _
    | some ic => exact (writes_cell _).andThen ic.writes_marshalling
  | interfaces ifaces =>
    have strings := writes_forM (fun iface => writes_cell (ParcelCell.string iface)) ifaces
    rw [← List.map_eq_flatMap] at strings
    exact (writes_cell _).andThen strings

/-- A request is handled with success, and its answer is in the reply. -/
theorem handle_eq (ethManagement : EthernetManagement) (request : InterfaceRequest) :
    handle commonErrOffset ethManagement request = ⟨netmanagerSuccess,
      replyCells (ethManagement.told request), ethManagement.after request⟩ := by
  unfold handle
  rw [writes_replies, List.nil_append]

/-- On plain values, the stub does with the two requests about configurations what the part of it
does that knows these two only. -/
theorem onRemoteRequest_command (ethManagement : EthernetManagement) (command : Command)
    (data : List ParcelCell) :
    onRemoteRequest commonErrOffset ipcObjectStub ethManagement
        (match command with | .setIfCfg => cmdSetIfCfg | .getIfCfg => cmdGetIfCfg)
        (data.map Sum.inl) =
      EthernetService.onRemoteRequest commonErrOffset ethManagement command data := by
  have token : interfaceToken (data.map Sum.inl) =
      (((readInterfaceToken.run data).getD ("", data)).1,
        ((readInterfaceToken.run data).getD ("", data)).2.map Sum.inl) := by
    unfold interfaceToken
    rw [among_run_map]
    cases readInterfaceToken.run data <;> rfl
  unfold onRemoteRequest EthernetService.onRemoteRequest
  rw [token]
  generalize (readInterfaceToken.run data).getD ("", data) = named
  obtain ⟨remoteDescripter, rest⟩ := named
  dsimp only
  split
  · rfl
  · cases command with
    | setIfCfg =>
      dsimp only
      rw [show memberFuncMap commonErrOffset cmdSetIfCfg =
        some (onSetIfaceConfig commonErrOffset) from rfl]
      unfold onSetIfaceConfig EthernetService.onSetIfaceConfig
      dsimp only
      rw [among_run_map]
      cases readString.run rest with
      | none => rfl
      | some named =>
        obtain ⟨iface, afterIface⟩ := named
        dsimp only [Option.map_some]
        rw [among_run_map]
        cases InterfaceConfiguration.unmarshalling.run afterIface with
        | none => rfl
        | some configured => rfl
    | getIfCfg =>
      dsimp only
      rw [show memberFuncMap commonErrOffset cmdGetIfCfg =
        some (onGetIfaceConfig commonErrOffset) from rfl]
      unfold onGetIfaceConfig readIface EthernetService.onGetIfaceConfig
      dsimp only
      rw [among_run_map]
      cases readString.run rest with
      | none => rfl
      | some named =>
        obtain ⟨iface, afterIface⟩ := named
        dsimp only [Option.map_some]
        unfold handle EthernetManagement.told
        dsimp only
        cases ethManagement.getDevInterfaceCfg iface <;> rfl

end Stub

end EthernetServiceStub

/-! ### Every message -/

/-- What can happen to the Ethernet service: somebody asks something, the listener tells the flags
of a link, or the DHCP service has a result. -/
inductive ServiceEvent (Asked : Type)
  | asked (question : Asked)
  | handle (info : NlkEventInfo)
  | onSuccess (ifname : String) (result : DhcpResult)

/-- What an event does to the manager, when questions are heard as requests. -/
def ServiceEvent.action? {Asked : Type} (hear : Asked → Option InterfaceRequest) :
    ServiceEvent Asked → Option EthernetManagement.Action
  | .asked question => (hear question).bind InterfaceRequest.action?
  | .handle info => some (.handle info)
  | .onSuccess ifname result => some (.onSuccess ifname result)

/-- The manager after an event, when it is asked this way. -/
def ServiceEvent.after {Asked : Type} (ask : EthernetManagement → Asked → EthernetManagement)
    (this : EthernetManagement) : ServiceEvent Asked → EthernetManagement
  | .asked question => ask this question
  | .handle info => this.step (.handle info)
  | .onSuccess ifname result => this.step (.onSuccess ifname result)

/-- When the questions do what the requests do that they are heard as, the manager runs through the
actions of the events. -/
theorem ServiceEvent.after_run {Asked : Type} {hear : Asked → Option InterfaceRequest}
    {ask : EthernetManagement → Asked → EthernetManagement} {events : List (ServiceEvent Asked)}
    (asks : ∀ question, .asked question ∈ events → ∀ this,
      ask this question = (hear question).elim this fun request => this.after request)
    (this : EthernetManagement) :
    run (ServiceEvent.after ask) this events =
      run EthernetManagement.step this (events.filterMap (ServiceEvent.action? hear)) := by
  refine run_filterMap EthernetManagement.step (ServiceEvent.action? hear) (ServiceEvent.after ask)
    (fun event member state => ?_) this
  cases event with
  | handle info => rfl
  | onSuccess ifname result => rfl
  | asked question =>
    show ask state question = ((hear question).bind InterfaceRequest.action?).elim _ _
    rw [asks question member]
    cases hear question with
    | none => rfl
    | some request => rfl

namespace EthernetServiceStub

open EthernetManagement EthernetService

variable (commonErrOffset : Int) (ipcObjectStub : UInt32 → List MessageCell → Int × List ParcelCell)

/-- The manager after a message. -/
def receive (ethManagement : EthernetManagement) (message : UInt32 × List MessageCell) :
    EthernetManagement :=
  (onRemoteRequest commonErrOffset ipcObjectStub ethManagement message.1 message.2).ethManagement

theorem receive_eq (ethManagement : EthernetManagement) (message : UInt32 × List MessageCell) :
    receive commonErrOffset ipcObjectStub ethManagement message =
      (heard commonErrOffset message).elim ethManagement fun request =>
        ethManagement.after request := by
  unfold receive
  cases hears : heard commonErrOffset message with
  | none => exact onRemoteRequest_unheard commonErrOffset ipcObjectStub ethManagement hears
  | some request =>
    rw [onRemoteRequest_heard commonErrOffset ipcObjectStub ethManagement hears, handle_eq]
    rfl

/-- Whatever messages reach the stub between the events of the links and of DHCP, each one that is
heard as a request is answered as the book says that the events and the requests before it make,
and the others change nothing. -/
theorem messages_answered (answers : Nat → Int) (linkInfos : List NlkEventInfo)
    (events : List (ServiceEvent (UInt32 × List MessageCell))) :
    let reached := run (ServiceEvent.after (receive commonErrOffset ipcObjectStub))
      (init answers linkInfos) events
    let book := run InterfaceBook.step (.ofLinks linkInfos)
      (events.filterMap (ServiceEvent.action? (heard commonErrOffset)))
    ∀ code data,
      let handled := onRemoteRequest commonErrOffset ipcObjectStub reached code data
      (∀ request, heard commonErrOffset (code, data) = some request →
        handled.code = netmanagerSuccess ∧ ∃ answer, book.Answers request answer ∧
          (replies answer).run [] = some ((), handled.reply)) ∧
      (heard commonErrOffset (code, data) = none → handled.ethManagement = reached) := by
  intro reached book code data handled
  have same : reached = run EthernetManagement.step (init answers linkInfos)
      (events.filterMap (ServiceEvent.action? (heard commonErrOffset))) :=
    ServiceEvent.after_run (fun message _ manager =>
      receive_eq commonErrOffset ipcObjectStub manager message) _
  have represents : reached.Represents book := by
    rw [same]
    exact (represents_init answers linkInfos).run _
  refine ⟨fun request hears => ?_, fun unheard =>
    onRemoteRequest_unheard commonErrOffset ipcObjectStub reached unheard⟩
  have answered : handled = ⟨netmanagerSuccess, replyCells (reached.told request),
      reached.after request⟩ :=
    (onRemoteRequest_heard commonErrOffset ipcObjectStub reached hears).trans (handle_eq _ _ _)
  rw [answered]
  exact ⟨rfl, reached.told request, represents.answers request, writes_replies _ []⟩

end EthernetServiceStub

end NetManager
