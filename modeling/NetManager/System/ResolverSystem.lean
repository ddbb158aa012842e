/-
This file puts the DNS resolver beside the services that configure it. The connection service and
the resolver service tell the same netd: the one what to use for a network whenever link
information is reported, the other what its clients ask for. The calls of the connection service
reach netd in the order they are made, and what the clients of the resolver do comes in between.

Of netd it is only assumed that what it says of the configuration of a net id comes from what was
set last for it, as long as nothing happened to the cache of the net id since. A network that is
registered still has its cache. So a client of the resolver is told of the name servers that were
reported last for the network, as long as no client changed them.
-/

import NetManager.Conn.CacheLifetimes
import NetManager.Ipc.DnsResolverClient
import NetManager.System.InterfaceInNetd

namespace NetManager

open Library DnsResolverService

/-! ### What is set for a net id -/

/-- What is set for a net id. -/
structure ResolverSetting where
  baseTimeoutMsec : UInt16
  retryCount : UInt8
  servers : List String
  domains : List String
deriving DecidableEq

/-- What a call of the connection service sets for a net id. -/
def NetdCall.setting (netId : UInt16) : NetdCall → Option ResolverSetting
  | .setResolverConfig id baseTimeoutMsec retryCount servers domains =>
    if id = netId then some ⟨baseTimeoutMsec, retryCount, servers, domains⟩ else none
  | _ => none

/-- How a call of the connection service changes what is set for a net id. What becomes of it when
the cache is created or destroyed is not known. -/
def NetdCall.change (netId : UInt16) : NetdCall → Option (Option ResolverSetting)
  | .createNetworkCache id | .destoryNetworkCache id => if id = netId then some none else none
  | call => (call.setting netId).map some

/-- How a method of the resolver service changes what is set for a net id. -/
def DnsResolverService.ServiceCall.change (netId : UInt16) :
    ServiceCall → Option (Option ResolverSetting)
  | .createNetworkCache id | .destoryNetworkCache id | .flushNetworkCache id =>
    if id = netId then some none else none
  | .setResolverConfig id baseTimeoutMsec retryCount servers domains =>
    if id = netId then some (some ⟨baseTimeoutMsec, retryCount, servers, domains⟩) else none
  | _ => none

namespace NetdCall

variable {netId : Int} (number : ((asUInt16 netId).toNat : Int) = netId)

include number

theorem named_of_ite {Value : Type} {id : UInt16} {value : Value}
    (said : (if id = asUInt16 netId then some value else none) ≠ none) :
    some (id.toNat : Int) = some netId := by
  by_cases same : id = asUInt16 netId
  · rw [same, number]
  · exact absurd (if_neg same) said

/-- What is set is set for the net id. -/
theorem netId?_of_setting {call : NetdCall} (sets : call.setting (asUInt16 netId) ≠ none) :
    call.netId? = some netId := by
  cases call with
  | setResolverConfig id baseTimeoutMsec retryCount servers domains =>
    exact named_of_ite number sets
  | _ => exact absurd rfl sets

/-- A change is about the net id. -/
theorem netId?_of_change {call : NetdCall} (changes : call.change (asUInt16 netId) ≠ none) :
    call.netId? = some netId := by
  cases call with
  | createNetworkCache id => exact named_of_ite number changes
  | destoryNetworkCache id => exact named_of_ite number changes
  | setResolverConfig id baseTimeoutMsec retryCount servers domains =>
    exact netId?_of_setting number fun unset => changes (congrArg (Option.map some) unset)
  | _ => exact absurd rfl changes

/-- What was set for a network in its lifetime is still set. -/
theorem latest_change {calls used : List NetdCall}
    (lifetime : calls.filter (fun call => call.netId? = some netId) =
      .createNetworkCache (asUInt16 netId) :: used)
    (plain : ∀ call ∈ used, call.aboutCache = false) {last : ResolverSetting}
    (set : latest (NetdCall.setting (asUInt16 netId)) calls = some last) :
    latest (NetdCall.change (asUInt16 netId)) calls = some (some last) := by
  have setUsed : latest (NetdCall.setting (asUInt16 netId)) used = some last := by
    rw [← latest_filter calls fun call sets => decide_eq_true (netId?_of_setting number sets),
      lifetime] at set
    exact set
  have same : ∀ call ∈ used, call.change (asUInt16 netId) =
      (call.setting (asUInt16 netId)).map some := by
    intro call member
    have other := plain call member
    cases call <;> first | rfl | cases other
  rw [← latest_filter calls fun call changes => decide_eq_true (netId?_of_change number changes),
    lifetime]
  calc latest (NetdCall.change (asUInt16 netId)) ([.createNetworkCache (asUInt16 netId)] ++ used)
      = (latest (NetdCall.change (asUInt16 netId)) used).or _ := latest_append _ _ _
    _ = some (some last) := by rw [latest_congr same, latest_map, setUsed]; rfl

end NetdCall

/-- What an update to this link information sets. -/
def NetLinkInfo.setting (this : NetLinkInfo) : ResolverSetting where
  baseTimeoutMsec := 0
  retryCount := 1
  servers := this.dnsList.map (·.address)
  domains := this.dnsList.map (·.hostName)

/-- What was set last is that of the link information, or nothing was set. -/
def NetdView.settings : NetdView (Option ResolverSetting) where
  initial := none
  on netId kept call := (call.setting (asUInt16 netId)).or kept
  Agrees netLinkInfo kept := kept = some netLinkInfo.setting ∨ kept = none ∧ netLinkInfo = {}
  blank := Or.inr ⟨rfl, rfl⟩
  cache := by
    intro netId kept call cache
    cases call <;> first | rfl | cases cache
  physical := fun _ _ _ _ => rfl
  linkInfo := by
    intro netId kept old new _
    have silent {calls : List NetdCall} {before : Option ResolverSetting}
        (others : ∀ call ∈ calls, call.setting (asUInt16 netId) = none) :
        calls.foldl (fun kept call => (call.setting (asUInt16 netId)).or kept) before = before :=
      NetdTable.foldl_kept fun call member => by rw [others call member, Option.none_or]
    have told : NetdCall.setting (asUInt16 netId) (.setResolverConfig (asUInt16 netId) 0 1
        (new.dnsList.map (·.address)) (new.dnsList.map (·.hostName))) = some new.setting :=
      if_pos rfl
    refine Or.inl ?_
    unfold Network.linkInfoCalls Network.updateDnses
    rw [List.foldl_append, List.foldl_append, List.foldl_cons, told, List.foldl_nil,
      silent (Network.forall_updateMtu old new fun _ _ => rfl), Option.some_or]
  others := by
    intro netId kept id old new fits idFits other
    refine NetdTable.foldl_kept (Network.forall_linkInfoCalls old new (fun _ => rfl) (fun _ => rfl)
      (fun _ _ _ => rfl) (fun _ _ _ => rfl) (fun _ _ => ?_) (fun _ _ => rfl))
    have silent {servers domains : List String} :
        NetdCall.setting (asUInt16 netId) (.setResolverConfig (asUInt16 id) 0 1 servers domains) =
          none := if_neg (asUInt16_ne idFits fits other)
    rw [silent, Option.none_or]

namespace NetConnService

/-- Every action adds calls at the end. -/
theorem netdCalls_step {state : NetConnService} (wellFormed : state.registry.WellFormed)
    (action : Action) : state.world.netdCalls <+: (state.step action).world.netdCalls := by
  show state.world.netdSide.calls <+: (state.step action).world.netdSide.calls
  have step := state.netdStep wellFormed action
  generalize (state.step action).world.netdSide = after at step ⊢
  cases step with
  | grows _ grows =>
    obtain ⟨issued, appended, _⟩ := grows.calls
    exact ⟨issued, appended.symm⟩
  | physical network _ _ =>
    unfold NetdSide.createPhysical
    split
    · exact List.prefix_rfl
    · exact List.prefix_append _ _
  | linkInfo network netLinkInfo _ _ => exact List.prefix_append _ _

/-- What was set last for the net id of an entry is that of its link information, once there is
any, and its cache was not destroyed. -/
theorem change_run (answers : Nat → Int) (actions : List Action)
    (few : (run step (start answers) actions).createdSuppliers ≤ NetIdManager.capacity)
    {supplierId : UInt32} {entry : SupplierEntry}
    (kept : (run step (start answers) actions).directory.entry supplierId = some entry)
    (reported : entry.netLinkInfo ≠ {}) :
    ∃ netId, (run step (start answers) actions).netIdOf supplierId = some netId ∧
      latest (NetdCall.change (asUInt16 netId))
        (run step (start answers) actions).world.netdCalls =
          some (some entry.netLinkInfo.setting) := by
  have wellFormed := run_wellFormed answers actions
  obtain ⟨netId, own, agrees⟩ := agrees_run answers actions few kept
  refine ⟨netId, own, ?_⟩
  have set := (agrees NetdView.settings).resolve_right fun unset => reported unset.2
  rw [show NetdView.settings.after netId _ = latest (NetdCall.setting (asUInt16 netId)) _ from
    foldl_latest _ _] at set
  obtain ⟨network, found, rfl⟩ := Option.map_eq_some_iff.mp own
  have listed := List.mem_of_find?_eq_some found
  have allocated := wellFormed.networks network listed
  obtain ⟨used, plain, calls⟩ := calls_of_network answers actions few allocated
  have held := (holdsNetwork_iff (fun service member =>
    Or.inl (wellFormed.owners service member)) network).mpr (Or.inl listed)
  rw [if_pos held, List.append_nil] at calls
  obtain ⟨netId, number⟩ := netId_number wellFormed few allocated
  rw [← netId] at number
  exact NetdCall.latest_change number calls plain set

end NetConnService

/-! ### The system -/

/-- The Ethernet manager and the connection service, the calls that have not reached netd, and what
has reached it. -/
structure ResolverSystem where
  services : EthernetSystem
  underWay : List NetdCall := []
  history : List (ServiceCall ⊕ NetdCall) := []

namespace ResolverSystem

/-- What can happen: a step of the services, a call of the connection service reaches netd, or a
client of the resolver asks. -/
inductive Action
  | services (action : EthernetSystem.Action)
  | tell
  | client (proxy : Option Message.Remote) (asked : ResolverRequest)

section System

variable (commonErrOffset : Int) (ipcObjectStub : UInt32 → List ParcelCell → Handled)
  (netd : List (ServiceCall ⊕ NetdCall) → Netd)

/-- netd after what it is told. -/
def record (history : List (ServiceCall ⊕ NetdCall)) (told : ServiceCall ⊕ NetdCall) :
    List (ServiceCall ⊕ NetdCall) := history ++ [told]

/-- What netd is told of an event. -/
def receive (this : ResolverSystem)
    (event : (Option Message.Remote × ResolverRequest) ⊕ NetdCall) : ResolverSystem :=
  { this with
    history :=
      DnsResolverClient.serve commonErrOffset ipcObjectStub netd record this.history event }

/-- The system after an action. -/
def step (this : ResolverSystem) : Action → ResolverSystem
  | .services action =>
    let after := this.services.step action
    { this with
      services := after
      underWay := this.underWay ++ after.connection.world.netdCalls.drop
        this.services.connection.world.netdCalls.length }
  | .tell =>
    match this.underWay with
    | [] => this
    | call :: rest =>
      { this with underWay := rest }.receive commonErrOffset ipcObjectStub netd (.inr call)
  | .client proxy asked => this.receive commonErrOffset ipcObjectStub netd (.inl (proxy, asked))

/-- The system as the services start. -/
def start (answers : Nat → Int) (linkInfos : List NlkEventInfo) : ResolverSystem where
  services := .start answers linkInfos

/-! ### Runs -/

variable {commonErrOffset ipcObjectStub netd}

/-- The step that the services take. -/
def Action.services? : Action → Option EthernetSystem.Action
  | .services action => some action
  | _ => none

/-- Requests whose lists can be counted. -/
def Action.Fits : Action → Prop
  | .client _ asked => asked.Fits
  | _ => True

/-- The services run as they do on their own, netd is told of the calls of the connection service in
their order, and of clients it is told what those that arrive ask for. -/
structure Told (answers : Nat → Int) (linkInfos : List NlkEventInfo) (actions : List Action)
    (this : ResolverSystem) : Prop where
  services : this.services =
    run EthernetSystem.step (.start answers linkInfos) (actions.filterMap Action.services?)
  calls : this.history.filterMap Sum.getRight? ++ this.underWay =
    this.services.connection.world.netdCalls
  clients : ∀ call, .inl call ∈ this.history → ∃ proxy asked, .client proxy asked ∈ actions ∧
    (DnsResolverClient.delivered (.inl (proxy, asked)) : Option (ServiceCall ⊕ NetdCall)) =
      some (.inl call)

/-- The calls of a step of the services come after those that were made before. -/
theorem netdCalls_services (answers : Nat → Int) (linkInfos : List NlkEventInfo)
    (actions : List EthernetSystem.Action) (action : EthernetSystem.Action) :
    let services := run EthernetSystem.step (.start answers linkInfos) actions
    services.connection.world.netdCalls <+: (services.step action).connection.world.netdCalls := by
  intro services
  obtain ⟨requests, serviceRun⟩ := EthernetSystem.connection_run answers linkInfos actions
  rcases services.connection_step action with same | ⟨request, same⟩
  · rw [same]
  · have wellFormed : services.connection.registry.WellFormed := by
      rw [show services.connection = _ from serviceRun]
      exact NetConnService.run_wellFormed answers requests
    rw [same]
    exact NetConnService.netdCalls_step wellFormed request

/-- What netd is told of an event. -/
theorem receive_eq (fills : ∀ history, (netd history).FillsAddresses) (this : ResolverSystem)
    (event : (Option Message.Remote × ResolverRequest) ⊕ NetdCall)
    (fits : DnsResolverClient.EventFits event) :
    this.receive commonErrOffset ipcObjectStub netd event =
      { this with history := this.history ++ (DnsResolverClient.delivered event).toList } := by
  unfold receive
  rw [DnsResolverClient.serve_eq commonErrOffset ipcObjectStub netd record fills this.history fits]
  cases DnsResolverClient.delivered event with
  | none => rw [Option.elim_none, Option.toList_none, List.append_nil]
  | some told => rfl

variable {answers : Nat → Int} {linkInfos : List NlkEventInfo} {actions : List Action}
  {this : ResolverSystem}

/-- What is no step of the services leaves them as they are. -/
theorem services_append (action : Action) (actions : List Action)
    (other : action.services? = none) :
    (actions ++ [action]).filterMap Action.services? = actions.filterMap Action.services? := by
  rw [List.filterMap_append, List.filterMap_cons_none other]
  exact List.append_nil _

/-- A run that goes on is told of the same requests. -/
theorem clients_append {call : ServiceCall} {actions : List Action} (action : Action)
    (asked : ∃ proxy asked, .client proxy asked ∈ actions ∧
      (DnsResolverClient.delivered (.inl (proxy, asked)) : Option (ServiceCall ⊕ NetdCall)) =
        some (.inl call)) :
    ∃ proxy asked, .client proxy asked ∈ actions ++ [action] ∧
      (DnsResolverClient.delivered (.inl (proxy, asked)) : Option (ServiceCall ⊕ NetdCall)) =
        some (.inl call) := by
  obtain ⟨proxy, asked, asks, arrives⟩ := asked
  exact ⟨proxy, asked, List.mem_append_left _ asks, arrives⟩

/-- A request enters a method when it gets to the stub with a message, or it is lost. -/
theorem delivered_client (proxy : Option Message.Remote) (asked : ResolverRequest) :
    (DnsResolverClient.delivered (.inl (proxy, asked)) : Option (ServiceCall ⊕ NetdCall)) = none ∨
      proxy = some .stub ∧ (DnsResolverClient.delivered (.inl (proxy, asked)) :
        Option (ServiceCall ⊕ NetdCall)) = some (.inl asked.call) := by
  rcases proxy with _ | remote
  · exact Or.inl rfl
  · cases remote with
    | null => exact Or.inl rfl
    | broken error => exact Or.inl rfl
    | stub =>
      unfold DnsResolverClient.delivered
      dsimp only
      split
      · exact Or.inl rfl
      · exact Or.inr ⟨rfl, rfl⟩

theorem Told.stepServices (told : this.Told answers linkInfos actions)
    (action : EthernetSystem.Action) :
    (this.step commonErrOffset ipcObjectStub netd (.services action)).Told answers linkInfos
      (actions ++ [.services action]) := by
  obtain ⟨issued, appended⟩ := netdCalls_services answers linkInfos _ action
  rw [← told.services] at appended
  refine ⟨?_, ?_, fun call member => clients_append _ (told.clients call member)⟩
  · rw [List.filterMap_append, run_append, ← told.services]
    rfl
  · show this.history.filterMap Sum.getRight? ++ (this.underWay ++
        List.drop _ (this.services.step action).connection.world.netdCalls) =
      (this.services.step action).connection.world.netdCalls
    rw [← appended, List.drop_left, ← List.append_assoc, told.calls]

theorem Told.stepTell (fills : ∀ history, (netd history).FillsAddresses)
    (told : this.Told answers linkInfos actions) :
    (this.step commonErrOffset ipcObjectStub netd .tell).Told answers linkInfos
      (actions ++ [.tell]) := by
  have same := services_append .tell actions rfl
  unfold step
  dsimp only
  split
  · exact ⟨same ▸ told.services, told.calls,
      fun call member => clients_append _ (told.clients call member)⟩
  · rename_i call rest waiting
    rw [receive_eq fills { this with underWay := rest } (.inr call) trivial]
    refine ⟨same ▸ told.services, ?_, fun other member => ?_⟩
    · show (this.history ++ [Sum.inr call]).filterMap Sum.getRight? ++ rest = _
      rw [← told.calls, waiting, List.filterMap_append, List.append_assoc]
      rfl
    · refine clients_append _ (told.clients other ?_)
      exact (List.mem_append.mp member).resolve_right fun added =>
        Sum.inl_ne_inr (List.mem_singleton.mp added)

theorem Told.stepClient (fills : ∀ history, (netd history).FillsAddresses)
    (told : this.Told answers linkInfos actions) (proxy : Option Message.Remote)
    {asked : ResolverRequest} (fits : asked.Fits) :
    (this.step commonErrOffset ipcObjectStub netd (.client proxy asked)).Told answers linkInfos
      (actions ++ [.client proxy asked]) := by
  have same := services_append (.client proxy asked) actions rfl
  unfold step
  dsimp only
  rw [receive_eq fills this (.inl (proxy, asked)) fits]
  rcases delivered_client proxy asked with lost | ⟨_, arrives⟩
  · rw [lost, Option.toList_none, List.append_nil]
    exact ⟨same ▸ told.services, told.calls,
      fun call member => clients_append _ (told.clients call member)⟩
  · rw [arrives, Option.toList_some]
    refine ⟨same ▸ told.services, ?_, fun call member => ?_⟩
    · show (this.history ++ [Sum.inl asked.call]).filterMap Sum.getRight? ++ this.underWay = _
      rw [← told.calls, List.filterMap_append]
      exact congrArg (· ++ this.underWay) (List.append_nil _)
    · rcases List.mem_append.mp member with earlier | added
      · exact clients_append _ (told.clients call earlier)
      · refine ⟨proxy, asked, List.mem_append_right _ (List.mem_singleton_self _), ?_⟩
        rw [arrives, List.mem_singleton.mp added]

theorem Told.start (answers : Nat → Int) (linkInfos : List NlkEventInfo) :
    (ResolverSystem.start answers linkInfos).Told answers linkInfos [] :=
  ⟨rfl, rfl, fun _ member => absurd member List.not_mem_nil⟩

/-- What netd is told in a run. -/
theorem told_run (fills : ∀ history, (netd history).FillsAddresses) (answers : Nat → Int)
    (linkInfos : List NlkEventInfo) {actions : List Action}
    (fits : ∀ action ∈ actions, action.Fits) :
    (run (step commonErrOffset ipcObjectStub netd) (.start answers linkInfos) actions).Told answers
      linkInfos actions := by
  induction actions using List.reverseRecOn with
  | nil => exact .start answers linkInfos
  | append_singleton actions action inductionHypothesis =>
    obtain ⟨earlier, last⟩ := List.forall_mem_append.mp fits
    have told := inductionHypothesis earlier
    rw [run_concat]
    cases action with
    | services action => exact told.stepServices action
    | tell => exact told.stepTell fills
    | client proxy asked => exact told.stepClient fills proxy (last _ (List.mem_singleton_self _))

/-! ### What clients are told -/

/-- What netd says of the configuration of a net id comes from what was set last for it. Nothing is
said of a net id whose cache was created, destroyed or flushed since. -/
def Recalls (netd : List (ServiceCall ⊕ NetdCall) → Netd)
    (memory : ResolverSetting → ResolverInfo) : Prop :=
  ∀ history netId setting,
    latest (Sum.elim (ServiceCall.change netId) (NetdCall.change netId)) history =
      some (some setting) → (netd history).getResolverInfo netId = memory setting

/-- When everything the connection service said has reached netd, a client that asks for the
configuration of the network of a supplier is told of the name servers that were reported last for
this supplier, as long as no client changed the configuration of this network. -/
theorem servers_told (ipcProxyErr deadReply : Int)
    (fills : ∀ history, (netd history).FillsAddresses) {memory : ResolverSetting → ResolverInfo}
    (recalls : Recalls netd memory) (answers : Nat → Int) (linkInfos : List NlkEventInfo)
    {actions : List Action} (fits : ∀ action ∈ actions, action.Fits) :
    let reached := run (step commonErrOffset ipcObjectStub netd) (.start answers linkInfos) actions
    reached.services.connection.createdSuppliers ≤ 64512 → reached.underWay = [] →
    ∀ supplierId entry, reached.services.connection.directory.entry supplierId = some entry →
    entry.netLinkInfo ≠ {} →
    ∃ netId, reached.services.connection.netIdOf supplierId = some netId ∧
      ((∀ asked, .client (some .stub) asked ∈ actions →
        asked.call.change (asUInt16 netId) = none) →
      let info := memory entry.netLinkInfo.setting
      info.servers.length < 2 ^ 31 → info.domains.length < 2 ^ 31 →
      ∀ servers domains baseTimeoutMsec retryCount,
        (DnsResolverClient.asks commonErrOffset ipcProxyErr ipcObjectStub deadReply
          (netd reached.history) (some .stub) (.getResolverInfo (asUInt16 netId) servers domains
            baseTimeoutMsec retryCount)).Returns Dereference.NotNull
          (.info
            { code := info.ret.toInt
              servers := servers ++ info.servers
              domains := domains ++ info.domains
              baseTimeoutMsec := info.baseTimeoutMsec
              retryCount := info.retryCount })) := by
  intro reached few settled supplierId entry kept reported
  have told : reached.Told answers linkInfos actions := told_run fills answers linkInfos fits
  obtain ⟨requests, serviceRun⟩ :=
    EthernetSystem.connection_run answers linkInfos (actions.filterMap Action.services?)
  rw [← told.services] at serviceRun
  obtain ⟨netId, own, latestCall⟩ : ∃ netId,
      reached.services.connection.netIdOf supplierId = some netId ∧
        latest (NetdCall.change (asUInt16 netId)) reached.services.connection.world.netdCalls =
          some (some entry.netLinkInfo.setting) := by
    rw [serviceRun] at few kept ⊢
    exact NetConnService.change_run answers requests few kept reported
  refine ⟨netId, own, ?_⟩
  intro unchanged info fewServers fewDomains servers domains baseTimeoutMsec retryCount
  have calls := told.calls
  rw [settled, List.append_nil] at calls
  have ofClients : ∀ call, .inl call ∈ reached.history →
      ServiceCall.change (asUInt16 netId) call = none := by
    intro call member
    obtain ⟨proxy, asked, asks, arrives⟩ := told.clients call member
    rcases delivered_client proxy asked with lost | ⟨rfl, entered⟩
    · exact absurd (lost.symm.trans arrives).symm (Option.some_ne_none _)
    · obtain rfl : asked.call = call :=
        Sum.inl.inj (Option.some.inj (entered.symm.trans arrives))
      exact unchanged asked asks
  have said : (netd reached.history).getResolverInfo (asUInt16 netId) = info :=
    recalls _ _ _ ((latest_right _ ofClients).trans (calls ▸ latestCall))
  let asked : ResolverRequest :=
    .getResolverInfo (asUInt16 netId) servers domains baseTimeoutMsec retryCount
  have askedFits : asked.Fits := trivial
  have replyFits : (netd reached.history).ReplyFits asked := by
    show (Netd.getResolverInfo _ _).servers.length < _ ∧
      (Netd.getResolverInfo _ _).domains.length < _
    rw [said]
    exact ⟨fewServers, fewDomains⟩
  have answered := DnsResolverClient.asks_stub commonErrOffset ipcProxyErr ipcObjectStub deadReply
    (fills reached.history) askedFits replyFits rfl
  rw [← said]
  exact answered

/-- A netd that keeps what was set last for each net id. -/
def remembering (history : List (ServiceCall ⊕ NetdCall)) : Netd :=
  { oneAddress with
    getResolverInfo := fun netId =>
      match latest (Sum.elim (ServiceCall.change netId) (NetdCall.change netId)) history with
      | some (some setting) =>
        ⟨setting.servers, setting.domains, setting.baseTimeoutMsec, setting.retryCount, 0⟩
      | _ => ⟨[], [], 0, 0, -1⟩ }

/-- A request of a client comes between the calls of an update. -/
theorem servers_told_example :
    let linkInfo : NetLinkInfo := { dnsList := [{ address := "192.168.1.1" }] }
    let actions : List Action :=
      [.services (.client (.registerNetSupplier 2 "eth0" 1)), .tell,
        .services (.client (.updateNetLinkInfo 1003 (some linkInfo))),
        .client (some .stub) (.flushNetworkCache 7), .tell, .tell]
    let reached := run (step 0 (fun _ _ => ⟨0, []⟩) remembering) (.start (fun _ => 1) []) actions
    ∃ netId,
      (DnsResolverClient.asks 0 5 (fun _ _ => ⟨0, []⟩) 6 (remembering reached.history) (some .stub)
        (.getResolverInfo netId [] [] 0 0)).Returns Dereference.NotNull
          (.info ⟨0, ["192.168.1.1"], [""], 0, 1⟩) := by
  intro linkInfo actions reached
  have fills : ∀ history, (remembering history).FillsAddresses := fun _ => oneAddress_fills
  have recalls : Recalls remembering fun setting =>
      ⟨setting.servers, setting.domains, setting.baseTimeoutMsec, setting.retryCount, 0⟩ := by
    intro history netId setting set
    unfold remembering
    dsimp only
    rw [set]
  have fits : ∀ action ∈ actions, action.Fits := by
    intro action member
    simp only [actions, List.mem_cons, List.not_mem_nil, or_false] at member
    rcases member with rfl | rfl | rfl | rfl | rfl | rfl <;> trivial
  obtain ⟨entry, kept, same⟩ := Option.map_eq_some_iff.mp
    (show (reached.services.connection.directory.entry 1003).map SupplierEntry.netLinkInfo =
      some linkInfo by decide)
  have reported : entry.netLinkInfo ≠ {} := by
    rw [same]
    decide
  obtain ⟨netId, own, answered⟩ := servers_told 5 6 fills recalls (fun _ => 1) [] fits (by decide)
    (by decide) 1003 entry kept reported
  obtain rfl : 0 = netId := Option.some.inj (Eq.trans (by decide) own)
  have unchanged : ∀ asked, .client (some .stub) asked ∈ actions →
      asked.call.change (asUInt16 0) = none := by
    intro asked member
    obtain rfl : asked = .flushNetworkCache 7 := by simpa [actions] using member
    decide
  rw [same] at answered
  exact ⟨_, answered unchanged (by decide) (by decide) [] [] 0 0⟩

end System

end ResolverSystem

end NetManager
