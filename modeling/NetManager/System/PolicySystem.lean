/-
This file puts the policy service and its clients together over many processes. The service is
published, loads the file of policies, serves and is killed, any number of times; each client keeps
a proxy until it is told that the object of it has died, and its calls go through the message
format. A process is published before it loads the file, so calls reach it in between.

To the clients all of this is one policy map: a request sets a policy or takes one away, a new
process of the service forgets the temporary policies, and until it has loaded the file it knows
none. A call that finds no living service returns what the client has to return then, and leaves the
map as it is. That holds as long as nothing is written to the file before it is loaded.
-/

import NetManager.Ipc.NetPolicyServiceProxy
import NetManager.Ipc.ServiceClient
import NetManager.Policy.LifeCycle

namespace NetManager

open Library Message
open NetPolicyService (Call PolicyRequest)
open NetPolicyServiceStub (Answer request?)
open NetPolicyServiceProxy (unreached)

/-! ### What the system is for -/

/-- What happens to the policies of all users. -/
inductive PolicyAction
  | request (request : PolicyRequest)
  | publish
  | load

/-- The policies of all users, and whether a process has still to load them. -/
structure LivePolicies where
  map : PolicyMap := PolicyMap.empty
  loading : Bool := false

namespace LivePolicies

/-- The policies after it. A new process is left those that are saved. -/
def step (live : LivePolicies) : PolicyAction → LivePolicies
  | .request request => { live with map := live.map.step request }
  | .publish => { map := fun uid => (live.map uid).filter persistent, loading := true }
  | .load => { live with loading := false }

/-- The policies a call is answered from. -/
def inForce (live : LivePolicies) : PolicyMap :=
  if live.loading then PolicyMap.empty else live.map

end LivePolicies

/-! ### Processes -/

/-- The clients, the object of the service while its process runs, whether the process has still to
load the file, and the service. When its process has ended, the last two are as it left them. -/
structure PolicySystem where
  clients : ServiceClients := {}
  running : Option Nat := none
  loading : Bool := false
  service : NetPolicyService

namespace PolicySystem

/-- All clients are in other processes than the service. -/
def isProxyObject (_ _ : Nat) : Bool := true

/-- What can happen: a process starts and publishes the service, it loads the file, it is killed, a
client is told of a death, or it makes a call. -/
inductive Event
  | publish
  | load
  | kill
  | told (client index : Nat)
  | call (client : Nat) (answers : ProxyAnswers) (call : Call)

section Events

/- Codes of the base system, the parser, and `IPCObjectStub::OnRemoteRequest`. -/
variable (platform : Platform) (charReader : String → Option JsonValue)
  (errFlattenObject errDeadObject : Int) (ipcObjectStub : UInt32 → List MessageCell → Answer)

/-- Before any process has started. -/
def idle (files : FileSystem) : PolicySystem where
  service := (NetPolicyAbility.make files).service

/-- The process of the service ends, between two calls. -/
def kill (state : PolicySystem) : PolicySystem :=
  match state.running with
  | none => state
  | some object =>
    { state with
      clients := state.clients.step isProxyObject (.die object)
      running := none }

/-- `NetPolicyService::Init` up to `Publish`, in a process that starts: nothing is in memory. -/
def publish (state : PolicySystem) : PolicySystem :=
  match state.running with
  | some _ => state
  | none =>
    { clients := state.clients.step isProxyObject .publish
      running := some state.clients.objects.made
      loading := true
      service := (NetPolicyAbility.make state.service.netPolicyFile.files).service }

/-- The rest of `Init`: the process loads the file. An exception ends it. -/
def load (state : PolicySystem) : PolicySystem :=
  if state.running ≠ none ∧ state.loading = true then
    match state.service.netPolicyFile.initPolicy charReader with
    | .error _ => state.kill
    | .ok loaded => { state with loading := false, service := ⟨loaded.2⟩ }
  else state

/-- The object a client sends its call to. -/
def proxy (state : PolicySystem) (client : Nat) (answers : ProxyAnswers) : Option Nat :=
  ((state.clients.processes client).getProxy (isProxyObject client) state.clients.objects answers).1

/-- The client finds the service that is running. -/
def Reaches (state : PolicySystem) (client : Nat) (answers : ProxyAnswers) : Prop :=
  state.running ≠ none ∧ state.proxy client answers = state.running

instance (state : PolicySystem) (client : Nat) (answers : ProxyAnswers) :
    Decidable (state.Reaches client answers) :=
  inferInstanceAs (Decidable (_ ∧ _))

/-- A member function of `NetPolicyClient`, and the system after it. Without a proxy it returns what
the proxy returns when the service was not reached; so does the proxy when the service throws,
which ends its process. -/
def call (state : PolicySystem) (client : Nat) (answers : ProxyAnswers) (call : Call) :
    PolicyResult × PolicySystem :=
  let asked := { state with clients := state.clients.step isProxyObject (.getProxy client answers) }
  match state.proxy client answers with
  | none => (unreached call, asked)
  | some object =>
    let remote := if state.running = some object then Remote.stub else .broken errDeadObject
    match NetPolicyServiceProxy.request platform errFlattenObject ipcObjectStub remote
      state.service call with
    | .ok (result, after) => (result, { asked with service := after })
    | .error _ => (unreached call, asked.kill)

/-- One event. -/
def step (state : PolicySystem) : Event → PolicySystem
  | .publish => state.publish
  | .load => state.load charReader
  | .kill => state.kill
  | .told client index =>
    { state with clients := state.clients.step isProxyObject (.told client index) }
  | .call client answers call =>
    (state.call platform errFlattenObject errDeadObject ipcObjectStub client answers call).2

/-- What an event does to the policies of all users. -/
def heard (state : PolicySystem) : Event → Option PolicyAction
  | .publish => if state.running = none then some .publish else none
  | .load => if state.running ≠ none ∧ state.loading = true then some .load else none
  | .call client answers call =>
    if state.Reaches client answers then (request? call).map .request else none
  | .kill | .told _ _ => none

/-- What the events do to the policies of all users, in order. -/
def history (state : PolicySystem) : List Event → List PolicyAction
  | [] => []
  | event :: rest => (state.heard event).toList ++
    history (state.step platform charReader errFlattenObject errDeadObject ipcObjectStub event) rest

/-- A call that makes the service write the file. -/
def writes (call : Call) : Bool :=
  (request? call).any fun request => NetPolicyTraffic.isPolicyValid request.policy

/-- The file is not written before it is loaded: no such call reaches a process that has still to
load it. -/
def LoadsFirst (state : PolicySystem) : Event → Prop
  | .call client answers call =>
    state.loading = true → state.Reaches client answers → writes call = false
  | .publish | .load | .kill | .told _ _ => True

instance (state : PolicySystem) : (event : Event) → Decidable (state.LoadsFirst event)
  | .call _ _ _ => inferInstanceAs (Decidable (_ → _ → _))
  | .publish | .load | .kill | .told _ _ => inferInstanceAs (Decidable True)

end Events

/-! ### One event -/

/-- The system is in step with the policies, as a table has them. The file holds those that are
saved, and while the service runs its entries are those in force; what is still to be loaded is
saved. Every client watches the object it holds, and no object lives but that of the service. -/
structure Serves (platform : Platform) (state : PolicySystem) (table : Table UInt32 NetUidPolicy)
    (live : LivePolicies) : Prop where
  map : table.read = live.map
  loading : state.loading = live.loading
  stores : NetPolicyFile.Stores platform state.service.netPolicyFile.files
    (policyCoding.encode (table.keep persistent))
  opens : ∀ attempt, state.service.netPolicyFile.files.opens attempt = true
  memory : state.running ≠ none →
    state.service.netPolicyFile.Represents (if state.loading = true then ∅ else table)
  saved : state.loading = true → table.keep persistent = table
  clients : state.clients.Sound isProxyObject
  alive : ∀ object, object ∈ state.clients.objects.alive ↔ state.running = some object

variable {streamWriter : JsonValue → String} {charReader : String → Option JsonValue}
  {errFlattenObject errDeadObject : Int} {ipcObjectStub : UInt32 → List MessageCell → Answer}
  {platform : Platform} {state : PolicySystem} {table : Table UInt32 NetUidPolicy}
  {live : LivePolicies}

/-- What the clients hold and are told is of no concern to the service. -/
theorem Serves.heldBy (serves : Serves platform state table live) (event : ServiceClients.Event)
    (sameObjects : (state.clients.step isProxyObject event).objects = state.clients.objects) :
    Serves platform { state with clients := state.clients.step isProxyObject event } table live :=
  { serves with
    clients := serves.clients.step event
    alive := fun object => by rw [sameObjects, serves.alive object] }

/-- When its process ends, the file is left to the next one. -/
theorem Serves.kill (serves : Serves platform state table live) :
    Serves platform state.kill table live := by
  unfold PolicySystem.kill
  cases running : state.running with
  | none => exact serves
  | some object =>
    refine { serves with
      memory := fun runs => absurd rfl runs
      clients := serves.clients.step (.die object)
      alive := fun other => ?_ }
    have lives : object ∈ state.clients.objects.alive := (serves.alive object).mpr running
    unfold ServiceClients.step
    dsimp only
    rw [if_pos lives, Finset.mem_erase, serves.alive, running]
    constructor
    · rintro ⟨different, same⟩
      exact absurd (Option.some.inj same).symm different
    · intro none
      exact absurd none (Option.some_ne_none _).symm

/-- A new process is left the policies that were saved, and knows none of them yet. -/
theorem Serves.publish (serves : Serves platform state table live) (idle : state.running = none) :
    Serves platform state.publish (table.keep persistent) (live.step .publish) := by
  unfold PolicySystem.publish
  rw [idle]
  refine ⟨?_, rfl, ?_, serves.opens, fun _ => rfl, fun _ => table.keep_keep persistent,
    serves.clients.step .publish, fun object => ?_⟩
  · funext uid
    rw [table.read_keep persistent uid, serves.map]
    rfl
  · rw [table.keep_keep persistent]
    exact serves.stores
  · show object ∈ insert _ state.clients.objects.alive ↔ _
    rw [Finset.mem_insert, serves.alive, idle]
    constructor
    · rintro (rfl | none)
      · rfl
      · exact absurd none (Option.some_ne_none _).symm
    · intro same
      exact Or.inl (Option.some.inj same).symm

theorem publish_running (running : state.running ≠ none) : state.publish = state := by
  obtain ⟨object, found⟩ := Option.ne_none_iff_exists'.mp running
  unfold PolicySystem.publish
  rw [found]

/-- It has them when it has loaded the file. -/
theorem Serves.load (jsoncpp : ReadsBack platform.streamWriter charReader)
    (serves : Serves platform state table live) (running : state.running ≠ none)
    (loading : state.loading = true) :
    Serves platform (state.load charReader) table (live.step .load) := by
  obtain ⟨loaded, answer, entries, stores, opens⟩ :=
    NetPolicyFile.initPolicy_spec jsoncpp serves.stores
  have nothing := serves.memory running
  rw [if_pos loading] at nothing
  have read := entries (serves.opens _)
  rw [nothing.entries, serves.saved loading] at read
  unfold PolicySystem.load
  rw [if_pos ⟨running, loading⟩, answer]
  exact
    { map := serves.map
      loading := rfl
      stores := stores
      opens := fun attempt => (congrFun opens attempt).trans (serves.opens attempt)
      memory := fun _ => read
      saved := fun still => absurd still Bool.false_ne_true
      clients := serves.clients
      alive := serves.alive }

/-- With nothing in between, the two are `NetPolicyService::Init` of a new process. -/
theorem load_publish (idle : state.running = none) {started : Bool × NetPolicyAbility}
    (init : (NetPolicyAbility.make state.service.netPolicyFile.files).init charReader true =
      .ok started) :
    (state.publish.load charReader).service = started.2.service := by
  obtain ⟨loaded, answer, same⟩ := bind_eq_ok init
  rw [← Except.ok.inj same]
  unfold PolicySystem.publish
  rw [idle]
  unfold PolicySystem.load
  dsimp only
  rw [if_pos ⟨Option.some_ne_none _, rfl⟩, answer]

/-- A call keeps the service in step with a table. -/
theorem synced_of_call {service after : NetPolicyService}
    (synced : service.Synced platform table) {call : Call}
    (returned : service.call platform call = .ok after) :
    after.Synced platform ((request? call).elim table (NetPolicyService.tableStep table)) := by
  cases call with
  | setUidPolicy request =>
    obtain ⟨answered, answer, same⟩ := bind_eq_ok returned
    rw [← Except.ok.inj same]
    exact synced.setUidPolicy answer
  | getUids policy =>
    rw [NetPolicyService.eq_of_question returned]
    exact synced
  | getUidPolicy uid =>
    rw [NetPolicyService.eq_of_question returned]
    exact synced
  | isUidNetAccess uid metered =>
    rw [NetPolicyService.eq_of_question returned]
    exact synced
  | isUidNetAccessIface uid ifaceName =>
    rw [NetPolicyService.eq_of_question returned]
    exact synced

/-- A call that writes nothing leaves the service as it is. -/
theorem eq_of_call {service after : NetPolicyService} {call : Call} (quiet : writes call = false)
    (returned : service.call platform call = .ok after) : after = service := by
  cases call with
  | setUidPolicy request =>
    obtain ⟨answered, answer, same⟩ := bind_eq_ok returned
    obtain ⟨op, _, effect⟩ := NetPolicyService.requestedOp_of_ok answer
    rw [← Except.ok.inj same, effect]
    exact NetPolicyService.applied_of_invalid quiet op request.uid
  | getUids policy => exact NetPolicyService.eq_of_question returned
  | getUidPolicy uid => exact NetPolicyService.eq_of_question returned
  | isUidNetAccess uid metered => exact NetPolicyService.eq_of_question returned
  | isUidNetAccessIface uid ifaceName => exact NetPolicyService.eq_of_question returned

/-- Nor does it change the policies. -/
theorem step_of_quiet {call : Call} (quiet : writes call = false) {request : PolicyRequest}
    (asked : request? call = some request) (map : PolicyMap) : map.step request = map := by
  have invalid : NetPolicyTraffic.isPolicyValid request.policy = false := by
    unfold writes at quiet
    rw [asked] at quiet
    exact quiet
  unfold PolicyMap.step
  have kept : request.policy ≠ .none := by
    intro removes
    rw [removes, NetPolicyService.isPolicyValid_none] at invalid
    cases invalid
  rw [if_neg kept, invalid]
  exact if_neg Bool.false_ne_true

/-- The service is in step with the table once it has loaded the file. -/
theorem Serves.synced (serves : Serves platform state table live) (running : state.running ≠ none)
    (loaded : ¬state.loading = true) : state.service.Synced platform table := by
  have represents := serves.memory running
  rw [if_neg loaded] at represents
  refine ⟨represents, ?_, serves.opens⟩
  rw [represents.entries, NetPolicyFile.savedEntries_encode]
  exact serves.stores

/-- What a call that finds the service makes of the policies. -/
theorem Serves.called (serves : Serves platform state table live) (running : state.running ≠ none)
    {call : Call} (first : state.loading = true → writes call = false) {after : NetPolicyService}
    (returned : state.service.call platform call = .ok after) :
    ∃ next, Serves platform { state with service := after } next
      ((request? call).elim live fun request => live.step (.request request)) := by
  by_cases loading : state.loading = true
  · have quiet := first loading
    have same : (request? call).elim live (fun request => live.step (.request request)) = live := by
      cases asked : request? call with
      | none => rfl
      | some request =>
        show ({ live with map := live.map.step request } : LivePolicies) = live
        rw [step_of_quiet quiet asked]
    rw [eq_of_call quiet returned, same]
    exact ⟨table, serves⟩
  · have synced := synced_of_call (serves.synced running loading) returned
    have stores := synced.stores
    rw [synced.represents.entries, NetPolicyFile.savedEntries_encode] at stores
    refine ⟨_, ?_, ?_, stores, synced.opens, fun _ => ?_, fun still => absurd still loading,
      serves.clients, serves.alive⟩
    · cases request? call with
      | none => exact serves.map
      | some request =>
        show (NetPolicyService.tableStep table request).read = live.map.step request
        rw [NetPolicyService.read_tableStep, serves.map]
    · cases request? call with
      | none => exact serves.loading
      | some request => exact serves.loading
    · rw [if_neg loading]
      exact synced.represents

/-- A call that reaches the service is answered from the policies in force. -/
theorem Serves.call (serves : Serves (lp64 streamWriter) state table live) {client : Nat}
    {answers : ProxyAnswers} (reaches : state.Reaches client answers) (call : Call) :
    live.inForce.Answers call (state.call (lp64 streamWriter) errFlattenObject errDeadObject
        ipcObjectStub client answers call).1 ∧
      ((state.loading = true → writes call = false) →
        ∃ next, Serves (lp64 streamWriter) (state.call (lp64 streamWriter) errFlattenObject
          errDeadObject ipcObjectStub client answers call).2 next
          ((request? call).elim live fun request => live.step (.request request))) := by
  obtain ⟨object, running⟩ := Option.ne_none_iff_exists'.mp reaches.1
  have inForce : (if state.loading = true then ∅ else table).read = live.inForce := by
    unfold LivePolicies.inForce
    rw [← serves.loading]
    cases state.loading with
    | true => rfl
    | false => exact serves.map
  obtain ⟨result, after, tells, answered⟩ :=
    NetPolicyServiceProxy.told_answers streamWriter (serves.memory reaches.1) call
  rw [inForce] at answered
  have next : state.service.call (lp64 streamWriter) call = .ok after := by
    rw [← NetPolicyServiceProxy.told_snd, tells]
    rfl
  have served := (NetPolicyServiceProxy.request_stub (lp64 streamWriter) errFlattenObject
    ipcObjectStub state.service call).trans tells
  have found : state.proxy client answers = some object := reaches.2.trans running
  unfold PolicySystem.call
  rw [found]
  dsimp only
  rw [if_pos running, served]
  refine ⟨answered, fun first => ?_⟩
  exact (serves.heldBy (.getProxy client answers) rfl).called reaches.1 first next

/-- A call that does not reach it returns what the client has to return then. -/
theorem call_missed (dead : errDeadObject ≠ EthernetService.errNone) {client : Nat}
    {answers : ProxyAnswers} (missed : ¬state.Reaches client answers) (call : Call) :
    state.call platform errFlattenObject errDeadObject ipcObjectStub client answers call =
      (unreached call,
        { state with clients := state.clients.step isProxyObject (.getProxy client answers) }) := by
  unfold PolicySystem.call
  cases found : state.proxy client answers with
  | none => rfl
  | some object =>
    have other : state.running ≠ some object := fun same =>
      missed ⟨fun idle => Option.some_ne_none _ (same.symm.trans idle), found.trans same.symm⟩
    dsimp only
    rw [if_neg other, NetPolicyServiceProxy.request_lost platform errFlattenObject ipcObjectStub
      (show NetPolicyServiceProxy.Lost (.broken errDeadObject) from dead)]

theorem Serves.step (jsoncpp : ReadsBack streamWriter charReader)
    (dead : errDeadObject ≠ EthernetService.errNone)
    (serves : Serves (lp64 streamWriter) state table live) {event : Event}
    (first : state.LoadsFirst event) :
    ∃ next, Serves (lp64 streamWriter) (state.step (lp64 streamWriter) charReader errFlattenObject
      errDeadObject ipcObjectStub event) next ((state.heard event).elim live live.step) := by
  unfold PolicySystem.step heard
  cases event with
  | publish =>
    dsimp only
    by_cases idle : state.running = none
    · rw [if_pos idle]
      exact ⟨_, serves.publish idle⟩
    · rw [if_neg idle, publish_running idle]
      exact ⟨table, serves⟩
  | load =>
    dsimp only
    by_cases starts : state.running ≠ none ∧ state.loading = true
    · rw [if_pos starts]
      exact ⟨table, serves.load jsoncpp starts.1 starts.2⟩
    · rw [if_neg starts]
      unfold PolicySystem.load
      rw [if_neg starts]
      exact ⟨table, serves⟩
  | kill => exact ⟨table, serves.kill⟩
  | told client index => exact ⟨table, serves.heldBy (.told client index) rfl⟩
  | call client answers call =>
    dsimp only
    by_cases reaches : state.Reaches client answers
    · rw [if_pos reaches]
      obtain ⟨next, after⟩ := (@Serves.call _ errFlattenObject errDeadObject ipcObjectStub _ _ _
        serves _ _ reaches call).2 fun loading => first loading reaches
      refine ⟨next, ?_⟩
      cases asked : request? call with
      | none =>
        rw [asked] at after
        exact after
      | some request =>
        rw [asked] at after
        exact after
    · rw [if_neg reaches, call_missed dead reaches]
      exact ⟨table, serves.heldBy (.getProxy client answers) rfl⟩

/-! ### Every run -/

/-- A run in which the file is not written before it is loaded keeps the system in step. -/
theorem Serves.run (jsoncpp : ReadsBack streamWriter charReader)
    (dead : errDeadObject ≠ EthernetService.errNone)
    (serves : Serves (lp64 streamWriter) state table live) {events : List Event}
    (first : Guarded (PolicySystem.step (lp64 streamWriter) charReader errFlattenObject
      errDeadObject ipcObjectStub) LoadsFirst state events) :
    ∃ next, Serves (lp64 streamWriter)
      (Library.run (PolicySystem.step (lp64 streamWriter) charReader errFlattenObject errDeadObject
        ipcObjectStub) state events) next
      (Library.run LivePolicies.step live (state.history (lp64 streamWriter) charReader
        errFlattenObject errDeadObject ipcObjectStub events)) := by
  induction events generalizing state table live with
  | nil => exact ⟨table, serves⟩
  | cons event rest inductionHypothesis =>
    obtain ⟨head, tail⟩ := (guarded_cons _ _ _ _ _).mp first
    obtain ⟨next, after⟩ := serves.step jsoncpp dead head
    have atEnd := inductionHypothesis after tail
    rw [history, run_append]
    cases heard : state.heard event with
    | none =>
      rw [heard] at atEnd
      exact atEnd
    | some action =>
      rw [heard] at atEnd
      exact atEnd

end PolicySystem

end NetManager
