/-
This file models the stub of the policy service. Its member functions differ in the arguments they
read and in the answer they write; a message they cannot read is refused, and what they read is one
call of the service.

So whatever messages arrive, the service runs through the calls that are heard. From an empty store
and with a `long` of 64 bits none of them throws, and the service keeps the policy map of the
requests among them: there is no message that breaks it.
-/

import NetManager.Ipc.EthernetService
import NetManager.Ipc.Message
import NetManager.Policy.NarrowLong

namespace NetManager

open Library Parcel Message

/-- The values of `NetPolicyResultCode`. -/
def NetPolicyResultCode.code : NetPolicyResultCode → Int32
  | .none => 0
  | .internalError => -1
  | .invalidUid => -10001
  | .invalidPolicy => -10002

/-- `static_cast<NetUidPolicy>` of a `uint32_t`. -/
def NetUidPolicy.ofUInt32 (value : UInt32) : NetUidPolicy := ⟨value.toInt32⟩

namespace NetPolicyServiceStub

open NetPolicyService (Call)

/-- The name of the interface. -/
def descriptor : String := "OHOS.NetManagerStandard.INetPolicyService"

def cmdNsmSetUidPolicy : UInt32 := 1
def cmdNsmGetUidPolicy : UInt32 := 2
def cmdNsmGetUids : UInt32 := 3
def cmdNsmIsNetAccessMetered : UInt32 := 4
def cmdNsmIsNetAccessIfacename : UInt32 := 5

/-! ### Member functions -/

/-- What the stub returns, and what it has written to the reply. -/
structure Answer where
  code : Int
  reply : List MessageCell

/-- What `NetPolicyServiceStub::OnSetUidPolicy` reads. -/
def onSetUidPolicy : MessageM Call := do
  let uid ← among readUint32
  let netPolicy ← among readUint32
  return .setUidPolicy ⟨uid, NetUidPolicy.ofUInt32 netPolicy⟩

/-- What `NetPolicyServiceStub::OnGetUidPolicy` reads. -/
def onGetUidPolicy : MessageM Call := do
  let uid ← among readUint32
  return .getUidPolicy uid

/-- What `NetPolicyServiceStub::OnGetUids` reads. -/
def onGetUids : MessageM Call := do
  let policy ← among readUint32
  return .getUids (NetUidPolicy.ofUInt32 policy)

/-- What `NetPolicyServiceStub::OnIsUidNetAccessMetered` reads. -/
def onIsUidNetAccessMetered : MessageM Call := do
  let uid ← among readUint32
  let metered ← among readBool
  return .isUidNetAccess uid metered

/-- What `NetPolicyServiceStub::OnIsUidNetAccessIfaceName` reads. -/
def onIsUidNetAccessIfaceName : MessageM Call := do
  let uid ← among readUint32
  let ifaceName ← among readString
  return .isUidNetAccessIface uid ifaceName

/-- `memberFuncMap_` of `NetPolicyServiceStub`. -/
def memberFuncMap (code : UInt32) : Option (MessageM Call) :=
  if code = cmdNsmSetUidPolicy then some onSetUidPolicy
  else if code = cmdNsmGetUidPolicy then some onGetUidPolicy
  else if code = cmdNsmGetUids then some onGetUids
  else if code = cmdNsmIsNetAccessMetered then some onIsUidNetAccessMetered
  else if code = cmdNsmIsNetAccessIfacename then some onIsUidNetAccessIfaceName
  else none

/-- What a member function writes to the reply, and the service after the call. -/
def answer (platform : Platform) (service : NetPolicyService) :
    Call → Except StolError (MessageM Unit × NetPolicyService)
  | .setUidPolicy request => do
    let answered ← service.setUidPolicy platform request.uid request.policy
    return (plain (writeInt32 answered.1.code), answered.2)
  | .getUidPolicy uid => do
    let policy ← service.getUidPolicy platform uid
    return (plain (writeInt32 policy.value), service)
  | .getUids policy => do
    let uids ← service.getUids platform policy
    return (writeUint32Vector uids, service)
  | .isUidNetAccess uid metered => do
    let ret ← service.isUidNetAccess platform uid metered
    return (plain (writeBool ret), service)
  | .isUidNetAccessIface uid ifaceName => do
    let ret ← service.isUidNetAccessIface platform uid ifaceName
    return (plain (writeBool ret), service)

section Stub

/- A code of the base system, and `IPCObjectStub::OnRemoteRequest`. -/
variable (platform : Platform) (errFlattenObject : Int)
  (ipcObjectStub : UInt32 → List MessageCell → Answer)

/-- Write an answer to the reply. -/
def replied (writes : MessageM Unit) : Answer :=
  match writes.run [] with
  | none => ⟨errFlattenObject, []⟩
  | some (_, reply) => ⟨EthernetService.errNone, reply⟩

/-- What the member functions do: read the arguments, call the service, and write its answer. -/
def handle (requestFunc : MessageM Call) (service : NetPolicyService) (data : List MessageCell) :
    Except StolError (Answer × NetPolicyService) :=
  match requestFunc.run data with
  | none => .ok (⟨errFlattenObject, []⟩, service)
  | some (call, _) => do
    let answered ← answer platform service call
    return (replied errFlattenObject answered.1, answered.2)

/-- `NetPolicyServiceStub::OnRemoteRequest`. -/
def onRemoteRequest (service : NetPolicyService) (code : UInt32) (data : List MessageCell) :
    Except StolError (Answer × NetPolicyService) :=
  let (remoteDescripter, rest) := interfaceToken data
  if descriptor ≠ remoteDescripter then .ok (⟨errFlattenObject, []⟩, service)
  else
    match memberFuncMap code with
    | some requestFunc => handle platform errFlattenObject requestFunc service rest
    | none => .ok (ipcObjectStub code rest, service)

/-! ### What is heard -/

/-- The call that a message with a code and data is heard as. -/
def heard (message : UInt32 × List MessageCell) : Option Call :=
  let (remoteDescripter, rest) := interfaceToken message.2
  if descriptor ≠ remoteDescripter then none
  else (memberFuncMap message.1).bind fun requestFunc => (requestFunc.run rest).map Prod.fst

/-- A function of what is made of a result that may have been thrown. -/
theorem map_bind_pure {Result Value Next : Type} (asked : Except StolError Result)
    (make : Result → Value) (next : Value → Next) :
    (asked >>= fun result => pure (make result)).map next =
      asked >>= fun result => pure (next (make result)) := by
  cases asked with
  | error thrown => rfl
  | ok result => rfl

/-- An answered call leaves the service that the call leaves. -/
theorem answer_snd (service : NetPolicyService) (call : Call) :
    (answer platform service call).map Prod.snd = service.call platform call := by
  cases call with
  | setUidPolicy request => exact map_bind_pure _ _ _
  | getUids policy => exact map_bind_pure _ _ _
  | getUidPolicy uid => exact map_bind_pure _ _ _
  | isUidNetAccess uid metered => exact map_bind_pure _ _ _
  | isUidNetAccessIface uid ifaceName => exact map_bind_pure _ _ _

/-- A message that is heard as a call is answered as that call. -/
theorem onRemoteRequest_heard (service : NetPolicyService) {code : UInt32}
    {data : List MessageCell} {call : Call} (hears : heard (code, data) = some call) :
    onRemoteRequest platform errFlattenObject ipcObjectStub service code data =
      (answer platform service call).map fun answered =>
        (replied errFlattenObject answered.1, answered.2) := by
  unfold heard at hears
  unfold onRemoteRequest
  dsimp only at hears ⊢
  split at hears
  · cases hears
  · rename_i named
    rw [if_neg named]
    obtain ⟨requestFunc, listed, reads⟩ := Option.bind_eq_some_iff.mp hears
    obtain ⟨⟨found, rest⟩, run, rfl⟩ := Option.map_eq_some_iff.mp reads
    rw [listed]
    dsimp only
    unfold handle
    rw [run]
    dsimp only
    cases answer platform service found <;> rfl

/-- A message that is not heard leaves the service as it is. -/
theorem onRemoteRequest_unheard (service : NetPolicyService) {code : UInt32}
    {data : List MessageCell} (hears : heard (code, data) = none) :
    ∃ refused, onRemoteRequest platform errFlattenObject ipcObjectStub service code data =
      .ok (refused, service) := by
  unfold heard at hears
  unfold onRemoteRequest
  dsimp only at hears ⊢
  split at hears
  · rename_i unnamed
    rw [if_pos unnamed]
    exact ⟨_, rfl⟩
  · rename_i named
    rw [if_neg named]
    cases listed : memberFuncMap code with
    | none => exact ⟨_, rfl⟩
    | some requestFunc =>
      rw [listed, Option.bind_some] at hears
      dsimp only
      unfold handle
      rw [Option.map_eq_none_iff.mp hears]
      exact ⟨_, rfl⟩

/-- The service after a message. -/
def receive (service : NetPolicyService) (message : UInt32 × List MessageCell) :
    Except StolError NetPolicyService :=
  (onRemoteRequest platform errFlattenObject ipcObjectStub service message.1 message.2).map Prod.snd

/-- Whatever messages arrive, the service goes through the calls that are heard, up to an
exception of one of them. -/
theorem receive_run (service : NetPolicyService) (messages : List (UInt32 × List MessageCell)) :
    messages.foldlM (receive platform errFlattenObject ipcObjectStub) service =
      service.callAll platform (messages.filterMap heard) := by
  refine foldlM_filterMap heard (fun service message => ?_) messages service
  unfold receive
  cases hears : heard message with
  | none =>
    obtain ⟨refused, same⟩ :=
      onRemoteRequest_unheard platform errFlattenObject ipcObjectStub service hears
    rw [same]
    rfl
  | some call =>
    rw [onRemoteRequest_heard platform errFlattenObject ipcObjectStub service hears,
      Option.elim_some, ← answer_snd]
    cases answer platform service call <;> rfl

end Stub

/-! ### What the messages look like -/

/-- The code of the message for a call. -/
def requestCode : Call → UInt32
  | .setUidPolicy _ => cmdNsmSetUidPolicy
  | .getUidPolicy _ => cmdNsmGetUidPolicy
  | .getUids _ => cmdNsmGetUids
  | .isUidNetAccess _ _ => cmdNsmIsNetAccessMetered
  | .isUidNetAccessIface _ _ => cmdNsmIsNetAccessIfacename

/-- The cells that the arguments of a call are read from. -/
def argumentCells : Call → List MessageCell
  | .setUidPolicy request => [.inl (.uint32 request.uid), .inl (.uint32 request.policy.toUInt32)]
  | .getUidPolicy uid => [.inl (.uint32 uid)]
  | .getUids policy => [.inl (.uint32 policy.toUInt32)]
  | .isUidNetAccess uid metered => [.inl (.uint32 uid), .inl (.bool metered)]
  | .isUidNetAccessIface uid ifaceName => [.inl (.uint32 uid), .inl (.string ifaceName)]

/-- A user is read from the cell of a number. -/
theorem exact_uid : Exact (among readUint32 : MessageM UInt32)
    (fun value => [.inl (.uint32 value)]) fun _ => True := exact_readUint32.among

theorem exact_onSetUidPolicy : Exact onSetUidPolicy argumentCells fun call =>
    requestCode call = cmdNsmSetUidPolicy := by
  have reads : Exact onSetUidPolicy argumentCells fun call =>
      ∃ uid netPolicy, call = .setUidPolicy ⟨uid, NetUidPolicy.ofUInt32 netPolicy⟩ :=
    exact_uid.madeOfTwo exact_uid _ fun _ _ => rfl
  refine reads.congr (fun call => ⟨?_, fun same => ?_⟩) fun _ _ => rfl
  · rintro ⟨uid, netPolicy, rfl⟩
    rfl
  · cases call with
    | setUidPolicy request => exact ⟨request.uid, request.policy.toUInt32, rfl⟩
    | _ => exact absurd same (ne_of_beq_false rfl)

theorem exact_onGetUidPolicy : Exact onGetUidPolicy argumentCells fun call =>
    requestCode call = cmdNsmGetUidPolicy := by
  have reads : Exact onGetUidPolicy argumentCells fun call => ∃ uid, call = .getUidPolicy uid :=
    exact_uid.made _ fun _ => rfl
  refine reads.congr (fun call => ⟨?_, fun same => ?_⟩) fun _ _ => rfl
  · rintro ⟨uid, rfl⟩
    rfl
  · cases call with
    | getUidPolicy uid => exact ⟨uid, rfl⟩
    | _ => exact absurd same (ne_of_beq_false rfl)

theorem exact_onGetUids : Exact onGetUids argumentCells fun call =>
    requestCode call = cmdNsmGetUids := by
  have reads : Exact onGetUids argumentCells fun call =>
      ∃ policy, call = .getUids (NetUidPolicy.ofUInt32 policy) :=
    exact_uid.made _ fun _ => rfl
  refine reads.congr (fun call => ⟨?_, fun same => ?_⟩) fun _ _ => rfl
  · rintro ⟨policy, rfl⟩
    rfl
  · cases call with
    | getUids policy => exact ⟨policy.toUInt32, rfl⟩
    | _ => exact absurd same (ne_of_beq_false rfl)

theorem exact_onIsUidNetAccessMetered : Exact onIsUidNetAccessMetered argumentCells fun call =>
    requestCode call = cmdNsmIsNetAccessMetered := by
  have reads : Exact onIsUidNetAccessMetered argumentCells fun call =>
      ∃ uid metered, call = .isUidNetAccess uid metered :=
    exact_uid.madeOfTwo exact_readBool.among _ fun _ _ => rfl
  refine reads.congr (fun call => ⟨?_, fun same => ?_⟩) fun _ _ => rfl
  · rintro ⟨uid, metered, rfl⟩
    rfl
  · cases call with
    | isUidNetAccess uid metered => exact ⟨uid, metered, rfl⟩
    | _ => exact absurd same (ne_of_beq_false rfl)

theorem exact_onIsUidNetAccessIfaceName : Exact onIsUidNetAccessIfaceName argumentCells fun call =>
    requestCode call = cmdNsmIsNetAccessIfacename := by
  have reads : Exact onIsUidNetAccessIfaceName argumentCells fun call =>
      ∃ uid ifaceName, call = .isUidNetAccessIface uid ifaceName :=
    exact_uid.madeOfTwo exact_readString.among _ fun _ _ => rfl
  refine reads.congr (fun call => ⟨?_, fun same => ?_⟩) fun _ _ => rfl
  · rintro ⟨uid, ifaceName, rfl⟩
    rfl
  · cases call with
    | isUidNetAccessIface uid ifaceName => exact ⟨uid, ifaceName, rfl⟩
    | _ => exact absurd same (ne_of_beq_false rfl)

/-- A member function reads the calls of its code, from their cells. -/
theorem exact_memberFuncMap {code : UInt32} {requestFunc : MessageM Call}
    (listed : memberFuncMap code = some requestFunc) :
    Exact requestFunc argumentCells fun call => requestCode call = code := by
  unfold memberFuncMap at listed
  split_ifs at listed with setUidPolicy getUidPolicy getUids metered ifaceName
  · rw [setUidPolicy, ← Option.some.inj listed]
    exact exact_onSetUidPolicy
  · rw [getUidPolicy, ← Option.some.inj listed]
    exact exact_onGetUidPolicy
  · rw [getUids, ← Option.some.inj listed]
    exact exact_onGetUids
  · rw [metered, ← Option.some.inj listed]
    exact exact_onIsUidNetAccessMetered
  · rw [ifaceName, ← Option.some.inj listed]
    exact exact_onIsUidNetAccessIfaceName

/-- Every call has a member function. -/
theorem memberFuncMap_requestCode (call : Call) :
    ∃ requestFunc, memberFuncMap (requestCode call) = some requestFunc := by
  cases call with
  | setUidPolicy request => exact ⟨onSetUidPolicy, rfl⟩
  | getUidPolicy uid => exact ⟨onGetUidPolicy, rfl⟩
  | getUids policy => exact ⟨onGetUids, rfl⟩
  | isUidNetAccess uid metered => exact ⟨onIsUidNetAccessMetered, rfl⟩
  | isUidNetAccessIface uid ifaceName => exact ⟨onIsUidNetAccessIfaceName, rfl⟩

/-- A message is heard as a call exactly when it has the code of the call, names the interface, and
goes on with the cells of the call. -/
theorem heard_eq_some (code : UInt32) (data : List MessageCell) (call : Call) :
    heard (code, data) = some call ↔ code = requestCode call ∧
      ∃ rest, data = .inl (.interfaceToken descriptor) :: argumentCells call ++ rest := by
  constructor
  · intro hears
    unfold heard at hears
    dsimp only at hears
    split at hears
    · cases hears
    · rename_i named
      have nonempty : descriptor ≠ "" := by decide
      have token := interfaceToken_eq nonempty
        (Prod.ext (not_not.mp named).symm rfl : interfaceToken data = (descriptor, _))
      obtain ⟨requestFunc, listed, reads⟩ := Option.bind_eq_some_iff.mp hears
      obtain ⟨⟨found, rest⟩, run, rfl⟩ := Option.map_eq_some_iff.mp reads
      obtain ⟨same, cells⟩ := (exact_memberFuncMap listed _ _ _).mp run
      exact ⟨same.symm, rest, token.trans (congrArg (_ :: ·) cells)⟩
  · rintro ⟨rfl, rest, rfl⟩
    obtain ⟨requestFunc, listed⟩ := memberFuncMap_requestCode call
    have read := (exact_memberFuncMap listed).reads_cells rfl rest
    unfold heard
    rw [List.cons_append, interfaceToken_cons]
    dsimp only
    rw [if_neg (not_not_intro rfl), listed, Option.bind_some, read]
    rfl

/-! ### Every message -/

/-- The request that a call is, when it is one. -/
def request? : Call → Option NetPolicyService.PolicyRequest
  | .setUidPolicy request => some request
  | _ => none

/-- With a `long` of 64 bits, no calls from an empty store throw, and the entries are those of the
table of the requests among them. -/
theorem callAll_lp64 (streamWriter : JsonValue → String) (hosVersion : String) (files : FileSystem)
    (calls : List Call) : ∃ last,
      (NetPolicyService.start hosVersion files).callAll (lp64 streamWriter) calls = .ok last ∧
        last.netPolicyFile.Represents
          (run NetPolicyService.tableStep ∅ (calls.filterMap request?)) := by
  have empty : (NetPolicyService.start hosVersion files).netPolicyFile.Represents ∅ := rfl
  have nothing : NetPolicyService.Fitting (lp64 streamWriter) ∅ :=
    ⟨NetPolicyFile.fits_lp64 streamWriter ∅, fun uid policy read => by cases read⟩
  have power : 2 ^ 32 < 2 ^ (64 - 1) := by decide
  have fits : ∀ next ∈ calls, NetPolicyService.StoresFitting (lp64 streamWriter) next :=
    fun next _ request _ _ _ => lt_trans request.uid.toNat_lt power
  obtain ⟨last, returned, _⟩ :=
    NetPolicyService.callAll_of_fitting (show 32 ≤ 64 by decide) nothing empty fits
  have represents := NetPolicyService.represents_of_callAll empty returned
  rw [run_filterMap NetPolicyService.tableStep request? NetPolicyService.tableCall
    (fun call _ table => by cases call <;> rfl)] at represents
  exact ⟨last, returned, represents⟩

/-- Whatever messages arrive at a policy service with an empty store, in any number and with any
contents, none of them throws, and the service answers as the map says that the requests among
the messages make. -/
theorem messages_refine (streamWriter : JsonValue → String) (hosVersion : String)
    (files : FileSystem) (errFlattenObject : Int)
    (ipcObjectStub : UInt32 → List MessageCell → Answer)
    (messages : List (UInt32 × List MessageCell)) :
    ∃ last, messages.foldlM (receive (lp64 streamWriter) errFlattenObject ipcObjectStub)
        (NetPolicyService.start hosVersion files) = .ok last ∧
      last.Refines (lp64 streamWriter) (run PolicyMap.step PolicyMap.empty
        (messages.filterMap fun message => (heard message).bind request?)) := by
  obtain ⟨last, returned, represents⟩ :=
    callAll_lp64 streamWriter hosVersion files (messages.filterMap heard)
  rw [List.filterMap_filterMap] at represents
  refine ⟨last, (receive_run _ _ _ _ _).trans returned, ?_⟩
  have map := run_reading NetPolicyService.tableStep Table.read PolicyMap.step
    NetPolicyService.read_tableStep ∅ (messages.filterMap fun message =>
      (heard message).bind request?)
  have refines := NetPolicyService.refines_of_represents streamWriter represents
  rw [map] at refines
  exact refines

end NetPolicyServiceStub

end NetManager
