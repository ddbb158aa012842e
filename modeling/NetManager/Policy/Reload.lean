/-
This file relates what the policy service writes to what it reads. A policy file is empty or
holds the saved entries of some state; loading it appends exactly those entries, provided
that jsoncpp reads back what it writes.

So after a restart the service has every policy it had, except the temporary ones. A user
whose policy was replaced by a temporary one has none: the replacement was made in place,
and the file is written from the entries in memory.
-/

import NetManager.Policy.InitPolicy
import NetManager.Policy.PolicyMap

namespace NetManager

open Library

/-! ### What the service relies on in jsoncpp -/

/-- The reader gives back the values the policy file is written from, and no text is empty: an
empty one is not JSON. -/
structure ReadsBack (streamWriter : JsonValue → String) (charReader : String → Option JsonValue) :
    Prop where
  written : ∀ netPolicy, charReader (streamWriter (NetPolicyFile.rootValue netPolicy)) =
    some (NetPolicyFile.rootValue netPolicy)
  empty : charReader "" = none

theorem ReadsBack.nonempty {streamWriter : JsonValue → String}
    {charReader : String → Option JsonValue} (jsoncpp : ReadsBack streamWriter charReader)
    (netPolicy : NetPolicy) : streamWriter (NetPolicyFile.rootValue netPolicy) ≠ "" := by
  intro same
  have read := jsoncpp.written netPolicy
  rw [same, jsoncpp.empty] at read
  exact absurd read (by simp)

namespace NetPolicyFile

/-! ### Reading what was written -/

theorem readEntry_entryValue (uidPolicy : UidPolicy) :
    readEntry (entryValue uidPolicy) = .ok uidPolicy := rfl

theorem readEntries_rootValue (netPolicy : NetPolicy) :
    readEntries (rootValue netPolicy) = .ok (savedEntries netPolicy.uidPolicys) := by
  unfold readEntries rootValue
  dsimp only
  by_cases nothing : savedEntries netPolicy.uidPolicys = []
  · rw [if_pos nothing, nothing]
    rfl
  · rw [if_neg nothing]
    show ((savedEntries netPolicy.uidPolicys).map entryValue).mapM readEntry = _
    have read : (savedEntries netPolicy.uidPolicys).mapM (readEntry ∘ entryValue) =
        .ok ((savedEntries netPolicy.uidPolicys).map id) :=
      mapM_eq_ok fun uidPolicy _ => readEntry_entryValue uidPolicy
    rw [List.mapM_map, read, List.map_id]

/-- The files that hold these entries: a file that is missing or empty holds none. -/
inductive Stores (platform : Platform) (files : FileSystem) : List UidPolicy → Prop
  | empty (isEmpty : files.contents policyFileName = none ∨
      files.contents policyFileName = some "") :
    Stores platform files []
  | written (netPolicy : NetPolicy)
      (text : files.contents policyFileName =
        some (platform.streamWriter (rootValue netPolicy))) :
    Stores platform files (savedEntries netPolicy.uidPolicys)

variable {platform : Platform} {charReader : String → Option JsonValue}

theorem json2Obj_written (jsoncpp : ReadsBack platform.streamWriter charReader)
    (stored netPolicy : NetPolicy) :
    ∃ version, json2Obj charReader (platform.streamWriter (rootValue stored)) netPolicy =
      .ok (true, ⟨netPolicy.uidPolicys ++ savedEntries stored.uidPolicys, version⟩) := by
  refine ⟨if stored.hosVersion = "" then hosVersion else stored.hosVersion, ?_⟩
  unfold json2Obj
  rw [if_neg (jsoncpp.nonempty stored), jsoncpp.written]
  dsimp only
  rw [readEntries_rootValue]
  rfl

/-! ### Loading the file -/

/-- What an attempt to write a file does to it. -/
theorem write_spec (files : FileSystem) (fileName text : String) :
    (files.write fileName text).1 = files.opens files.opened ∧
      (files.write fileName text).2.opens = files.opens ∧
      (files.write fileName text).2.contents fileName =
        if files.opens files.opened then some text else files.contents fileName := by
  unfold FileSystem.write
  cases files.opens files.opened with
  | true => exact ⟨rfl, rfl, if_pos rfl⟩
  | false => exact ⟨rfl, rfl, rfl⟩

/-- The file after an attempt to open it for reading. -/
def attempted (file : NetPolicyFile) : NetPolicyFile :=
  { file with files := { file.files with opened := file.files.opened + 1 } }

theorem Stores.attempted {file : NetPolicyFile} {entries : List UidPolicy}
    (stores : Stores platform file.files entries) :
    Stores platform file.attempted.files entries := by
  cases stores with
  | empty isEmpty => exact .empty isEmpty
  | written netPolicy text => exact .written netPolicy text

/-- A missing file is made. -/
theorem initPolicy_missing {file : NetPolicyFile}
    (missing : file.files.contents policyFileName = none) :
    file.initPolicy charReader =
      .ok (file.files.opens file.files.opened,
        { file with files := (file.files.write policyFileName "").2 }) := by
  have absent : file.fileExists policyFileName = false := by
    rw [fileExists, missing]
    rfl
  have read : file.readFile policyFileName = (none, file) := by
    rw [readFile, absent]
    exact if_pos rfl
  have created : file.createFile policyFileName =
      (file.files.opens file.files.opened,
        { file with files := (file.files.write policyFileName "").2 }) := by
    rw [createFile, absent, if_neg (by decide), ← (write_spec file.files policyFileName "").1]
  rw [initPolicy, read]
  exact congrArg Except.ok created

/-- A file that is there is read, and parsed unless it is empty. -/
theorem initPolicy_present {file : NetPolicyFile} {content : String}
    (present : file.files.contents policyFileName = some content) :
    file.initPolicy charReader =
      if file.files.opens file.files.opened then
        if content = "" then .ok (true, file.attempted)
        else do
          let parsed ← json2Obj charReader content file.netPolicy
          return (parsed.1, { file.attempted with netPolicy := parsed.2 })
      else .ok (false, file.attempted) := by
  have found : file.fileExists policyFileName = true := by
    rw [fileExists, present]
    rfl
  have read : file.readFile policyFileName =
      (if file.files.opens file.files.opened then some content else none, file.attempted) := by
    rw [readFile, found, if_neg (by decide), FileSystem.read, present]
    cases file.files.opens file.files.opened with
    | true => rfl
    | false => rfl
  have refused : file.attempted.createFile policyFileName = (false, file.attempted) := by
    rw [createFile, show file.attempted.fileExists policyFileName = true from found]
    exact if_pos rfl
  rw [initPolicy, read]
  cases file.files.opens file.files.opened with
  | true => rfl
  | false => exact congrArg Except.ok refused

/-- Loading the file appends its entries, unless the attempt to open it fails. -/
theorem initPolicy_spec (jsoncpp : ReadsBack platform.streamWriter charReader)
    {file : NetPolicyFile} {entries : List UidPolicy}
    (stores : Stores platform file.files entries) :
    ∃ loaded, file.initPolicy charReader =
        .ok (file.files.opens file.files.opened, loaded) ∧
      (file.files.opens file.files.opened = true →
        loaded.netPolicy.uidPolicys = file.netPolicy.uidPolicys ++ entries) ∧
      Stores platform loaded.files entries ∧ loaded.files.opens = file.files.opens := by
  have kept := stores.attempted
  cases stores with
  | empty isEmpty =>
    rcases isEmpty with missing | present
    · obtain ⟨_, opens, contents⟩ := write_spec file.files policyFileName ""
      refine ⟨_, initPolicy_missing missing, fun _ => (List.append_nil _).symm, .empty ?_, opens⟩
      rw [contents, missing]
      cases file.files.opens file.files.opened with
      | true => exact Or.inr rfl
      | false => exact Or.inl rfl
    · refine ⟨file.attempted, ?_, fun _ => (List.append_nil _).symm, kept, rfl⟩
      rw [initPolicy_present present, if_pos rfl]
      cases file.files.opens file.files.opened with
      | true => rfl
      | false => rfl
  | written stored text =>
    obtain ⟨version, parsed⟩ := json2Obj_written jsoncpp stored file.netPolicy
    rw [initPolicy_present text, if_neg (jsoncpp.nonempty stored), parsed]
    cases file.files.opens file.files.opened with
    | true => exact ⟨_, rfl, fun _ => rfl, kept, rfl⟩
    | false => exact ⟨_, rfl, fun opens => absurd opens (by decide), kept, rfl⟩

/-! ### Writing the file -/

theorem writeFileOp_files (file : NetPolicyFile) (netUidPolicyOpType : NetUidPolicyOpType)
    (uid : UInt32) (policy : NetUidPolicy) :
    (file.writeFileOp platform netUidPolicyOpType uid policy).2.files =
      (file.files.write policyFileName (platform.streamWriter (rootValue
        { file.netPolicy with
          uidPolicys := changeEntries netUidPolicyOpType (uidText uid) (policyText policy)
            file.netPolicy.uidPolicys }))).2 := by
  unfold writeFileOp writeFile
  rw [if_neg (by decide)]
  rfl

/-- The file holds the saved entries after a write, unless the attempt to open it fails. -/
theorem Stores.writeFileOp {file : NetPolicyFile} {entries : List UidPolicy}
    (stores : Stores platform file.files entries) (netUidPolicyOpType : NetUidPolicyOpType)
    (uid : UInt32) (policy : NetUidPolicy) :
    Stores platform (file.writeFileOp platform netUidPolicyOpType uid policy).2.files
      (if file.files.opens file.files.opened then
        savedEntries (file.writeFileOp platform netUidPolicyOpType uid
          policy).2.netPolicy.uidPolicys
      else entries) := by
  have contents := (write_spec file.files policyFileName (platform.streamWriter (rootValue
    { file.netPolicy with
      uidPolicys := changeEntries netUidPolicyOpType (uidText uid) (policyText policy)
        file.netPolicy.uidPolicys }))).2.2
  rw [← writeFileOp_files] at contents
  rw [uidPolicys_writeFileOp]
  cases opens : file.files.opens file.files.opened with
  | true =>
    rw [opens, if_pos rfl] at contents
    exact .written _ contents
  | false =>
    rw [opens, if_neg Bool.false_ne_true] at contents
    rw [if_neg Bool.false_ne_true]
    cases stores with
    | empty isEmpty => exact .empty (by rw [contents]; exact isEmpty)
    | written stored text => exact .written stored (contents.trans text)

/-- A write is one attempt to open a file. -/
theorem opened_writeFileOp (file : NetPolicyFile) (netUidPolicyOpType : NetUidPolicyOpType)
    (uid : UInt32) (policy : NetUidPolicy) :
    (file.writeFileOp platform netUidPolicyOpType uid policy).2.files.opened =
      file.files.opened + 1 := by
  rw [writeFileOp_files]
  unfold FileSystem.write
  cases file.files.opens file.files.opened with
  | true => rfl
  | false => rfl

theorem opens_writeFileOp (file : NetPolicyFile) (netUidPolicyOpType : NetUidPolicyOpType)
    (uid : UInt32) (policy : NetUidPolicy) :
    (file.writeFileOp platform netUidPolicyOpType uid policy).2.files.opens =
      file.files.opens := by
  rw [writeFileOp_files, (write_spec _ _ _).2.1]

/-- The search for a user finds the user, when it returns. -/
theorem isUidPolicyExist_of_ok {file : NetPolicyFile} {table : Table UInt32 NetUidPolicy}
    (represents : file.Represents table) {uid : UInt32} {exist : Bool}
    (returned : file.isUidPolicyExist platform uid = .ok exist) :
    exist = decide (uid ∈ table) := by
  unfold isUidPolicyExist at returned
  rw [represents.entries] at returned
  rw [← policyCoding.any_encode table uid]
  refine anyM_of_ok (fun entry listed result looked => ?_) returned
  obtain ⟨pair, _, rfl⟩ := List.mem_map.mp listed
  obtain ⟨number, read, same⟩ := bind_eq_ok looked
  rw [stol_of_ok read] at same
  rw [← Except.ok.inj same, uint32_ofInt, Bool.eq_iff_iff, beq_iff_eq, decide_eq_true_iff,
    policyCoding.name_eq_iff, eq_comm]

end NetPolicyFile

/-! ### Requests on any platform -/

namespace NetPolicyService

variable {platform : Platform} {charReader : String → Option JsonValue}

/-- The operation a request asks of the file. -/
def requestOp (table : Table UInt32 NetUidPolicy) (request : PolicyRequest) : NetUidPolicyOpType :=
  if request.policy = .none then .delete else NetPolicyFile.storeOp table request.uid

/-- The file after a request. -/
def requested (platform : Platform) (file : NetPolicyFile) (table : Table UInt32 NetUidPolicy)
    (request : PolicyRequest) : NetPolicyFile :=
  if NetPolicyTraffic.isPolicyValid request.policy then
    (file.writeFileOp platform (requestOp table request) request.uid request.policy).2
  else file

/-- An invalid policy is refused before anything is done. -/
theorem applied_of_invalid {this : NetPolicyService} {policy : NetUidPolicy}
    (invalid : NetPolicyTraffic.isPolicyValid policy = false) (op : NetUidPolicyOpType)
    (uid : UInt32) : this.applied platform op uid policy = this := by
  rw [applied, invalid]
  rfl

/-- A valid policy takes one attempt to open a file. -/
theorem opened_applied (this : NetPolicyService) (op : NetUidPolicyOpType) (uid : UInt32)
    (policy : NetUidPolicy) :
    (this.applied platform op uid policy).netPolicyFile.files.opened =
      if NetPolicyTraffic.isPolicyValid policy then this.netPolicyFile.files.opened + 1
      else this.netPolicyFile.files.opened := by
  unfold applied
  split
  · exact NetPolicyFile.opened_writeFileOp _ op uid policy
  · rfl

theorem opens_applied (this : NetPolicyService) (op : NetUidPolicyOpType) (uid : UInt32)
    (policy : NetUidPolicy) :
    (this.applied platform op uid policy).netPolicyFile.files.opens =
      this.netPolicyFile.files.opens := by
  unfold applied
  split
  · exact NetPolicyFile.opens_writeFileOp _ op uid policy
  · rfl

/-- A request that returns found its operation, and has asked the file for it. -/
theorem requestedOp_of_ok {this : NetPolicyService} {uid : UInt32} {policy : NetUidPolicy}
    {answered : NetPolicyResultCode × NetPolicyService}
    (returned : this.setUidPolicy platform uid policy = .ok answered) :
    ∃ op, this.requestedOp platform uid policy = .ok op ∧
      answered = (this.answerOf policy, this.applied platform op uid policy) := by
  rw [setUidPolicy_eq] at returned
  cases asked : this.requestedOp platform uid policy with
  | error thrown =>
    rw [asked] at returned
    cases returned
  | ok op =>
    rw [asked] at returned
    exact ⟨op, rfl, (Except.ok.inj returned).symm⟩

/-- It has looked the user up, unless it takes a policy away. -/
theorem setUidPolicy_inv {this : NetPolicyService} {uid : UInt32} {policy : NetUidPolicy}
    {answered : NetPolicyResultCode × NetPolicyService}
    (returned : this.setUidPolicy platform uid policy = .ok answered) :
    ∃ op, answered = (this.answerOf policy, this.applied platform op uid policy) ∧
      (policy = .none ∧ op = .delete ∨
        policy ≠ .none ∧ ∃ exist, this.netPolicyFile.isUidPolicyExist platform uid = .ok exist ∧
          op = if exist then .update else .add) := by
  obtain ⟨op, asked, answer⟩ := requestedOp_of_ok returned
  refine ⟨op, answer, ?_⟩
  unfold requestedOp at asked
  by_cases removes : policy = .none
  · rw [if_pos removes] at asked
    exact Or.inl ⟨removes, (Except.ok.inj asked).symm⟩
  · rw [if_neg removes] at asked
    obtain ⟨exist, looked, same⟩ := bind_eq_ok asked
    exact Or.inr ⟨removes, exist, looked, (Except.ok.inj same).symm⟩

/-- What a request that returns does to the entries of a table. -/
theorem setUidPolicy_of_ok {this : NetPolicyService} {table : Table UInt32 NetUidPolicy}
    (represents : this.netPolicyFile.Represents table) {request : PolicyRequest}
    {answered : NetPolicyResultCode × NetPolicyService}
    (returned : this.setUidPolicy platform request.uid request.policy = .ok answered) :
    answered = (this.answerOf request.policy,
      ⟨requested platform this.netPolicyFile table request⟩) := by
  obtain ⟨op, answer, cases⟩ := setUidPolicy_inv returned
  have sameOp : op = requestOp table request := by
    unfold requestOp NetPolicyFile.storeOp
    rcases cases with ⟨removes, delete⟩ | ⟨removes, exist, looked, found⟩
    · rw [if_pos removes, delete]
    · have present := NetPolicyFile.isUidPolicyExist_of_ok represents looked
      rw [if_neg removes, found, present]
      by_cases listed : request.uid ∈ table
      · rw [if_pos listed, decide_eq_true listed, if_pos rfl]
      · rw [if_neg listed, decide_eq_false listed, if_neg Bool.false_ne_true]
  rw [answer, sameOp]
  rfl

/-- Only valid policies are accepted. -/
theorem isPolicyValid_of_accepted {this : NetPolicyService} {policy : NetUidPolicy}
    (accepted : this.answerOf policy = .none) : NetPolicyTraffic.isPolicyValid policy = true := by
  unfold answerOf at accepted
  cases valid : NetPolicyTraffic.isPolicyValid policy with
  | true => rfl
  | false =>
    rw [valid, if_pos (by decide)] at accepted
    exact absurd accepted (by decide)

/-- Taking a policy away asks for a valid policy. -/
theorem isPolicyValid_none : NetPolicyTraffic.isPolicyValid .none = true := by decide

theorem represents_requested {file : NetPolicyFile} {table : Table UInt32 NetUidPolicy}
    (represents : file.Represents table) (request : PolicyRequest) :
    (requested platform file table request).Represents (tableStep table request) := by
  unfold requested tableStep requestOp
  by_cases removes : request.policy = .none
  · rw [if_pos removes, if_pos removes, if_pos (by rw [removes]; exact isPolicyValid_none)]
    exact NetPolicyFile.represents_erase platform represents request.uid request.policy
  · rw [if_neg removes, if_neg removes]
    exact represents.changed
      (NetPolicyFile.represents_store platform represents request.uid request.policy)

/-- What every request that returns keeps, in step with a second run, is kept by a run of requests
that returns. -/
theorem setUidPolicies_simulates {Other : Type*} {otherStep : Other → PolicyRequest → Other}
    (Relates : NetPolicyService → Other → Prop)
    (simulates : ∀ (state : NetPolicyService) other (request : PolicyRequest) answered,
      Relates state other →
        state.setUidPolicy platform request.uid request.policy = .ok answered →
          Relates answered.2 (otherStep other request))
    {this last : NetPolicyService} {other : Other} {requests : List PolicyRequest}
    (related : Relates this other) (returned : this.setUidPolicies platform requests = .ok last) :
    Relates last (run otherStep other requests) := by
  refine foldlM_simulates Relates (fun state other request next before stepped => ?_) related
    returned
  obtain ⟨answered, answer, same⟩ := bind_eq_ok stepped
  rw [← Except.ok.inj same]
  exact simulates state other request answered before answer

/-- A run that returns has made its requests of the table, whether or not the file could be
written. -/
theorem represents_of_setUidPolicies (requests : List PolicyRequest) {this last : NetPolicyService}
    {table : Table UInt32 NetUidPolicy} (represents : this.netPolicyFile.Represents table)
    (returned : this.setUidPolicies platform requests = .ok last) :
    last.netPolicyFile.Represents (run tableStep table requests) := by
  refine setUidPolicies_simulates (fun state table => state.netPolicyFile.Represents table)
    (fun state table request answered before answer => ?_) represents returned
  rw [setUidPolicy_of_ok before answer]
  exact represents_requested before request

/-- The entries of a service are those of a table, its file holds the saved ones, and every attempt
to open a file succeeds. -/
structure Synced (platform : Platform) (this : NetPolicyService)
    (table : Table UInt32 NetUidPolicy) : Prop where
  represents : this.netPolicyFile.Represents table
  stores : NetPolicyFile.Stores platform this.netPolicyFile.files
    (NetPolicyFile.savedEntries this.netPolicyFile.netPolicy.uidPolicys)
  opens : ∀ attempt, this.netPolicyFile.files.opens attempt = true

theorem Synced.setUidPolicy {this : NetPolicyService} {table : Table UInt32 NetUidPolicy}
    (synced : Synced platform this table) {request : PolicyRequest}
    {answered : NetPolicyResultCode × NetPolicyService}
    (returned : this.setUidPolicy platform request.uid request.policy = .ok answered) :
    Synced platform answered.2 (tableStep table request) := by
  rw [setUidPolicy_of_ok synced.represents returned]
  refine ⟨represents_requested synced.represents request, ?_, ?_⟩
  · unfold requested
    split
    · have stores := synced.stores.writeFileOp (requestOp table request) request.uid request.policy
      rw [synced.opens, if_pos rfl] at stores
      exact stores
    · exact synced.stores
  · unfold requested
    split
    · rw [NetPolicyFile.opens_writeFileOp]
      exact synced.opens
    · exact synced.opens

theorem Synced.setUidPolicies (requests : List PolicyRequest) {this last : NetPolicyService}
    {table : Table UInt32 NetUidPolicy} (synced : Synced platform this table)
    (returned : this.setUidPolicies platform requests = .ok last) :
    Synced platform last (run tableStep table requests) :=
  setUidPolicies_simulates (Synced platform)
    (fun _ _ _ _ before answer => before.setUidPolicy answer) synced returned

end NetPolicyService

end NetManager
