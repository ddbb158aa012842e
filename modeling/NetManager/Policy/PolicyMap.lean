/-
This file says what the policy service is for: it keeps a partial map from users to
policies, in which a request sets a policy, takes it away or, when the policy is invalid,
does nothing.

The service keeps the map as a list of decimal texts. The link is a table of users and
policies: the entries of the service are the texts of its pairs, and as the texts of
different numbers differ, the loops over the entries are the operations of the table.
-/

import NetManager.Library.FirstMatch
import NetManager.Library.Run
import NetManager.Library.Table
import NetManager.Policy.NetPolicyService

namespace NetManager

open Library

/-! ### Policy maps -/

/-- The policy of each user who has one. -/
abbrev PolicyMap := UInt32 → Option NetUidPolicy

namespace PolicyMap

/-- The map before any request. -/
def empty : PolicyMap := fun _ => none

/-- What a request asks for. -/
def step (map : PolicyMap) (request : NetPolicyService.PolicyRequest) : PolicyMap :=
  if request.policy = .none then Function.update map request.uid none
  else if NetPolicyTraffic.isPolicyValid request.policy then
    Function.update map request.uid (some request.policy)
  else map

/-- What a request makes of the policy of one user. -/
theorem step_apply (map : PolicyMap) (request : NetPolicyService.PolicyRequest) (uid : UInt32) :
    step map request uid =
      if uid = request.uid then
        if request.policy = .none then none
        else if NetPolicyTraffic.isPolicyValid request.policy then some request.policy
        else map uid
      else map uid := by
  unfold step
  by_cases same : uid = request.uid
  · rw [if_pos same]
    split
    · rw [same, Function.update_self]
    · split
      · rw [same, Function.update_self]
      · rfl
  · rw [if_neg same]
    split
    · rw [Function.update_of_ne same]
    · split
      · rw [Function.update_of_ne same]
      · rfl

end PolicyMap

/-! ### Texts of entries -/

/-- The text of a user. -/
def uidText (uid : UInt32) : String := stdToString uid.toNat

/-- The text of a policy. -/
def policyText (policy : NetUidPolicy) : String := stdToString policy.toUInt32.toNat

theorem uidText_injective : Function.Injective uidText :=
  fun _ _ same => UInt32.toNat_inj.mp (stdToString_injective same)

theorem toUInt32_injective : Function.Injective NetUidPolicy.toUInt32 := by
  intro first second same
  have values := congrArg UInt32.toInt32 same
  exact NetUidPolicy.ext values

theorem policyText_injective : Function.Injective policyText := fun _ _ same =>
  toUInt32_injective (UInt32.toNat_inj.mp (stdToString_injective same))

/-- A `long` of 64 bits holds every number of 32 bits. -/
theorem stol_uint32 (value : UInt32) :
    stol 64 (stdToString value.toNat) = .ok (value.toNat : Int) :=
  stol_stdToString (lt_trans value.toNat_lt (by decide))

theorem uint32_ofInt (value : UInt32) : UInt32.ofInt (value.toNat : Int) = value := by
  have small : (value.toNat : Int) < 2 ^ 32 := by
    exact_mod_cast value.toNat_lt
  unfold UInt32.ofInt
  rw [Int.emod_eq_of_lt (Int.natCast_nonneg _) small, Int.toNat_natCast, UInt32.ofNat_toNat]

theorem ofLong_toUInt32 (policy : NetUidPolicy) :
    NetUidPolicy.ofLong (policy.toUInt32.toNat : Int) = policy := by
  refine NetUidPolicy.ext ?_
  show Int32.ofInt (policy.value.toUInt32.toNat : Int) = policy.value
  rw [Int32.ofInt_eq_ofNat]
  exact Int32.toBitVec.inj (BitVec.ofNat_toNat _ _)

/-- The entries of the service code a table of users and policies. -/
def policyCoding : Coding UInt32 NetUidPolicy UidPolicy String where
  entry uid policy := ⟨uidText uid, policyText policy⟩
  name := UidPolicy.uid
  keyName := uidText
  name_entry _ _ := rfl
  keyName_injective := uidText_injective

/-- A platform with a `long` of 64 bits. -/
def lp64 (streamWriter : JsonValue → String) : Platform := ⟨64, streamWriter⟩

/-! ### The loops of the file -/

namespace NetPolicyFile

/-- The entries of the file are those of the table. -/
def Represents (file : NetPolicyFile) (table : Table UInt32 NetUidPolicy) : Prop :=
  file.netPolicy.uidPolicys = policyCoding.encode table

variable {file : NetPolicyFile} {table : Table UInt32 NetUidPolicy}

theorem Represents.entries (represents : file.Represents table) :
    file.netPolicy.uidPolicys = policyCoding.encode table := represents

/-- The entry that is found for a uid is that of its policy. -/
theorem Represents.find?_entries (represents : file.Represents table) (uid : UInt32) :
    file.netPolicy.uidPolicys.find? (fun uidPolicy =>
      uidPolicy.uid = stdToString uid.toNat) = (table.read uid).map (policyCoding.entry uid) := by
  rw [represents.entries]
  exact policyCoding.find?_encode table uid

/-- The number of every user of the table fits in a `long`. -/
def Fits (platform : Platform) (table : Table UInt32 NetUidPolicy) : Prop :=
  ∀ uid ∈ table, uid.toNat < 2 ^ (platform.longBits - 1)

/-- A `long` of 64 bits holds every user. -/
theorem fits_lp64 (streamWriter : JsonValue → String) (table : Table UInt32 NetUidPolicy) :
    Fits (lp64 streamWriter) table := by
  intro uid _
  have power : 2 ^ 32 < 2 ^ (64 - 1) := by decide
  exact lt_trans uid.toNat_lt power

/-- The uid of an entry is read back. -/
theorem Fits.stol_uid {platform : Platform} (fits : Fits platform table)
    {pair : Σ _ : UInt32, NetUidPolicy} (listed : pair ∈ table.entries) :
    stol platform.longBits (policyCoding.entry pair.1 pair.2).uid = .ok (pair.1.toNat : Int) :=
  stol_stdToString (fits pair.1 (AList.mem_keys.mpr (List.mem_map_of_mem listed)))

/-- With a `long` of 64 bits so is its policy. -/
theorem stol_policy (streamWriter : JsonValue → String) (uid : UInt32) (policy : NetUidPolicy) :
    stol (lp64 streamWriter).longBits (policyCoding.entry uid policy).policy =
      .ok (policy.toUInt32.toNat : Int) :=
  stol_uint32 policy.toUInt32

theorem isUidPolicyExist_eq {platform : Platform} (fits : Fits platform table)
    (represents : file.Represents table) (uid : UInt32) :
    file.isUidPolicyExist platform uid = .ok (decide (uid ∈ table)) := by
  unfold isUidPolicyExist
  rw [represents.entries, ← policyCoding.any_encode table uid]
  refine anyM_eq_ok fun entry listed => ?_
  obtain ⟨pair, inTable, rfl⟩ := List.mem_map.mp listed
  have same : (UInt32.ofInt (pair.1.toNat : Int) == uid) =
      decide (policyCoding.name (policyCoding.entry pair.1 pair.2) = policyCoding.keyName uid) := by
    rw [uint32_ofInt, Bool.eq_iff_iff, beq_iff_eq, decide_eq_true_iff, policyCoding.name_eq_iff,
      eq_comm]
  rw [fits.stol_uid inTable, ← same]
  rfl

theorem getUidPolicy_eq (streamWriter : JsonValue → String)
    (represents : file.Represents table) (uid : UInt32) :
    file.getUidPolicy (lp64 streamWriter) uid = .ok ((table.read uid).getD .none) := by
  unfold getUidPolicy
  rw [represents.find?_entries uid]
  cases table.read uid with
  | none => rfl
  | some policy =>
    show (stol _ (policyCoding.entry uid policy).policy >>= _) = _
    rw [stol_policy]
    exact congrArg Except.ok (ofLong_toUInt32 policy)

theorem getUids_eq {platform : Platform} (fits : Fits platform table)
    (represents : file.Represents table) (policy : NetUidPolicy) :
    file.getUids platform policy = .ok (table.keysOf policy) := by
  have kept : (file.netPolicy.uidPolicys.filter fun uidPolicy =>
      uidPolicy.policy = stdToString policy.toUInt32.toNat) =
        (table.entries.filter fun pair => pair.2 = policy).map fun pair =>
          policyCoding.entry pair.1 pair.2 := by
    rw [represents.entries, Coding.encode, List.filter_map]
    refine congrArg _ (List.filter_congr fun pair _ => ?_)
    exact decide_eq_decide.mpr policyText_injective.eq_iff
  unfold getUids
  rw [kept, List.mapM_map]
  refine mapM_eq_ok fun pair kept => ?_
  show (stol _ (policyCoding.entry pair.1 pair.2).uid >>= _) = _
  rw [fits.stol_uid (List.mem_of_mem_filter kept)]
  exact congrArg Except.ok (uint32_ofInt pair.1)

/-- Writing changes the entries whether or not the file can be opened. -/
theorem uidPolicys_writeFile (platform : Platform) (file : NetPolicyFile) (fileName : String) :
    (file.writeFile platform fileName).2.netPolicy = file.netPolicy := by
  unfold writeFile
  split
  · rfl
  · rfl

theorem uidPolicys_writeFileOp (platform : Platform) (file : NetPolicyFile)
    (netUidPolicyOpType : NetUidPolicyOpType) (uid : UInt32) (policy : NetUidPolicy) :
    (file.writeFileOp platform netUidPolicyOpType uid policy).2.netPolicy.uidPolicys =
      changeEntries netUidPolicyOpType (uidText uid) (policyText policy)
        file.netPolicy.uidPolicys := by
  unfold writeFileOp
  rw [uidPolicys_writeFile]
  rfl

/-- The write succeeds when the file can be opened. -/
theorem writeFileOp_result (platform : Platform) (file : NetPolicyFile)
    (netUidPolicyOpType : NetUidPolicyOpType) (uid : UInt32) (policy : NetUidPolicy) :
    (file.writeFileOp platform netUidPolicyOpType uid policy).1 =
      file.files.opens file.files.opened := by
  unfold writeFileOp writeFile FileSystem.write
  rw [if_neg (by decide)]
  dsimp only
  cases file.files.opens file.files.opened with
  | true => rfl
  | false => rfl

/-- The operation that stores a policy for a user. -/
def storeOp (table : Table UInt32 NetUidPolicy) (uid : UInt32) : NetUidPolicyOpType :=
  if uid ∈ table then .update else .add

theorem represents_store (platform : Platform) (represents : file.Represents table)
    (uid : UInt32) (policy : NetUidPolicy) :
    (file.writeFileOp platform (storeOp table uid) uid policy).2.Represents
      (table.store uid policy) := by
  unfold Represents
  rw [uidPolicys_writeFileOp, represents.entries]
  unfold Table.store storeOp
  by_cases present : uid ∈ table
  · rw [if_pos present, dif_pos present]
    exact policyCoding.lookmap_encode table uid policy
      (fun entry => { entry with policy := policyText policy }) fun _ => rfl
  · rw [if_neg present, dif_neg present]
    exact policyCoding.append_encode table uid policy present

theorem represents_erase (platform : Platform) (represents : file.Represents table)
    (uid : UInt32) (policy : NetUidPolicy) :
    (file.writeFileOp platform .delete uid policy).2.Represents (table.erase uid) := by
  unfold Represents
  rw [uidPolicys_writeFileOp, represents.entries]
  exact policyCoding.eraseP_encode table uid

/-- A change that is made under a condition. -/
theorem Represents.changed {changed : NetPolicyFile} {next : Table UInt32 NetUidPolicy}
    {condition : Bool} (represents : file.Represents table) (after : changed.Represents next) :
    (if condition = true then changed else file).Represents
      (if condition = true then next else table) := by
  cases condition with
  | true => exact after
  | false => exact represents

end NetPolicyFile

/-! ### Requests -/

namespace NetPolicyService

/-- What a request does to the table. -/
def tableStep (table : Table UInt32 NetUidPolicy) (request : PolicyRequest) :
    Table UInt32 NetUidPolicy :=
  if request.policy = .none then table.erase request.uid
  else if NetPolicyTraffic.isPolicyValid request.policy then
    table.store request.uid request.policy
  else table

/-- The table moves as the map of the user asks. -/
theorem read_tableStep (table : Table UInt32 NetUidPolicy) (request : PolicyRequest) :
    (tableStep table request).read = PolicyMap.step table.read request := by
  unfold tableStep PolicyMap.step
  split
  · exact Table.read_erase table request.uid
  · split
    · exact Table.read_store table request.uid request.policy
    · rfl

/-- The code a request returns. -/
def answerOf (this : NetPolicyService) (policy : NetUidPolicy) : NetPolicyResultCode :=
  if !NetPolicyTraffic.isPolicyValid policy then .invalidPolicy
  else if this.netPolicyFile.files.opens this.netPolicyFile.files.opened then .none
  else .internalError

/-- A valid policy is written, an invalid one is refused. -/
theorem writeUidPolicy_eq (netUidPolicyOpType : NetUidPolicyOpType) (platform : Platform)
    (this : NetPolicyService) (uid : UInt32) (policy : NetUidPolicy) :
    NetPolicyTraffic.writeUidPolicy netUidPolicyOpType platform this.netPolicyFile uid policy =
      (this.answerOf policy,
        if NetPolicyTraffic.isPolicyValid policy then
          (this.netPolicyFile.writeFileOp platform netUidPolicyOpType uid policy).2
        else this.netPolicyFile) := by
  unfold NetPolicyTraffic.writeUidPolicy answerOf
  cases NetPolicyTraffic.isPolicyValid policy with
  | true =>
    dsimp only
    rw [NetPolicyFile.writeFileOp_result]
    rfl
  | false => rfl

/-- The operation a request asks of the file: it looks the user up unless it takes a policy away. -/
def requestedOp (platform : Platform) (this : NetPolicyService) (uid : UInt32)
    (policy : NetUidPolicy) : Except StolError NetUidPolicyOpType :=
  if policy = .none then .ok .delete
  else do
    let exist ← this.netPolicyFile.isUidPolicyExist platform uid
    return if exist then .update else .add

/-- The service after an operation of the file, which is not tried for an invalid policy. -/
def applied (platform : Platform) (this : NetPolicyService) (op : NetUidPolicyOpType) (uid : UInt32)
    (policy : NetUidPolicy) : NetPolicyService :=
  ⟨if NetPolicyTraffic.isPolicyValid policy then
    (this.netPolicyFile.writeFileOp platform op uid policy).2 else this.netPolicyFile⟩

/-- A request is one operation of the file, unless the look-up throws. -/
theorem setUidPolicy_eq (platform : Platform) (this : NetPolicyService) (uid : UInt32)
    (policy : NetUidPolicy) :
    this.setUidPolicy platform uid policy =
      (this.requestedOp platform uid policy).map fun op =>
        (this.answerOf policy, this.applied platform op uid policy) := by
  have written (op : NetUidPolicyOpType) := writeUidPolicy_eq op platform this uid policy
  simp only [setUidPolicy, NetPolicyTraffic.deleteUidPolicy, NetPolicyTraffic.addUidPolicy,
    NetPolicyTraffic.setUidPolicy, written, requestedOp]
  by_cases removes : policy = .none
  · rw [if_pos removes, if_pos removes]
    rfl
  · rw [if_neg removes, if_neg removes]
    cases this.netPolicyFile.isUidPolicyExist platform uid with
    | error thrown => rfl
    | ok exist =>
      cases exist with
      | true => rfl
      | false => rfl

/-- A request of the service is a request of the table, and it returns an error code exactly when
the policy is invalid or the file cannot be opened. -/
theorem setUidPolicy_spec {platform : Platform} {this : NetPolicyService}
    {table : Table UInt32 NetUidPolicy} (fits : NetPolicyFile.Fits platform table)
    (represents : this.netPolicyFile.Represents table) (request : PolicyRequest) :
    ∃ next, this.setUidPolicy platform request.uid request.policy =
        .ok (this.answerOf request.policy, next) ∧
      next.netPolicyFile.Represents (tableStep table request) := by
  have exist := NetPolicyFile.isUidPolicyExist_eq fits represents request.uid
  have written (op : NetUidPolicyOpType) :=
    writeUidPolicy_eq op platform this request.uid request.policy
  unfold setUidPolicy NetPolicyTraffic.deleteUidPolicy NetPolicyTraffic.addUidPolicy
    NetPolicyTraffic.setUidPolicy tableStep
  rw [exist]
  dsimp only
  rw [written, written, written]
  by_cases removes : request.policy = .none
  · have valid : NetPolicyTraffic.isPolicyValid request.policy = true := by
      rw [removes]
      decide
    rw [if_pos removes, if_pos removes, if_pos valid]
    exact ⟨_, rfl, NetPolicyFile.represents_erase _ represents request.uid request.policy⟩
  · rw [if_neg removes, if_neg removes]
    have stored := NetPolicyFile.represents_store platform represents request.uid
      request.policy
    unfold NetPolicyFile.storeOp at stored
    by_cases present : request.uid ∈ table
    · rw [if_pos present] at stored
      rw [decide_eq_true present]
      exact ⟨_, rfl, represents.changed stored⟩
    · rw [if_neg present] at stored
      rw [decide_eq_false present]
      exact ⟨_, rfl, represents.changed stored⟩

/-! ### Refinement -/

/-- What the service answers about access, when the map says this of the user. -/
structure AccessAnswers (policy : Option NetUidPolicy) (answer : Except StolError Bool) :
    Prop where
  absent : policy = none → answer = .ok true
  allowed : ∀ found, policy = some found → found.toUInt32 &&& netPolicyAllowMask ≠ 0 →
    answer = .ok true
  rejected : policy = some .rejectAll → answer = .ok false

/-- The service answers as a map says. -/
structure Refines (platform : Platform) (this : NetPolicyService) (map : PolicyMap) : Prop where
  entries : ∃ uids : List UInt32, uids.Nodup ∧
    this.netPolicyFile.netPolicy.uidPolicys.map UidPolicy.uid = uids.map uidText
  policy : ∀ uid, this.getUidPolicy platform uid = .ok ((map uid).getD .none)
  uids : ∀ policy, policy ≠ .none → ∃ uids, this.getUids platform policy = .ok uids ∧
    uids.Nodup ∧ ∀ uid, uid ∈ uids ↔ map uid = some policy
  metered : ∀ uid metered, AccessAnswers (map uid) (this.isUidNetAccess platform uid metered)
  iface : ∀ uid ifaceName,
    AccessAnswers (map uid) (this.isUidNetAccessIface platform uid ifaceName)

theorem accessAnswers_allows (policy : Option NetUidPolicy) :
    AccessAnswers policy (.ok (allows (policy.getD .none))) := by
  refine ⟨?_, ?_, ?_⟩
  · rintro rfl
    rfl
  · rintro found rfl allowed
    unfold allows
    rw [Option.getD_some]
    by_cases unnamed : found = .none
    · rw [if_pos unnamed]
    · rw [if_neg unnamed, if_pos allowed]
  · rintro rfl
    rfl

/-- A service whose entries are those of a table answers as the table says. -/
theorem refines_of_represents (streamWriter : JsonValue → String) {this : NetPolicyService}
    {table : Table UInt32 NetUidPolicy} (represents : this.netPolicyFile.Represents table) :
    this.Refines (lp64 streamWriter) table.read := by
  have policy := NetPolicyFile.getUidPolicy_eq streamWriter represents
  have fits := NetPolicyFile.fits_lp64 streamWriter table
  refine ⟨⟨table.keys, table.keys_nodup, ?_⟩, policy, fun wanted _ => ?_, ?_, ?_⟩
  · rw [represents.entries, Coding.encode, List.map_map, AList.keys, List.keys, List.map_map]
    rfl
  · exact ⟨table.keysOf wanted, NetPolicyFile.getUids_eq fits represents wanted,
      table.keysOf_nodup wanted, fun uid => table.mem_keysOf uid wanted⟩
  · intro uid metered
    have answer := accessAnswers_allows (table.read uid)
    unfold isUidNetAccess
    rw [policy uid]
    exact answer
  · intro uid ifaceName
    have answer := accessAnswers_allows (table.read uid)
    unfold isUidNetAccessIface
    rw [policy uid]
    exact answer

/-- A run of requests is a run of the table. -/
theorem setUidPolicies_represents (streamWriter : JsonValue → String)
    (requests : List PolicyRequest) {this : NetPolicyService} {table : Table UInt32 NetUidPolicy}
    (represents : this.netPolicyFile.Represents table) :
    ∃ last, this.setUidPolicies (lp64 streamWriter) requests = .ok last ∧
      last.netPolicyFile.Represents (run tableStep table requests) := by
  induction requests generalizing this table with
  | nil => exact ⟨this, rfl, represents⟩
  | cons request rest inductionHypothesis =>
    obtain ⟨next, answered, after⟩ :=
      setUidPolicy_spec (NetPolicyFile.fits_lp64 streamWriter table) represents request
    obtain ⟨last, reached, final⟩ := inductionHypothesis after
    refine ⟨last, ?_, final⟩
    unfold setUidPolicies
    rw [List.foldlM_cons, answered]
    exact reached

/-- From an empty store, whatever `SetUidPolicy` requests are made and whether or not the file can
be written, the service answers as the policy map says, an invalid policy is refused, and a
valid one is accepted when the file can be opened. -/
theorem setUidPolicies_refines (streamWriter : JsonValue → String) (hosVersion : String)
    (files : FileSystem) (requests : List PolicyRequest) :
    ∃ last, (start hosVersion files).setUidPolicies (lp64 streamWriter) requests = .ok last ∧
      last.Refines (lp64 streamWriter) (run PolicyMap.step PolicyMap.empty requests) ∧
      ∀ request : PolicyRequest, ∃ code next,
        last.setUidPolicy (lp64 streamWriter) request.uid request.policy = .ok (code, next) ∧
        (NetPolicyTraffic.isPolicyValid request.policy = false → code = .invalidPolicy) ∧
        (NetPolicyTraffic.isPolicyValid request.policy = true →
          last.netPolicyFile.files.opens last.netPolicyFile.files.opened = true →
            code = .none) := by
  obtain ⟨last, reached, represents⟩ := setUidPolicies_represents streamWriter requests
    (show (start hosVersion files).netPolicyFile.Represents ∅ from rfl)
  have map : (run tableStep ∅ requests).read = run PolicyMap.step PolicyMap.empty requests :=
    run_reading tableStep Table.read PolicyMap.step read_tableStep ∅ requests
  refine ⟨last, reached, ?_, fun request => ?_⟩
  · rw [← map]
    exact refines_of_represents streamWriter represents
  · obtain ⟨next, answered, _⟩ :=
      setUidPolicy_spec (NetPolicyFile.fits_lp64 streamWriter _) represents request
    refine ⟨_, next, answered, fun invalid => ?_, fun valid opens => ?_⟩
    · unfold answerOf
      rw [invalid]
      rfl
    · unfold answerOf
      rw [valid, opens]
      rfl

end NetPolicyService

end NetManager
