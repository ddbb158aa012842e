/-
This file follows the policy service on platforms whose `long` may have 32 bits only. A user is a
number of 32 bits without a sign, so the larger half of them does not fit in such a `long`: the
policy of such a user is stored like any other, but every later search that comes to its entry
throws. The service handles every user of a run exactly when it never stores such a policy.
-/

import NetManager.Policy.Restart

namespace NetManager

open Library
open NetPolicyAbility (noFiles)

namespace NetPolicyService

/-! ### Calls -/

/-- A call that sets, lists or reads policies, or asks for access. -/
inductive Call
  | setUidPolicy (request : PolicyRequest)
  | getUids (policy : NetUidPolicy)
  | getUidPolicy (uid : UInt32)
  | isUidNetAccess (uid : UInt32) (metered : Bool)
  | isUidNetAccessIface (uid : UInt32) (ifaceName : String)
deriving DecidableEq, Repr

/-- The service after a call, or the exception the call throws. -/
def call (platform : Platform) (this : NetPolicyService) : Call → Except StolError NetPolicyService
  | .setUidPolicy request => do
    let answered ← this.setUidPolicy platform request.uid request.policy
    return answered.2
  | .getUids policy => do
    let _ ← this.getUids platform policy
    return this
  | .getUidPolicy uid => do
    let _ ← this.getUidPolicy platform uid
    return this
  | .isUidNetAccess uid metered => do
    let _ ← this.isUidNetAccess platform uid metered
    return this
  | .isUidNetAccessIface uid ifaceName => do
    let _ ← this.isUidNetAccessIface platform uid ifaceName
    return this

/-- Calls, one after the other, up to an exception. -/
def callAll (platform : Platform) (this : NetPolicyService) (calls : List Call) :
    Except StolError NetPolicyService :=
  calls.foldlM (call platform) this

/-- A service that answers requests, lists and reads answers every call, and what requests keep is
kept by every call. -/
theorem exists_call {platform : Platform} {this : NetPolicyService}
    (Holds : NetPolicyService → Prop) (holds : Holds this)
    (sets : ∀ request : PolicyRequest, ∃ code next,
      this.setUidPolicy platform request.uid request.policy = .ok (code, next) ∧ Holds next)
    (lists : ∀ policy, ∃ uids, this.getUids platform policy = .ok uids)
    (reads : ∀ uid, ∃ policy, this.getUidPolicy platform uid = .ok policy) (next : Call) :
    ∃ after, this.call platform next = .ok after ∧ Holds after := by
  cases next with
  | setUidPolicy request =>
    obtain ⟨code, after, answer, kept⟩ := sets request
    refine ⟨after, ?_, kept⟩
    rw [call, answer]
    rfl
  | getUids policy =>
    obtain ⟨uids, answer⟩ := lists policy
    refine ⟨this, ?_, holds⟩
    rw [call, answer]
    rfl
  | getUidPolicy uid =>
    obtain ⟨policy, answer⟩ := reads uid
    refine ⟨this, ?_, holds⟩
    rw [call, answer]
    rfl
  | isUidNetAccess uid metered =>
    obtain ⟨policy, answer⟩ := reads uid
    refine ⟨this, ?_, holds⟩
    show (this.getUidPolicy platform uid >>= _) >>= _ = _
    rw [answer]
    rfl
  | isUidNetAccessIface uid ifaceName =>
    obtain ⟨policy, answer⟩ := reads uid
    refine ⟨this, ?_, holds⟩
    show (this.getUidPolicy platform uid >>= _) >>= _ = _
    rw [answer]
    rfl

/-- The service has an entry for the user. -/
def stores (this : NetPolicyService) (uid : UInt32) : Bool :=
  this.netPolicyFile.netPolicy.uidPolicys.any fun uidPolicy => uidPolicy.uid = uidText uid

variable {platform : Platform} {this : NetPolicyService} {table : Table UInt32 NetUidPolicy}

theorem stores_eq (represents : this.netPolicyFile.Represents table) (uid : UInt32) :
    this.stores uid = decide (uid ∈ table) := by
  rw [stores, represents.entries]
  exact policyCoding.any_encode table uid

/-! ### Calls on a table -/

/-- What a call does to the table. -/
def tableCall (table : Table UInt32 NetUidPolicy) : Call → Table UInt32 NetUidPolicy
  | .setUidPolicy request => tableStep table request
  | _ => table

/-- A question that is answered leaves the service as it is. -/
theorem eq_of_question {Answer : Type} {asked : Except StolError Answer}
    {after : NetPolicyService} (returned : (asked >>= fun _ => pure this) = .ok after) :
    after = this := by
  obtain ⟨_, _, same⟩ := bind_eq_ok returned
  exact (Except.ok.inj same).symm

/-- A call that returns is a call on the table. -/
theorem represents_of_call (represents : this.netPolicyFile.Represents table) {next : Call}
    {after : NetPolicyService} (returned : this.call platform next = .ok after) :
    after.netPolicyFile.Represents (tableCall table next) := by
  cases next with
  | setUidPolicy request =>
    obtain ⟨answered, answer, same⟩ := bind_eq_ok returned
    rw [← Except.ok.inj same, setUidPolicy_of_ok represents answer]
    exact represents_requested represents request
  | getUids policy =>
    rw [eq_of_question returned]
    exact represents
  | getUidPolicy uid =>
    rw [eq_of_question returned]
    exact represents
  | isUidNetAccess uid metered =>
    rw [eq_of_question returned]
    exact represents
  | isUidNetAccessIface uid ifaceName =>
    rw [eq_of_question returned]
    exact represents

theorem represents_of_callAll (represents : this.netPolicyFile.Represents table)
    {calls : List Call} {last : NetPolicyService}
    (returned : this.callAll platform calls = .ok last) :
    last.netPolicyFile.Represents (run tableCall table calls) :=
  foldlM_simulates (fun state table => state.netPolicyFile.Represents table)
    (fun _ _ _ _ before stepped => represents_of_call before stepped) represents returned

/-! ### Users that fit -/

/-- The call stores no policy for a user whose number does not fit in a `long`. -/
def StoresFitting (platform : Platform) (next : Call) : Prop :=
  ∀ request, next = .setUidPolicy request →
    NetPolicyTraffic.isPolicyValid request.policy = true → request.policy ≠ .none →
      request.uid.toNat < 2 ^ (platform.longBits - 1)

/-- The policies of a table are valid, and the numbers of its users fit. -/
structure Fitting (platform : Platform) (table : Table UInt32 NetUidPolicy) : Prop where
  fits : NetPolicyFile.Fits platform table
  valid : ∀ uid policy, table.read uid = some policy →
    NetPolicyTraffic.isPolicyValid policy = true

theorem mem_of_read {uid : UInt32} {policy : NetUidPolicy} (read : table.read uid = some policy) :
    uid ∈ table := by
  by_contra absent
  have missing : table.read uid = none := AList.lookup_eq_none.mpr absent
  rw [missing] at read
  cases read

theorem read_of_mem {uid : UInt32} (member : uid ∈ table) :
    ∃ policy, table.read uid = some policy :=
  Option.isSome_iff_exists.mp (AList.lookup_isSome.mpr member)

theorem Fitting.tableStep (fitting : Fitting platform table) {request : PolicyRequest}
    (storesFitting : StoresFitting platform (.setUidPolicy request)) :
    Fitting platform (tableStep table request) := by
  have kept : ∀ uid policy, (NetPolicyService.tableStep table request).read uid = some policy →
      uid.toNat < 2 ^ (platform.longBits - 1) ∧ NetPolicyTraffic.isPolicyValid policy = true := by
    intro uid policy read
    rw [read_tableStep, PolicyMap.step_apply] at read
    split_ifs at read with same removes valid
    · rw [same, ← Option.some.inj read]
      exact ⟨storesFitting request rfl valid removes, valid⟩
    · exact ⟨fitting.fits uid (mem_of_read read), fitting.valid uid policy read⟩
    · exact ⟨fitting.fits uid (mem_of_read read), fitting.valid uid policy read⟩
  refine ⟨fun uid member => ?_, fun uid policy read => (kept uid policy read).2⟩
  obtain ⟨policy, read⟩ := read_of_mem member
  exact (kept uid policy read).1

/-- On such a table no call throws. -/
theorem call_of_fitting (wide : 32 ≤ platform.longBits) (fitting : Fitting platform table)
    (represents : this.netPolicyFile.Represents table) (next : Call) :
    ∃ after, this.call platform next = .ok after := by
  have asked (request : PolicyRequest) : ∃ code next,
      this.setUidPolicy platform request.uid request.policy = .ok (code, next) ∧ True := by
    obtain ⟨after, answer, _⟩ := setUidPolicy_spec fitting.fits represents request
    exact ⟨_, after, answer, trivial⟩
  obtain ⟨after, returned, _⟩ := exists_call (fun _ => True) trivial asked
    (fun policy => ⟨_, NetPolicyFile.getUids_eq fitting.fits represents policy⟩)
    (fun uid => ⟨_, NetPolicyFile.getUidPolicy_of_valid wide represents (fitting.valid uid)⟩) next
  exact ⟨after, returned⟩

theorem Fitting.tableCall (fitting : Fitting platform table) {next : Call}
    (storesFitting : StoresFitting platform next) : Fitting platform (tableCall table next) := by
  cases next with
  | setUidPolicy request => exact fitting.tableStep storesFitting
  | getUids policy => exact fitting
  | getUidPolicy uid => exact fitting
  | isUidNetAccess uid metered => exact fitting
  | isUidNetAccessIface uid ifaceName => exact fitting

theorem callAll_of_fitting (wide : 32 ≤ platform.longBits) (fitting : Fitting platform table)
    (represents : this.netPolicyFile.Represents table) {calls : List Call}
    (storesFitting : ∀ next ∈ calls, StoresFitting platform next) :
    ∃ last, this.callAll platform calls = .ok last ∧
      Fitting platform (run NetPolicyService.tableCall table calls) := by
  induction calls generalizing this table with
  | nil => exact ⟨this, rfl, fitting⟩
  | cons next rest inductionHypothesis =>
    obtain ⟨first, later⟩ := List.forall_mem_cons.mp storesFitting
    obtain ⟨after, returned⟩ := call_of_fitting wide fitting represents next
    obtain ⟨last, reached, final⟩ := inductionHypothesis (fitting.tableCall first)
      (represents_of_call represents returned) later
    refine ⟨last, ?_, final⟩
    rw [callAll, List.foldlM_cons, returned]
    exact reached

/-! ### Every user -/

/-- No call of the run throws, and in every state of it the search for a user finds exactly the
users that are stored. -/
def HandlesEveryUid (platform : Platform) (this : NetPolicyService) (calls : List Call) : Prop :=
  ∀ before after, calls = before ++ after →
    ∃ reached, this.callAll platform before = .ok reached ∧
      ∀ uid, reached.netPolicyFile.isUidPolicyExist platform uid = .ok (reached.stores uid)

/-- A user who is stored and found has a number that fits. -/
theorem fits_of_found (represents : this.netPolicyFile.Represents table) {uid : UInt32}
    (found : this.netPolicyFile.isUidPolicyExist platform uid = .ok true) :
    uid.toNat < 2 ^ (platform.longBits - 1) := by
  unfold NetPolicyFile.isUidPolicyExist at found
  rw [represents.entries] at found
  obtain ⟨entry, listed, passed⟩ := exists_of_anyM found
  obtain ⟨pair, _, rfl⟩ := List.mem_map.mp listed
  obtain ⟨number, read, same⟩ := bind_eq_ok passed
  have fits := fits_of_stol read
  rw [stol_of_ok read] at same
  have user : pair.1 = uid := by
    rw [← uint32_ofInt pair.1]
    exact eq_of_beq (Except.ok.inj same)
  rw [← user]
  exact fits

/-- From an empty store every user is handled exactly when no policy is stored for a user whose
number does not fit in a `long`. -/
theorem handlesEveryUid_iff (platform : Platform) (wide : 32 ≤ platform.longBits)
    (hosVersion : String) (files : FileSystem) (calls : List Call) :
    (start hosVersion files).HandlesEveryUid platform calls ↔
      ∀ request, .setUidPolicy request ∈ calls →
        NetPolicyTraffic.isPolicyValid request.policy = true → request.policy ≠ .none →
          request.uid.toNat < 2 ^ (platform.longBits - 1) := by
  have empty : (start hosVersion files).netPolicyFile.Represents ∅ := rfl
  constructor
  · intro handles request member valid stored
    obtain ⟨before, after, rfl⟩ := List.append_of_mem member
    obtain ⟨reached, returned, found⟩ := handles (before ++ [.setUidPolicy request]) after
      (by rw [List.append_assoc, List.singleton_append])
    have represents := represents_of_callAll empty returned
    rw [run_concat] at represents
    have read : (tableStep (run tableCall ∅ before) request).read request.uid =
        some request.policy := by
      rw [read_tableStep, PolicyMap.step_apply, if_pos rfl, if_neg stored, if_pos valid]
    have present : request.uid ∈ tableStep (run tableCall ∅ before) request := mem_of_read read
    have answer := found request.uid
    rw [stores_eq represents] at answer
    exact fits_of_found represents (answer.trans (congrArg _ (decide_eq_true present)))
  · rintro fit before after rfl
    have nothing : Fitting platform ∅ :=
      ⟨fun uid member => absurd member (AList.notMem_empty uid),
        fun uid policy read => by cases read⟩
    have storesFitting : ∀ next ∈ before, StoresFitting platform next := by
      rintro next member request rfl
      exact fit request (List.mem_append_left _ member)
    obtain ⟨reached, returned, fitting⟩ := callAll_of_fitting wide nothing empty storesFitting
    have represents := represents_of_callAll empty returned
    refine ⟨reached, returned, fun uid => ?_⟩
    rw [NetPolicyFile.isUidPolicyExist_eq fitting.fits represents, stores_eq represents]

/-- A platform with a `long` of 32 bits. -/
def ilp32 (streamWriter : JsonValue → String) : Platform := ⟨32, streamWriter⟩

theorem handlesEveryUid_example :
    (start "1.0" noFiles).HandlesEveryUid (ilp32 JsonText.write)
      [.setUidPolicy ⟨5, .allowAll⟩, .getUids .allowAll, .getUidPolicy 2147483648] := by
  refine (handlesEveryUid_iff (ilp32 JsonText.write) (by decide) "1.0" noFiles _).mpr ?_
  intro request member _ _
  simp only [List.mem_cons, Call.setUidPolicy.injEq, reduceCtorEq, List.not_mem_nil, or_false]
    at member
  rw [member]
  decide

/-- With a `long` of 32 bits a policy of a large user breaks the next request for another user. -/
theorem large_uid_breaks_requests :
    (start "1.0" noFiles).callAll (ilp32 JsonText.write)
        [.setUidPolicy ⟨2147483648, .allowAll⟩, .setUidPolicy ⟨5, .allowAll⟩] =
          .error .outOfRange ∧
      ¬ (start "1.0" noFiles).HandlesEveryUid (ilp32 JsonText.write)
        [.setUidPolicy ⟨2147483648, .allowAll⟩, .setUidPolicy ⟨5, .allowAll⟩] := by
  have thrown : (start "1.0" noFiles).callAll (ilp32 JsonText.write)
      [.setUidPolicy ⟨2147483648, .allowAll⟩, .setUidPolicy ⟨5, .allowAll⟩] =
        .error .outOfRange := rfl
  refine ⟨thrown, fun handles => ?_⟩
  obtain ⟨reached, returned, _⟩ := handles _ [] (List.append_nil _).symm
  rw [thrown] at returned
  cases returned

end NetPolicyService

end NetManager
