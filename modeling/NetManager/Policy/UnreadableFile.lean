/-
This file is about policy files that cannot be read. `Json2Obj` answers that all is well when the
parser fails, so the service starts on a file it cannot read as on an empty one, and its first
request writes over it. A file that is read is kept: memory has its entries, and each write saves
memory. Only a request that edits memory and then cannot write the file breaks this; the next
request that is written takes its edit along.
-/

import NetManager.Policy.LoadedFile

namespace NetManager

open Library

/-! ### What a write leaves of a file -/

namespace NetPolicyFile

theorem mem_savedEntries {uidPolicy : UidPolicy} {uidPolicys : List UidPolicy} :
    uidPolicy ∈ savedEntries uidPolicys ↔
      uidPolicy ∈ uidPolicys ∧ uidPolicy.policy ≠ policyText .temporaryAllowMetered := by
  rw [savedEntries, List.mem_filter, decide_eq_true_iff]
  rfl

/-- A change of one user keeps the entries with other texts, and makes none. -/
theorem mem_changeEntries {uid : UInt32} {uidPolicy : UidPolicy}
    (other : uidPolicy.uid ≠ uidText uid) (op : NetUidPolicyOpType) (policy : String)
    (uidPolicys : List UidPolicy) :
    uidPolicy ∈ changeEntries op (uidText uid) policy uidPolicys ↔ uidPolicy ∈ uidPolicys := by
  have mem_iff (entries : List UidPolicy) :
      uidPolicy ∈ entries ↔ uidPolicy ∈ entries.filter fun entry => entry.uid ≠ uidText uid := by
    simp [other]
  rw [mem_iff, mem_iff uidPolicys, filter_changeEntries fun entry named => ?_]
  simpa using named

end NetPolicyFile

/-- The entries of a file that are not temporary and not about the user are still in it. -/
def KeepsOthers (charReader : String → Option JsonValue) (uid : UInt32)
    (before after : FileSystem) : Prop :=
  ∀ uidPolicy ∈ NetPolicyFile.savedEntries (fileEntries charReader before),
    uidPolicy.uid ≠ uidText uid → uidPolicy ∈ fileEntries charReader after

namespace NetPolicyService

variable {platform : Platform} {charReader : String → Option JsonValue} {this : NetPolicyService}

/-- A request gets to write the file: its policy is valid, the search for its user returns, and the
file opens. -/
structure Writes (platform : Platform) (this : NetPolicyService) (request : PolicyRequest) :
    Prop where
  valid : NetPolicyTraffic.isPolicyValid request.policy = true
  searched : ∃ op, this.requestedOp platform request.uid request.policy = .ok op
  opens : this.netPolicyFile.files.opens this.netPolicyFile.files.opened = true

/-- The file after a request that is valid. -/
theorem fileEntries_applied (jsoncpp : ReadsBack platform.streamWriter charReader)
    (this : NetPolicyService) (op : NetUidPolicyOpType) (uid : UInt32) {policy : NetUidPolicy}
    (valid : NetPolicyTraffic.isPolicyValid policy = true) :
    fileEntries charReader (this.applied platform op uid policy).netPolicyFile.files =
      if this.netPolicyFile.files.opens this.netPolicyFile.files.opened then
        NetPolicyFile.savedEntries (this.applied platform op uid policy).entries
      else fileEntries charReader this.netPolicyFile.files := by
  rw [entries, uidPolicys_applied op valid]
  simp only [applied, valid, if_true, NetPolicyFile.writeFileOp_files]
  obtain ⟨_, _, contents⟩ := NetPolicyFile.write_spec this.netPolicyFile.files
    NetPolicyFile.policyFileName (platform.streamWriter (NetPolicyFile.rootValue
      { this.netPolicyFile.netPolicy with
        uidPolicys := NetPolicyFile.changeEntries op (uidText uid) (policyText policy)
          this.netPolicyFile.netPolicy.uidPolicys }))
  cases opens : this.netPolicyFile.files.opens this.netPolicyFile.files.opened with
  | true =>
    rw [opens, if_pos rfl] at contents
    rw [fileEntries, storedEntries_written jsoncpp contents]
    rfl
  | false =>
    rw [opens, if_neg Bool.false_ne_true] at contents
    rw [fileEntries, storedEntries, contents]
    rfl

/-- A request keeps the entries of the other users exactly when it does not write the file, or
memory has them. -/
theorem keepsOthers_iff (jsoncpp : ReadsBack platform.streamWriter charReader)
    {request : PolicyRequest} {answered : NetPolicyResultCode × NetPolicyService}
    (returned : this.setUidPolicy platform request.uid request.policy = .ok answered) :
    KeepsOthers charReader request.uid this.netPolicyFile.files answered.2.netPolicyFile.files ↔
      (this.Writes platform request →
        ∀ uidPolicy ∈ NetPolicyFile.savedEntries (fileEntries charReader this.netPolicyFile.files),
          uidPolicy.uid ≠ uidText request.uid → uidPolicy ∈ this.entries) := by
  obtain ⟨op, asked, rfl⟩ := requestedOp_of_ok returned
  have same : KeepsOthers charReader request.uid this.netPolicyFile.files
      this.netPolicyFile.files :=
    fun uidPolicy listed _ => (NetPolicyFile.mem_savedEntries.mp listed).1
  cases valid : NetPolicyTraffic.isPolicyValid request.policy with
  | false =>
    rw [applied_of_invalid valid]
    exact iff_of_true same fun writes => absurd (valid.symm.trans writes.valid) Bool.false_ne_true
  | true =>
    have after := fileEntries_applied jsoncpp this op request.uid valid
    cases opens : this.netPolicyFile.files.opens this.netPolicyFile.files.opened with
    | false =>
      rw [opens, if_neg Bool.false_ne_true] at after
      refine iff_of_true (fun uidPolicy listed other => ?_) fun writes => ?_
      · rw [after]
        exact same uidPolicy listed other
      · exact absurd (opens.symm.trans writes.opens) Bool.false_ne_true
    | true =>
      rw [opens, if_pos rfl, entries, uidPolicys_applied op valid] at after
      have writes : this.Writes platform request := ⟨valid, ⟨op, asked⟩, opens⟩
      constructor
      · intro keeps _ uidPolicy listed other
        have kept := keeps uidPolicy listed other
        rw [after] at kept
        exact (NetPolicyFile.mem_changeEntries other op _ _).mp
          (NetPolicyFile.mem_savedEntries.mp kept).1
      · intro held uidPolicy listed other
        rw [after]
        refine NetPolicyFile.mem_savedEntries.mpr ⟨?_, (NetPolicyFile.mem_savedEntries.mp listed).2⟩
        exact (NetPolicyFile.mem_changeEntries other op _ _).mpr
          (held writes uidPolicy listed other)

/-! ### Requests that could not be written -/

/-- The number of attempts to open a file, and the requests that could not be written so far. -/
def attempt (opens : Nat → Bool) (seen : Nat × List PolicyRequest) (request : PolicyRequest) :
    Nat × List PolicyRequest :=
  if NetPolicyTraffic.isPolicyValid request.policy then
    (seen.1 + 1, if opens seen.1 then seen.2 else request :: seen.2)
  else seen

/-- The requests of a run that are valid and find the file closed. -/
def unwritten (files : FileSystem) (requests : List PolicyRequest) : List PolicyRequest :=
  (run (attempt files.opens) (files.opened, []) requests).2

/-- Memory has every entry the file would keep, but for the users of requests that could not be
written. -/
structure HoldsFile (charReader : String → Option JsonValue) (opens : Nat → Bool)
    (this : NetPolicyService) (seen : Nat × List PolicyRequest) : Prop where
  opens : this.netPolicyFile.files.opens = opens
  opened : this.netPolicyFile.files.opened = seen.1
  holds : ∀ uidPolicy ∈
    NetPolicyFile.savedEntries (fileEntries charReader this.netPolicyFile.files),
    (∀ failed ∈ seen.2, uidPolicy.uid ≠ uidText failed.uid) → uidPolicy ∈ this.entries

theorem HoldsFile.setUidPolicy (jsoncpp : ReadsBack platform.streamWriter charReader)
    {opens : Nat → Bool} {seen : Nat × List PolicyRequest} {request : PolicyRequest}
    (holdsFile : HoldsFile charReader opens this seen)
    {answered : NetPolicyResultCode × NetPolicyService}
    (returned : this.setUidPolicy platform request.uid request.policy = .ok answered) :
    HoldsFile charReader opens answered.2 (attempt opens seen request) := by
  obtain ⟨op, asked, rfl⟩ := requestedOp_of_ok returned
  unfold attempt
  cases valid : NetPolicyTraffic.isPolicyValid request.policy with
  | false =>
    rw [applied_of_invalid valid, if_neg Bool.false_ne_true]
    exact holdsFile
  | true =>
    have after := fileEntries_applied jsoncpp this op request.uid valid
    have edited : (this.applied platform op request.uid request.policy).entries = _ :=
      uidPolicys_applied op valid
    rw [if_pos rfl]
    refine ⟨?_, ?_, fun uidPolicy listed others => ?_⟩
    · rw [opens_applied]
      exact holdsFile.opens
    · rw [opened_applied, valid, if_pos rfl]
      exact congrArg (· + 1) holdsFile.opened
    · rw [after, holdsFile.opens, holdsFile.opened] at listed
      cases open? : opens seen.1 with
      | true =>
        rw [open?, if_pos rfl] at listed
        exact (NetPolicyFile.mem_savedEntries.mp (NetPolicyFile.mem_savedEntries.mp listed).1).1
      | false =>
        rw [open?, if_neg Bool.false_ne_true] at listed others
        obtain ⟨other, earlier⟩ := List.forall_mem_cons.mp others
        rw [edited]
        exact (NetPolicyFile.mem_changeEntries other op _ _).mpr
          (holdsFile.holds uidPolicy listed earlier)

theorem HoldsFile.setUidPolicies (jsoncpp : ReadsBack platform.streamWriter charReader)
    {opens : Nat → Bool} {seen : Nat × List PolicyRequest} {last : NetPolicyService}
    (holdsFile : HoldsFile charReader opens this seen) {requests : List PolicyRequest}
    (returned : this.setUidPolicies platform requests = .ok last) :
    HoldsFile charReader opens last (run (attempt opens) seen requests) :=
  setUidPolicies_simulates (HoldsFile charReader opens)
    (fun _ _ _ _ before answer => before.setUidPolicy jsoncpp answer) holdsFile returned

/-- Memory has the entries of a file that was just loaded. -/
theorem holdsFile_of_initPolicy (jsoncpp : charReader "" = none) {file loaded : NetPolicyFile}
    (started : file.initPolicy charReader = .ok (true, loaded)) :
    HoldsFile charReader loaded.files.opens ⟨loaded⟩ (loaded.files.opened, []) := by
  refine ⟨rfl, rfl, fun uidPolicy listed _ => ?_⟩
  have kept : fileEntries charReader loaded.files = fileEntries charReader file.files :=
    NetPolicyFile.fileEntries_of_initPolicy jsoncpp started
  rw [kept] at listed
  rw [entries, NetPolicyFile.uidPolicys_of_initPolicy jsoncpp started]
  exact List.mem_append_right _ (NetPolicyFile.mem_savedEntries.mp listed).1

/-- When the file always opens, every request is written. -/
theorem unwritten_eq_nil {files : FileSystem} (opens : ∀ attempt, files.opens attempt = true)
    (requests : List PolicyRequest) : unwritten files requests = [] := by
  refine run_invariant (attempt files.opens) (fun seen => seen.2 = []) ?_ rfl requests
  intro seen request none
  unfold attempt
  split
  · rw [opens, if_pos rfl]
    exact none
  · exact none

end NetPolicyService

/-! ### Unreadable files -/

namespace NetPolicyAbility

open NetPolicyService (storedFiles)

variable {platform : Platform} {charReader : String → Option JsonValue}

/-- The file has a text that is not JSON. -/
def Rejected (charReader : String → Option JsonValue) (files : FileSystem) : Prop :=
  ∃ content, files.contents NetPolicyFile.policyFileName = some content ∧ content ≠ "" ∧
    charReader content = none

/-- `InitPolicy` returns false, and the service does not start. -/
structure ReportsFailure (charReader : String → Option JsonValue) (this : NetPolicyAbility) :
    Prop where
  initPolicy : ∃ loaded, this.service.netPolicyFile.initPolicy charReader = .ok (false, loaded)
  onStart : this.state = .stopped → ∀ publish, ∃ started,
    this.onStart charReader publish = .ok started ∧ started.state = .stopped

/-- No request of a run that follows `InitPolicy` removes an entry of another user from the file,
unless it is temporary. -/
def KeepsFile (platform : Platform) (charReader : String → Option JsonValue)
    (this : NetPolicyAbility) (requests : List NetPolicyService.PolicyRequest) : Prop :=
  ∀ loaded, this.service.netPolicyFile.initPolicy charReader = .ok (true, loaded) →
    ∀ before request after, requests = before ++ request :: after →
      ∀ state, (⟨loaded⟩ : NetPolicyService).setUidPolicies platform before = .ok state →
        ∀ answered, state.setUidPolicy platform request.uid request.policy = .ok answered →
          KeepsOthers charReader request.uid state.netPolicyFile.files
            answered.2.netPolicyFile.files

/-- When a request is written, memory has the entries of the file for every other user with an
earlier request that could not be written. -/
def HoldsUnwritten (platform : Platform) (charReader : String → Option JsonValue)
    (this : NetPolicyAbility) (requests : List NetPolicyService.PolicyRequest) : Prop :=
  ∀ loaded, this.service.netPolicyFile.initPolicy charReader = .ok (true, loaded) →
    ∀ before request after, requests = before ++ request :: after →
      ∀ state, (⟨loaded⟩ : NetPolicyService).setUidPolicies platform before = .ok state →
        state.Writes platform request →
          ∀ failed ∈ NetPolicyService.unwritten loaded.files before, failed.uid ≠ request.uid →
            ∀ uidPolicy ∈ NetPolicyFile.savedEntries
                (fileEntries charReader state.netPolicyFile.files),
              uidPolicy.uid = uidText failed.uid → uidPolicy ∈ state.entries

/-- When `InitPolicy` returns false, the service does not start. -/
theorem onStart_of_failed {this : NetPolicyAbility} {loaded : NetPolicyFile}
    (failed : this.service.netPolicyFile.initPolicy charReader = .ok (false, loaded))
    (stopped : this.state = .stopped) (publish : Bool) :
    ∃ started, this.onStart charReader publish = .ok started ∧ started.state = .stopped := by
  have notRunning : ¬ this.state = .running := by
    rw [stopped]
    decide
  rw [onStart, if_neg notRunning, init]
  split
  · exact ⟨this, rfl, stopped⟩
  · rw [failed]
    exact ⟨_, rfl, stopped⟩

/-- A text that is not JSON is reported exactly when the file does not open. -/
theorem reportsFailure_iff {this : NetPolicyAbility}
    (rejected : Rejected charReader this.service.netPolicyFile.files) :
    this.ReportsFailure charReader ↔
      this.service.netPolicyFile.files.opens this.service.netPolicyFile.files.opened = false := by
  obtain ⟨content, present, nonempty, notJson⟩ := rejected
  have returned : this.service.netPolicyFile.initPolicy charReader = _ :=
    NetPolicyFile.initPolicy_present present
  rw [if_neg nonempty, NetPolicyFile.json2Obj, if_neg nonempty, notJson] at returned
  cases opens : this.service.netPolicyFile.files.opens this.service.netPolicyFile.files.opened with
  | true =>
    rw [opens, if_pos rfl] at returned
    refine iff_of_false (fun reports => ?_) (by decide)
    obtain ⟨loaded, failed⟩ := reports.initPolicy
    rw [returned] at failed
    cases (Prod.mk.inj (Except.ok.inj failed)).1
  | false =>
    rw [opens, if_neg Bool.false_ne_true] at returned
    exact iff_of_true ⟨⟨_, returned⟩, onStart_of_failed returned⟩ rfl

/-- A file that was loaded is kept exactly when memory holds what requests could not write. -/
theorem keepsFile_iff (jsoncpp : ReadsBack platform.streamWriter charReader)
    (this : NetPolicyAbility) (requests : List NetPolicyService.PolicyRequest) :
    this.KeepsFile platform charReader requests ↔
      this.HoldsUnwritten platform charReader requests := by
  constructor
  · intro keeps loaded started before request after split state reached writes failed _ different
      uidPolicy listed named
    obtain ⟨op, asked⟩ := writes.searched
    have returned : state.setUidPolicy platform request.uid request.policy = .ok
        (state.answerOf request.policy, state.applied platform op request.uid request.policy) := by
      rw [NetPolicyService.setUidPolicy_eq, asked]
      rfl
    have kept := keeps loaded started before request after split state reached _ returned
    refine (NetPolicyService.keepsOthers_iff jsoncpp returned).mp kept writes uidPolicy listed ?_
    rw [named]
    exact uidText_injective.ne different
  · intro holds loaded started before request after split state reached answered returned
    refine (NetPolicyService.keepsOthers_iff jsoncpp returned).mpr fun writes uidPolicy listed
      other => ?_
    by_cases pending : ∃ failed ∈ NetPolicyService.unwritten loaded.files before,
        uidPolicy.uid = uidText failed.uid
    · obtain ⟨failed, member, named⟩ := pending
      have different : failed.uid ≠ request.uid := by
        intro same
        exact other (named.trans (congrArg uidText same))
      exact holds loaded started before request after split state reached writes failed member
        different uidPolicy listed named
    · have held := (NetPolicyService.holdsFile_of_initPolicy jsoncpp.empty started).setUidPolicies
        jsoncpp reached
      exact held.holds uidPolicy listed fun failed member named => pending ⟨failed, member, named⟩

/-- An unreadable file is reported and a readable one is kept exactly when a text that is not JSON
is in a file that does not open, and each request that is written finds in memory what earlier
requests for other users could not write. -/
theorem unreadableFile_iff (platform : Platform) (charReader : String → Option JsonValue)
    (jsoncpp : ReadsBack platform.streamWriter charReader) (this : NetPolicyAbility)
    (requests : List NetPolicyService.PolicyRequest) :
    ((Rejected charReader this.service.netPolicyFile.files → this.ReportsFailure charReader) ∧
        this.KeepsFile platform charReader requests) ↔
      (Rejected charReader this.service.netPolicyFile.files →
        this.service.netPolicyFile.files.opens this.service.netPolicyFile.files.opened = false) ∧
      this.HoldsUnwritten platform charReader requests :=
  and_congr (forall_congr' reportsFailure_iff) (keepsFile_iff jsoncpp this requests)

theorem unreadableFile_example :
    (Rejected JsonText.read storedFiles → (make storedFiles).ReportsFailure JsonText.read) ∧
      (make storedFiles).KeepsFile (lp64 JsonText.write) JsonText.read
        [⟨7, .allowAll⟩, ⟨9, .rejectAll⟩] := by
  refine (unreadableFile_iff (lp64 JsonText.write) JsonText.read JsonText.readsBack
    (make storedFiles) [⟨7, .allowAll⟩, ⟨9, .rejectAll⟩]).mpr ⟨?_, ?_⟩
  · rintro ⟨content, present, _, notJson⟩
    rw [← Option.some.inj present, JsonText.readsBack.written] at notJson
    cases notJson
  · intro loaded started before request after _ state _ _ failed member
    have opens : ∀ attempt, loaded.files.opens attempt = true := by
      rw [← (Prod.mk.inj (Except.ok.inj started)).2]
      exact fun _ => rfl
    rw [NetPolicyService.unwritten_eq_nil opens] at member
    cases member

/-- Files with a policy file that is not JSON. -/
def brokenFiles : FileSystem where
  contents name := if name = NetPolicyFile.policyFileName then some "policies" else none
  opens _ := true

/-- Files with a policy of user 5 in which the first write fails. -/
def failingFiles : FileSystem := { storedFiles with opens := fun attempt => attempt ≠ 1 }

/-- The service starts on a file it cannot read. When a request for user 5 cannot be written, the
next one removes the entry of user 5 from the file. -/
theorem unreadable_file_not_reported :
    (∃ started, (make brokenFiles).onStart JsonText.read true = .ok started ∧
        started.state = .running) ∧
      ¬ (Rejected JsonText.read brokenFiles → (make brokenFiles).ReportsFailure JsonText.read) ∧
      ¬ (make failingFiles).KeepsFile (lp64 JsonText.write) JsonText.read
        [⟨5, .none⟩, ⟨7, .allowAll⟩] := by
  refine ⟨⟨_, rfl, rfl⟩, fun reports => ?_, fun keeps => ?_⟩
  · obtain ⟨loaded, failed⟩ := (reports ⟨"policies", rfl, by decide, rfl⟩).initPolicy
    cases failed
  · have stored : ⟨"5", "32"⟩ ∈ [UidPolicy.mk "7" "32"] :=
      keeps _ rfl [⟨5, .none⟩] ⟨7, .allowAll⟩ [] rfl _ rfl _ rfl ⟨"5", "32"⟩
        List.mem_cons_self (by decide)
    exact absurd stored (by decide)

end NetPolicyAbility

end NetManager
