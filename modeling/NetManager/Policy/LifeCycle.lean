/-
This file follows one policy service over its starts and stops. The entries it keeps are a
map as long as no user has two of them, and the loops of the service rely on that: they stop
at the first entry of a user. `OnStart` appends the entries of the file to those that are
still in memory, so the map survives a start exactly when the file has no entries.
-/

import NetManager.Policy.Restart

namespace NetManager.NetPolicyAbility

open Library

/-! ### Runs -/

/-- What can happen to the service. -/
inductive Action
  | setUidPolicy (request : NetPolicyService.PolicyRequest)
  | onStop
  | onStart
deriving DecidableEq, Repr

variable (streamWriter : JsonValue → String) (charReader : String → Option JsonValue)

/-- One action, when `Publish` succeeds. An exception ends the process. -/
def perform (this : NetPolicyAbility) : Action → Option NetPolicyAbility
  | .setUidPolicy request => do
    let answered ← (this.service.setUidPolicy (lp64 streamWriter) request.uid
      request.policy).toOption
    return { this with service := answered.2 }
  | .onStop => some this.onStop
  | .onStart => (this.onStart charReader true).toOption

/-- The service after one action, if the process goes on. -/
def step (state : Option NetPolicyAbility) (action : Action) : Option NetPolicyAbility :=
  state.bind fun this => this.perform streamWriter charReader action

/-! ### The store as a map -/

/-- The entries are a map: a user has one entry at most and is listed once at most, and what a
request sets is what is read. -/
structure StoreIsMap (this : NetPolicyAbility) : Prop where
  entries : (this.service.netPolicyFile.netPolicy.uidPolicys.map UidPolicy.uid).Nodup
  uids : ∀ policy, ∃ uids, this.service.getUids (lp64 streamWriter) policy = .ok uids ∧ uids.Nodup
  answers : ∀ uid policy, ∃ code next,
    this.service.setUidPolicy (lp64 streamWriter) uid policy = .ok (code, next) ∧
      (code = .none → next.getUidPolicy (lp64 streamWriter) uid = .ok policy)

/-- The store of a service that still runs is a map. -/
def RunsAsMap (state : Option NetPolicyAbility) : Prop :=
  ∃ this, state = some this ∧ this.StoreIsMap streamWriter

/-- The service starts only while no entry would be saved. -/
def LoadsNothing (state : Option NetPolicyAbility) (action : Action) : Prop :=
  ∀ this, state = some this → action = .onStart → this.state = .stopped →
    NetPolicyFile.savedEntries this.service.netPolicyFile.netPolicy.uidPolicys = []

/-- The service is in step with a table. -/
def Tracks (state : Option NetPolicyAbility) : Prop :=
  ∃ this table, state = some this ∧ this.service.Synced (lp64 streamWriter) table

variable {streamWriter charReader}

/-- A request leaves the service in step with the table it makes. -/
theorem setUidPolicy_synced {service : NetPolicyService} {table : Table UInt32 NetUidPolicy}
    (synced : service.Synced (lp64 streamWriter) table)
    (request : NetPolicyService.PolicyRequest) :
    ∃ next, service.setUidPolicy (lp64 streamWriter) request.uid request.policy =
        .ok (service.answerOf request.policy, next) ∧
      next.Synced (lp64 streamWriter) (NetPolicyService.tableStep table request) := by
  obtain ⟨next, answer, _⟩ :=
    NetPolicyService.setUidPolicy_spec (NetPolicyFile.fits_lp64 streamWriter table)
      synced.represents request
  exact ⟨next, answer, synced.setUidPolicy answer⟩

/-- A service in step with a table is a map. -/
theorem StoreIsMap.of_synced {this : NetPolicyAbility} {table : Table UInt32 NetUidPolicy}
    (synced : this.service.Synced (lp64 streamWriter) table) : this.StoreIsMap streamWriter := by
  have represents := synced.represents
  refine ⟨?_, fun policy => ?_, fun uid policy => ?_⟩
  · have keys := table.keys_nodup.map uidText_injective
    rw [AList.keys, List.keys, List.map_map] at keys
    rw [represents.entries, Coding.encode, List.map_map]
    exact keys
  · have fits := NetPolicyFile.fits_lp64 streamWriter table
    exact ⟨_, NetPolicyFile.getUids_eq fits represents policy, table.keysOf_nodup policy⟩
  · obtain ⟨next, answer, after⟩ := setUidPolicy_synced synced ⟨uid, policy⟩
    refine ⟨_, next, answer, fun accepted => ?_⟩
    have valid := NetPolicyService.isPolicyValid_of_accepted accepted
    have read := NetPolicyFile.getUidPolicy_eq streamWriter after.represents uid
    rw [NetPolicyService.read_tableStep, PolicyMap.step_apply, if_pos rfl, if_pos valid] at read
    refine Eq.trans read (congrArg Except.ok ?_)
    by_cases removes : policy = .none
    · rw [if_pos removes, removes]
      rfl
    · rw [if_neg removes]
      rfl

/-! ### Steps -/

/-- Loading the file again appends the saved entries. -/
theorem onStart_spec (jsoncpp : ReadsBack streamWriter charReader) {this : NetPolicyAbility}
    {table : Table UInt32 NetUidPolicy}
    (synced : this.service.Synced (lp64 streamWriter) table) (stopped : this.state = .stopped) :
    ∃ started, this.onStart charReader true = .ok started ∧
      started.service.netPolicyFile.netPolicy.uidPolicys =
        this.service.netPolicyFile.netPolicy.uidPolicys ++
          NetPolicyFile.savedEntries this.service.netPolicyFile.netPolicy.uidPolicys ∧
      NetPolicyFile.Stores (lp64 streamWriter) started.service.netPolicyFile.files
        (NetPolicyFile.savedEntries this.service.netPolicyFile.netPolicy.uidPolicys) ∧
      started.service.netPolicyFile.files.opens = this.service.netPolicyFile.files.opens := by
  obtain ⟨loaded, answer, entries, stores, opens⟩ :=
    NetPolicyFile.initPolicy_spec jsoncpp synced.stores
  have opened := synced.opens this.service.netPolicyFile.files.opened
  rw [opened] at answer
  refine ⟨{ this with registerToService := true, service := ⟨loaded⟩, state := .running }, ?_,
    entries opened, stores, opens⟩
  have published : (!this.registerToService && !true) = false := Bool.and_false _
  unfold onStart init
  rw [stopped, published, answer]
  rfl

/-- A step that loads nothing keeps the service in step with a table. -/
theorem tracks_step (jsoncpp : ReadsBack streamWriter charReader)
    {state : Option NetPolicyAbility} {action : Action} (tracks : Tracks streamWriter state)
    (guard : LoadsNothing state action) :
    Tracks streamWriter (step streamWriter charReader state action) := by
  obtain ⟨this, table, rfl, synced⟩ := tracks
  cases action with
  | setUidPolicy request =>
    obtain ⟨next, answer, after⟩ := setUidPolicy_synced synced request
    refine ⟨{ this with service := next }, _, ?_, after⟩
    show ((this.service.setUidPolicy _ request.uid request.policy).toOption >>= _) = _
    rw [answer]
    rfl
  | onStop => exact ⟨this.onStop, table, rfl, synced⟩
  | onStart =>
    by_cases stopped : this.state = .stopped
    · obtain ⟨started, answer, entries, stores, opens⟩ := onStart_spec jsoncpp synced stopped
      have nothing := guard this rfl rfl stopped
      rw [nothing, List.append_nil] at entries
      refine ⟨started, table, ?_, ?_, ?_, ?_⟩
      · show (this.onStart charReader true).toOption = _
        rw [answer]
        rfl
      · exact entries.trans synced.represents
      · rw [entries]
        exact stores
      · rw [opens]
        exact synced.opens
    · refine ⟨this, table, ?_, synced⟩
      show (this.onStart charReader true).toOption = _
      have running : this.state = .running := by
        cases state : this.state with
        | stopped => exact absurd state stopped
        | running => rfl
      rw [onStart, if_pos running]
      rfl

/-- When the store is a map after a step, the step loaded nothing. -/
theorem loadsNothing_of_runsAsMap (jsoncpp : ReadsBack streamWriter charReader)
    {state : Option NetPolicyAbility} {action : Action} (tracks : Tracks streamWriter state)
    (after : RunsAsMap streamWriter (step streamWriter charReader state action)) :
    LoadsNothing state action := by
  rintro this rfl rfl stopped
  obtain ⟨_, table, same, synced⟩ := tracks
  rw [← Option.some.inj same] at synced
  obtain ⟨started, answer, entries, _⟩ := onStart_spec jsoncpp synced stopped
  obtain ⟨reached, runs, isMap⟩ := after
  have reaches : reached = started := by
    have next : (this.onStart charReader true).toOption = some reached := runs
    rw [answer] at next
    exact (Option.some.inj next).symm
  have distinct := isMap.entries
  rw [reaches, entries, List.map_append, List.nodup_append] at distinct
  refine List.eq_nil_iff_forall_not_mem.mpr fun entry saved => ?_
  exact distinct.2.2 _ (List.mem_map_of_mem (List.mem_filter.mp saved).1) _
    (List.mem_map_of_mem saved) rfl

/-- The store of one service object stays a map over a run exactly when no start of the run loads
entries. -/
theorem runsAsMap_run (streamWriter : JsonValue → String) (charReader : String → Option JsonValue)
    (jsoncpp : ReadsBack streamWriter charReader) (files : FileSystem)
    (emptyFile : files.contents NetPolicyFile.policyFileName = none ∨
      files.contents NetPolicyFile.policyFileName = some "")
    (writable : ∀ attempt, files.opens attempt = true) (actions : List Action) :
    Always (step streamWriter charReader) (RunsAsMap streamWriter) (some (make files)) actions ↔
      Guarded (step streamWriter charReader) LoadsNothing (some (make files)) actions := by
  have start : Tracks streamWriter (some (make files)) :=
    ⟨make files, ∅, rfl, rfl, .empty emptyFile, writable⟩
  constructor
  · exact guarded_of_always _ (Tracks streamWriter)
      (fun _ _ tracks guard => tracks_step jsoncpp tracks guard)
      (fun _ _ tracks after => loadsNothing_of_runsAsMap jsoncpp tracks after) start
  · intro guarded
    have tracked : Always (step streamWriter charReader) (Tracks streamWriter)
        (some (make files)) actions :=
      always_of_guarded (step streamWriter charReader) (fun _ _ (kept : True) => kept)
        (fun _ _ _ tracks guard => tracks_step jsoncpp tracks guard) trivial start guarded
    intro before after split
    obtain ⟨this, table, runs, synced⟩ := tracked before after split
    exact ⟨this, runs, StoreIsMap.of_synced synced⟩

theorem runsAsMap_example :
    RunsAsMap JsonText.write (run (step JsonText.write JsonText.read) (some (make noFiles))
      [.onStart, .setUidPolicy ⟨5, .temporaryAllowMetered⟩, .onStop, .onStart]) := by
  have exactly := runsAsMap_run JsonText.write JsonText.read JsonText.readsBack noFiles (Or.inl rfl)
    (fun _ => rfl) [.onStart, .setUidPolicy ⟨5, .temporaryAllowMetered⟩, .onStop, .onStart]
  refine exactly.mpr ?_ _ [] (List.append_nil _).symm
  simp only [guarded_cons]
  refine ⟨?_, ?_, ?_, ?_, guarded_nil _ _ _⟩
  all_goals
    rintro this same - -
    cases same
    rfl

/-- A start doubles the entries of the file: a policy that is taken away stays. -/
theorem start_doubles_entries :
    ∃ this answered, run (step JsonText.write JsonText.read) (some (make noFiles))
        [.onStart, .setUidPolicy ⟨5, .allowAll⟩, .onStop, .onStart] = some this ∧
      this.service.netPolicyFile.netPolicy.uidPolicys = [⟨"5", "32"⟩, ⟨"5", "32"⟩] ∧
      this.service.getUids (lp64 JsonText.write) .allowAll = .ok [5, 5] ∧
      this.service.setUidPolicy (lp64 JsonText.write) 5 .none = .ok answered ∧
      answered.1 = .none ∧
      answered.2.getUidPolicy (lp64 JsonText.write) 5 = .ok .allowAll :=
  ⟨_, _, rfl, rfl, rfl, rfl, rfl, rfl⟩

end NetManager.NetPolicyAbility
