/-
This file says what a restart of the process does to the policies. The new service has the
policies of the old one without the temporary ones; a user whose last policy was temporary
has none, whatever was set before it.
-/

import NetManager.Policy.JsonText

namespace NetManager

open Library

/-! ### Policies that are saved -/

/-- The policies that are written to the file. -/
def persistent (policy : NetUidPolicy) : Bool := policy ≠ .temporaryAllowMetered

theorem filter_persistent {policy : Option NetUidPolicy}
    (lasting : policy ≠ some .temporaryAllowMetered) : policy.filter persistent = policy := by
  cases policy with
  | none => rfl
  | some policy =>
    exact Option.filter_some_pos (decide_eq_true fun same => lasting (congrArg some same))

/-- The last policy other than a temporary one that was set for a user. -/
def lastPersistent (requests : List NetPolicyService.PolicyRequest) (uid : UInt32) :
    NetUidPolicy :=
  (run PolicyMap.step PolicyMap.empty (requests.filter fun request => persistent request.policy)
    uid).getD .none

namespace PolicyMap

/-- A user has a temporary policy, or the policy the other requests gave. -/
theorem run_persistent (requests : List NetPolicyService.PolicyRequest) (uid : UInt32)
    {map saved : PolicyMap} (start : map uid = some .temporaryAllowMetered ∨ map uid = saved uid) :
    run step map requests uid = some .temporaryAllowMetered ∨
      run step map requests uid =
        run step saved (requests.filter fun request => persistent request.policy) uid := by
  induction requests generalizing map saved with
  | nil => exact start
  | cons request rest inductionHypothesis =>
    rw [run_cons, List.filter_cons]
    by_cases saves : persistent request.policy = true
    · rw [if_pos saves, run_cons]
      refine inductionHypothesis ?_
      rw [step_apply, step_apply]
      split_ifs
      · exact Or.inr rfl
      · exact Or.inr rfl
      · exact start
      · exact start
    · have temporary : request.policy = .temporaryAllowMetered := by
        unfold persistent at saves
        simpa using saves
      rw [if_neg saves]
      refine inductionHypothesis ?_
      rw [step_apply, temporary]
      by_cases same : uid = request.uid
      · rw [if_pos same, if_neg (by decide), if_pos (by decide)]
        exact Or.inl rfl
      · rw [if_neg same]
        exact start

/-- Only valid policies are kept. -/
theorem run_valid (requests : List NetPolicyService.PolicyRequest) :
    ∀ uid policy, run step empty requests uid = some policy →
      NetPolicyTraffic.isPolicyValid policy = true := by
  refine run_invariant step (fun map => ∀ uid policy, map uid = some policy →
    NetPolicyTraffic.isPolicyValid policy = true) ?_ ?_ requests
  · intro map request kept uid policy has
    rw [step_apply] at has
    split_ifs at has with same removes valid
    · rw [← Option.some.inj has]
      exact valid
    · exact kept uid policy has
    · exact kept uid policy has
  · intro uid policy has
    exact absurd has (by simp [empty])

end PolicyMap

/-! ### What a service with saved entries answers -/

/-- A `long` has at least 32 bits, and valid policies are small. -/
theorem stol_valid {longBits : Nat} (wide : 32 ≤ longBits) {policy : NetUidPolicy}
    (valid : NetPolicyTraffic.isPolicyValid policy = true) :
    stol longBits (policyText policy) = .ok (policy.toUInt32.toNat : Int) := by
  have small : policy.toUInt32.toNat < 2 ^ 31 := by
    simp only [NetPolicyTraffic.isPolicyValid, Bool.or_eq_true, decide_eq_true_eq] at valid
    rcases valid with ((((rfl | rfl) | rfl) | rfl) | rfl) | rfl
    all_goals decide
  have power : 2 ^ 31 ≤ 2 ^ (longBits - 1) := Nat.pow_le_pow_right (by decide) (by omega)
  exact stol_stdToString (lt_of_lt_of_le small power)

namespace NetPolicyFile

variable {platform : Platform} {file : NetPolicyFile} {table : Table UInt32 NetUidPolicy}

theorem getUidPolicy_of_valid (wide : 32 ≤ platform.longBits)
    (represents : file.Represents table) {uid : UInt32}
    (valid : ∀ policy, table.read uid = some policy →
      NetPolicyTraffic.isPolicyValid policy = true) :
    file.getUidPolicy platform uid = .ok ((table.read uid).getD .none) := by
  unfold getUidPolicy
  rw [represents.find?_entries uid]
  cases has : table.read uid with
  | none => rfl
  | some policy =>
    show (stol _ (policyText policy) >>= _) = _
    rw [stol_valid wide (valid policy has)]
    exact congrArg Except.ok (ofLong_toUInt32 policy)

/-- The saved entries are those of the persistent policies. -/
theorem savedEntries_encode (table : Table UInt32 NetUidPolicy) :
    savedEntries (policyCoding.encode table) = policyCoding.encode (table.keep persistent) := by
  refine policyCoding.filter_encode table fun uid policy => ?_
  exact decide_eq_decide.mpr policyText_injective.ne_iff

/-- Users with a policy that is saved are found among the saved entries. -/
theorem getUids_saved {saved : NetPolicyFile} {policy : NetUidPolicy}
    (lasting : persistent policy = true)
    (entries : saved.netPolicy.uidPolicys = savedEntries file.netPolicy.uidPolicys) :
    saved.getUids platform policy = file.getUids platform policy := by
  have different : policyText policy ≠ policyText .temporaryAllowMetered :=
    policyText_injective.ne (of_decide_eq_true lasting)
  have same : (savedEntries file.netPolicy.uidPolicys).filter (fun uidPolicy =>
      uidPolicy.policy = stdToString policy.toUInt32.toNat) =
        file.netPolicy.uidPolicys.filter fun uidPolicy =>
          uidPolicy.policy = stdToString policy.toUInt32.toNat := by
    unfold savedEntries
    rw [List.filter_filter]
    refine List.filter_congr fun uidPolicy _ => ?_
    by_cases hit : uidPolicy.policy = policyText policy
    · have kept : uidPolicy.policy ≠ policyText .temporaryAllowMetered := by
        rw [hit]
        exact different
      exact Bool.and_eq_left_iff_imp.mpr fun _ => decide_eq_true kept
    · exact Bool.and_eq_left_iff_imp.mpr fun matched => absurd (of_decide_eq_true matched) hit
  unfold getUids
  rw [entries, same]

end NetPolicyFile

/-! ### Processes -/

namespace NetPolicyAbility

variable {platform : Platform} {charReader : String → Option JsonValue} {files : FileSystem}
variable {table : Table UInt32 NetUidPolicy}

/-- A new service loads the persistent policies of a table. -/
theorem init_spec (jsoncpp : ReadsBack platform.streamWriter charReader)
    (stores : NetPolicyFile.Stores platform files (policyCoding.encode (table.keep persistent)))
    (writable : ∀ attempt, files.opens attempt = true) :
    ∃ loaded, (make files).init charReader true = .ok (true, loaded) ∧
      loaded.service.Synced platform (table.keep persistent) := by
  have stored : NetPolicyFile.Stores platform (make files).service.netPolicyFile.files
      (policyCoding.encode (table.keep persistent)) := stores
  obtain ⟨loaded, answer, entries, after, opens⟩ := NetPolicyFile.initPolicy_spec jsoncpp stored
  have opened : (make files).service.netPolicyFile.files.opens
      (make files).service.netPolicyFile.files.opened = true := writable _
  have represents : loaded.Represents (table.keep persistent) := entries opened
  refine ⟨{ (make files) with registerToService := true, service := ⟨loaded⟩ }, ?_,
    represents, ?_, ?_⟩
  · rw [opened] at answer
    unfold init
    rw [answer]
    rfl
  · rw [represents.entries, NetPolicyFile.savedEntries_encode, Table.keep_keep]
    exact after
  · rw [opens]
    exact writable

/-- A process that starts on the persistent policies of a table serves the table its requests make
of them. -/
theorem session_synced (jsoncpp : ReadsBack platform.streamWriter charReader)
    (stores : NetPolicyFile.Stores platform files (policyCoding.encode (table.keep persistent)))
    (writable : ∀ attempt, files.opens attempt = true)
    (requests : List NetPolicyService.PolicyRequest) {last : NetPolicyService}
    (served : session platform charReader files requests = some last) :
    last.Synced platform (run NetPolicyService.tableStep (table.keep persistent) requests) := by
  obtain ⟨loaded, answer, synced⟩ := init_spec jsoncpp stores writable
  unfold session at served
  rw [answer] at served
  refine synced.setUidPolicies requests ?_
  exact toOption_eq_some served

/-- Without requests it does not fail. -/
theorem session_nil (jsoncpp : ReadsBack platform.streamWriter charReader)
    (stores : NetPolicyFile.Stores platform files (policyCoding.encode (table.keep persistent)))
    (writable : ∀ attempt, files.opens attempt = true) :
    ∃ last, session platform charReader files [] = some last := by
  obtain ⟨loaded, answer, _⟩ := init_spec jsoncpp stores writable
  unfold session
  rw [answer]
  exact ⟨loaded.service, rfl⟩

/-- With a `long` of 64 bits no process that starts on an empty file fails. -/
theorem session_completes (jsoncpp : ReadsBack platform.streamWriter charReader)
    (emptyFile : files.contents NetPolicyFile.policyFileName = none ∨
      files.contents NetPolicyFile.policyFileName = some "")
    (writable : ∀ attempt, files.opens attempt = true)
    (requests : List NetPolicyService.PolicyRequest) (sixtyFour : platform.longBits = 64) :
    ∃ last, session platform charReader files requests = some last := by
  have nothing : NetPolicyFile.Stores platform files
      (policyCoding.encode ((∅ : Table UInt32 NetUidPolicy).keep persistent)) := .empty emptyFile
  obtain ⟨loaded, answer, synced⟩ := init_spec jsoncpp nothing writable
  obtain ⟨last, reached, _⟩ := NetPolicyService.setUidPolicies_represents platform.streamWriter
    requests synced.represents
  have sameLong : lp64 platform.streamWriter = platform := by
    rw [lp64, ← sixtyFour]
  rw [sameLong] at reached
  refine ⟨last, ?_⟩
  unfold session
  rw [answer]
  show (loaded.service.setUidPolicies platform requests).toOption = _
  rw [reached]
  rfl

/-- After a process that started on an empty file, the next one loads the saved entries, so it
answers as the policy map without its temporary policies. -/
theorem session_restart (wide : 32 ≤ platform.longBits)
    (jsoncpp : ReadsBack platform.streamWriter charReader)
    (emptyFile : files.contents NetPolicyFile.policyFileName = none ∨
      files.contents NetPolicyFile.policyFileName = some "")
    (writable : ∀ attempt, files.opens attempt = true)
    (requests : List NetPolicyService.PolicyRequest) {last : NetPolicyService}
    (served : session platform charReader files requests = some last) :
    ∃ restarted, session platform charReader last.netPolicyFile.files [] = some restarted ∧
      restarted.netPolicyFile.netPolicy.uidPolicys =
        NetPolicyFile.savedEntries last.netPolicyFile.netPolicy.uidPolicys ∧
      ∀ uid, last.getUidPolicy platform uid =
          .ok ((run PolicyMap.step PolicyMap.empty requests uid).getD .none) ∧
        restarted.getUidPolicy platform uid =
          .ok (((run PolicyMap.step PolicyMap.empty requests uid).filter persistent).getD
            .none) := by
  have nothing : NetPolicyFile.Stores platform files
      (policyCoding.encode ((∅ : Table UInt32 NetUidPolicy).keep persistent)) := .empty emptyFile
  have synced := session_synced jsoncpp nothing writable requests served
  have map := run_reading NetPolicyService.tableStep Table.read PolicyMap.step
    NetPolicyService.read_tableStep ((∅ : Table UInt32 NetUidPolicy).keep persistent) requests
  generalize run NetPolicyService.tableStep _ requests = table at synced map
  have saved : NetPolicyFile.Stores platform last.netPolicyFile.files
      (policyCoding.encode (table.keep persistent)) := by
    have stores := synced.stores
    rw [synced.represents.entries, NetPolicyFile.savedEntries_encode] at stores
    exact stores
  obtain ⟨restarted, again⟩ := session_nil jsoncpp saved synced.opens
  have loaded := session_synced jsoncpp saved synced.opens [] again
  have valid (uid : UInt32) (policy : NetUidPolicy) (has : table.read uid = some policy) :
      NetPolicyTraffic.isPolicyValid policy = true := by
    rw [map] at has
    exact PolicyMap.run_valid requests uid policy has
  refine ⟨restarted, again, ?_, fun uid => ⟨?_, ?_⟩⟩
  · rw [loaded.represents.entries, synced.represents.entries, NetPolicyFile.savedEntries_encode]
    rfl
  · have answer := NetPolicyFile.getUidPolicy_of_valid wide synced.represents (valid uid)
    rw [map] at answer
    exact answer
  · have kept (policy : NetUidPolicy) (has : (table.keep persistent).read uid = some policy) :
        NetPolicyTraffic.isPolicyValid policy = true := by
      rw [Table.read_keep] at has
      exact valid uid policy (Option.filter_eq_some_iff.mp has).1
    have answer := NetPolicyFile.getUidPolicy_of_valid wide loaded.represents kept
    rw [run_nil, Table.read_keep, map] at answer
    exact answer

/-- Files among which there is no policy file yet. -/
def noFiles : FileSystem where
  contents _ := none
  opens _ := true

/-! ### Restarts -/

/-- Policies survive a restart, and temporary ones do not. From an empty file, whatever requests
are made, the next process answers as the last one did about every user whose policy was not
temporary, and lists the same users in the same order for every policy but the temporary
one. -/
theorem session_survives (platform : Platform) (wide : 32 ≤ platform.longBits)
    (charReader : String → Option JsonValue)
    (jsoncpp : ReadsBack platform.streamWriter charReader) (files : FileSystem)
    (emptyFile : files.contents NetPolicyFile.policyFileName = none ∨
      files.contents NetPolicyFile.policyFileName = some "")
    (writable : ∀ attempt, files.opens attempt = true)
    (requests : List NetPolicyService.PolicyRequest) :
    (platform.longBits = 64 → ∃ last, session platform charReader files requests = some last) ∧
    ∀ last, session platform charReader files requests = some last →
      ∃ restarted, session platform charReader last.netPolicyFile.files [] = some restarted ∧
        (∀ uid, last.getUidPolicy platform uid ≠ .ok .temporaryAllowMetered →
          restarted.getUidPolicy platform uid = last.getUidPolicy platform uid) ∧
        (∀ uid, restarted.getUidPolicy platform uid ≠ .ok .temporaryAllowMetered) ∧
        ∀ policy, policy ≠ .temporaryAllowMetered →
          restarted.getUids platform policy = last.getUids platform policy := by
  constructor
  · exact session_completes jsoncpp emptyFile writable requests
  · intro last served
    obtain ⟨restarted, again, entries, answers⟩ :=
      session_restart wide jsoncpp emptyFile writable requests served
    refine ⟨restarted, again, fun uid lasting => ?_, fun uid => ?_, fun policy lasting => ?_⟩
    · obtain ⟨before, after⟩ := answers uid
      rw [before] at lasting
      have saved : run PolicyMap.step PolicyMap.empty requests uid ≠
          some .temporaryAllowMetered := by
        intro temporary
        exact lasting (by rw [temporary, Option.getD_some])
      rw [before, after, filter_persistent saved]
    · rw [(answers uid).2]
      cases kept : (run PolicyMap.step PolicyMap.empty requests uid).filter persistent with
      | none => exact fun same => absurd (Except.ok.inj same) (by decide)
      | some policy =>
        have lasting := of_decide_eq_true (Option.filter_eq_some_iff.mp kept).2
        exact fun same => lasting (Except.ok.inj same)
    · exact NetPolicyFile.getUids_saved (decide_eq_true lasting) entries

theorem session_survives_example :
    ∃ last restarted, session (lp64 JsonText.write) JsonText.read noFiles
        [⟨5, .allowAll⟩, ⟨7, .temporaryAllowMetered⟩, ⟨3, .allowAll⟩] = some last ∧
      session (lp64 JsonText.write) JsonText.read last.netPolicyFile.files [] = some restarted ∧
      restarted.getUids (lp64 JsonText.write) .allowAll =
        last.getUids (lp64 JsonText.write) .allowAll ∧
      restarted.getUidPolicy (lp64 JsonText.write) 7 ≠ .ok .temporaryAllowMetered := by
  obtain ⟨completes, survives⟩ := session_survives (lp64 JsonText.write) (by decide) JsonText.read
    JsonText.readsBack noFiles (Or.inl rfl) (fun _ => rfl)
    [⟨5, .allowAll⟩, ⟨7, .temporaryAllowMetered⟩, ⟨3, .allowAll⟩]
  obtain ⟨last, served⟩ := completes rfl
  obtain ⟨restarted, again, _, temporary, uids⟩ := survives last served
  exact ⟨last, restarted, served, again, uids .allowAll (by decide), temporary 7⟩

/-- The policies a restart should bring back: the last one other than a temporary one that was set
for the user, and with it a denied access. -/
structure BringsBack (platform : Platform) (restarted : NetPolicyService) (policy : NetUidPolicy)
    (uid : UInt32) : Prop where
  loaded : restarted.getUidPolicy platform uid = .ok policy
  denied : NetPolicyService.allows policy = false →
    (∀ metered, restarted.isUidNetAccess platform uid metered = .ok false) ∧
      ∀ ifaceName, restarted.isUidNetAccessIface platform uid ifaceName = .ok false

theorem BringsBack.of_loaded {platform : Platform} {restarted : NetPolicyService}
    {policy : NetUidPolicy} {uid : UInt32}
    (loaded : restarted.getUidPolicy platform uid = .ok policy) :
    BringsBack platform restarted policy uid := by
  refine ⟨loaded, fun denied => ⟨fun metered => ?_, fun ifaceName => ?_⟩⟩
  · show restarted.getUidPolicy platform uid >>= _ = _
    rw [loaded]
    exact congrArg Except.ok denied
  · show restarted.getUidPolicy platform uid >>= _ = _
    rw [loaded]
    exact congrArg Except.ok denied

/-- A restart brings the last persistent policy of a user back exactly when the user did not end
with a temporary policy in place of it. -/
theorem session_bringsBack (platform : Platform) (wide : 32 ≤ platform.longBits)
    (charReader : String → Option JsonValue)
    (jsoncpp : ReadsBack platform.streamWriter charReader) (files : FileSystem)
    (emptyFile : files.contents NetPolicyFile.policyFileName = none ∨
      files.contents NetPolicyFile.policyFileName = some "")
    (writable : ∀ attempt, files.opens attempt = true)
    (requests : List NetPolicyService.PolicyRequest) :
    (platform.longBits = 64 → ∃ last, session platform charReader files requests = some last) ∧
    ∀ last, session platform charReader files requests = some last →
      ∃ restarted, session platform charReader last.netPolicyFile.files [] = some restarted ∧
        ∀ uid, BringsBack platform restarted (lastPersistent requests uid) uid ↔
          (run PolicyMap.step PolicyMap.empty requests uid = some .temporaryAllowMetered →
            lastPersistent requests uid = .none) := by
  constructor
  · exact session_completes jsoncpp emptyFile writable requests
  · intro last served
    obtain ⟨restarted, again, _, answers⟩ :=
      session_restart wide jsoncpp emptyFile writable requests served
    refine ⟨restarted, again, fun uid => ?_⟩
    have loaded := (answers uid).2
    by_cases temporary : run PolicyMap.step PolicyMap.empty requests uid =
        some .temporaryAllowMetered
    · rw [temporary] at loaded
      constructor
      · intro brought _
        exact (Except.ok.inj (loaded.symm.trans brought.loaded)).symm
      · intro condition
        rw [condition temporary]
        exact BringsBack.of_loaded loaded
    · have agrees := (PolicyMap.run_persistent requests uid (Or.inr rfl)).resolve_left temporary
      rw [filter_persistent temporary, agrees] at loaded
      exact ⟨fun _ same => absurd same temporary, fun _ => BringsBack.of_loaded loaded⟩

theorem session_bringsBack_example :
    ∃ last restarted, session (lp64 JsonText.write) JsonText.read noFiles
        [⟨5, .temporaryAllowMetered⟩, ⟨5, .rejectAll⟩] = some last ∧
      session (lp64 JsonText.write) JsonText.read last.netPolicyFile.files [] = some restarted ∧
      BringsBack (lp64 JsonText.write) restarted .rejectAll 5 := by
  obtain ⟨completes, bringsBack⟩ := session_bringsBack (lp64 JsonText.write) (by decide)
    JsonText.read JsonText.readsBack noFiles (Or.inl rfl) (fun _ => rfl)
    [⟨5, .temporaryAllowMetered⟩, ⟨5, .rejectAll⟩]
  obtain ⟨last, served⟩ := completes rfl
  obtain ⟨restarted, again, exactly⟩ := bringsBack last served
  exact ⟨last, restarted, served, again,
    (exactly 5).mpr fun temporary => absurd temporary (by decide)⟩

/-- A temporary policy in place of a denial loses the denial. -/
theorem temporary_loses_denial :
    ∃ last restarted, session (lp64 JsonText.write) JsonText.read noFiles
        [⟨5, .rejectAll⟩, ⟨5, .temporaryAllowMetered⟩] = some last ∧
      session (lp64 JsonText.write) JsonText.read last.netPolicyFile.files [] = some restarted ∧
      lastPersistent [⟨5, .rejectAll⟩, ⟨5, .temporaryAllowMetered⟩] 5 = .rejectAll ∧
      NetPolicyService.allows .rejectAll = false ∧
      restarted.getUidPolicy (lp64 JsonText.write) 5 = .ok .none ∧
      restarted.isUidNetAccess (lp64 JsonText.write) 5 true = .ok true := by
  have completes : ∃ last, session (lp64 JsonText.write) JsonText.read noFiles
      [⟨5, .rejectAll⟩, ⟨5, .temporaryAllowMetered⟩] = some last :=
    session_completes JsonText.readsBack (Or.inl rfl) (fun _ => rfl) _ rfl
  obtain ⟨last, served⟩ := completes
  obtain ⟨restarted, again, _, answers⟩ := session_restart (by decide) JsonText.readsBack
    (Or.inl rfl) (fun _ => rfl) _ served
  have loaded := (answers 5).2
  refine ⟨last, restarted, served, again, by decide, by decide, loaded, ?_⟩
  show restarted.getUidPolicy _ 5 >>= _ = _
  rw [loaded]
  decide

end NetPolicyAbility

end NetManager
