/-
This file follows the policies of a file through a start of the service. The service is
published before the file is loaded, so requests can come first; each of them rewrites the
file from memory, in which nothing is loaded yet. The policies of users that no request
names survive exactly when no request gets to write the file before it is loaded.
-/

import NetManager.Policy.Restart

namespace NetManager

open Library

/-! ### The entries of one user -/

/-- The entries of a user. -/
def entriesOf (uid : UInt32) (uidPolicys : List UidPolicy) : List UidPolicy :=
  uidPolicys.filter fun uidPolicy => uidPolicy.uid = uidText uid

namespace NetPolicyFile

/-- A change of one user does not show through a filter that keeps no entry of the user. -/
theorem filter_changeEntries {keep : UidPolicy → Bool} {uid : UInt32}
    (apart : ∀ uidPolicy : UidPolicy, uidPolicy.uid = uidText uid → keep uidPolicy = false)
    (netUidPolicyOpType : NetUidPolicyOpType) (policy : String) (uidPolicys : List UidPolicy) :
    (changeEntries netUidPolicyOpType (uidText uid) policy uidPolicys).filter keep =
      uidPolicys.filter keep := by
  cases netUidPolicyOpType with
  | add =>
    have missed : [UidPolicy.mk (uidText uid) policy].filter keep = [] :=
      List.filter_cons_of_neg (by rw [apart _ rfl]; decide)
    show (uidPolicys ++ [UidPolicy.mk (uidText uid) policy]).filter keep = _
    rw [List.filter_append, missed, List.append_nil]
  | delete => exact filter_eraseP fun uidPolicy _ hit => apart uidPolicy (of_decide_eq_true hit)
  | update =>
    refine filter_lookmap fun uidPolicy changed looked => ?_
    split_ifs at looked with hit
    rw [← Option.some.inj looked]
    exact ⟨apart uidPolicy hit, apart _ hit⟩

/-- A change of one user leaves the entries of the others alone. -/
theorem entriesOf_changeEntries {uid other : UInt32} (different : other ≠ uid)
    (netUidPolicyOpType : NetUidPolicyOpType) (policy : String) (uidPolicys : List UidPolicy) :
    entriesOf uid (changeEntries netUidPolicyOpType (uidText other) policy uidPolicys) =
      entriesOf uid uidPolicys := by
  refine filter_changeEntries (fun uidPolicy named => decide_eq_false ?_) _ policy uidPolicys
  rw [named]
  exact uidText_injective.ne different

theorem entriesOf_savedEntries (uid : UInt32) (uidPolicys : List UidPolicy) :
    entriesOf uid (savedEntries uidPolicys) = savedEntries (entriesOf uid uidPolicys) := by
  unfold entriesOf savedEntries
  exact List.filter_comm _ _ _

theorem savedEntries_savedEntries (uidPolicys : List UidPolicy) :
    savedEntries (savedEntries uidPolicys) = savedEntries uidPolicys := by
  unfold savedEntries
  rw [List.filter_filter]
  simp only [Bool.and_self]

end NetPolicyFile

/-! ### The policy of a user in a file -/

/-- The entries a file holds. -/
def storedEntries (charReader : String → Option JsonValue) (files : FileSystem) :
    Option (List UidPolicy) := do
  let content ← files.contents NetPolicyFile.policyFileName
  let root ← charReader content
  (NetPolicyFile.readEntries root).toOption

/-- A file has this policy for a user. -/
def FileHas (charReader : String → Option JsonValue) (files : FileSystem) (uid : UInt32)
    (policy : NetUidPolicy) : Prop :=
  ∃ uidPolicys, storedEntries charReader files = some uidPolicys ∧
    (entriesOf uid uidPolicys).head? = some ⟨uidText uid, policyText policy⟩

/-- The entries of a user in a file. -/
def FileShows (platform : Platform) (files : FileSystem) (uid : UInt32)
    (shown : List UidPolicy) : Prop :=
  ∃ uidPolicys, NetPolicyFile.Stores platform files uidPolicys ∧ entriesOf uid uidPolicys = shown

section

variable {platform : Platform} {charReader : String → Option JsonValue} {files : FileSystem}
variable {uid : UInt32} {shown : List UidPolicy}

/-- What was written is stored, without the temporary entries. -/
theorem storedEntries_written (jsoncpp : ReadsBack platform.streamWriter charReader)
    {stored : NetPolicy} (text : files.contents NetPolicyFile.policyFileName =
      some (platform.streamWriter (NetPolicyFile.rootValue stored))) :
    storedEntries charReader files = some (NetPolicyFile.savedEntries stored.uidPolicys) := by
  unfold storedEntries
  rw [text]
  show (charReader _ >>= _) = _
  rw [jsoncpp.written]
  show (NetPolicyFile.readEntries _).toOption = _
  rw [NetPolicyFile.readEntries_rootValue]
  rfl

theorem fileHas_iff (jsoncpp : ReadsBack platform.streamWriter charReader)
    (shows : FileShows platform files uid shown) (policy : NetUidPolicy) :
    FileHas charReader files uid policy ↔
      shown.head? = some ⟨uidText uid, policyText policy⟩ := by
  obtain ⟨uidPolicys, stores, rfl⟩ := shows
  unfold FileHas
  cases stores with
  | empty isEmpty =>
    have nothing : storedEntries charReader files = none := by
      unfold storedEntries
      rcases isEmpty with missing | present
      · rw [missing]
        rfl
      · rw [present]
        show (charReader "" >>= _) = none
        rw [jsoncpp.empty]
        rfl
    rw [nothing]
    constructor
    · rintro ⟨_, some, _⟩
      exact absurd some (by simp)
    · intro head
      exact absurd head (by simp [entriesOf])
  | written stored text =>
    rw [storedEntries_written jsoncpp text]
    constructor
    · rintro ⟨_, same, head⟩
      rw [Option.some.inj same]
      exact head
    · intro head
      exact ⟨_, rfl, head⟩

end

/-! ### Requests that do not name the user -/

/-- Some request gets to write the file, when the attempts to open it start at a number. -/
def someWritten (opens : Nat → Bool) : Nat → List NetPolicyService.PolicyRequest → Bool
  | _, [] => false
  | opened, request :: rest =>
    if NetPolicyTraffic.isPolicyValid request.policy then
      opens opened || someWritten opens (opened + 1) rest
    else someWritten opens opened rest

/-- What memory and file hold for one user. -/
structure Views (platform : Platform) (file : NetPolicyFile) (uid : UInt32)
    (memory shown : List UidPolicy) : Prop where
  memory : entriesOf uid file.netPolicy.uidPolicys = memory
  shows : FileShows platform file.files uid shown

variable {platform : Platform} {charReader : String → Option JsonValue} {uid : UInt32}
variable {memory shown : List UidPolicy}

/-- A write for another user writes what memory holds for the user, unless it fails. -/
theorem Views.writeFileOp {file : NetPolicyFile} (views : Views platform file uid memory shown)
    {other : UInt32} (different : other ≠ uid) (netUidPolicyOpType : NetUidPolicyOpType)
    (policy : NetUidPolicy) :
    Views platform (file.writeFileOp platform netUidPolicyOpType other policy).2 uid memory
      (if file.files.opens file.files.opened then NetPolicyFile.savedEntries memory
      else shown) := by
  have kept : entriesOf uid
      (file.writeFileOp platform netUidPolicyOpType other policy).2.netPolicy.uidPolicys =
        memory := by
    rw [NetPolicyFile.uidPolicys_writeFileOp, NetPolicyFile.entriesOf_changeEntries different,
      views.memory]
  obtain ⟨uidPolicys, stores, held⟩ := views.shows
  refine ⟨kept, _, stores.writeFileOp netUidPolicyOpType other policy, ?_⟩
  split
  · rw [NetPolicyFile.entriesOf_savedEntries, kept]
  · exact held

/-- So does a request for another user, unless its policy is invalid. -/
theorem Views.setUidPolicy {this : NetPolicyService}
    (views : Views platform this.netPolicyFile uid memory shown)
    {request : NetPolicyService.PolicyRequest} (different : request.uid ≠ uid)
    (op : NetUidPolicyOpType) :
    Views platform (this.applied platform op request.uid request.policy).netPolicyFile uid memory
      (if NetPolicyTraffic.isPolicyValid request.policy ∧
          this.netPolicyFile.files.opens this.netPolicyFile.files.opened then
        NetPolicyFile.savedEntries memory else shown) := by
  cases valid : NetPolicyTraffic.isPolicyValid request.policy with
  | false =>
    rw [NetPolicyService.applied_of_invalid valid, if_neg fun both => by cases both.1]
    exact views
  | true =>
    have wrote := views.writeFileOp different op request.policy
    simp only [NetPolicyService.applied, valid, if_true, true_and]
    exact wrote

/-- Requests for other users write the file, if they do, from what memory holds for the user. -/
theorem Views.setUidPolicies (requests : List NetPolicyService.PolicyRequest)
    (others : ∀ request ∈ requests, request.uid ≠ uid) {this last : NetPolicyService}
    (views : Views platform this.netPolicyFile uid memory shown)
    (returned : this.setUidPolicies platform requests = .ok last) :
    Views platform last.netPolicyFile uid memory
      (if someWritten this.netPolicyFile.files.opens this.netPolicyFile.files.opened requests then
        NetPolicyFile.savedEntries memory else shown) := by
  induction requests generalizing this shown with
  | nil =>
    rw [← Except.ok.inj returned]
    exact views
  | cons request rest inductionHypothesis =>
    obtain ⟨first, later⟩ := List.forall_mem_cons.mp others
    unfold NetPolicyService.setUidPolicies at returned
    rw [List.foldlM_cons] at returned
    obtain ⟨next, answer, final⟩ := bind_eq_ok returned
    obtain ⟨answered, reply, same⟩ := bind_eq_ok answer
    obtain ⟨op, _, effect⟩ := NetPolicyService.requestedOp_of_ok reply
    rw [effect] at same
    rw [← Except.ok.inj same] at final
    have after := inductionHypothesis later (views.setUidPolicy first op) final
    rw [NetPolicyService.opens_applied, NetPolicyService.opened_applied] at after
    rw [someWritten]
    cases valid : NetPolicyTraffic.isPolicyValid request.policy with
    | false =>
      simp only [valid, Bool.false_eq_true, false_and, if_false] at after ⊢
      exact after
    | true =>
      simp only [valid, true_and, if_true] at after ⊢
      cases opens : this.netPolicyFile.files.opens this.netPolicyFile.files.opened with
      | true =>
        simp only [opens, if_true, ite_self] at after
        exact after
      | false =>
        simp only [opens, Bool.false_eq_true, if_false] at after
        exact after

/-- Loading the file appends what it holds for the user. -/
theorem Views.initPolicy (jsoncpp : ReadsBack platform.streamWriter charReader)
    {file : NetPolicyFile} (views : Views platform file uid memory shown)
    {loaded : Bool × NetPolicyFile} (answer : file.initPolicy charReader = .ok loaded)
    (done : loaded.1 = true) : Views platform loaded.2 uid (memory ++ shown) shown := by
  obtain ⟨uidPolicys, stores, held⟩ := views.shows
  obtain ⟨after, same, entries, storesAfter, _⟩ := NetPolicyFile.initPolicy_spec jsoncpp stores
  rw [same] at answer
  rw [← Except.ok.inj answer] at done ⊢
  refine ⟨?_, uidPolicys, storesAfter, held⟩
  rw [entries done]
  unfold entriesOf at held ⊢
  rw [List.filter_append, held]
  exact congrArg (· ++ shown) views.memory

/-! ### Starting up -/

namespace NetPolicyService

/-- A start: the service is published, some requests come, the file is loaded, and more requests
come. There is no service when loading fails or an exception is thrown. -/
def startUp (platform : Platform) (charReader : String → Option JsonValue) (files : FileSystem)
    (before after : List PolicyRequest) : Option NetPolicyService := do
  let published := (NetPolicyAbility.make files).service
  let early ← (published.setUidPolicies platform before).toOption
  let loaded ← (early.netPolicyFile.initPolicy charReader).toOption
  if loaded.1 then
    ((⟨loaded.2⟩ : NetPolicyService).setUidPolicies platform after).toOption
  else none

/-- Every user with a policy in the file that no request names still has it, in memory and in the
file. -/
def KeepsPolicies (platform : Platform) (charReader : String → Option JsonValue)
    (files : FileSystem) (requests : List PolicyRequest) (last : NetPolicyService) : Prop :=
  ∀ uid policy, FileHas charReader files uid policy → (∀ request ∈ requests, request.uid ≠ uid) →
    last.getUidPolicy platform uid = .ok policy ∧
      FileHas charReader last.netPolicyFile.files uid policy

/-- What a start makes of the policy of a user no request names. -/
theorem startUp_views (jsoncpp : ReadsBack platform.streamWriter charReader) {files : FileSystem}
    {before after : List PolicyRequest} {last : NetPolicyService}
    (started : startUp platform charReader files before after = some last)
    (others : ∀ request ∈ before ++ after, request.uid ≠ uid)
    (shows : FileShows platform files uid shown)
    (saved : NetPolicyFile.savedEntries shown = shown) :
    Views platform last.netPolicyFile uid
      (if someWritten files.opens files.opened before then [] else shown)
      (if someWritten files.opens files.opened before then [] else shown) := by
  obtain ⟨early, first, rest⟩ := Option.bind_eq_some_iff.mp started
  obtain ⟨loaded, load, final⟩ := Option.bind_eq_some_iff.mp rest
  split_ifs at final with done
  have published :
      Views platform (NetPolicyAbility.make files).service.netPolicyFile uid [] shown :=
    ⟨rfl, shows⟩
  have beforeLoad : Views platform early.netPolicyFile uid []
      (if someWritten files.opens files.opened before then [] else shown) :=
    published.setUidPolicies before
      (fun request member => others request (List.mem_append_left _ member))
      (toOption_eq_some first)
  have kept : NetPolicyFile.savedEntries
      (if someWritten files.opens files.opened before then [] else shown) =
        if someWritten files.opens files.opened before then [] else shown := by
    split
    · rfl
    · exact saved
  have atEnd := Views.setUidPolicies after
    (fun request member => others request (List.mem_append_right _ member))
    (beforeLoad.initPolicy jsoncpp (toOption_eq_some load) done) (toOption_eq_some final)
  rw [List.nil_append, kept, ite_self] at atEnd
  exact atEnd

/-- The first entry of a user is the policy the service reports. -/
theorem getUidPolicy_of_head (wide : 32 ≤ platform.longBits) {this : NetPolicyService}
    {policy : NetUidPolicy} (valid : NetPolicyTraffic.isPolicyValid policy = true)
    (head : (entriesOf uid this.netPolicyFile.netPolicy.uidPolicys).head? =
      some ⟨uidText uid, policyText policy⟩) :
    this.getUidPolicy platform uid = .ok policy := by
  unfold entriesOf at head
  rw [List.head?_filter] at head
  have search : this.netPolicyFile.netPolicy.uidPolicys.find? (fun uidPolicy =>
      uidPolicy.uid = stdToString uid.toNat) = some ⟨uidText uid, policyText policy⟩ := head
  unfold getUidPolicy NetPolicyFile.getUidPolicy
  rw [search]
  show (stol _ (policyText policy) >>= _) = _
  rw [stol_valid wide valid]
  exact congrArg Except.ok (ofLong_toUInt32 policy)

/-- The policies of a file survive a start exactly when no request gets to write the file before it
is loaded, or the requests name every user with a policy in it. -/
theorem startUp_keepsPolicies (platform : Platform) (wide : 32 ≤ platform.longBits)
    (charReader : String → Option JsonValue)
    (jsoncpp : ReadsBack platform.streamWriter charReader) (files : FileSystem)
    (stored : NetPolicy)
    (text : files.contents NetPolicyFile.policyFileName =
      some (platform.streamWriter (NetPolicyFile.rootValue stored)))
    (written : ∀ uidPolicy ∈ stored.uidPolicys, ∃ uid policy,
      NetPolicyTraffic.isPolicyValid policy = true ∧
        uidPolicy = ⟨uidText uid, policyText policy⟩)
    (before after : List PolicyRequest) (last : NetPolicyService)
    (started : startUp platform charReader files before after = some last) :
    KeepsPolicies platform charReader files (before ++ after) last ↔
      (someWritten files.opens files.opened before = false ∨
        ∀ uid policy, FileHas charReader files uid policy →
          ∃ request ∈ before ++ after, request.uid = uid) := by
  have stores : NetPolicyFile.Stores platform files
      (NetPolicyFile.savedEntries stored.uidPolicys) := .written stored text
  have shows (uid : UInt32) : FileShows platform files uid
      (entriesOf uid (NetPolicyFile.savedEntries stored.uidPolicys)) := ⟨_, stores, rfl⟩
  have saved (uid : UInt32) : NetPolicyFile.savedEntries
      (entriesOf uid (NetPolicyFile.savedEntries stored.uidPolicys)) =
        entriesOf uid (NetPolicyFile.savedEntries stored.uidPolicys) := by
    rw [← NetPolicyFile.entriesOf_savedEntries, NetPolicyFile.savedEntries_savedEntries]
  have views (uid : UInt32) (others : ∀ request ∈ before ++ after, request.uid ≠ uid) :=
    startUp_views jsoncpp started others (shows uid) (saved uid)
  cases early : someWritten files.opens files.opened before with
  | false =>
    simp only [early] at views
    refine ⟨fun _ => Or.inl rfl, fun _ uid policy has others => ?_⟩
    have head := (fileHas_iff jsoncpp (shows uid) policy).mp has
    have view := views uid others
    have listed := (List.mem_filter.mp (List.mem_of_mem_head? head)).1
    obtain ⟨other, kept, valid, same⟩ := written _ (List.mem_filter.mp listed).1
    have samePolicy : policy = kept := policyText_injective (congrArg UidPolicy.policy same)
    refine ⟨getUidPolicy_of_head wide (samePolicy ▸ valid) ?_, ?_⟩
    · rw [view.memory]
      exact head
    · exact (fileHas_iff jsoncpp view.shows policy).mpr head
  | true =>
    simp only [early] at views
    refine ⟨fun keeps => Or.inr fun uid policy has => ?_, fun named uid policy has others => ?_⟩
    · by_contra unnamed
      have others : ∀ request ∈ before ++ after, request.uid ≠ uid :=
        fun request member same => unnamed ⟨request, member, same⟩
      have kept := (keeps uid policy has others).2
      exact absurd ((fileHas_iff jsoncpp (views uid others).shows policy).mp kept) (by simp)
    · obtain ⟨request, member, same⟩ := (named.resolve_left (by decide)) uid policy has
      exact absurd same (others request member)

/-- Files with a policy of user 5. -/
def storedFiles : FileSystem where
  contents name :=
    if name = NetPolicyFile.policyFileName then
      some (JsonText.write (NetPolicyFile.rootValue ⟨[⟨"5", "32"⟩], ""⟩))
    else none
  opens _ := true

theorem startUp_keepsPolicies_example :
    ∃ last,
      startUp (lp64 JsonText.write) JsonText.read storedFiles [] [⟨7, .allowAll⟩] = some last ∧
      KeepsPolicies (lp64 JsonText.write) JsonText.read storedFiles [⟨7, .allowAll⟩] last :=
  ⟨_, rfl, (startUp_keepsPolicies (lp64 JsonText.write) (by decide) JsonText.read
    JsonText.readsBack storedFiles ⟨[⟨"5", "32"⟩], ""⟩ rfl
    (fun _ listed => ⟨5, .allowAll, rfl, List.mem_singleton.mp listed⟩) [] [⟨7, .allowAll⟩] _
    rfl).mpr (Or.inl rfl)⟩

/-- A request before the file is loaded loses the policies of the other users. -/
theorem early_request_loses_policy :
    ∃ last,
      startUp (lp64 JsonText.write) JsonText.read storedFiles [⟨7, .allowAll⟩] [] = some last ∧
      FileHas JsonText.read storedFiles 5 .allowAll ∧
      last.getUidPolicy (lp64 JsonText.write) 5 = .ok .none ∧
      storedEntries JsonText.read last.netPolicyFile.files = some [⟨"7", "32"⟩] ∧
      ¬KeepsPolicies (lp64 JsonText.write) JsonText.read storedFiles [⟨7, .allowAll⟩] last := by
  have had : FileHas JsonText.read storedFiles 5 .allowAll := ⟨_, rfl, rfl⟩
  refine ⟨_, rfl, had, rfl, rfl, fun keeps => ?_⟩
  have kept := (keeps 5 .allowAll had (by decide)).1
  exact absurd (Except.ok.inj kept) (by decide)

end NetPolicyService

end NetManager
