/-
This file is about policy files of someone else. A file is loaded without a look at its texts, and
they are parsed much later: the uids in front of every change, the policy of an entry when its user
is asked for. A loaded file is harmless when every uid is read and every policy that can be asked
for is one of the service's own; and every call keeps a harmless store harmless. Any other file
breaks some sequence of calls, because a request for a user nobody has looks at every entry, and
because taking policies away uncovers every entry of a user.
-/

import NetManager.Policy.Entries
import NetManager.Policy.NarrowLong

namespace NetManager

open Library
open NetPolicyAbility (noFiles)

/-! ### Harmless entries -/

/-- All uids are read, and every entry that can be asked for has a valid policy. With a `long` of 32
bits, each user whose number does not fit has to be one an entry stands for, or storing its policy
would do harm. -/
structure Harmless (platform : Platform) (uidPolicys : List UidPolicy) : Prop where
  reads : ∀ uidPolicy ∈ uidPolicys, ∃ uid, readUid platform uidPolicy = .ok uid
  policies : ∀ uidPolicy ∈ uidPolicys, ∀ uid, uidPolicy.uid = uidText uid →
    ∃ policy, readPolicy platform uidPolicy.policy = .ok policy ∧
      NetPolicyTraffic.isPolicyValid policy = true
  users : ∀ uid : UInt32, uid.toNat < 2 ^ (platform.longBits - 1) ∨
    ∃ uidPolicy ∈ uidPolicys, readUid platform uidPolicy = .ok uid

section

variable {platform : Platform} {uidPolicys before after : List UidPolicy} {uid : UInt32}
variable {text : String}

/-- The policy of a user is read, and it is valid. -/
theorem Harmless.policyIn (harmless : Harmless platform uidPolicys) (uid : UInt32) :
    ∃ policy, policyIn platform uidPolicys uid = .ok policy ∧
      NetPolicyTraffic.isPolicyValid policy = true := by
  rcases NetPolicyFile.first_entry_cases uid uidPolicys with
    missed | ⟨before, text, after, rfl, missed⟩
  · exact ⟨.none, policyIn_missed platform missed, by decide⟩
  · rw [policyIn_first platform missed]
    exact harmless.policies ⟨uidText uid, text⟩
      (List.mem_append_right _ List.mem_cons_self) uid rfl

/-- The users of a policy are listed. -/
theorem Harmless.uidsIn (harmless : Harmless platform uidPolicys) (text : String) :
    ∃ uids, uidsIn platform uidPolicys text = .ok uids :=
  exists_mapM fun uidPolicy listed => harmless.reads uidPolicy (List.mem_of_mem_filter listed)

/-- Taking the policy of a user away does no harm: the entry that goes was not needed for a user
whose number does not fit. -/
theorem Harmless.delete (harmless : Harmless platform uidPolicys) (uid : UInt32)
    (policy : String) :
    Harmless platform (NetPolicyFile.changeEntries .delete (uidText uid) policy uidPolicys) := by
  have kept : ∀ uidPolicy ∈ NetPolicyFile.changeEntries .delete (uidText uid) policy uidPolicys,
      uidPolicy ∈ uidPolicys := fun uidPolicy listed => List.mem_of_mem_eraseP listed
  refine ⟨fun uidPolicy listed => harmless.reads uidPolicy (kept uidPolicy listed),
    fun uidPolicy listed => harmless.policies uidPolicy (kept uidPolicy listed), fun user => ?_⟩
  rcases harmless.users user with fits | ⟨uidPolicy, listed, read⟩
  · exact Or.inl fits
  · by_cases named : uidPolicy.uid = uidText uid
    · have same : user = uid := readUid_text named read
      rw [same] at read ⊢
      exact Or.inl ((readUid_iff named).mp read)
    · exact Or.inr ⟨uidPolicy, (List.mem_eraseP_of_neg (by simpa using named)).mpr listed, read⟩

/-- Entries that differ in the policy of one of them, which is valid. -/
theorem Harmless.withPolicy (wide : 32 ≤ platform.longBits) {policy : NetUidPolicy}
    (valid : NetPolicyTraffic.isPolicyValid policy = true)
    (harmless : Harmless platform (before ++ ⟨uidText uid, text⟩ :: after)) :
    Harmless platform (before ++ ⟨uidText uid, policyText policy⟩ :: after) := by
  have forall_entries {holds : UidPolicy → Prop} (here : holds ⟨uidText uid, policyText policy⟩)
      (elsewhere : ∀ uidPolicy ∈ before ++ ⟨uidText uid, text⟩ :: after, holds uidPolicy) :
      ∀ uidPolicy ∈ before ++ ⟨uidText uid, policyText policy⟩ :: after, holds uidPolicy := by
    simp only [List.forall_mem_append, List.forall_mem_cons] at elsewhere ⊢
    exact ⟨elsewhere.1, here, elsewhere.2.2⟩
  refine ⟨forall_entries ?_ harmless.reads, forall_entries ?_ harmless.policies, fun user => ?_⟩
  · exact harmless.reads ⟨uidText uid, text⟩ (List.mem_append_right _ List.mem_cons_self)
  · exact fun _ _ => ⟨policy, readPolicy_valid wide valid, valid⟩
  · rcases harmless.users user with fits | ⟨uidPolicy, listed, read⟩
    · exact Or.inl fits
    · refine Or.inr ?_
      simp only [List.mem_append, List.mem_cons] at listed
      rcases listed with earlier | rfl | later
      · exact ⟨uidPolicy, List.mem_append_left _ earlier, read⟩
      · exact ⟨_, List.mem_append_right _ List.mem_cons_self, read⟩
      · exact ⟨uidPolicy, List.mem_append_right _ (List.mem_cons_of_mem _ later), read⟩

theorem Harmless.update (wide : 32 ≤ platform.longBits) {policy : NetUidPolicy}
    (valid : NetPolicyTraffic.isPolicyValid policy = true)
    (harmless : Harmless platform uidPolicys) (uid : UInt32) :
    Harmless platform
      (NetPolicyFile.changeEntries .update (uidText uid) (policyText policy) uidPolicys) := by
  rcases NetPolicyFile.first_entry_cases uid uidPolicys with
    missed | ⟨before, text, after, rfl, missed⟩
  · rw [NetPolicyFile.changeEntries_missed (by decide) missed]
    exact harmless
  · rw [NetPolicyFile.changeEntries_update rfl missed]
    exact harmless.withPolicy wide valid

/-- A user no entry stands for has a number that fits, so an entry for the user does no harm. -/
theorem Harmless.add (wide : 32 ≤ platform.longBits) {policy : NetUidPolicy}
    (valid : NetPolicyTraffic.isPolicyValid policy = true)
    (harmless : Harmless platform uidPolicys)
    (missing : ∀ uidPolicy ∈ uidPolicys, readUid platform uidPolicy ≠ .ok uid) :
    Harmless platform (uidPolicys ++ [⟨uidText uid, policyText policy⟩]) := by
  have fits : uid.toNat < 2 ^ (platform.longBits - 1) := by
    refine (harmless.users uid).resolve_right ?_
    rintro ⟨uidPolicy, listed, read⟩
    exact missing uidPolicy listed read
  refine ⟨?_, ?_, fun user => ?_⟩
  · refine List.forall_mem_append.mpr ⟨harmless.reads, List.forall_mem_singleton.mpr ?_⟩
    exact ⟨uid, (readUid_iff rfl).mpr fits⟩
  · refine List.forall_mem_append.mpr ⟨harmless.policies, List.forall_mem_singleton.mpr ?_⟩
    exact fun _ _ => ⟨policy, readPolicy_valid wide valid, valid⟩
  · rcases harmless.users user with small | ⟨uidPolicy, listed, read⟩
    · exact Or.inl small
    · exact Or.inr ⟨uidPolicy, List.mem_append_left _ listed, read⟩

end

/-! ### Loaded files -/

/-- What the service relies on in jsoncpp when it loads a file: an empty text is not JSON, and the
elements of an array are counted in 32 bits. -/
structure CountsElements (charReader : String → Option JsonValue) : Prop where
  empty : charReader "" = none
  counts : ∀ content root uidPolicys, charReader content = some root →
    NetPolicyFile.readEntries root = .ok uidPolicys → uidPolicys.length < 2 ^ 32

/-- The entries a process finds in a file: none when there is no file, or no JSON in it. -/
def fileEntries (charReader : String → Option JsonValue) (files : FileSystem) : List UidPolicy :=
  (storedEntries charReader files).getD []

namespace NetPolicyFile

variable {charReader : String → Option JsonValue} {files : FileSystem}

theorem fileEntries_missing (missing : files.contents policyFileName = none) :
    fileEntries charReader files = [] := by
  rw [fileEntries, storedEntries, missing]
  rfl

theorem fileEntries_present {content : String}
    (present : files.contents policyFileName = some content) :
    fileEntries charReader files =
      (charReader content >>= fun root => (readEntries root).toOption).getD [] := by
  rw [fileEntries, storedEntries, present]
  rfl

theorem uidPolicys_of_json2Obj {content : String} (nonempty : content ≠ "") {netPolicy : NetPolicy}
    {parsed : Bool × NetPolicy} (read : json2Obj charReader content netPolicy = .ok parsed) :
    parsed.2.uidPolicys = netPolicy.uidPolicys ++
      (charReader content >>= fun root => (readEntries root).toOption).getD [] := by
  unfold json2Obj at read
  rw [if_neg nonempty] at read
  cases accepted : charReader content with
  | none =>
    rw [accepted] at read
    rw [← Except.ok.inj read]
    exact (List.append_nil _).symm
  | some root =>
    rw [accepted] at read
    obtain ⟨_, _, later⟩ := bind_eq_ok read
    obtain ⟨_, _, listed⟩ := bind_eq_ok later
    obtain ⟨uidPolicys, entries, result⟩ := bind_eq_ok listed
    rw [← Except.ok.inj result]
    show _ = _ ++ ((readEntries root).toOption).getD []
    rw [entries]
    rfl

/-- A file that is loaded appends its entries. A text that is not JSON has none. -/
theorem uidPolicys_of_initPolicy (jsoncpp : charReader "" = none) {file loaded : NetPolicyFile}
    (started : file.initPolicy charReader = .ok (true, loaded)) :
    loaded.netPolicy.uidPolicys =
      file.netPolicy.uidPolicys ++ fileEntries charReader file.files := by
  cases present : file.files.contents policyFileName with
  | none =>
    rw [initPolicy_missing present] at started
    rw [← (Prod.mk.inj (Except.ok.inj started)).2, fileEntries_missing present]
    exact (List.append_nil _).symm
  | some content =>
    rw [initPolicy_present present] at started
    rw [fileEntries_present present]
    split_ifs at started with opens empty
    · rw [← (Prod.mk.inj (Except.ok.inj started)).2, empty, jsoncpp]
      exact (List.append_nil _).symm
    · obtain ⟨parsed, read, same⟩ := bind_eq_ok started
      rw [← (Prod.mk.inj (Except.ok.inj same)).2]
      exact uidPolicys_of_json2Obj empty read
    · cases (Prod.mk.inj (Except.ok.inj started)).1

/-- Loading a file, or making it when it is missing, leaves its entries in it. -/
theorem fileEntries_of_initPolicy (jsoncpp : charReader "" = none) {file : NetPolicyFile}
    {started : Bool × NetPolicyFile} (returned : file.initPolicy charReader = .ok started) :
    fileEntries charReader started.2.files = fileEntries charReader file.files := by
  cases present : file.files.contents policyFileName with
  | none =>
    rw [initPolicy_missing present] at returned
    rw [← Except.ok.inj returned, fileEntries_missing present]
    obtain ⟨_, _, contents⟩ := write_spec file.files policyFileName ""
    rw [present] at contents
    split at contents
    · rw [fileEntries_present contents, jsoncpp]
      rfl
    · exact fileEntries_missing contents
  | some content =>
    rw [initPolicy_present present] at returned
    split_ifs at returned
    · rw [← Except.ok.inj returned]
      rfl
    · obtain ⟨parsed, _, same⟩ := bind_eq_ok returned
      rw [← Except.ok.inj same]
      rfl
    · rw [← Except.ok.inj returned]
      rfl

/-- The entries of a file are elements of an array. -/
theorem length_fileEntries (jsoncpp : CountsElements charReader) (files : FileSystem) :
    (fileEntries charReader files).length < 2 ^ 32 := by
  unfold fileEntries
  cases stored : storedEntries charReader files with
  | none => exact Nat.two_pow_pos 32
  | some uidPolicys =>
    obtain ⟨content, present, later⟩ := Option.bind_eq_some_iff.mp stored
    obtain ⟨root, accepted, read⟩ := Option.bind_eq_some_iff.mp later
    exact jsoncpp.counts content root uidPolicys accepted (toOption_eq_some read)

end NetPolicyFile

namespace NetPolicyService

/-! ### Calls on a harmless store -/

/-- The entries the service holds. -/
def entries (this : NetPolicyService) : List UidPolicy := this.netPolicyFile.netPolicy.uidPolicys

variable {platform : Platform} {this : NetPolicyService}

/-- A request returns and does no harm. -/
theorem harmless_setUidPolicy (wide : 32 ≤ platform.longBits)
    (harmless : Harmless platform this.entries) (uid : UInt32) (policy : NetUidPolicy) :
    ∃ code next, this.setUidPolicy platform uid policy = .ok (code, next) ∧
      Harmless platform next.entries := by
  obtain ⟨exist, found, stands⟩ := NetPolicyFile.isUidPolicyExist_of_reads harmless.reads uid
  obtain ⟨op, asked, after⟩ : ∃ op, this.requestedOp platform uid policy = .ok op ∧
      (NetPolicyTraffic.isPolicyValid policy = true → Harmless platform
        (NetPolicyFile.changeEntries op (uidText uid) (policyText policy) this.entries)) := by
    unfold requestedOp
    by_cases removes : policy = .none
    · rw [if_pos removes]
      exact ⟨.delete, rfl, fun _ => harmless.delete uid _⟩
    · rw [if_neg removes, found]
      cases exist with
      | true => exact ⟨.update, rfl, fun valid => harmless.update wide valid uid⟩
      | false =>
        refine ⟨.add, rfl, fun valid => harmless.add wide valid fun uidPolicy listed read => ?_⟩
        exact absurd (stands.mpr ⟨uidPolicy, listed, read⟩) Bool.false_ne_true
  refine ⟨this.answerOf policy, this.applied platform op uid policy, ?_, ?_⟩
  · rw [setUidPolicy_eq, asked]
    rfl
  · cases valid : NetPolicyTraffic.isPolicyValid policy with
    | true =>
      rw [entries, uidPolicys_applied op valid]
      exact after valid
    | false =>
      simp only [entries, applied, valid, Bool.false_eq_true, if_false]
      exact harmless

/-- No call on a harmless store throws, and the store stays harmless. -/
theorem harmless_call (wide : 32 ≤ platform.longBits)
    (harmless : Harmless platform this.entries) (next : Call) :
    ∃ after, this.call platform next = .ok after ∧ Harmless platform after.entries := by
  have reads (uid : UInt32) : ∃ policy, this.getUidPolicy platform uid = .ok policy := by
    obtain ⟨policy, read, _⟩ := harmless.policyIn uid
    exact ⟨policy, (NetPolicyFile.getUidPolicy_eq_policyIn _ uid).trans read⟩
  exact exists_call (fun state => Harmless platform state.entries) harmless
    (fun request => harmless_setUidPolicy wide harmless request.uid request.policy)
    (fun policy => harmless.uidsIn (policyText policy)) reads next

theorem harmless_callAll (wide : 32 ≤ platform.longBits)
    (harmless : Harmless platform this.entries) (calls : List Call) :
    ∃ last, this.callAll platform calls = .ok last ∧ Harmless platform last.entries := by
  induction calls generalizing this with
  | nil => exact ⟨this, rfl, harmless⟩
  | cons next rest inductionHypothesis =>
    obtain ⟨after, returned, kept⟩ := harmless_call wide harmless next
    obtain ⟨last, reached, final⟩ := inductionHypothesis kept
    refine ⟨last, ?_, final⟩
    rw [callAll, List.foldlM_cons, returned]
    exact reached

/-! ### Stores that cannot be broken -/

/-- No sequence of calls throws, and every policy that is read after it is valid. -/
def CannotBreak (platform : Platform) (this : NetPolicyService) : Prop :=
  ∀ calls, ∃ last, this.callAll platform calls = .ok last ∧
    ∀ uid policy, last.getUidPolicy platform uid = .ok policy →
      NetPolicyTraffic.isPolicyValid policy = true

theorem cannotBreak_of_harmless (wide : 32 ≤ platform.longBits)
    (harmless : Harmless platform this.entries) : this.CannotBreak platform := by
  intro calls
  obtain ⟨last, reached, kept⟩ := harmless_callAll wide harmless calls
  refine ⟨last, reached, fun uid policy read => ?_⟩
  obtain ⟨found, answer, valid⟩ := kept.policyIn uid
  have same : last.netPolicyFile.getUidPolicy platform uid = _ :=
    NetPolicyFile.getUidPolicy_eq_policyIn last.netPolicyFile uid
  rw [show policyIn _ last.netPolicyFile.netPolicy.uidPolicys _ = _ from answer] at same
  rw [Except.ok.inj (read.symm.trans same)]
  exact valid

/-- What cannot be broken answers every call, and cannot be broken after it. -/
theorem CannotBreak.call (cannotBreak : this.CannotBreak platform) (next : Call) :
    ∃ after, this.call platform next = .ok after ∧ after.CannotBreak platform := by
  have first (rest : List Call) : this.callAll platform (next :: rest) =
      this.call platform next >>= fun after => after.callAll platform rest := List.foldlM_cons
  obtain ⟨last, reached, _⟩ := cannotBreak [next]
  rw [first] at reached
  obtain ⟨after, returned, _⟩ := bind_eq_ok reached
  refine ⟨after, returned, fun rest => ?_⟩
  obtain ⟨last, reached, valid⟩ := cannotBreak (next :: rest)
  rw [first, returned] at reached
  exact ⟨last, reached, valid⟩

/-- It reads the policy of every user, and the policy is valid. -/
theorem CannotBreak.policyIn (cannotBreak : this.CannotBreak platform) (uid : UInt32) :
    ∃ policy, policyIn platform this.entries uid = .ok policy ∧
      NetPolicyTraffic.isPolicyValid policy = true := by
  obtain ⟨after, returned, _⟩ := cannotBreak.call (.getUidPolicy uid)
  obtain ⟨policy, read, _⟩ := bind_eq_ok returned
  obtain ⟨last, same, valid⟩ := cannotBreak []
  rw [← Except.ok.inj same] at valid
  refine ⟨policy, ?_, valid uid policy read⟩
  rw [entries, ← NetPolicyFile.getUidPolicy_eq_policyIn]
  exact read

/-- It searches for every user without an exception. -/
theorem CannotBreak.search (cannotBreak : this.CannotBreak platform) (uid : UInt32) :
    ∃ exist, this.netPolicyFile.isUidPolicyExist platform uid = .ok exist ∧
      ∃ after : NetPolicyService, after.CannotBreak platform ∧
        after.entries = NetPolicyFile.changeEntries (if exist then .update else .add)
          (uidText uid) (policyText .allowAll) this.entries := by
  obtain ⟨after, returned, kept⟩ := cannotBreak.call (.setUidPolicy ⟨uid, .allowAll⟩)
  obtain ⟨answered, answer, same⟩ := bind_eq_ok returned
  obtain ⟨op, effect, asked⟩ := setUidPolicy_inv answer
  rw [← Except.ok.inj same, effect] at kept
  rcases asked with ⟨removes, _⟩ | ⟨_, exist, looked, rfl⟩
  · have sets : NetUidPolicy.allowAll ≠ .none := by decide
    exact absurd removes sets
  · have valid : NetPolicyTraffic.isPolicyValid .allowAll = true := by decide
    exact ⟨exist, looked, _, kept, uidPolicys_applied _ valid⟩

/-- Taking a policy away never throws. -/
theorem CannotBreak.delete (cannotBreak : this.CannotBreak platform) (uid : UInt32) :
    ∃ after : NetPolicyService, after.CannotBreak platform ∧
      after.entries =
        NetPolicyFile.changeEntries .delete (uidText uid) (policyText .none) this.entries := by
  obtain ⟨after, returned, kept⟩ := cannotBreak.call (.setUidPolicy ⟨uid, .none⟩)
  obtain ⟨answered, answer, same⟩ := bind_eq_ok returned
  obtain ⟨op, effect, asked⟩ := setUidPolicy_inv answer
  rw [← Except.ok.inj same, effect] at kept
  rcases asked with ⟨_, rfl⟩ | ⟨sets, _⟩
  · exact ⟨_, kept, uidPolicys_applied _ isPolicyValid_none⟩
  · exact absurd rfl sets

/-- A list of fewer than `2 ^ 32` entries leaves out a user. -/
theorem exists_unread_uid (platform : Platform) {uidPolicys : List UidPolicy}
    (few : uidPolicys.length < 2 ^ 32) :
    ∃ uid, ∀ uidPolicy ∈ uidPolicys, readUid platform uidPolicy ≠ .ok uid := by
  let numbers := uidPolicys.filterMap fun uidPolicy =>
    (readUid platform uidPolicy).toOption.map UInt32.toNat
  have short : numbers.length < 2 ^ 32 := lt_of_le_of_lt (List.length_filterMap_le _ _) few
  obtain ⟨number, small, missing⟩ := exists_notMem_of_length_lt short
  refine ⟨UInt32.ofNat number, fun uidPolicy listed read => missing ?_⟩
  refine List.mem_filterMap.mpr ⟨uidPolicy, listed, ?_⟩
  rw [read]
  exact congrArg some (UInt32.toNat_ofNat_of_lt' small)

/-- The search for a user nobody has reads every entry. -/
theorem CannotBreak.reads (cannotBreak : this.CannotBreak platform)
    (few : this.entries.length < 2 ^ 32) :
    ∀ uidPolicy ∈ this.entries, ∃ uid, readUid platform uidPolicy = .ok uid := by
  obtain ⟨uid, unread⟩ := exists_unread_uid platform few
  obtain ⟨exist, looked, _⟩ := cannotBreak.search uid
  cases exist with
  | true =>
    obtain ⟨uidPolicy, listed, read⟩ := NetPolicyFile.readUid_of_found looked
    exact absurd read (unread uidPolicy listed)
  | false =>
    intro uidPolicy listed
    obtain ⟨other, read, _⟩ := NetPolicyFile.readUid_of_not_found looked uidPolicy listed
    exact ⟨other, read⟩

/-- A second search for a user reads the entry the first one made. -/
theorem CannotBreak.users (cannotBreak : this.CannotBreak platform) (uid : UInt32) :
    uid.toNat < 2 ^ (platform.longBits - 1) ∨
      ∃ uidPolicy ∈ this.entries, readUid platform uidPolicy = .ok uid := by
  obtain ⟨exist, looked, after, kept, edited⟩ := cannotBreak.search uid
  cases exist with
  | true => exact Or.inr (NetPolicyFile.readUid_of_found looked)
  | false =>
    have made : ⟨uidText uid, policyText .allowAll⟩ ∈ after.entries := by
      rw [edited]
      exact List.mem_append_right _ List.mem_cons_self
    obtain ⟨again, found, _⟩ := kept.search uid
    cases again with
    | true =>
      obtain ⟨uidPolicy, listed, read⟩ := NetPolicyFile.readUid_of_found found
      rw [show after.netPolicyFile.netPolicy.uidPolicys = _ from edited] at listed
      rcases List.mem_append.mp listed with old | new
      · exact Or.inr ⟨uidPolicy, old, read⟩
      · rw [List.mem_singleton.mp new] at read
        exact Or.inl ((readUid_iff rfl).mp read)
    | false =>
      obtain ⟨other, read, different⟩ := NetPolicyFile.readUid_of_not_found found _ made
      exact absurd (readUid_text rfl read) different

/-- Taking the policies of a user away one by one uncovers each entry of the user. -/
theorem CannotBreak.policies (cannotBreak : this.CannotBreak platform) {uid : UInt32}
    {uidPolicy : UidPolicy} (listed : uidPolicy ∈ entriesOf uid this.entries) :
    ∃ policy, readPolicy platform uidPolicy.policy = .ok policy ∧
      NetPolicyTraffic.isPolicyValid policy = true := by
  generalize shown : entriesOf uid this.entries = entries at listed
  induction entries generalizing this with
  | nil => cases listed
  | cons first rest inductionHypothesis =>
    rcases List.mem_cons.mp listed with rfl | later
    · obtain ⟨policy, read, valid⟩ := cannotBreak.policyIn uid
      rw [NetManager.policyIn, shown] at read
      exact ⟨policy, read, valid⟩
    · obtain ⟨after, kept, edited⟩ := cannotBreak.delete uid
      refine inductionHypothesis kept ?_ later
      rw [edited, entriesOf_delete, shown]
      rfl

theorem harmless_of_cannotBreak (few : this.entries.length < 2 ^ 32)
    (cannotBreak : this.CannotBreak platform) : Harmless platform this.entries := by
  refine ⟨cannotBreak.reads few, fun uidPolicy listed uid named => ?_, cannotBreak.users⟩
  exact cannotBreak.policies (List.mem_filter.mpr ⟨listed, decide_eq_true named⟩)

/-! ### Processes that load a file -/

/-- A process that loads a file cannot be broken by it exactly when the entries in the file are
harmless. -/
theorem cannotBreak_iff (platform : Platform) (wide : 32 ≤ platform.longBits)
    (charReader : String → Option JsonValue) (jsoncpp : CountsElements charReader)
    (files : FileSystem) (loaded : NetPolicyFile)
    (started : ({ files := files } : NetPolicyFile).initPolicy charReader = .ok (true, loaded)) :
    (⟨loaded⟩ : NetPolicyService).CannotBreak platform ↔
      Harmless platform (fileEntries charReader files) := by
  have entries : (⟨loaded⟩ : NetPolicyService).entries = fileEntries charReader files :=
    NetPolicyFile.uidPolicys_of_initPolicy jsoncpp.empty started
  have few := NetPolicyFile.length_fileEntries jsoncpp files
  rw [← entries] at few ⊢
  exact ⟨harmless_of_cannotBreak few, cannotBreak_of_harmless wide⟩

/-- Files with one entry in the policy file. -/
def filesWith (uidPolicy : UidPolicy) : FileSystem where
  contents name :=
    if name = NetPolicyFile.policyFileName then
      some (JsonText.write (NetPolicyFile.rootValue ⟨[uidPolicy], "1.0"⟩))
    else none
  opens _ := true

/-- A reader of files with one entry and no others. -/
def readsOne (uidPolicy : UidPolicy) (content : String) : Option JsonValue :=
  if content = JsonText.write (NetPolicyFile.rootValue ⟨[uidPolicy], "1.0"⟩) then
    JsonText.read content
  else none

theorem readsOne_countsElements (uidPolicy : UidPolicy) :
    CountsElements (readsOne uidPolicy) where
  empty := if_neg (JsonText.readsBack.nonempty _).symm
  counts content root uidPolicys accepted read := by
    unfold readsOne at accepted
    split_ifs at accepted with same
    rw [same, JsonText.readsBack.written] at accepted
    rw [← Option.some.inj accepted, NetPolicyFile.readEntries_rootValue] at read
    rw [← Except.ok.inj read]
    refine lt_of_le_of_lt (List.length_filter_le _ _) ?_
    exact Nat.one_lt_two_pow (by decide)

theorem cannotBreak_example :
    ∃ loaded, ({ files := filesWith ⟨"5", "32"⟩ } : NetPolicyFile).initPolicy
        (readsOne ⟨"5", "32"⟩) = .ok (true, loaded) ∧
      (⟨loaded⟩ : NetPolicyService).CannotBreak (lp64 JsonText.write) := by
  refine ⟨_, rfl, (cannotBreak_iff (lp64 JsonText.write) (by decide) (readsOne ⟨"5", "32"⟩)
    (readsOne_countsElements _) (filesWith ⟨"5", "32"⟩) _ rfl).mpr ?_⟩
  have stored : fileEntries (readsOne ⟨"5", "32"⟩) (filesWith ⟨"5", "32"⟩) = [⟨"5", "32"⟩] := rfl
  rw [stored]
  refine ⟨List.forall_mem_singleton.mpr ⟨5, rfl⟩, List.forall_mem_singleton.mpr fun _ _ => ?_,
    fun uid => Or.inl (lt_trans uid.toNat_lt (by decide))⟩
  exact ⟨.allowAll, rfl, by decide⟩

/-- One entry without a number breaks every request for another user. -/
theorem entry_breaks_requests :
    ∃ loaded, ({ files := filesWith ⟨"abc", "32"⟩ } : NetPolicyFile).initPolicy
        (readsOne ⟨"abc", "32"⟩) = .ok (true, loaded) ∧
      (⟨loaded⟩ : NetPolicyService).setUidPolicy (lp64 JsonText.write) 5 .allowAll =
        .error .invalidArgument ∧
      ¬ (⟨loaded⟩ : NetPolicyService).CannotBreak (lp64 JsonText.write) := by
  refine ⟨_, rfl, rfl, fun cannotBreak => ?_⟩
  obtain ⟨last, reached, _⟩ := cannotBreak [.setUidPolicy ⟨5, .allowAll⟩]
  cases reached

end NetPolicyService

end NetManager
