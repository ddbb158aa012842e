/-
This file compares the two ways in which the policy service finds the entry of a user. The search in
front of a change parses the uid of each entry and cuts the number to 32 bits; every other loop
compares its text with the text of the user. A file can hold the number of a user in another text,
or a number that is cut to it, and then the two ways disagree.
-/

import NetManager.Policy.Entries

namespace NetManager

open Library
open NetPolicyAbility (noFiles)

/-! ### Listing a user once -/

section

variable {platform : Platform} {uid : UInt32} {before after : List UidPolicy} {text : String}

/-- Listing throws when the number of a listed user does not fit in a `long`. -/
theorem fits_of_listed {uids : List UInt32}
    (listed : uidsIn platform (before ++ ⟨uidText uid, text⟩ :: after) text = .ok uids) :
    uid.toNat < 2 ^ (platform.longBits - 1) := by
  have member : (⟨uidText uid, text⟩ : UidPolicy) ∈
      (before ++ ⟨uidText uid, text⟩ :: after).filter fun uidPolicy => uidPolicy.policy = text :=
    List.mem_filter.mpr ⟨List.mem_append_right _ List.mem_cons_self, decide_eq_true rfl⟩
  obtain ⟨found, read⟩ := forall_of_mapM listed _ member
  rw [readUid_text rfl read] at read
  exact (readUid_iff rfl).mp read

/-- A user with an entry is listed once exactly when no other entry of the list stands for the
user. -/
theorem count_listed {uids : List UInt32}
    (listed : uidsIn platform (before ++ ⟨uidText uid, text⟩ :: after) text = .ok uids) :
    uids.count uid = 1 ↔ ∀ uidPolicy ∈ before ++ after, uidPolicy.policy = text →
      readUid platform uidPolicy ≠ .ok uid := by
  have here : readUid platform ⟨uidText uid, text⟩ = .ok uid :=
    (readUid_iff rfl).mpr (fits_of_listed listed)
  have none : (((before ++ after).filter fun uidPolicy => uidPolicy.policy = text).countP
      fun uidPolicy => readUid platform uidPolicy = .ok uid) = 0 ↔
        ∀ uidPolicy ∈ before ++ after, uidPolicy.policy = text →
          readUid platform uidPolicy ≠ .ok uid := by
    simp only [List.countP_eq_zero, List.mem_filter, decide_eq_true_eq, and_imp, ne_eq]
  rw [← none, count_of_mapM listed]
  simp only [List.filter_append, List.countP_append, decide_true, List.filter_cons_of_pos,
    List.countP_cons, here, if_true]
  omega

/-- It is listed when all entries are read. -/
theorem exists_listed (reads : ∀ uidPolicy ∈ before ++ after,
      ∃ found, readUid platform uidPolicy = .ok found)
    (fits : uid.toNat < 2 ^ (platform.longBits - 1)) :
    ∃ uids, uidsIn platform (before ++ ⟨uidText uid, text⟩ :: after) text = .ok uids := by
  refine exists_mapM fun uidPolicy listed => ?_
  have member := List.mem_of_mem_filter listed
  rw [List.mem_append, List.mem_cons] at member
  rcases member with first | rfl | last
  · exact reads uidPolicy (List.mem_append_left _ first)
  · exact ⟨uid, (readUid_iff rfl).mpr fits⟩
  · exact reads uidPolicy (List.mem_append_right _ last)

end

namespace NetPolicyService

/-! ### Agreement -/

/-- Some entry has the text of the user, which is what `GetUidPolicy` and the loops that update and
delete entries look for. -/
def HasText (uidPolicys : List UidPolicy) (uid : UInt32) : Prop :=
  ∃ uidPolicy ∈ uidPolicys, uidPolicy.uid = uidText uid

/-- All look-ups of a user agree: the search finds the user exactly when there is an entry with its
text, and what an accepted request sets is what is read, and listed once. -/
structure LookupsAgree (platform : Platform) (netPolicy : NetPolicy) (uid : UInt32) : Prop where
  found : ∀ files, ∃ exist,
    NetPolicyFile.isUidPolicyExist platform ⟨netPolicy, files⟩ uid = .ok exist ∧
      (exist = true ↔ HasText netPolicy.uidPolicys uid)
  set : ∀ files policy next,
    NetPolicyService.setUidPolicy platform ⟨⟨netPolicy, files⟩⟩ uid policy = .ok (.none, next) →
      next.getUidPolicy platform uid = .ok policy ∧
        (policy ≠ .none → ∃ uids, next.getUids platform policy = .ok uids ∧ uids.count uid = 1)

/-- The number of the user fits in a `long`; and no entry stands for the user, or one has the text
of the user and the others that stand for the user have no policy a request can set. -/
def StandsAlone (platform : Platform) (uidPolicys : List UidPolicy) (uid : UInt32) : Prop :=
  uid.toNat < 2 ^ (platform.longBits - 1) ∧
    ((∀ uidPolicy ∈ uidPolicys, readUid platform uidPolicy ≠ .ok uid) ∨
      HasText uidPolicys uid ∧
        ∀ uidPolicy ∈ uidPolicys, uidPolicy.uid ≠ uidText uid →
          readUid platform uidPolicy = .ok uid → ∀ policy,
            NetPolicyTraffic.isPolicyValid policy = true → policy ≠ .none →
              uidPolicy.policy ≠ policyText policy)

/-- The numbers of the entries are read, and no two entries have the same. -/
structure Numbered (platform : Platform) (uidPolicys : List UidPolicy) : Prop where
  reads : ∀ uidPolicy ∈ uidPolicys, ∃ number, stol platform.longBits uidPolicy.uid = .ok number
  distinct : uidPolicys.Pairwise fun first second =>
    stol platform.longBits first.uid ≠ stol platform.longBits second.uid

section

variable {platform : Platform} {netPolicy : NetPolicy} {uid : UInt32}
variable {before after uidPolicys : List UidPolicy} {text : String}

theorem Numbered.readUid (numbered : Numbered platform uidPolicys) :
    ∀ uidPolicy ∈ uidPolicys, ∃ found, readUid platform uidPolicy = .ok found := by
  intro uidPolicy listed
  obtain ⟨number, parsed⟩ := numbered.reads uidPolicy listed
  refine ⟨UInt32.ofInt number, ?_⟩
  rw [NetManager.readUid, parsed]
  rfl

/-- The text of a user is there once. -/
theorem Numbered.missed_after
    (numbered : Numbered platform (before ++ ⟨uidText uid, text⟩ :: after)) :
    ∀ uidPolicy ∈ after, uidPolicy.uid ≠ uidText uid := by
  intro uidPolicy listed same
  have later := (List.pairwise_append.mp numbered.distinct).2.1
  refine (List.pairwise_cons.mp later).1 uidPolicy listed ?_
  rw [same]

theorem Numbered.fits (numbered : Numbered platform uidPolicys) (hasText : HasText uidPolicys uid) :
    uid.toNat < 2 ^ (platform.longBits - 1) := by
  obtain ⟨uidPolicy, listed, named⟩ := hasText
  obtain ⟨found, read⟩ := numbered.readUid uidPolicy listed
  rw [readUid_text named read] at read
  exact (readUid_iff named).mp read

/-- An entry with the text of a user is found by the search. -/
theorem Numbered.found_of_hasText (numbered : Numbered platform uidPolicys)
    (hasText : HasText uidPolicys uid) :
    ∃ uidPolicy ∈ uidPolicys, NetManager.readUid platform uidPolicy = .ok uid := by
  have fits := numbered.fits hasText
  obtain ⟨uidPolicy, listed, named⟩ := hasText
  exact ⟨uidPolicy, listed, (readUid_iff named).mpr fits⟩

theorem mem_split {uidPolicy first : UidPolicy} (listed : uidPolicy ∈ before ++ after) :
    uidPolicy ∈ before ++ first :: after := by
  rcases List.mem_append.mp listed with earlier | later
  · exact List.mem_append_left _ earlier
  · exact List.mem_append_right _ (List.mem_cons_of_mem _ later)

/-- The split at the entry with the text of a user. -/
theorem HasText.split (hasText : HasText uidPolicys uid) :
    ∃ before text after, uidPolicys = before ++ ⟨uidText uid, text⟩ :: after ∧
      ∀ uidPolicy ∈ before, uidPolicy.uid ≠ uidText uid := by
  obtain ⟨uidPolicy, listed, named⟩ := hasText
  exact (NetPolicyFile.first_entry_cases uid uidPolicys).resolve_left
    fun missed => missed uidPolicy listed named

/-! ### Requests -/

/-- What an accepted request leaves in the entries. -/
theorem uidPolicys_of_accepted {files : FileSystem} {policy : NetUidPolicy}
    {next : NetPolicyService}
    (returned : NetPolicyService.setUidPolicy platform ⟨⟨netPolicy, files⟩⟩ uid policy =
      .ok (.none, next)) :
    NetPolicyTraffic.isPolicyValid policy = true ∧ ∃ op,
      next.netPolicyFile.netPolicy.uidPolicys = NetPolicyFile.changeEntries op (uidText uid)
        (policyText policy) netPolicy.uidPolicys ∧
      (policy = .none ∧ op = .delete ∨ policy ≠ .none ∧ ∃ exist,
        NetPolicyFile.isUidPolicyExist platform ⟨netPolicy, files⟩ uid = .ok exist ∧
          op = if exist then .update else .add) := by
  obtain ⟨op, same, asked⟩ := setUidPolicy_inv returned
  obtain ⟨accepted, rfl⟩ := Prod.mk.inj same
  have valid := isPolicyValid_of_accepted accepted.symm
  refine ⟨valid, op, ?_, asked⟩
  simp only [applied, if_pos valid, NetPolicyFile.uidPolicys_writeFileOp]

/-- A valid request is accepted when the file opens. -/
theorem accepted_of_found {files : FileSystem} (opens : files.opens files.opened = true)
    {policy : NetUidPolicy} (valid : NetPolicyTraffic.isPolicyValid policy = true)
    (sets : policy ≠ .none) {exist : Bool}
    (found : NetPolicyFile.isUidPolicyExist platform ⟨netPolicy, files⟩ uid = .ok exist) :
    ∃ next, NetPolicyService.setUidPolicy platform ⟨⟨netPolicy, files⟩⟩ uid policy =
        .ok (.none, next) ∧
      next.netPolicyFile.netPolicy.uidPolicys =
        NetPolicyFile.changeEntries (if exist then .update else .add) (uidText uid)
          (policyText policy) netPolicy.uidPolicys := by
  have accepted : answerOf ⟨⟨netPolicy, files⟩⟩ policy = .none := by
    simp only [answerOf, valid, opens]
    rfl
  refine ⟨applied platform ⟨⟨netPolicy, files⟩⟩ (if exist then .update else .add) uid policy,
    ?_, ?_⟩
  · rw [setUidPolicy_eq, requestedOp, if_neg sets, found, accepted]
    rfl
  · simp only [applied, if_pos valid, NetPolicyFile.uidPolicys_writeFileOp]

/-- What a service answers about a user whose first entry has the policy. -/
theorem answers_of_first (wide : 32 ≤ platform.longBits) {this : NetPolicyService}
    {policy : NetUidPolicy} (valid : NetPolicyTraffic.isPolicyValid policy = true)
    (entries : this.netPolicyFile.netPolicy.uidPolicys =
      before ++ ⟨uidText uid, policyText policy⟩ :: after)
    (missed : ∀ uidPolicy ∈ before, uidPolicy.uid ≠ uidText uid)
    (reads : ∀ uidPolicy ∈ before ++ after, ∃ found, readUid platform uidPolicy = .ok found)
    (fits : uid.toNat < 2 ^ (platform.longBits - 1)) :
    this.getUidPolicy platform uid = .ok policy ∧
      ∃ uids, this.getUids platform policy = .ok uids ∧
        (uids.count uid = 1 ↔ ∀ uidPolicy ∈ before ++ after,
          uidPolicy.policy = policyText policy → readUid platform uidPolicy ≠ .ok uid) := by
  constructor
  · have read : this.netPolicyFile.getUidPolicy platform uid = _ :=
      NetPolicyFile.getUidPolicy_eq_policyIn this.netPolicyFile uid
    rw [entries, policyIn_first platform missed, readPolicy_valid wide valid] at read
    exact read
  · obtain ⟨uids, listed⟩ : ∃ uids, uidsIn platform
        (before ++ ⟨uidText uid, policyText policy⟩ :: after) (policyText policy) = .ok uids :=
      exists_listed reads fits
    refine ⟨uids, ?_, count_listed listed⟩
    have all : this.netPolicyFile.getUids platform policy = _ :=
      NetPolicyFile.getUids_eq_uidsIn this.netPolicyFile policy
    rw [entries, listed] at all
    exact all

/-- After the removal of the only entry with its text, a user has no policy. -/
theorem policyIn_delete (numbered : Numbered platform uidPolicys) (policy : String) :
    policyIn platform (NetPolicyFile.changeEntries .delete (uidText uid) policy uidPolicys) uid =
      .ok .none := by
  rcases NetPolicyFile.first_entry_cases uid uidPolicys with
    missed | ⟨before, text, after, rfl, missed⟩
  · rw [NetPolicyFile.changeEntries_missed (by decide) missed]
    exact policyIn_missed platform missed
  · rw [NetPolicyFile.changeEntries_delete rfl missed, policyIn_append platform missed]
    exact policyIn_missed platform numbered.missed_after

/-! ### When the look-ups agree -/

/-- An accepted request that sets the policy of a user who is looked up alike. -/
theorem set_of_standsAlone (wide : 32 ≤ platform.longBits)
    (numbered : Numbered platform netPolicy.uidPolicys)
    (alone : StandsAlone platform netPolicy.uidPolicys uid) {files : FileSystem}
    {policy : NetUidPolicy} {next : NetPolicyService}
    (returned : NetPolicyService.setUidPolicy platform ⟨⟨netPolicy, files⟩⟩ uid policy =
      .ok (.none, next)) :
    next.getUidPolicy platform uid = .ok policy ∧
      (policy ≠ .none → ∃ uids, next.getUids platform policy = .ok uids ∧
        uids.count uid = 1) := by
  obtain ⟨fits, others⟩ := alone
  obtain ⟨valid, op, entries, asked⟩ := uidPolicys_of_accepted returned
  rcases asked with ⟨rfl, rfl⟩ | ⟨sets, exist, found, rfl⟩
  · refine ⟨?_, fun sets => absurd rfl sets⟩
    have read : next.netPolicyFile.getUidPolicy platform uid = _ :=
      NetPolicyFile.getUidPolicy_eq_policyIn next.netPolicyFile uid
    rw [entries, policyIn_delete numbered] at read
    exact read
  · cases exist with
    | false =>
      have apart := NetPolicyFile.readUid_of_not_found found
      have missed := NetPolicyFile.missed_of_not_found found
      have reads : ∀ uidPolicy ∈ netPolicy.uidPolicys ++ [],
          ∃ found, readUid platform uidPolicy = .ok found := by
        rw [List.append_nil]
        exact numbered.readUid
      obtain ⟨read, uids, listed, once⟩ := answers_of_first wide valid entries missed reads fits
      refine ⟨read, fun _ => ⟨uids, listed, once.mpr fun uidPolicy member _ same => ?_⟩⟩
      rw [List.append_nil] at member
      obtain ⟨other, read, different⟩ := apart uidPolicy member
      exact different (Except.ok.inj (read.symm.trans same))
    | true =>
      obtain ⟨uidPolicy, member, stands⟩ := NetPolicyFile.readUid_of_found found
      obtain ⟨hasText, unset⟩ := others.resolve_left fun none => none uidPolicy member stands
      obtain ⟨before, text, after, split, missed⟩ := hasText.split
      rw [split] at entries numbered
      have updated := entries.trans (NetPolicyFile.changeEntries_update rfl missed)
      have reads : ∀ uidPolicy ∈ before ++ after,
          ∃ found, readUid platform uidPolicy = .ok found :=
        fun uidPolicy listed => numbered.readUid uidPolicy (mem_split listed)
      obtain ⟨read, uids, listed, once⟩ := answers_of_first wide valid updated missed reads fits
      refine ⟨read, fun _ => ⟨uids, listed, once.mpr fun uidPolicy member has same => ?_⟩⟩
      have unnamed : uidPolicy.uid ≠ uidText uid := by
        rcases List.mem_append.mp member with first | last
        · exact missed uidPolicy first
        · exact numbered.missed_after uidPolicy last
      refine unset uidPolicy ?_ unnamed same policy valid sets has
      rw [split]
      exact mem_split member

/-- When the look-ups agree, the number of the user fits: a policy that is set is listed. -/
theorem fits_of_lookupsAgree (numbered : Numbered platform netPolicy.uidPolicys)
    (agree : LookupsAgree platform netPolicy uid) :
    uid.toNat < 2 ^ (platform.longBits - 1) := by
  by_cases hasText : HasText netPolicy.uidPolicys uid
  · exact numbered.fits hasText
  · obtain ⟨exist, found, iff⟩ := agree.found noFiles
    obtain rfl : exist = false := Bool.eq_false_iff.mpr fun same => hasText (iff.mp same)
    have valid : NetPolicyTraffic.isPolicyValid .allowAll = true := by decide
    obtain ⟨next, returned, entries⟩ := accepted_of_found rfl valid (by decide) found
    obtain ⟨uids, listed, _⟩ := (agree.set noFiles .allowAll next returned).2 (by decide)
    have all : next.netPolicyFile.getUids platform .allowAll = _ :=
      NetPolicyFile.getUids_eq_uidsIn next.netPolicyFile .allowAll
    rw [entries] at all
    exact fits_of_listed (all.symm.trans listed)

/-- And no other entry is listed for the user. -/
theorem unset_of_lookupsAgree (wide : 32 ≤ platform.longBits)
    (numbered : Numbered platform netPolicy.uidPolicys)
    (agree : LookupsAgree platform netPolicy uid) (hasText : HasText netPolicy.uidPolicys uid)
    {uidPolicy : UidPolicy} (listed : uidPolicy ∈ netPolicy.uidPolicys)
    (unnamed : uidPolicy.uid ≠ uidText uid) (stands : readUid platform uidPolicy = .ok uid)
    {policy : NetUidPolicy} (valid : NetPolicyTraffic.isPolicyValid policy = true)
    (sets : policy ≠ .none) : uidPolicy.policy ≠ policyText policy := by
  intro has
  obtain ⟨exist, found, iff⟩ := agree.found noFiles
  obtain rfl : exist = true := iff.mpr hasText
  obtain ⟨next, returned, entries⟩ := accepted_of_found rfl valid sets found
  obtain ⟨uids, all, once⟩ := (agree.set noFiles policy next returned).2 sets
  obtain ⟨before, text, after, split, missed⟩ := hasText.split
  have fits := numbered.fits hasText
  rw [split] at entries numbered listed
  have updated := entries.trans (NetPolicyFile.changeEntries_update rfl missed)
  have reads : ∀ uidPolicy ∈ before ++ after, ∃ found, readUid platform uidPolicy = .ok found :=
    fun uidPolicy listed => numbered.readUid uidPolicy (mem_split listed)
  obtain ⟨_, others, same, exactly⟩ := answers_of_first wide valid updated missed reads fits
  rw [Except.ok.inj (same.symm.trans all)] at exactly
  refine exactly.mp once uidPolicy ?_ has stands
  rcases List.mem_append.mp listed with earlier | here
  · exact List.mem_append_left _ earlier
  · rcases List.mem_cons.mp here with rfl | later
    · exact absurd rfl unnamed
    · exact List.mem_append_right _ later

/-- The look-ups of a user agree exactly when the user stands alone. -/
theorem lookupsAgree_iff (platform : Platform) (wide : 32 ≤ platform.longBits)
    (netPolicy : NetPolicy) (numbered : Numbered platform netPolicy.uidPolicys) (uid : UInt32) :
    LookupsAgree platform netPolicy uid ↔ StandsAlone platform netPolicy.uidPolicys uid := by
  constructor
  · intro agree
    refine ⟨fits_of_lookupsAgree numbered agree, ?_⟩
    by_cases hasText : HasText netPolicy.uidPolicys uid
    · exact Or.inr ⟨hasText, fun uidPolicy listed unnamed stands policy valid sets =>
        unset_of_lookupsAgree wide numbered agree hasText listed unnamed stands valid sets⟩
    · obtain ⟨exist, found, iff⟩ := agree.found noFiles
      obtain rfl : exist = false := Bool.eq_false_iff.mpr fun same => hasText (iff.mp same)
      refine Or.inl fun uidPolicy listed stands => ?_
      obtain ⟨other, read, different⟩ := NetPolicyFile.readUid_of_not_found found uidPolicy listed
      exact different (Except.ok.inj (read.symm.trans stands))
  · intro alone
    refine ⟨fun files => ?_, fun files policy next returned =>
      set_of_standsAlone wide numbered alone returned⟩
    have reads : ∀ uidPolicy ∈ (⟨netPolicy, files⟩ : NetPolicyFile).netPolicy.uidPolicys,
        ∃ found, readUid platform uidPolicy = .ok found := numbered.readUid
    obtain ⟨exist, found, iff⟩ := NetPolicyFile.isUidPolicyExist_of_reads reads uid
    refine ⟨exist, found, iff.trans ⟨?_, numbered.found_of_hasText⟩⟩
    rintro ⟨uidPolicy, listed, stands⟩
    exact (alone.2.resolve_left fun none => none uidPolicy listed stands).1

end

/-! ### Files of someone else -/

theorem lookupsAgree_example :
    LookupsAgree (lp64 JsonText.write) ⟨[⟨"5", "32"⟩, ⟨"07", "64"⟩], "1.0"⟩ 5 := by
  have numbered : Numbered (lp64 JsonText.write) [⟨"5", "32"⟩, ⟨"07", "64"⟩] := by
    refine ⟨?_, by decide⟩
    simp only [List.forall_mem_cons, List.not_mem_nil, false_implies, implies_true, and_true]
    exact ⟨⟨5, by decide⟩, 7, by decide⟩
  refine (lookupsAgree_iff (lp64 JsonText.write) (by decide) _ numbered 5).mpr ?_
  refine ⟨by decide, Or.inr ⟨⟨⟨"5", "32"⟩, by simp, by decide⟩, ?_⟩⟩
  intro uidPolicy listed unnamed stands
  simp only [List.mem_cons, List.not_mem_nil, or_false] at listed
  rcases listed with rfl | rfl
  · exact absurd (by decide) unnamed
  · exact absurd stands (by decide)

/-- The file with one entry, whose uid has a leading zero. -/
def paddedFiles : FileSystem where
  contents _ := some (JsonText.write (NetPolicyFile.rootValue ⟨[⟨"05", "64"⟩], "1.0"⟩))
  opens _ := true

/-- A uid with a leading zero is found by the search and by no loop: an accepted request sets
nothing. -/
theorem padded_uid_sets_nothing :
    ∃ loaded next, NetPolicyFile.initPolicy JsonText.read { files := paddedFiles } =
        .ok (true, loaded) ∧
      loaded.netPolicy.uidPolicys = [⟨"05", "64"⟩] ∧
      NetPolicyService.setUidPolicy (lp64 JsonText.write) ⟨loaded⟩ 5 .allowAll =
        .ok (.none, next) ∧
      next.getUidPolicy (lp64 JsonText.write) 5 = .ok .none ∧
      ¬ LookupsAgree (lp64 JsonText.write) loaded.netPolicy 5 := by
  refine ⟨_, _, rfl, rfl, rfl, rfl, fun agree => ?_⟩
  have same := (agree.set paddedFiles .allowAll _ rfl).1
  exact absurd (Except.ok.inj same) (by decide)

end NetPolicyService

end NetManager
