/-
This file describes the requests of the policy service on any list of entries, whatever texts it
holds: a file of someone else can fill the service with texts the service never writes. What is
read of a user is the first entry with the text of the user; what is listed for a policy are the
entries with the text of the policy. A request edits the first entry of its user, or appends one.
-/

import NetManager.Policy.StartUp

namespace NetManager

open Library

/-! ### Lookups in a list of entries -/

/-- The policy a text stands for. -/
def readPolicy (platform : Platform) (text : String) : Except StolError NetUidPolicy := do
  let number ← stol platform.longBits text
  return NetUidPolicy.ofLong number

/-- The user an entry stands for. -/
def readUid (platform : Platform) (uidPolicy : UidPolicy) : Except StolError UInt32 := do
  let number ← stol platform.longBits uidPolicy.uid
  return UInt32.ofInt number

/-- What `GetUidPolicy` answers with these entries. -/
def policyIn (platform : Platform) (uidPolicys : List UidPolicy) (uid : UInt32) :
    Except StolError NetUidPolicy :=
  match (entriesOf uid uidPolicys).head? with
  | some uidPolicy => readPolicy platform uidPolicy.policy
  | none => .ok .none

/-- What `GetUids` answers with these entries, for the policy with the text. -/
def uidsIn (platform : Platform) (uidPolicys : List UidPolicy) (text : String) :
    Except StolError (List UInt32) :=
  (uidPolicys.filter fun uidPolicy => uidPolicy.policy = text).mapM (readUid platform)

section

variable {platform : Platform}

/-- A `long` of at least 32 bits holds the policies a request can set. -/
theorem readPolicy_valid (wide : 32 ≤ platform.longBits) {policy : NetUidPolicy}
    (valid : NetPolicyTraffic.isPolicyValid policy = true) :
    readPolicy platform (policyText policy) = .ok policy := by
  simp only [readPolicy, stol_valid wide valid]
  exact congrArg Except.ok (ofLong_toUInt32 policy)

/-- Only the text of a policy itself, or a text the service never writes, reads as a policy. -/
theorem readPolicy_text {first second : NetUidPolicy}
    (read : readPolicy platform (policyText first) = .ok second) : first = second := by
  obtain ⟨number, parsed, same⟩ := bind_eq_ok read
  rw [stol_of_ok parsed] at same
  exact (ofLong_toUInt32 first).symm.trans (Except.ok.inj same)

/-- The text of a user stands for the user, if it is read at all. -/
theorem readUid_text {uidPolicy : UidPolicy} {uid found : UInt32}
    (named : uidPolicy.uid = uidText uid) (read : readUid platform uidPolicy = .ok found) :
    found = uid := by
  obtain ⟨number, parsed, same⟩ := bind_eq_ok read
  rw [named] at parsed
  rw [stol_of_ok parsed] at same
  exact (Except.ok.inj same).symm.trans (uint32_ofInt uid)

/-- The text of a user is read exactly when the number of the user fits. -/
theorem readUid_iff {uidPolicy : UidPolicy} {uid : UInt32} (named : uidPolicy.uid = uidText uid) :
    readUid platform uidPolicy = .ok uid ↔ uid.toNat < 2 ^ (platform.longBits - 1) := by
  unfold readUid
  rw [named]
  constructor
  · intro read
    obtain ⟨number, parsed, _⟩ := bind_eq_ok read
    exact fits_of_stol parsed
  · intro fits
    rw [uidText, stol_stdToString fits]
    exact congrArg Except.ok (uint32_ofInt uid)

namespace NetPolicyFile

theorem getUidPolicy_eq_policyIn (this : NetPolicyFile) (uid : UInt32) :
    this.getUidPolicy platform uid = policyIn platform this.netPolicy.uidPolicys uid := by
  unfold policyIn entriesOf
  rw [List.head?_filter]
  rfl

theorem getUids_eq_uidsIn (this : NetPolicyFile) (policy : NetUidPolicy) :
    this.getUids platform policy =
      uidsIn platform this.netPolicy.uidPolicys (policyText policy) := rfl

/-- A user who is found has an entry that stands for the user. -/
theorem readUid_of_found {this : NetPolicyFile} {uid : UInt32}
    (found : this.isUidPolicyExist platform uid = .ok true) :
    ∃ uidPolicy ∈ this.netPolicy.uidPolicys, readUid platform uidPolicy = .ok uid := by
  obtain ⟨uidPolicy, listed, passed⟩ := exists_of_anyM found
  refine ⟨uidPolicy, listed, ?_⟩
  obtain ⟨number, parsed, same⟩ := bind_eq_ok passed
  rw [readUid, parsed, ← eq_of_beq (Except.ok.inj same)]
  rfl

/-- When a user is not found, every entry stands for another user. -/
theorem readUid_of_not_found {this : NetPolicyFile} {uid : UInt32}
    (missed : this.isUidPolicyExist platform uid = .ok false) :
    ∀ uidPolicy ∈ this.netPolicy.uidPolicys,
      ∃ other, readUid platform uidPolicy = .ok other ∧ other ≠ uid := by
  intro uidPolicy listed
  obtain ⟨number, parsed, same⟩ := bind_eq_ok (forall_of_anyM missed uidPolicy listed)
  refine ⟨UInt32.ofInt number, ?_, ne_of_beq_false (Except.ok.inj same)⟩
  rw [readUid, parsed]
  rfl

/-- So the user has no entry. -/
theorem missed_of_not_found {this : NetPolicyFile} {uid : UInt32}
    (missing : this.isUidPolicyExist platform uid = .ok false) :
    ∀ uidPolicy ∈ this.netPolicy.uidPolicys, uidPolicy.uid ≠ uidText uid := by
  intro uidPolicy listed named
  obtain ⟨other, read, different⟩ := readUid_of_not_found missing uidPolicy listed
  exact different (readUid_text named read)

/-- When all entries are read, the search finds a user an entry stands for. -/
theorem isUidPolicyExist_of_reads {this : NetPolicyFile}
    (reads : ∀ uidPolicy ∈ this.netPolicy.uidPolicys, ∃ uid, readUid platform uidPolicy = .ok uid)
    (uid : UInt32) : ∃ exist, this.isUidPolicyExist platform uid = .ok exist ∧
      (exist = true ↔
        ∃ uidPolicy ∈ this.netPolicy.uidPolicys, readUid platform uidPolicy = .ok uid) := by
  have looked : this.isUidPolicyExist platform uid = .ok (this.netPolicy.uidPolicys.any
      fun uidPolicy => decide (readUid platform uidPolicy = .ok uid)) := by
    refine anyM_eq_ok fun uidPolicy listed => ?_
    obtain ⟨found, read⟩ := reads uidPolicy listed
    obtain ⟨number, parsed, same⟩ := bind_eq_ok read
    have named : UInt32.ofInt number = found := Except.ok.inj same
    have passed : (found == uid) = decide (readUid platform uidPolicy = .ok uid) := by
      rw [read, Bool.eq_iff_iff]
      simp
    rw [parsed, ← passed, ← named]
    rfl
  refine ⟨_, looked, ?_⟩
  simp only [List.any_eq_true, decide_eq_true_eq]

/-! ### Edits -/

section

variable {uid : UInt32} {policy : String} {before after : List UidPolicy} {first : UidPolicy}

/-- Taking a policy away removes the first entry of the user. -/
theorem changeEntries_delete (named : first.uid = uidText uid)
    (missed : ∀ uidPolicy ∈ before, uidPolicy.uid ≠ uidText uid) :
    changeEntries .delete (uidText uid) policy (before ++ first :: after) = before ++ after := by
  have skipped : ∀ uidPolicy ∈ before, ¬ decide (uidPolicy.uid = uidText uid) = true :=
    fun uidPolicy listed => by simpa using missed uidPolicy listed
  have removed : (first :: after).eraseP (fun uidPolicy => uidPolicy.uid = uidText uid) = after :=
    List.eraseP_cons_of_pos (decide_eq_true named)
  exact (List.eraseP_append_right _ skipped).trans (congrArg (before ++ ·) removed)

/-- An update changes its policy. -/
theorem changeEntries_update (named : first.uid = uidText uid)
    (missed : ∀ uidPolicy ∈ before, uidPolicy.uid ≠ uidText uid) :
    changeEntries .update (uidText uid) policy (before ++ first :: after) =
      before ++ { first with policy := policy } :: after := by
  simp only [changeEntries]
  induction before with
  | nil => exact List.lookmap_cons_some _ _ (if_pos named)
  | cons head rest inductionHypothesis =>
    obtain ⟨here, later⟩ := List.forall_mem_cons.mp missed
    have skipped : (if head.uid = uidText uid then some { head with policy := policy }
        else none) = none := if_neg here
    rw [List.cons_append, List.lookmap_cons_none _ _ skipped, inductionHypothesis later]
    rfl

/-- Neither does anything without an entry of the user. -/
theorem changeEntries_missed {uidPolicys : List UidPolicy} {op : NetUidPolicyOpType}
    (notAdd : op ≠ .add) (missed : ∀ uidPolicy ∈ uidPolicys, uidPolicy.uid ≠ uidText uid) :
    changeEntries op (uidText uid) policy uidPolicys = uidPolicys := by
  cases op with
  | add => exact absurd rfl notAdd
  | delete =>
    refine List.eraseP_of_forall_not fun uidPolicy listed => ?_
    simpa using missed uidPolicy listed
  | update => exact List.lookmap_of_forall_not _ fun uidPolicy listed => if_neg (missed _ listed)

end

/-- A list has an entry of the user, the first of them at some place, or none. -/
theorem first_entry_cases (uid : UInt32) (uidPolicys : List UidPolicy) :
    (∀ uidPolicy ∈ uidPolicys, uidPolicy.uid ≠ uidText uid) ∨
      ∃ before text after, uidPolicys = before ++ ⟨uidText uid, text⟩ :: after ∧
        ∀ uidPolicy ∈ before, uidPolicy.uid ≠ uidText uid := by
  cases found : uidPolicys.find? fun uidPolicy => uidPolicy.uid = uidText uid with
  | none =>
    refine Or.inl fun uidPolicy listed => ?_
    simpa using List.find?_eq_none.mp found uidPolicy listed
  | some first =>
    obtain ⟨named, before, after, split, missed⟩ := List.find?_eq_some_iff_append.mp found
    refine Or.inr ⟨before, first.policy, after, ?_, fun uidPolicy listed => ?_⟩
    · rw [split, ← of_decide_eq_true named]
    · simpa using missed uidPolicy listed

end NetPolicyFile

end

/-- A valid request edits the entries, whether or not the file can be written. -/
theorem NetPolicyService.uidPolicys_applied {platform : Platform} {this : NetPolicyService}
    {uid : UInt32} {policy : NetUidPolicy} (op : NetUidPolicyOpType)
    (valid : NetPolicyTraffic.isPolicyValid policy = true) :
    (this.applied platform op uid policy).netPolicyFile.netPolicy.uidPolicys =
      NetPolicyFile.changeEntries op (uidText uid) (policyText policy)
        this.netPolicyFile.netPolicy.uidPolicys := by
  simp only [applied, if_pos valid, NetPolicyFile.uidPolicys_writeFileOp]

/-! ### The first entry -/

section

variable {uid : UInt32} {before after : List UidPolicy} {text : String}

theorem entriesOf_missed {uidPolicys : List UidPolicy}
    (missed : ∀ uidPolicy ∈ uidPolicys, uidPolicy.uid ≠ uidText uid) :
    entriesOf uid uidPolicys = [] :=
  List.filter_eq_nil_iff.mpr fun uidPolicy listed => by simpa using missed uidPolicy listed

theorem entriesOf_first (missed : ∀ uidPolicy ∈ before, uidPolicy.uid ≠ uidText uid) :
    entriesOf uid (before ++ ⟨uidText uid, text⟩ :: after) =
      ⟨uidText uid, text⟩ :: entriesOf uid after := by
  have none := entriesOf_missed missed
  unfold entriesOf at none ⊢
  rw [List.filter_append, none, List.nil_append]
  exact List.filter_cons_of_pos (decide_eq_true rfl)

theorem policyIn_first (platform : Platform)
    (missed : ∀ uidPolicy ∈ before, uidPolicy.uid ≠ uidText uid) :
    policyIn platform (before ++ ⟨uidText uid, text⟩ :: after) uid = readPolicy platform text := by
  rw [policyIn, entriesOf_first missed]
  rfl

theorem policyIn_missed (platform : Platform) {uidPolicys : List UidPolicy}
    (missed : ∀ uidPolicy ∈ uidPolicys, uidPolicy.uid ≠ uidText uid) :
    policyIn platform uidPolicys uid = .ok .none := by
  rw [policyIn, entriesOf_missed missed]
  rfl

/-- Taking a policy away uncovers the next entry of the user. -/
theorem entriesOf_delete (policy : String) (uidPolicys : List UidPolicy) :
    entriesOf uid (NetPolicyFile.changeEntries .delete (uidText uid) policy uidPolicys) =
      (entriesOf uid uidPolicys).tail := by
  rcases NetPolicyFile.first_entry_cases uid uidPolicys with
    missed | ⟨before, text, after, rfl, missed⟩
  · rw [NetPolicyFile.changeEntries_missed (by decide) missed, entriesOf_missed missed]
    rfl
  · have none := entriesOf_missed missed
    rw [NetPolicyFile.changeEntries_delete rfl missed, entriesOf_first missed]
    unfold entriesOf at none ⊢
    rw [List.filter_append, none]
    rfl

/-- Entries of other users do not count. -/
theorem policyIn_append (platform : Platform)
    (missed : ∀ uidPolicy ∈ before, uidPolicy.uid ≠ uidText uid) :
    policyIn platform (before ++ after) uid = policyIn platform after uid := by
  have none := entriesOf_missed missed
  unfold policyIn
  unfold entriesOf at none ⊢
  rw [List.filter_append, none, List.nil_append]

end

end NetManager
