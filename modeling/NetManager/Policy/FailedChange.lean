/-
This file is about requests that fail. A request edits the entries in memory and then writes the
file; when the file cannot be opened it returns an error, and the edit stays. So a failed request
changes nothing only if its edit cannot be seen. With the texts the service writes an edit is seen
unless it changes no entry; a file of someone else can hold entries that hide one.
-/

import NetManager.Policy.Entries

namespace NetManager

open Library

/-! ### Answers from entries -/

/-- Two lists of entries give the same answers. -/
structure SameEntries (platform : Platform) (first second : List UidPolicy) : Prop where
  policy : ∀ uid, policyIn platform second uid = policyIn platform first uid
  uids : ∀ policy, uidsIn platform second (policyText policy) =
    uidsIn platform first (policyText policy)

/-- Listing the users of a policy throws the same with both lists. -/
def ThrowsAlike (platform : Platform) (first second : List UidPolicy) (text : String) : Prop :=
  ∃ thrown, uidsIn platform first text = .error thrown ∧
    uidsIn platform second text = .error thrown

section

variable {platform : Platform} {before after : List UidPolicy} {entry : UidPolicy}

theorem SameEntries.refl (platform : Platform) (uidPolicys : List UidPolicy) :
    SameEntries platform uidPolicys uidPolicys :=
  ⟨fun _ => rfl, fun _ => rfl⟩

/-- An entry with another policy is not listed. -/
theorem uidsIn_unlisted {text : String} (other : entry.policy ≠ text) :
    uidsIn platform (before ++ entry :: after) text = uidsIn platform (before ++ after) text := by
  have skipped : (entry :: after).filter (fun uidPolicy => uidPolicy.policy = text) =
      after.filter fun uidPolicy => uidPolicy.policy = text :=
    List.filter_cons_of_neg (by simpa using other)
  simp only [uidsIn, List.filter_append, skipped]

/-- One entry more shows in a list of users unless listing throws. -/
theorem uidsIn_listed :
    uidsIn platform (before ++ entry :: after) entry.policy =
        uidsIn platform (before ++ after) entry.policy ↔
      ThrowsAlike platform (before ++ entry :: after) (before ++ after) entry.policy := by
  constructor
  · intro same
    cases listed : uidsIn platform (before ++ after) entry.policy with
    | error thrown => exact ⟨thrown, same.trans listed, listed⟩
    | ok uids =>
      have longer := length_of_mapM (same.trans listed)
      have shorter := length_of_mapM listed
      simp only [List.filter_append, List.length_append, decide_true, List.filter_cons_of_pos,
        List.length_cons] at longer shorter
      omega
  · rintro ⟨thrown, longer, shorter⟩
    rw [longer, shorter]

end

/-! ### Edits of the first entry -/

section

variable {platform : Platform} {uid : UInt32} {before after : List UidPolicy} {text : String}

/-- Only the user of an edit is answered differently. -/
theorem policyIn_changeEntries {other : UInt32} (different : uid ≠ other)
    (op : NetUidPolicyOpType) (policy : String) (uidPolicys : List UidPolicy) :
    policyIn platform (NetPolicyFile.changeEntries op (uidText uid) policy uidPolicys) other =
      policyIn platform uidPolicys other := by
  rw [policyIn, NetPolicyFile.entriesOf_changeEntries different]
  rfl

/-- The removal of the first entry of a user cannot be seen when the next entry of the user, or no
entry, reads as the same policy, and when the list it was in throws as before. -/
theorem sameEntries_delete (missed : ∀ uidPolicy ∈ before, uidPolicy.uid ≠ uidText uid) :
    SameEntries platform (before ++ ⟨uidText uid, text⟩ :: after) (before ++ after) ↔
      policyIn platform after uid = readPolicy platform text ∧
        ∀ policy, policyText policy = text →
          ThrowsAlike platform (before ++ ⟨uidText uid, text⟩ :: after) (before ++ after) text := by
  constructor
  · intro same
    refine ⟨?_, ?_⟩
    · have policy := same.policy uid
      rwa [policyIn_append platform missed, policyIn_first platform missed] at policy
    · rintro policy rfl
      exact uidsIn_listed.mp (same.uids policy).symm
  · rintro ⟨read, throws⟩
    refine ⟨fun other => ?_, fun policy => ?_⟩
    · by_cases same : uid = other
      · rw [← same, policyIn_append platform missed, policyIn_first platform missed, read]
      · have removed : NetPolicyFile.changeEntries .delete (uidText uid) text
            (before ++ ⟨uidText uid, text⟩ :: after) = before ++ after :=
          NetPolicyFile.changeEntries_delete rfl missed
        rw [← removed, policyIn_changeEntries same]
    · by_cases listed : policyText policy = text
      · rw [listed]
        exact (uidsIn_listed.mpr (throws policy listed)).symm
      · exact (uidsIn_unlisted (Ne.symm listed)).symm

/-- An update of the first entry of a user cannot be seen when the entry reads as the new policy
before, and when the list it joins throws as before. -/
theorem sameEntries_update (wide : 32 ≤ platform.longBits) {policy : NetUidPolicy}
    (valid : NetPolicyTraffic.isPolicyValid policy = true)
    (missed : ∀ uidPolicy ∈ before, uidPolicy.uid ≠ uidText uid) :
    SameEntries platform (before ++ ⟨uidText uid, text⟩ :: after)
        (before ++ ⟨uidText uid, policyText policy⟩ :: after) ↔
      text = policyText policy ∨
        readPolicy platform text = .ok policy ∧
          ThrowsAlike platform (before ++ ⟨uidText uid, text⟩ :: after)
            (before ++ ⟨uidText uid, policyText policy⟩ :: after) (policyText policy) := by
  by_cases unchanged : text = policyText policy
  · rw [unchanged]
    exact iff_of_true (SameEntries.refl platform _) (Or.inl rfl)
  · have unlisted : uidsIn platform (before ++ ⟨uidText uid, text⟩ :: after) (policyText policy) =
        uidsIn platform (before ++ after) (policyText policy) := uidsIn_unlisted unchanged
    rw [or_iff_right unchanged]
    constructor
    · intro same
      have read := same.policy uid
      rw [policyIn_first platform missed, policyIn_first platform missed,
        readPolicy_valid wide valid] at read
      obtain ⟨thrown, longer, shorter⟩ := uidsIn_listed.mp ((same.uids policy).trans unlisted)
      exact ⟨read.symm, thrown, unlisted.trans shorter, longer⟩
    · rintro ⟨read, thrown, shorter, longer⟩
      refine ⟨fun other => ?_, fun listed => ?_⟩
      · by_cases same : uid = other
        · rw [← same, policyIn_first platform missed, policyIn_first platform missed, read,
            readPolicy_valid wide valid]
        · have updated : NetPolicyFile.changeEntries .update (uidText uid) (policyText policy)
              (before ++ ⟨uidText uid, text⟩ :: after) =
                before ++ ⟨uidText uid, policyText policy⟩ :: after :=
            NetPolicyFile.changeEntries_update rfl missed
          rw [← updated, policyIn_changeEntries same]
      · by_cases joins : policyText listed = policyText policy
        · rw [joins, longer, shorter]
        · -- the text of another policy does not read as the new one
          have leaves : text ≠ policyText listed := by
            intro same
            rw [same] at read
            exact joins (congrArg policyText (readPolicy_text read))
          exact (uidsIn_unlisted (Ne.symm joins)).trans (uidsIn_unlisted leaves).symm

/-- A policy that is added is seen. -/
theorem not_sameEntries_add (wide : 32 ≤ platform.longBits) {policy : NetUidPolicy}
    (valid : NetPolicyTraffic.isPolicyValid policy = true) (sets : policy ≠ .none)
    {uidPolicys : List UidPolicy} (missed : ∀ uidPolicy ∈ uidPolicys, uidPolicy.uid ≠ uidText uid) :
    ¬ SameEntries platform uidPolicys (uidPolicys ++ [⟨uidText uid, policyText policy⟩]) := by
  intro same
  have read := same.policy uid
  rw [policyIn_first platform missed, policyIn_missed platform missed,
    readPolicy_valid wide valid] at read
  exact sets (Except.ok.inj read)

end

/-! ### Failed requests -/

namespace NetPolicyService

/-- Two services answer every question about policies and access the same. -/
structure SameAnswers (platform : Platform) (first second : NetPolicyService) : Prop where
  policy : ∀ uid, second.getUidPolicy platform uid = first.getUidPolicy platform uid
  uids : ∀ policy, second.getUids platform policy = first.getUids platform policy
  metered : ∀ uid metered,
    second.isUidNetAccess platform uid metered = first.isUidNetAccess platform uid metered
  iface : ∀ uid ifaceName,
    second.isUidNetAccessIface platform uid ifaceName =
      first.isUidNetAccessIface platform uid ifaceName

/-- A request that returns an error changes no answer. -/
def FailureChangesNothing (platform : Platform) (this : NetPolicyService) (uid : UInt32)
    (policy : NetUidPolicy) : Prop :=
  ∀ code next, this.setUidPolicy platform uid policy = .ok (code, next) → code ≠ .none →
    SameAnswers platform this next

/-- The edit of a request cannot be seen. The store has no entry with the text of the user; or the
first one reads, when it is taken away, as the next one does, and otherwise as the new policy, and
the list that changes throws as before. An update that changes no text cannot be seen either. -/
def Unnoticed (platform : Platform) (uidPolicys : List UidPolicy) (uid : UInt32)
    (policy : NetUidPolicy) : Prop :=
  ∀ before text after, uidPolicys = before ++ ⟨uidText uid, text⟩ :: after →
    (∀ uidPolicy ∈ before, uidPolicy.uid ≠ uidText uid) →
      if policy = .none then
        policyIn platform after uid = readPolicy platform text ∧
          ∀ listed, policyText listed = text →
            ThrowsAlike platform uidPolicys (before ++ after) text
      else
        text = policyText policy ∨
          readPolicy platform text = .ok policy ∧
            ThrowsAlike platform uidPolicys
              (before ++ ⟨uidText uid, policyText policy⟩ :: after) (policyText policy)

variable {platform : Platform} {this : NetPolicyService} {uid : UInt32} {policy : NetUidPolicy}

/-- Answers come from the entries. -/
theorem sameAnswers_iff (first second : NetPolicyService) :
    SameAnswers platform first second ↔
      SameEntries platform first.netPolicyFile.netPolicy.uidPolicys
        second.netPolicyFile.netPolicy.uidPolicys := by
  have answers (this : NetPolicyService) : this.getUidPolicy platform =
      policyIn platform this.netPolicyFile.netPolicy.uidPolicys := by
    funext uid
    exact NetPolicyFile.getUidPolicy_eq_policyIn this.netPolicyFile uid
  constructor
  · intro same
    refine ⟨fun uid => ?_, same.uids⟩
    rw [← answers, ← answers]
    exact same.policy uid
  · intro same
    have policy (uid : UInt32) :
        second.getUidPolicy platform uid = first.getUidPolicy platform uid := by
      rw [answers, answers]
      exact same.policy uid
    refine ⟨policy, same.uids, fun uid metered => ?_, fun uid ifaceName => ?_⟩
    · exact congrArg (· >>= fun uidPolicy => pure (allows uidPolicy)) (policy uid)
    · exact congrArg (· >>= fun uidPolicy => pure (allows uidPolicy)) (policy uid)

/-- A valid request that finds its operation fails exactly when the file does not open, and then
changes nothing exactly when its edit cannot be seen. -/
theorem failureChangesNothing_of_op {op : NetUidPolicyOpType}
    (asked : this.requestedOp platform uid policy = .ok op)
    (valid : NetPolicyTraffic.isPolicyValid policy = true)
    (closed : this.netPolicyFile.files.opens this.netPolicyFile.files.opened = false) :
    this.FailureChangesNothing platform uid policy ↔
      SameEntries platform this.netPolicyFile.netPolicy.uidPolicys
        (NetPolicyFile.changeEntries op (uidText uid) (policyText policy)
          this.netPolicyFile.netPolicy.uidPolicys) := by
  have failed : this.answerOf policy = .internalError := by
    simp only [answerOf, valid, closed]
    rfl
  have edited : (this.applied platform op uid policy).netPolicyFile.netPolicy.uidPolicys = _ :=
    uidPolicys_applied op valid
  rw [← edited, ← sameAnswers_iff]
  unfold FailureChangesNothing
  rw [setUidPolicy_eq, asked, failed]
  constructor
  · intro nothing
    exact nothing _ _ rfl (by decide)
  · intro same code next returned _
    rw [← (Prod.mk.inj (Except.ok.inj returned)).2]
    exact same

/-- The operation of a request that does not add an entry. -/
def editOp (policy : NetUidPolicy) : NetUidPolicyOpType :=
  if policy = .none then .delete else .update

/-- An edit of the first entry of a user is unnoticed as the condition says. -/
theorem sameEntries_editOp (wide : 32 ≤ platform.longBits)
    (valid : NetPolicyTraffic.isPolicyValid policy = true) (uidPolicys : List UidPolicy) :
    SameEntries platform uidPolicys (NetPolicyFile.changeEntries (editOp policy) (uidText uid)
      (policyText policy) uidPolicys) ↔ Unnoticed platform uidPolicys uid policy := by
  have at_split {before after : List UidPolicy} {text : String}
      (missed : ∀ uidPolicy ∈ before, uidPolicy.uid ≠ uidText uid) :
      SameEntries platform (before ++ ⟨uidText uid, text⟩ :: after)
          (NetPolicyFile.changeEntries (editOp policy) (uidText uid) (policyText policy)
            (before ++ ⟨uidText uid, text⟩ :: after)) ↔
        if policy = .none then
          policyIn platform after uid = readPolicy platform text ∧
            ∀ listed, policyText listed = text →
              ThrowsAlike platform (before ++ ⟨uidText uid, text⟩ :: after) (before ++ after) text
        else
          text = policyText policy ∨
            readPolicy platform text = .ok policy ∧
              ThrowsAlike platform (before ++ ⟨uidText uid, text⟩ :: after)
                (before ++ ⟨uidText uid, policyText policy⟩ :: after) (policyText policy) := by
    unfold editOp
    by_cases removes : policy = .none
    · rw [if_pos removes, if_pos removes, NetPolicyFile.changeEntries_delete rfl missed]
      exact sameEntries_delete missed
    · rw [if_neg removes, if_neg removes, NetPolicyFile.changeEntries_update rfl missed]
      exact sameEntries_update wide valid missed
  constructor
  · rintro same before text after rfl missed
    exact (at_split missed).mp same
  · intro unnoticed
    rcases NetPolicyFile.first_entry_cases uid uidPolicys with
      missed | ⟨before, text, after, rfl, missed⟩
    · have notAdd : editOp policy ≠ .add := by
        unfold editOp
        split <;> exact fun same => by cases same
      rw [NetPolicyFile.changeEntries_missed notAdd missed]
      exact SameEntries.refl platform uidPolicys
    · exact (at_split missed).mpr (unnoticed before text after rfl missed)

/-- An invalid policy is refused before the edit. -/
theorem failureChangesNothing_of_invalid
    (invalid : NetPolicyTraffic.isPolicyValid policy = false) :
    this.FailureChangesNothing platform uid policy := by
  intro code next returned _
  obtain ⟨op, same, _⟩ := setUidPolicy_inv returned
  simp only [applied, invalid, Bool.false_eq_true, if_false] at same
  rw [(Prod.mk.inj same).2]
  exact (sameAnswers_iff _ _).mpr (SameEntries.refl platform _)

/-- A valid request does not fail when the file opens. -/
theorem failureChangesNothing_of_opened (valid : NetPolicyTraffic.isPolicyValid policy = true)
    (opened : this.netPolicyFile.files.opens this.netPolicyFile.files.opened = true) :
    this.FailureChangesNothing platform uid policy := by
  intro code next returned failed
  obtain ⟨op, same, _⟩ := setUidPolicy_inv returned
  refine absurd ?_ failed
  rw [(Prod.mk.inj same).1]
  simp only [answerOf, valid, opened]
  rfl

/-- A valid request whose file does not open has been edited, unless the search for the user
throws. -/
theorem failureChangesNothing_of_closed (wide : 32 ≤ platform.longBits)
    (valid : NetPolicyTraffic.isPolicyValid policy = true)
    (closed : this.netPolicyFile.files.opens this.netPolicyFile.files.opened = false) :
    this.FailureChangesNothing platform uid policy ↔
      (policy ≠ .none ∧
        ∃ thrown, this.netPolicyFile.isUidPolicyExist platform uid = .error thrown) ∨
      (policy = .none ∨ this.netPolicyFile.isUidPolicyExist platform uid = .ok true) ∧
        Unnoticed platform this.netPolicyFile.netPolicy.uidPolicys uid policy := by
  have edited {op : NetUidPolicyOpType} (asked : this.requestedOp platform uid policy = .ok op) :=
    failureChangesNothing_of_op asked valid closed
  by_cases removes : policy = .none
  · have asked : this.requestedOp platform uid policy = .ok (editOp policy) := by
      simp only [requestedOp, editOp, removes, if_true]
    rw [edited asked, sameEntries_editOp wide valid]
    simp [removes]
  · cases looked : this.netPolicyFile.isUidPolicyExist platform uid with
    | error thrown =>
      refine iff_of_true (fun code next returned _ => ?_) (Or.inl ⟨removes, thrown, rfl⟩)
      rw [setUidPolicy_eq, requestedOp, if_neg removes, looked] at returned
      cases returned
    | ok exist =>
      cases exist with
      | true =>
        have asked : this.requestedOp platform uid policy = .ok (editOp policy) := by
          simp only [requestedOp, editOp, removes, looked, if_false]
          rfl
        rw [edited asked, sameEntries_editOp wide valid]
        simp [removes]
      | false =>
        have asked : this.requestedOp platform uid policy = .ok .add := by
          simp only [requestedOp, removes, looked, if_false]
          rfl
        have added := not_sameEntries_add wide valid removes
          (NetPolicyFile.missed_of_not_found looked)
        rw [edited asked]
        exact iff_of_false added (by simp [removes])

/-- A failed request changes nothing exactly when it was refused before its edit, when the file
opens so that it does not fail, or when its edit cannot be seen. -/
theorem failureChangesNothing_iff (platform : Platform) (wide : 32 ≤ platform.longBits)
    (this : NetPolicyService) (uid : UInt32) (policy : NetUidPolicy) :
    this.FailureChangesNothing platform uid policy ↔
      NetPolicyTraffic.isPolicyValid policy = false ∨
      this.netPolicyFile.files.opens this.netPolicyFile.files.opened = true ∨
      (policy ≠ .none ∧
        ∃ thrown, this.netPolicyFile.isUidPolicyExist platform uid = .error thrown) ∨
      (policy = .none ∨ this.netPolicyFile.isUidPolicyExist platform uid = .ok true) ∧
        Unnoticed platform this.netPolicyFile.netPolicy.uidPolicys uid policy := by
  cases valid : NetPolicyTraffic.isPolicyValid policy with
  | false => exact iff_of_true (failureChangesNothing_of_invalid valid) (Or.inl rfl)
  | true =>
    rw [or_iff_right (by decide : ¬ true = false)]
    cases opened : this.netPolicyFile.files.opens this.netPolicyFile.files.opened with
    | true => exact iff_of_true (failureChangesNothing_of_opened valid opened) (Or.inl rfl)
    | false =>
      rw [or_iff_right (by decide : ¬ false = true)]
      exact failureChangesNothing_of_closed wide valid opened

/-- Files among which there is no policy file, and none can be opened. -/
def closedFiles : FileSystem where
  contents _ := none
  opens _ := false

/-- The policy a user has is set again, and cannot be written. -/
theorem failureChangesNothing_example :
    let served : NetPolicyService :=
      ⟨{ netPolicy := ⟨[⟨"5", "32"⟩, ⟨"7", "64"⟩], "1.0"⟩, files := closedFiles }⟩
    (∃ next, served.setUidPolicy (lp64 JsonText.write) 7 .rejectAll = .ok (.internalError, next)) ∧
      served.FailureChangesNothing (lp64 JsonText.write) 7 .rejectAll := by
  intro served
  refine ⟨⟨_, rfl⟩, (failureChangesNothing_iff (lp64 JsonText.write) (by decide) served 7
    .rejectAll).mpr (Or.inr (Or.inr (Or.inr ⟨Or.inr rfl, ?_⟩)))⟩
  intro before text after split _
  rw [if_neg (by decide)]
  left
  -- only the second entry is one of the user
  cases before with
  | nil =>
    have user : "5" = uidText 7 := congrArg UidPolicy.uid (List.cons.inj split).1
    exact absurd user (by decide)
  | cons first before =>
    have second := (List.cons.inj split).2
    cases before with
    | nil => exact (congrArg UidPolicy.policy (List.cons.inj second).1).symm
    | cons other before =>
      have nothing := (List.cons.inj second).2
      exact absurd nothing (by simp)

/-- A policy that could not be written is in force all the same. -/
theorem failed_policy_in_force :
    ∃ next, (start "1.0" closedFiles).setUidPolicy (lp64 JsonText.write) 5 .rejectAll =
        .ok (.internalError, next) ∧
      (start "1.0" closedFiles).isUidNetAccess (lp64 JsonText.write) 5 true = .ok true ∧
      next.isUidNetAccess (lp64 JsonText.write) 5 true = .ok false ∧
      ¬ (start "1.0" closedFiles).FailureChangesNothing (lp64 JsonText.write) 5 .rejectAll := by
  refine ⟨_, rfl, rfl, rfl, fun nothing => ?_⟩
  have same := (nothing _ _ rfl (by decide)).metered 5 true
  exact absurd (Except.ok.inj same) (by decide)

end NetPolicyService

end NetManager
