/-
This file is about what the policy service answers when it is asked whether a user may use the
network. The answer is a function of the policy that was last set for the user, and of nothing
else: whether the network is metered is sent through all layers down to the service, which does not
read it. So a policy that is only about metered networks denies the others as well.
-/

import NetManager.Library.Log
import NetManager.Policy.Restart

namespace NetManager

open Library
open NetPolicyAbility (noFiles)

namespace NetPolicyService

/-! ### The last policy of a user -/

/-- The policy a request sets for a user, if it is a valid one. -/
def validPolicyFor (uid : UInt32) (request : PolicyRequest) : Option NetUidPolicy :=
  if uid = request.uid ∧ NetPolicyTraffic.isPolicyValid request.policy then some request.policy
  else none

/-- The last valid policy that was set for a user. -/
def lastValidPolicy (requests : List PolicyRequest) (uid : UInt32) : Option NetUidPolicy :=
  latest (validPolicyFor uid) requests

theorem step_getD (map : PolicyMap) (request : PolicyRequest) (uid : UInt32) :
    (PolicyMap.step map request uid).getD .none =
      (validPolicyFor uid request).getD ((map uid).getD .none) := by
  rw [PolicyMap.step_apply, validPolicyFor]
  by_cases same : uid = request.uid
  · by_cases removes : request.policy = .none
    · simp only [same, removes, isPolicyValid_none, and_self, if_true, Option.getD_none,
        Option.getD_some]
    · cases valid : NetPolicyTraffic.isPolicyValid request.policy with
      | true => simp only [same, removes, and_self, if_true, if_false, Option.getD_some]
      | false =>
        simp only [same, removes, Bool.false_eq_true, and_false, if_true, if_false,
          Option.getD_none]
  · simp only [same, false_and, if_false, Option.getD_none]

/-- The policy map keeps the last valid policy of each user. -/
theorem run_getD (requests : List PolicyRequest) (map : PolicyMap) (uid : UInt32) :
    (run PolicyMap.step map requests uid).getD .none =
      (lastValidPolicy requests uid).getD ((map uid).getD .none) := by
  induction requests generalizing map with
  | nil => rfl
  | cons request rest inductionHypothesis =>
    have joined : lastValidPolicy (request :: rest) uid =
        (lastValidPolicy rest uid).or (validPolicyFor uid request) := by
      unfold lastValidPolicy
      rw [← List.singleton_append, latest_append, latest_singleton]
    rw [run_cons, inductionHypothesis, step_getD, joined]
    cases lastValidPolicy rest uid with
    | none => rfl
    | some policy => rfl

/-- Only valid policies are the last valid one. -/
theorem isPolicyValid_lastValidPolicy {requests : List PolicyRequest} {uid : UInt32}
    {policy : NetUidPolicy} (last : lastValidPolicy requests uid = some policy) :
    NetPolicyTraffic.isPolicyValid policy = true := by
  have listed := List.mem_of_getLast? last
  obtain ⟨request, _, set⟩ := List.mem_filterMap.mp listed
  unfold validPolicyFor at set
  split_ifs at set with valid
  rw [← Option.some.inj set]
  exact valid.2

/-! ### Access -/

/-- The access of a user whose last valid policy is given: a rejection of metered background data
denies metered networks only, and a rejection of everything denies all. -/
structure AccessMatches (platform : Platform) (this : NetPolicyService) (uid : UInt32)
    (policy : Option NetUidPolicy) : Prop where
  unmetered : this.isUidNetAccess platform uid false = .ok (decide (policy ≠ some .rejectAll))
  metered : this.isUidNetAccess platform uid true =
    .ok (decide (policy ≠ some .rejectAll ∧ policy ≠ some .rejectMeteredBackground))
  monotone : this.isUidNetAccess platform uid true = .ok true →
    this.isUidNetAccess platform uid false = .ok true

/-- The answer denies both rejections, whatever the network. -/
theorem allows_of_valid {policy : NetUidPolicy}
    (valid : NetPolicyTraffic.isPolicyValid policy = true) :
    allows policy = decide (policy ≠ .rejectAll ∧ policy ≠ .rejectMeteredBackground) := by
  simp only [NetPolicyTraffic.isPolicyValid, Bool.or_eq_true, decide_eq_true_eq] at valid
  rcases valid with ((((rfl | rfl) | rfl) | rfl) | rfl) | rfl
  all_goals decide

/-- What a service answers after requests. -/
theorem isUidNetAccess_of_setUidPolicies {platform : Platform} (wide : 32 ≤ platform.longBits)
    {hosVersion : String} {files : FileSystem} {requests : List PolicyRequest}
    {last : NetPolicyService}
    (returned : (start hosVersion files).setUidPolicies platform requests = .ok last)
    (uid : UInt32) (metered : Bool) :
    last.isUidNetAccess platform uid metered =
      .ok (decide (lastValidPolicy requests uid ≠ some .rejectAll ∧
        lastValidPolicy requests uid ≠ some .rejectMeteredBackground)) := by
  have represents := represents_of_setUidPolicies requests
    (show (start hosVersion files).netPolicyFile.Represents ∅ from rfl) returned
  have map : (run tableStep ∅ requests).read = run PolicyMap.step PolicyMap.empty requests :=
    run_reading tableStep Table.read PolicyMap.step read_tableStep ∅ requests
  have read : last.netPolicyFile.getUidPolicy platform uid =
      .ok ((lastValidPolicy requests uid).getD .none) := by
    rw [NetPolicyFile.getUidPolicy_of_valid wide represents, map, run_getD]
    · rfl
    · rw [map]
      exact PolicyMap.run_valid requests uid
  have answer : last.isUidNetAccess platform uid metered =
      .ok (allows ((lastValidPolicy requests uid).getD .none)) := by
    show (last.netPolicyFile.getUidPolicy platform uid >>= _) = _
    rw [read]
    rfl
  rw [answer]
  cases set : lastValidPolicy requests uid with
  | none => rfl
  | some policy =>
    rw [Option.getD_some, allows_of_valid (isPolicyValid_lastValidPolicy set)]
    simp only [ne_eq, Option.some.injEq]

/-- Access is as the last valid policy says exactly when that policy is not a rejection of metered
background data. With a `long` of 64 bits every run of requests returns. -/
theorem accessMatches_iff (platform : Platform) (wide : 32 ≤ platform.longBits)
    (hosVersion : String) (files : FileSystem) (requests : List PolicyRequest) :
    (platform.longBits = 64 →
      ∃ last, (start hosVersion files).setUidPolicies platform requests = .ok last) ∧
    ∀ last, (start hosVersion files).setUidPolicies platform requests = .ok last → ∀ uid,
      last.AccessMatches platform uid (lastValidPolicy requests uid) ↔
        lastValidPolicy requests uid ≠ some .rejectMeteredBackground := by
  refine ⟨fun sixtyFour => ?_, fun last returned uid => ?_⟩
  · have sameLong : lp64 platform.streamWriter = platform := by
      rw [lp64, ← sixtyFour]
    obtain ⟨last, reached, _⟩ := setUidPolicies_represents platform.streamWriter requests
      (show (start hosVersion files).netPolicyFile.Represents ∅ from rfl)
    rw [sameLong] at reached
    exact ⟨last, reached⟩
  · have answer := isUidNetAccess_of_setUidPolicies wide returned uid
    constructor
    · intro access rejected
      have denied := access.unmetered
      rw [answer, rejected] at denied
      exact absurd denied (by decide)
    · intro other
      refine ⟨?_, answer true, fun allowed => ?_⟩
      · rw [answer]
        simp only [other, ne_eq, not_false_eq_true, and_true]
      · rw [answer] at allowed ⊢
        exact allowed

theorem accessMatches_example :
    ∃ last, (start "1.0" noFiles).setUidPolicies (lp64 JsonText.write)
        [⟨5, .rejectAll⟩] = .ok last ∧
      last.AccessMatches (lp64 JsonText.write) 5 (some .rejectAll) := by
  obtain ⟨completes, exactly⟩ := accessMatches_iff (lp64 JsonText.write) (by decide) "1.0" noFiles
    [⟨5, .rejectAll⟩]
  obtain ⟨last, returned⟩ := completes rfl
  exact ⟨last, returned, (exactly last returned 5).mpr (by decide)⟩

/-- A user whose metered background data is rejected is denied an unmetered network. -/
theorem unmetered_network_denied :
    ∃ last, (start "1.0" noFiles).setUidPolicies (lp64 JsonText.write)
        [⟨5, .rejectMeteredBackground⟩] = .ok last ∧
      last.isUidNetAccess (lp64 JsonText.write) 5 false = .ok false ∧
      ¬ last.AccessMatches (lp64 JsonText.write) 5 (some .rejectMeteredBackground) := by
  obtain ⟨last, returned, _⟩ := setUidPolicies_represents JsonText.write
    [⟨5, .rejectMeteredBackground⟩] (show (start "1.0" noFiles).netPolicyFile.Represents ∅ from rfl)
  have denied := isUidNetAccess_of_setUidPolicies (by decide) returned 5 false
  refine ⟨last, returned, denied, fun access => ?_⟩
  have allowed := access.unmetered
  rw [denied] at allowed
  exact absurd allowed (by decide)

end NetPolicyService

end NetManager
