/-
This file follows the net-id allocator through arbitrary runs of reservations and
releases. The cursor climbs from below the range to its top and then stays inside
the range, and while it is still below no id ahead of it is in use. So a search
either takes the next id at once or walks the whole range, and it finds a free id
whenever the range has one.

The ids below the range are handed out nevertheless: the cursor starts at -1, so
the first hundred reservations of every run return the ids 0 to 99, whatever was
released in between, and only the later ones lie in the declared range.
-/

import NetManager.Library.Run
import NetManager.Conn.Isolation

namespace NetManager

open Library

namespace NetIdManager

/-! ### Runs of calls -/

/-- The calls of the allocator. -/
inductive Call where
  | reserveNetId
  | releaseNetId (netId : Int)

/-- The allocator after one call. -/
def step (manager : NetIdManager) : Call → NetIdManager
  | .reserveNetId => manager.reserveNetId.2
  | .releaseNetId netId => manager.releaseNetId netId

/-- The ids the reservations of a run return, in order. -/
def returned (manager : NetIdManager) : List Call → List Int
  | [] => []
  | .reserveNetId :: rest => manager.reserveNetId.1 :: returned manager.reserveNetId.2 rest
  | .releaseNetId netId :: rest => returned (manager.releaseNetId netId) rest

/-- The id lies in the declared range. So it is not the 0 that the resolver uses for the
unspecified network, and it passes the `uint16_t` of the cache calls unchanged. -/
structure InDeclaredRange (netId : Int) : Prop where
  low : minNetId ≤ netId
  high : netId ≤ maxNetId
  specified : netId ≠ 0
  fits : ((asUInt16 netId).toNat : Int) = netId

theorem inDeclaredRange_iff (netId : Int) :
    InDeclaredRange netId ↔ minNetId ≤ netId ∧ netId ≤ maxNetId := by
  constructor
  · intro inRange
    exact ⟨inRange.low, inRange.high⟩
  · rintro ⟨low, high⟩
    have positive : 0 < netId := lt_of_lt_of_le (by decide) low
    exact ⟨low, high, positive.ne', asUInt16_netId positive.le high⟩

/-! ### The walk of the cursor -/

/-- Below the top the cursor climbs by one each time. -/
theorem advance_climb (count : Nat) (netId : Int) (room : netId + count ≤ maxNetId) :
    advance^[count] netId = netId + count := by
  induction count with
  | zero => simp
  | succ count inductionHypothesis =>
    push_cast at room
    rw [Function.iterate_succ_apply', inductionHypothesis (by omega), advance,
      if_pos (by omega)]
    push_cast
    omega

/-- From the range, or from just below it, the cursor meets every id of the range within one
search. -/
theorem advance_reaches {cursor netId : Int} (cursorLow : minNetId - 1 ≤ cursor)
    (cursorHigh : cursor ≤ maxNetId) (low : minNetId ≤ netId) (high : netId ≤ maxNetId) :
    ∃ distance, distance < searchLength ∧ advance^[distance + 1] cursor = netId := by
  rw [minNetId] at cursorLow low
  rw [maxNetId_eq] at cursorHigh high
  by_cases ahead : cursor < netId
  · refine ⟨(netId - cursor - 1).toNat, by rw [searchLength_eq]; omega, ?_⟩
    rw [advance_climb _ _ (by rw [maxNetId_eq]; omega)]
    push_cast
    omega
  · -- up to the top, one step round to the bottom, and up again
    have around : (maxNetId - cursor).toNat + (netId - minNetId).toNat + 1 =
        (netId - minNetId).toNat + ((maxNetId - cursor).toNat + 1) := by
      omega
    have top : advance^[(maxNetId - cursor).toNat] cursor = maxNetId := by
      rw [maxNetId_eq, advance_climb _ _ (by rw [maxNetId_eq]; omega)]
      omega
    have bottom : advance maxNetId = minNetId := if_neg (lt_irrefl _)
    refine ⟨(maxNetId - cursor).toNat + (netId - minNetId).toNat, ?_, ?_⟩
    · rw [maxNetId_eq, minNetId, searchLength_eq]
      omega
    · rw [around, Function.iterate_add_apply, Function.iterate_succ_apply', top, bottom,
        advance_climb _ _ (by rw [maxNetId_eq, minNetId]; omega), minNetId]
      omega

/-- One step from the range, or from just below it, ends in the range. -/
theorem advance_bounds {cursor : Int} (low : minNetId - 1 ≤ cursor) :
    minNetId ≤ advance cursor ∧ advance cursor ≤ maxNetId := by
  unfold advance
  split
  · omega
  · exact ⟨le_refl _, by decide⟩

/-! ### The search -/

/-- A search that comes past a free id takes a free id. -/
theorem search_found (iterations : Nat) (manager : NetIdManager) (distance : Nat)
    (within : distance < iterations)
    (free : advance^[distance + 1] manager.lastNetId ∉ manager.netIdInUse) :
    ∃ netId, netId ∉ manager.netIdInUse ∧ search iterations manager =
      { lastNetId := netId, netIdInUse := insert netId manager.netIdInUse } := by
  induction iterations generalizing manager distance with
  | zero => exact absurd within (Nat.not_lt_zero _)
  | succ iterations inductionHypothesis =>
    by_cases used : advance manager.lastNetId ∈ manager.netIdInUse
    · obtain _ | distance := distance
      · exact absurd used free
      · simp only [search, if_pos used]
        exact inductionHypothesis { manager with lastNetId := advance manager.lastNetId } distance
          (by omega) free
    · exact ⟨advance manager.lastNetId, used, by simp only [search, if_neg used]⟩

/-- Inside the range the cursor stays inside. -/
theorem search_bounds (iterations : Nat) (manager : NetIdManager)
    (low : minNetId ≤ manager.lastNetId) (high : manager.lastNetId ≤ maxNetId) :
    minNetId ≤ (search iterations manager).lastNetId ∧
      (search iterations manager).lastNetId ≤ maxNetId := by
  induction iterations generalizing manager with
  | zero => exact ⟨low, high⟩
  | succ iterations inductionHypothesis =>
    have next : minNetId ≤ advance manager.lastNetId ∧ advance manager.lastNetId ≤ maxNetId :=
      advance_bounds (by omega)
    simp only [search]
    split
    · exact inductionHypothesis { manager with lastNetId := advance manager.lastNetId }
        next.1 next.2
    · exact next

/-- The first iteration of the search of a reservation. -/
theorem search_first (manager : NetIdManager) :
    search searchLength manager =
      if advance manager.lastNetId ∈ manager.netIdInUse then
        search 64411 { manager with lastNetId := advance manager.lastNetId }
      else
        { lastNetId := advance manager.lastNetId
          netIdInUse := insert (advance manager.lastNetId) manager.netIdInUse } := by
  rw [searchLength_eq, search]

/-- A reservation from the range, or from just below it, returns an id of the range. -/
theorem reserveNetId_bounds (manager : NetIdManager) (low : minNetId - 1 ≤ manager.lastNetId) :
    minNetId ≤ manager.reserveNetId.1 ∧ manager.reserveNetId.1 ≤ maxNetId := by
  have next := advance_bounds low
  rw [reserveNetId, search_first]
  split
  · exact search_bounds _ { manager with lastNetId := advance manager.lastNetId } next.1 next.2
  · exact next

/-- A reservation whose next id is free takes it. -/
theorem reserveNetId_next (manager : NetIdManager) (room : manager.lastNetId < maxNetId)
    (free : manager.lastNetId + 1 ∉ manager.netIdInUse) :
    manager.reserveNetId = (manager.lastNetId + 1,
      { lastNetId := manager.lastNetId + 1,
        netIdInUse := insert (manager.lastNetId + 1) manager.netIdInUse }) := by
  have next : advance manager.lastNetId = manager.lastNetId + 1 := if_pos room
  rw [reserveNetId, search_first, next, if_neg free]

/-! ### What every run keeps -/

/-- The cursor never passes the top of the range, and while it is below the range no id ahead
of it is in use. -/
structure Tracked (manager : NetIdManager) : Prop where
  high : manager.lastNetId ≤ maxNetId
  behind : manager.lastNetId < minNetId →
    ∀ netId ∈ manager.netIdInUse, netId ≤ manager.lastNetId

theorem tracked_initial : Tracked {} :=
  ⟨by decide, fun _ netId used => absurd used (Finset.notMem_empty netId)⟩

namespace Tracked

variable {manager : NetIdManager}

/-- Below the range a reservation takes the next id. -/
theorem reserveNetId_below (tracked : Tracked manager) (below : manager.lastNetId < minNetId) :
    manager.reserveNetId = (manager.lastNetId + 1,
      { lastNetId := manager.lastNetId + 1,
        netIdInUse := insert (manager.lastNetId + 1) manager.netIdInUse }) := by
  refine reserveNetId_next manager (below.trans (by decide)) fun used => ?_
  have behind := tracked.behind below _ used
  omega

/-- While the range has a free id a reservation takes a free id. -/
theorem reserveNetId_found (tracked : Tracked manager)
    (free : ∃ netId, minNetId ≤ netId ∧ netId ≤ maxNetId ∧ netId ∉ manager.netIdInUse) :
    ∃ netId, netId ∉ manager.netIdInUse ∧ manager.reserveNetId =
      (netId, { lastNetId := netId, netIdInUse := insert netId manager.netIdInUse }) := by
  by_cases below : manager.lastNetId < minNetId
  · refine ⟨manager.lastNetId + 1, fun used => ?_, tracked.reserveNetId_below below⟩
    have behind := tracked.behind below _ used
    omega
  · obtain ⟨netId, low, high, free⟩ := free
    obtain ⟨distance, within, reached⟩ :=
      advance_reaches (by omega) tracked.high low high
    obtain ⟨found, unused, searched⟩ :=
      search_found searchLength manager distance within (by rw [reached]; exact free)
    exact ⟨found, unused, by rw [reserveNetId, searched]⟩

theorem step (tracked : Tracked manager) (call : Call) : Tracked (manager.step call) := by
  cases call with
  | releaseNetId netId =>
    exact ⟨tracked.high, fun below used member =>
      tracked.behind below used (Finset.mem_of_mem_erase member)⟩
  | reserveNetId =>
    by_cases below : manager.lastNetId < minNetId
    · show Tracked manager.reserveNetId.2
      rw [tracked.reserveNetId_below below]
      refine ⟨?_, fun _ netId used => ?_⟩
      · show manager.lastNetId + 1 ≤ maxNetId
        rw [minNetId] at below
        rw [maxNetId_eq]
        omega
      · show netId ≤ manager.lastNetId + 1
        obtain rfl | earlier := Finset.mem_insert.mp used
        · exact le_refl _
        · have behind := tracked.behind below netId earlier
          omega
    · have bounds := reserveNetId_bounds manager (by omega)
      exact ⟨bounds.2, fun inside => absurd bounds.1 (not_le.mpr inside)⟩

end Tracked

/-- The allocator after a run of calls on a fresh one. -/
theorem tracked_run (calls : List Call) : Tracked (run step {} calls) :=
  run_invariant step Tracked (fun _ call tracked => tracked.step call) tracked_initial calls

/-! ### A free id is found -/

/-- After every run of calls, if the range has a free id then a reservation returns an id that
was not in use, puts it in use and leaves every other id as it was. -/
theorem reserveNetId_takes_free (calls : List Call)
    (free : ∃ netId, minNetId ≤ netId ∧ netId ≤ maxNetId ∧
      netId ∉ (run step {} calls).netIdInUse) :
    (run step {} calls).reserveNetId.1 ∉ (run step {} calls).netIdInUse ∧
      (run step {} calls).reserveNetId.1 ∈ (run step {} calls).reserveNetId.2.netIdInUse ∧
      ∀ other, other ≠ (run step {} calls).reserveNetId.1 →
        (other ∈ (run step {} calls).reserveNetId.2.netIdInUse ↔
          other ∈ (run step {} calls).netIdInUse) := by
  obtain ⟨netId, unused, reserved⟩ := (tracked_run calls).reserveNetId_found free
  rw [reserved]
  refine ⟨unused, Finset.mem_insert_self _ _, fun other different => ?_⟩
  show other ∈ insert netId _ ↔ _
  rw [Finset.mem_insert, or_iff_right different]

/-- A reservation after another one and the release of an id that was never in use. -/
theorem reserveNetId_takes_free_example :
    minNetId ∉ (run step {} [.reserveNetId, .releaseNetId 7]).netIdInUse ∧
      (run step {} [.reserveNetId, .releaseNetId 7]).reserveNetId.1 ∉
        (run step {} [.reserveNetId, .releaseNetId 7]).netIdInUse := by
  have first : ({} : NetIdManager).reserveNetId = (0, { lastNetId := 0, netIdInUse := {0} }) :=
    tracked_initial.reserveNetId_below (by decide)
  have unused : minNetId ∉ (run step {} [.reserveNetId, .releaseNetId 7]).netIdInUse := by
    show minNetId ∉ (({} : NetIdManager).reserveNetId.2.releaseNetId 7).netIdInUse
    rw [first]
    decide
  exact ⟨unused, (reserveNetId_takes_free [.reserveNetId, .releaseNetId 7]
    ⟨minNetId, le_refl _, by decide, unused⟩).1⟩

/-! ### The first hundred ids -/

/-- A tracked allocator that made this many reservations: the cursor counts them until it
reaches the range. -/
structure Counted (count : Nat) (manager : NetIdManager) : Prop where
  tracked : Tracked manager
  cursor : min manager.lastNetId (minNetId - 1) = min ((count : Int) - 1) (minNetId - 1)

theorem counted_initial : Counted 0 {} := ⟨tracked_initial, rfl⟩

namespace Counted

variable {count : Nat} {manager : NetIdManager}

theorem releaseNetId (counted : Counted count manager) (netId : Int) :
    Counted count (manager.releaseNetId netId) :=
  ⟨counted.tracked.step (.releaseNetId netId), counted.cursor⟩

/-- The next reservation returns an id of the range exactly when a hundred were made before it. -/
theorem reserveNetId_iff (counted : Counted count manager) :
    minNetId ≤ manager.reserveNetId.1 ∧ manager.reserveNetId.1 ≤ maxNetId ↔ 100 ≤ count := by
  have cursor := counted.cursor
  rw [minNetId] at cursor
  by_cases below : manager.lastNetId < minNetId
  · rw [counted.tracked.reserveNetId_below below]
    show minNetId ≤ manager.lastNetId + 1 ∧ manager.lastNetId + 1 ≤ maxNetId ↔ 100 ≤ count
    rw [minNetId] at below
    rw [minNetId, maxNetId_eq]
    omega
  · have bounds := reserveNetId_bounds manager (by omega)
    rw [minNetId] at below
    exact iff_of_true bounds (by omega)

theorem reserveNetId (counted : Counted count manager) :
    Counted (count + 1) manager.reserveNetId.2 := by
  refine ⟨counted.tracked.step .reserveNetId, ?_⟩
  have cursor := counted.cursor
  rw [minNetId] at cursor
  by_cases below : manager.lastNetId < minNetId
  · rw [counted.tracked.reserveNetId_below below]
    show min (manager.lastNetId + 1) (minNetId - 1) = min (((count + 1 : Nat) : Int) - 1) _
    rw [minNetId]
    push_cast
    omega
  · have bounds := (reserveNetId_bounds manager (by omega)).1
    have last : manager.reserveNetId.2.lastNetId = manager.reserveNetId.1 := rfl
    rw [minNetId] at below bounds
    rw [last, minNetId]
    push_cast
    omega

end Counted

/-- From an allocator that made `count` reservations, an id a run returns lies in the range
exactly when a hundred reservations were made before it. -/
theorem returned_bounds_iff {count : Nat} {manager : NetIdManager}
    (counted : Counted count manager) (calls : List Call) (index : Nat) (netId : Int)
    (returns : (returned manager calls)[index]? = some netId) :
    minNetId ≤ netId ∧ netId ≤ maxNetId ↔ 100 ≤ count + index := by
  induction calls generalizing count manager index with
  | nil => exact absurd returns (by simp [returned])
  | cons call rest inductionHypothesis =>
    cases call with
    | releaseNetId released =>
      exact inductionHypothesis (counted.releaseNetId released) index returns
    | reserveNetId =>
      cases index with
      | zero =>
        obtain rfl : manager.reserveNetId.1 = netId := Option.some.inj returns
        exact counted.reserveNetId_iff
      | succ index =>
        have later := inductionHypothesis counted.reserveNetId index returns
        rwa [Nat.add_right_comm] at later

/-- In every run of calls on a fresh allocator, a reservation returns an id of the declared
range exactly when at least a hundred reservations were made before it. -/
theorem returned_inDeclaredRange_iff (calls : List Call) (index : Nat) (netId : Int)
    (returns : (returned {} calls)[index]? = some netId) :
    InDeclaredRange netId ↔ 100 ≤ index := by
  rw [inDeclaredRange_iff, returned_bounds_iff counted_initial calls index netId returns,
    Nat.zero_add]

theorem returned_single : returned {} [.reserveNetId] = [0] := by
  have first : ({} : NetIdManager).reserveNetId = (0, { lastNetId := 0, netIdInUse := {0} }) :=
    tracked_initial.reserveNetId_below (by decide)
  show [({} : NetIdManager).reserveNetId.1] = [0]
  rw [first]

theorem returned_inDeclaredRange_example :
    (returned {} [.reserveNetId])[0]? = some 0 ∧ ¬InDeclaredRange 0 :=
  have returns : (returned {} [.reserveNetId])[0]? = some 0 := by rw [returned_single]; rfl
  ⟨returns, fun inRange => absurd
    ((returned_inDeclaredRange_iff [.reserveNetId] 0 0 returns).mp inRange) (by decide)⟩

/-- The first id of a fresh allocator is the one of the unspecified network. -/
theorem first_netId_unspecified :
    ¬∀ calls : List Call, ∀ netId ∈ returned {} calls, InDeclaredRange netId := by
  intro all
  have member : (0 : Int) ∈ returned {} [.reserveNetId] := by
    rw [returned_single]
    exact List.mem_singleton_self 0
  exact (all [.reserveNetId] 0 member).specified rfl

end NetIdManager

end NetManager
