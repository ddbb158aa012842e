/-
This file models the net-id allocator. `ReserveNetId` advances a cursor that
wraps at the top of the id range and takes the first id it meets that is not in
use; the search is bounded by the size of the range and returns wherever the
cursor stopped, found or not. The cursor starts below the range, so the first
ids handed out lie below `MIN_NET_ID`.

The main fact is the closed form of a pool that only ever reserves: the n-th
reservation returns n until the top of the range is reached, and the top id for
ever after.
-/

import Mathlib.Data.Finset.Image
import Mathlib.Data.Finset.Range

namespace NetManager

/-! ### The allocator -/

/-- `NetIdManager::MIN_NET_ID`. -/
def minNetId : Int := 100

/-- `NetIdManager::TUN_IF_RANGE`. -/
def tunIfRange : Int := 0x0400

/-- `NetIdManager::MAX_NET_ID`, also the value of `maxNetId_`, which nothing writes. -/
def maxNetId : Int := 65535 - tunIfRange

/-- The state of `NetIdManager`. `netIdInUse` holds the keys of `netIdInUse_`, whose values
are always `true` and never read. -/
structure NetIdManager where
  lastNetId : Int := -1
  netIdInUse : Finset Int := ∅

namespace NetIdManager

/-- The cursor after one iteration of the search. -/
def advance (lastNetId : Int) : Int :=
  if lastNetId < maxNetId then lastNetId + 1 else minNetId

/-- The search loop, with the iterations left. -/
def search : Nat → NetIdManager → NetIdManager
  | 0, manager => manager
  | iterations + 1, manager =>
    let next := advance manager.lastNetId
    if next ∈ manager.netIdInUse then
      search iterations { manager with lastNetId := next }
    else
      { lastNetId := next, netIdInUse := insert next manager.netIdInUse }

/-- The iterations of `for (int32_t i = MIN_NET_ID; i <= maxNetId_; ++i)`. -/
def searchLength : Nat := (maxNetId - minNetId + 1).toNat

/-- `NetIdManager::ReserveNetId`. -/
def reserveNetId (manager : NetIdManager) : Int × NetIdManager :=
  let searched := search searchLength manager
  (searched.lastNetId, searched)

/-- `NetIdManager::ReleaseNetId`. -/
def releaseNetId (manager : NetIdManager) (netId : Int) : NetIdManager :=
  { manager with netIdInUse := manager.netIdInUse.erase netId }

/-! ### The pool that never releases -/

/-- The number of reservations after which every id of the range is in use. -/
def capacity : Nat := (maxNetId + 1).toNat

theorem capacity_eq : capacity = 64512 := rfl

theorem maxNetId_eq : maxNetId = 64511 := rfl

theorem searchLength_eq : searchLength = 64411 + 1 := rfl

/-- The id of the reservation made after `count` others. -/
def netIdAt (count : Nat) : Int := min (count : Int) maxNetId

/-- The pool after `count` reservations and no release. -/
def reserved (count : Nat) : NetIdManager where
  lastNetId := min ((count : Int) - 1) maxNetId
  netIdInUse := (Finset.range (min count capacity)).image fun id : Nat => (id : Int)

theorem reserved_zero : reserved 0 = {} := rfl

theorem mem_reserved (count : Nat) (netId : Int) :
    netId ∈ (reserved count).netIdInUse ↔
      0 ≤ netId ∧ netId < count ∧ netId ≤ maxNetId := by
  simp only [reserved, Finset.mem_image, Finset.mem_range, lt_min_iff, capacity_eq, maxNetId_eq]
  constructor
  · rintro ⟨id, bounds, rfl⟩
    omega
  · intro bounds
    exact ⟨netId.toNat, by omega, by omega⟩

/-- A full range has no free id. -/
theorem mem_reserved_of_full {count : Nat} (full : capacity ≤ count) {netId : Int}
    (low : minNetId ≤ netId) (high : netId ≤ maxNetId) : netId ∈ (reserved count).netIdInUse := by
  rw [capacity_eq] at full
  rw [minNetId] at low
  rw [maxNetId_eq] at high
  rw [mem_reserved, maxNetId_eq]
  omega

/-- A search that meets only ids in use ends at the top of the range. -/
theorem search_exhausted (iterations : Nat) (manager : NetIdManager)
    (low : minNetId - 1 ≤ manager.lastNetId)
    (distance : manager.lastNetId + iterations = maxNetId)
    (full : ∀ netId, minNetId ≤ netId → netId ≤ maxNetId → netId ∈ manager.netIdInUse) :
    search iterations manager = { manager with lastNetId := maxNetId } := by
  induction iterations generalizing manager with
  | zero =>
    have top : manager.lastNetId = maxNetId := by simpa using distance
    rw [search, ← top]
  | succ iterations inductionHypothesis =>
    have next : advance manager.lastNetId = manager.lastNetId + 1 :=
      if_pos (by omega)
    have used : manager.lastNetId + 1 ∈ manager.netIdInUse :=
      full _ (by omega) (by omega)
    simp only [search, next, if_pos used]
    rw [inductionHypothesis]
    · show minNetId - 1 ≤ manager.lastNetId + 1
      omega
    · show manager.lastNetId + 1 + iterations = maxNetId
      omega
    · exact full

/-- Until the range is full a reservation returns the next number. -/
theorem reserveNetId_of_lt (count : Nat) (room : count < capacity) :
    reserveNetId (reserved count) = (netIdAt count, reserved (count + 1)) := by
  rw [capacity_eq] at room
  have cursor : (reserved count).lastNetId = (count : Int) - 1 := by
    simp only [reserved, maxNetId_eq]
    omega
  have next : advance (reserved count).lastNetId = count := by
    rw [cursor, advance, if_pos (by rw [maxNetId_eq]; omega)]
    omega
  have free : (count : Int) ∉ (reserved count).netIdInUse := by
    rw [mem_reserved]
    omega
  have found : search searchLength (reserved count) = reserved (count + 1) := by
    rw [searchLength_eq, search, next]
    simp only [if_neg free]
    simp only [reserved, NetIdManager.mk.injEq, maxNetId_eq, capacity_eq]
    refine ⟨by omega, ?_⟩
    rw [Nat.min_eq_left (by omega), Nat.min_eq_left (by omega), Finset.range_add_one,
      Finset.image_insert]
  rw [reserveNetId, found]
  simp only [reserved, netIdAt, maxNetId_eq, Prod.mk.injEq, and_true]
  omega

/-- Once the range is full a reservation returns the top id and changes nothing. -/
theorem reserveNetId_of_le (count : Nat) (full : capacity ≤ count) :
    reserveNetId (reserved count) = (netIdAt count, reserved (count + 1)) := by
  rw [capacity_eq] at full
  have same : reserved (count + 1) = reserved count := by
    simp only [reserved, NetIdManager.mk.injEq, maxNetId_eq, capacity_eq]
    exact ⟨by omega, by rw [Nat.min_eq_right (by omega), Nat.min_eq_right (by omega)]⟩
  have top : (reserved count).lastNetId = maxNetId := by
    simp only [reserved, maxNetId_eq]
    omega
  have used : ∀ netId, minNetId ≤ netId → netId ≤ maxNetId →
      netId ∈ (reserved count).netIdInUse := by
    intro netId low high
    exact mem_reserved_of_full (by rw [capacity_eq]; exact full) low high
  have next : advance (reserved count).lastNetId = minNetId := by
    rw [top, advance, if_neg (lt_irrefl _)]
  have wrapped : search searchLength (reserved count) = reserved count := by
    -- the first iteration wraps to the bottom of the range, the others climb back to the top
    rw [searchLength_eq, search, next]
    simp only [if_pos (used minNetId (le_refl _) (by decide))]
    have low : minNetId - 1 ≤ minNetId := by decide
    have distance : minNetId + (64411 : Nat) = maxNetId := by decide
    rw [search_exhausted 64411 { reserved count with lastNetId := minNetId } low distance used,
      ← top]
  rw [reserveNetId, wrapped, same, top]
  simp only [netIdAt, maxNetId_eq, Prod.mk.injEq, and_true]
  omega

/-- The closed form of the pool that never releases. -/
theorem reserveNetId_reserved (count : Nat) :
    reserveNetId (reserved count) = (netIdAt count, reserved (count + 1)) := by
  by_cases room : count < capacity
  · exact reserveNetId_of_lt count room
  · exact reserveNetId_of_le count (not_lt.mp room)

/-- One more reservation puts its id in use. -/
theorem netIdInUse_reserved_succ (count : Nat) :
    (reserved (count + 1)).netIdInUse = insert (netIdAt count) (reserved count).netIdInUse := by
  ext netId
  rw [Finset.mem_insert, mem_reserved, mem_reserved, netIdAt, maxNetId_eq]
  omega

/-- While the range is not full its top id is free. -/
theorem maxNetId_free {count : Nat} (room : count < capacity) :
    maxNetId ∉ (reserved count).netIdInUse := by
  rw [capacity_eq] at room
  rw [mem_reserved, maxNetId_eq]
  omega

/-- On a full range the next id is the last one again. -/
theorem lastNetId_of_full {count : Nat} (full : capacity ≤ count) :
    (reserved count).lastNetId = netIdAt count := by
  rw [capacity_eq] at full
  simp only [reserved, netIdAt, maxNetId_eq]
  omega

theorem netIdAt_mem_reserved {count total : Nat} (earlier : count < total) :
    netIdAt count ∈ (reserved total).netIdInUse := by
  rw [mem_reserved, netIdAt, maxNetId_eq]
  omega

theorem netIdAt_of_lt {count : Nat} (room : count < capacity) : netIdAt count = count := by
  rw [capacity_eq] at room
  simp only [netIdAt, maxNetId_eq]
  omega

theorem netIdAt_of_le {count : Nat} (full : capacity ≤ count + 1) : netIdAt count = maxNetId := by
  rw [capacity_eq] at full
  simp only [netIdAt, maxNetId_eq]
  omega

theorem netIdAt_bounds (count : Nat) : 0 ≤ netIdAt count ∧ netIdAt count ≤ maxNetId := by
  simp only [netIdAt, maxNetId_eq]
  omega

end NetIdManager

end NetManager
