/-
This file develops reconciliation by difference. A client wants a list of items and
mirrors it in a table that knows an item by its key only. To go to a new list it adds
the keys of the items that are new, and then removes the keys of the items that are
gone. It compares whole items, the table compares keys.

The table never holds a key too many. It loses a key when an item that is gone shares
it with an item that stays or that was just added, and the exact condition under which
it does not is a condition on two consecutive lists.
-/

import Mathlib.Data.Finset.Basic
import Mathlib.Data.Finset.Dedup
import NetManager.Library.Run

namespace Library

/-- The items a client wants, and the keys the table holds. -/
structure Mirror (Item Key : Type*) where
  items : List Item
  table : Finset Key

namespace Mirror

variable {Item Key Update : Type*} [DecidableEq Item] [DecidableEq Key] (key : Item → Key)

/-! ### One update -/

/-- The keys of a list of items. -/
def keys (items : List Item) : Finset Key := (items.map key).toFinset

/-- The wanted items that are not present. -/
def missing (present wanted : List Item) : List Item := wanted.filter (· ∉ present)

/-- Go to a new list: all additions, then all removals. -/
def update (mirror : Mirror Item Key) (items : List Item) : Mirror Item Key where
  items := items
  table := (mirror.table ∪ keys key (missing mirror.items items)) \
    keys key (missing items mirror.items)

/-- Going from the old list to the new one adds the key. -/
def Adds (old new : List Item) (name : Key) : Prop := ∃ item ∈ new, item ∉ old ∧ key item = name

/-- Going from the old list to the new one removes the key. -/
def Drops (old new : List Item) (name : Key) : Prop := ∃ item ∈ old, item ∉ new ∧ key item = name

/-- The table holds the keys of the items. -/
def Exact (mirror : Mirror Item Key) : Prop := mirror.table = keys key mirror.items

/-- No item that is gone shares its key with an item of the new list. -/
def DropsApart (old new : List Item) : Prop :=
  ∀ item ∈ old, item ∉ new → ∀ other ∈ new, key other ≠ key item

omit [DecidableEq Item] in
@[simp] theorem mem_keys (items : List Item) (name : Key) :
    name ∈ keys key items ↔ ∃ item ∈ items, key item = name := by
  unfold keys
  rw [List.mem_toFinset, List.mem_map]

omit [DecidableEq Key] in
@[simp] theorem mem_missing (present wanted : List Item) (item : Item) :
    item ∈ missing present wanted ↔ item ∈ wanted ∧ item ∉ present := by
  unfold missing
  rw [List.mem_filter, decide_eq_true_iff]

omit [DecidableEq Item] in
theorem Exact.table_eq {mirror : Mirror Item Key} (precise : mirror.Exact key) :
    mirror.table = keys key mirror.items := precise

theorem mem_update (mirror : Mirror Item Key) (items : List Item) (name : Key) :
    name ∈ (mirror.update key items).table ↔
      (name ∈ mirror.table ∨ Adds key mirror.items items name) ∧
        ¬ Drops key mirror.items items name := by
  simp only [update, Finset.mem_sdiff, Finset.mem_union, mem_keys, mem_missing, Adds, Drops,
    and_assoc]

/-- What the table has after an update is listed now, or it was there and was not listed before. -/
theorem mem_update_source {mirror : Mirror Item Key} {items : List Item} {name : Key}
    (member : name ∈ (mirror.update key items).table) :
    name ∈ keys key items ∨ name ∈ mirror.table ∧ name ∉ keys key mirror.items := by
  obtain ⟨source, kept⟩ := (mem_update key mirror items name).mp member
  rcases source with stored | ⟨item, listed, _, this⟩
  · by_cases named : name ∈ keys key mirror.items
    · obtain ⟨item, listed, this⟩ := (mem_keys key mirror.items name).mp named
      have stays : item ∈ items := by
        by_contra gone
        exact kept ⟨item, listed, gone, this⟩
      exact Or.inl ((mem_keys key items name).mpr ⟨item, stays, this⟩)
    · exact Or.inr ⟨stored, named⟩
  · exact Or.inl ((mem_keys key items name).mpr ⟨item, listed, this⟩)

/-- A table without a key too many has none after the update. -/
theorem update_subset {mirror : Mirror Item Key} (subset : mirror.table ⊆ keys key mirror.items)
    (items : List Item) : (mirror.update key items).table ⊆ keys key items := by
  intro name member
  rcases mem_update_source key member with listed | ⟨stored, unlisted⟩
  · exact listed
  · exact absurd (subset stored) unlisted

/-- An exact table stays exact exactly when the items that are gone have keys of their own. -/
theorem exact_update_iff {mirror : Mirror Item Key} (before : mirror.Exact key)
    (items : List Item) :
    (mirror.update key items).Exact key ↔ DropsApart key mirror.items items := by
  constructor
  · intro after item listed gone other otherListed shared
    have stored : key item ∈ (mirror.update key items).table := by
      rw [after.table_eq]
      exact (mem_keys key items _).mpr ⟨other, otherListed, shared⟩
    exact ((mem_update key mirror items _).mp stored).2 ⟨item, listed, gone, rfl⟩
  · intro apart
    refine Finset.Subset.antisymm (update_subset key before.table_eq.subset items) ?_
    intro name wanted
    obtain ⟨item, listed, this⟩ := (mem_keys key items name).mp wanted
    refine (mem_update key mirror items name).mpr ⟨?_, ?_⟩
    · by_cases present : item ∈ mirror.items
      · rw [before.table_eq]
        exact Or.inl ((mem_keys key mirror.items name).mpr ⟨item, present, this⟩)
      · exact Or.inr ⟨item, listed, present, this⟩
    · rintro ⟨gone, goneListed, absent, rfl⟩
      exact apart gone goneListed absent item listed this

/-! ### Runs of updates -/

variable (wanted : Update → List Item)

/-- A request asks for a list. -/
def step (mirror : Mirror Item Key) (request : Update) : Mirror Item Key :=
  mirror.update key (wanted request)

/-- The list after a request, as far as the client is concerned. -/
def follow (_ : List Item) (request : Update) : List Item := wanted request

/-- The list the last of the requests asked for. -/
def latest (items : List Item) (requests : List Update) : List Item :=
  run (follow wanted) items requests

/-- No request removes the key. -/
def Spared (name : Key) (items : List Item) (requests : List Update) : Prop :=
  Guarded (follow wanted) (fun old request => ¬ Drops key old (wanted request) name) items requests

/-- Some request adds the key, and neither it nor a later one removes it. -/
def Lasting (name : Key) (items : List Item) (requests : List Update) : Prop :=
  ∃ before request after, requests = before ++ request :: after ∧
    Adds key (latest wanted items before) (wanted request) name ∧
      Spared key wanted name (latest wanted items before) (request :: after)

/-- A run leaves the items of its last request. -/
theorem items_run (mirror : Mirror Item Key) (requests : List Update) :
    (run (step key wanted) mirror requests).items = latest wanted mirror.items requests :=
  run_reading (step key wanted) Mirror.items (follow wanted) (fun _ _ => rfl) mirror requests

/-- A key is in the table after a run when it was there and was spared, or was added to last. -/
theorem mem_run (name : Key) (mirror : Mirror Item Key) (requests : List Update) :
    name ∈ (run (step key wanted) mirror requests).table ↔
      (name ∈ mirror.table ∧ Spared key wanted name mirror.items requests) ∨
        Lasting key wanted name mirror.items requests := by
  induction requests generalizing mirror with
  | nil =>
    constructor
    · exact fun stored => Or.inl ⟨stored, guarded_nil _ _ _⟩
    · rintro (⟨stored, _⟩ | ⟨before, request, after, split, _⟩)
      · exact stored
      · exact absurd split (by simp)
  | cons first rest inductionHypothesis =>
    rw [run_cons, inductionHypothesis]
    constructor
    · rintro (⟨stored, later⟩ | ⟨before, request, after, split, adds, later⟩)
      · obtain ⟨source, kept⟩ := (mem_update key mirror (wanted first) name).mp stored
        have spared : Spared key wanted name mirror.items (first :: rest) :=
          (guarded_cons _ _ mirror.items first rest).mpr ⟨kept, later⟩
        rcases source with old | added
        · exact Or.inl ⟨old, spared⟩
        · exact Or.inr ⟨[], first, rest, rfl, added, spared⟩
      · exact Or.inr ⟨first :: before, request, after, by rw [split, List.cons_append], adds,
          later⟩
    · rintro (⟨stored, spared⟩ | ⟨before, request, after, split, adds, spared⟩)
      · obtain ⟨kept, later⟩ := (guarded_cons _ _ mirror.items first rest).mp spared
        exact Or.inl ⟨(mem_update key mirror (wanted first) name).mpr ⟨Or.inl stored, kept⟩, later⟩
      · cases before with
        | nil =>
          obtain ⟨rfl, rfl⟩ := List.cons.inj split
          obtain ⟨kept, later⟩ := (guarded_cons _ _ mirror.items first rest).mp spared
          exact Or.inl ⟨(mem_update key mirror (wanted first) name).mpr ⟨Or.inr adds, kept⟩,
            later⟩
        | cons head before =>
          obtain ⟨rfl, same⟩ := List.cons.inj split
          exact Or.inr ⟨before, request, after, same, adds, spared⟩

/-- At the end of a run from the empty table, the table is exact exactly when every key the client
wants was added to last. -/
theorem exact_run_iff {mirror : Mirror Item Key} (empty : mirror.table = ∅)
    (requests : List Update) :
    (run (step key wanted) mirror requests).table =
        keys key (latest wanted mirror.items requests) ↔
      ∀ item ∈ latest wanted mirror.items requests,
        Lasting key wanted (key item) mirror.items requests := by
  have subset : (run (step key wanted) mirror requests).table ⊆
      keys key (run (step key wanted) mirror requests).items :=
    run_invariant (step key wanted) (fun mirror => mirror.table ⊆ keys key mirror.items)
      (fun mirror request subset => update_subset key subset (wanted request))
      (by rw [empty]; exact Finset.empty_subset _) requests
  rw [items_run] at subset
  constructor
  · intro precise item listed
    have stored : key item ∈ (run (step key wanted) mirror requests).table := by
      rw [precise]
      exact (mem_keys key _ _).mpr ⟨item, listed, rfl⟩
    refine ((mem_run key wanted _ mirror requests).mp stored).resolve_left ?_
    rw [empty]
    exact fun absent => absurd absent.1 (Finset.notMem_empty _)
  · intro lasting
    refine Finset.Subset.antisymm subset fun name member => ?_
    obtain ⟨item, listed, rfl⟩ := (mem_keys key _ name).mp member
    exact (mem_run key wanted _ mirror requests).mpr (Or.inr (lasting item listed))

/-- The table is exact at every moment of a run exactly when every request drops apart. -/
theorem always_exact_iff {mirror : Mirror Item Key} (before : mirror.Exact key)
    (requests : List Update) :
    Always (step key wanted) (Exact key) mirror requests ↔
      Guarded (follow wanted) (fun old request => DropsApart key old (wanted request))
        mirror.items requests := by
  rw [← guarded_reading (step key wanted) Mirror.items (follow wanted) (fun _ _ => rfl)]
  refine always_iff_guarded (step key wanted) (fun _ _ (_ : True) => trivial) ?_ trivial ?_ requests
  · exact fun mirror request _ precise => exact_update_iff key precise (wanted request)
  · exact before

end Mirror

end Library
