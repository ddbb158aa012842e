/-
This file adds to Mathlib's association lists what a table that is filled in place needs.
A new key goes to the end, a key that is present keeps its place, and what the table says
of each key is a partial function: storing a value and erasing a key are updates of that
function.

A program may keep such a table as a list of entries of its own, in which it finds a key
by a name. When different keys have different names, its loops over the entries are the
operations of the table.
-/

import Mathlib.Data.List.AList
import Mathlib.Logic.Function.Basic

namespace Library

/-- Pairs with distinct keys, in the order the keys were added. -/
abbrev Table (Key Value : Type*) := AList fun _ : Key => Value

namespace Table

variable {Key Value : Type*} [DecidableEq Key]

/-- What the table says of each key. -/
def read (table : Table Key Value) : Key → Option Value := fun key => table.lookup key

/-- Add a key at the end. -/
def push (table : Table Key Value) (key : Key) (value : Value) (absent : key ∉ table) :
    Table Key Value where
  entries := table.entries ++ [⟨key, value⟩]
  nodupKeys := by
    have distinct := table.nodupKeys
    rw [AList.mem_keys] at absent
    rw [List.NodupKeys, List.keys, List.map_append, List.nodup_append]
    refine ⟨distinct, List.nodup_singleton _, ?_⟩
    rintro first firstListed second secondListed rfl
    rw [List.map_singleton, List.mem_singleton] at secondListed
    rw [secondListed] at firstListed
    exact absent firstListed

/-- Store a value: in place when the key is present, at the end when it is not. -/
def store (table : Table Key Value) (key : Key) (value : Value) : Table Key Value :=
  if present : key ∈ table then table.replace key value else table.push key value present

theorem kreplace_cons_same (key : Key) (value stored : Value) (rest : List (Σ _ : Key, Value)) :
    List.kreplace key value (⟨key, stored⟩ :: rest) = ⟨key, value⟩ :: rest := by
  unfold List.kreplace
  exact List.lookmap_cons_some _ _ (if_pos rfl)

theorem kreplace_cons_other {key head : Key} (different : key ≠ head) (value stored : Value)
    (rest : List (Σ _ : Key, Value)) :
    List.kreplace key value (⟨head, stored⟩ :: rest) =
      ⟨head, stored⟩ :: rest.kreplace key value := by
  unfold List.kreplace
  exact List.lookmap_cons_none _ _ (if_neg different)

/-- Replacing the value of a key that is present is an update. -/
theorem dlookup_kreplace {key : Key} (value : Value) {entries : List (Σ _ : Key, Value)}
    (present : key ∈ entries.keys) (other : Key) :
    (entries.kreplace key value).dlookup other =
      if other = key then some value else entries.dlookup other := by
  induction entries with
  | nil => exact absurd present (by simp)
  | cons entry rest inductionHypothesis =>
    obtain ⟨head, stored⟩ := entry
    by_cases here : key = head
    · subst here
      rw [kreplace_cons_same]
      by_cases same : other = key
      · rw [if_pos same, same, List.dlookup_cons_eq]
      · rw [if_neg same, List.dlookup_cons_ne _ _ same, List.dlookup_cons_ne _ _ same]
    · have later : key ∈ rest.keys := by
        rw [List.keys_cons, List.mem_cons] at present
        exact present.resolve_left here
      rw [kreplace_cons_other here]
      by_cases top : other = head
      · rw [top, List.dlookup_cons_eq, List.dlookup_cons_eq, if_neg (Ne.symm here)]
      · rw [List.dlookup_cons_ne _ _ top, List.dlookup_cons_ne _ _ top, inductionHypothesis later]

theorem read_store (table : Table Key Value) (key : Key) (value : Value) :
    (table.store key value).read = Function.update table.read key (some value) := by
  funext other
  rw [Function.update_apply]
  unfold store
  by_cases present : key ∈ table
  · rw [dif_pos present]
    exact dlookup_kreplace value present other
  · rw [dif_neg present]
    have appended : (table.push key value present).read other =
        (table.read other).or (List.dlookup other [(⟨key, value⟩ : Σ _ : Key, Value)]) :=
      List.dlookup_append table.entries [⟨key, value⟩] other
    rw [appended]
    by_cases same : other = key
    · have missing : table.read key = none := AList.lookup_eq_none.mpr present
      rw [if_pos same, same, missing, List.dlookup_cons_eq, Option.none_or]
    · rw [if_neg same, List.dlookup_cons_ne _ _ same, List.dlookup_nil, Option.or_none]

theorem read_erase (table : Table Key Value) (key : Key) :
    read (table.erase key) = Function.update table.read key none := by
  funext other
  rw [Function.update_apply]
  by_cases same : other = key
  · rw [if_pos same, same]
    exact AList.lookup_erase key table
  · rw [if_neg same]
    exact AList.lookup_erase_ne same

/-- The keys with a given value. -/
def keysOf [DecidableEq Value] (table : Table Key Value) (value : Value) : List Key :=
  (table.entries.filter fun entry => entry.2 = value).map Sigma.fst

omit [DecidableEq Key] in
theorem keysOf_nodup [DecidableEq Value] (table : Table Key Value) (value : Value) :
    (table.keysOf value).Nodup :=
  List.Nodup.sublist (List.filter_sublist.map Sigma.fst) table.nodupKeys

theorem mem_keysOf [DecidableEq Value] (table : Table Key Value) (key : Key) (value : Value) :
    key ∈ table.keysOf value ↔ table.read key = some value := by
  have listed : table.read key = some value ↔ (⟨key, value⟩ : Σ _ : Key, Value) ∈ table.entries :=
    AList.mem_lookup_iff
  rw [listed, keysOf, List.mem_map]
  constructor
  · rintro ⟨⟨found, stored⟩, member, rfl⟩
    obtain ⟨inTable, same⟩ := List.mem_filter.mp member
    rw [← of_decide_eq_true same]
    exact inTable
  · intro inTable
    exact ⟨⟨key, value⟩, List.mem_filter.mpr ⟨inTable, decide_eq_true rfl⟩, rfl⟩

/-- The pairs whose values are kept. -/
def keep (table : Table Key Value) (kept : Value → Bool) : Table Key Value where
  entries := table.entries.filter fun pair => kept pair.2
  nodupKeys := table.nodupKeys.sublist List.filter_sublist

omit [DecidableEq Key] in
theorem keep_keep (table : Table Key Value) (kept : Value → Bool) :
    (table.keep kept).keep kept = table.keep kept := by
  unfold keep
  simp only [List.filter_filter, Bool.and_self]

theorem read_keep (table : Table Key Value) (kept : Value → Bool) (key : Key) :
    (table.keep kept).read key = (table.read key).filter kept := by
  have listed (of : Table Key Value) (value : Value) :
      of.read key = some value ↔ (⟨key, value⟩ : Σ _ : Key, Value) ∈ of.entries :=
    AList.mem_lookup_iff
  ext value
  rw [Option.filter_eq_some_iff, listed, listed]
  exact List.mem_filter

end Table

/-! ### Tables kept as lists of entries -/

/-- How a program keeps the pairs of a table as entries, which it finds by a name. -/
structure Coding (Key Value Entry Name : Type*) where
  entry : Key → Value → Entry
  name : Entry → Name
  keyName : Key → Name
  name_entry : ∀ key value, name (entry key value) = keyName key
  keyName_injective : Function.Injective keyName

namespace Coding

variable {Key Value Entry Name : Type*} [DecidableEq Key] [DecidableEq Name]
variable (coding : Coding Key Value Entry Name)

/-- The entries of a table. -/
def encode (table : Table Key Value) : List Entry :=
  table.entries.map fun pair => coding.entry pair.1 pair.2

omit [DecidableEq Key] [DecidableEq Name] in
theorem name_eq_iff (key : Key) (pair : Σ _ : Key, Value) :
    coding.name (coding.entry pair.1 pair.2) = coding.keyName key ↔ key = pair.1 := by
  rw [coding.name_entry, coding.keyName_injective.eq_iff, eq_comm]

/-- Looking for a name finds the entry of its key. -/
theorem find?_encode (table : Table Key Value) (key : Key) :
    (coding.encode table).find? (fun entry => coding.name entry = coding.keyName key) =
      (table.read key).map (coding.entry key) := by
  have found := List.map_dlookup_eq_find key table.entries
  unfold encode
  rw [List.find?_map]
  simp only [Function.comp_def, coding.name_eq_iff]
  rw [← found, Option.map_map]
  rfl

theorem any_encode (table : Table Key Value) (key : Key) :
    (coding.encode table).any (fun entry => coding.name entry = coding.keyName key) =
      decide (key ∈ table) := by
  rw [Bool.eq_iff_iff, decide_eq_true_iff, AList.mem_keys, AList.keys, List.keys, List.mem_map]
  simp only [encode, List.any_map, List.any_eq_true, Function.comp_def, coding.name_eq_iff,
    decide_eq_true_iff]
  exact exists_congr fun pair => and_congr_right fun _ => eq_comm

/-- Erasing the first entry with a name erases the key. -/
theorem eraseP_encode (table : Table Key Value) (key : Key) :
    (coding.encode table).eraseP (fun entry => coding.name entry = coding.keyName key) =
      coding.encode (table.erase key) := by
  unfold encode
  rw [List.eraseP_map]
  simp only [Function.comp_def, coding.name_eq_iff]
  rfl

/-- Rewriting the first entry with a name replaces the value of the key. -/
theorem lookmap_encode (table : Table Key Value) (key : Key) (value : Value)
    (rewrite : Entry → Entry)
    (rewrites : ∀ stored, rewrite (coding.entry key stored) = coding.entry key value) :
    (coding.encode table).lookmap (fun entry =>
        if coding.name entry = coding.keyName key then some (rewrite entry) else none) =
      coding.encode (table.replace key value) := by
  show (table.entries.map _).lookmap _ = (table.entries.kreplace key value).map _
  generalize table.entries = entries
  induction entries with
  | nil => rfl
  | cons pair rest inductionHypothesis =>
    obtain ⟨head, stored⟩ := pair
    by_cases here : key = head
    · subst here
      rw [Table.kreplace_cons_same, List.map_cons, List.map_cons]
      refine List.lookmap_cons_some _ _ ?_
      rw [if_pos (coding.name_entry key stored), rewrites]
    · rw [Table.kreplace_cons_other here, List.map_cons, List.map_cons, ← inductionHypothesis]
      refine List.lookmap_cons_none _ _ (if_neg ?_)
      exact fun same => here ((coding.name_eq_iff key ⟨head, stored⟩).mp same)

omit [DecidableEq Key] [DecidableEq Name] in
/-- Keeping the entries of some values keeps those values. -/
theorem filter_encode (table : Table Key Value) {keepEntry : Entry → Bool} {kept : Value → Bool}
    (same : ∀ key value, keepEntry (coding.entry key value) = kept value) :
    (coding.encode table).filter keepEntry = coding.encode (table.keep kept) := by
  unfold encode
  rw [List.filter_map]
  exact congrArg _ (List.filter_congr fun pair _ => same pair.1 pair.2)

omit [DecidableEq Key] [DecidableEq Name] in
/-- Adding an entry at the end adds the key. -/
theorem append_encode (table : Table Key Value) (key : Key) (value : Value)
    (absent : key ∉ table) :
    coding.encode table ++ [coding.entry key value] =
      coding.encode (table.push key value absent) := by
  unfold encode Table.push
  rw [List.map_append]
  rfl

end Coding

end Library
