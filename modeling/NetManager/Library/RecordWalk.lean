/-
This file is about walking over records that lie one after the other in a memory, each beginning
with a header that claims how long the record is, and padded to four bytes. The walk goes on while
a header fits in what remains and claims no more than what remains. So every header it looks at is
inside, whatever the headers claim, and it ends; over records that are laid out with their true
sizes it visits each of them.
-/

import NetManager.Library.ByteOrder
import NetManager.Library.Traced
import Mathlib.Data.List.Forall2
import Mathlib.Data.Nat.Bitwise

namespace Library

/-! ### Padding -/

/-- Round up to a multiple of four: `(size + 4U - 1) & ~(4U - 1)`. -/
def align (size : UInt32) : UInt32 := (size + 3) &&& ~~~3

/-- Clearing the last two bits. -/
theorem and_mask {number : Nat} (small : number < 2 ^ 32) :
    number &&& 4294967292 = number / 4 * 4 := by
  refine Nat.eq_of_testBit_eq fun index => ?_
  have shifted : number / 4 * 4 = (number >>> 2) <<< 2 := by
    rw [Nat.shiftRight_eq_div_pow, Nat.shiftLeft_eq]
  have mask : (4294967292 : Nat) = (2 ^ 30 - 1) <<< 2 := by decide
  rw [shifted, mask, Nat.testBit_and, Nat.testBit_shiftLeft, Nat.testBit_shiftLeft,
    Nat.testBit_shiftRight, Nat.testBit_two_pow_sub_one]
  by_cases low : 2 ≤ index
  · have place : 2 + (index - 2) = index := by omega
    rw [place]
    by_cases high : index - 2 < 30
    · simp [low, high]
    · have beyond : number.testBit index = false := by
        refine Nat.testBit_lt_two_pow (lt_of_lt_of_le small ?_)
        exact Nat.pow_le_pow_right (by decide) (by omega)
      simp [beyond]
  · simp [low]

theorem toNat_align {size : UInt32} (small : size.toNat + 3 < 2 ^ 32) :
    (align size).toNat = (size.toNat + 3) / 4 * 4 := by
  have mask : (~~~3 : UInt32).toNat = 4294967292 := by decide
  have three : (3 : UInt32).toNat = 3 := rfl
  unfold align
  rw [UInt32.toNat_and, UInt32.toNat_add, mask, three, Nat.mod_eq_of_lt small, and_mask small]

/-- What remains after a record: `len -= align(size)`, an `int` again. -/
def remaining (len : Int32) (size : UInt32) : Int32 :=
  Int32.ofInt (len.toInt - (align size).toNat)

/-- A size that does not exceed an `int` is rounded up without overflow. -/
theorem toNat_align_of_le {size : UInt32} {len : Int32} (fits : (size.toNat : Int) ≤ len.toInt) :
    (align size).toNat = (size.toNat + 3) / 4 * 4 := by
  have small := len.toInt_lt
  exact toNat_align (by omega)

theorem toInt_remaining {size : UInt32} {len : Int32} (fits : (size.toNat : Int) ≤ len.toInt) :
    (remaining len size).toInt = len.toInt - (align size).toNat := by
  have small := len.toInt_lt
  have rounded := toNat_align_of_le fits
  exact Int32.toInt_ofInt_of_le (by omega) (by omega)

/-! ### Walking -/

/-- A kind of records: the size of the header, which is not empty, the access to it, and the size
of the record that the header claims. -/
structure RecordKind (Access : Type) where
  header : Nat
  header_pos : 0 < header
  touch : Nat → Access
  size : List UInt8 → Nat → Option UInt32

namespace RecordKind

variable {Access State : Type} (kind : RecordKind Access) (memory : List UInt8)

/-- What remains gets less. -/
theorem remaining_lt {size : UInt32} {len : Int32}
    (fits : kind.header ≤ size.toNat ∧ (size.toNat : Int) ≤ len.toInt) :
    (remaining len size).toInt.toNat < len.toInt.toNat := by
  have positive := kind.header_pos
  have rounded := toNat_align_of_le fits.2
  rw [toInt_remaining fits.2]
  omega

/-- Visit the records one after the other, while there is one. -/
def walk (visit : Nat → State → Traced Access State) (offset : Nat) (len : Int32)
    (state : State) : Traced Access State :=
  if (kind.header : Int) ≤ len.toInt then do
    Traced.touch (kind.touch offset)
    let size ← Traced.require (kind.size memory offset)
    if _fits : kind.header ≤ size.toNat ∧ (size.toNat : Int) ≤ len.toInt then do
      let next ← visit offset state
      walk visit (offset + (align size).toNat) (remaining len size) next
    else pure state
  else pure state
termination_by len.toInt.toNat
decreasing_by exact kind.remaining_lt _fits

/-- The records a walk visits. -/
def visited (offset : Nat) (len : Int32) : List Nat :=
  if (kind.header : Int) ≤ len.toInt then
    match kind.size memory offset with
    | none => []
    | some size =>
      if _fits : kind.header ≤ size.toNat ∧ (size.toNat : Int) ≤ len.toInt then
        offset :: visited (offset + (align size).toNat) (remaining len size)
      else []
  else []
termination_by len.toInt.toNat
decreasing_by exact kind.remaining_lt _fits

variable {kind memory}

theorem visited_short {offset : Nat} {len : Int32} (short : len.toInt < kind.header) :
    kind.visited memory offset len = [] := by
  have ended : ¬ (kind.header : Int) ≤ len.toInt := Int.not_le.mpr short
  rw [visited, if_neg ended]

theorem visited_record {offset : Nat} {len : Int32} {size : UInt32}
    (claimed : kind.size memory offset = some size) (header : kind.header ≤ size.toNat)
    (fits : (size.toNat : Int) ≤ len.toInt) :
    kind.visited memory offset len =
      offset :: kind.visited memory (offset + (align size).toNat) (remaining len size) := by
  have more : (kind.header : Int) ≤ len.toInt := by omega
  rw [visited, if_pos more, claimed]
  exact dif_pos ⟨header, fits⟩

/-- Without a record there is nothing to visit. -/
theorem visited_oversized {offset : Nat} {len : Int32} {size : UInt32}
    (claimed : kind.size memory offset = some size)
    (oversized : ¬ (kind.header ≤ size.toNat ∧ (size.toNat : Int) ≤ len.toInt)) :
    kind.visited memory offset len = [] := by
  rw [visited, claimed]
  split
  · exact dif_neg oversized
  · rfl

theorem visited_missing {offset : Nat} {len : Int32}
    (missing : kind.size memory offset = none) : kind.visited memory offset len = [] := by
  rw [visited, missing]
  split
  · rfl
  · rfl

/-- A visited record has a header that claims no more than what is left of the memory. -/
theorem claims_of_visited {offset : Nat} {len : Int32} {record : Nat}
    (member : record ∈ kind.visited memory offset len) :
    ∃ size, kind.size memory record = some size ∧ kind.header ≤ size.toNat ∧
      (record + size.toNat : Int) ≤ offset + len.toInt := by
  induction offset, len using visited.induct kind memory with
  | case1 offset len more missing =>
    rw [visited_missing missing] at member
    exact absurd member List.not_mem_nil
  | case2 offset len more size claimed fits inductionHypothesis =>
    rw [visited_record claimed fits.1 fits.2] at member
    rcases List.mem_cons.mp member with rfl | later
    · exact ⟨size, claimed, fits.1, by omega⟩
    · obtain ⟨claim, read, header, inside⟩ := inductionHypothesis later
      have left := toInt_remaining fits.2
      exact ⟨claim, read, header, by omega⟩
  | case3 offset len more size claimed oversized =>
    rw [visited_oversized claimed oversized] at member
    exact absurd member List.not_mem_nil
  | case4 offset len short =>
    rw [visited_short (Int.not_le.mp short)] at member
    exact absurd member List.not_mem_nil

/-! ### Records that are laid out with their true sizes -/

/-- The bytes are a record: the header claims as many of them as it counts, and the others pad it
to four bytes. -/
structure LaidOut (kind : RecordKind Access) (bytes : List UInt8) (size : UInt32) : Prop where
  header_le : kind.header ≤ size.toNat
  padded : bytes.length = (size.toNat + 3) / 4 * 4
  claimed : ∀ memory offset, LiesAt memory bytes offset → kind.size memory offset = some size

/-- The bytes are a record that lies at the place, and what its header claims is inside. -/
structure FoundAt (kind : RecordKind Access) (memory : List UInt8) (bound : Int)
    (bytes : List UInt8) (size : UInt32) (place : Nat) : Prop where
  laidOut : LaidOut kind bytes size
  lies : LiesAt memory bytes place
  inside : (place + size.toNat : Int) ≤ bound

section LaidOut

variable {Record : Type} {encode : Record → List UInt8} {size : Record → UInt32}
variable {records : List Record} {offset spare : Nat} {len : Int32} {bound : Int}

theorem length_le_length_flatMap {record : Record} (member : record ∈ records) :
    (encode record).length ≤ (records.flatMap encode).length := by
  rw [List.flatMap_def]
  exact (List.infix_of_mem_flatten (List.mem_map_of_mem member)).length_le

/-- Up to the end of the memory, of which the padding of the last record may be missing, exactly
the records that lie there are visited. -/
theorem visited_laidOut (reach : offset + len.toInt = bound)
    (laid : ∀ record ∈ records, LaidOut kind (encode record) (size record))
    (lies : LiesAt memory (records.flatMap encode) offset)
    (total : len.toInt + spare = (records.flatMap encode).length)
    (counted : ∀ last ∈ records.getLast?,
      (size last).toNat + spare ≤ (encode last).length) :
    List.Forall₂
      (fun place record => FoundAt kind memory bound (encode record) (size record) place)
      (kind.visited memory offset len) records := by
  have header := kind.header_pos
  induction records generalizing offset len with
  | nil =>
    rw [List.flatMap_nil, List.length_nil] at total
    rw [visited_short (by omega)]
    exact List.Forall₂.nil
  | cons record rest inductionHypothesis =>
    obtain ⟨here, later⟩ := List.forall_mem_cons.mp laid
    rw [List.flatMap_cons, List.length_append, Nat.cast_add] at total
    rw [List.flatMap_cons] at lies
    have claimed := here.claimed memory offset lies.left
    have padded := here.padded
    have fits : ((size record).toNat : Int) ≤ len.toInt := by
      cases last : rest.getLast? with
      | none =>
        obtain rfl := List.getLast?_eq_none_iff.mp last
        have own := counted record rfl
        rw [List.flatMap_nil, List.length_nil] at total
        omega
      | some final =>
        have own := counted final (by rw [List.getLast?_cons, last]; rfl)
        have whole : (encode final).length ≤ (rest.flatMap encode).length :=
          length_le_length_flatMap (List.mem_of_getLast? last)
        omega
    have rounded := toNat_align_of_le fits
    have left := toInt_remaining fits
    have next : offset + (align (size record)).toNat = offset + (encode record).length := by
      rw [rounded, padded]
    rw [visited_record claimed here.header_le fits, next]
    refine List.Forall₂.cons ⟨here, lies.left, by omega⟩
      (inductionHypothesis (by push_cast; omega) later lies.right (by omega) ?_)
    intro last member
    refine counted last ?_
    rw [List.getLast?_cons, Option.mem_def, Option.mem_def.mp member]
    rfl

/-- What holds where a record is found holds at every place. -/
theorem forall_of_forall₂ {Place : Type} {Related : Place → Record → Prop} {places : List Place}
    (related : List.Forall₂ Related places records) {Good : Place → Prop}
    (good : ∀ place record, Related place record → Good place) : ∀ place ∈ places, Good place := by
  have both := related.imp fun place record holds => And.intro (good place record holds) holds
  exact ((List.forall₂_and_left places records).mp both).1

/-- What is read at the places that are picked is what the records contain, in order. -/
theorem map_filter_eq_filterMap {Place Value : Type} {Related : Place → Record → Prop}
    {places : List Place} (related : List.Forall₂ Related places records)
    {picked : Place → Bool} {read : Place → Value} {content : Record → Option Value}
    (same : ∀ place record, Related place record →
      (if picked place then some (read place) else none) = content record) :
    (places.filter picked).map read = records.filterMap content := by
  induction related with
  | nil => rfl
  | cons here later inductionHypothesis =>
    rw [List.filter_cons, List.filterMap_cons, ← same _ _ here]
    split
    · exact congrArg (List.cons _) inductionHypothesis
    · exact inductionHypothesis

end LaidOut

/-! ### What a walk does -/

theorem walk_record {visit : Nat → State → Traced Access State} {offset : Nat} {len : Int32}
    {size : UInt32} (claimed : kind.size memory offset = some size)
    (header : kind.header ≤ size.toNat) (fits : (size.toNat : Int) ≤ len.toInt) (state : State) :
    kind.walk memory visit offset len state = (do
      Traced.touch (kind.touch offset)
      let next ← visit offset state
      kind.walk memory visit (offset + (align size).toNat) (remaining len size) next) := by
  have more : (kind.header : Int) ≤ len.toInt := by omega
  rw [walk, if_pos more, claimed, Traced.require_some_bind, dif_pos ⟨header, fits⟩]

theorem walk_oversized {visit : Nat → State → Traced Access State} {offset : Nat} {len : Int32}
    {size : UInt32} (more : (kind.header : Int) ≤ len.toInt)
    (claimed : kind.size memory offset = some size)
    (oversized : ¬ (kind.header ≤ size.toNat ∧ (size.toNat : Int) ≤ len.toInt)) (state : State) :
    kind.walk memory visit offset len state = (do
      Traced.touch (kind.touch offset)
      pure state) := by
  rw [walk, if_pos more, claimed, Traced.require_some_bind, dif_neg oversized]

section Spec

variable {Inside : Access → Prop} {bound : Int} {visit : Nat → State → Traced Access State}
variable {Good : Nat → Prop} {next : State → Nat → State} {offset : Nat} {len : Int32}

/-- In a memory whose headers up to a bound can be read and are inside, a walk up to the bound is
safe exactly when every record it visits is good; and then it visits them in order. -/
theorem walk_spec
    (touches : ∀ record : Nat, (record + kind.header : Int) ≤ bound → Inside (kind.touch record))
    (readable : ∀ record : Nat, (record + kind.header : Int) ≤ bound →
      ∃ size, kind.size memory record = some size)
    (reach : (offset + len.toInt : Int) ≤ bound)
    (visits : ∀ record ∈ kind.visited memory offset len, ∀ state,
      (visit record state).Safe Inside ↔ Good record)
    (returns : ∀ record ∈ kind.visited memory offset len, Good record → ∀ state,
      (visit record state).result = some (next state record)) (state : State) :
    ((kind.walk memory visit offset len state).Safe Inside ↔
        ∀ record ∈ kind.visited memory offset len, Good record) ∧
      ((∀ record ∈ kind.visited memory offset len, Good record) →
        (kind.walk memory visit offset len state).result =
          some ((kind.visited memory offset len).foldl next state)) := by
  induction offset, len using visited.induct kind memory generalizing state with
  | case1 offset len more missing =>
    obtain ⟨size, claimed⟩ := readable offset (by omega)
    rw [missing] at claimed
    cases claimed
  | case2 offset len more size claimed fits inductionHypothesis =>
    have inside := touches offset (by omega)
    have left := toInt_remaining fits.2
    rw [visited_record claimed fits.1 fits.2] at visits returns ⊢
    rw [walk_record claimed fits.1 fits.2, List.forall_mem_cons]
    have safe := visits offset List.mem_cons_self state
    have returned := fun good => returns offset List.mem_cons_self good state
    have later := inductionHypothesis (by omega)
      (fun record member => visits record (List.mem_cons_of_mem _ member))
      (fun record member => returns record (List.mem_cons_of_mem _ member)) (next state offset)
    constructor
    · rw [Traced.safe_bind_of_result Inside rfl, Traced.safe_touch, Traced.safe_bind, safe,
        and_iff_right inside]
      refine and_congr_right fun good => ?_
      rw [returned good, ← later.1]
      exact ⟨fun after => after _ rfl, fun after _ same => Option.some.inj same ▸ after⟩
    · rintro ⟨good, rest⟩
      rw [Traced.result_bind, Traced.result_touch, Option.bind_some, Traced.result_bind,
        returned good, Option.bind_some, later.2 rest, List.foldl_cons]
  | case3 offset len more size claimed oversized =>
    have inside := touches offset (by omega)
    rw [visited_oversized claimed oversized, walk_oversized more claimed oversized]
    refine ⟨iff_of_true ?_ (List.forall_mem_nil _), fun _ => rfl⟩
    rw [Traced.safe_bind_of_result Inside rfl, Traced.safe_touch]
    exact ⟨inside, Traced.safe_pure Inside state⟩
  | case4 offset len short =>
    rw [visited_short (Int.not_le.mp short), walk, if_neg short]
    exact ⟨iff_of_true (Traced.safe_pure Inside state) (List.forall_mem_nil _), fun _ => rfl⟩

end Spec

end RecordKind

end Library
