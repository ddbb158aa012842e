/-
This file gives the rules for codecs over sequences of cells. A writer appends cells; a
reader takes a value off the front, or fails. A reader is exact for an encoding when it reads
a value precisely from the cells of that value, whatever follows them. Exact readers compose
field by field, and a reader that first takes a count and then as many items is exact for the
lists whose length the count can hold.
-/

import Mathlib.Logic.Basic
import Mathlib.Data.List.Basic

namespace Library

section Codec

variable {Cell Value Field Item : Type}

/-- What works on a sequence of cells, or fails. A writer appends cells and returns nothing, a
reader returns a value that it took off the front. -/
abbrev CellM (Cell : Type) := StateT (List Cell) Option

/-! ### Writers -/

/-- The writer succeeds and appends these cells. -/
def Writes (writer : CellM Cell Unit) (written : List Cell) : Prop :=
  ∀ cells, writer.run cells = some ((), cells ++ written)

theorem writes_done : Writes (pure () : CellM Cell Unit) [] := by
  intro cells
  rw [List.append_nil]
  rfl

theorem Writes.andThen {first : CellM Cell Unit} {second : Unit → CellM Cell Unit}
    {firstCells secondCells : List Cell} (writesFirst : Writes first firstCells)
    (writesSecond : Writes (second ()) secondCells) :
    Writes (first >>= second) (firstCells ++ secondCells) := by
  intro cells
  rw [StateT.run_bind, writesFirst cells, ← List.append_assoc]
  exact writesSecond (cells ++ firstCells)

/-- Writing every item of a list, one after the other. -/
theorem writes_forM {write : Item → CellM Cell Unit} {encode : Item → List Cell}
    (writes : ∀ item, Writes (write item) (encode item)) (items : List Item) :
    Writes (items.forM write) (items.flatMap encode) := by
  induction items with
  | nil => exact writes_done
  | cons item rest inductionHypothesis => exact (writes item).andThen inductionHypothesis

/-! ### Exact readers -/

theorem run_bind_eq_some (reader : CellM Cell Field) (next : Field → CellM Cell Value)
    (cells : List Cell) (value : Value) (rest : List Cell) :
    (reader >>= next).run cells = some (value, rest) ↔
      ∃ read remaining, reader.run cells = some (read, remaining) ∧
        (next read).run remaining = some (value, rest) := by
  rw [StateT.run_bind, Option.bind_eq_bind, Option.bind_eq_some_iff, Prod.exists]

/-- The reader reads a value that is allowed, from the cells of that value and from no others. -/
def Exact (reader : CellM Cell Value) (encode : Value → List Cell) (Allowed : Value → Prop) :
    Prop :=
  ∀ cells value rest, reader.run cells = some (value, rest) ↔
    Allowed value ∧ cells = encode value ++ rest

/-- A value that is already known is read from no cells. -/
theorem exact_pure (known : Value) :
    Exact (pure known : CellM Cell Value) (fun _ => []) (· = known) := by
  intro cells value rest
  constructor
  · rintro ⟨⟩
    exact ⟨rfl, rfl⟩
  · rintro ⟨rfl, rfl⟩
    rfl

/-- A field is read, and then the rest of the value that has this field. -/
theorem Exact.bind {reader : CellM Cell Field} {encode : Field → List Cell}
    {Allowed : Field → Prop} {next : Field → CellM Cell Value}
    {encodeNext : Value → List Cell} {AllowedNext : Field → Value → Prop}
    (readsField : Exact reader encode Allowed) (field : Value → Field)
    (agrees : ∀ read value, AllowedNext read value → field value = read)
    (readsNext : ∀ read, Exact (next read) encodeNext (AllowedNext read)) :
    Exact (reader >>= next) (fun value => encode (field value) ++ encodeNext value)
      (fun value => Allowed (field value) ∧ AllowedNext (field value) value) := by
  intro cells value rest
  rw [run_bind_eq_some]
  constructor
  · rintro ⟨read, remaining, readFirst, readRest⟩
    obtain ⟨allowed, rfl⟩ := (readsField _ _ _).mp readFirst
    obtain ⟨allowedNext, rfl⟩ := (readsNext read _ _ _).mp readRest
    have same := agrees read value allowedNext
    subst same
    exact ⟨⟨allowed, allowedNext⟩, (List.append_assoc _ _ _).symm⟩
  · rintro ⟨⟨allowed, allowedNext⟩, rfl⟩
    exact ⟨field value, encodeNext value ++ rest,
      (readsField _ _ _).mpr ⟨allowed, List.append_assoc _ _ _⟩,
      (readsNext _ _ _ _).mpr ⟨allowedNext, rfl⟩⟩

/-- An encoding and a condition may be written differently. -/
theorem Exact.congr {reader : CellM Cell Value} {encode otherEncode : Value → List Cell}
    {Allowed OtherAllowed : Value → Prop} (reads : Exact reader encode Allowed)
    (sameValues : ∀ value, Allowed value ↔ OtherAllowed value)
    (sameCells : ∀ value, Allowed value → encode value = otherEncode value) :
    Exact reader otherEncode OtherAllowed := by
  intro cells value rest
  rw [reads cells value rest, ← sameValues]
  exact and_congr_right fun allowed => by rw [sameCells value allowed]

/-- A field that may be anything. -/
theorem Exact.field {reader : CellM Cell Field} {encode : Field → List Cell}
    {next : Field → CellM Cell Value} {encodeNext : Value → List Cell}
    {AllowedNext : Field → Value → Prop} (readsField : Exact reader encode fun _ => True)
    (field : Value → Field)
    (agrees : ∀ read value, AllowedNext read value → field value = read)
    (readsNext : ∀ read, Exact (next read) encodeNext (AllowedNext read)) :
    Exact (reader >>= next) (fun value => encode (field value) ++ encodeNext value)
      (fun value => AllowedNext (field value) value) :=
  (readsField.bind field agrees readsNext).congr (fun _ => and_iff_right trivial)
    fun _ _ => rfl

/-- An allowed value is read from its cells, and what follows them is left. -/
theorem Exact.reads_cells {reader : CellM Cell Value} {encode : Value → List Cell}
    {Allowed : Value → Prop} (reads : Exact reader encode Allowed) {value : Value}
    (allowed : Allowed value) (rest : List Cell) :
    reader.run (encode value ++ rest) = some (value, rest) :=
  (reads _ _ _).mpr ⟨allowed, rfl⟩

/-- An allowed value is read from its cells alone. -/
theorem Exact.reads_whole {reader : CellM Cell Value} {encode : Value → List Cell}
    {Allowed : Value → Prop} (reads : Exact reader encode Allowed) {value : Value}
    (allowed : Allowed value) : reader.run (encode value) = some (value, []) :=
  (reads _ _ _).mpr ⟨allowed, (List.append_nil _).symm⟩

/-- After an exact reader the next one goes on behind the cells of what was read. -/
theorem Exact.run_bind {reader : CellM Cell Field} {encode : Field → List Cell}
    {Allowed : Field → Prop} (reads : Exact reader encode Allowed)
    (next : Field → CellM Cell Value) (cells : List Cell) (value : Value) (rest : List Cell) :
    (reader >>= next).run cells = some (value, rest) ↔
      ∃ read remaining, Allowed read ∧ cells = encode read ++ remaining ∧
        (next read).run remaining = some (value, rest) := by
  rw [run_bind_eq_some]
  exact exists₂_congr fun read remaining =>
    (and_congr_left' (reads cells read remaining)).trans and_assoc

/-- What is made of one field is read from the cells of the field. -/
theorem Exact.made {reader : CellM Cell Field} {encodeField : Field → List Cell}
    (reads : Exact reader encodeField fun _ => True) (make : Field → Value)
    {encode : Value → List Cell} (cells : ∀ field, encode (make field) = encodeField field) :
    Exact (do return make (← reader)) encode fun value => ∃ field, value = make field := by
  intro all value rest
  rw [reads.run_bind]
  constructor
  · rintro ⟨field, remaining, _, rfl, ⟨⟩⟩
    exact ⟨⟨field, rfl⟩, by rw [cells]⟩
  · rintro ⟨⟨field, rfl⟩, rfl⟩
    exact ⟨field, rest, trivial, by rw [cells], rfl⟩

/-- What is made of two fields is read from the cells of both. -/
theorem Exact.madeOfTwo {reader : CellM Cell Field} {encodeField : Field → List Cell}
    (reads : Exact reader encodeField fun _ => True) {second : CellM Cell Item}
    {encodeSecond : Item → List Cell} (readsSecond : Exact second encodeSecond fun _ => True)
    (make : Field → Item → Value) {encode : Value → List Cell}
    (cells : ∀ field item, encode (make field item) = encodeField field ++ encodeSecond item) :
    Exact (do let field ← reader; let item ← second; return make field item) encode
      fun value => ∃ field item, value = make field item := by
  intro all value rest
  rw [reads.run_bind]
  constructor
  · rintro ⟨field, remaining, _, rfl, more⟩
    obtain ⟨item, _, _, rfl, ⟨⟩⟩ := (readsSecond.run_bind _ _ _ _).mp more
    exact ⟨⟨field, item, rfl⟩, by rw [cells, List.append_assoc]⟩
  · rintro ⟨⟨field, item, rfl⟩, rfl⟩
    refine ⟨field, encodeSecond item ++ rest, trivial, by rw [cells, List.append_assoc], ?_⟩
    exact (readsSecond.run_bind _ _ _ _).mpr ⟨item, rest, trivial, rfl, rfl⟩

/-- What is read is what was written. -/
theorem Exact.read_iff_written {reader : CellM Cell Value} {encode : Value → List Cell}
    {Allowed : Value → Prop} (reads : Exact reader encode Allowed)
    {write : Value → CellM Cell Unit} (writes : ∀ value, Writes (write value) (encode value))
    {value : Value} (allowed : Allowed value) (cells rest : List Cell) :
    reader.run cells = some (value, rest) ↔
      ∃ written, (write value).run [] = some ((), written) ∧ cells = written ++ rest := by
  rw [reads, and_iff_right allowed, writes value []]
  constructor
  · rintro rfl
    exact ⟨encode value, rfl, rfl⟩
  · rintro ⟨written, ⟨⟩, rfl⟩
    rfl

/-- What is written for the value is read back as the value, and what follows it is left. -/
def RoundTrips (write : Value → CellM Cell Unit) (reader : CellM Cell Value) (value : Value) :
    Prop :=
  ∃ written, (write value).run [] = some ((), written) ∧
    ∀ rest, reader.run (written ++ rest) = some (value, rest)

/-- An exact reader reads back the values it allows, and no others. -/
theorem Exact.roundTrips_iff {reader : CellM Cell Value} {encode : Value → List Cell}
    {Allowed : Value → Prop} (reads : Exact reader encode Allowed)
    {write : Value → CellM Cell Unit} (writes : ∀ value, Writes (write value) (encode value))
    (value : Value) : RoundTrips write reader value ↔ Allowed value := by
  constructor
  · rintro ⟨written, wrote, back⟩
    exact ((reads _ _ _).mp (back [])).1
  · intro allowed
    exact ⟨encode value, writes value [], reads.reads_cells allowed⟩

/-! ### Single cells -/

/-- Append one cell. -/
def writeCell (cell : Cell) : CellM Cell Unit := fun cells => some ((), cells ++ [cell])

/-- Take one cell off the front, when it holds what is wanted. -/
def readCell (take : Cell → Option Value) : CellM Cell Value
  | [] => none
  | cell :: rest => (take cell).map fun value => (value, rest)

theorem writes_cell (cell : Cell) : Writes (writeCell cell) [cell] := fun _ => rfl

theorem exact_cell {take : Cell → Option Value} {make : Value → Cell}
    (takes : ∀ cell value, take cell = some value ↔ cell = make value) :
    Exact (readCell take) (fun value => [make value]) fun _ => True := by
  intro cells value rest
  rw [and_iff_right trivial]
  cases cells with
  | nil =>
    exact iff_of_false (Option.some_ne_none _).symm (List.cons_ne_nil _ _).symm
  | cons cell remaining =>
    show (take cell).map (fun value => (value, remaining)) = _ ↔ _
    rw [Option.map_eq_some_iff, List.singleton_append, List.cons.injEq, ← takes]
    constructor
    · rintro ⟨read, taken, ⟨⟩⟩
      exact ⟨taken, rfl⟩
    · rintro ⟨taken, rfl⟩
      exact ⟨value, taken, rfl⟩

/-! ### Counted lists -/

/-- Read so many items, one after the other. -/
def readMany (reader : CellM Cell Item) : Nat → CellM Cell (List Item)
  | 0 => pure []
  | count + 1 => do
    let item ← reader
    let items ← readMany reader count
    return item :: items

theorem exact_readMany {reader : CellM Cell Item} {encode : Item → List Cell}
    {Allowed : Item → Prop} (reads : Exact reader encode Allowed) (count : Nat) :
    Exact (readMany reader count) (fun items => items.flatMap encode)
      (fun items => items.length = count ∧ ∀ item ∈ items, Allowed item) := by
  induction count with
  | zero =>
    refine (exact_pure []).congr (fun items => ?_) (fun items empty => ?_)
    · constructor
      · rintro rfl
        exact ⟨rfl, fun _ member => absurd member List.not_mem_nil⟩
      · rintro ⟨empty, _⟩
        exact List.length_eq_zero_iff.mp empty
    · rw [empty]
      rfl
  | succ count inductionHypothesis =>
    intro cells items rest
    rw [readMany, run_bind_eq_some]
    simp only [run_bind_eq_some]
    constructor
    · rintro ⟨item, remaining, readItem, others, last, readOthers, ⟨⟩⟩
      obtain ⟨allowed, rfl⟩ := (reads _ _ _).mp readItem
      obtain ⟨⟨counted, allAllowed⟩, rfl⟩ := (inductionHypothesis _ _ _).mp readOthers
      refine ⟨⟨congrArg (· + 1) counted, List.forall_mem_cons.mpr ⟨allowed, allAllowed⟩⟩, ?_⟩
      rw [List.flatMap_cons, List.append_assoc]
    · rintro ⟨⟨counted, allAllowed⟩, rfl⟩
      cases items with
      | nil => cases counted
      | cons item others =>
        obtain ⟨allowed, othersAllowed⟩ := List.forall_mem_cons.mp allAllowed
        refine ⟨item, others.flatMap encode ++ rest, (reads _ _ _).mpr ⟨allowed, ?_⟩,
          others, rest, (inductionHypothesis _ _ _).mpr ⟨⟨?_, othersAllowed⟩, rfl⟩, rfl⟩
        · rw [List.flatMap_cons, List.append_assoc]
        · exact Nat.succ.inj counted

/-- Push so many items that are read at the back of a list: the list after them, or with the items
before the first one that could not be read, and then nothing remains. -/
def pushMany (reader : CellM Cell Item) : Nat → List Item → List Cell →
    List Item × Option (List Cell)
  | 0, items, cells => (items, some cells)
  | count + 1, items, cells =>
    match reader.run cells with
    | none => (items, none)
    | some (item, rest) => pushMany reader count (items ++ [item]) rest

/-- What can be read as a list can be pushed. -/
theorem pushMany_of_readMany {reader : CellM Cell Item} {count : Nat} {cells rest : List Cell}
    {read : List Item} (reads : (readMany reader count).run cells = some (read, rest))
    (items : List Item) : pushMany reader count items cells = (items ++ read, some rest) := by
  induction count generalizing cells read items with
  | zero =>
    cases reads
    rw [List.append_nil]
    rfl
  | succ count inductionHypothesis =>
    rw [readMany, run_bind_eq_some] at reads
    obtain ⟨item, remaining, readItem, readRest⟩ := reads
    rw [run_bind_eq_some] at readRest
    obtain ⟨others, last, readOthers, ⟨⟩⟩ := readRest
    unfold pushMany
    rw [readItem]
    dsimp only
    rw [inductionHypothesis readOthers, List.append_assoc, List.singleton_append]

/-- What is pushed without a failure can be read as a list. -/
theorem readMany_of_pushMany {reader : CellM Cell Item} {count : Nat}
    {items pushed : List Item} {cells rest : List Cell}
    (pushes : pushMany reader count items cells = (pushed, some rest)) :
    ∃ read, (readMany reader count).run cells = some (read, rest) ∧ pushed = items ++ read := by
  induction count generalizing items cells with
  | zero =>
    cases pushes
    exact ⟨[], rfl, (List.append_nil _).symm⟩
  | succ count inductionHypothesis =>
    unfold pushMany at pushes
    cases readItem : reader.run cells with
    | none =>
      rw [readItem] at pushes
      cases pushes
    | some found =>
      obtain ⟨item, remaining⟩ := found
      rw [readItem] at pushes
      obtain ⟨others, readOthers, rfl⟩ := inductionHypothesis pushes
      refine ⟨item :: others, ?_, by rw [List.append_assoc, List.singleton_append]⟩
      rw [readMany, run_bind_eq_some]
      refine ⟨item, remaining, readItem, ?_⟩
      rw [run_bind_eq_some]
      exact ⟨others, rest, readOthers, rfl⟩

/-- A count, and then so many items. -/
theorem Exact.counted {Count : Type} {readCount : CellM Cell Count}
    {encodeCount : Count → List Cell} {reader : CellM Cell Item} {encode : Item → List Cell}
    {Allowed : Item → Prop} (readsCount : Exact readCount encodeCount fun _ => True)
    (reads : Exact reader encode Allowed) (toNat : Count → Nat) (ofNat : Nat → Count)
    (bound : Nat) (small : ∀ count, toNat count < bound)
    (ofNat_toNat : ∀ count, ofNat (toNat count) = count)
    (toNat_ofNat : ∀ length < bound, toNat (ofNat length) = length) :
    Exact (do readMany reader (toNat (← readCount)))
      (fun items => encodeCount (ofNat items.length) ++ items.flatMap encode)
      (fun items => items.length < bound ∧ ∀ item ∈ items, Allowed item) := by
  refine (readsCount.bind (fun items => ofNat items.length) ?_
    fun count => exact_readMany reads (toNat count)).congr (fun items => ?_) fun items _ => rfl
  · rintro count items ⟨counted, _⟩
    rw [counted, ofNat_toNat]
  · rw [true_and]
    refine and_congr_left fun _ => ⟨fun counted => counted ▸ small _, fun few => ?_⟩
    exact (toNat_ofNat _ few).symm

end Codec

end Library
