/-
This file puts cells of one kind among cells of other kinds. A reader or a writer of the one
kind works on mixed cells as it does on its own: it sees the cells of its kind that stand at the
front. An exact reader stays exact, and a writer writes what it wrote.
-/

import NetManager.Library.Codec

namespace Library

section MixedCells

variable {Cell Other Value : Type}

/-- The cells of the first kind at the front. -/
def front : List (Cell ⊕ Other) → List Cell
  | .inl cell :: rest => cell :: front rest
  | _ => []

/-- What follows the cells of the first kind at the front. -/
def back : List (Cell ⊕ Other) → List (Cell ⊕ Other)
  | .inl _ :: rest => back rest
  | cells => cells

theorem front_append_back (cells : List (Cell ⊕ Other)) :
    (front cells).map Sum.inl ++ back cells = cells := by
  induction cells with
  | nil => rfl
  | cons head rest inductionHypothesis =>
    cases head with
    | inl cell => exact congrArg (Sum.inl cell :: ·) inductionHypothesis
    | inr other => rfl

theorem front_map_append (cells : List Cell) (rest : List (Cell ⊕ Other)) :
    front (cells.map Sum.inl ++ rest) = cells ++ front rest := by
  induction cells with
  | nil => rfl
  | cons cell others inductionHypothesis => exact congrArg (cell :: ·) inductionHypothesis

theorem back_map_append (cells : List Cell) (rest : List (Cell ⊕ Other)) :
    back (cells.map Sum.inl ++ rest) = back rest := by
  induction cells with
  | nil => rfl
  | cons cell others inductionHypothesis => exact inductionHypothesis

/-! ### Readers -/

/-- Read the cells of the first kind at the front, and put back what is left of them. -/
def among (reader : CellM Cell Value) : CellM (Cell ⊕ Other) Value := fun cells =>
  (reader.run (front cells)).map fun (value, rest) => (value, rest.map Sum.inl ++ back cells)

theorem among_run_eq_some (reader : CellM Cell Value) (cells : List (Cell ⊕ Other))
    (value : Value) (rest : List (Cell ⊕ Other)) :
    (among reader).run cells = some (value, rest) ↔
      ∃ left, reader.run (front cells) = some (value, left) ∧
        left.map Sum.inl ++ back cells = rest := by
  show (reader.run (front cells)).map _ = _ ↔ _
  rw [Option.map_eq_some_iff]
  constructor
  · rintro ⟨⟨read, left⟩, reads, ⟨⟩⟩
    exact ⟨left, reads, rfl⟩
  · rintro ⟨left, reads, rfl⟩
    exact ⟨(value, left), reads, rfl⟩

/-- Where there are no other cells, a reader reads as it does on its own. -/
theorem among_run_map (reader : CellM Cell Value) (cells : List Cell) :
    (among reader).run (cells.map Sum.inl : List (Cell ⊕ Other)) =
      (reader.run cells).map fun (value, rest) => (value, rest.map Sum.inl) := by
  have whole : front (cells.map Sum.inl : List (Cell ⊕ Other)) = cells := by
    rw [← List.append_nil (cells.map Sum.inl), front_map_append]
    exact List.append_nil cells
  have nothing : back (cells.map Sum.inl : List (Cell ⊕ Other)) = [] := by
    rw [← List.append_nil (cells.map Sum.inl), back_map_append]
    rfl
  show (reader.run (front _)).map _ = _
  rw [whole, nothing]
  refine congrArg (Option.map · (reader.run cells)) (funext fun read => ?_)
  exact congrArg (Prod.mk read.1) (List.append_nil _)

/-- An exact reader reads exactly among other cells. -/
theorem Exact.among {reader : CellM Cell Value} {encode : Value → List Cell}
    {Allowed : Value → Prop} (reads : Exact reader encode Allowed) :
    Exact (Library.among reader : CellM (Cell ⊕ Other) Value)
      (fun value => (encode value).map Sum.inl) Allowed := by
  intro cells value rest
  rw [among_run_eq_some]
  constructor
  · rintro ⟨left, readFront, rfl⟩
    obtain ⟨allowed, split⟩ := (reads _ _ _).mp readFront
    refine ⟨allowed, ?_⟩
    rw [← List.append_assoc, ← List.map_append, ← split, front_append_back]
  · rintro ⟨allowed, rfl⟩
    refine ⟨front rest, ?_, ?_⟩
    · rw [front_map_append]
      exact reads.reads_cells allowed _
    · rw [back_map_append, front_append_back]

/-! ### Writers -/

/-- Append what a writer of the first kind writes. -/
def writeAmong (writer : CellM Cell Unit) : CellM (Cell ⊕ Other) Unit := fun cells =>
  (writer.run []).map fun (_, written) => ((), cells ++ written.map Sum.inl)

theorem Writes.among {writer : CellM Cell Unit} {written : List Cell}
    (writes : Writes writer written) :
    Writes (writeAmong writer : CellM (Cell ⊕ Other) Unit) (written.map Sum.inl) := by
  intro cells
  show (writer.run []).map _ = _
  rw [writes, List.nil_append]
  rfl

end MixedCells

end Library
