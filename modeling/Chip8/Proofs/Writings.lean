import Chip8.Terminal.Canvas

namespace Chip8.Terminal

structure Writing where
  column : Nat
  line : Nat
  character : Char
  deriving DecidableEq

/-- The characters of a text, written from a cell to the right. -/
def row (column line : Nat) : List Char → List Writing
  | [] => []
  | character :: rest => ⟨column, line, character⟩ :: row (column + 1) line rest

/-- All that commands write, in order, with the cursor in a cell at first. -/
def writings (column line : Nat) : List Command → List Writing
  | [] => []
  | .moveTo column line :: rest => writings column line rest
  | .print text :: rest => row column line text ++ writings (column + text.length) line rest

/-- What is written last in a cell, if anything is. -/
def lastIn (column line : Nat) : List Writing → Option Char
  | [] => none
  | writing :: rest =>
    (lastIn column line rest).or
      (if writing.column = column ∧ writing.line = line then some writing.character else none)

variable {column line : Nat}

theorem lastIn_append (first later : List Writing) :
    lastIn column line (first ++ later) =
      (lastIn column line later).or (lastIn column line first) := by
  induction first with
  | nil => simp [lastIn]
  | cons writing rest ih => rw [List.cons_append, lastIn, ih, lastIn, Option.or_assoc]

theorem lastIn_row (start level : Nat) (text : List Char) :
    lastIn column line (row start level text) =
      if line = level ∧ start ≤ column then text[column - start]? else none := by
  induction text generalizing start with
  | nil => simp [row, lastIn]
  | cons character rest ih =>
    rw [row, lastIn, ih]
    dsimp only
    rcases Nat.lt_trichotomy column start with left | rfl | right
    · rw [if_neg (by omega), if_neg (by omega), if_neg (by omega)]
      rfl
    · rw [if_neg (by omega), Nat.sub_self, List.getElem?_cons_zero, Option.none_or]
      simp only [true_and, Nat.le_refl, and_true, eq_comm]
    · have inner : column - start = column - (start + 1) + 1 := by omega
      rw [if_neg (show ¬ (start = column ∧ level = line) by omega), Option.or_none, inner,
        List.getElem?_cons_succ]
      simp only [Nat.succ_le_iff, right, Nat.le_of_lt right]

theorem lastIn_eq_none_iff {log : List Writing} :
    lastIn column line log = none ↔
      ∀ writing ∈ log, ¬ (writing.column = column ∧ writing.line = line) := by
  induction log with
  | nil => simp [lastIn]
  | cons writing rest ih =>
    rw [lastIn, Option.or_eq_none_iff, ih, List.forall_mem_cons, and_comm]
    simp

namespace Canvas

variable {width height : Nat}

theorem get_put (canvas : Canvas width height) (character : Char) (inside : column < width)
    (within : line < height) :
    (canvas.put character).get column line =
      if canvas.column = column ∧ canvas.line = line then character
      else canvas.get column line := by
  have cell : canvas.get column line = canvas.cells[line][column] := by
    simp [get, inside, within]
  rw [cell, put]
  split
  · rename_i valid
    simp only [get, Vector.getElem?_set]
    by_cases here : canvas.line = line
    · subst here
      simp [inside, Vector.getElem_setIfInBounds]
    · simp [here, within, inside]
  · rename_i invalid
    have elsewhere : canvas.line ≠ line := fun same => invalid (same ▸ within)
    rw [if_neg fun here => elsewhere here.2, ← cell]
    rfl

theorem cursor_put (canvas : Canvas width height) (character : Char) :
    (canvas.put character).column = canvas.column + 1 ∧
      (canvas.put character).line = canvas.line := by
  rw [put]
  split
  · exact ⟨rfl, rfl⟩
  · exact ⟨rfl, rfl⟩

/-- Printing moves the cursor past the text, and writes the text where the cursor was. -/
theorem get_print (canvas : Canvas width height) (text : List Char) (inside : column < width)
    (within : line < height) :
    (canvas.apply (.print text)).column = canvas.column + text.length ∧
      (canvas.apply (.print text)).line = canvas.line ∧
      (canvas.apply (.print text)).get column line =
        (lastIn column line (row canvas.column canvas.line text)).getD
          (canvas.get column line) := by
  rw [apply]
  induction text generalizing canvas with
  | nil => exact ⟨rfl, rfl, rfl⟩
  | cons character rest ih =>
    obtain ⟨moved, level⟩ := canvas.cursor_put character
    obtain ⟨last, same, cell⟩ := ih (canvas.put character)
    rw [List.foldl_cons, List.length_cons, last, same, cell, moved, level,
      get_put _ _ inside within, row, lastIn, Option.getD_or]
    refine ⟨by omega, rfl, ?_⟩
    congr 1
    split
    · rfl
    · rfl

theorem applyAll_append (canvas : Canvas width height) (first later : List Command) :
    canvas.applyAll (first ++ later) = (canvas.applyAll first).applyAll later := List.foldl_append

/-- A cell holds what is written last in it, or what it held before. -/
theorem get_applyAll (canvas : Canvas width height) (commands : List Command)
    (inside : column < width) (within : line < height) :
    (canvas.applyAll commands).get column line =
      (lastIn column line (writings canvas.column canvas.line commands)).getD
        (canvas.get column line) := by
  induction commands generalizing canvas with
  | nil => rfl
  | cons command rest ih =>
    have onward : canvas.applyAll (command :: rest) = (canvas.apply command).applyAll rest := rfl
    rw [onward, ih]
    cases command with
    | moveTo start level => rfl
    | print text =>
      obtain ⟨moved, level, cell⟩ := canvas.get_print text inside within
      rw [moved, level, cell, writings, lastIn_append, Option.getD_or]

end Canvas

/-- A text, and the cell that it begins in. -/
structure Stroke where
  column : Nat
  line : Nat
  text : List Char

namespace Stroke

/-- Go to the first cell and print the text. -/
def commands (stroke : Stroke) : List Command :=
  [.moveTo stroke.column stroke.line, .print stroke.text]

def cells (stroke : Stroke) : List Writing := row stroke.column stroke.line stroke.text

theorem line_of_mem_cells {stroke : Stroke} {writing : Writing}
    (member : writing ∈ stroke.cells) : writing.line = stroke.line := by
  refine Decidable.byContradiction fun other => ?_
  have absent : lastIn writing.column writing.line stroke.cells = none := by
    rw [cells, lastIn_row, if_neg fun inside => other inside.1]
  exact lastIn_eq_none_iff.mp absent writing member ⟨rfl, rfl⟩

end Stroke

theorem writings_strokes (column line : Nat) (strokes : List Stroke) :
    writings column line (strokes.flatMap Stroke.commands) = strokes.flatMap Stroke.cells := by
  induction strokes generalizing column line with
  | nil => rfl
  | cons stroke rest ih =>
    rw [List.flatMap_cons, List.flatMap_cons, Stroke.commands, List.cons_append, List.cons_append,
      List.nil_append, writings, writings, ih]
    rfl

theorem lastIn_lines {strokesOf : Nat → List Stroke}
    (level : ∀ y, ∀ stroke ∈ strokesOf y, stroke.line = y + 1) (count : Nat) :
    lastIn column line (((List.range count).flatMap strokesOf).flatMap Stroke.cells) =
      if 1 ≤ line ∧ line ≤ count then
        lastIn column line ((strokesOf (line - 1)).flatMap Stroke.cells)
      else none := by
  induction count with
  | zero => rw [if_neg (by omega)]; rfl
  | succ count ih =>
    rw [List.range_succ, List.flatMap_append, List.flatMap_append, lastIn_append, ih,
      List.flatMap_singleton]
    by_cases here : line = count + 1
    · rw [if_neg (by omega), if_pos (by omega), here, Option.or_none, Nat.add_sub_cancel]
    · have absent : lastIn column line ((strokesOf count).flatMap Stroke.cells) = none := by
        rw [lastIn_eq_none_iff]
        intro writing member cell
        obtain ⟨stroke, drawn, member⟩ := List.mem_flatMap.mp member
        apply here
        rw [← cell.2, Stroke.line_of_mem_cells member, level count stroke drawn]
      rw [absent, Option.none_or]
      congr 1
      simp only [eq_iff_iff]
      omega

end Chip8.Terminal
