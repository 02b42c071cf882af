namespace Chip8.Terminal

/-- Put the cursor somewhere, or write characters from it to the right. -/
inductive Command where
  | moveTo (column line : Nat)
  | print (text : List Char)
  deriving DecidableEq, Repr

/-- Character cells, line by line, and the cursor. -/
structure Canvas (width height : Nat) where
  cells : Vector (Vector Char width) height
  column : Nat
  line : Nat
  deriving DecidableEq

namespace Canvas

variable {width height : Nat}

/-- All cells blank, the cursor in the upper left corner. -/
def blank : Canvas width height := ⟨Vector.replicate height (Vector.replicate width ' '), 0, 0⟩

/-- The character in a cell; outside the canvas all is blank. -/
def get (canvas : Canvas width height) (column line : Nat) : Char :=
  match canvas.cells[line]? with
  | none => ' '
  | some cells => cells[column]?.getD ' '

/-- Write one character and move right; outside the canvas nothing is written. -/
def put (canvas : Canvas width height) (character : Char) : Canvas width height :=
  let moved := { canvas with column := canvas.column + 1 }
  if inside : canvas.line < height then
    let line := canvas.cells[canvas.line].setIfInBounds canvas.column character
    { moved with cells := canvas.cells.set canvas.line line }
  else moved

def apply (canvas : Canvas width height) : Command → Canvas width height
  | .moveTo column line => { canvas with column := column, line := line }
  | .print text => text.foldl put canvas

def applyAll (canvas : Canvas width height) (commands : List Command) : Canvas width height :=
  commands.foldl apply canvas

/-- The lines that are not blank, without the blanks at their ends. -/
def text (canvas : Canvas width height) : List String :=
  let trimmed := canvas.cells.toList.map fun cells =>
    (cells.toList.reverse.dropWhile (· == ' ')).reverse
  (trimmed.filter fun line => !line.isEmpty).map String.ofList

end Canvas
end Chip8.Terminal
