/-! The screen: 64 by 32 pixels on a torus, drawn on by exclusive or. -/
namespace Chip8

/-- The pixels of a picture, row by row. -/
structure Frame where
  pixels : Vector Bool 2048
  deriving DecidableEq

/-- A pixel position before wrapping: column and line. -/
abbrev Point := Nat × Nat

namespace Frame

def width : Nat := 64

def height : Nat := 32

def blank : Frame := ⟨Vector.replicate 2048 false⟩

/-- Where a point lies among the pixels; both coordinates wrap. -/
def index (point : Point) : Fin 2048 :=
  ⟨point.1 % 64 + 64 * (point.2 % 32), by omega⟩

def get (frame : Frame) (point : Point) : Bool := frame.pixels[index point]

def flip (frame : Frame) (point : Point) : Frame :=
  ⟨frame.pixels.set (index point) (!frame.get point)⟩

def line (frame : Frame) (y : Nat) : List Bool :=
  (List.range width).map fun x => frame.get (x, y)

/-- All lines, top to bottom. -/
def lines (frame : Frame) : List (List Bool) := (List.range height).map frame.line

def lit (frame : Frame) : Nat := frame.pixels.toList.count true

/-- A line of marks and blanks for each line of pixels, each ended by a newline. -/
def text (frame : Frame) : String :=
  String.ofList (frame.lines.flatMap fun line =>
    line.map (fun pixel => if pixel then '#' else ' ') ++ ['\n'])

theorem get_flip (frame : Frame) (point other : Point) :
    (frame.flip point).get other =
      (if index point = index other then !frame.get other else frame.get other) := by
  simp only [flip, get, Fin.getElem_fin, Vector.getElem_set, Fin.ext_iff]
  split
  · rename_i same
    simp [same]
  · rfl

end Frame

/-- The rows of a sprite, eight pixels each, the most significant bit leftmost. -/
abbrev Sprite := List UInt8

namespace Sprite

/-- The lit points of one row drawn from a point. -/
def rowPoints (x y : Nat) (row : UInt8) : List Point :=
  (List.range 8).filterMap fun column =>
    if row.toNat.testBit (7 - column) then some (x + column, y) else none

/-- The lit points of a sprite drawn from a point, top to bottom and left to right. -/
def points (x y : Nat) : Sprite → List Point
  | [] => []
  | row :: rows => rowPoints x y row ++ points x (y + 1) rows

end Sprite

/-- A frame, and whether it has changed since it was last shown. -/
structure Screen where
  frame : Frame
  needsRedraw : Bool
  deriving DecidableEq

namespace Screen

/-- A blank screen that need not be shown. -/
def new : Screen := ⟨.blank, false⟩

def clear (_ : Screen) : Screen := ⟨.blank, true⟩

/-- Flip a point, and note whether it was lit. -/
def strike (state : Frame × Bool) (point : Point) : Frame × Bool :=
  (state.1.flip point, state.2 || state.1.get point)

/-- Flip points in order; the flag tells whether one of them was lit before its flip. -/
def flipAll (frame : Frame) (points : List Point) : Frame × Bool :=
  points.foldl strike (frame, false)

/-- Draw a sprite; the flag tells whether a lit pixel was turned off on the way. -/
def draw (screen : Screen) (x y : UInt8) (sprite : Sprite) : Screen × Bool :=
  let (frame, collision) := flipAll screen.frame (Sprite.points x.toNat y.toNat sprite)
  (⟨frame, true⟩, collision)

def takeRedraw (screen : Screen) : Bool × Screen :=
  (screen.needsRedraw, { screen with needsRedraw := false })

def inspect (screen : Screen) : String :=
  "Screen \x7b lit: " ++ toString screen.frame.lit ++ ", needs_redraw: " ++
    toString screen.needsRedraw ++ " \x7d"

end Screen
end Chip8
