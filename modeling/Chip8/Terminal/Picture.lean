import Chip8.Screen
import Chip8.Terminal.Canvas
import Chip8.Timers

namespace Chip8.Terminal

def pixelWidth : Nat := 2

def rightEdge : Nat := Frame.width * pixelWidth + 1

def bottomEdge : Nat := Frame.height + 1

def horizontalSide (left right : Char) : List Char :=
  left :: (List.replicate (Frame.width * pixelWidth) '━' ++ [right])

def borderCommands : List Command :=
  [.moveTo 0 0, .print (horizontalSide '┏' '┓')] ++
    (List.range Frame.height).flatMap (fun y =>
      [.moveTo 0 (y + 1), .print ['┃'], .moveTo rightEdge (y + 1), .print ['┃']]) ++
    [.moveTo 0 bottomEdge, .print (horizontalSide '┗' '┛')]

def pixelCells (lit : Bool) : List Char := List.replicate pixelWidth (if lit then '█' else ' ')

def frameCommands (frame : Frame) : List Command :=
  (List.range Frame.height).flatMap fun y =>
    [.moveTo 1 (y + 1), .print ((frame.line y).flatMap pixelCells)]

/-- A change of the terminal's mode, by the code that asks for it. -/
inductive Mode where
  | enterAlternateScreen
  | hideCursor
  | leaveAlternateScreen
  | showCursor
  deriving DecidableEq, Repr

def Mode.code : Mode → String
  | enterAlternateScreen => "?1049h"
  | hideCursor => "?25l"
  | leaveAlternateScreen => "?1049l"
  | showCursor => "?25h"

def bell : Char := '\x07'

/-- What the beeper writes for the tones it receives: one bell for each that starts. -/
def beeps : List Tone → List Char
  | [] => []
  | .start :: rest => bell :: beeps rest
  | .stop :: rest => beeps rest

theorem length_beeps (tones : List Tone) : (beeps tones).length = tones.count .start := by
  induction tones with
  | nil => rfl
  | cons tone rest ih =>
    cases tone with
    | start => rw [beeps, List.length_cons, ih, List.count_cons_self]
    | stop => rw [beeps, ih, List.count_cons_of_ne (by decide)]

end Chip8.Terminal
