import Chip8.CommandLine.Headless
import Chip8.Terminal.HeldKeys
import Chip8.Terminal.Keyboard
import Chip8.Terminal.Picture

/-! An interactive session: a machine whose keys come from a terminal, whose frames are drawn
on it, and whose tones ring its bell. A user types texts, each after a number of frames. -/
namespace Chip8.Terminal

open Chip8.CommandLine

/-- How long a key counts as held after its last press: 200 milliseconds. -/
def keyHold : Nat := 200000000

/-- A text, and the number of frames after which it is typed. -/
structure Typing where
  frames : Nat
  text : String
  deriving DecidableEq, Repr

/-- The state of a session on a terminal of the given size. -/
structure Session (width height : Nat) where
  machine : Machine
  keyboard : Keyboard
  listener : Listener
  now : Nat
  typings : List Typing
  frames : List Frame
  canvas : Canvas width height

namespace Session

variable {width height : Nat}

/-- The terminal set up, the box drawn, nothing typed. -/
def start (machine : Machine) (typings : List Typing) : Session width height where
  machine := machine
  keyboard := .new
  listener := .new keyHold
  now := 0
  typings := typings
  frames := []
  canvas := Canvas.blank.applyAll borderCommands

/-- Hear the texts whose time has come. -/
def hearTypings (session : Session width height) : Session width height :=
  let (due, later) :=
    session.typings.partition fun typing => typing.frames ≤ session.frames.length
  let (keyboard, events) := session.keyboard.typeAll (due.map (·.text))
  { session with
    keyboard := keyboard
    listener := session.listener.hearAll (events.map fun event => (event, session.now))
    typings := later }

/-- Draw the machine's frame if it delivered one. -/
def drawFrame (session : Session width height) (after : Machine) : Session width height :=
  if session.machine.display.delivered < after.display.delivered then
    { session with
      machine := after
      frames := session.frames ++ [after.display.frame]
      canvas := session.canvas.applyAll (frameCommands after.display.frame) }
  else { session with machine := after }

/-- The line on which the session is told to stop: each quit that was heard is a signal. -/
def shutdownLine (session : Session width height) : ShutdownLine :=
  if 0 < session.listener.quits then .signalled else .quiet

inductive Turn (width height : Nat) where
  | ended (result : RunResult) (session : Session width height)
  | continued (session : Session width height)

/-- One iteration, `elapsed` nanoseconds after the one before: hear what was typed, then let the
machine take its turn on the keys held now. -/
def turn (session : Session width height) (cycles elapsed : Nat) : Turn width height :=
  let heard := { session with now := session.now + elapsed }.hearTypings
  let keys := heard.listener.keys.snapshot heard.now
  let machine := { heard.machine with feed := .constant keys }
  match (Runner.mk none).turn machine cycles heard.shutdownLine elapsed with
  | .ended result after => .ended result { heard with machine := after }
  | .continued after => .continued (heard.drawFrame after)

/-- Iterate; nothing if the session has not ended after `fuel` more cycles. -/
def run (elapsed : Nat → Nat) : Nat → Nat → Session width height →
    Option (RunResult × Session width height)
  | cycles, fuel, session =>
    match session.turn cycles (elapsed cycles), fuel with
    | .ended result after, _ => some (result, after)
    | .continued _, 0 => none
    | .continued after, fuel + 1 => run elapsed (cycles + 1) fuel after
termination_by _ fuel => fuel

end Session

/-- What an interactive program leaves behind: how it ended, the frames drawn, the last picture
on the terminal, its mode changes, and the number of bells. -/
structure Recording where
  code : Nat
  complaint : Complaint
  frames : List Frame
  picture : List String
  modes : List Mode
  bells : Nat

namespace Recording

def untouched (complaint : Complaint) : Recording :=
  ⟨complaint.exitCode, complaint, [], [], [], 0⟩

/-- All mode changes of a terminal that was set up and restored. -/
def allModes : List Mode := [.enterAlternateScreen, .hideCursor, .leaveAlternateScreen, .showCursor]

def ofSession {width height : Nat} (complaint : Complaint) (session : Session width height) :
    Recording where
  code := complaint.exitCode
  complaint := complaint
  frames := session.frames
  picture := session.canvas.text
  modes := allModes
  bells := (beeps session.machine.speaker.received).length

end Recording

namespace Interactive

def settings : List Setting := [.clockSpeed]

/-- The whole program on a terminal of the given size, nothing if it has not ended after
`fuel` cycles. The terminal is set up once the program is read, and before it is loaded. The
time before each cycle may depend on the period of the clock. -/
def play (width height : Nat) (commandLine : List String) (directory : Directory)
    (generator : Random.Generator) (typings : List Typing) (elapsed : Nat → Nat → Nat)
    (fuel : Nat) : Option Recording :=
  match Options.parse settings commandLine with
  | .error (.usage error) => some (.untouched (.usage error))
  | .error (.inquiry _) => some (.untouched .silent)
  | .ok options =>
    match ClockSpeed.ofHertz options.clockSpeed with
    | .error error => some (.untouched (.ofClock error))
    | .ok speed =>
      match directory.read options.path with
      | .error error => some (.untouched (.ofRom error))
      | .ok program =>
        let machine := Machine.new speed .silent generator
        match machine.load program with
        | .error error =>
          let session : Session width height := .start machine typings
          some (.ofSession (.ofRom error) session)
        | .ok loaded =>
          let session : Session width height := .start loaded typings
          (session.run (elapsed speed.period) 0 fuel).map fun (result, after) =>
            let complaint := match result with
              | .ok _ => .silent
              | .error failure => .ofFailure failure
            .ofSession complaint after

end Interactive
end Chip8.Terminal
