import Chip8.Machine.Step

/-! The runner steps and renders a machine until it is told to stop, a limit of cycles is
reached, or a step fails. Being told to stop comes first, the limit second. -/
namespace Chip8

inductive StopReason where
  | shutdown
  | cycleLimit
  deriving DecidableEq, Repr

/-- The number of completed cycles, and why there were no more. -/
structure Summary where
  cycles : Nat
  reason : StopReason
  deriving DecidableEq, Repr

abbrev RunResult := Except Failure Summary

/-- What is found on the line on which a run can be told to stop: nothing, a signal, or that the
other end is gone. -/
inductive ShutdownLine where
  | quiet
  | signalled
  | disconnected
  deriving DecidableEq, Repr

namespace ShutdownLine

/-- A waiting signal stops a run, and so does a line whose other end is gone. -/
def stops : ShutdownLine → Bool
  | quiet => false
  | signalled | disconnected => true

theorem stops_iff {line : ShutdownLine} :
    line.stops = true ↔ line = .signalled ∨ line = .disconnected := by
  cases line <;> simp [stops]

theorem not_stops_iff {line : ShutdownLine} : ¬ line.stops = true ↔ line = .quiet := by
  cases line <;> simp [stops]

end ShutdownLine

/-- What the world looks like after each number of completed cycles: what is found on the
shutdown line, and how much time has passed since the step before. -/
structure Surroundings where
  shutdown : Nat → ShutdownLine
  elapsed : Nat → Nat

/-- The time that passes before a cycle when each takes the period of the clock, or what it
costs to carry out if that is longer. Before the first cycle there is none. -/
def pacedTime (cost period : Nat) : Nat → Nat
  | 0 => 0
  | _ + 1 => max cost period

inductive Turn where
  | ended (result : RunResult) (machine : Machine)
  | continued (machine : Machine)

/-- A limit on the cycles of a run, if any. -/
structure Runner where
  limit : Option Nat
  deriving DecidableEq, Repr

namespace Runner

/-- The limit leaves no room for another cycle. -/
def limitReached (runner : Runner) (cycles : Nat) : Bool :=
  match runner.limit with
  | none => false
  | some limit => limit ≤ cycles

/-- One iteration: stop, or make a step and render. -/
def turn (runner : Runner) (machine : Machine) (cycles : Nat) (shutdown : ShutdownLine)
    (elapsed : Nat) : Turn :=
  if shutdown.stops then .ended (.ok ⟨cycles, .shutdown⟩) machine
  else if runner.limitReached cycles then .ended (.ok ⟨cycles, .cycleLimit⟩) machine
  else
    match machine.stepElapsed elapsed with
    | (.error failure, after) => .ended (.error failure) after
    | (.ok _, after) => .continued after.render

/-- Iterate from a number of completed cycles on; nothing if the run has not ended after
`fuel` more of them. -/
def runFrom (runner : Runner) (world : Surroundings) :
    Nat → Nat → Machine → Option (RunResult × Machine)
  | cycles, fuel, machine =>
    match runner.turn machine cycles (world.shutdown cycles) (world.elapsed cycles), fuel with
    | .ended result after, _ => some (result, after)
    | .continued _, 0 => none
    | .continued after, fuel + 1 => runner.runFrom world (cycles + 1) fuel after
termination_by _ fuel => fuel

def run (runner : Runner) (world : Surroundings) (fuel : Nat) (machine : Machine) :
    Option (RunResult × Machine) :=
  runner.runFrom world 0 fuel machine

end Runner
end Chip8
