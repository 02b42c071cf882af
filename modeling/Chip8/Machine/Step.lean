import Chip8.Instruction.Decode
import Chip8.Machine.Execute

/-! A step executes one instruction or keeps waiting for a key, then samples the keys, then
lets the timers catch up with the time that passed. A step that fails does the first only. -/
namespace Chip8

/-- What a step tells its host. -/
structure Report where
  redraw : Bool
  deriving DecidableEq, Repr

/-- Why a step ended early: a fault of the program, or a time too long to count. -/
inductive Failure where
  | fault (fault : Fault)
  | overrun (cause : Overrun)
  deriving DecidableEq, Repr

namespace Machine

/-- Remember the opcode at the program counter. -/
def fetch (machine : Machine) : Machine :=
  let (left, right) := machine.memory.readWord machine.registers.pc
  { machine with opcode := .ofBytes left right }

/-- Execute the opcode fetched last. -/
def dispatch (machine : Machine) : Except Fault Machine :=
  match Instruction.decode machine.opcode with
  | none => .error (.unknownOpcode machine.opcode.word machine.registers.pc)
  | some instruction => machine.execute instruction

/-- End a key wait if there is a fresh press, which answers it. -/
def resumeKeyWait (machine : Machine) (x : Register) : Machine :=
  match machine.keypad.firstFresh? with
  | none => machine
  | some key =>
    let number := UInt8.ofNat key.val
    let resumed := (machine.setV x number).proceed
    { resumed with keypad := machine.keypad.takePress number, status := .running }

def sampleKeys (machine : Machine) : Machine :=
  let (sample, feed) := machine.feed.poll
  { machine with keypad := machine.keypad.update sample, feed := feed }

/-- Count the timers down as often as is due after the time that passed. -/
def catchUp (machine : Machine) (elapsed : Nat) : Except Overrun Machine :=
  match machine.schedule.advance elapsed with
  | .error cause => .error cause
  | .ok (due, schedule) => .ok ({ machine with schedule := schedule }.tickTimersFor due)

/-- The part of a step after its instruction. -/
def settle (machine : Machine) (elapsed : Nat) : Except Failure Report × Machine :=
  let sampled := machine.sampleKeys
  match sampled.catchUp elapsed with
  | .error cause => (.error (.overrun cause), sampled)
  | .ok after => (.ok ⟨after.screen.needsRedraw⟩, after)

/-- One step, `elapsed` nanoseconds after the one before. -/
def stepElapsed (machine : Machine) (elapsed : Nat) : Except Failure Report × Machine :=
  match machine.status with
  | .halted fault => (.error (.fault fault), machine)
  | .awaitingKey x => (machine.resumeKeyWait x).settle elapsed
  | .running =>
    let fetched := machine.fetch
    match fetched.dispatch with
    | .error fault => (.error (.fault fault), { fetched with status := .halted fault })
    | .ok executed => executed.settle elapsed

/-- One step, after the time a step takes at the clock speed. -/
def step (machine : Machine) : Except Failure Report × Machine :=
  machine.stepElapsed machine.stepTime

/-- Steps up to the first failure: the program counter after each successful one, the failure
if there is one, and the machine at the end. -/
def trace (machine : Machine) : Nat → List Address × Option Failure × Machine
  | 0 => ([], none, machine)
  | count + 1 =>
    match machine.step with
    | (.error failure, after) => ([], some failure, after)
    | (.ok _, after) =>
      let (counters, failure, last) := after.trace count
      (after.registers.pc :: counters, failure, last)

end Machine
end Chip8
