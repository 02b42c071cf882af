import Chip8.Devices
import Chip8.Instruction
import Chip8.KeyFeed
import Chip8.Random.Generator
import Chip8.Registers
import Chip8.Schedule

namespace Chip8

/-- What the next step does. -/
inductive Status where
  | running
  | awaitingKey (x : Register)
  | halted (fault : Fault)
  deriving DecidableEq, Repr

/-- The whole state. `opcode` is the word fetched last, `stepTime` the nanoseconds a step takes. -/
structure Machine where
  memory : Memory
  registers : Registers
  timers : Timers
  keypad : Keypad
  screen : Screen
  opcode : Opcode
  status : Status
  schedule : Schedule
  stepTime : Nat
  generator : Random.Generator
  feed : KeyFeed
  display : Display
  speaker : Speaker
  deriving DecidableEq

namespace Machine

/-- The rate the timers count at, in periods per second. -/
def timerRate : Nat := 60

def flagRegister : Register := 0xF

/-- A machine with an empty memory, at rest. -/
def new (speed : ClockSpeed) (feed : KeyFeed) (generator : Random.Generator) : Machine where
  memory := .new
  registers := .new
  timers := .new
  keypad := .new
  screen := .new
  opcode := ⟨0⟩
  status := .running
  schedule := .ofRate timerRate
  stepTime := speed.period
  generator := generator
  feed := feed
  display := .new
  speaker := .new

def v (machine : Machine) (x : Register) : UInt8 := machine.registers.v[x]

def setV (machine : Machine) (x : Register) (value : UInt8) : Machine :=
  { machine with registers := { machine.registers with v := machine.registers.v.set x value } }

/-- Write the flag register: one or zero. -/
def setFlag (machine : Machine) (flag : Bool) : Machine :=
  machine.setV flagRegister (if flag then 1 else 0)

def setIndex (machine : Machine) (address : Address) : Machine :=
  { machine with registers := { machine.registers with index := address } }

/-- Continue at an address. -/
def goto (machine : Machine) (address : Address) : Machine :=
  { machine with registers := { machine.registers with pc := address } }

def proceed (machine : Machine) : Machine :=
  machine.goto (machine.registers.pc.advance 2)

/-- Continue with the next instruction, or the one after it if the condition holds. -/
def skipIf (machine : Machine) (condition : Bool) : Machine :=
  if condition then machine.proceed.proceed else machine.proceed

/-- Set the sound timer, and hand over the tone event of the change. -/
def setSound (machine : Machine) (value : UInt8) : Machine :=
  let (timers, tone) := machine.timers.setSound value
  { machine with timers := timers, speaker := machine.speaker.playSome tone }

def tickTimers (machine : Machine) : Machine :=
  let (timers, tone) := machine.timers.tickDelay.tickSound
  { machine with timers := timers, speaker := machine.speaker.playSome tone }

/-- Count both timers down a number of times; once they rest, counting on changes nothing. -/
def tickTimersFor (machine : Machine) : Nat → Machine
  | 0 => machine
  | count + 1 =>
    if machine.timers = .new then machine else machine.tickTimers.tickTimersFor count

def seed (machine : Machine) (seed : UInt64) : Machine :=
  { machine with generator := .ofSeed seed }

/-- Put a program into memory and start from scratch, unless it is too large.
The keypad, the generator and the devices keep their state. -/
def load (machine : Machine) (program : Program) : Except RomError Machine :=
  match Memory.load program with
  | .error error => .error error
  | .ok memory =>
    let silenced := { machine with timers := machine.timers.setDelay 0 }.setSound 0
    .ok { silenced with
      memory := memory
      registers := .new
      schedule := .ofRate timerRate
      screen := silenced.screen.clear
      opcode := ⟨0⟩
      status := .running }

/-- Deliver the screen to the display if it needs to be shown. -/
def render (machine : Machine) : Machine :=
  match machine.screen.takeRedraw with
  | (true, screen) =>
    { machine with screen := screen, display := machine.display.accept machine.screen.frame }
  | (false, screen) => { machine with screen := screen }

theorem load_of_large (machine : Machine) {program : Program}
    (large : 3584 < program.length) :
    machine.load program = .error (.tooLarge program.length 3584) := by
  have tooLarge : ¬ program.length ≤ programCapacity := Nat.not_le_of_lt large
  rw [load, Memory.load, dif_neg tooLarge]
  rfl

theorem load_of_fits (machine : Machine) {program : Program}
    (fits : program.length ≤ programCapacity) : ∃ after, machine.load program = .ok after := by
  rw [load, Memory.load, dif_pos fits]
  exact ⟨_, rfl⟩

theorem tickTimers_of_rest {machine : Machine} (rest : machine.timers = .new) :
    machine.tickTimers = machine := by
  cases machine
  subst rest
  rfl

/-- Both timers fall by one, and a tone that ends by this is stopped. -/
theorem tickTimers_effect (machine : Machine) :
    machine.tickTimers.timers.delay.toNat = machine.timers.delay.toNat - 1 ∧
      machine.tickTimers.timers.sound.toNat = machine.timers.sound.toNat - 1 ∧
      machine.tickTimers.speaker = machine.speaker.playSome
        (if machine.timers.sound.toNat = 1 then some .stop else none) := by
  obtain ⟨delay, sameSound⟩ := machine.timers.tickDelay_effect
  obtain ⟨sound, sameDelay, tone⟩ := machine.timers.tickDelay.tickSound_effect
  rw [sameSound] at sound tone
  refine ⟨?_, sound, congrArg machine.speaker.playSome tone⟩
  change machine.timers.tickDelay.tickSound.1.delay.toNat = machine.timers.delay.toNat - 1
  rw [sameDelay, delay]

/-- Each count is one tick, whether or not the timers rest. -/
theorem tickTimersFor_succ (machine : Machine) (count : Nat) :
    machine.tickTimersFor (count + 1) = machine.tickTimers.tickTimersFor count := by
  by_cases rest : machine.timers = .new
  · rw [tickTimersFor, if_pos rest, tickTimers_of_rest rest]
    cases count with
    | zero => rfl
    | succ count => rw [tickTimersFor, if_pos rest]
  · rw [tickTimersFor, if_neg rest]

end Machine
end Chip8
