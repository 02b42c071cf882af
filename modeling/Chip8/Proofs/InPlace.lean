import Chip8.Proofs.Stepping

/-! Instructions and steps in place: each change is made to the machine at once, and a failure
keeps the changes made before it. Carried out so, they end exactly as the machine says. -/
namespace Chip8

namespace CallStack

/-- Write the first free slot. -/
def fill (stack : CallStack) (address : Address) : CallStack :=
  { stack with slots := stack.slots.setIfInBounds stack.depth address }

def grow (stack : CallStack) : CallStack :=
  ⟨stack.slots, min (stack.depth + 1) 16, Nat.min_le_right _ _⟩

def shrink (stack : CallStack) : CallStack :=
  ⟨stack.slots, stack.depth - 1, Nat.le_trans (Nat.sub_le _ _) stack.depth_le⟩

def firstFree (stack : CallStack) : Address := stack.slots.toList.getD stack.depth 0

/-- A slot is written first and counted as in use after that. -/
theorem push_of_room {stack : CallStack} {address pc : Address} (room : stack.depth ≠ 16) :
    stack.push address pc = .ok (stack.fill address).grow := by
  have inside : stack.depth < 16 := Nat.lt_of_le_of_ne stack.depth_le room
  have counted : min (stack.depth + 1) 16 = stack.depth + 1 := Nat.min_eq_left inside
  rw [push, dif_pos inside]
  simp only [fill, grow, counted]
  simp [Vector.set, Vector.setIfInBounds, Array.setIfInBounds, inside]

/-- A slot is counted as free first and read after that. -/
theorem pop_of_used {stack : CallStack} {pc : Address} (used : stack.depth ≠ 0) :
    stack.pop pc = .ok (stack.shrink.firstFree, stack.shrink) := by
  have inside : stack.depth - 1 < 16 := by
    have bound := stack.depth_le
    omega
  rw [stack.pop_of_ne_zero used inside]
  simp [firstFree, shrink, inside]

end CallStack

namespace InPlace

/-- Changes made to a machine one after another, up to the first failure. -/
abbrev Action (failure result : Type) := ExceptT failure (StateM Machine) result

/-- Carry out an action: its result, and what has become of the machine. -/
def Action.on {failure result : Type} (action : Action failure result) (machine : Machine) :
    Except failure result × Machine :=
  action.run.run machine

def changeStack (change : CallStack → CallStack) : Action Fault Unit :=
  modify fun machine =>
    { machine with
      registers := { machine.registers with stack := change machine.registers.stack } }

/-- Save an address on behalf of the call at `pc`. -/
def push (address pc : Address) : Action Fault Unit := do
  if (← get).registers.stack.depth = 16 then throw (.stackOverflow pc)
  changeStack (·.fill address)
  changeStack (·.grow)

/-- Take the youngest address on behalf of the return at `pc`. -/
def pop (pc : Address) : Action Fault Address := do
  if (← get).registers.stack.depth = 0 then throw (.stackUnderflow pc)
  changeStack (·.shrink)
  return (← get).registers.stack.firstFree

/-- Change the machine, then continue at an address. -/
def change (next : Address) (effect : Machine → Machine) : Action Fault Address := do
  modify effect
  return next

/-- Make all changes of an instruction but the last, and find where to continue. -/
def act (instruction : Instruction) : Action Fault Address := do
  let machine ← get
  let v := machine.v
  let pc := machine.registers.pc
  let next := pc.advance 2
  let skipIf (condition : Bool) : Action Fault Address :=
    return if condition then next.advance 2 else next
  match instruction with
  | .clearScreen => change next fun machine => { machine with screen := machine.screen.clear }
  | .ret => pop pc
  | .jump target => return target
  | .call target => push next pc; return target
  | .skipIfConst x value => skipIf (v x = value)
  | .skipUnlessConst x value => skipIf (v x ≠ value)
  | .skipIfSame x y => skipIf (v x = v y)
  | .skipUnlessSame x y => skipIf (v x ≠ v y)
  | .setConst x value => change next (·.setV x value)
  | .addConst x value => change next (·.setV x (v x + value))
  | .copy x y => change next (·.setV x (v y))
  | .bitOr x y => change next (·.setV x (v x ||| v y))
  | .bitAnd x y => change next (·.setV x (v x &&& v y))
  | .bitXor x y => change next (·.setV x (v x ^^^ v y))
  | .add x y => change next (·.setWithFlag x (v x + v y) (255 < (v x).toNat + (v y).toNat))
  | .subtract x y => change next (·.setWithFlag x (v x - v y) (v y < v x))
  | .subtractFrom x y => change next (·.setWithFlag x (v y - v x) (v x < v y))
  | .shiftRight x y => change next (·.setWithFlag x (v y >>> 1) ((v y).toNat.testBit 0))
  | .shiftLeft x y => change next (·.setWithFlag x (v y <<< 1) ((v y).toNat.testBit 7))
  | .setIndex target => change next (·.setIndex target)
  | .jumpOffset base => return base.advance (v 0).toUInt16
  | .random x mask => change next (·.randomize x mask)
  | .draw x y height => change next (·.drawSprite (v x) (v y) height)
  | .skipIfPressed x => skipIf (machine.keypad.isPressed (v x))
  | .skipUnlessPressed x => skipIf (!machine.keypad.isPressed (v x))
  | .getDelay x => change next (·.setV x machine.timers.delay)
  | .awaitKey x => change pc fun machine => { machine with status := .awaitingKey x }
  | .setDelay x => change next fun machine =>
      { machine with timers := machine.timers.setDelay (v x) }
  | .setSound x => change next (·.setSound (v x))
  | .addIndex x => change next (·.setIndex (machine.registers.index + (v x).toUInt16))
  | .pointToGlyph x => change next (·.setIndex (Machine.glyphRows * (v x).toUInt16))
  | .storeDecimal x => change next (·.store (Machine.decimalDigits (v x)))
  | .storeRegisters x => change next (·.store (machine.registersTo x))
  | .loadRegisters x => change next (·.loadTo x)

/-- Execute an instruction as if it stood at the program counter, which moves last. -/
def execute (instruction : Instruction) : Action Fault Unit := do
  let address ← act instruction
  modify (·.goto address)

/-- Execute instructions in order up to the first that fails. -/
def executeMany : List Instruction → Action Fault Unit
  | [] => return ()
  | instruction :: rest => do
    execute instruction
    executeMany rest

/-- Fetch the opcode at the program counter and execute it. -/
def fetchAndExecute : Action Fault Unit := do
  modify Machine.fetch
  let machine ← get
  match Instruction.decode machine.opcode with
  | none => throw (.unknownOpcode machine.opcode.word machine.registers.pc)
  | some instruction => execute instruction

/-- Halt with the fault of an action that fails. -/
def haltOnFault (action : Action Fault Unit) : Action Failure Unit :=
  ExceptT.mk fun machine =>
    match action.on machine with
    | (.error fault, after) => (.error (.fault fault), { after with status := .halted fault })
    | (.ok (), after) => (.ok (), after)

/-- Execute the next instruction, or end a key wait if there is a fresh press. -/
def begin : Action Failure Unit := do
  match (← get).status with
  | .halted fault => throw (.fault fault)
  | .awaitingKey x => modify (·.resumeKeyWait x)
  | .running => haltOnFault fetchAndExecute

/-- Sample the keys and let the timers catch up. -/
def settle (elapsed : Nat) : Action Failure Report :=
  ExceptT.mk fun machine => machine.settle elapsed

def stepElapsed (elapsed : Nat) : Action Failure Report := do
  begin
  settle elapsed

section

variable {failure result other : Type} (machine : Machine)

/-- What an action leaves is where the next one begins, unless it fails. -/
theorem on_bind (action : Action failure result) (next : result → Action failure other) :
    (action >>= next).on machine =
      match action.on machine with
      | (.error fault, after) => (.error fault, after)
      | (.ok value, after) => (next value).on after := by
  change (ExceptT.bindCont next (action.on machine).1).run (action.on machine).2 = _
  cases action.on machine with
  | mk outcome after =>
    cases outcome with
    | error fault => rfl
    | ok value => rfl

@[simp] theorem on_get : (get : Action failure Machine).on machine = (.ok machine, machine) := rfl

@[simp] theorem on_pure (value : result) :
    (pure value : Action failure result).on machine = (.ok value, machine) := rfl

@[simp] theorem on_throw (fault : failure) :
    (throw fault : Action failure result).on machine = (.error fault, machine) := rfl

@[simp] theorem on_modify (effect : Machine → Machine) :
    (modify effect : Action failure Unit).on machine = (.ok (), effect machine) := rfl

end

/-- Saving an address in place fails before it changes the stack, or does all of it. -/
theorem push_on (machine : Machine) (address pc : Address) :
    (push address pc).on machine =
      match machine.registers.stack.push address pc with
      | .error fault => (.error fault, machine)
      | .ok stack =>
        (.ok (), { machine with registers := { machine.registers with stack := stack } }) := by
  by_cases full : machine.registers.stack.depth = 16
  · rw [CallStack.push_eq_error_iff.mpr ⟨full, rfl⟩]
    simp only [push, on_bind, on_get, if_pos full, on_throw]
  · rw [CallStack.push_of_room full]
    simp only [push, on_bind, on_get, if_neg full]
    rfl

/-- Taking an address in place fails before it changes the stack, or does all of it. -/
theorem pop_on (machine : Machine) (pc : Address) :
    (pop pc).on machine =
      match machine.registers.stack.pop pc with
      | .error fault => (.error fault, machine)
      | .ok (address, stack) =>
        (.ok address, { machine with registers := { machine.registers with stack := stack } }) := by
  by_cases empty : machine.registers.stack.depth = 0
  · rw [CallStack.pop_eq_error_iff.mpr ⟨empty, rfl⟩]
    simp only [pop, on_bind, on_get, if_pos empty, on_throw]
  · rw [CallStack.pop_of_used empty]
    simp only [pop, on_bind, on_get, if_neg empty, on_pure]
    rfl

/-- An instruction that fails has changed nothing by then. -/
theorem execute_on (machine : Machine) (instruction : Instruction) :
    (execute instruction).on machine =
      match machine.execute instruction with
      | .error fault => (.error fault, machine)
      | .ok after => (.ok (), after) := by
  cases instruction
  case ret =>
    simp only [Machine.execute, execute, act, on_bind, on_get, pop_on]
    cases machine.registers.stack.pop machine.registers.pc with
    | error fault => rfl
    | ok popped => rfl
  case call target =>
    simp only [Machine.execute, execute, act, on_bind, on_get, push_on]
    cases machine.registers.stack.push (machine.registers.pc.advance 2) machine.registers.pc with
    | error fault => rfl
    | ok stack => rfl
  case skipIfConst | skipUnlessConst | skipIfSame | skipUnlessSame | skipIfPressed
      | skipUnlessPressed =>
    rw [Machine.execute, Machine.skipIf_eq_goto]
    rfl
  all_goals rfl

theorem executeMany_on (machine : Machine) (instructions : List Instruction) :
    (executeMany instructions).on machine = machine.executeMany instructions := by
  induction instructions generalizing machine with
  | nil => rfl
  | cons instruction rest ih =>
    rw [executeMany, on_bind, execute_on, Machine.executeMany]
    cases machine.execute instruction with
    | error fault => rfl
    | ok after => exact ih after

theorem fetchAndExecute_on (machine : Machine) :
    fetchAndExecute.on machine =
      match machine.fetch.dispatch with
      | .error fault => (.error fault, machine.fetch)
      | .ok after => (.ok (), after) := by
  rw [fetchAndExecute, on_bind, on_modify, Machine.dispatch]
  simp only [on_bind, on_get]
  cases Instruction.decode machine.fetch.opcode with
  | none => rfl
  | some instruction => exact execute_on machine.fetch instruction

theorem haltOnFault_on (machine : Machine) (action : Action Fault Unit) :
    (haltOnFault action).on machine =
      match action.on machine with
      | (.error fault, after) => (.error (.fault fault), { after with status := .halted fault })
      | (.ok (), after) => (.ok (), after) := rfl

theorem stepElapsed_on (machine : Machine) (elapsed : Nat) :
    (stepElapsed elapsed).on machine = machine.stepElapsed elapsed := by
  rw [stepElapsed, Machine.stepElapsed, on_bind, begin, on_bind, on_get]
  cases status : machine.status with
  | halted fault => simp only [status, on_throw]
  | awaitingKey x =>
    simp only [status, on_modify]
    rfl
  | running =>
    simp only [status, haltOnFault_on, fetchAndExecute_on]
    cases machine.fetch.dispatch with
    | error fault => rfl
    | ok after => rfl

end InPlace
end Chip8
