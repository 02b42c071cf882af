import Chip8.Proofs.Guarded.Drawing

namespace Chip8.Guarded.State

/-- Execute an instruction as if it stood at the program counter. -/
def execute (state : State) (instruction : Instruction) : Option (Except Fault State) :=
  match instruction with
  | .clearScreen => some (.ok
      { state with cells := List.replicate 2048 0, needsRedraw := true }.proceed)
  | .ret => do
    match ← state.pop with
    | .error fault => return .error fault
    | .ok (address, popped) => return .ok (popped.goto address)
  | .jump target => some (.ok (state.goto target))
  | .call target => do
    match ← state.push (state.pc.advance 2) with
    | .error fault => return .error fault
    | .ok pushed => return .ok (pushed.goto target)
  | .skipIfConst x value => do return .ok (state.skipIf ((← state.register x) = value))
  | .skipUnlessConst x value => do return .ok (state.skipIf ((← state.register x) ≠ value))
  | .skipIfSame x y => do
    return .ok (state.skipIf ((← state.register x) = (← state.register y)))
  | .skipUnlessSame x y => do
    return .ok (state.skipIf ((← state.register x) ≠ (← state.register y)))
  | .setConst x value => do return .ok (← state.setV x value).proceed
  | .addConst x value => do return .ok (← state.setV x ((← state.register x) + value)).proceed
  | .copy x y => do return .ok (← state.setV x (← state.register y)).proceed
  | .bitOr x y => do
    return .ok (← state.setV x ((← state.register x) ||| (← state.register y))).proceed
  | .bitAnd x y => do
    return .ok (← state.setV x ((← state.register x) &&& (← state.register y))).proceed
  | .bitXor x y => do
    return .ok (← state.setV x ((← state.register x) ^^^ (← state.register y))).proceed
  | .add x y => do
    let vx ← state.register x
    let vy ← state.register y
    return .ok (← state.setWithFlag x (vx + vy) (255 < vx.toNat + vy.toNat)).proceed
  | .subtract x y => do
    let vx ← state.register x
    let vy ← state.register y
    return .ok (← state.setWithFlag x (vx - vy) (vy < vx)).proceed
  | .subtractFrom x y => do
    let vx ← state.register x
    let vy ← state.register y
    return .ok (← state.setWithFlag x (vy - vx) (vx < vy)).proceed
  | .shiftRight x y => do
    let vy ← state.register y
    return .ok (← state.setWithFlag x (vy >>> 1) (vy.toNat.testBit 0)).proceed
  | .shiftLeft x y => do
    let vy ← state.register y
    return .ok (← state.setWithFlag x (vy <<< 1) (vy.toNat.testBit 7)).proceed
  | .setIndex target => some (.ok { state with index := target }.proceed)
  | .jumpOffset base => do return .ok (state.goto (base.advance (← state.register 0).toUInt16))
  | .random x mask => do
    let (byte, generator) := state.generator.draw
    return .ok (← { state with generator := generator }.setV x (byte &&& mask)).proceed
  | .draw x y height => do
    return .ok (← state.drawSprite (← state.register x) (← state.register y) height).proceed
  | .skipIfPressed x => do return .ok (state.skipIf (state.isPressed (← state.register x)))
  | .skipUnlessPressed x => do return .ok (state.skipIf (!state.isPressed (← state.register x)))
  | .getDelay x => do return .ok (← state.setV x state.timers.delay).proceed
  | .awaitKey x => some (.ok { state with status := .awaitingKey x })
  | .setDelay x => do
    return .ok { state with timers := state.timers.setDelay (← state.register x) }.proceed
  | .setSound x => do return .ok (state.setSound (← state.register x)).proceed
  | .addIndex x => do
    return .ok { state with index := state.index + (← state.register x).toUInt16 }.proceed
  | .pointToGlyph x => do
    let address ← multiply 65536 5 (← state.register x).toNat
    return .ok { state with index := UInt16.ofNat address }.proceed
  | .storeDecimal x => do
    return .ok (← state.store (Machine.decimalDigits (← state.register x))).proceed
  | .storeRegisters x => do return .ok (← state.store (← state.registersTo x)).proceed
  | .loadRegisters x => do return .ok (← state.loadTo x).proceed

/-- Every instruction passes its guards and has the effect that the machine gives it. -/
theorem execute_of (machine : Machine) (instruction : Instruction) :
    (of machine).execute instruction = some ((machine.execute instruction).map of) := by
  cases instruction
  case ret =>
    rw [execute, pop_of]
    cases popped : machine.registers.stack.pop machine.registers.pc with
    | error fault => simp [Machine.execute, popped, Except.map]
    | ok pair =>
      simp only [Machine.execute, popped, Except.map]
      rfl
  case call target =>
    rw [execute]
    change ((of machine).push (machine.registers.pc.advance 2)).bind _ = _
    rw [push_of]
    cases pushed : machine.registers.stack.push (machine.registers.pc.advance 2)
        machine.registers.pc with
    | error fault => simp [Machine.execute, pushed, Except.map]
    | ok stack =>
      simp only [Machine.execute, pushed, Except.map]
      rfl
  case clearScreen =>
    rw [execute, ← cellsOf_blank]
    rfl
  case random x mask =>
    rw [execute]
    change ((of { machine with generator := machine.generator.draw.2 }).setV x.val
      (machine.generator.draw.1 &&& mask)).bind _ = _
    rw [setV_of]
    rfl
  case pointToGlyph x =>
    have bound := (machine.v x).toNat_lt
    have address : UInt16.ofNat (5 * (machine.v x).toNat) =
        Machine.glyphRows * (machine.v x).toUInt16 := by
      rw [UInt16.ofNat_mul, UInt16.ofNat_uInt8ToNat]
      rfl
    have small : 5 * (machine.v x).toNat < 65536 := by omega
    rw [execute, register_of]
    simp only [Option.bind_eq_bind, Option.bind_some, multiply_of_lt small, address]
    rfl
  case jumpOffset base =>
    have first : (of machine).register 0 = some (machine.v 0) := register_of machine 0
    rw [execute, first]
    rfl
  case jump | setIndex | awaitKey => rfl
  all_goals
    simp only [execute, Machine.execute, register_of, setV_of, setWithFlag_of, skipIf_of,
      isPressed_of, drawSprite_of, registersTo_of, store_of, loadTo_of, proceed_of,
      Option.bind_eq_bind, Option.bind_some, Except.map]
    rfl

end Chip8.Guarded.State
