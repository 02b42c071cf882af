import Chip8.Machine

/-! The effect of each instruction. Operands are read before any register is written, and
the flag register is written last. -/
namespace Chip8.Machine

/-- The greatest number of rows a sprite is drawn with. -/
def spriteRows : Nat := 15

def glyphRows : Address := 5

/-- Write a result, then the flag that goes with it. -/
def setWithFlag (machine : Machine) (x : Register) (value : UInt8) (flag : Bool) : Machine :=
  (machine.setV x value).setFlag flag

/-- Draw the sprite at the index register; the flag register tells of a collision. -/
def drawSprite (machine : Machine) (x y : UInt8) (height : UInt8) : Machine :=
  let sprite := machine.memory.readMany machine.registers.index (min height.toNat spriteRows)
  let (screen, collision) := machine.screen.draw x y sprite
  { machine with screen := screen }.setFlag collision

/-- Draw a random byte and keep the bits of a mask. -/
def randomize (machine : Machine) (x : Register) (mask : UInt8) : Machine :=
  let (byte, generator) := machine.generator.draw
  { machine with generator := generator }.setV x (byte &&& mask)

def store (machine : Machine) (bytes : List UInt8) : Machine :=
  { machine with memory := machine.memory.writeMany machine.registers.index bytes }

/-- The decimal digits of a byte, hundreds first. -/
def decimalDigits (value : UInt8) : List UInt8 := [value / 100, value / 10 % 10, value % 10]

def registersTo (machine : Machine) (x : Register) : List UInt8 :=
  machine.registers.v.toList.take (x.val + 1)

/-- Load the registers up to `x` from the index register on. -/
def loadTo (machine : Machine) (x : Register) : Machine :=
  let loaded := Vector.ofFn fun k : Register =>
    if k ≤ x then machine.memory.read (machine.registers.index + UInt16.ofNat k.val)
    else machine.v k
  { machine with registers := { machine.registers with v := loaded } }

/-- Execute an instruction as if it stood at the program counter. -/
def execute (machine : Machine) (instruction : Instruction) : Except Fault Machine :=
  let v := machine.v
  let pc := machine.registers.pc
  match instruction with
  | .clearScreen => .ok { machine with screen := machine.screen.clear }.proceed
  | .ret =>
    match machine.registers.stack.pop pc with
    | .error fault => .error fault
    | .ok (address, stack) =>
      .ok { machine with registers := { machine.registers with stack := stack, pc := address } }
  | .jump target => .ok (machine.goto target)
  | .call target =>
    match machine.registers.stack.push (pc.advance 2) pc with
    | .error fault => .error fault
    | .ok stack =>
      .ok { machine with registers := { machine.registers with stack := stack, pc := target } }
  | .skipIfConst x value => .ok (machine.skipIf (v x = value))
  | .skipUnlessConst x value => .ok (machine.skipIf (v x ≠ value))
  | .skipIfSame x y => .ok (machine.skipIf (v x = v y))
  | .skipUnlessSame x y => .ok (machine.skipIf (v x ≠ v y))
  | .setConst x value => .ok (machine.setV x value).proceed
  | .addConst x value => .ok (machine.setV x (v x + value)).proceed
  | .copy x y => .ok (machine.setV x (v y)).proceed
  | .bitOr x y => .ok (machine.setV x (v x ||| v y)).proceed
  | .bitAnd x y => .ok (machine.setV x (v x &&& v y)).proceed
  | .bitXor x y => .ok (machine.setV x (v x ^^^ v y)).proceed
  | .add x y => .ok (machine.setWithFlag x (v x + v y) (255 < (v x).toNat + (v y).toNat)).proceed
  | .subtract x y => .ok (machine.setWithFlag x (v x - v y) (v y < v x)).proceed
  | .subtractFrom x y => .ok (machine.setWithFlag x (v y - v x) (v x < v y)).proceed
  | .shiftRight x y => .ok (machine.setWithFlag x (v y >>> 1) ((v y).toNat.testBit 0)).proceed
  | .shiftLeft x y => .ok (machine.setWithFlag x (v y <<< 1) ((v y).toNat.testBit 7)).proceed
  | .setIndex target => .ok (machine.setIndex target).proceed
  | .jumpOffset base => .ok (machine.goto (base.advance (v 0).toUInt16))
  | .random x mask => .ok (machine.randomize x mask).proceed
  | .draw x y height => .ok (machine.drawSprite (v x) (v y) height).proceed
  | .skipIfPressed x => .ok (machine.skipIf (machine.keypad.isPressed (v x)))
  | .skipUnlessPressed x => .ok (machine.skipIf (!machine.keypad.isPressed (v x)))
  | .getDelay x => .ok (machine.setV x machine.timers.delay).proceed
  | .awaitKey x => .ok { machine with status := .awaitingKey x }
  | .setDelay x => .ok { machine with timers := machine.timers.setDelay (v x) }.proceed
  | .setSound x => .ok (machine.setSound (v x)).proceed
  | .addIndex x => .ok (machine.setIndex (machine.registers.index + (v x).toUInt16)).proceed
  | .pointToGlyph x => .ok (machine.setIndex (glyphRows * (v x).toUInt16)).proceed
  | .storeDecimal x => .ok (machine.store (decimalDigits (v x))).proceed
  | .storeRegisters x => .ok (machine.store (machine.registersTo x)).proceed
  | .loadRegisters x => .ok (machine.loadTo x).proceed

/-- Execute instructions in order up to the first that fails, which has no effect. -/
def executeMany (machine : Machine) : List Instruction → Except Fault Unit × Machine
  | [] => (.ok (), machine)
  | instruction :: rest =>
    match machine.execute instruction with
    | .error fault => (.error fault, machine)
    | .ok after => after.executeMany rest

end Chip8.Machine
