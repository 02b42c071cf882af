import Chip8.Instruction

namespace Chip8.Instruction

/-- Family 8: register arithmetic, selected by the last digit. -/
def decodeArithmetic (x y : Register) : Nat → Option Instruction
  | 0x0 => some (.copy x y)
  | 0x1 => some (.bitOr x y)
  | 0x2 => some (.bitAnd x y)
  | 0x3 => some (.bitXor x y)
  | 0x4 => some (.add x y)
  | 0x5 => some (.subtract x y)
  | 0x6 => some (.shiftRight x y)
  | 0x7 => some (.subtractFrom x y)
  | 0xE => some (.shiftLeft x y)
  | _ => none

/-- Family F: timers, keys, the index register and memory, selected by the lower byte. -/
def decodeDevice (x : Register) : Nat → Option Instruction
  | 0x07 => some (.getDelay x)
  | 0x0A => some (.awaitKey x)
  | 0x15 => some (.setDelay x)
  | 0x18 => some (.setSound x)
  | 0x1E => some (.addIndex x)
  | 0x29 => some (.pointToGlyph x)
  | 0x33 => some (.storeDecimal x)
  | 0x55 => some (.storeRegisters x)
  | 0x65 => some (.loadRegisters x)
  | _ => none

def decode (opcode : Opcode) : Option Instruction :=
  let x := opcode.x
  let y := opcode.y
  match opcode.family.val with
  | 0x0 =>
    if opcode.nnn = 0x0E0 then some .clearScreen
    else if opcode.nnn = 0x0EE then some .ret
    else none
  | 0x1 => some (.jump opcode.nnn)
  | 0x2 => some (.call opcode.nnn)
  | 0x3 => some (.skipIfConst x opcode.kk)
  | 0x4 => some (.skipUnlessConst x opcode.kk)
  | 0x5 => if opcode.n = 0 then some (.skipIfSame x y) else none
  | 0x6 => some (.setConst x opcode.kk)
  | 0x7 => some (.addConst x opcode.kk)
  | 0x8 => decodeArithmetic x y opcode.n.val
  | 0x9 => if opcode.n = 0 then some (.skipUnlessSame x y) else none
  | 0xA => some (.setIndex opcode.nnn)
  | 0xB => some (.jumpOffset opcode.nnn)
  | 0xC => some (.random x opcode.kk)
  | 0xD => some (.draw x y (UInt8.ofNat opcode.n.val))
  | 0xE =>
    if opcode.kk = 0x9E then some (.skipIfPressed x)
    else if opcode.kk = 0xA1 then some (.skipUnlessPressed x)
    else none
  | 0xF => decodeDevice x opcode.kk.toNat
  | _ => none

end Chip8.Instruction
