import Chip8.Opcode

namespace Chip8

/-- A decoded instruction. Registers are named `x` and `y` as in the opcode fields. -/
inductive Instruction where
  | clearScreen
  | ret
  | jump (target : Address)
  | call (target : Address)
  | skipIfConst (x : Register) (value : UInt8)
  | skipUnlessConst (x : Register) (value : UInt8)
  | skipIfSame (x y : Register)
  | setConst (x : Register) (value : UInt8)
  | addConst (x : Register) (value : UInt8)
  | copy (x y : Register)
  | bitOr (x y : Register)
  | bitAnd (x y : Register)
  | bitXor (x y : Register)
  | add (x y : Register)
  | subtract (x y : Register)
  | shiftRight (x y : Register)
  | subtractFrom (x y : Register)
  | shiftLeft (x y : Register)
  | skipUnlessSame (x y : Register)
  | setIndex (target : Address)
  | jumpOffset (base : Address)
  | random (x : Register) (mask : UInt8)
  | draw (x y : Register) (height : UInt8)
  | skipIfPressed (x : Register)
  | skipUnlessPressed (x : Register)
  | getDelay (x : Register)
  | awaitKey (x : Register)
  | setDelay (x : Register)
  | setSound (x : Register)
  | addIndex (x : Register)
  | pointToGlyph (x : Register)
  | storeDecimal (x : Register)
  | storeRegisters (x : Register)
  | loadRegisters (x : Register)
  deriving DecidableEq, Repr

end Chip8
