import Chip8.Address

namespace Chip8

/-- Upper case hexadecimal digits of a number, padded on the left with zeros to the given width. -/
def Text.hexadecimal (width value : Nat) : String :=
  String.ofList (((Nat.toDigits 16 value).map Char.toUpper).leftpad width '0')

inductive Fault where
  | unknownOpcode (opcode : UInt16) (pc : Address)
  | stackOverflow (pc : Address)
  | stackUnderflow (pc : Address)
  deriving DecidableEq, Repr

namespace Fault

private def opcodeText (opcode : UInt16) : String := "0x" ++ Text.hexadecimal 4 opcode.toNat

private def addressText (address : Address) : String := "0x" ++ Text.hexadecimal 3 address.toNat

def message : Fault → String
  | unknownOpcode opcode pc =>
    "unknown opcode " ++ opcodeText opcode ++ " at address " ++ addressText pc
  | stackOverflow pc =>
    "stack overflow: call at address " ++ addressText pc ++ " exceeds 16 nested subroutines"
  | stackUnderflow pc =>
    "stack underflow: return at address " ++ addressText pc ++ " with an empty call stack"

/-- The structural form, with plain decimal fields. -/
def inspect : Fault → String
  | unknownOpcode opcode pc =>
    "UnknownOpcode \x7b opcode: " ++ toString opcode.toNat ++
      ", pc: " ++ toString pc.toNat ++ " \x7d"
  | stackOverflow pc => "StackOverflow \x7b pc: " ++ toString pc.toNat ++ " \x7d"
  | stackUnderflow pc => "StackUnderflow \x7b pc: " ++ toString pc.toNat ++ " \x7d"

end Fault
end Chip8
