import Chip8.Instruction.Decode
import Chip8.Opcode.Layout

namespace Chip8.Instruction

/-- The operands fit their fields: addresses have twelve bits, sprite heights one digit. -/
def Encodable : Instruction → Prop
  | .jump target | .call target | .setIndex target | .jumpOffset target => target.toNat < 4096
  | .draw _ _ height => height.toNat < 16
  | _ => True

instance : DecidablePred Encodable := fun instruction => by
  cases instruction <;> (simp only [Encodable]; infer_instance)

def encode : Instruction → Opcode
  | .clearScreen => ⟨0x00E0⟩
  | .ret => ⟨0x00EE⟩
  | .jump target => .ofAddress 0x1 target
  | .call target => .ofAddress 0x2 target
  | .skipIfConst x value => .ofByte 0x3 x value.toNat
  | .skipUnlessConst x value => .ofByte 0x4 x value.toNat
  | .skipIfSame x y => .ofDigits 0x5 x y 0x0
  | .setConst x value => .ofByte 0x6 x value.toNat
  | .addConst x value => .ofByte 0x7 x value.toNat
  | .copy x y => .ofDigits 0x8 x y 0x0
  | .bitOr x y => .ofDigits 0x8 x y 0x1
  | .bitAnd x y => .ofDigits 0x8 x y 0x2
  | .bitXor x y => .ofDigits 0x8 x y 0x3
  | .add x y => .ofDigits 0x8 x y 0x4
  | .subtract x y => .ofDigits 0x8 x y 0x5
  | .shiftRight x y => .ofDigits 0x8 x y 0x6
  | .subtractFrom x y => .ofDigits 0x8 x y 0x7
  | .shiftLeft x y => .ofDigits 0x8 x y 0xE
  | .skipUnlessSame x y => .ofDigits 0x9 x y 0x0
  | .setIndex target => .ofAddress 0xA target
  | .jumpOffset base => .ofAddress 0xB base
  | .random x mask => .ofByte 0xC x mask.toNat
  | .draw x y height => .ofDigits 0xD x y height.toNat
  | .skipIfPressed x => .ofByte 0xE x 0x9E
  | .skipUnlessPressed x => .ofByte 0xE x 0xA1
  | .getDelay x => .ofByte 0xF x 0x07
  | .awaitKey x => .ofByte 0xF x 0x0A
  | .setDelay x => .ofByte 0xF x 0x15
  | .setSound x => .ofByte 0xF x 0x18
  | .addIndex x => .ofByte 0xF x 0x1E
  | .pointToGlyph x => .ofByte 0xF x 0x29
  | .storeDecimal x => .ofByte 0xF x 0x33
  | .storeRegisters x => .ofByte 0xF x 0x55
  | .loadRegisters x => .ofByte 0xF x 0x65

theorem decode_encode {instruction : Instruction} (encodable : instruction.Encodable) :
    decode instruction.encode = some instruction := by
  cases instruction <;> simp only [Encodable] at encodable
  case clearScreen | ret => rfl
  case jump | call | setIndex | jumpOffset =>
    simp (disch := first | assumption | decide) [decode, encode, Opcode.fields_ofAddress]
  case skipIfConst | skipUnlessConst | setConst | addConst | random =>
    simp (disch := first | decide | apply UInt8.toNat_lt) [decode, encode, Opcode.fields_ofByte]
  case skipIfSame | skipUnlessSame | copy | bitOr | bitAnd | bitXor | add | subtract
      | shiftRight | subtractFrom | shiftLeft =>
    simp (disch := decide)
      [decode, encode, decodeArithmetic, Opcode.fields_ofDigits, Fin.ext_iff]
  case draw =>
    simp (disch := first | assumption | decide) [decode, encode, Opcode.fields_ofDigits]
  case skipIfPressed | skipUnlessPressed =>
    simp (disch := decide) [decode, encode, Opcode.fields_ofByte]
  case getDelay | awaitKey | setDelay | setSound | addIndex | pointToGlyph | storeDecimal
      | storeRegisters | loadRegisters =>
    simp (disch := decide) [decode, encode, decodeDevice, Opcode.fields_ofByte]

/-- A decoded instruction fits its fields and encodes to the word it came from. -/
theorem encode_of_decode {opcode : Opcode} {instruction : Instruction}
    (decoded : decode opcode = some instruction) :
    instruction.Encodable ∧ instruction.encode = opcode := by
  have digits := opcode.ofDigits_fields
  have byte := opcode.ofByte_fields
  have address := opcode.ofAddress_fields
  have bound := opcode.nnn_lt
  unfold decode decodeArithmetic decodeDevice at decoded
  dsimp only at decoded
  split at decoded
  case h_17 => simp at decoded
  all_goals
    rename_i family
    rw [family] at digits byte address
  case h_1 =>
    split at decoded
    · rename_i target
      simp only [Option.some.injEq] at decoded
      subst decoded
      rw [target] at address
      exact ⟨trivial, address⟩
    · split at decoded
      · rename_i target
        simp only [Option.some.injEq] at decoded
        subst decoded
        rw [target] at address
        exact ⟨trivial, address⟩
      · simp at decoded
  case h_14 =>
    have small : opcode.n.val % 256 = opcode.n.val := by omega
    simp only [Option.some.injEq] at decoded
    subst decoded
    simp [Encodable, encode, small, digits]
  all_goals
    (repeat' split at decoded) <;> simp only [Option.some.injEq, reduceCtorEq] at decoded <;>
      subst decoded <;> simp_all [encode, Encodable]

/-- Encoding and decoding are inverse to each other. -/
theorem decode_eq_some_iff {opcode : Opcode} {instruction : Instruction} :
    decode opcode = some instruction ↔ instruction.Encodable ∧ instruction.encode = opcode :=
  ⟨encode_of_decode, fun ⟨encodable, encoded⟩ => encoded ▸ decode_encode encodable⟩

end Chip8.Instruction
