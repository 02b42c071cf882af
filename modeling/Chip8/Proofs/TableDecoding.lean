import Chip8.Instruction.Encode
import Chip8.Proofs.InstructionTable

namespace Chip8.InstructionTable

theorem digits_word (opcode : Opcode) :
    digits opcode.word.toNat = [opcode.family.val, opcode.x.val, opcode.y.val, opcode.n.val] := by
  have bound := opcode.word.toNat_lt
  have top : opcode.word.toNat / 4096 % 16 = opcode.word.toNat / 4096 := by omega
  rw [digits, Opcode.family_val, Opcode.x_val, Opcode.y_val, Opcode.n_val, top]

theorem kk_toNat_digits (opcode : Opcode) :
    opcode.kk.toNat = 16 * opcode.y.val + opcode.n.val := by
  rw [Opcode.kk_toNat, Opcode.y_val, Opcode.n_val]
  omega

private theorem y_n_of_kk (opcode : Opcode) :
    opcode.y.val = opcode.kk.toNat / 16 ∧ opcode.n.val = opcode.kk.toNat % 16 := by
  have := opcode.y.isLt
  have := opcode.n.isLt
  rw [kk_toNat_digits]
  omega

theorem nnn_toNat_digits (opcode : Opcode) :
    opcode.nnn.toNat = 256 * opcode.x.val + 16 * opcode.y.val + opcode.n.val := by
  rw [Opcode.nnn_toNat, Opcode.x_val, Opcode.y_val, Opcode.n_val]
  omega

namespace Row

/-- The instruction of a row, with the operands of an opcode. -/
def instruction (row : Row) (opcode : Opcode) : Instruction :=
  let x := opcode.x
  let y := opcode.y
  match row with
  | clearScreen => .clearScreen
  | ret => .ret
  | jump => .jump opcode.nnn
  | call => .call opcode.nnn
  | skipIfConst => .skipIfConst x opcode.kk
  | skipUnlessConst => .skipUnlessConst x opcode.kk
  | skipIfSame => .skipIfSame x y
  | setConst => .setConst x opcode.kk
  | addConst => .addConst x opcode.kk
  | copy => .copy x y
  | bitOr => .bitOr x y
  | bitAnd => .bitAnd x y
  | bitXor => .bitXor x y
  | add => .add x y
  | subtract => .subtract x y
  | shiftRight => .shiftRight x y
  | subtractFrom => .subtractFrom x y
  | shiftLeft => .shiftLeft x y
  | skipUnlessSame => .skipUnlessSame x y
  | setIndex => .setIndex opcode.nnn
  | jumpOffset => .jumpOffset opcode.nnn
  | random => .random x opcode.kk
  | draw => .draw x y (UInt8.ofNat opcode.n.val)
  | skipIfPressed => .skipIfPressed x
  | skipUnlessPressed => .skipUnlessPressed x
  | getDelay => .getDelay x
  | awaitKey => .awaitKey x
  | setDelay => .setDelay x
  | setSound => .setSound x
  | addIndex => .addIndex x
  | pointToGlyph => .pointToGlyph x
  | storeDecimal => .storeDecimal x
  | storeRegisters => .storeRegisters x
  | loadRegisters => .loadRegisters x

def ofInstruction : Instruction → Row
  | .clearScreen => clearScreen
  | .ret => ret
  | .jump _ => jump
  | .call _ => call
  | .skipIfConst _ _ => skipIfConst
  | .skipUnlessConst _ _ => skipUnlessConst
  | .skipIfSame _ _ => skipIfSame
  | .setConst _ _ => setConst
  | .addConst _ _ => addConst
  | .copy _ _ => copy
  | .bitOr _ _ => bitOr
  | .bitAnd _ _ => bitAnd
  | .bitXor _ _ => bitXor
  | .add _ _ => add
  | .subtract _ _ => subtract
  | .shiftRight _ _ => shiftRight
  | .subtractFrom _ _ => subtractFrom
  | .shiftLeft _ _ => shiftLeft
  | .skipUnlessSame _ _ => skipUnlessSame
  | .setIndex _ => setIndex
  | .jumpOffset _ => jumpOffset
  | .random _ _ => random
  | .draw _ _ _ => draw
  | .skipIfPressed _ => skipIfPressed
  | .skipUnlessPressed _ => skipUnlessPressed
  | .getDelay _ => getDelay
  | .awaitKey _ => awaitKey
  | .setDelay _ => setDelay
  | .setSound _ => setSound
  | .addIndex _ => addIndex
  | .pointToGlyph _ => pointToGlyph
  | .storeDecimal _ => storeDecimal
  | .storeRegisters _ => storeRegisters
  | .loadRegisters _ => loadRegisters

theorem ofInstruction_instruction (row : Row) (opcode : Opcode) :
    ofInstruction (row.instruction opcode) = row := by
  cases row <;> rfl

theorem decode_of_matches {row : Row} {opcode : Opcode} (matched : row.Matches opcode.word.toNat) :
    Instruction.decode opcode = some (row.instruction opcode) := by
  rw [Matches, digits_word] at matched
  cases row <;> simp [pattern, digitOf?] at matched
  case clearScreen | ret =>
    simp [Instruction.decode, instruction, matched, ← UInt16.toNat_inj, nnn_toNat_digits]
  case skipIfPressed | skipUnlessPressed =>
    simp [Instruction.decode, instruction, matched, ← UInt8.toNat_inj, kk_toNat_digits]
  case getDelay | awaitKey | setDelay | setSound | addIndex | pointToGlyph | storeDecimal
      | storeRegisters | loadRegisters =>
    simp [Instruction.decode, Instruction.decodeDevice, instruction, matched, kk_toNat_digits]
  all_goals simp [Instruction.decode, Instruction.decodeArithmetic, instruction, matched]

theorem matches_of_decode {opcode : Opcode} {instruction : Instruction}
    (decoded : Instruction.decode opcode = some instruction) :
    (ofInstruction instruction).Matches opcode.word.toNat := by
  obtain ⟨fits, encoded⟩ := Instruction.encode_of_decode decoded
  rw [Matches, digits_word]
  subst encoded
  cases instruction <;>
    simp [ofInstruction, pattern, digitOf?] <;>
    simp only [Instruction.Encodable] at fits
  case clearScreen | ret => decide
  case jump | call | setIndex | jumpOffset =>
    simp (disch := first | assumption | decide) [Instruction.encode, Opcode.fields_ofAddress]
  case skipIfConst | skipUnlessConst | setConst | addConst | random =>
    simp (disch := first | decide | apply UInt8.toNat_lt) [Instruction.encode, Opcode.fields_ofByte]
  case skipIfPressed | skipUnlessPressed | getDelay | awaitKey | setDelay | setSound | addIndex
      | pointToGlyph | storeDecimal | storeRegisters | loadRegisters =>
    simp (disch := decide) [Instruction.encode, Opcode.fields_ofByte, Fin.ext_iff, y_n_of_kk]
  all_goals
    simp (disch := first | assumption | decide)
      [Instruction.encode, Opcode.fields_ofDigits, Fin.ext_iff]

end Row
end Chip8.InstructionTable
