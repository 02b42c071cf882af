import Chip8.Proofs.Loading
import Chip8.Proofs.Storage
import Chip8.Proofs.TableDecoding

namespace Chip8

/-- The bytes of an opcode, the upper one first. -/
def Opcode.bytes (opcode : Opcode) : List UInt8 :=
  [.ofNat (opcode.word.toNat / 256), .ofNat (opcode.word.toNat % 256)]

def Memory.opcodeAt (memory : Memory) (address : Address) : Opcode :=
  .ofBytes (memory.readWord address).1 (memory.readWord address).2

/-- The number that a pattern of hexadecimal digits spells, if the places of a letter take the
digits of its operand. -/
def InstructionTable.spell (operand : Char → Nat) : List Char → Nat
  | [] => 0
  | symbol :: rest =>
    let digit := (digitOf? symbol).getD (operand symbol / 16 ^ rest.count symbol % 16)
    digit * 16 ^ rest.length + spell operand rest

namespace Instruction

open InstructionTable (Row spell)

/-- The operand that a letter of the bit patterns stands for. -/
def operand (letter : Char) : Instruction → Nat
  | .clearScreen | .ret => 0
  | .jump target | .call target | .setIndex target | .jumpOffset target => target.toNat
  | .skipIfConst x value | .skipUnlessConst x value | .setConst x value | .addConst x value
  | .random x value => if letter = 'x' then x.val else value.toNat
  | .skipIfSame x y | .copy x y | .bitOr x y | .bitAnd x y | .bitXor x y | .add x y
  | .subtract x y | .shiftRight x y | .subtractFrom x y | .shiftLeft x y
  | .skipUnlessSame x y => if letter = 'x' then x.val else y.val
  | .draw x y height =>
    if letter = 'x' then x.val else if letter = 'y' then y.val else height.toNat
  | .skipIfPressed x | .skipUnlessPressed x | .getDelay x | .awaitKey x | .setDelay x
  | .setSound x | .addIndex x | .pointToGlyph x | .storeDecimal x | .storeRegisters x
  | .loadRegisters x => x.val

/-- The opcode that an instruction's bit pattern spells. -/
def spelled (instruction : Instruction) : Opcode :=
  ⟨.ofNat (spell (instruction.operand ·) (Row.ofInstruction instruction).pattern.toList)⟩

def assemble (instructions : List Instruction) : Program :=
  instructions.flatMap (·.spelled.bytes)

theorem spelled_toNat (instruction : Instruction) :
    instruction.spelled.word.toNat =
      spell (instruction.operand ·) (Row.ofInstruction instruction).pattern.toList % 65536 :=
  UInt16.toNat_ofNat'

theorem encode_eq_spelled {instruction : Instruction} (encodable : instruction.Encodable) :
    instruction.encode = instruction.spelled := by
  apply Opcode.eq_of_toNat
  rw [spelled_toNat]
  cases instruction
  case clearScreen | ret => decide
  case jump target | call target | setIndex target | jumpOffset target =>
    have small : target.toNat < 4096 := encodable
    rw [encode, Opcode.ofAddress_toNat (by decide) small]
    simp [Row.ofInstruction, Row.pattern, spell, InstructionTable.digitOf?, operand]
    omega
  case skipIfConst x value | skipUnlessConst x value | setConst x value | addConst x value
      | random x value =>
    have small := value.toNat_lt
    rw [encode, Opcode.ofByte_toNat _ (by decide) small]
    simp [Row.ofInstruction, Row.pattern, spell, InstructionTable.digitOf?, operand]
    omega
  case draw x y height =>
    have small : height.toNat < 16 := encodable
    rw [encode, Opcode.ofDigits_toNat _ _ (by decide) small]
    simp [Row.ofInstruction, Row.pattern, spell, InstructionTable.digitOf?, operand]
    omega
  case skipIfSame x y | copy x y | bitOr x y | bitAnd x y | bitXor x y | add x y | subtract x y
      | shiftRight x y | subtractFrom x y | shiftLeft x y | skipUnlessSame x y =>
    rw [encode, Opcode.ofDigits_toNat _ _ (by decide) (by decide)]
    simp [Row.ofInstruction, Row.pattern, spell, InstructionTable.digitOf?, operand]
    omega
  case skipIfPressed x | skipUnlessPressed x | getDelay x | awaitKey x | setDelay x | setSound x
      | addIndex x | pointToGlyph x | storeDecimal x | storeRegisters x | loadRegisters x =>
    rw [encode, Opcode.ofByte_toNat _ (by decide) (by decide)]
    simp [Row.ofInstruction, Row.pattern, spell, InstructionTable.digitOf?, operand]
    omega

theorem length_assemble (instructions : List Instruction) :
    (assemble instructions).length = 2 * instructions.length := by
  induction instructions with
  | nil => rfl
  | cons instruction rest ih =>
    have two : instruction.spelled.bytes.length = 2 := rfl
    have split : assemble (instruction :: rest) = instruction.spelled.bytes ++ assemble rest := rfl
    rw [split, List.length_append, ih, two, List.length_cons]
    omega

/-- Every instruction takes two bytes, so its own lie at twice its position. -/
theorem getElem?_assemble {instructions : List Instruction} {position : Nat}
    {instruction : Instruction} (found : instructions[position]? = some instruction) :
    (assemble instructions)[2 * position]? = instruction.spelled.bytes[0]? ∧
      (assemble instructions)[2 * position + 1]? = instruction.spelled.bytes[1]? := by
  induction instructions generalizing position with
  | nil => cases found
  | cons first rest ih =>
    cases position with
    | zero =>
      cases found
      exact ⟨rfl, rfl⟩
    | succ position => exact ih found

end Instruction

theorem Opcode.ofBytes_bytes (opcode : Opcode) :
    ofBytes (.ofNat (opcode.word.toNat / 256)) (.ofNat (opcode.word.toNat % 256)) = opcode := by
  have bound := opcode.word.toNat_lt
  apply eq_of_toNat
  rw [ofBytes_toNat, UInt8.toNat_ofNat', UInt8.toNat_ofNat']
  omega

/-- The bytes of a loaded program lie from the start of programs on. -/
theorem Memory.read_programStart {memory : Memory} {program : Program} {offset : Nat} {byte : UInt8}
    (fits : program.length ≤ programCapacity)
    (image : ∀ cell, memory.byteIn cell = program.byteAt cell)
    (found : program[offset]? = some byte) :
    memory.read (programStart + .ofNat offset) = byte := by
  obtain ⟨inside, here⟩ := List.getElem?_eq_some_iff.mp found
  have start : programStart.toNat = 512 := rfl
  have small : offset < 3584 := Nat.lt_of_lt_of_le inside fits
  have cell : (programStart.cellAfter offset).val = 512 + offset := by
    rw [Address.cellAfter_val, start, Nat.mod_eq_of_lt (by omega)]
  rw [read_add, image, Program.byteAt, cell, if_neg (by omega), if_pos (by omega),
    Nat.add_sub_cancel_left, List.getD_eq_getElem?_getD, found, Option.getD_some]

namespace Instruction

variable {instructions : List Instruction} {memory : Memory}

theorem opcodeAt_assemble (fits : (assemble instructions).length ≤ programCapacity)
    (image : ∀ cell, memory.byteIn cell = (assemble instructions).byteAt cell)
    {position : Nat} {instruction : Instruction}
    (found : instructions[position]? = some instruction) :
    memory.opcodeAt (programStart + .ofNat (2 * position)) = instruction.spelled := by
  obtain ⟨upper, lower⟩ := getElem?_assemble found
  have next : programStart + UInt16.ofNat (2 * position) + 1 =
      programStart + UInt16.ofNat (2 * position + 1) := by
    rw [UInt16.add_assoc, UInt16.ofNat_add]
    rfl
  rw [Memory.opcodeAt, Memory.readWord, next, Memory.read_programStart fits image upper,
    Memory.read_programStart fits image lower]
  exact Opcode.ofBytes_bytes _

/-- Programs read back as they were assembled, and what decodes in memory is spelled there. -/
theorem programs_read_back :
    (∀ instructions : List Instruction, instructions.length ≤ 1792 →
      (∀ instruction ∈ instructions, instruction.Encodable) →
      ∀ machine : Machine, ∃ loaded, machine.load (assemble instructions) = .ok loaded ∧
        ∀ position instruction, instructions[position]? = some instruction →
          decode (loaded.memory.opcodeAt (0x200 + .ofNat (2 * position))) = some instruction) ∧
    (∀ (memory : Memory) (address : Address) (instruction : Instruction),
      decode (memory.opcodeAt address) = some instruction →
        instruction.Encodable ∧ instruction.spelled = memory.opcodeAt address) ∧
    ∀ (one other : Opcode) (instruction : Instruction),
      decode one = some instruction → decode other = some instruction → one = other := by
  refine ⟨?_, ?_, ?_⟩
  · intro instructions short encodable machine
    have fits : (assemble instructions).length ≤ programCapacity := by
      rw [length_assemble, programCapacity]
      omega
    obtain ⟨loaded, success, startsOver⟩ := machine.load_startsOver fits
    refine ⟨loaded, success, ?_⟩
    intro position instruction found
    have here := opcodeAt_assemble fits startsOver.memory found
    have inside := encodable instruction (List.mem_of_getElem? found)
    rw [← encode_eq_spelled inside] at here
    exact (congrArg decode here).trans (decode_encode inside)
  · intro memory address instruction decoded
    obtain ⟨encodable, encoded⟩ := encode_of_decode decoded
    exact ⟨encodable, (encode_eq_spelled encodable).symm.trans encoded⟩
  · intro one other instruction decoded decodedToo
    rw [← (encode_of_decode decoded).2, (encode_of_decode decodedToo).2]

/-- A program that draws the same sprite over and over. -/
def blinking : List Instruction := [.setConst 0xA 0x23, .draw 0xA 0xB 0xF, .jump 0x202]

/-- Its second instruction is found at the address that the third one jumps to. -/
theorem programs_read_back_blinking :
    (blinking.length ≤ 1792 ∧ ∀ instruction ∈ blinking, instruction.Encodable) ∧
      assemble blinking = [0x6A, 0x23, 0xDA, 0xBF, 0x12, 0x02] ∧
      ∃ loaded,
        (Machine.new .standard .silent (.ofSeed 0)).load (assemble blinking) = .ok loaded ∧
          decode (loaded.memory.opcodeAt 0x202) = some (.draw 0xA 0xB 0xF) ∧
          spelled (.draw 0xA 0xB 0xF) = loaded.memory.opcodeAt 0x202 := by
  have short : blinking.length ≤ 1792 := by decide
  have encodable : ∀ instruction ∈ blinking, instruction.Encodable := by decide
  obtain ⟨loaded, success, back⟩ := programs_read_back.1 blinking short encodable
    (.new .standard .silent (.ofSeed 0))
  have second : decode (loaded.memory.opcodeAt 0x202) = some (.draw 0xA 0xB 0xF) := back 1 _ rfl
  exact ⟨⟨short, encodable⟩, by decide, loaded, success, second,
    (programs_read_back.2.1 _ _ _ second).2⟩

end Instruction
end Chip8
