import Chip8.Address

namespace Chip8

abbrev Register := Fin 16

/-- The word an instruction is fetched as. -/
structure Opcode where
  word : UInt16
  deriving DecidableEq, Repr, Inhabited

namespace Opcode

/-- Join two bytes, the left one in the upper half. -/
def ofBytes (left right : UInt8) : Opcode :=
  ⟨left.toUInt16 * 256 + right.toUInt16⟩

/-- The leading hexadecimal digit, which selects the instruction family. -/
def family (opcode : Opcode) : Fin 16 := digit (opcode.word.toNat / 4096)

/-- The second digit, naming the first register. -/
def x (opcode : Opcode) : Register := digit (opcode.word.toNat / 256)

/-- The third digit, naming the second register. -/
def y (opcode : Opcode) : Register := digit (opcode.word.toNat / 16)

/-- The last digit. -/
def n (opcode : Opcode) : Fin 16 := digit opcode.word.toNat

/-- The lower byte. -/
def kk (opcode : Opcode) : UInt8 := opcode.word.toUInt8

/-- The lower twelve bits. -/
def nnn (opcode : Opcode) : Address := opcode.word % 4096

theorem ofBytes_toNat (left right : UInt8) :
    (ofBytes left right).word.toNat = 256 * left.toNat + right.toNat := by
  have leftSmall := left.toNat_lt
  have rightSmall := right.toNat_lt
  simp only [ofBytes, UInt16.toNat_add, UInt16.toNat_mul, UInt8.toNat_toUInt16]
  have width : UInt16.toNat 256 = 256 := rfl
  rw [width]
  omega

theorem family_val (opcode : Opcode) : opcode.family.val = opcode.word.toNat / 4096 := by
  have bound := opcode.word.toNat_lt
  simp only [family, digit]
  omega

theorem x_val (opcode : Opcode) : opcode.x.val = opcode.word.toNat / 256 % 16 := rfl

theorem y_val (opcode : Opcode) : opcode.y.val = opcode.word.toNat / 16 % 16 := rfl

theorem n_val (opcode : Opcode) : opcode.n.val = opcode.word.toNat % 16 := rfl

theorem kk_toNat (opcode : Opcode) : opcode.kk.toNat = opcode.word.toNat % 256 := by
  simp [kk, UInt16.toNat_toUInt8]

theorem nnn_toNat (opcode : Opcode) : opcode.nnn.toNat = opcode.word.toNat % 4096 := by
  simp only [nnn, UInt16.toNat_mod]
  rfl

end Opcode
end Chip8
