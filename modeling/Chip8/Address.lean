/-! Hexadecimal digits, and addresses. Memory looks at an address modulo 4096, so its upper four
bits never select a different cell. -/
namespace Chip8

/-- There is a digit, so every numeral stands for one. -/
instance someDigit : @NeZero Nat Zero.ofOfNat0 16 := ⟨Nat.succ_ne_zero 15⟩

/-- The last hexadecimal digit of a number. -/
def digit (value : Nat) : Fin 16 := ⟨value % 16, Nat.mod_lt _ (by decide)⟩

/-- A 16-bit address: program counter, index register or saved return address. -/
abbrev Address := UInt16

namespace Address

def cell (address : Address) : Fin 4096 :=
  ⟨address.toNat % 4096, Nat.mod_lt _ (by decide)⟩

/-- Move forward around the ring of 4096 cells. -/
def advance (address distance : Address) : Address :=
  (address + distance) % 4096

theorem cell_val (address : Address) : (cell address).val = address.toNat % 4096 := rfl

theorem advance_toNat (address distance : Address) :
    (advance address distance).toNat = (address.toNat + distance.toNat) % 4096 := by
  simp only [advance, UInt16.toNat_mod, UInt16.toNat_add]
  have small : UInt16.toNat 4096 = 4096 := rfl
  rw [small]
  omega

theorem advance_lt (address distance : Address) : (advance address distance).toNat < 4096 := by
  rw [advance_toNat]
  exact Nat.mod_lt _ (by decide)

end Address
end Chip8
