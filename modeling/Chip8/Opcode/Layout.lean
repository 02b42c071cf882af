import Chip8.Opcode

namespace Chip8.Opcode

/-- Lay out a family, two registers and a last digit. -/
def ofDigits (family : Nat) (x y : Register) (n : Nat) : Opcode :=
  ⟨UInt16.ofNat (family * 4096 + x.val * 256 + y.val * 16 + n)⟩

def ofByte (family : Nat) (x : Register) (byte : Nat) : Opcode :=
  ⟨UInt16.ofNat (family * 4096 + x.val * 256 + byte)⟩

def ofAddress (family : Nat) (address : Address) : Opcode :=
  ⟨UInt16.ofNat (family * 4096 + address.toNat)⟩

theorem eq_of_toNat {one other : Opcode} (same : one.word.toNat = other.word.toNat) :
    one = other := by
  cases one
  cases other
  exact congrArg Opcode.mk (UInt16.toNat_inj.mp same)

theorem ofDigits_toNat {family n : Nat} (x y : Register) (familyBound : family < 16)
    (bound : n < 16) :
    (ofDigits family x y n).word.toNat = family * 4096 + x.val * 256 + y.val * 16 + n := by
  have := x.isLt
  have := y.isLt
  simp only [ofDigits, UInt16.toNat_ofNat']
  omega

theorem ofByte_toNat {family byte : Nat} (x : Register) (familyBound : family < 16)
    (bound : byte < 256) :
    (ofByte family x byte).word.toNat = family * 4096 + x.val * 256 + byte := by
  have := x.isLt
  simp only [ofByte, UInt16.toNat_ofNat']
  omega

theorem ofAddress_toNat {family : Nat} {address : Address} (familyBound : family < 16)
    (bound : address.toNat < 4096) :
    (ofAddress family address).word.toNat = family * 4096 + address.toNat := by
  simp only [ofAddress, UInt16.toNat_ofNat']
  omega

theorem nnn_lt (opcode : Opcode) : opcode.nnn.toNat < 4096 := by
  rw [nnn_toNat]
  exact Nat.mod_lt _ (by decide)

theorem ofDigits_fields (opcode : Opcode) :
    ofDigits opcode.family.val opcode.x opcode.y opcode.n.val = opcode := by
  apply eq_of_toNat
  have bound := opcode.word.toNat_lt
  rw [ofDigits_toNat _ _ opcode.family.isLt opcode.n.isLt, family_val, x_val, y_val, n_val]
  omega

theorem ofByte_fields (opcode : Opcode) :
    ofByte opcode.family.val opcode.x opcode.kk.toNat = opcode := by
  apply eq_of_toNat
  have bound := opcode.word.toNat_lt
  rw [ofByte_toNat _ opcode.family.isLt opcode.kk.toNat_lt, family_val, x_val, kk_toNat]
  omega

theorem ofAddress_fields (opcode : Opcode) :
    ofAddress opcode.family.val opcode.nnn = opcode := by
  apply eq_of_toNat
  rw [ofAddress_toNat opcode.family.isLt opcode.nnn_lt, family_val, nnn_toNat]
  omega

theorem fields_ofDigits {family n : Nat} (x y : Register) (familyBound : family < 16)
    (bound : n < 16) :
    (ofDigits family x y n).family.val = family ∧ (ofDigits family x y n).x = x ∧
      (ofDigits family x y n).y = y ∧ (ofDigits family x y n).n.val = n := by
  have value := ofDigits_toNat x y familyBound bound
  have := x.isLt
  have := y.isLt
  refine ⟨?_, Fin.ext ?_, Fin.ext ?_, ?_⟩
  · rw [family_val]; omega
  · rw [x_val]; omega
  · rw [y_val]; omega
  · rw [n_val]; omega

theorem fields_ofByte {family byte : Nat} (x : Register) (familyBound : family < 16)
    (bound : byte < 256) :
    (ofByte family x byte).family.val = family ∧ (ofByte family x byte).x = x ∧
      (ofByte family x byte).kk = UInt8.ofNat byte := by
  have value := ofByte_toNat x familyBound bound
  have := x.isLt
  refine ⟨?_, Fin.ext ?_, UInt8.toNat_inj.mp ?_⟩
  · rw [family_val]; omega
  · rw [x_val]; omega
  · rw [kk_toNat, UInt8.toNat_ofNat']; omega

theorem fields_ofAddress {family : Nat} {address : Address} (familyBound : family < 16)
    (bound : address.toNat < 4096) :
    (ofAddress family address).family.val = family ∧
      (ofAddress family address).nnn = address := by
  have value := ofAddress_toNat familyBound bound
  refine ⟨?_, UInt16.toNat_inj.mp ?_⟩
  · rw [family_val]; omega
  · rw [nnn_toNat]; omega

end Chip8.Opcode
