import Chip8.Memory

namespace Chip8

/-- The cell a distance after the one that an address selects, around the end of memory. -/
def Address.cellAfter (address : Address) (distance : Nat) : Fin 4096 :=
  ⟨(address.toNat + distance) % 4096, Nat.mod_lt _ (by decide)⟩

theorem Address.cellAfter_val (address : Address) (distance : Nat) :
    (address.cellAfter distance).val = (address.toNat + distance) % 4096 := rfl

namespace Memory

/-- The byte in a cell. -/
def byteIn (memory : Memory) (cell : Fin 4096) : UInt8 := memory.cells.get cell

/-- How far a cell lies from an address, going upwards and around the end of memory. -/
def place (address : Nat) (cell : Fin 4096) : Nat :=
  (cell.val + 4096 - address % 4096) % 4096

theorem place_eq_zero_iff (address : Address) (cell : Fin 4096) :
    place address.toNat cell = 0 ↔ address.cell = cell := by
  have inside := cell.isLt
  simp only [place, Fin.ext_iff, Address.cell_val]
  omega

theorem place_cellAfter (address : Address) {distance : Nat} (inside : distance < 4096) :
    place address.toNat (address.cellAfter distance) = distance := by
  simp only [place, Address.cellAfter_val]
  omega

theorem cellAfter_place (address : Address) (cell : Fin 4096) :
    address.cellAfter (place address.toNat cell) = cell := by
  apply Fin.ext
  simp only [place, Address.cellAfter_val]
  omega

/-- An address cut to its width still selects the cell that its number does. -/
theorem read_add (memory : Memory) (address : Address) (distance : Nat) :
    memory.read (address + UInt16.ofNat distance) = memory.byteIn (address.cellAfter distance) := by
  have same : Address.cell (address + UInt16.ofNat distance) = address.cellAfter distance := by
    apply Fin.ext
    rw [Address.cell_val, UInt16.toNat_add, UInt16.toNat_ofNat', Address.cellAfter_val]
    omega
  exact congrArg memory.byteIn same

private theorem place_succ (address : Address) (cell : Fin 4096) :
    place (address + 1).toNat cell =
      if place address.toNat cell = 0 then 4095 else place address.toNat cell - 1 := by
  have inside := cell.isLt
  have one : UInt16.toNat 1 = 1 := rfl
  by_cases first : place address.toNat cell = 0
  · rw [if_pos first]
    simp only [place, UInt16.toNat_add, one] at first ⊢
    omega
  · rw [if_neg first]
    simp only [place, UInt16.toNat_add, one] at first ⊢
    omega

/-- A cell in the window gets the byte of its place, any other keeps its own. -/
theorem getElem_writeMany (memory : Memory) (address : Address) (bytes : List UInt8)
    (fits : bytes.length ≤ 4096) (cell : Fin 4096) :
    (memory.writeMany address bytes).cells[cell] =
      bytes[place address.toNat cell]?.getD memory.cells[cell] := by
  induction bytes generalizing memory address with
  | nil => rfl
  | cons byte bytes ih =>
    have room : bytes.length < 4096 := fits
    rw [writeMany, ih _ _ (Nat.le_of_lt room), place_succ]
    by_cases first : place address.toNat cell = 0
    · have here := (place_eq_zero_iff address cell).mp first
      have beyond : bytes[4095]? = none := List.getElem?_eq_none (by omega)
      simp [first, beyond, write, here]
    · have elsewhere : address.cell.val ≠ cell.val := fun same =>
        first ((place_eq_zero_iff address cell).mpr (Fin.ext same))
      obtain ⟨further, same⟩ := Nat.exists_eq_succ_of_ne_zero first
      simp [same, write, elsewhere]

theorem byteIn_writeMany (memory : Memory) (address : Address) {bytes : List UInt8}
    (fits : bytes.length ≤ 4096) (cell : Fin 4096) :
    (memory.writeMany address bytes).byteIn cell =
      bytes[place address.toNat cell]?.getD (memory.byteIn cell) :=
  memory.getElem_writeMany address bytes fits cell

end Memory
end Chip8
