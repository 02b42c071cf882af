import Chip8.Machine.Execute
import Chip8.Proofs.Storage
import Mathlib.Data.Finset.Card

/-! Transfers between registers and memory. Registers and decimal digits are stored in a window
of cells from the index register on, which may run around the end of memory, and registers are
loaded from such a window. Nothing is lost on the way, and nothing else is touched. -/
namespace Chip8

namespace Memory

/-- The cells that an address and those after it select, as many as asked for. -/
def window (address : Address) (count : Nat) : Finset (Fin 4096) :=
  (Finset.range count).image address.cellAfter

variable {address : Address} {count : Nat}

theorem mem_window_iff (fits : count ≤ 4096) {cell : Fin 4096} :
    cell ∈ window address count ↔ place address.toNat cell < count := by
  simp only [window, Finset.mem_image, Finset.mem_range]
  constructor
  · rintro ⟨offset, inside, rfl⟩
    rwa [place_cellAfter address (Nat.lt_of_lt_of_le inside fits)]
  · intro inside
    exact ⟨_, inside, cellAfter_place address cell⟩

/-- A window that is no longer than memory does not meet itself. -/
theorem card_window (fits : count ≤ 4096) : (window address count).card = count := by
  rw [window, Finset.card_image_of_injOn, Finset.card_range]
  intro offset inside other insideToo same
  have short : offset < 4096 := Nat.lt_of_lt_of_le (Finset.mem_range.mp inside) fits
  have shortToo : other < 4096 := Nat.lt_of_lt_of_le (Finset.mem_range.mp insideToo) fits
  calc offset = place address.toNat (address.cellAfter offset) :=
        (place_cellAfter address short).symm
    _ = place address.toNat (address.cellAfter other) := congrArg _ same
    _ = other := place_cellAfter address shortToo

theorem byteIn_writeMany_of_not_mem (memory : Memory) {bytes : List UInt8}
    (fits : bytes.length ≤ 4096) {cell : Fin 4096}
    (outside : cell ∉ window address bytes.length) :
    (memory.writeMany address bytes).byteIn cell = memory.byteIn cell := by
  rw [mem_window_iff fits, Nat.not_lt] at outside
  rw [byteIn_writeMany _ _ fits, List.getElem?_eq_none outside, Option.getD_none]

theorem byteIn_writeMany_cellAfter (memory : Memory) (address : Address) {bytes : List UInt8}
    (fits : bytes.length ≤ 4096) {offset : Nat} (inside : offset < bytes.length) :
    (memory.writeMany address bytes).byteIn (address.cellAfter offset) = bytes[offset] := by
  rw [byteIn_writeMany _ _ fits, place_cellAfter address (Nat.lt_of_lt_of_le inside fits),
    List.getElem?_eq_getElem inside, Option.getD_some]

theorem byteIn_writeMany_readMany (memory : Memory) (address : Address) (fits : count ≤ 4096)
    (cell : Fin 4096) :
    (memory.writeMany address (memory.readMany address count)).byteIn cell =
      memory.byteIn cell := by
  have length : (memory.readMany address count).length = count := by
    rw [readMany, List.length_map, List.length_range]
  rw [byteIn_writeMany _ _ (length.symm ▸ fits)]
  by_cases inside : place address.toNat cell < count
  · have byte : (memory.readMany address count)[place address.toNat cell]? =
        some (memory.byteIn cell) := by
      rw [readMany, List.getElem?_map, List.getElem?_range inside, Option.map_some, read_add,
        cellAfter_place]
    rw [byte, Option.getD_some]
  · rw [List.getElem?_eq_none (length.symm ▸ Nat.le_of_not_lt inside), Option.getD_none]

end Memory

namespace Machine

/-- All that a machine leaves to another is as before, but for some cells, the first general
registers, as many as told, and the program counter. -/
structure Touches (machine : Machine) (cells : Finset (Fin 4096)) (count : Nat)
    (after : Machine) : Prop where
  memory : ∀ cell, cell ∉ cells → after.memory.byteIn cell = machine.memory.byteIn cell
  general : ∀ register : Register,
    count ≤ register.val → after.v register = machine.v register
  rest : after = { machine with
    memory := after.memory
    registers := { machine.registers with
      v := after.registers.v
      pc := after.registers.pc } }

variable (machine : Machine)

@[simp] theorem v_proceed (register : Register) : machine.proceed.v register = machine.v register :=
  rfl

@[simp] theorem memory_proceed : machine.proceed.memory = machine.memory := rfl

@[simp] theorem index_proceed : machine.proceed.registers.index = machine.registers.index := rfl

@[simp] theorem index_loadTo (x : Register) :
    (machine.loadTo x).registers.index = machine.registers.index := by
  simp only [loadTo]

@[simp] theorem v_store (bytes : List UInt8) (register : Register) :
    (machine.store bytes).v register = machine.v register := rfl

@[simp] theorem registersTo_proceed (x : Register) :
    machine.proceed.registersTo x = machine.registersTo x := rfl

@[simp] theorem memory_store (bytes : List UInt8) :
    (machine.store bytes).memory = machine.memory.writeMany machine.registers.index bytes := rfl

@[simp] theorem memory_loadTo (x : Register) : (machine.loadTo x).memory = machine.memory := by
  simp only [loadTo]

theorem v_loadTo (x register : Register) :
    (machine.loadTo x).v register =
      if register ≤ x then machine.memory.byteIn (machine.registers.index.cellAfter register.val)
      else machine.v register := by
  simp only [loadTo, v, Memory.read_add, Fin.getElem_fin, Vector.getElem_ofFn]

theorem length_registersTo (x : Register) : (machine.registersTo x).length = x.val + 1 := by
  have bound := x.isLt
  rw [registersTo, List.length_take, Vector.length_toList]
  omega

theorem registersTo_fits (x : Register) : (machine.registersTo x).length ≤ 4096 := by
  rw [length_registersTo]
  omega

theorem getElem_registersTo {x : Register} {position : Nat} (valid : position < 16)
    (inside : position < (machine.registersTo x).length) :
    (machine.registersTo x)[position] = machine.v ⟨position, valid⟩ := by
  simp only [registersTo, List.getElem_take, Vector.getElem_toList, v, Fin.getElem_fin]

theorem registersTo_loadTo (x : Register) :
    (machine.loadTo x).registersTo x =
      machine.memory.readMany machine.registers.index (x.val + 1) := by
  apply List.ext_getElem
  · rw [length_registersTo, Memory.readMany, List.length_map, List.length_range]
  · intro position inside _
    have low : position ≤ x.val := by
      rw [length_registersTo] at inside
      exact Nat.le_of_lt_succ inside
    have valid : position < 16 := Nat.lt_of_le_of_lt low x.isLt
    have here : (⟨position, valid⟩ : Register) ≤ x := low
    rw [getElem_registersTo _ valid inside, v_loadTo, if_pos here]
    simp only [Memory.readMany, List.getElem_map, List.getElem_range, Memory.read_add]

theorem touches_store {bytes : List UInt8} (fits : bytes.length ≤ 4096) :
    machine.Touches (Memory.window machine.registers.index bytes.length) 0
      (machine.store bytes).proceed where
  memory _ outside := machine.memory.byteIn_writeMany_of_not_mem fits outside
  general _ _ := rfl
  rest := rfl

theorem touches_loadTo (x : Register) :
    machine.Touches ∅ (x.val + 1) (machine.loadTo x).proceed where
  memory _ _ := by rw [memory_proceed, memory_loadTo]
  general register high := by
    have other : ¬ register ≤ x := Nat.not_le_of_lt high
    rw [v_proceed, v_loadTo, if_neg other]
  rest := by simp only [loadTo, proceed, goto]

variable {machine}

theorem Touches.trans {between after : Machine} {cells more : Finset (Fin 4096)}
    {count further : Nat} (first : machine.Touches cells count between)
    (second : between.Touches more further after) :
    machine.Touches (cells ∪ more) (max count further) after where
  memory cell outside := by
    obtain ⟨outsideFirst, outsideSecond⟩ := not_or.mp (Finset.mem_union.not.mp outside)
    rw [second.memory cell outsideSecond, first.memory cell outsideFirst]
  general register high := by
    rw [second.general register (Nat.le_trans (Nat.le_max_right _ _) high),
      first.general register (Nat.le_trans (Nat.le_max_left _ _) high)]
  rest := by
    rw [second.rest, first.rest]

variable (machine)

theorem v_store_loadTo {bytes : List UInt8} (fits : bytes.length ≤ 4096) {y register : Register}
    (low : register ≤ y) (inside : register.val < bytes.length) :
    ((machine.store bytes).proceed.loadTo y).proceed.v register = bytes[register.val] := by
  rw [v_proceed, v_loadTo, if_pos low]
  exact machine.memory.byteIn_writeMany_cellAfter machine.registers.index fits inside

theorem storeRegisters_effect (x : Register) :
    machine.Touches (Memory.window machine.registers.index (x.val + 1)) 0
        (machine.store (machine.registersTo x)).proceed ∧
      ∀ register ≤ x,
        (machine.store (machine.registersTo x)).proceed.memory.byteIn
          (machine.registers.index.cellAfter register.val) = machine.v register := by
  have length := machine.length_registersTo x
  have fits := machine.registersTo_fits x
  constructor
  · have touches := machine.touches_store fits
    rwa [length] at touches
  · intro register low
    have inside : register.val < (machine.registersTo x).length := by
      rw [length]
      exact Nat.lt_succ_of_le low
    rw [memory_proceed, memory_store, Memory.byteIn_writeMany_cellAfter _ _ fits inside,
      getElem_registersTo _ register.isLt inside]

/-- Registers that are stored and loaded from the same window, all of them or the first ones, are
as before. -/
theorem storeRegisters_loadRegisters {x y : Register} (within : y ≤ x) :
    machine.Touches (Memory.window machine.registers.index (x.val + 1)) 0
      ((machine.store (machine.registersTo x)).proceed.loadTo y).proceed := by
  have touches := (machine.storeRegisters_effect x).1.trans (touches_loadTo _ y)
  rw [Finset.union_empty] at touches
  refine ⟨touches.memory, ?_, touches.rest⟩
  intro register _
  by_cases low : register ≤ y
  · have inside : register.val < (machine.registersTo x).length := by
      rw [length_registersTo]
      exact Nat.lt_succ_of_le (Nat.le_trans low within)
    rw [v_store_loadTo _ (machine.registersTo_fits x) low inside,
      getElem_registersTo _ register.isLt inside]
  · rw [v_proceed, v_loadTo, if_neg low, v_proceed, v_store]

theorem loadRegisters_storeRegisters (x : Register) :
    machine.Touches ∅ (x.val + 1)
      ((machine.loadTo x).proceed.store ((machine.loadTo x).proceed.registersTo x)).proceed := by
  have loads := machine.touches_loadTo x
  have touches := loads.trans (storeRegisters_effect _ x).1
  rw [Nat.max_zero] at touches
  refine ⟨?_, touches.general, touches.rest⟩
  intro cell _
  rw [memory_proceed, memory_store, memory_proceed, memory_loadTo, index_proceed, index_loadTo,
    registersTo_proceed, registersTo_loadTo]
  exact machine.memory.byteIn_writeMany_readMany _ (by omega) cell

theorem decimalDigits_fits (value : UInt8) : (decimalDigits value).length ≤ 4096 :=
  Nat.le_of_ble_eq_true rfl

theorem decimalDigits_value (value : UInt8) :
    ((value / 100).toNat ≤ 9 ∧ (value / 10 % 10).toNat ≤ 9 ∧ (value % 10).toNat ≤ 9) ∧
      100 * (value / 100).toNat + 10 * (value / 10 % 10).toNat + (value % 10).toNat =
        value.toNat := by
  have small := value.toNat_lt
  have hundred : UInt8.toNat 100 = 100 := rfl
  have ten : UInt8.toNat 10 = 10 := rfl
  simp only [UInt8.toNat_div, UInt8.toNat_mod, hundred, ten]
  omega

theorem storeDecimal_loadRegisters (x : Register) :
    machine.Touches (Memory.window machine.registers.index 3) 3
        ((machine.store (decimalDigits (machine.v x))).proceed.loadTo 2).proceed ∧
      ∀ (register : Register) (low : register.val < 3),
        ((machine.store (decimalDigits (machine.v x))).proceed.loadTo 2).proceed.v register =
          (decimalDigits (machine.v x))[register.val] := by
  have fits := decimalDigits_fits (machine.v x)
  constructor
  · have touches := (machine.touches_store fits).trans (touches_loadTo _ 2)
    rwa [Finset.union_empty] at touches
  · intro register low
    exact machine.v_store_loadTo fits (Nat.le_of_lt_succ low) low

/-- The instructions that move bytes between registers and memory, one alone and one after
another. The index register and the registers that are not loaded never change. -/
structure LosesNothing (machine : Machine) (x : Register) : Prop where
  /-- Registers are stored in as many cells, each in one of its own. -/
  store : ∃ after, machine.execute (.storeRegisters x) = .ok after ∧
    machine.Touches (Memory.window machine.registers.index (x.val + 1)) 0 after ∧
    (Memory.window machine.registers.index (x.val + 1)).card = x.val + 1 ∧
    ∀ register ≤ x,
      after.memory.byteIn (machine.registers.index.cellAfter register.val) =
        machine.v register
  /-- Registers are loaded from such cells. -/
  load : ∃ after, machine.execute (.loadRegisters x) = .ok after ∧
    machine.Touches ∅ (x.val + 1) after ∧
    ∀ register ≤ x, after.v register =
      machine.memory.byteIn (machine.registers.index.cellAfter register.val)
  /-- Registers stored and loaded again are as before. -/
  storeLoad : ∀ y ≤ x, ∃ after,
    machine.executeMany [.storeRegisters x, .loadRegisters y] = (.ok (), after) ∧
      machine.Touches (Memory.window machine.registers.index (x.val + 1)) 0 after
  /-- Memory is as before when what was loaded from it is stored again. -/
  loadStore : ∃ after,
    machine.executeMany [.loadRegisters x, .storeRegisters x] = (.ok (), after) ∧
      machine.Touches ∅ (x.val + 1) after
  /-- Decimal digits are stored in three cells. -/
  decimal : ∃ after, machine.execute (.storeDecimal x) = .ok after ∧
    machine.Touches (Memory.window machine.registers.index 3) 0 after ∧
    (Memory.window machine.registers.index 3).card = 3
  /-- Decimal digits stored and loaded make up the byte they were taken of. -/
  decimalLoad : ∃ after,
    machine.executeMany [.storeDecimal x, .loadRegisters 2] = (.ok (), after) ∧
      machine.Touches (Memory.window machine.registers.index 3) 3 after ∧
      ((after.v 0).toNat ≤ 9 ∧ (after.v 1).toNat ≤ 9 ∧ (after.v 2).toNat ≤ 9) ∧
      100 * (after.v 0).toNat + 10 * (after.v 1).toNat + (after.v 2).toNat =
        (machine.v x).toNat

/-- Transfers between registers and memory lose nothing, wherever the index register points. -/
theorem transfers_lose_nothing (machine : Machine) (x : Register) : machine.LosesNothing x where
  store := by
    obtain ⟨touches, stored⟩ := machine.storeRegisters_effect x
    exact ⟨_, rfl, touches, Memory.card_window (by omega), stored⟩
  load := by
    refine ⟨_, rfl, machine.touches_loadTo x, ?_⟩
    intro register low
    rw [v_proceed, v_loadTo, if_pos low]
  storeLoad y within := ⟨_, rfl, machine.storeRegisters_loadRegisters within⟩
  loadStore := ⟨_, rfl, machine.loadRegisters_storeRegisters x⟩
  decimal :=
    ⟨_, rfl, machine.touches_store (decimalDigits_fits _), Memory.card_window (by decide)⟩
  decimalLoad := by
    obtain ⟨touches, digits⟩ := machine.storeDecimal_loadRegisters x
    refine ⟨_, rfl, touches, ?_⟩
    rw [digits 0 (by decide), digits 1 (by decide), digits 2 (by decide)]
    exact decimalDigits_value (machine.v x)

/-- A machine whose index register points behind memory and close to the end of all addresses. -/
def straddling : Machine :=
  { Machine.new .standard .silent (.ofSeed 0) with
    registers := { Registers.new with v := .replicate 16 0x2A, index := 0xFFFA } }

/-- Its registers go around the end of memory and come back. -/
theorem transfers_lose_nothing_straddling :
    (4095 ∈ Memory.window 0xFFFA 16 ∧ 0 ∈ Memory.window 0xFFFA 16) ∧
      ∃ after, straddling.executeMany [.storeRegisters 15, .loadRegisters 7] = (.ok (), after) ∧
        straddling.Touches (Memory.window 0xFFFA 16) 0 after :=
  ⟨by decide, (transfers_lose_nothing straddling 15).storeLoad 7 (by decide)⟩

end Machine
end Chip8
