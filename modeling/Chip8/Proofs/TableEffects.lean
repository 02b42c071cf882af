import Chip8.Machine.Execute
import Chip8.Proofs.TableDecoding

/-! Executing an instruction does what its row of the table says. Each writer of the machine
is first read as a writer of the natural-number state; the rows are then composed of these. -/
namespace Chip8.InstructionTable

open Machine

namespace State

variable (machine : Machine)

theorem v_setV (x register : Register) (value : UInt8) :
    (machine.setV x value).v register = if register = x then value else machine.v register := by
  simp only [Machine.v, setV, Fin.getElem_fin, Vector.getElem_set, Fin.ext_iff, eq_comm]

@[simp] theorem of_setV (x : Register) (value : UInt8) :
    of (machine.setV x value) = (of machine).write x value.toNat := by
  have registers : (fun register => ((machine.setV x value).v register).toNat) =
      fun register => if register = x then value.toNat else (machine.v register).toNat := by
    funext register
    rw [v_setV]
    split <;> rfl
  simp only [of, write, registers]
  rfl

@[simp] theorem of_setFlag (flag : Bool) :
    of (machine.setFlag flag) = (of machine).write 15 flag.toNat := by
  cases flag <;> exact of_setV machine 15 _

@[simp] theorem of_setWithFlag (x : Register) (value : UInt8) (flag : Bool) :
    of (machine.setWithFlag x value flag) = (of machine).writeWithFlag x value.toNat flag := by
  rw [setWithFlag, of_setFlag, of_setV, writeWithFlag]

@[simp] theorem of_goto (address : Address) :
    of (machine.goto address) = { of machine with pc := address.toNat } := rfl

@[simp] theorem of_setIndex (address : Address) :
    of (machine.setIndex address) = { of machine with index := address.toNat } := rfl

@[simp] theorem of_proceed : of machine.proceed = (of machine).next := by
  rw [proceed, of_goto, Address.advance_toNat]
  rfl

@[simp] theorem of_skipIf (condition : Bool) :
    of (machine.skipIf condition) = (of machine).skipIf condition := by
  cases condition with
  | false => exact of_proceed machine
  | true =>
    rw [Machine.skipIf, if_pos rfl, of_proceed, of_proceed, next, next, State.skipIf]
    simp only [Nat.mod_add_mod, Nat.add_assoc, if_true]

@[simp] theorem of_setSound (value : UInt8) :
    of (machine.setSound value) = (of machine).setSound value.toNat := by
  have old : machine.timers.sound.toNat = 0 ↔ machine.timers.sound = 0 := by
    simp [← UInt8.toNat_inj]
  have new : value.toNat = 0 ↔ value = 0 := by
    simp [← UInt8.toNat_inj]
  have tone : machine.speaker.playSome (machine.timers.setSound value).2 =
      ((of machine).setSound value.toNat).speaker := by
    simp only [State.setSound, of, Timers.setSound, Nat.pos_iff_ne_zero, ne_eq, old, new]
    by_cases silent : machine.timers.sound = 0 <;> by_cases zero : value = 0 <;>
      simp [silent, zero, Speaker.playSome]
  have timers : (machine.timers.setSound value).1 = { machine.timers with sound := value } := rfl
  simp only [Machine.setSound, of, tone, timers]
  rfl

theorem byteAt_of (address : Address) (offset : Nat) :
    (of machine).byteAt (address.toNat + offset) =
      (machine.memory.read (address + UInt16.ofNat offset)).toNat := by
  rw [Memory.read_add]
  rfl

@[simp] theorem of_store (bytes : List UInt8) (fits : bytes.length ≤ 4096) :
    of (machine.store bytes) = (of machine).store (bytes.map UInt8.toNat) := by
  have stored :
      (fun cell =>
        (machine.memory.writeMany machine.registers.index bytes).cells[cell].toNat) =
      fun cell => ((bytes.map UInt8.toNat)[Memory.place machine.registers.index.toNat cell]?).getD
        machine.memory.cells[cell].toNat := by
    funext cell
    rw [Memory.getElem_writeMany _ _ _ fits, List.getElem?_map]
    cases bytes[Memory.place machine.registers.index.toNat cell]? <;> rfl
  simp only [of, Machine.store, State.store, stored]
  rfl

@[simp] theorem of_loadTo (x : Register) : of (machine.loadTo x) = (of machine).loadTo x := by
  have loaded : (fun register => ((machine.loadTo x).v register).toNat) =
      fun register =>
        if register ≤ x then (of machine).byteAt (machine.registers.index.toNat + register)
        else (machine.v register).toNat := by
    funext register
    rw [byteAt_of]
    simp only [Machine.loadTo, Machine.v, Fin.getElem_fin, Vector.getElem_ofFn]
    split <;> rfl
  simp only [of, State.loadTo, loaded]
  simp only [Machine.loadTo]

@[simp] theorem of_randomize (x : Register) (mask : UInt8) :
    of (machine.randomize x mask) =
      { of machine with generator := machine.generator.draw.2 }.write x
        (machine.generator.draw.1.toNat &&& mask.toNat) := by
  rw [← UInt8.toNat_and]
  exact of_setV { machine with generator := machine.generator.draw.2 } x _

private theorem of_screen (screen : Screen) :
    of { machine with screen := screen } =
      { of machine with
        pixel := fun column line => (screen.frame.get (column, line)).toNat
        needsRedraw := screen.needsRedraw } := rfl

@[simp] theorem of_drawSprite (x y height : UInt8) :
    of (machine.drawSprite x y height) =
      (of machine).draw x.toNat y.toNat
        ((List.range (min height.toNat 15)).map fun row =>
          (of machine).byteAt (machine.registers.index.toNat + row)) := by
  have rows : (List.range (min height.toNat 15)).map (fun row =>
      (of machine).byteAt (machine.registers.index.toNat + row)) =
      (machine.memory.readMany machine.registers.index (min height.toNat spriteRows)).map
        UInt8.toNat := by
    simp only [Memory.readMany, List.map_map, Function.comp_def, byteAt_of, spriteRows]
  rw [rows, Machine.drawSprite, of_setFlag, of_screen, State.draw]
  generalize machine.memory.readMany machine.registers.index _ = sprite
  have collision : (machine.screen.draw x y sprite).2 =
      (List.finRange 64).any fun column => (List.finRange 32).any fun line =>
        decide (2 ≤ (of machine).pixel column line +
          Sprite.hits (sprite.map UInt8.toNat) x.toNat y.toNat (column, line)) := by
    rw [Bool.eq_iff_iff, Screen.draw_collision_iff]
    simp only [List.any_eq_true, List.mem_finRange, true_and, decide_eq_true_eq]
    rfl
  simp only [Screen.get_draw, collision]
  rfl

private theorem map_registersTo (x : Register) :
    (machine.registersTo x).map UInt8.toNat =
      ((List.finRange 16).take (x.val + 1)).map (of machine).v := by
  have all : machine.registers.v.toList = (List.finRange 16).map machine.v := by
    apply List.ext_getElem (by simp)
    intro position _ _
    simp [Machine.v]
  rw [registersTo, all, ← List.map_take, List.map_map]
  rfl

end State

theorem Operands.ofWord_word (opcode : Opcode) :
    ofWord opcode.word.toNat =
      ⟨opcode.x, opcode.y, opcode.n.val, opcode.kk.toNat, opcode.nnn.toNat⟩ := by
  rw [Opcode.kk_toNat, Opcode.nnn_toNat]
  rfl

private theorem map_ret (machine : Machine) (opcode : Opcode) (operands : Operands) :
    (machine.execute (Row.ret.instruction opcode)).map State.of =
      Row.ret.effect operands (State.of machine) := by
  simp only [Row.instruction, execute, Row.effect]
  cases taken : machine.registers.stack.pop machine.registers.pc with
  | error fault =>
    obtain ⟨empty, rfl⟩ := CallStack.pop_eq_error_iff.mp taken
    have none : (State.of machine).saved = [] := by
      simp [State.of, ← List.length_eq_zero_iff, CallStack.length_toList, empty]
    simp only [none, List.getLast?_nil, Except.map]
    simp [State.of]
  | ok pair =>
    obtain ⟨address, popped⟩ := pair
    have saved : (State.of machine).saved = popped.toList.map UInt16.toNat ++ [address.toNat] := by
      simp [State.of, CallStack.toList_pop taken]
    simp only [saved, List.getLast?_concat, List.dropLast_concat, Except.map]
    rfl

private theorem map_call (machine : Machine) (opcode : Opcode) :
    (machine.execute (Row.call.instruction opcode)).map State.of =
      Row.call.effect (.ofWord opcode.word.toNat) (State.of machine) := by
  have count : (State.of machine).saved.length = machine.registers.stack.depth := by
    simp [State.of, CallStack.length_toList]
  rw [Operands.ofWord_word]
  simp only [Row.instruction, execute, Row.effect, count]
  cases stored :
      machine.registers.stack.push (machine.registers.pc.advance 2) machine.registers.pc with
  | error fault =>
    obtain ⟨full, rfl⟩ := CallStack.push_eq_error_iff.mp stored
    simp [full, Except.map, State.of]
  | ok pushed =>
    have room : machine.registers.stack.depth ≠ 16 := fun full => by
      rw [CallStack.push_eq_error_iff.mpr ⟨full, rfl⟩] at stored
      cases stored
    have saved : pushed.toList.map UInt16.toNat =
        (State.of machine).saved ++ [((State.of machine).pc + 2) % 4096] := by
      rw [CallStack.toList_push stored, List.map_append, List.map_singleton, Address.advance_toNat]
      rfl
    simp only [room, if_false, Except.map, ← saved]
    rfl

theorem map_execute (machine : Machine) (row : Row) (opcode : Opcode) :
    (machine.execute (row.instruction opcode)).map State.of =
      row.effect (.ofWord opcode.word.toNat) (State.of machine) := by
  cases row
  case ret => exact map_ret machine opcode _
  case call => exact map_call machine opcode
  all_goals
    have v : ∀ x, (State.of machine).v x = (machine.v x).toNat := fun _ => rfl
    have x := (machine.v opcode.x).toNat_lt
    have y := (machine.v opcode.y).toNat_lt
    rw [Operands.ofWord_word]
    simp only [Row.instruction, execute, Row.effect, Except.map, State.of_proceed,
      State.of_skipIf, State.of_setV, State.of_setWithFlag, v]
  case clearScreen =>
    have dark : ∀ point, (Frame.blank.get point).toNat = 0 := by simp [Frame.get_blank]
    rw [State.of_screen]
    simp only [Screen.clear, dark]
    rfl
  case skipIfConst | skipUnlessConst | skipIfSame | skipUnlessSame =>
    simp only [ne_eq, UInt8.toNat_inj]
  case addConst => rw [UInt8.toNat_add]
  case bitOr => rw [UInt8.toNat_or]
  case bitAnd => rw [UInt8.toNat_and]
  case bitXor => rw [UInt8.toNat_xor]
  case add => rw [UInt8.toNat_add]
  case subtract | subtractFrom =>
    rw [UInt8.toNat_sub]
    simp only [UInt8.lt_iff_toNat_lt]
    congr 4
    omega
  case shiftRight =>
    rw [UInt8.toNat_shiftRight, Nat.testBit_zero]
    simp [Nat.shiftRight_eq_div_pow]
  case shiftLeft =>
    have top :
        (machine.v opcode.y).toNat.testBit 7 = decide (128 ≤ (machine.v opcode.y).toNat) := by
      rw [Nat.testBit_eq_decide_div_mod_eq, decide_eq_decide]
      omega
    have double : (machine.v opcode.y <<< 1).toNat = 2 * (machine.v opcode.y).toNat % 256 := by
      simp [UInt8.toNat_shiftLeft, Nat.shiftLeft_eq, Nat.mul_comm]
    rw [top, double]
  case jumpOffset =>
    rw [State.of_goto, Address.advance_toNat, UInt8.toNat_toUInt16]
  case random => rw [State.of_randomize]; rfl
  case draw =>
    have digit := opcode.n.isLt
    have rows : min (UInt8.ofNat opcode.n.val).toNat 15 = opcode.n.val := by
      rw [UInt8.toNat_ofNat']
      omega
    rw [State.of_drawSprite, rows]
    rfl
  case setSound => rw [State.of_setSound]
  case addIndex =>
    rw [State.of_setIndex, UInt16.toNat_add, UInt8.toNat_toUInt16]
    rfl
  case pointToGlyph =>
    have small : glyphRows.toNat * (machine.v opcode.x).toNat % 2 ^ 16 =
        5 * (machine.v opcode.x).toNat := by
      rw [show glyphRows.toNat = 5 from rfl]
      omega
    rw [State.of_setIndex, UInt16.toNat_mul, UInt8.toNat_toUInt16, small]
  case storeDecimal =>
    rw [State.of_store _ _ (by simp [decimalDigits])]
    simp [decimalDigits]
  case storeRegisters =>
    have short : (machine.registersTo opcode.x).length ≤ 4096 := by
      simp only [registersTo, List.length_take, Vector.length_toList]
      omega
    rw [State.of_store _ _ short, State.map_registersTo]
  case loadRegisters => rw [State.of_loadTo]
  all_goals rfl

end Chip8.InstructionTable
