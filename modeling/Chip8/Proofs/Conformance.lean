import Chip8.Machine.Step
import Chip8.Proofs.TableEffects

namespace Chip8.InstructionTable

open Machine

theorem fetch_word (machine : Machine) :
    machine.fetch.opcode.word.toNat = (State.of machine).wordAt machine.registers.pc.toNat := by
  have first := State.byteAt_of machine machine.registers.pc 0
  have second := State.byteAt_of machine machine.registers.pc 1
  rw [show UInt16.ofNat 0 = 0 from rfl, UInt16.add_zero, Nat.add_zero] at first
  simp only [State.wordAt, first, second]
  exact Opcode.ofBytes_toNat _ _

theorem effect_ne_unknownOpcode (row : Row) (operands : Operands) (state : State)
    (word : UInt16) (pc : Address) :
    row.effect operands state ≠ .error (.unknownOpcode word pc) := by
  cases row
  case ret =>
    simp only [Row.effect]
    split <;> simp
  case call =>
    simp only [Row.effect]
    split <;> simp
  all_goals simp [Row.effect]

theorem dispatch_of_matches {machine : Machine} {row : Row}
    (matched : row.Matches machine.fetch.opcode.word.toNat) :
    machine.fetch.dispatch.map State.of =
      row.effect (.ofWord machine.fetch.opcode.word.toNat) (State.of machine.fetch) := by
  rw [dispatch, Row.decode_of_matches matched]
  exact map_execute machine.fetch row machine.fetch.opcode

theorem dispatch_unknown_iff (machine : Machine) :
    machine.fetch.dispatch =
        .error (.unknownOpcode machine.fetch.opcode.word machine.registers.pc) ↔
      ∀ row : Row, ¬ row.Matches machine.fetch.opcode.word.toNat := by
  constructor
  · intro unknown row matched
    have effect := dispatch_of_matches matched
    rw [unknown] at effect
    exact effect_ne_unknownOpcode row _ _ _ _ effect.symm
  · intro unmatched
    cases decoded : Instruction.decode machine.fetch.opcode with
    | none =>
      rw [dispatch, decoded]
      rfl
    | some instruction => exact absurd (Row.matches_of_decode decoded) (unmatched _)

theorem Row.eq_of_matches {row other : Row} {opcode : Opcode}
    (matched : row.Matches opcode.word.toNat) (alike : other.Matches opcode.word.toNat) :
    row = other := by
  have same : row.instruction opcode = other.instruction opcode :=
    Option.some.inj ((decode_of_matches matched).symm.trans (decode_of_matches alike))
  rw [← ofInstruction_instruction row opcode, same, ofInstruction_instruction]

/-- A step of a running machine has the effect of the row its word matches, and there is at
most one; it fails with an unknown opcode exactly if there is none. After an instruction that
succeeds the step goes on, after one that fails the machine is halted and else unchanged. -/
theorem step_obeys_table {machine : Machine} {word : UInt16} (elapsed : Nat)
    (running : machine.status = .running)
    (stored : word.toNat = (State.of machine).wordAt machine.registers.pc.toNat) :
    (∀ row : Row, row.Matches word.toNat →
      machine.fetch.dispatch.map State.of =
        row.effect (.ofWord word.toNat) { State.of machine with opcode := word.toNat }) ∧
    (machine.fetch.dispatch = .error (.unknownOpcode word machine.registers.pc) ↔
      ∀ row : Row, ¬ row.Matches word.toNat) ∧
    (∀ row other : Row, row.Matches word.toNat → other.Matches word.toNat → row = other) ∧
    machine.stepElapsed elapsed =
      match machine.fetch.dispatch with
      | .error fault =>
        (.error (.fault fault), { machine with opcode := ⟨word⟩, status := .halted fault })
      | .ok executed => executed.settle elapsed := by
  have fetched : machine.fetch.opcode.word = word := by
    rw [← UInt16.toNat_inj, fetch_word, stored]
  subst fetched
  refine ⟨?_, dispatch_unknown_iff machine, ?_, ?_⟩
  · intro row matched
    exact dispatch_of_matches matched
  · intro row other matched alike
    exact Row.eq_of_matches matched alike
  · rw [stepElapsed, running]
    rfl

/-- A machine about to add the flag register to itself. -/
def doubling : Machine :=
  { Machine.new .standard .silent (.ofSeed 0) with
    memory := (Memory.new.write 0x200 0x8F).write 0x201 0xF4 }

theorem doubling_word : (0x8FF4 : UInt16).toNat =
    (State.of doubling).wordAt doubling.registers.pc.toNat := by
  have left : doubling.memory.read 0x200 = 0x8F := by
    rw [doubling, Memory.read_write, if_neg (by decide), Memory.read_write, if_pos rfl]
  have right : doubling.memory.read 0x201 = 0xF4 := by
    rw [doubling, Memory.read_write, if_pos rfl]
  rw [← fetch_word]
  change _ = (Opcode.ofBytes (doubling.memory.read 0x200) (doubling.memory.read 0x201)).word.toNat
  rw [left, right]
  rfl

theorem step_obeys_table_doubling :
    doubling.status = .running ∧ Row.add.Matches 0x8FF4 ∧
      doubling.fetch.dispatch.map State.of =
        Row.add.effect (.ofWord 0x8FF4) { State.of doubling with opcode := 0x8FF4 } :=
  ⟨rfl, by decide, (step_obeys_table 0 rfl doubling_word).1 .add (by decide)⟩

end Chip8.InstructionTable
