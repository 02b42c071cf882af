import Chip8.Proofs.Halting

namespace Chip8.Machine

/-- The instructions that a request executes, in a step or by hand. -/
def executes (machine : Machine) : Operation → List Instruction
  | .step | .stepElapsed _ => machine.fetch.executed machine.nextInstruction?.toList
  | operation => machine.executed operation.byHand

/-- One instruction that was executed, and the machines before and after it. -/
structure Transition where
  before : Machine
  instruction : Instruction
  after : Machine
  executed : before.execute instruction = .ok after

/-- What the instructions of a list do before the first one that fails. -/
def transitions (machine : Machine) : List Instruction → List Transition
  | [] => []
  | instruction :: rest =>
    match executed : machine.execute instruction with
    | .error _ => []
    | .ok after => ⟨machine, instruction, after, executed⟩ :: after.transitions rest

/-- What the instructions do that a request executes, in a step or by hand. -/
def transitionsOf (machine : Machine) : Operation → List Transition
  | .step | .stepElapsed _ => machine.fetch.transitions machine.nextInstruction?.toList
  | operation => machine.transitions operation.byHand

theorem reached_next (machine : Machine) (operations : List Operation) (count : Nat) :
    machine.reached operations (count + 1) =
      match operations[count]? with
      | some operation => ((machine.reached operations count).perform operation).2
      | none => machine.reached operations count := by
  by_cases valid : count < operations.length
  · rw [reached_succ machine valid, List.getElem?_eq_getElem valid]
  · have done : operations.length ≤ count := Nat.le_of_not_lt valid
    rw [List.getElem?_eq_none done, reached, reached,
      List.take_of_length_le (Nat.le_succ_of_le done), List.take_of_length_le done]

variable {machine after : Machine}

theorem transitions_of_ok {instruction : Instruction} {rest : List Instruction}
    (executed : machine.execute instruction = .ok after) :
    machine.transitions (instruction :: rest) =
      ⟨machine, instruction, after, executed⟩ :: after.transitions rest := by
  rw [transitions]
  split
  · rename_i failed
    rw [executed] at failed
    cases failed
  · rename_i same
    cases executed.symm.trans same
    rfl

theorem transitions_of_error {instruction : Instruction} {rest : List Instruction} {fault : Fault}
    (failed : machine.execute instruction = .error fault) :
    machine.transitions (instruction :: rest) = [] := by
  rw [transitions]
  split
  · rfl
  · rename_i executed
    rw [failed] at executed
    cases executed

theorem map_transitions (machine : Machine) (instructions : List Instruction) :
    (machine.transitions instructions).map (·.instruction) = machine.executed instructions := by
  induction instructions generalizing machine with
  | nil => rfl
  | cons instruction rest ih =>
    rw [executed]
    cases result : machine.execute instruction with
    | error fault =>
      rw [transitions_of_error result]
      rfl
    | ok after => rw [transitions_of_ok result, List.map_cons, ih]

theorem map_transitionsOf (machine : Machine) (operation : Operation) :
    (machine.transitionsOf operation).map (·.instruction) = machine.executes operation := by
  cases operation
  all_goals exact map_transitions _ _

/-- A step executes one instruction and settles, or it executes none. Then it carries on a key
wait, or it fails and changes nothing but the opcode and the status. -/
theorem stepElapsed_transitions (machine : Machine) (elapsed : Nat) :
    (∃ transition, machine.transitionsOf (.stepElapsed elapsed) = [transition] ∧
      transition.before = machine.fetch ∧
      machine.stepElapsed elapsed = transition.after.settle elapsed) ∨
    machine.transitionsOf (.stepElapsed elapsed) = [] ∧
      ((∃ x, machine.status = .awaitingKey x ∧
        machine.stepElapsed elapsed = (machine.resumeKeyWait x).settle elapsed) ∨
      ∃ fault opcode status, machine.stepElapsed elapsed =
        (.error (.fault fault), { machine with opcode := opcode, status := status })) := by
  rw [transitionsOf]
  rcases stepElapsed_cases machine elapsed with
    ⟨fault, halted, stepped⟩ | ⟨fault, running, failed, stepped⟩ |
    ⟨acted, acts, stepped⟩
  · right
    rw [nextInstruction?, halted]
    exact ⟨rfl, Or.inr ⟨fault, machine.opcode, machine.status, stepped⟩⟩
  · right
    refine ⟨?_, Or.inr ⟨fault, machine.fetch.opcode, .halted fault, stepped⟩⟩
    rw [nextInstruction?, running]
    rw [dispatch] at failed
    cases decoded : Instruction.decode machine.fetch.opcode with
    | none => rfl
    | some instruction =>
      rw [decoded] at failed
      exact transitions_of_error failed
  · rcases acts.cases with ⟨instruction, next, executed⟩ | ⟨x, waiting, rfl⟩
    · left
      rw [next, Option.toList_some, transitions_of_ok executed]
      exact ⟨_, rfl, rfl, stepped⟩
    · right
      rw [nextInstruction?, waiting]
      exact ⟨rfl, Or.inl ⟨x, rfl, stepped⟩⟩

theorem stepElapsed_executes (machine : Machine) (elapsed : Nat) :
    (∃ instruction acted, machine.executes (.stepElapsed elapsed) = [instruction] ∧
      machine.fetch.execute instruction = .ok acted ∧
      machine.stepElapsed elapsed = acted.settle elapsed) ∨
    machine.executes (.stepElapsed elapsed) = [] ∧
      ((∃ x, machine.status = .awaitingKey x ∧
        machine.stepElapsed elapsed = (machine.resumeKeyWait x).settle elapsed) ∨
      ∃ fault opcode status, machine.stepElapsed elapsed =
        (.error (.fault fault), { machine with opcode := opcode, status := status })) := by
  rw [← map_transitionsOf]
  rcases stepElapsed_transitions machine elapsed with
    ⟨transition, alone, before, stepped⟩ | ⟨none, idle⟩
  · left
    rw [alone, ← before]
    exact ⟨transition.instruction, transition.after, rfl, transition.executed, stepped⟩
  · right
    rw [none]
    exact ⟨rfl, idle⟩

/-- A step that executes nothing leaves the call stack and the generator alone. -/
theorem stepElapsed_idle {elapsed : Nat}
    (idle : machine.transitionsOf (.stepElapsed elapsed) = []) :
    (machine.stepElapsed elapsed).2.registers.stack = machine.registers.stack ∧
      (machine.stepElapsed elapsed).2.generator = machine.generator := by
  rcases stepElapsed_transitions machine elapsed with
    ⟨transition, alone, -⟩ | ⟨-, ⟨x, -, stepped⟩ | ⟨fault, opcode, status, stepped⟩⟩
  · rw [idle] at alone
    cases alone
  · obtain ⟨timers, schedule, speaker, settled⟩ :=
      settle_frame (machine.resumeKeyWait x) elapsed
    obtain ⟨v, pc, fresh, status, resumed⟩ := resumeKeyWait_frame machine x
    rw [stepped, settled, resumed]
    exact ⟨rfl, rfl⟩
  · rw [stepped]
    exact ⟨rfl, rfl⟩

end Chip8.Machine
