import Chip8.Proofs.Halting
import Chip8.Proofs.InPlace

/-! Failures leave nothing half done. An instruction that fails has changed nothing, a list stops
before the instruction that fails, and a step that fails halts the machine and remembers the
opcode, no more. -/
namespace Chip8.Machine

/-- The instructions that a machine cannot execute, and the fault of each. -/
inductive Fails (machine : Machine) : Instruction → Fault → Prop where
  | overflow (target : Address) (full : machine.registers.stack.depth = 16) :
      Fails machine (.call target) (.stackOverflow machine.registers.pc)
  | underflow (empty : machine.registers.stack.depth = 0) :
      Fails machine .ret (.stackUnderflow machine.registers.pc)

def nextOpcode (machine : Machine) : Opcode :=
  .ofBytes (machine.memory.read machine.registers.pc)
    (machine.memory.read (machine.registers.pc + 1))

/-- The fault that the next step of a running machine ends in, if it does. -/
inductive StepFails (machine : Machine) : Fault → Prop where
  | unknown (running : machine.status = .running)
      (unknown : Instruction.decode machine.nextOpcode = none) :
      StepFails machine (.unknownOpcode machine.nextOpcode.word machine.registers.pc)
  | failing {instruction : Instruction} {fault : Fault} (running : machine.status = .running)
      (known : Instruction.decode machine.nextOpcode = some instruction)
      (fails : machine.Fails instruction fault) : StepFails machine fault

/-- A machine that a failed step leaves: only the opcode and the status are new. -/
def haltedWith (machine : Machine) (fault : Fault) : Machine :=
  { machine with opcode := machine.nextOpcode, status := .halted fault }

variable {machine after : Machine} {instruction : Instruction} {fault : Fault}

theorem execute_eq_error_iff :
    machine.execute instruction = .error fault ↔ machine.Fails instruction fault := by
  constructor
  · intro failed
    cases instruction
    case ret =>
      rw [execute] at failed
      split at failed
      · rename_i popped
        cases failed
        obtain ⟨empty, rfl⟩ := CallStack.pop_eq_error_iff.mp popped
        exact .underflow empty
      · cases failed
    case call target =>
      rw [execute] at failed
      split at failed
      · rename_i pushed
        cases failed
        obtain ⟨full, rfl⟩ := CallStack.push_eq_error_iff.mp pushed
        exact .overflow target full
      · cases failed
    all_goals cases failed
  · intro fails
    cases fails with
    | overflow target full => rw [execute, CallStack.push_eq_error_iff.mpr ⟨full, rfl⟩]
    | underflow empty => rw [execute, CallStack.pop_eq_error_iff.mpr ⟨empty, rfl⟩]

theorem execute_on_eq_error_iff :
    (InPlace.execute instruction).on machine = (.error fault, after) ↔
      machine.Fails instruction fault ∧ after = machine := by
  rw [InPlace.execute_on, ← execute_eq_error_iff]
  cases machine.execute instruction with
  | error cause => simp [eq_comm]
  | ok executed => simp

/-- A list fails at the first instruction that fails, after all those before it. -/
theorem executeMany_eq_error_iff {instructions : List Instruction} :
    machine.executeMany instructions = (.error fault, after) ↔
      ∃ before failing rest, instructions = before ++ failing :: rest ∧
        before.foldlM execute machine = .ok after ∧ after.Fails failing fault := by
  induction instructions generalizing machine with
  | nil => simp [executeMany]
  | cons instruction rest ih =>
    rw [executeMany]
    constructor
    · intro failed
      cases executed : machine.execute instruction with
      | error cause =>
        rw [executed] at failed
        cases failed
        exact ⟨[], instruction, rest, rfl, rfl, execute_eq_error_iff.mp executed⟩
      | ok next =>
        rw [executed] at failed
        obtain ⟨before, failing, later, same, succeeded, fails⟩ := ih.mp failed
        refine ⟨instruction :: before, failing, later, by rw [same]; rfl, ?_, fails⟩
        rw [List.foldlM_cons, executed]
        exact succeeded
    · rintro ⟨before, failing, later, same, succeeded, fails⟩
      cases before with
      | nil =>
        cases same
        cases succeeded
        rw [execute_eq_error_iff.mpr fails]
      | cons first others =>
        cases same
        rw [List.foldlM_cons] at succeeded
        cases executed : machine.execute instruction with
        | error cause =>
          rw [executed] at succeeded
          cases succeeded
        | ok next =>
          rw [executed] at succeeded
          exact ih.mpr ⟨others, failing, later, rfl, succeeded, fails⟩

theorem fails_fetch :
    machine.fetch.Fails instruction fault ↔ machine.Fails instruction fault := by
  constructor
  · intro fails
    cases fails with
    | overflow target full => exact .overflow target full
    | underflow empty => exact .underflow empty
  · intro fails
    cases fails with
    | overflow target full => exact @Fails.overflow machine.fetch target full
    | underflow empty => exact @Fails.underflow machine.fetch empty

theorem StepFails.running (fails : machine.StepFails fault) : machine.status = .running := by
  cases fails with
  | unknown running _ => exact running
  | failing running _ _ => exact running

theorem dispatch_eq_error_iff (running : machine.status = .running) :
    machine.fetch.dispatch = .error fault ↔ machine.StepFails fault := by
  have opcode : machine.fetch.opcode = machine.nextOpcode := rfl
  rw [dispatch, opcode]
  cases decoded : Instruction.decode machine.nextOpcode with
  | none =>
    constructor
    · intro failed
      cases failed
      exact .unknown running decoded
    · intro fails
      cases fails with
      | unknown _ _ => rfl
      | failing _ known _ =>
        rw [decoded] at known
        cases known
  | some instruction =>
    change machine.fetch.execute instruction = .error fault ↔ _
    rw [execute_eq_error_iff, fails_fetch]
    constructor
    · exact .failing running decoded
    · intro fails
      cases fails with
      | unknown _ unknown =>
        rw [decoded] at unknown
        cases unknown
      | failing _ known fails =>
        rw [decoded] at known
        cases known
        exact fails

/-- A step of a machine that is not halted fails only in its instruction, before the keys are
sampled and time passes. -/
theorem stepElapsed_eq_fault_iff {elapsed : Nat}
    (active : ∀ cause, machine.status ≠ .halted cause) :
    machine.stepElapsed elapsed = (.error (.fault fault), after) ↔
      machine.StepFails fault ∧ after = machine.haltedWith fault := by
  rcases stepElapsed_cases machine elapsed with
    ⟨cause, halted, -⟩ | ⟨cause, running, failed, stepped⟩ | ⟨acted, acts, stepped⟩
  · exact absurd halted (active cause)
  · rw [stepped]
    constructor
    · intro same
      cases same
      exact ⟨(dispatch_eq_error_iff running).mp failed, rfl⟩
    · rintro ⟨fails, rfl⟩
      rw [(dispatch_eq_error_iff running).mpr fails] at failed
      cases failed
      rfl
  · rw [stepped]
    constructor
    · intro failed
      exact absurd (congrArg Prod.fst failed) (settle_ne_fault acted elapsed fault)
    · rintro ⟨fails, -⟩
      have failed := (dispatch_eq_error_iff fails.running).mpr fails
      cases acts with
      | executed _ dispatched =>
        rw [failed] at dispatched
        cases dispatched
      | waited waiting =>
        rw [fails.running] at waiting
        cases waiting

/-- A machine that a step has left halted repeats the fault in every further step and changes
no more. -/
theorem run_of_failed {elapsed : Nat}
    (failed : machine.stepElapsed elapsed = (.error (.fault fault), after)) (times : Nat → Nat)
    (count : Nat) :
    after.run times count = after ∧ after.outcome times count = .error (.fault fault) := by
  have halted := halted_of_failed failed
  have same : after.run times count = after := by
    induction count with
    | zero => rfl
    | succ count ih => rw [run_succ, ih, stepElapsed_of_halted _ halted]
  refine ⟨same, ?_⟩
  rw [outcome, same, stepElapsed_of_halted _ halted]

/-- What fails on a machine leaves no trace but the opcode and the status of a failed step. -/
structure FailsCleanly (machine : Machine) : Prop where
  /-- An instruction carried out in place fails exactly if it is a call on a full stack or a
  return on an empty one, and then nothing has changed. -/
  execute : ∀ instruction fault after,
    (InPlace.execute instruction).on machine = (.error fault, after) ↔
      machine.Fails instruction fault ∧ after = machine
  /-- A list fails exactly if an instruction of it fails after all those before it, and what is
  left is what those before it leave. -/
  executeMany : ∀ instructions fault after,
    machine.executeMany instructions = (.error fault, after) ↔
      ∃ before failing rest, instructions = before ++ failing :: rest ∧
        before.foldlM Machine.execute machine = .ok after ∧ after.Fails failing fault
  /-- A step fails exactly if the opcode is unknown or its instruction fails, and then only the
  opcode and the status change. -/
  stepElapsed : (∀ cause, machine.status ≠ .halted cause) → ∀ elapsed fault after,
    machine.stepElapsed elapsed = (.error (.fault fault), after) ↔
      machine.StepFails fault ∧ after = machine.haltedWith fault
  /-- There is no other failure after a time that can be tolerated. -/
  timely : machine.schedule.Regular → ∀ elapsed < Schedule.tolerance, ∀ cause,
    (machine.stepElapsed elapsed).1 ≠ .error (.overrun cause)
  /-- Steps after a failed one repeat its fault and change nothing. -/
  later : ∀ elapsed fault after, machine.stepElapsed elapsed = (.error (.fault fault), after) →
    ∀ times count,
      after.run times count = after ∧ after.outcome times count = .error (.fault fault)
  /-- The machine's own functions end like their counterparts in place. -/
  inPlace : ∀ instruction instructions elapsed,
    machine.executeMany [instruction] = (InPlace.execute instruction).on machine ∧
      machine.executeMany instructions = (InPlace.executeMany instructions).on machine ∧
      machine.stepElapsed elapsed = (InPlace.stepElapsed elapsed).on machine

/-- Failing operations are atomic, on every machine: an instruction, a list of them or a step
that fails has changed nothing that would have to be taken back. -/
theorem failures_are_atomic (machine : Machine) : machine.FailsCleanly where
  execute _ _ _ := execute_on_eq_error_iff
  executeMany _ _ _ := executeMany_eq_error_iff
  stepElapsed active _ _ _ := stepElapsed_eq_fault_iff active
  timely regular _ tolerable := stepElapsed_ne_overrun regular tolerable
  later _ _ _ failed := run_of_failed failed
  inPlace instruction instructions elapsed := by
    refine ⟨?_, (InPlace.executeMany_on machine instructions).symm,
      (InPlace.stepElapsed_on machine elapsed).symm⟩
    rw [InPlace.execute_on, executeMany]
    cases machine.execute instruction with
    | error fault => rfl
    | ok after => rfl

/-- A machine that calls the same address over and over, with no slot left for another call. -/
def nested : Machine :=
  { Machine.new .standard .silent (.ofSeed 0) with memory := .image [0x22, 0x00] (by decide) }.run
    (fun _ => 0) 16

/-- The next instruction of this machine is one call too many. -/
theorem nested_calls :
    nested.status = .running ∧ nested.registers.pc = 0x200 ∧
      nested.registers.stack.depth = 16 ∧
      Instruction.decode nested.nextOpcode = some (.call 0x200) := by
  decide +kernel

theorem failures_are_atomic_nested :
    (InPlace.execute (.call 0x200)).on nested = (.error (.stackOverflow 0x200), nested) ∧
      nested.stepElapsed 5 =
        (.error (.fault (.stackOverflow 0x200)), nested.haltedWith (.stackOverflow 0x200)) := by
  obtain ⟨running, pc, full, known⟩ := nested_calls
  have fails : nested.Fails (.call 0x200) (.stackOverflow 0x200) := by
    rw [← pc]
    exact .overflow _ full
  have active : ∀ cause, nested.status ≠ .halted cause := by
    rw [running]
    nofun
  have atomic := failures_are_atomic nested
  exact ⟨(atomic.execute _ _ _).mpr ⟨fails, rfl⟩,
    (atomic.stepElapsed active 5 _ _).mpr ⟨.failing running known fails, rfl⟩⟩

end Chip8.Machine
