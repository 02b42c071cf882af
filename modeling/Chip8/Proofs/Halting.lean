import Chip8.Proofs.Executions
import Chip8.Proofs.Invariants

namespace Chip8

def Instruction.waits : Instruction → Bool
  | .awaitKey _ => true
  | _ => false

def Operation.steps : Operation → Bool
  | .step | .stepElapsed _ => true
  | _ => false

namespace Machine

/-- Whether a request puts another program into memory. -/
def reloads (machine : Machine) : Operation → Bool
  | .load program => (machine.load program).isOk
  | _ => false

/-- Whether a request makes a halted machine go on: it puts another program into memory, or it
waits for a key by hand. -/
def rouses (machine : Machine) (operation : Operation) : Bool :=
  machine.reloads operation || (machine.executed operation.byHand).any (·.waits)

/-- The machine that the first `count` requests of a list leave. -/
def reached (machine : Machine) (operations : List Operation) (count : Nat) : Machine :=
  (machine.performAll (operations.take count)).2

/-- All along a number of requests the machine stays halted, and every step asked for replies
with the fault that halted it. -/
structure Stays (machine : Machine) (fault : Fault) (operations : List Operation) : Prop where
  halted : ∀ count, (machine.reached operations count).status = .halted fault
  repeats : ∀ index (valid : index < operations.length), operations[index].steps →
    ((machine.reached operations index).perform operations[index]).1 = .failed (.fault fault)

theorem reached_succ (machine : Machine) {operations : List Operation} {index : Nat}
    (valid : index < operations.length) :
    machine.reached operations (index + 1) =
      ((machine.reached operations index).perform operations[index]).2 := by
  rw [reached, ← List.take_append_getElem valid, performAll_concat]
  rfl

/-- Executing instructions by hand ends in waiting for a key if one of them does so, and leaves
the status alone if none does. -/
theorem status_executeMany (machine : Machine) (instructions : List Instruction) :
    if (machine.executed instructions).any (·.waits) then
      ∃ x, (machine.executeMany instructions).2.status = .awaitingKey x
    else (machine.executeMany instructions).2.status = machine.status := by
  induction instructions generalizing machine with
  | nil => rfl
  | cons instruction rest ih =>
    rw [executed, executeMany]
    cases result : machine.execute instruction with
    | error fault => rfl
    | ok after =>
      specialize ih after
      rw [List.any_cons]
      cases waits : instruction.waits with
      | false =>
        have wakeful : ∀ x, instruction ≠ .awaitKey x := by
          rintro x rfl
          cases waits
        rw [status_execute result wakeful] at ih
        exact ih
      | true =>
        obtain ⟨x, rfl⟩ : ∃ x, instruction = .awaitKey x := by
          cases instruction
          case awaitKey x => exact ⟨x, rfl⟩
          all_goals cases waits
        cases result
        rw [Bool.true_or, if_pos rfl]
        -- The rest may wait for another key, and if not, keeps waiting for this one.
        split at ih
        · exact ih
        · exact ⟨x, ih⟩

variable {machine : Machine} {fault : Fault}

theorem status_byHand (halted : machine.status = .halted fault)
    (instructions : List Instruction) :
    (machine.executeMany instructions).2.status = .halted fault ↔
      (machine.executed instructions).any (·.waits) = false := by
  have status := status_executeMany machine instructions
  cases waits : (machine.executed instructions).any (·.waits) with
  | false =>
    rw [waits, if_neg Bool.false_ne_true] at status
    exact iff_of_true (status.trans halted) rfl
  | true =>
    rw [waits, if_pos rfl] at status
    obtain ⟨x, awaiting⟩ := status
    refine iff_of_false ?_ (by decide)
    intro stays
    rw [awaiting] at stays
    cases stays

/-- A halted machine stays so under a request unless the request rouses it. -/
theorem halted_perform_iff (halted : machine.status = .halted fault) (operation : Operation) :
    (machine.perform operation).2.status = .halted fault ↔ machine.rouses operation = false := by
  cases operation with
  | load program =>
    rw [perform, rouses, reloads]
    cases loaded : machine.load program with
    | error error => exact iff_of_true halted rfl
    | ok after =>
      have running := (load_restarted loaded).running
      refine iff_of_false ?_ ?_
      · intro stays
        rw [running] at stays
        cases stays
      · intro calm
        cases calm
  | seed seed => exact iff_of_true halted rfl
  | step =>
    refine iff_of_true ?_ rfl
    rw [perform, step, stepElapsed_of_halted _ halted]
    exact halted
  | stepElapsed elapsed =>
    refine iff_of_true ?_ rfl
    rw [perform, stepElapsed_of_halted _ halted]
    exact halted
  | tickTimers => exact iff_of_true halted rfl
  | render =>
    obtain ⟨screen, display, rendered, -⟩ := render_frame machine
    refine iff_of_true ?_ rfl
    rw [perform, rendered]
    exact halted
  | execute instruction =>
    rw [perform_execute]
    exact status_byHand halted [instruction]
  | executeMany instructions =>
    rw [perform_executeMany]
    exact status_byHand halted instructions

theorem reply_of_halted (halted : machine.status = .halted fault) {operation : Operation}
    (steps : operation.steps) : (machine.perform operation).1 = .failed (.fault fault) := by
  cases operation
  case step =>
    rw [perform, step, stepElapsed_of_halted _ halted]
    rfl
  case stepElapsed elapsed =>
    rw [perform, stepElapsed_of_halted _ halted]
    rfl
  all_goals cases steps

theorem halted_of_failed {after : Machine} {elapsed : Nat}
    (failed : machine.stepElapsed elapsed = (.error (.fault fault), after)) :
    after.status = .halted fault := by
  rcases stepElapsed_cases machine elapsed with
    ⟨cause, halted, stepped⟩ | ⟨cause, -, -, stepped⟩ | ⟨acted, -, stepped⟩
  · rw [stepped] at failed
    cases failed
    exact halted
  · rw [stepped] at failed
    cases failed
    rfl
  · rw [stepped] at failed
    exact absurd (congrArg Prod.fst failed) (settle_ne_fault acted elapsed fault)

/-- After a step has failed the machine stays halted and every step repeats the fault, as long
as no request rouses it, and no longer. -/
theorem stays_halted_iff_not_roused {after : Machine} {elapsed : Nat}
    (failed : machine.stepElapsed elapsed = (.error (.fault fault), after))
    (operations : List Operation) :
    after.Stays fault operations ↔
      ∀ index (valid : index < operations.length),
        (after.reached operations index).rouses operations[index] = false := by
  constructor
  · intro stays index valid
    rw [← halted_perform_iff (stays.halted index), ← reached_succ after valid]
    exact stays.halted (index + 1)
  · intro calm
    have halted : ∀ count, (after.reached operations count).status = .halted fault := by
      intro count
      induction count with
      | zero => exact halted_of_failed failed
      | succ count ih =>
        by_cases valid : count < operations.length
        · rw [reached_succ after valid, halted_perform_iff ih]
          exact calm count valid
        · have done : operations.length ≤ count := Nat.le_of_not_lt valid
          rw [reached, List.take_of_length_le done] at ih
          rw [reached, List.take_of_length_le (Nat.le_succ_of_le done)]
          exact ih
    exact ⟨halted, fun index _ steps => reply_of_halted (halted index) steps⟩

def lost : Machine :=
  { Machine.new .standard .silent (.ofSeed 0) with memory := .image [0xFF, 0xFF] (by decide) }

/-- A machine with an unknown opcode where programs start, after its first step. -/
def stranded : Machine := (lost.stepElapsed 0).2

theorem failed_lost :
    lost.stepElapsed 0 = (.error (.fault (.unknownOpcode 0xFFFF 0x200)), stranded) := by
  have unknown : Instruction.decode lost.fetch.opcode = none := by decide +kernel
  have word : lost.fetch.opcode.word = 0xFFFF := by decide +kernel
  have failed : lost.fetch.dispatch = .error (.unknownOpcode 0xFFFF 0x200) := by
    rw [dispatch, unknown, word]
    rfl
  rw [stranded, stepElapsed_of_error 0 rfl failed]

/-- A return without a call fails, so the wait listed after it is not executed. -/
theorem stays_halted_iff_not_roused_stranded :
    lost.stepElapsed 0 = (.error (.fault (.unknownOpcode 0xFFFF 0x200)), stranded) ∧
      stranded.Stays (.unknownOpcode 0xFFFF 0x200)
        [.step, .executeMany [.clearScreen, .ret, .awaitKey 0], .tickTimers, .stepElapsed 1] := by
  refine ⟨failed_lost, (stays_halted_iff_not_roused failed_lost _).mpr ?_⟩
  decide +kernel

/-- To put no other program into memory is not enough: a wait for a key by hand makes a halted
machine wait, and its next step no longer fails. -/
theorem awaitKey_rouses_stranded :
    ¬ ∀ (machine after : Machine) (elapsed : Nat) (fault : Fault) (operations : List Operation),
      machine.stepElapsed elapsed = (.error (.fault fault), after) →
      (∀ index (valid : index < operations.length),
        (after.reached operations index).reloads operations[index] = false) →
      after.Stays fault operations := by
  intro claim
  have stays := claim lost stranded 0 _ [.execute (.awaitKey 0), .step] failed_lost
    (by decide +kernel)
  have replied := stays.repeats 1 (by decide) rfl
  exact absurd replied (by decide +kernel)

end Machine
end Chip8
