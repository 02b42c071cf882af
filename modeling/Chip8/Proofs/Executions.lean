import Chip8.Proofs.Timing

namespace Chip8

def Instruction.setsTimer : Instruction → Bool
  | .setDelay _ | .setSound _ => true
  | _ => false

namespace Machine

/-- The instruction that the next step decodes and executes. There is none for a machine that
waits or has halted, nor for an unknown opcode. -/
def nextInstruction? (machine : Machine) : Option Instruction :=
  match machine.status with
  | .running => Instruction.decode machine.fetch.opcode
  | _ => none

/-- The instructions of a list that are executed before the first one that fails. -/
def executed (machine : Machine) : List Instruction → List Instruction
  | [] => []
  | instruction :: rest =>
    match machine.execute instruction with
    | .error _ => []
    | .ok after => instruction :: after.executed rest

variable {machine after : Machine} {instruction : Instruction}

theorem nextInstruction?_of_inactive (inactive : machine.status ≠ .running) :
    machine.nextInstruction? = none := by
  rw [nextInstruction?]
  split
  · exact absurd ‹_› inactive
  · rfl

theorem Acts.cases {acted : Machine} (acts : machine.Acts acted) :
    (∃ instruction, machine.nextInstruction? = some instruction ∧
      machine.fetch.execute instruction = .ok acted) ∨
    ∃ x, machine.status = .awaitingKey x ∧ acted = machine.resumeKeyWait x := by
  cases acts with
  | executed running dispatched =>
    left
    rw [dispatch] at dispatched
    split at dispatched
    · cases dispatched
    · rename_i instruction decoded
      exact ⟨instruction, by rw [nextInstruction?, running]; exact decoded, dispatched⟩
  | waited waiting => exact Or.inr ⟨_, waiting, rfl⟩

/-- An instruction waits for a key and does nothing else, or it leaves the status alone, and
the clocks too unless it sets a timer. -/
theorem execute_cases (executed : machine.execute instruction = .ok after) :
    (∃ x, instruction = .awaitKey x ∧ after = { machine with status := .awaitingKey x }) ∨
    after.status = machine.status ∧
      (instruction.setsTimer = false → after.clocks = machine.clocks) := by
  cases instruction
  case awaitKey x =>
    cases executed
    exact Or.inl ⟨x, rfl, rfl⟩
  all_goals right
  case setDelay | setSound =>
    cases executed
    exact ⟨rfl, nofun⟩
  case ret | call =>
    simp only [execute] at executed
    split at executed
    · cases executed
    · cases executed
      exact ⟨rfl, fun _ => rfl⟩
  case skipIfConst | skipUnlessConst | skipIfSame | skipUnlessSame | skipIfPressed
      | skipUnlessPressed =>
    cases executed
    rw [skipIf_eq_goto]
    exact ⟨rfl, fun _ => rfl⟩
  case loadRegisters =>
    cases executed
    constructor
    · simp only [proceed, goto, loadTo]
    · simp only [clocks, proceed, goto, loadTo, implies_true]
  all_goals
    cases executed
    exact ⟨rfl, fun _ => rfl⟩

theorem clocks_execute (executed : machine.execute instruction = .ok after)
    (idle : instruction.setsTimer = false) : after.clocks = machine.clocks := by
  rcases execute_cases executed with ⟨x, -, rfl⟩ | ⟨-, kept⟩
  · rfl
  · exact kept idle

theorem status_execute (executed : machine.execute instruction = .ok after)
    (wakeful : ∀ x, instruction ≠ .awaitKey x) : after.status = machine.status := by
  rcases execute_cases executed with ⟨x, awaits, -⟩ | ⟨same, -⟩
  · exact absurd awaits (wakeful x)
  · exact same

theorem clocks_resumeKeyWait (machine : Machine) (x : Register) :
    (machine.resumeKeyWait x).clocks = machine.clocks := by
  obtain ⟨v, pc, fresh, status, resumed⟩ := resumeKeyWait_frame machine x
  rw [resumed]
  rfl

/-- What a machine does first in a step leaves the clocks alone, unless it sets a timer. -/
theorem Acts.clocks {acted : Machine} (acts : machine.Acts acted)
    (idle : ∀ instruction ∈ machine.nextInstruction?, instruction.setsTimer = false) :
    acted.clocks = machine.clocks := by
  rcases acts.cases with ⟨instruction, next, executed⟩ | ⟨x, -, rfl⟩
  · have fetched : machine.fetch.clocks = machine.clocks := rfl
    rw [← fetched]
    exact clocks_execute executed (idle instruction next)
  · exact clocks_resumeKeyWait machine x

/-- A machine that does not wait for a key waits for none after a step, unless the step executes
the instruction that does so. -/
theorem status_stepElapsed (elapsed : Nat) (awake : ∀ x, machine.status ≠ .awaitingKey x)
    (wakeful : ∀ instruction ∈ machine.nextInstruction?, ∀ x, instruction ≠ .awaitKey x)
    (x : Register) : (machine.stepElapsed elapsed).2.status ≠ .awaitingKey x := by
  rcases stepElapsed_cases machine elapsed with
    ⟨fault, -, stepped⟩ | ⟨fault, -, -, stepped⟩ | ⟨acted, acts, stepped⟩
  · rw [stepped]
    exact awake x
  · rw [stepped]
    nofun
  · rcases acts.cases with ⟨instruction, next, executed⟩ | ⟨y, waiting, -⟩
    · obtain ⟨timers, schedule, speaker, settled⟩ := settle_frame acted elapsed
      have same : acted.status = machine.fetch.status :=
        status_execute executed (wakeful instruction next)
      rw [stepped, settled]
      change acted.status ≠ .awaitingKey x
      rw [same]
      exact awake x
    · exact absurd waiting (awake y)

end Machine
end Chip8
