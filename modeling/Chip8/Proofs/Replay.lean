import Chip8.Proofs.Views

namespace Chip8.Machine

/-- The instructions that a number of steps decode. -/
def decoded (machine : Machine) (elapsed : Nat → Nat) (count : Nat) : List Instruction :=
  (List.range count).filterMap fun step => (machine.run elapsed step).nextInstruction?

variable {machine other : Machine}

theorem executeMany_append {instructions : List Instruction} {after : Machine}
    (executed : machine.executeMany instructions = (.ok (), after)) (rest : List Instruction) :
    machine.executeMany (instructions ++ rest) = after.executeMany rest := by
  induction instructions generalizing machine with
  | nil =>
    cases executed
    rfl
  | cons instruction instructions ih =>
    rw [executeMany] at executed
    rw [List.cons_append, executeMany]
    cases first : machine.execute instruction with
    | error fault =>
      rw [first] at executed
      cases executed
    | ok between =>
      rw [first] at executed
      exact ih executed

theorem decoded_succ (machine : Machine) (elapsed : Nat → Nat) (count : Nat) :
    machine.decoded elapsed (count + 1) =
      machine.decoded elapsed count ++ (machine.run elapsed count).nextInstruction?.toList := by
  rw [decoded, List.range_succ, List.filterMap_append, ← decoded]
  cases next : (machine.run elapsed count).nextInstruction? with
  | none => simp [next]
  | some instruction => simp [next]

/-- A step of a running machine that reports to its host decodes an instruction. Executed by hand
where the core is the same, the instruction leaves the core that the step leaves. -/
theorem core_stepElapsed {elapsed : Nat} (running : machine.status = .running)
    (reports : (machine.stepElapsed elapsed).1.isOk)
    (admitted : ∀ instruction ∈ machine.nextInstruction?, View.core.Admits instruction)
    (same : other.core = machine.core) :
    ∃ instruction after, machine.nextInstruction? = some instruction ∧
      other.execute instruction = .ok after ∧
      after.core = (machine.stepElapsed elapsed).2.core ∧
      (machine.stepElapsed elapsed).2.status = .running := by
  rcases stepElapsed_cases machine elapsed with
    ⟨fault, halted, stepped⟩ | ⟨fault, -, failed, stepped⟩ | ⟨acted, acts, stepped⟩
  · rw [stepped] at reports
    cases reports
  · rw [stepped] at reports
    cases reports
  rcases acts.cases with ⟨instruction, next, executed⟩ | ⟨x, waiting, -⟩
  · have inside := admitted instruction next
    have wakeful : ∀ x, instruction ≠ .awaitKey x := by
      rintro x rfl
      cases inside.1
    -- Fetching touches nothing but the opcode, which is no part of the core.
    have kept : View.core.keep other = View.core.keep machine.fetch := View.keep_core_iff.mpr same
    have alike := View.keep_execute_congr kept inside
    obtain ⟨timers, schedule, speaker, settled⟩ := settle_frame acted elapsed
    rcases View.eq_of_keep_map alike with
      ⟨fault, -, failed⟩ | ⟨after, _, byHand, inStep, left⟩
    · rw [executed] at failed
      cases failed
    · rw [executed] at inStep
      cases inStep
      rw [stepped, settled]
      exact ⟨instruction, after, next, byHand, View.keep_core_iff.mp left,
        (status_execute executed wakeful).trans running⟩
  · rw [running] at waiting
    cases waiting

/-- Stepping and executing by hand agree. If a running machine takes a number of steps that all
succeed and execute no instruction that reads the keys or the time, then each of them decodes an
instruction, and these instructions, executed in order from where the machine started, succeed
too and leave memory, registers, screen and generator as the steps do. -/
theorem steps_replay {elapsed : Nat → Nat} {count : Nat} (running : machine.status = .running)
    (succeed : ∀ step, step < count → (machine.outcome elapsed step).isOk)
    (admitted : ∀ step, step < count →
      ∀ instruction ∈ (machine.run elapsed step).nextInstruction?,
        View.core.Admits instruction) :
    (machine.decoded elapsed count).length = count ∧
      ∃ after, machine.executeMany (machine.decoded elapsed count) = (.ok (), after) ∧
        after.core = (machine.run elapsed count).core := by
  have together : (machine.run elapsed count).status = .running ∧
      (machine.decoded elapsed count).length = count ∧
      ∃ after, machine.executeMany (machine.decoded elapsed count) = (.ok (), after) ∧
        after.core = (machine.run elapsed count).core := by
    induction count with
    | zero => exact ⟨running, rfl, machine, rfl, rfl⟩
    | succ count ih =>
      obtain ⟨stillRunning, length, after, executed, same⟩ := ih
        (fun step before => succeed step (Nat.lt_succ_of_lt before))
        (fun step before => admitted step (Nat.lt_succ_of_lt before))
      obtain ⟨instruction, last, next, byHand, left, runningOn⟩ := core_stepElapsed stillRunning
        (succeed count (Nat.lt_succ_self count)) (admitted count (Nat.lt_succ_self count)) same
      rw [run_succ, decoded_succ, next]
      refine ⟨runningOn, ?_, last, ?_, left⟩
      · rw [List.length_append, length]
        rfl
      · rw [executeMany_append executed, Option.toList_some, executeMany, byHand]
        rfl
  exact together.2

/-- A machine whose program replaces one of its instructions, then loops over the new one and
draws at random. -/
def rewriter : Machine :=
  { Machine.new .standard .silent (.ofSeed 7) with
    memory := .image [0xA2, 0x06, 0x60, 0x70, 0xF0, 0x55, 0x63, 0x01, 0xC1, 0x1F, 0xD0, 0x15,
      0x12, 0x06] (by decide) }

theorem steps_replay_rewriter :
    rewriter.status = .running ∧
      (∀ step, step < 8 → (rewriter.outcome (fun _ => rewriter.stepTime) step).isOk) ∧
      (∀ step, step < 8 →
        ∀ instruction ∈ (rewriter.run (fun _ => rewriter.stepTime) step).nextInstruction?,
          View.core.Admits instruction) ∧
      ∃ after,
        rewriter.executeMany (rewriter.decoded (fun _ => rewriter.stepTime) 8) =
            (.ok (), after) ∧
          after.core = (rewriter.run (fun _ => rewriter.stepTime) 8).core := by
  have succeed : ∀ step, step < 8 →
      (rewriter.outcome (fun _ => rewriter.stepTime) step).isOk := by decide +kernel
  have admitted : ∀ step, step < 8 →
      ∀ instruction ∈ (rewriter.run (fun _ => rewriter.stepTime) step).nextInstruction?,
        View.core.Admits instruction := by decide +kernel
  exact ⟨rfl, succeed, admitted, (steps_replay rfl succeed admitted).2⟩

end Chip8.Machine
