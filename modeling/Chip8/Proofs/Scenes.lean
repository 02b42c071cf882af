import Chip8.Proofs.Cycles
import Chip8.Proofs.Views

/-! What is seen of a run does not depend on the clock. Steps and cycles of machines in the same
scene go on alike at any pace, unless the time or random bytes are read. -/
namespace Chip8.Machine

variable {machine other : Machine}

/-- Two machines look the same: they show the same picture and go on in the same way, unless the
time or random bytes come in. -/
def SameScene (machine other : Machine) : Prop :=
  View.scene.keep machine = View.scene.keep other

namespace SameScene

theorem frame (same : machine.SameScene other) : machine.screen.frame = other.screen.frame :=
  congrArg (·.screen.frame) same

theorem status (same : machine.SameScene other) : machine.status = other.status :=
  congrArg (·.status) same

theorem opcode (same : machine.SameScene other) : machine.opcode = other.opcode :=
  congrArg (·.opcode) same

theorem registers (same : machine.SameScene other) : machine.registers = other.registers :=
  congrArg (·.registers) same

theorem keypad (same : machine.SameScene other) : machine.keypad = other.keypad :=
  congrArg (·.keypad) same

theorem map (same : machine.SameScene other) (change : Machine → Machine)
    (blind : ∀ machine, View.scene.keep (change machine) =
      View.scene.keep (change (View.scene.keep machine))) :
    (change machine).SameScene (change other) := by
  rw [SameScene, blind machine, blind other, show View.scene.keep machine = _ from same]

theorem fetch (same : machine.SameScene other) : machine.fetch.SameScene other.fetch :=
  same.map Machine.fetch fun _ => rfl

theorem resumeKeyWait (same : machine.SameScene other) (x : Register) :
    (machine.resumeKeyWait x).SameScene (other.resumeKeyWait x) := by
  have keypad := same.keypad
  cases pressed : machine.keypad.firstFresh? with
  | none =>
    rw [resumeKeyWait_of_none pressed, resumeKeyWait_of_none (keypad ▸ pressed)]
    exact same
  | some key =>
    rw [resumeKeyWait_of_some pressed, resumeKeyWait_of_some (keypad ▸ pressed), keypad]
    apply same.map fun machine =>
      { (machine.setV x (UInt8.ofNat key.val)).proceed with
        keypad := other.keypad.takePress (UInt8.ofNat key.val)
        status := .running }
    exact fun _ => rfl

theorem render (machine : Machine) : machine.render.SameScene machine := by
  cases flag : machine.screen.needsRedraw with
  | false => rw [render_of_unset flag]; rfl
  | true => rw [render_of_set flag]; rfl

theorem settle (same : machine.SameScene other) (elapsed otherElapsed : Nat) :
    (machine.settle elapsed).2.SameScene (other.settle otherElapsed).2 := by
  obtain ⟨timers, schedule, speaker, settled⟩ := machine.settle_frame elapsed
  obtain ⟨otherTimers, otherSchedule, otherSpeaker, settledToo⟩ :=
    other.settle_frame otherElapsed
  rw [settled, settledToo]
  exact same.map Machine.sampleKeys fun _ => rfl

end SameScene

/-- Whether a step succeeds, or why it fails; that a frame is due is left aside. -/
def verdict (result : Except Failure Report) : Except Failure Unit := result.map fun _ => ()

theorem verdict_eq_ok_iff {result : Except Failure Report} :
    verdict result = .ok () ↔ result.isOk = true := by
  cases result with
  | error failure => exact iff_of_false nofun nofun
  | ok report => exact iff_of_true rfl rfl

theorem verdict_eq_error_iff {result : Except Failure Report} {failure : Failure} :
    verdict result = .error failure ↔ result = .error failure := by
  cases result with
  | error other => simp [verdict, Except.map]
  | ok report => exact iff_of_false nofun nofun

/-- A step that does not succeed is stopped by a fault if the clocks can follow. -/
theorem fault_of_not_ok {elapsed : Nat} (regular : machine.schedule.Regular)
    (tolerable : elapsed < Schedule.tolerance) (failed : ¬ (machine.stepElapsed elapsed).1.isOk) :
    ∃ fault, (machine.stepElapsed elapsed).1 = .error (.fault fault) := by
  cases result : (machine.stepElapsed elapsed).1 with
  | ok report =>
    rw [result] at failed
    exact absurd rfl failed
  | error failure =>
    cases failure with
    | fault fault => exact ⟨fault, rfl⟩
    | overrun cause => exact absurd result (stepElapsed_ne_overrun regular tolerable cause)

theorem verdict_settle {acted : Machine} (acts : machine.Acts acted)
    (regular : machine.schedule.Regular) {elapsed : Nat}
    (tolerable : elapsed < Schedule.tolerance) : verdict (acted.settle elapsed).1 = .ok () := by
  have steady := acts.keeps.schedule.symm ▸ regular
  rw [settle_of_ok (steady.advance tolerable)]
  rfl

/-- Steps of machines in the same scene come to the same, whatever time each of them takes. -/
theorem SameScene.stepElapsed (same : machine.SameScene other)
    (regular : machine.schedule.Regular) (regularToo : other.schedule.Regular)
    {elapsed otherElapsed : Nat} (tolerable : elapsed < Schedule.tolerance)
    (tolerableToo : otherElapsed < Schedule.tolerance)
    (admitted : ∀ instruction ∈ machine.nextInstruction?, View.scene.Admits instruction) :
    verdict (machine.stepElapsed elapsed).1 = verdict (other.stepElapsed otherElapsed).1 ∧
      (machine.stepElapsed elapsed).2.SameScene (other.stepElapsed otherElapsed).2 := by
  have settles {acted otherActed : Machine} (acts : machine.Acts acted)
      (actsToo : other.Acts otherActed) (same : acted.SameScene otherActed) :
      verdict (machine.stepElapsed elapsed).1 = verdict (other.stepElapsed otherElapsed).1 ∧
        (machine.stepElapsed elapsed).2.SameScene (other.stepElapsed otherElapsed).2 := by
    rw [stepElapsed_of_acts _ acts, stepElapsed_of_acts _ actsToo]
    exact ⟨(verdict_settle acts regular tolerable).trans
      (verdict_settle actsToo regularToo tolerableToo).symm, same.settle _ _⟩
  cases status : machine.status with
  | halted fault =>
    rw [stepElapsed_of_halted _ status, stepElapsed_of_halted _ (same.status ▸ status)]
    exact ⟨rfl, same⟩
  | awaitingKey x =>
    exact settles (.waited status) (.waited (same.status ▸ status)) (same.resumeKeyWait x)
  | running =>
    have runningToo : other.status = .running := same.status ▸ status
    have alike : machine.fetch.dispatch.map View.scene.keep =
        other.fetch.dispatch.map View.scene.keep := by
      have next := admitted
      rw [nextInstruction?, status] at next
      rw [dispatch, dispatch, ← same.fetch.opcode, ← same.fetch.registers]
      cases decoded : Instruction.decode machine.fetch.opcode with
      | none => rfl
      | some instruction => exact View.keep_execute_congr same.fetch (next instruction decoded)
    rcases View.eq_of_keep_map alike with
      ⟨fault, failed, failedToo⟩ | ⟨acted, otherActed, acts, actsToo, left⟩
    · rw [stepElapsed_of_error _ status failed, stepElapsed_of_error _ runningToo failedToo]
      exact ⟨rfl, same.map (fun m => { m.fetch with status := .halted fault }) fun _ => rfl⟩
    · exact settles (.executed status acts) (.executed runningToo actsToo) left

/-- Cycles of a machine go along with steps of another one: up to the limit they show the same,
and succeed or fail together. -/
structure GoesAlong (machine other : Machine) (elapsed otherElapsed : Nat → Nat)
    (limit : Nat) : Prop where
  scenes : ∀ step, step ≤ limit →
    (machine.run elapsed step).SameScene (other.cycled otherElapsed step)
  verdicts : ∀ step, step < limit →
    verdict (machine.outcome elapsed step) = verdict (other.nextStep otherElapsed step).1

/-- Cycles at any pace go along with steps at any pace. -/
theorem SameScene.cycled (same : machine.SameScene other) (steady : machine.Steady)
    (steadyToo : other.Steady) {elapsed otherElapsed : Nat → Nat} {limit : Nat}
    (tolerable : ∀ step, step < limit → elapsed step < Schedule.tolerance)
    (tolerableToo : ∀ step, step < limit → otherElapsed step < Schedule.tolerance)
    (admitted : ∀ step, step < limit →
      ∀ instruction ∈ (machine.run elapsed step).nextInstruction?,
        View.scene.Admits instruction) :
    machine.GoesAlong other elapsed otherElapsed limit := by
  have onward {step : Nat} (before : step < limit)
      (same : (machine.run elapsed step).SameScene (other.cycled otherElapsed step)) :
      verdict (machine.outcome elapsed step) = verdict (other.nextStep otherElapsed step).1 ∧
        (machine.run elapsed (step + 1)).SameScene (other.nextStep otherElapsed step).2 :=
    same.stepElapsed (regular_run steady.regular elapsed step)
      (steady_preserved.cycled steadyToo otherElapsed step).regular (tolerable step before)
      (tolerableToo step before) (admitted step before)
  have scenes : ∀ step, step ≤ limit →
      (machine.run elapsed step).SameScene (other.cycled otherElapsed step) := by
    intro step within
    induction step with
    | zero => exact same
    | succ step ih =>
      have stepped := (onward within (ih (Nat.le_of_succ_le within))).2
      exact stepped.trans (SameScene.render _).symm
  exact ⟨scenes, fun step before => (onward before (scenes step (Nat.le_of_lt before))).1⟩

end Chip8.Machine
