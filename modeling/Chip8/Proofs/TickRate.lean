import Chip8.Proofs.Executions
import Chip8.Proofs.Invariants
import Mathlib.Data.Rat.Floor
import Mathlib.Tactic.FieldSimp
import Mathlib.Tactic.LinearCombination
import Mathlib.Tactic.Linarith

/-! The rate of the timers under steps at the clock speed. The times of a step and of a tick are
whole nanoseconds, so ticks drift away from sixty a second, slowly and by an exact amount. -/
namespace Chip8

namespace Machine

/-- The machine after a number of steps at its clock speed. -/
def afterSteps (machine : Machine) : Nat → Machine
  | 0 => machine
  | count + 1 => (machine.afterSteps count).step.2

/-- A step counts the timers down as often as its schedule tells, after the machine has acted
and sampled the keys. -/
inductive CountsDown (machine : Machine) (due : Nat) : Machine → Prop where
  | intro {acted : Machine} {schedule : Schedule} (acts : machine.Acts acted)
      (advanced : machine.schedule.advance machine.stepTime = .ok (due, schedule)) :
      CountsDown machine due ({ acted.sampleKeys with schedule := schedule }.tickTimersFor due)

/-- The ticks of a step and the time left pending make up the time of the step. -/
theorem CountsDown.total {machine after : Machine} {due : Nat}
    (counts : machine.CountsDown due after) (regular : machine.schedule.Regular) :
    16666666 * due + after.schedule.pending = machine.schedule.pending + machine.stepTime := by
  cases counts with
  | intro acts advanced =>
    have total := Schedule.advance_total advanced
    rw [(regular.after advanced).period_val] at total
    rw [schedule_tickTimersFor]
    exact total

theorem afterSteps_keeps {machine : Machine} (regular : machine.schedule.Regular) (count : Nat) :
    (machine.afterSteps count).schedule.Regular ∧
      (machine.afterSteps count).stepTime = machine.stepTime := by
  induction count with
  | zero => exact ⟨regular, rfl⟩
  | succ count ih =>
    obtain ⟨steady, same⟩ := ih
    exact ⟨regular_stepElapsed steady _, (stepElapsed_keeps _ _).1.trans same⟩

end Machine

namespace ClockSpeed

end ClockSpeed

namespace Machine

/-- A machine spins if its next instruction is a jump to itself. -/
def Spins (machine : Machine) : Prop :=
  machine.nextInstruction? = some (.jump machine.registers.pc)

instance (machine : Machine) : Decidable machine.Spins :=
  inferInstanceAs (Decidable (_ = _))

theorem Spins.step {machine : Machine} (spins : machine.Spins) (steady : machine.Steady) :
    machine.step.1.isOk ∧ machine.step.2.Spins := by
  obtain ⟨running, decoded⟩ : machine.status = .running ∧
      Instruction.decode machine.fetch.opcode = some (.jump machine.registers.pc) := by
    rw [Spins, nextInstruction?] at spins
    split at spins
    · rename_i running
      exact ⟨running, spins⟩
    · cases spins
  have dispatched : machine.fetch.dispatch = .ok (machine.fetch.goto machine.registers.pc) := by
    rw [dispatch, decoded]
    rfl
  have stepped : machine.step = (machine.fetch.goto machine.registers.pc).settle machine.stepTime :=
    stepElapsed_of_acts machine.stepTime (.executed running dispatched)
  have advanced : (machine.fetch.goto machine.registers.pc).schedule.advance machine.stepTime =
      .ok _ := steady.regular.advance steady.stepTime_lt
  obtain ⟨timers, schedule, speaker, settled⟩ :=
    settle_frame (machine.fetch.goto machine.registers.pc) machine.stepTime
  constructor
  · rw [stepped, settle_of_ok advanced]
    rfl
  · rw [stepped, settled]
    exact spins

theorem steady_afterSteps {machine : Machine} (steady : machine.Steady) (count : Nat) :
    (machine.afterSteps count).Steady := by
  obtain ⟨regular, same⟩ := afterSteps_keeps steady.regular count
  exact ⟨regular, same.symm ▸ steady.stepTime_lt⟩

theorem Spins.reports {machine : Machine} {start : Nat} (spins : (machine.afterSteps start).Spins)
    (steady : machine.Steady)
    (before : ∀ earlier, earlier < start → (machine.afterSteps earlier).step.1.isOk)
    (count : Nat) : (machine.afterSteps count).step.1.isOk := by
  by_cases early : count < start
  · exact before count early
  · have later : ∀ more, (machine.afterSteps (start + more)).Spins := by
      intro more
      induction more with
      | zero => exact spins
      | succ more ih => exact (ih.step (steady_afterSteps steady _)).2
    obtain ⟨more, rfl⟩ := Nat.exists_eq_add_of_le (Nat.le_of_not_lt early)
    exact ((later more).step (steady_afterSteps steady _)).1

end Machine
end Chip8
