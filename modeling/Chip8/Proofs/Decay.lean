import Chip8.Proofs.Executions
import Chip8.Proofs.KeyWait

namespace Chip8.Machine

/-- A step that reports and sets no timer lets the timers decay by the periods that its time
completes, and keeps the remainder of it. -/
theorem decayed_stepElapsed {machine : Machine} {elapsed : Nat}
    (reports : (machine.stepElapsed elapsed).1.isOk)
    (idle : ∀ instruction ∈ machine.nextInstruction?, instruction.setsTimer = false) :
    ∃ due, machine.clocks.Decayed due (machine.stepElapsed elapsed).2.clocks ∧
      machine.schedule.advance elapsed = .ok (due, (machine.stepElapsed elapsed).2.schedule) := by
  obtain ⟨acted, due, schedule, acts, advanced, -⟩ := stepElapsed_of_isOk reports
  obtain ⟨-, decayed, kept⟩ := acts.decayed (acts.clocks idle) advanced
  rw [kept]
  exact ⟨due, decayed, advanced⟩

/-- The time that a number of steps takes in all. -/
def totalTime (elapsed : Nat → Nat) : Nat → Nat
  | 0 => 0
  | count + 1 => totalTime elapsed count + elapsed count

/-- A number of steps all report to their host, and none executes an instruction that sets a
timer. -/
structure Undisturbed (machine : Machine) (elapsed : Nat → Nat) (count : Nat) : Prop where
  reports : ∀ earlier, earlier < count → (machine.outcome elapsed earlier).isOk
  idle : ∀ earlier, earlier < count →
    ∀ instruction ∈ (machine.run elapsed earlier).nextInstruction?,
      instruction.setsTimer = false

theorem Undisturbed.previous {machine : Machine} {elapsed : Nat → Nat} {count : Nat}
    (undisturbed : machine.Undisturbed elapsed (count + 1)) :
    machine.Undisturbed elapsed count where
  reports earlier before := undisturbed.reports earlier (Nat.lt_succ_of_lt before)
  idle earlier before := undisturbed.idle earlier (Nat.lt_succ_of_lt before)

/-- The periods counted in a run and the time still pending make up the time that has passed. -/
theorem decayed_run {machine : Machine} {elapsed : Nat → Nat} {count : Nat}
    (regular : machine.schedule.Regular) (undisturbed : machine.Undisturbed elapsed count) :
    ∃ periods, machine.clocks.Decayed periods (machine.run elapsed count).clocks ∧
      16666666 * periods + (machine.run elapsed count).schedule.pending =
        machine.schedule.pending + totalTime elapsed count := by
  induction count with
  | zero => exact ⟨0, .refl _, by simp [run, totalTime]⟩
  | succ count ih =>
    obtain ⟨periods, decayed, passed⟩ := ih undisturbed.previous
    obtain ⟨due, further, advanced⟩ :=
      decayed_stepElapsed (undisturbed.reports count (Nat.lt_succ_self count))
        (undisturbed.idle count (Nat.lt_succ_self count))
    rw [← run_succ] at further advanced
    have total := Schedule.advance_total advanced
    rw [(regular_run regular elapsed (count + 1)).period_val] at total
    refine ⟨periods + due, decayed.trans further, ?_⟩
    rw [totalTime, Nat.mul_add]
    omega

/-- So the periods are those that the total time completes, and the rest of it is pending. -/
theorem decayed_total {machine : Machine} {elapsed : Nat → Nat} {count : Nat}
    (regular : machine.schedule.Regular) (undisturbed : machine.Undisturbed elapsed count) :
    machine.clocks.Decayed ((machine.schedule.pending + totalTime elapsed count) / 16666666)
        (machine.run elapsed count).clocks ∧
      (machine.run elapsed count).schedule.pending =
        (machine.schedule.pending + totalTime elapsed count) % 16666666 := by
  obtain ⟨periods, decayed, passed⟩ := decayed_run regular undisturbed
  have later := regular_run regular elapsed count
  have pending := later.pending_lt
  rw [later.period_val] at pending
  have whole : (machine.schedule.pending + totalTime elapsed count) / 16666666 = periods := by
    omega
  rw [whole]
  exact ⟨decayed, by omega⟩

/-- What is left after the same decay of the same timers is the same. -/
theorem Clocks.Decayed.timers_eq {before other after otherAfter : Clocks} {periods : Nat}
    (decayed : before.Decayed periods after) (decayedToo : other.Decayed periods otherAfter)
    (same : other.timers = before.timers) : otherAfter.timers = after.timers := by
  have delay : otherAfter.timers.delay = after.timers.delay := by
    rw [← UInt8.toNat_inj, decayedToo.delay, decayed.delay, same]
  have sound : otherAfter.timers.sound = after.timers.sound := by
    rw [← UInt8.toNat_inj, decayedToo.sound, decayed.sound, same]
  calc otherAfter.timers = ⟨otherAfter.timers.delay, otherAfter.timers.sound⟩ := rfl
    _ = ⟨after.timers.delay, after.timers.sound⟩ := by rw [delay, sound]

/-- While no instruction sets a timer, the timers of a run follow the total time alone: with
the time pending at the start it makes up a number of whole periods of a sixtieth of a second,
by which both timers fall as far as zero, and the rest is pending at the end. The tone is
stopped once if it played and ended by that, and no other event is handed over. So any other
such run from the same timers and pending time whose steps, however many, take as long in all
ends with the same timers. -/
theorem timers_follow_total_time {machine : Machine} {elapsed : Nat → Nat} {count : Nat}
    (regular : machine.schedule.Regular) (undisturbed : machine.Undisturbed elapsed count) :
    machine.clocks.Decayed ((machine.schedule.pending + totalTime elapsed count) / 16666666)
        (machine.run elapsed count).clocks ∧
      (machine.run elapsed count).schedule.pending =
        (machine.schedule.pending + totalTime elapsed count) % 16666666 ∧
      ∀ (other : Machine) (otherElapsed : Nat → Nat) (otherCount : Nat),
        other.Undisturbed otherElapsed otherCount →
        other.timers = machine.timers → other.schedule = machine.schedule →
        totalTime otherElapsed otherCount = totalTime elapsed count →
        (other.run otherElapsed otherCount).timers = (machine.run elapsed count).timers ∧
          (other.run otherElapsed otherCount).schedule.pending =
            (machine.run elapsed count).schedule.pending := by
  obtain ⟨decayed, pending⟩ := decayed_total regular undisturbed
  refine ⟨decayed, pending, ?_⟩
  intro other otherElapsed otherCount calm timers schedule total
  obtain ⟨decayedToo, pendingToo⟩ := decayed_total (schedule ▸ regular) calm
  rw [schedule, total] at decayedToo pendingToo
  exact ⟨decayed.timers_eq decayedToo timers, pendingToo.trans pending.symm⟩

/-- A machine that plays a tone and is about to wait for a key. -/
def ringing : Machine := { prompt with timers := ⟨9, 2⟩ }

theorem undisturbed_ringing : ringing.Undisturbed (fun _ => 11111111) 3 where
  reports := by decide +kernel
  idle := by decide +kernel

/-- The steps that begin, continue and end the wait take two periods and a nanosecond. -/
theorem timers_follow_total_time_ringing :
    ringing.Undisturbed (fun _ => 11111111) 3 ∧
      ringing.clocks.Decayed 2 (ringing.run (fun _ => 11111111) 3).clocks ∧
      (ringing.run (fun _ => 11111111) 3).schedule.pending = 1 := by
  have regular : ringing.schedule.Regular := Schedule.regular_ofRate
  have total : ringing.schedule.pending + totalTime (fun _ => 11111111) 3 = 33333333 := by
    decide +kernel
  obtain ⟨decayed, pending, -⟩ := timers_follow_total_time regular undisturbed_ringing
  rw [total] at decayed pending
  exact ⟨undisturbed_ringing, decayed, pending⟩

end Chip8.Machine
