import Chip8.Proofs.Runs

namespace Chip8

namespace Schedule

/-- Times below it, in nanoseconds, are never too long for the timers' schedule. -/
def tolerance : Nat := 71000000 * nanosPerSecond

/-- A schedule at the rate of the timers that keeps less than a period. -/
structure Regular (schedule : Schedule) : Prop where
  period_eq : schedule.period = (ofRate Machine.timerRate).period
  pending_lt : schedule.pending < schedule.period

theorem regular_ofRate : (ofRate Machine.timerRate).Regular := ⟨rfl, by decide⟩

theorem Regular.period_val {schedule : Schedule} (regular : schedule.Regular) :
    schedule.period = 16666666 := regular.period_eq

/-- For a regular schedule the times that can be tolerated are durations, and the periods in
them can be counted. -/
theorem Regular.bounds {schedule : Schedule} {elapsed : Nat} (regular : schedule.Regular)
    (tolerable : elapsed < tolerance) :
    0 < schedule.period ∧ schedule.pending + elapsed < durationLimit ∧
      (schedule.pending + elapsed) / schedule.period < countLimit := by
  have period := regular.period_val
  have pending := regular.pending_lt
  simp only [tolerance, nanosPerSecond] at tolerable
  refine ⟨by omega, ?_, ?_⟩
  · simp only [durationLimit, UInt64.size, nanosPerSecond]
    omega
  · simp only [countLimit, UInt32.size, period]
    omega

theorem Regular.advance {schedule : Schedule} {elapsed : Nat} (regular : schedule.Regular)
    (tolerable : elapsed < tolerance) :
    schedule.advance elapsed =
      .ok ((schedule.pending + elapsed) / schedule.period,
        { schedule with pending := (schedule.pending + elapsed) % schedule.period }) := by
  obtain ⟨positive, short, few⟩ := regular.bounds tolerable
  exact advance_eq_ok_iff.mpr ⟨⟨short, positive, few⟩, rfl, rfl⟩

theorem Regular.after {schedule after : Schedule} {elapsed due : Nat}
    (regular : schedule.Regular) (advanced : schedule.advance elapsed = .ok (due, after)) :
    after.Regular := by
  obtain ⟨⟨-, positive, -⟩, -, rfl⟩ := advance_eq_ok_iff.mp advanced
  exact ⟨regular.period_eq, Nat.mod_lt _ positive⟩

end Schedule

namespace Machine

/-- The timers of a machine with what they follow and what follows them. -/
structure Clocks where
  timers : Timers
  schedule : Schedule
  speaker : Speaker

def clocks (machine : Machine) : Clocks := ⟨machine.timers, machine.schedule, machine.speaker⟩

theorem clocks_tickTimersFor {machine other : Machine} (same : machine.clocks = other.clocks)
    (count : Nat) : (machine.tickTimersFor count).clocks = (other.tickTimersFor count).clocks := by
  induction count generalizing machine other with
  | zero => exact same
  | succ count ih =>
    rw [tickTimersFor_succ, tickTimersFor_succ]
    apply ih
    obtain ⟨timers, schedule, speaker⟩ := Clocks.mk.inj same
    simp only [clocks, tickTimers, timers, schedule, speaker]

theorem schedule_tickTimersFor (machine : Machine) (count : Nat) :
    (machine.tickTimersFor count).schedule = machine.schedule := by
  obtain ⟨timers, speaker, counted⟩ := tickTimersFor_frame machine count
  rw [counted]

/-- A number of periods has passed in which nothing set a timer: both timers have fallen by it
as far as zero, and a tone that ended by that was stopped, once. -/
structure Clocks.Decayed (before : Clocks) (periods : Nat) (after : Clocks) : Prop where
  delay : after.timers.delay.toNat = before.timers.delay.toNat - periods
  sound : after.timers.sound.toNat = before.timers.sound.toNat - periods
  events : after.speaker.events = before.speaker.events ++
    if 0 < before.timers.sound.toNat ∧ before.timers.sound.toNat ≤ periods then [.stop] else []

theorem Clocks.Decayed.refl (clocks : Clocks) : clocks.Decayed 0 clocks where
  delay := rfl
  sound := rfl
  events := by
    have never : ¬ (0 < clocks.timers.sound.toNat ∧ clocks.timers.sound.toNat ≤ 0) := by omega
    rw [if_neg never, List.append_nil]

/-- The tone is stopped in the first part of the time, in the second, or in neither. -/
theorem Clocks.Decayed.trans {before between after : Clocks} {periods more : Nat}
    (first : before.Decayed periods between) (second : between.Decayed more after) :
    before.Decayed (periods + more) after where
  delay := by
    rw [second.delay, first.delay]
    omega
  sound := by
    rw [second.sound, first.sound]
    omega
  events := by
    rw [second.events, first.events, first.sound, List.append_assoc]
    congr 1
    by_cases playing : 0 < before.timers.sound.toNat
    · by_cases early : before.timers.sound.toNat ≤ periods
      · rw [if_pos ⟨playing, early⟩, if_neg (by omega), if_pos (by omega)]
        rfl
      · rw [if_neg (by omega), List.nil_append]
        by_cases late : before.timers.sound.toNat ≤ periods + more
        · rw [if_pos (by omega), if_pos ⟨playing, late⟩]
        · rw [if_neg (by omega), if_neg (by omega)]
    · rw [if_neg (by omega), if_neg (by omega), if_neg (by omega)]
      rfl

/-- Only the timers and the events handed over matter. -/
theorem Clocks.Decayed.of_schedule {before after : Clocks} {periods : Nat} (schedule : Schedule)
    (decayed : { before with schedule := schedule }.Decayed periods after) :
    before.Decayed periods after :=
  ⟨decayed.delay, decayed.sound, decayed.events⟩

theorem decayed_tickTimers (machine : Machine) :
    machine.clocks.Decayed 1 machine.tickTimers.clocks := by
  obtain ⟨delay, sound, speaker⟩ := tickTimers_effect machine
  refine ⟨delay, sound, ?_⟩
  change machine.tickTimers.speaker.events = machine.speaker.events ++
    if 0 < machine.timers.sound.toNat ∧ machine.timers.sound.toNat ≤ 1 then [.stop] else []
  rw [speaker]
  by_cases last : machine.timers.sound.toNat = 1
  · rw [if_pos last, if_pos (by omega)]
    rfl
  · rw [if_neg last, if_neg (by omega), List.append_nil]
    rfl

theorem decayed_tickTimersFor (machine : Machine) (count : Nat) :
    machine.clocks.Decayed count (machine.tickTimersFor count).clocks := by
  induction count generalizing machine with
  | zero => exact .refl _
  | succ count ih =>
    rw [tickTimersFor_succ, Nat.add_comm]
    exact (decayed_tickTimers machine).trans (ih machine.tickTimers)

/-- A step that acts without touching the clocks, and whose time the schedule counts, reports to its
host: the timers decay by the periods that are due, and the schedule keeps the rest. -/
theorem Acts.decayed {machine acted : Machine} {elapsed due : Nat} {schedule : Schedule}
    (acts : machine.Acts acted) (kept : acted.clocks = machine.clocks)
    (advanced : machine.schedule.advance elapsed = .ok (due, schedule)) :
    (∃ report, (machine.stepElapsed elapsed).1 = .ok report) ∧
      machine.clocks.Decayed due (machine.stepElapsed elapsed).2.clocks ∧
      (machine.stepElapsed elapsed).2.schedule = schedule := by
  have decayed := decayed_tickTimersFor { acted.sampleKeys with schedule := schedule } due
  rw [← acts.keeps.schedule] at advanced
  rw [stepElapsed_of_acts elapsed acts, settle_of_ok advanced, ← kept]
  exact ⟨⟨_, rfl⟩, .of_schedule schedule decayed, schedule_tickTimersFor _ due⟩

theorem regular_settle {machine : Machine} (regular : machine.schedule.Regular) (elapsed : Nat) :
    (machine.settle elapsed).2.schedule.Regular := by
  cases advanced : machine.schedule.advance elapsed with
  | error cause =>
    rw [settle_of_error advanced]
    exact regular
  | ok pair =>
    obtain ⟨due, schedule⟩ := pair
    rw [settle_of_ok advanced, schedule_tickTimersFor]
    exact regular.after advanced

theorem regular_stepElapsed {machine : Machine} (regular : machine.schedule.Regular)
    (elapsed : Nat) : (machine.stepElapsed elapsed).2.schedule.Regular := by
  rcases stepElapsed_cases machine elapsed with
    ⟨fault, -, stepped⟩ | ⟨fault, -, -, stepped⟩ | ⟨acted, acts, stepped⟩
  · rw [stepped]
    exact regular
  · rw [stepped]
    exact regular
  · rw [stepped]
    exact regular_settle (acts.keeps.schedule ▸ regular) elapsed

/-- If the time can be tolerated, a step fails with a fault only. -/
theorem stepElapsed_ne_overrun {machine : Machine} {elapsed : Nat}
    (regular : machine.schedule.Regular) (tolerable : elapsed < Schedule.tolerance)
    (cause : Overrun) :
    (machine.stepElapsed elapsed).1 ≠ .error (.overrun cause) := by
  rcases stepElapsed_cases machine elapsed with
    ⟨fault, -, stepped⟩ | ⟨fault, -, -, stepped⟩ | ⟨acted, acts, stepped⟩
  · rw [stepped]
    nofun
  · rw [stepped]
    nofun
  · have steady := acts.keeps.schedule.symm ▸ regular
    rw [stepped, settle_of_ok (steady.advance tolerable)]
    nofun

/-- A step that reports has acted and sampled the keys, and then counts the timers down as often as
the schedule tells. -/
theorem stepElapsed_of_isOk {machine : Machine} {elapsed : Nat}
    (reports : (machine.stepElapsed elapsed).1.isOk) :
    ∃ acted due schedule, machine.Acts acted ∧
      machine.schedule.advance elapsed = .ok (due, schedule) ∧
      machine.stepElapsed elapsed =
        (.ok ⟨acted.screen.needsRedraw⟩,
          { acted.sampleKeys with schedule := schedule }.tickTimersFor due) := by
  rcases stepElapsed_cases machine elapsed with
    ⟨fault, -, stepped⟩ | ⟨fault, -, -, stepped⟩ | ⟨acted, acts, stepped⟩
  · rw [stepped] at reports
    cases reports
  · rw [stepped] at reports
    cases reports
  · cases advanced : acted.schedule.advance elapsed with
    | error cause =>
      rw [stepped, settle_of_error advanced] at reports
      cases reports
    | ok pair =>
      obtain ⟨due, schedule⟩ := pair
      rw [settle_of_ok advanced] at stepped
      rw [acts.keeps.schedule] at advanced
      exact ⟨acted, due, schedule, acts, advanced, stepped⟩

theorem regular_run {machine : Machine} (regular : machine.schedule.Regular)
    (elapsed : Nat → Nat) (count : Nat) : (machine.run elapsed count).schedule.Regular := by
  induction count with
  | zero => exact regular
  | succ count ih => exact regular_stepElapsed ih _

/-- What a machine is like after loading: set back, but for the step time and the display. -/
structure Restarted (machine after : Machine) : Prop where
  regular : after.schedule.Regular
  running : after.status = .running
  registers : after.registers = .new
  stepTime : after.stepTime = machine.stepTime
  display : after.display = machine.display

theorem load_restarted {machine after : Machine} {program : Program}
    (loaded : machine.load program = .ok after) : machine.Restarted after := by
  rw [load] at loaded
  split at loaded
  · cases loaded
  · cases loaded
    exact ⟨Schedule.regular_ofRate, rfl, rfl, rfl, rfl⟩

/-- The step after `count` others neither fails nor stops the keys and the clocks. It takes the
next sample. If its time can be counted, it reports to its host, the timers fall by the number of
periods that are due, and the schedule keeps the rest. Every time that can be tolerated is counted,
together with what is pending, in whole periods of a sixtieth of a second. -/
structure GoesOn (machine : Machine) (elapsed : Nat → Nat) (count : Nat) : Prop where
  polls : machine.Polls elapsed count
  sampled : (machine.run elapsed (count + 1)).keypad.held = machine.keysAfter (count + 1)
  caughtUp : ∀ due schedule,
    (machine.run elapsed count).schedule.advance (elapsed count) = .ok (due, schedule) →
      (∃ report, machine.outcome elapsed count = .ok report) ∧
      (machine.run elapsed count).clocks.Decayed due (machine.run elapsed (count + 1)).clocks ∧
      (machine.run elapsed (count + 1)).schedule = schedule
  timely : elapsed count < Schedule.tolerance →
    ∃ schedule, (machine.run elapsed count).schedule.advance (elapsed count) =
        .ok (((machine.run elapsed count).schedule.pending + elapsed count) / 16666666,
          schedule) ∧
      schedule.pending =
        ((machine.run elapsed count).schedule.pending + elapsed count) % 16666666

/-- A step goes on if what comes first in it leaves the clocks alone. -/
theorem GoesOn.of_acts {machine acted : Machine} {elapsed : Nat → Nat} {count : Nat}
    (regular : machine.schedule.Regular) (acts : (machine.run elapsed count).Acts acted)
    (kept : acted.clocks = (machine.run elapsed count).clocks) :
    machine.GoesOn elapsed count where
  polls := .of_acts acts
  sampled := by
    have polls : machine.Polls elapsed count := .of_acts acts
    exact (keys_run fun earlier before => polls.earlier (Nat.le_of_lt_succ before)).1
  caughtUp due schedule advanced := by
    rw [outcome, run_succ]
    exact acts.decayed kept advanced
  timely tolerable := by
    have regular := regular_run regular elapsed count
    have advanced := regular.advance tolerable
    rw [regular.period_val] at advanced
    exact ⟨_, advanced, rfl⟩

end Machine
end Chip8
