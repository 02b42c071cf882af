import Chip8.Proofs.Failures
import Chip8.Proofs.Frames
import Chip8.Runner

/-! The cycles of a runner. A run ends after the first number of cycles at which it is due to,
for the first of its reasons, and what it leaves is what that many cycles leave. -/
namespace Chip8

namespace Machine

/-- The machine after a number of cycles: each is a step, and a frame if one is due. -/
def cycled (machine : Machine) (elapsed : Nat → Nat) : Nat → Machine
  | 0 => machine
  | count + 1 => ((machine.cycled elapsed count).stepElapsed (elapsed count)).2.render

/-- The step after a number of cycles: its result and what it leaves. -/
def nextStep (machine : Machine) (elapsed : Nat → Nat) (count : Nat) :
    Except Failure Report × Machine :=
  (machine.cycled elapsed count).stepElapsed (elapsed count)

theorem Preserved.cycled {property : Machine → Prop} {permitted : Instruction → Prop}
    {machine : Machine} (preserved : Preserved property permitted) (holds : property machine)
    (elapsed : Nat → Nat) (count : Nat) : property (machine.cycled elapsed count) := by
  induction count with
  | zero => exact holds
  | succ count ih => exact preserved.render (preserved.stepElapsed (elapsed count) ih)

theorem Current.cycled {machine : Machine} (current : machine.Current) (elapsed : Nat → Nat)
    {count : Nat} (positive : 0 < count) :
    (machine.cycled elapsed count).display.frame = (machine.cycled elapsed count).screen.frame := by
  cases count with
  | zero => exact absurd positive (Nat.lt_irrefl 0)
  | succ count =>
    have before := current_preserved.cycled current elapsed count
    exact (current_preserved.stepElapsed (elapsed count) before).render.2

/-- A step that a fault stops changes neither the screen nor the display. -/
theorem pictures_of_fault {machine after : Machine} {elapsed : Nat} {fault : Fault}
    (failed : machine.stepElapsed elapsed = (.error (.fault fault), after)) :
    after.screen = machine.screen ∧ after.display = machine.display := by
  rcases stepElapsed_cases machine elapsed with
    ⟨_, -, stepped⟩ | ⟨_, -, -, stepped⟩ | ⟨acted, -, stepped⟩
  · rw [stepped] at failed
    cases failed
    exact ⟨rfl, rfl⟩
  · rw [stepped] at failed
    cases failed
    exact ⟨rfl, rfl⟩
  · rw [stepped] at failed
    exact absurd (congrArg Prod.fst failed) (settle_ne_fault acted elapsed fault)

end Machine

theorem pacedTime_lt (speed : ClockSpeed) {cost : Nat} (quick : cost < Schedule.tolerance)
    (cycle : Nat) : pacedTime cost speed.period cycle < Schedule.tolerance := by
  cases cycle with
  | zero => exact Nat.zero_lt_of_lt quick
  | succ cycle =>
    have short := (Machine.steady_new speed .silent (.ofSeed 0)).stepTime_lt
    exact Nat.max_lt.mpr ⟨quick, short⟩

namespace Runner

/-- A run is due to end: a shutdown is seen, the limit is reached, or the next step fails. -/
inductive Due (runner : Runner) (world : Surroundings) (machine : Machine) (count : Nat) :
    Prop where
  | shutdown (seen : world.shutdown count = .signalled ∨ world.shutdown count = .disconnected)
  | limit (reached : runner.limitReached count = true)
  | failure {failure : Failure} {after : Machine}
      (failed : machine.nextStep world.elapsed count = (.error failure, after))

/-- A run is due to end after a number of cycles, and was not before. -/
structure FirstDue (runner : Runner) (world : Surroundings) (machine : Machine) (count : Nat) :
    Prop where
  due : runner.Due world machine count
  first : ∀ earlier, earlier < count → ¬ runner.Due world machine earlier

/-- How a run ends after a number of cycles. A shutdown comes first, the limit second; only then
is a step made, and if it fails no frame follows. -/
inductive Ends (runner : Runner) (world : Surroundings) (machine : Machine) (count : Nat) :
    RunResult → Machine → Prop where
  | shutdown (seen : world.shutdown count = .signalled ∨ world.shutdown count = .disconnected) :
      Ends runner world machine count (.ok ⟨count, .shutdown⟩)
        (machine.cycled world.elapsed count)
  | limit (unseen : world.shutdown count = .quiet) (reached : runner.limit = some count) :
      Ends runner world machine count (.ok ⟨count, .cycleLimit⟩)
        (machine.cycled world.elapsed count)
  | failure {failure : Failure} {after : Machine} (unseen : world.shutdown count = .quiet)
      (free : runner.limit ≠ some count)
      (failed : machine.nextStep world.elapsed count = (.error failure, after)) :
      Ends runner world machine count (.error failure) after

variable {runner : Runner} {world : Surroundings} {machine : Machine} {count : Nat}

/-- A limit that is reached for the first time is the number of cycles. -/
theorem limit_eq_of_first (reached : runner.limitReached count = true)
    (first : ∀ earlier, earlier < count → ¬ runner.Due world machine earlier) :
    runner.limit = some count := by
  rw [limitReached] at reached
  split at reached
  · cases reached
  · rename_i limit limited
    have within : limit ≤ count := of_decide_eq_true reached
    by_cases same : limit = count
    · rw [limited, same]
    · have early : runner.limitReached limit = true := by
        rw [limitReached, limited]
        exact decide_eq_true (Nat.le_refl limit)
      exact absurd (.limit early) (first limit (Nat.lt_of_le_of_ne within same))

theorem turn_of_firstDue (firstDue : runner.FirstDue world machine count) :
    ∃ result after, runner.Ends world machine count result after ∧
      runner.turn (machine.cycled world.elapsed count) count (world.shutdown count)
        (world.elapsed count) = .ended result after := by
  rw [turn]
  by_cases stops : (world.shutdown count).stops = true
  · rw [if_pos stops]
    exact ⟨_, _, .shutdown (ShutdownLine.stops_iff.mp stops), rfl⟩
  have unseen : world.shutdown count = .quiet := ShutdownLine.not_stops_iff.mp stops
  rw [if_neg stops]
  by_cases reached : runner.limitReached count = true
  · rw [if_pos reached]
    exact ⟨_, _, .limit unseen (limit_eq_of_first reached firstDue.first), rfl⟩
  rw [if_neg reached]
  cases firstDue.due with
  | shutdown seen => exact absurd (ShutdownLine.stops_iff.mpr seen) stops
  | limit reached' => exact absurd reached' reached
  | failure failed =>
    have free : runner.limit ≠ some count := by
      intro limited
      apply reached
      rw [limitReached, limited]
      exact decide_eq_true (Nat.le_refl count)
    rw [show (machine.cycled world.elapsed count).stepElapsed (world.elapsed count) = _ from failed]
    exact ⟨_, _, .failure unseen free failed, rfl⟩

/-- An iteration that is not due to be the last one makes a cycle, whose step reports. -/
theorem turn_of_not_due (onward : ¬ runner.Due world machine count) :
    (∃ report, (machine.nextStep world.elapsed count).1 = .ok report) ∧
      runner.turn (machine.cycled world.elapsed count) count (world.shutdown count)
        (world.elapsed count) = .continued (machine.cycled world.elapsed (count + 1)) := by
  have unseen : ¬ (world.shutdown count).stops = true := fun stops =>
    onward (.shutdown (ShutdownLine.stops_iff.mp stops))
  have free : ¬ runner.limitReached count = true := fun reached => onward (.limit reached)
  rw [turn, if_neg unseen, if_neg free, Machine.cycled]
  cases stepped : machine.nextStep world.elapsed count with
  | mk result after =>
    cases result with
    | error failure => exact absurd (.failure stepped) onward
    | ok report =>
      rw [Machine.nextStep] at stepped
      rw [stepped]
      exact ⟨⟨report, rfl⟩, rfl⟩

theorem runFrom_of_ended {result : RunResult} {after : Machine} {cycles fuel : Nat}
    (ended : runner.turn machine cycles (world.shutdown cycles) (world.elapsed cycles) =
      .ended result after) :
    runner.runFrom world cycles fuel machine = some (result, after) := by
  simp only [runFrom.eq_def, ended]

theorem runFrom_of_continued {after : Machine} {cycles : Nat}
    (continued : runner.turn machine cycles (world.shutdown cycles) (world.elapsed cycles) =
      .continued after) (fuel : Nat) :
    runner.runFrom world cycles 0 machine = none ∧
      runner.runFrom world cycles (fuel + 1) machine =
        runner.runFrom world (cycles + 1) fuel after := by
  constructor
  · simp only [runFrom.eq_def, continued]
  · rw [runFrom.eq_def]
    simp only [continued]

/-- Run from any number of cycles on, before it is due to end, a run ends when it is due. -/
theorem runFrom_eq {result : RunResult} {after : Machine} {start gap : Nat}
    (firstDue : runner.FirstDue world machine (start + gap))
    (ended : runner.turn (machine.cycled world.elapsed (start + gap)) (start + gap)
      (world.shutdown (start + gap)) (world.elapsed (start + gap)) = .ended result after)
    (fuel : Nat) :
    runner.runFrom world start fuel (machine.cycled world.elapsed start) =
      if gap ≤ fuel then some (result, after) else none := by
  -- On the cycles still to be made: each takes one from the gap and one from the fuel.
  induction gap generalizing start fuel with
  | zero =>
    rw [Nat.add_zero] at ended
    rw [runFrom_of_ended ended, if_pos (Nat.zero_le fuel)]
  | succ gap ih =>
    have onward : ¬ runner.Due world machine start := firstDue.first start (by omega)
    have continued := (turn_of_not_due onward).2
    cases fuel with
    | zero => rw [(runFrom_of_continued continued 0).1, if_neg (Nat.not_succ_le_zero gap)]
    | succ fuel =>
      have place : start + (gap + 1) = start + 1 + gap := by omega
      rw [place] at firstDue ended
      rw [(runFrom_of_continued continued fuel).2, ih firstDue ended fuel]
      simp only [Nat.add_le_add_iff_right]

/-- A run that is due to end after a number of cycles ends then, with enough fuel. -/
theorem run_of_firstDue (firstDue : runner.FirstDue world machine count) :
    ∃ result after, runner.Ends world machine count result after ∧
      ∀ fuel, count ≤ fuel → runner.run world fuel machine = some (result, after) := by
  obtain ⟨result, after, ends, ended⟩ := turn_of_firstDue firstDue
  refine ⟨result, after, ends, fun fuel enough => ?_⟩
  have start : 0 + count = count := Nat.zero_add count
  rw [← start] at firstDue ended
  exact (runFrom_eq firstDue ended fuel).trans (if_pos enough)

/-- A run that is never due to end has not ended after any number of cycles. -/
theorem runFrom_eq_none (onward : ∀ count, ¬ runner.Due world machine count) (start fuel : Nat) :
    runner.runFrom world start fuel (machine.cycled world.elapsed start) = none := by
  induction fuel generalizing start with
  | zero => exact (runFrom_of_continued (turn_of_not_due (onward start)).2 0).1
  | succ fuel ih =>
    rw [(runFrom_of_continued (turn_of_not_due (onward start)).2 fuel).2, ih (start + 1)]

/-- A run ends after a number of cycles in the way it should, with nothing but cycles before. -/
structure Concludes (runner : Runner) (world : Surroundings) (machine : Machine) (count : Nat)
    (result : RunResult) (after : Machine) : Prop where
  ends : runner.Ends world machine count result after
  /-- The run makes this number of cycles, no more and no less. -/
  run : ∀ fuel,
    runner.run world fuel machine = if count ≤ fuel then some (result, after) else none
  /-- No step of these cycles fails. -/
  reports : ∀ cycle, cycle < count →
    ∃ report, (machine.nextStep world.elapsed cycle).1 = .ok report
  /-- The last frame delivered is the screen that is left. -/
  current : 0 < count → (∀ cause, result ≠ .error (.overrun cause)) →
    after.display.frame = after.screen.frame
  /-- The clocks are no reason to end if all times can be tolerated. -/
  timely : (∀ cycle, cycle ≤ count → world.elapsed cycle < Schedule.tolerance) →
    ∀ cause, result ≠ .error (.overrun cause)

theorem Ends.current {result : RunResult} {after : Machine}
    (ends : runner.Ends world machine count result after) (current : machine.Current)
    (positive : 0 < count) (timely : ∀ cause, result ≠ .error (.overrun cause)) :
    after.display.frame = after.screen.frame := by
  have shown := current.cycled world.elapsed positive
  cases ends with
  | shutdown seen => exact shown
  | limit unseen reached => exact shown
  | @failure failure after unseen free failed =>
    cases failure with
    | fault fault =>
      obtain ⟨screen, display⟩ := Machine.pictures_of_fault failed
      rw [screen, display]
      exact shown
    | overrun cause => exact absurd rfl (timely cause)

theorem Ends.timely {result : RunResult} {after : Machine}
    (ends : runner.Ends world machine count result after) (steady : machine.Steady)
    (tolerable : world.elapsed count < Schedule.tolerance) (cause : Overrun) :
    result ≠ .error (.overrun cause) := by
  cases ends with
  | shutdown seen => nofun
  | limit unseen reached => nofun
  | failure unseen free failed =>
    rintro ⟨⟩
    have regular := (Machine.steady_preserved.cycled steady world.elapsed count).regular
    exact Machine.stepElapsed_ne_overrun regular tolerable cause (congrArg Prod.fst failed)

/-- The run of a machine on which anything was done before ends as soon as it is due to and for
the first of its reasons, after as many cycles as were completed by then; and it does not end if
it is never due to. -/
theorem run_ends_when_due (runner : Runner) (world : Surroundings) (speed : ClockSpeed)
    (feed : KeyFeed) (generator : Random.Generator) {operations : List Operation}
    {replies : List Reply} {machine : Machine}
    (performed : (Machine.new speed feed generator).performAll operations = (replies, machine)) :
    (∀ count, runner.FirstDue world machine count →
      ∃ result after, runner.Concludes world machine count result after) ∧
    ((∀ count, ¬ runner.Due world machine count) →
      ∀ fuel, runner.run world fuel machine = none) := by
  have current : machine.Current := by
    have current := (Machine.current_new speed feed generator).performAll operations
    rwa [performed] at current
  have steady : machine.Steady := by
    have steady : ((Machine.new speed feed generator).performAll operations).2.Steady :=
      Machine.steady_preserved.performAll (fun _ _ _ _ => trivial)
        (Machine.steady_new speed feed generator)
    rwa [performed] at steady
  refine ⟨?_, fun onward fuel => runFrom_eq_none onward 0 fuel⟩
  intro count firstDue
  obtain ⟨result, after, ends, ended⟩ := turn_of_firstDue firstDue
  have start : 0 + count = count := Nat.zero_add count
  refine ⟨result, after, ends, ?_, ?_, ends.current current, ?_⟩
  · intro fuel
    rw [← start] at firstDue ended
    exact runFrom_eq firstDue ended fuel
  · intro cycle before
    exact (turn_of_not_due (firstDue.first cycle before)).1
  · intro tolerable
    exact ends.timely steady (tolerable count (Nat.le_refl count))

/-- A machine with a program that draws a glyph and ends in an unknown opcode. -/
def sketcher : Machine :=
  ((Machine.new .standard .silent (.ofSeed 0)).performAll [.load [0xD0, 0x05, 0xFF, 0xFF]]).2

/-- A world in which a line is found as given after the first cycle, and in which each step takes
the time of 500 steps in a second. -/
def watched (line : ShutdownLine) : Surroundings where
  shutdown
    | 0 => .quiet
    | _ + 1 => line
  elapsed _ := 2000000

theorem firstDue_sketcher (line : ShutdownLine) (limit : Nat) :
    FirstDue ⟨some (limit + 1)⟩ (watched line) sketcher 1 := by
  refine ⟨?_, ?_⟩
  · have running : (sketcher.cycled (watched .quiet).elapsed 1).status = .running := by
      decide +kernel
    have unknown :
        Instruction.decode (sketcher.cycled (watched .quiet).elapsed 1).nextOpcode = none := by
      decide +kernel
    have active : ∀ cause,
        (sketcher.cycled (watched .quiet).elapsed 1).status ≠ .halted cause := by
      rw [running]
      nofun
    exact .failure
      ((Machine.stepElapsed_eq_fault_iff active).mpr ⟨.unknown running unknown, rfl⟩)
  · intro earlier before due
    obtain rfl : earlier = 0 := by omega
    cases due with
    | shutdown seen => cases ShutdownLine.stops_iff.mpr seen
    | limit reached => cases reached
    | failure failed =>
      have reports : (sketcher.nextStep (watched .quiet).elapsed 0).1.isOk = true := by
        decide +kernel
      rw [show sketcher.nextStep (watched .quiet).elapsed 0 = _ from failed] at reports
      cases reports

/-- The glyph is on the display although the step after it fails. With a signal on the line, or
its other end gone, the run stops before that step, although the limit is reached as well. -/
theorem run_ends_when_due_sketcher :
    (∃ failure after,
      Runner.run ⟨some 5⟩ (watched .quiet) 1 sketcher = some (.error failure, after) ∧
        after.display.frame = after.screen.frame ∧ after.display.delivered = 1) ∧
    (∃ after, Runner.run ⟨some 1⟩ (watched .signalled) 1 sketcher =
      some (.ok ⟨1, .shutdown⟩, after)) ∧
    ∃ after, Runner.run ⟨some 1⟩ (watched .disconnected) 1 sketcher =
      some (.ok ⟨1, .shutdown⟩, after) := by
  have performed : (Machine.new .standard .silent (.ofSeed 0)).performAll
      [.load [0xD0, 0x05, 0xFF, 0xFF]] = ([.done], sketcher) := rfl
  have concluded (line : ShutdownLine) (limit : Nat) :
      ∃ result after, Concludes ⟨some (limit + 1)⟩ (watched line) sketcher 1 result after :=
    (run_ends_when_due _ _ .standard .silent (.ofSeed 0) performed).1 1
      (firstDue_sketcher line limit)
  have stopped (line : ShutdownLine) (stops : line = .signalled ∨ line = .disconnected) :
      ∃ after, Runner.run ⟨some 1⟩ (watched line) 1 sketcher =
        some (.ok ⟨1, .shutdown⟩, after) := by
    obtain ⟨result, after, concludes⟩ := concluded line 0
    have seen : ¬ line = .quiet := by rcases stops with rfl | rfl <;> decide
    cases concludes.ends with
    | shutdown => exact ⟨_, concludes.run 1⟩
    | limit unseen => exact absurd unseen seen
    | failure unseen => exact absurd unseen seen
  refine ⟨?_, stopped .signalled (.inl rfl), stopped .disconnected (.inr rfl)⟩
  obtain ⟨result, after, concludes⟩ := concluded .quiet 4
  have ran := concludes.run 1
  have timely := concludes.timely fun cycle _ => (by decide : 2000000 < Schedule.tolerance)
  have current := concludes.current Nat.one_pos timely
  cases concludes.ends with
  | shutdown seen => exact absurd seen (by decide)
  | limit unseen reached => cases reached
  | failure unseen free failed =>
    have delivered : (sketcher.nextStep (watched .quiet).elapsed 1).2.display.delivered = 1 := by
      decide +kernel
    rw [failed] at delivered
    exact ⟨_, after, ran, current, delivered⟩

end Runner
end Chip8
