import Chip8.CommandLine.Headless
import Chip8.Proofs.Printing
import Chip8.Proofs.Scenes

/-! The headless program from its command line to its last word. It refuses what cannot be run,
and else prints the screen that steps of the loaded machine lead to, whatever its clock says. -/
namespace Chip8

theorem Machine.load_sameScene {speed : ClockSpeed} {feed : KeyFeed}
    {generator seed : Random.Generator} {program : Program} {machine other : Machine}
    (loaded : (Machine.new speed feed seed).load program = .ok machine)
    (loadedToo : (Machine.new speed feed generator).load program = .ok other) :
    machine.SameScene other := by
  rw [load] at loaded loadedToo
  cases image : Memory.load program with
  | error error =>
    rw [image] at loaded
    cases loaded
  | ok memory =>
    rw [image] at loaded loadedToo
    cases loaded
    cases loadedToo
    rfl

/-- Among the first steps all succeed, or one is the first that does not. -/
theorem first_failure (succeeds : Nat → Prop) (limit : Nat) :
    (∀ step, step < limit → succeeds step) ∨
    ∃ count, count < limit ∧ (∀ step, step < count → succeeds step) ∧
      ¬ succeeds count := by
  induction limit with
  | zero => exact Or.inl nofun
  | succ limit ih =>
    rcases ih with all | ⟨count, before, earlier, failed⟩
    · by_cases last : succeeds limit
      · left
        intro step within
        rcases Nat.lt_succ_iff_lt_or_eq.mp within with before | rfl
        · exact all step before
        · exact last
      · exact Or.inr ⟨limit, Nat.lt_succ_self limit, all, last⟩
    · exact Or.inr ⟨count, Nat.lt_succ_of_lt before, earlier, failed⟩

/-- What is seen of an exit: its code, and what was written to standard output and error, apart
from the lines of a logger. -/
def CommandLine.Exit.seen (exit : Exit) : Nat × String × String :=
  (exit.code, exit.output, exit.complaint.text)

namespace CommandLine.Headless

/-- A machine with the program that the options name, at the speed that they name. -/
inductive Loads (directory : Directory) (options : Options) (seed : Random.Generator) :
    Machine → Prop where
  | intro {speed : ClockSpeed} {program : Program} {machine : Machine}
      (given : speed.hertz = options.clockSpeed)
      (found : directory.read options.path = .ok program)
      (loaded : (Machine.new speed .silent seed).load program = .ok machine) :
      Loads directory options seed machine

def errorText (message : String) : String := "Error: " ++ message ++ "\n"

/-- How the program is to end, told by its exit code and what it writes: the first thing that is
wrong with speed, file and size is reported, and else what becomes of the first steps of the
loaded machine. -/
inductive Ending (directory : Directory) (options : Options) (limit : Nat)
    (seed : Random.Generator) (times : Nat → Nat) : Nat → String → String → Prop where
  | zeroSpeed (zero : options.clockSpeed = 0) :
      Ending directory options limit seed times 1 "" (errorText ClockError.zero.message)
  | tooFast (high : 1000000000 < options.clockSpeed) :
      Ending directory options limit seed times 1 ""
        (errorText (ClockError.tooHigh options.clockSpeed 1000000000).message)
  | missing (positive : 0 < options.clockSpeed) (bounded : options.clockSpeed ≤ 1000000000)
      (absent : directory.read options.path = .error (.notFound options.path)) :
      Ending directory options limit seed times 1 ""
        (errorText (RomError.notFound options.path).message)
  | unreadable (positive : 0 < options.clockSpeed) (bounded : options.clockSpeed ≤ 1000000000)
      {reason : String} (refused : directory.read options.path = .error (.unreadable reason)) :
      Ending directory options limit seed times 1 ""
        (errorText ((RomError.unreadable reason).message ++ "\n\nCaused by:\n    " ++ reason))
  | tooLarge (positive : 0 < options.clockSpeed) (bounded : options.clockSpeed ≤ 1000000000)
      {program : Program} (found : directory.read options.path = .ok program)
      (large : 3584 < program.length) :
      Ending directory options limit seed times 1 ""
        (errorText (RomError.tooLarge program.length 3584).message)
  | completed {machine : Machine} (loads : Loads directory options seed machine)
      (succeed : ∀ step, step < limit → (machine.outcome times step).isOk)
      {screen : String} {lines : List (List Char)}
      (printed : (machine.run times limit).screen.frame.Printed screen lines) :
      Ending directory options limit seed times 0
        (screen ++ "Ran " ++ toString limit ++ " cycles\n") ""
  | failed {machine : Machine} (loads : Loads directory options seed machine) {count : Nat}
      (before : count < limit)
      (succeed : ∀ step, step < count → (machine.outcome times step).isOk) {fault : Fault}
      (fails : machine.outcome times count = .error (.fault fault))
      {screen : String} {lines : List (List Char)}
      (printed : (machine.run times count).screen.frame.Printed screen lines) :
      Ending directory options limit seed times 1 screen (errorText fault.message)

variable {command : String} {commandLine : List String} {directory : Directory}
  {generator seed : Random.Generator} {elapsed : Nat → Nat → Nat} {options : Options}
  {limit : Nat} {times : Nat → Nat}

/-- Whatever speed, limit and path are asked for, there is a command line that gives them. -/
theorem parse_given {path : String} {hertz : Nat} (narrow : hertz < UInt32.size)
    (bounded : limit < UInt64.size) (plain : Argument.isOption path = false) :
    Options.parse settings ["--clock-speed", toString hertz, "--cycles", toString limit, path] =
      .ok ⟨path, hertz, some limit⟩ := by
  have ongoing : path ≠ "--" := by
    rintro rfl
    cases plain
  have read : Argument.readAll settings
      ["--clock-speed", toString hertz, "--cycles", toString limit, path] =
        [.setting .clockSpeed (some (toString hertz)), .setting .cycles (some (toString limit)),
          .program path] := by
    rw [Argument.readAll_setting _ (by decide) rfl rfl (Argument.isOption_toString hertz),
      Argument.readAll_setting _ (by decide) rfl rfl (Argument.isOption_toString limit),
      Argument.readAll, if_neg ongoing, plain]
    rfl
  let request : Request :=
    ⟨[(.clockSpeed, some (toString hertz)), (.cycles, some (toString limit))], some path⟩
  have collected : Request.ofArguments
      [.setting .clockSpeed (some (toString hertz)), .setting .cycles (some (toString limit)),
        .program path] = .ok request := rfl
  have speed : request.number? .clockSpeed UInt32.size = .ok (some hertz) :=
    Request.number?_toString rfl narrow
  have cycles : request.number? .cycles UInt64.size = .ok (some limit) :=
    Request.number?_toString rfl bounded
  have complete : Options.ofRequest request = .ok ⟨path, hertz, some limit⟩ := by
    rw [Options.ofRequest, speed, cycles]
    rfl
  rw [Options.parse, read, collected]
  exact congrArg (Except.mapError Interruption.usage) complete

theorem limitReached_iff {cycles : Nat} :
    Runner.limitReached ⟨some limit⟩ cycles = true ↔ limit ≤ cycles := decide_eq_true_iff

section

variable {machine other : Machine} {clock : Nat → Nat}
  (along : machine.GoesAlong other times clock limit)

include along

theorem not_due_of_success {step : Nat} (before : step < limit)
    (succeeds : (machine.outcome times step).isOk) :
    ¬ Runner.Due ⟨some limit⟩ ⟨fun _ => .quiet, clock⟩ other step := by
  intro due
  cases due with
  | shutdown seen => cases ShutdownLine.stops_iff.mpr seen
  | limit reached => exact absurd (limitReached_iff.mp reached) (Nat.not_le_of_lt before)
  | failure failed =>
    have verdict := along.verdicts step before
    rw [failed, Machine.verdict_eq_ok_iff.mpr succeeds] at verdict
    cases verdict

/-- If all steps succeed, the run ends at its limit and prints the last screen. -/
theorem finish_of_success
    (succeed : ∀ step, step < limit → (machine.outcome times step).isOk) :
    ∃ result after,
      (∀ fuel, limit ≤ fuel →
        Runner.run ⟨some limit⟩ ⟨fun _ => .quiet, clock⟩ fuel other =
          some (result, after)) ∧
      finish result after =
        ⟨0, (machine.run times limit).screen.frame.text ++
          "Ran " ++ toString limit ++ " cycles\n", .silent⟩ := by
  have firstDue : Runner.FirstDue ⟨some limit⟩ ⟨fun _ => .quiet, clock⟩ other limit :=
    ⟨.limit (limitReached_iff.mpr (Nat.le_refl limit)),
      fun step before => not_due_of_success along before (succeed step before)⟩
  obtain ⟨result, after, ends, ran⟩ := Runner.run_of_firstDue firstDue
  refine ⟨result, after, ran, ?_⟩
  cases ends with
  | shutdown seen => cases ShutdownLine.stops_iff.mpr seen
  | limit unseen reached =>
    rw [finish, (along.scenes limit (Nat.le_refl limit)).frame]
  | failure unseen free failed => exact absurd rfl free

/-- If a step fails, the run ends with it and prints the screen before it. -/
theorem finish_of_failure {count : Nat} (before : count < limit)
    (succeed : ∀ step, step < count → (machine.outcome times step).isOk) {fault : Fault}
    (fails : machine.outcome times count = .error (.fault fault)) :
    ∃ result after,
      (∀ fuel, count ≤ fuel →
        Runner.run ⟨some limit⟩ ⟨fun _ => .quiet, clock⟩ fuel other =
          some (result, after)) ∧
      finish result after =
        ⟨1, (machine.run times count).screen.frame.text, .report fault.message⟩ := by
  have failed : (other.nextStep clock count).1 = .error (.fault fault) := by
    apply Machine.verdict_eq_error_iff.mp
    rw [← along.verdicts count before, fails]
    rfl
  have firstDue : Runner.FirstDue ⟨some limit⟩ ⟨fun _ => .quiet, clock⟩ other count :=
    ⟨.failure (Prod.ext failed rfl), fun step earlier =>
      not_due_of_success along (Nat.lt_trans earlier before) (succeed step earlier)⟩
  obtain ⟨result, after, ends, ran⟩ := Runner.run_of_firstDue firstDue
  refine ⟨result, after, ran, ?_⟩
  cases ends with
  | shutdown seen => cases ShutdownLine.stops_iff.mpr seen
  | limit unseen reached => exact absurd (Option.some.inj reached) (Nat.ne_of_gt before)
  | @failure failure after unseen free stepped =>
    have same : failure = .fault fault := by
      rw [stepped] at failed
      exact Except.error.inj failed
    subst same
    have screen := (Machine.pictures_of_fault stepped).1
    rw [finish, screen, (along.scenes count (Nat.le_of_lt before)).frame]

end

theorem run_of_refused {complaint : Complaint}
    (parsed : Options.parse settings commandLine = .ok options)
    (refused : launch options directory.read generator = .error complaint) (fuel : Nat) :
    (run command commandLine directory generator elapsed fuel).map Exit.seen =
      some (complaint.exitCode, "", complaint.text) := by
  rw [run, parsed]
  simp only [refused]
  rfl

theorem run_of_launched {machine after : Machine} {result : RunResult} {exit : Exit} {fuel : Nat}
    (parsed : Options.parse settings commandLine = .ok options)
    (launched : launch options directory.read generator = .ok ⟨⟨some limit⟩, machine⟩)
    (ran : Runner.run ⟨some limit⟩ ⟨fun _ => .quiet, elapsed machine.stepTime⟩ fuel
      machine = some (result, after))
    (finished : finish result after = exit) :
    (run command commandLine directory generator elapsed fuel).map Exit.seen =
      some exit.seen := by
  rw [run, parsed]
  simp only [launched, ran, Option.map_some, finished]

theorem launch_of_unread {error : RomError} (positive : 0 < options.clockSpeed)
    (bounded : options.clockSpeed ≤ 1000000000)
    (unread : directory.read options.path = .error error) :
    launch options directory.read generator = .error (.ofRom error) := by
  have accepted := ClockSpeed.ofHertz_hertz ⟨options.clockSpeed, positive, bounded⟩
  simp only [launch, accepted, unread]

theorem launch_of_loads {machine : Machine} (loads : Loads directory options seed machine)
    (limited : options.cycles = some limit)
    (tolerable : ∀ step, step < limit → times step < Schedule.tolerance)
    (tolerableToo : ∀ (speed : ClockSpeed) (cycle : Nat), cycle < limit →
      elapsed speed.period cycle < Schedule.tolerance)
    (admitted : ∀ step, step < limit →
      ∀ instruction ∈ (machine.run times step).nextInstruction?,
        View.scene.Admits instruction) :
    ∃ other, launch options directory.read generator = .ok ⟨⟨some limit⟩, other⟩ ∧
      machine.GoesAlong other times (elapsed other.stepTime) limit := by
  obtain @⟨speed, program, machine, given, found, loaded⟩ := loads
  rcases Nat.lt_or_ge 3584 program.length with large | fits
  · rw [Machine.load_of_large _ large] at loaded
    cases loaded
  obtain ⟨other, loadedToo⟩ := (Machine.new speed .silent generator).load_of_fits fits
  refine ⟨other, ?_, ?_⟩
  · simp only [launch, ← given, ClockSpeed.ofHertz_hertz, found, loadedToo, limited]
  · have same := Machine.load_sameScene loaded loadedToo
    have steady := Machine.steady_preserved.load loaded (Machine.steady_new speed .silent seed)
    have steadyToo := Machine.steady_preserved.load loadedToo
      (Machine.steady_new speed .silent generator)
    have period : other.stepTime = speed.period := (Machine.load_restarted loadedToo).stepTime
    exact same.cycled steady steadyToo tolerable (period ▸ tolerableToo speed) admitted

theorem Loads.steady {machine : Machine} (loads : Loads directory options seed machine) :
    machine.Steady := by
  obtain @⟨speed, _, machine, -, -, loaded⟩ := loads
  exact Machine.steady_preserved.load loaded (Machine.steady_new speed .silent seed)

/-- There is always a way to end. -/
theorem ending_exists (directory : Directory) (options : Options) (seed : Random.Generator)
    (tolerable : ∀ step, step < limit → times step < Schedule.tolerance) :
    ∃ code output errors, Ending directory options limit seed times code output errors := by
  rcases Nat.eq_zero_or_pos options.clockSpeed with zero | positive
  · exact ⟨_, _, _, .zeroSpeed zero⟩
  rcases Nat.lt_or_ge 1000000000 options.clockSpeed with high | bounded
  · exact ⟨_, _, _, .tooFast high⟩
  cases found : directory.read options.path with
  | error error =>
    rcases Directory.read_eq_error found with rfl | ⟨reason, rfl⟩
    · exact ⟨_, _, _, .missing positive bounded found⟩
    · exact ⟨_, _, _, .unreadable positive bounded found⟩
  | ok program =>
    rcases Nat.lt_or_ge 3584 program.length with large | fits
    · exact ⟨_, _, _, .tooLarge positive bounded found large⟩
    obtain ⟨machine, loaded⟩ :=
      (Machine.new ⟨_, positive, bounded⟩ .silent seed).load_of_fits fits
    have loads : Loads directory options seed machine := .intro rfl found loaded
    rcases first_failure (fun step => (machine.outcome times step).isOk) limit with
      succeed | ⟨count, before, succeed, failed⟩
    · exact ⟨_, _, _, .completed loads succeed (Frame.printed_text _)⟩
    · have regular := Machine.regular_run loads.steady.regular times count
      obtain ⟨fault, fails⟩ := Machine.fault_of_not_ok regular (tolerable count before) failed
      exact ⟨_, _, _, .failed loads before succeed fails (Frame.printed_text _)⟩

/-- From its command line to its last word the headless program ends as it should: it refuses in
order a speed, a file and a size that cannot be, and else it prints the screen after the steps
that its limit allows, or after those before the first that fails, whatever its clock says, as
long as the timers can count each cycle's time, and whatever its random bytes are. -/
theorem run_ends_as_steps_do
    (parsed : Options.parse settings commandLine = .ok options)
    (limited : options.cycles = some limit)
    (tolerable : ∀ step, step < limit → times step < Schedule.tolerance)
    (tolerableToo : ∀ (speed : ClockSpeed) (cycle : Nat), cycle < limit →
      elapsed speed.period cycle < Schedule.tolerance)
    (admitted : ∀ machine, Loads directory options seed machine → ∀ step, step < limit →
      ∀ instruction ∈ (machine.run times step).nextInstruction?,
        View.scene.Admits instruction) :
    (∃ code output errors, Ending directory options limit seed times code output errors) ∧
      ∀ code output errors, Ending directory options limit seed times code output errors →
        ∀ fuel, limit ≤ fuel →
          (run command commandLine directory generator elapsed fuel).map Exit.seen =
            some (code, output, errors) := by
  refine ⟨ending_exists directory options seed tolerable, ?_⟩
  intro code output errors ending fuel enough
  cases ending with
  | zeroSpeed zero =>
    have launched : launch options directory.read generator = .error (.ofClock .zero) := by
      rw [launch, zero]
      rfl
    exact run_of_refused parsed launched fuel
  | tooFast high =>
    have launched : launch options directory.read generator =
        .error (.ofClock (.tooHigh options.clockSpeed 1000000000)) := by
      rw [launch, ClockSpeed.ofHertz_of_high high]
    exact run_of_refused parsed launched fuel
  | missing positive bounded absent =>
    exact run_of_refused parsed (launch_of_unread positive bounded absent) fuel
  | unreadable positive bounded unread =>
    exact run_of_refused parsed (launch_of_unread positive bounded unread) fuel
  | @tooLarge positive bounded program found large =>
    have launched : launch options directory.read generator =
        .error (.ofRom (.tooLarge program.length 3584)) := by
      have accepted := ClockSpeed.ofHertz_hertz ⟨options.clockSpeed, positive, bounded⟩
      simp only [launch, accepted, found, Machine.load_of_large _ large]
    exact run_of_refused parsed launched fuel
  | completed loads succeed printed =>
    obtain ⟨other, launched, along⟩ :=
      launch_of_loads loads limited tolerable tolerableToo (admitted _ loads)
    obtain ⟨result, after, ran, finished⟩ := finish_of_success along succeed
    rw [printed.eq_text]
    exact run_of_launched parsed launched (ran fuel enough) finished
  | failed loads before succeed fails printed =>
    obtain ⟨other, launched, along⟩ :=
      launch_of_loads loads limited tolerable tolerableToo (admitted _ loads)
    obtain ⟨result, after, ran, finished⟩ := finish_of_failure along before succeed fails
    rw [printed.eq_text]
    have far := Nat.le_trans (Nat.le_of_lt before) enough
    exact run_of_launched parsed launched (ran fuel far) finished

/-- A directory whose one file draws a glyph over and over. -/
def gallery : Directory := ⟨[("r", .file [0xD0, 0x05, 0x12, 0x00])], []⟩

theorem read_gallery : gallery.read "r" = .ok [0xD0, 0x05, 0x12, 0x00] := by
  have parts : "r".splitOn "/" = ["r"] := by
    rw [String.splitOn, if_neg (by decide), String.splitOnAux, if_neg (by decide +kernel),
      if_neg (by decide +kernel), String.splitOnAux, if_pos (by decide +kernel)]
    decide +kernel
  have start : gallery.root = gallery := rfl
  rw [Directory.read, if_neg (by decide +kernel), if_neg (by decide +kernel),
    if_neg (by decide +kernel), parts, start, ite_self]
  rfl

/-- A tour of the gallery: three steps at high speed. -/
def tour : Options := ⟨"r", 1000, some 3⟩

/-- What is seen on the tour. -/
def exhibit : Machine :=
  ((Machine.new ⟨1000, by decide, by decide⟩ .silent (.ofSeed 0)).performAll
    [.load [0xD0, 0x05, 0x12, 0x00]]).2

theorem eq_exhibit {machine : Machine} (loads : Loads gallery tour (.ofSeed 0) machine) :
    machine = exhibit := by
  obtain @⟨⟨hertz, positive, bounded⟩, program, _, given, found, loaded⟩ := loads
  cases given
  cases read_gallery.symm.trans found
  exact (Except.ok.inj loaded).symm

theorem run_ends_as_steps_do_tour :
    Options.parse settings ["--cycles=3", "-c", "1000", "r"] = .ok tour ∧
      (run "chip8" ["--cycles=3", "-c", "1000", "r"] gallery (.ofSeed 1) (pacedTime 7) 3).map
          Exit.seen =
        some (0, (exhibit.run (fun _ => 0) 3).screen.frame.text ++ "Ran " ++ toString 3 ++
          " cycles\n", "") := by
  have parsed : Options.parse settings ["--cycles=3", "-c", "1000", "r"] = .ok tour := rfl
  have paced (speed : ClockSpeed) (cycle : Nat) (_ : cycle < 3) :
      pacedTime 7 speed.period cycle < Schedule.tolerance := pacedTime_lt speed (by decide) cycle
  have admitted : ∀ machine, Loads gallery tour (.ofSeed 0) machine → ∀ step, step < 3 →
      ∀ instruction ∈ (machine.run (fun _ => 0) step).nextInstruction?,
        View.scene.Admits instruction := by
    intro machine loads
    rw [eq_exhibit loads]
    decide +kernel
  have loads : Loads gallery tour (.ofSeed 0) exhibit := .intro rfl read_gallery rfl
  have succeed : ∀ step, step < 3 → (exhibit.outcome (fun _ => 0) step).isOk := by
    decide +kernel
  exact ⟨parsed, (run_ends_as_steps_do parsed rfl (fun _ _ => by decide) paced admitted).2 _ _ _
    (.completed loads succeed (Frame.printed_text _)) 3 (Nat.le_refl 3)⟩

end CommandLine.Headless
end Chip8
