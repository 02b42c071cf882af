import Chip8.Proofs.Executions

/-! The sources of what a program does not determine: time, keys and random bytes. Each comes
into a run only by the instructions that read it; as long as none of them is executed, runs
that differ in the source alone cannot be told apart by anything else. -/
namespace Chip8

/-- Where a run gets what its program does not determine. -/
inductive Source where
  | time
  | keys
  | randomness
  deriving DecidableEq, Repr

namespace Source

/-- The instructions by which a source comes in. -/
def reads : Source → Instruction → Bool
  | .time, .getDelay _ => true
  | .keys, .skipIfPressed _ | .keys, .skipUnlessPressed _ | .keys, .awaitKey _ => true
  | .randomness, .random _ _ => true
  | _, _ => false

/-- Two machines agree on all that does not belong to a source. The timers, their schedule and
the tones belong to time, the keypad and the samples to come to the keys. -/
structure Agree (source : Source) (machine other : Machine) : Prop where
  memory : machine.memory = other.memory
  registers : machine.registers = other.registers
  screen : machine.screen = other.screen
  opcode : machine.opcode = other.opcode
  status : machine.status = other.status
  stepTime : machine.stepTime = other.stepTime
  display : machine.display = other.display
  timers : source ≠ .time → machine.timers = other.timers
  schedule : source ≠ .time → machine.schedule = other.schedule
  speaker : source ≠ .time → machine.speaker = other.speaker
  keypad : source ≠ .keys → machine.keypad = other.keypad
  feed : source ≠ .keys → machine.feed = other.feed
  generator : source ≠ .randomness → machine.generator = other.generator

/-- A machine with all that belongs to a source put aside. -/
def blank : Source → Machine → Machine
  | .time, machine =>
    { machine with timers := .new, schedule := .ofRate Machine.timerRate, speaker := .new }
  | .keys, machine => { machine with keypad := .new, feed := .silent }
  | .randomness, machine => { machine with generator := .ofSeed 0 }

variable {source : Source} {machine other : Machine}

theorem blank_eq_iff :
    source.blank machine = source.blank other ↔ source.Agree machine other := by
  constructor
  · intro same
    cases source
    all_goals
      obtain ⟨memory, registers, timers, keypad, screen, opcode, status, schedule, stepTime,
        generator, feed, display, speaker⟩ := Machine.mk.inj same
      constructor
      all_goals first
        | assumption
        | intro _; assumption
        | intro differs; exact absurd rfl differs
  · intro agree
    cases source
    case time =>
      have keypad := agree.keypad nofun
      have feed := agree.feed nofun
      have generator := agree.generator nofun
      simp only [blank, agree.memory, agree.registers, agree.screen, agree.opcode, agree.status,
        agree.stepTime, agree.display, keypad, feed, generator]
    case keys =>
      have timers := agree.timers nofun
      have schedule := agree.schedule nofun
      have speaker := agree.speaker nofun
      have generator := agree.generator nofun
      simp only [blank, agree.memory, agree.registers, agree.screen, agree.opcode, agree.status,
        agree.stepTime, agree.display, timers, schedule, speaker, generator]
    case randomness =>
      have timers := agree.timers nofun
      have schedule := agree.schedule nofun
      have speaker := agree.speaker nofun
      have keypad := agree.keypad nofun
      have feed := agree.feed nofun
      simp only [blank, agree.memory, agree.registers, agree.screen, agree.opcode, agree.status,
        agree.stepTime, agree.display, timers, schedule, speaker, keypad, feed]

private theorem blank_skipIf (source : Source) (machine : Machine) (condition : Bool) :
    source.blank (machine.skipIf condition) =
      source.blank ((source.blank machine).skipIf condition) := by
  cases source
  all_goals
    cases condition
    · rfl
    · rfl

private theorem blank_loadTo (source : Source) (machine : Machine) (x : Register) :
    source.blank (machine.loadTo x).proceed =
      source.blank ((source.blank machine).loadTo x).proceed := by
  cases source
  all_goals simp only [blank, Machine.loadTo, Machine.proceed, Machine.goto, Machine.v]

/-- An instruction that does not read a source does the same whatever the source has. -/
theorem blank_execute (source : Source) (machine : Machine) {instruction : Instruction}
    (unread : source.reads instruction = false) :
    (machine.execute instruction).map source.blank =
      ((source.blank machine).execute instruction).map source.blank := by
  cases instruction
  case getDelay =>
    cases source
    case time => cases unread
    all_goals rfl
  case random =>
    cases source
    case randomness => cases unread
    all_goals rfl
  case awaitKey =>
    cases source
    case keys => cases unread
    all_goals rfl
  case skipIfPressed | skipUnlessPressed =>
    cases source
    case keys => cases unread
    all_goals exact congrArg Except.ok (blank_skipIf _ machine _)
  case skipIfConst | skipUnlessConst | skipIfSame | skipUnlessSame =>
    cases source
    all_goals exact congrArg Except.ok (blank_skipIf _ machine _)
  case loadRegisters x => exact congrArg Except.ok (blank_loadTo source machine x)
  case ret =>
    cases source
    all_goals
      simp only [Machine.execute, blank]
      cases machine.registers.stack.pop machine.registers.pc
      · rfl
      · rfl
  case call =>
    cases source
    all_goals
      simp only [Machine.execute, blank]
      cases machine.registers.stack.push (machine.registers.pc.advance 2) machine.registers.pc
      · rfl
      · rfl
  all_goals
    cases source
    all_goals rfl

theorem Agree.map (agree : source.Agree machine other) (change : Machine → Machine)
    (blind : ∀ machine,
      source.blank (change machine) = source.blank (change (source.blank machine))) :
    source.Agree (change machine) (change other) := by
  rw [← blank_eq_iff] at agree ⊢
  rw [blind machine, blind other, agree]

theorem Agree.fetch (agree : source.Agree machine other) :
    source.Agree machine.fetch other.fetch := by
  apply agree.map Machine.fetch
  intro machine
  cases source
  all_goals rfl

/-- Two executions fail with the same fault, or both succeed and what they end with agrees. -/
def Alike (source : Source) : Except Fault Machine → Except Fault Machine → Prop
  | .error fault, .error otherFault => fault = otherFault
  | .ok after, .ok otherAfter => source.Agree after otherAfter
  | _, _ => False

private theorem alike_of_map {result otherResult : Except Fault Machine}
    (same : result.map source.blank = otherResult.map source.blank) :
    source.Alike result otherResult := by
  cases result with
  | error fault =>
    cases otherResult with
    | error otherFault => exact Except.error.inj same
    | ok otherAfter => cases same
  | ok after =>
    cases otherResult with
    | error otherFault => cases same
    | ok otherAfter => exact blank_eq_iff.mp (Except.ok.inj same)

theorem Agree.execute (agree : source.Agree machine other) {instruction : Instruction}
    (unread : source.reads instruction = false) :
    source.Alike (machine.execute instruction) (other.execute instruction) := by
  apply alike_of_map
  rw [blank_execute source machine unread, blank_execute source other unread,
    blank_eq_iff.mpr agree]

theorem Agree.dispatch (agree : source.Agree machine other)
    (unread : ∀ instruction, Instruction.decode machine.opcode = some instruction →
      source.reads instruction = false) : source.Alike machine.dispatch other.dispatch := by
  rw [Machine.dispatch, Machine.dispatch, ← agree.opcode, ← agree.registers]
  cases decoded : Instruction.decode machine.opcode with
  | none => rfl
  | some instruction => exact agree.execute (unread instruction decoded)

theorem Agree.resumeKeyWait (agree : source.Agree machine other) (differs : source ≠ .keys)
    (x : Register) : source.Agree (machine.resumeKeyWait x) (other.resumeKeyWait x) := by
  have keypad := agree.keypad differs
  cases pressed : machine.keypad.firstFresh? with
  | none =>
    rw [Machine.resumeKeyWait_of_none pressed, Machine.resumeKeyWait_of_none (keypad ▸ pressed)]
    exact agree
  | some key =>
    rw [Machine.resumeKeyWait_of_some pressed, Machine.resumeKeyWait_of_some (keypad ▸ pressed),
      keypad]
    apply agree.map fun machine =>
      { (machine.setV x (UInt8.ofNat key.val)).proceed with
        keypad := other.keypad.takePress (UInt8.ofNat key.val)
        status := .running }
    intro machine
    cases source
    all_goals rfl

/-- If time is not the source, the clocks of agreeing machines go on alike. -/
theorem Agree.settle_clocks (agree : source.Agree machine other) (differs : source ≠ .time)
    (elapsed : Nat) :
    (machine.settle elapsed).1 = (other.settle elapsed).1 ∧
      (machine.settle elapsed).2.clocks = (other.settle elapsed).2.clocks := by
  have schedule := agree.schedule differs
  have timers := agree.timers differs
  have speaker := agree.speaker differs
  cases advanced : machine.schedule.advance elapsed with
  | error cause =>
    rw [Machine.settle_of_error advanced, Machine.settle_of_error (schedule ▸ advanced)]
    refine ⟨rfl, ?_⟩
    change Machine.Clocks.mk machine.timers machine.schedule machine.speaker =
      ⟨other.timers, other.schedule, other.speaker⟩
    rw [timers, schedule, speaker]
  | ok pair =>
    obtain ⟨due, rest⟩ := pair
    rw [Machine.settle_of_ok advanced, Machine.settle_of_ok (schedule ▸ advanced)]
    refine ⟨by rw [agree.screen], Machine.clocks_tickTimersFor ?_ due⟩
    change Machine.Clocks.mk machine.timers rest machine.speaker =
      ⟨other.timers, rest, other.speaker⟩
    rw [timers, speaker]

/-- The times that two steps may take: any that can be tolerated if time is the source, and the
same if it is not. -/
def Permits : Source → Nat → Nat → Prop
  | .time, elapsed, otherElapsed =>
    elapsed < Schedule.tolerance ∧ otherElapsed < Schedule.tolerance
  | _, elapsed, otherElapsed => elapsed = otherElapsed

theorem Permits.eq {elapsed otherElapsed : Nat} (permitted : source.Permits elapsed otherElapsed)
    (differs : source ≠ .time) : elapsed = otherElapsed := by
  cases source with
  | time => exact absurd rfl differs
  | keys => exact permitted
  | randomness => exact permitted

theorem Agree.settle (agree : source.Agree machine other)
    (regular : source = .time → machine.schedule.Regular ∧ other.schedule.Regular)
    {elapsed otherElapsed : Nat} (permitted : source.Permits elapsed otherElapsed) :
    (machine.settle elapsed).1 = (other.settle otherElapsed).1 ∧
      source.Agree (machine.settle elapsed).2 (other.settle otherElapsed).2 := by
  have clocks : source ≠ .time →
      (machine.settle elapsed).2.clocks = (other.settle otherElapsed).2.clocks := by
    intro differs
    rw [← permitted.eq differs]
    exact (agree.settle_clocks differs elapsed).2
  constructor
  · by_cases timed : source = .time
    · obtain ⟨steady, steadyToo⟩ := regular timed
      subst timed
      rw [Machine.settle_of_ok (steady.advance permitted.1),
        Machine.settle_of_ok (steadyToo.advance permitted.2), agree.screen]
    · rw [← permitted.eq timed]
      exact (agree.settle_clocks timed elapsed).1
  · obtain ⟨timers, schedule, speaker, settled⟩ := machine.settle_frame elapsed
    obtain ⟨otherTimers, otherSchedule, otherSpeaker, settledToo⟩ :=
      other.settle_frame otherElapsed
    rw [settled, settledToo] at clocks ⊢
    exact {
      memory := agree.memory
      registers := agree.registers
      screen := agree.screen
      opcode := agree.opcode
      status := agree.status
      stepTime := agree.stepTime
      display := agree.display
      timers := fun differs => (Machine.Clocks.mk.inj (clocks differs)).1
      schedule := fun differs => (Machine.Clocks.mk.inj (clocks differs)).2.1
      speaker := fun differs => (Machine.Clocks.mk.inj (clocks differs)).2.2
      keypad := fun differs => by rw [agree.keypad differs, agree.feed differs]
      feed := fun differs => by rw [agree.feed differs]
      generator := agree.generator }

/-- What two machines have to be like for a source to come in by its own instructions alone:
if the times may differ the schedules are regular, and if the keys may, none is awaited. -/
def Fits : Source → Machine → Machine → Prop
  | .time, machine, other => machine.schedule.Regular ∧ other.schedule.Regular
  | .keys, machine, _ => ∀ x, machine.status ≠ .awaitingKey x
  | .randomness, _, _ => True

theorem Fits.stepElapsed (fits : source.Fits machine other)
    (unread : ∀ instruction ∈ machine.nextInstruction?, source.reads instruction = false)
    (elapsed otherElapsed : Nat) :
    source.Fits (machine.stepElapsed elapsed).2 (other.stepElapsed otherElapsed).2 := by
  cases source with
  | time =>
    exact ⟨Machine.regular_stepElapsed fits.1 elapsed,
      Machine.regular_stepElapsed fits.2 otherElapsed⟩
  | keys =>
    apply Machine.status_stepElapsed elapsed fits
    rintro instruction next x rfl
    cases unread _ next
  | randomness => trivial

theorem Agree.stepElapsed_of_acts {acted otherActed : Machine}
    (agree : source.Agree acted otherActed) (fits : source.Fits machine other)
    (acts : machine.Acts acted) (actsToo : other.Acts otherActed) {elapsed otherElapsed : Nat}
    (permitted : source.Permits elapsed otherElapsed) :
    (machine.stepElapsed elapsed).1 = (other.stepElapsed otherElapsed).1 ∧
      source.Agree (machine.stepElapsed elapsed).2 (other.stepElapsed otherElapsed).2 := by
  have regular : source = .time → acted.schedule.Regular ∧ otherActed.schedule.Regular := by
    rintro rfl
    rw [acts.keeps.schedule, actsToo.keeps.schedule]
    exact fits
  rw [Machine.stepElapsed_of_acts elapsed acts, Machine.stepElapsed_of_acts otherElapsed actsToo]
  exact agree.settle regular permitted

/-- A step that does not read the source reports the same and keeps agreement. -/
theorem Agree.stepElapsed (agree : source.Agree machine other) (fits : source.Fits machine other)
    (unread : ∀ instruction ∈ machine.nextInstruction?, source.reads instruction = false)
    {elapsed otherElapsed : Nat} (permitted : source.Permits elapsed otherElapsed) :
    (machine.stepElapsed elapsed).1 = (other.stepElapsed otherElapsed).1 ∧
      source.Agree (machine.stepElapsed elapsed).2 (other.stepElapsed otherElapsed).2 := by
  cases status : machine.status with
  | halted fault =>
    rw [Machine.stepElapsed_of_halted elapsed status,
      Machine.stepElapsed_of_halted otherElapsed (agree.status ▸ status)]
    exact ⟨rfl, agree⟩
  | awaitingKey x =>
    have differs : source ≠ .keys := by
      rintro rfl
      exact fits x status
    exact (agree.resumeKeyWait differs x).stepElapsed_of_acts fits (.waited status)
      (.waited (agree.status ▸ status)) permitted
  | running =>
    have runningToo : other.status = .running := agree.status ▸ status
    have alike : source.Alike machine.fetch.dispatch other.fetch.dispatch := by
      apply agree.fetch.dispatch
      intro instruction decoded
      apply unread
      rw [Machine.nextInstruction?, status]
      exact decoded
    cases dispatched : machine.fetch.dispatch with
    | error fault =>
      cases dispatchedToo : other.fetch.dispatch with
      | error otherFault =>
        rw [dispatched, dispatchedToo] at alike
        rw [Machine.stepElapsed_of_error elapsed status dispatched,
          Machine.stepElapsed_of_error otherElapsed runningToo dispatchedToo,
          show fault = otherFault from alike]
        refine ⟨rfl, ?_⟩
        apply agree.map fun machine => { machine.fetch with status := .halted otherFault }
        intro machine
        cases source
        all_goals rfl
      | ok otherAfter =>
        rw [dispatched, dispatchedToo] at alike
        exact alike.elim
    | ok after =>
      cases dispatchedToo : other.fetch.dispatch with
      | error otherFault =>
        rw [dispatched, dispatchedToo] at alike
        exact alike.elim
      | ok otherAfter =>
        rw [dispatched, dispatchedToo] at alike
        exact Agree.stepElapsed_of_acts alike fits (.executed status dispatched)
          (.executed runningToo dispatchedToo) permitted

/-- Runs that differ in one source alone, and of which the first reads it by no instruction,
give the same results step by step, and after every step they agree on all that does not belong
to the source. -/
theorem runs_agree_unless_read (source : Source) {machine other : Machine}
    {elapsed otherElapsed : Nat → Nat} {count : Nat} (agree : source.Agree machine other)
    (fits : source.Fits machine other)
    (permitted : ∀ earlier, earlier < count →
      source.Permits (elapsed earlier) (otherElapsed earlier))
    (unread : ∀ earlier, earlier < count →
      ∀ instruction ∈ (machine.run elapsed earlier).nextInstruction?,
        source.reads instruction = false) :
    (∀ step, step < count → machine.outcome elapsed step = other.outcome otherElapsed step) ∧
      ∀ step, step ≤ count →
        source.Agree (machine.run elapsed step) (other.run otherElapsed step) := by
  have related : ∀ step, step ≤ count →
      source.Agree (machine.run elapsed step) (other.run otherElapsed step) ∧
        source.Fits (machine.run elapsed step) (other.run otherElapsed step) := by
    intro step reached
    induction step with
    | zero => exact ⟨agree, fits⟩
    | succ step ih =>
      obtain ⟨agreed, fitted⟩ := ih (Nat.le_of_succ_le reached)
      exact ⟨(agreed.stepElapsed fitted (unread step reached) (permitted step reached)).2,
        fitted.stepElapsed (unread step reached) _ _⟩
  constructor
  · intro step before
    obtain ⟨agreed, fitted⟩ := related step (Nat.le_of_lt before)
    exact (agreed.stepElapsed fitted (unread step before) (permitted step before)).1
  · intro step reached
    exact (related step reached).1

/-- A machine that reads the delay timer over and over while its keys change. -/
def polling : Machine :=
  { Machine.new .standard (.ofScript [.ofNumbers [5], .none]) (.ofSeed 0) with
    memory := .image [0xF0, 0x07, 0x12, 0x00] (by decide) }

def pollingAlone : Machine :=
  { polling with keypad := ⟨.ofNumbers [1], .none⟩, feed := .silent }

theorem runs_agree_unless_read_polling :
    (∀ earlier, earlier < 4 →
      ∀ instruction ∈ (polling.run (fun _ => polling.stepTime) earlier).nextInstruction?,
        keys.reads instruction = false) ∧
      keys.Agree (polling.run (fun _ => polling.stepTime) 4)
        (pollingAlone.run (fun _ => polling.stepTime) 4) := by
  have agree : keys.Agree polling pollingAlone := blank_eq_iff.mp rfl
  have unread : ∀ earlier, earlier < 4 →
      ∀ instruction ∈ (polling.run (fun _ => polling.stepTime) earlier).nextInstruction?,
        keys.reads instruction = false := by decide +kernel
  exact ⟨unread,
    (runs_agree_unless_read keys agree nofun (fun _ _ => rfl) unread).2 4 (Nat.le_refl 4)⟩

end Source
end Chip8
