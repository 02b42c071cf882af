import Chip8.Machine.Step

namespace Chip8.Machine

theorem skipIf_eq_goto (machine : Machine) (condition : Bool) :
    machine.skipIf condition =
      machine.goto (if condition then (machine.registers.pc.advance 2).advance 2
        else machine.registers.pc.advance 2) := by
  cases condition with
  | false => rfl
  | true => rfl

theorem tickTimersFor_frame (machine : Machine) (count : Nat) :
    ∃ timers speaker,
      machine.tickTimersFor count = { machine with timers := timers, speaker := speaker } := by
  induction count generalizing machine with
  | zero => exact ⟨machine.timers, machine.speaker, rfl⟩
  | succ count ih =>
    obtain ⟨timers, speaker, counted⟩ := ih machine.tickTimers
    exact ⟨timers, speaker, by rw [tickTimersFor_succ, counted]; rfl⟩

theorem settle_of_error {machine : Machine} {elapsed : Nat} {cause : Overrun}
    (overrun : machine.schedule.advance elapsed = .error cause) :
    machine.settle elapsed = (.error (.overrun cause), machine.sampleKeys) := by
  have late : machine.sampleKeys.catchUp elapsed = .error cause := by
    rw [catchUp, show machine.sampleKeys.schedule = machine.schedule from rfl, overrun]
  rw [settle, late]

theorem settle_of_ok {machine : Machine} {elapsed due : Nat} {schedule : Schedule}
    (advanced : machine.schedule.advance elapsed = .ok (due, schedule)) :
    machine.settle elapsed =
      (.ok ⟨machine.screen.needsRedraw⟩,
        { machine.sampleKeys with schedule := schedule }.tickTimersFor due) := by
  have timely : machine.sampleKeys.catchUp elapsed =
      .ok ({ machine.sampleKeys with schedule := schedule }.tickTimersFor due) := by
    rw [catchUp, show machine.sampleKeys.schedule = machine.schedule from rfl, advanced]
  obtain ⟨timers, speaker, counted⟩ :=
    tickTimersFor_frame { machine.sampleKeys with schedule := schedule } due
  rw [settle, timely, counted]
  rfl

/-- After its instruction a step samples the keys; else it touches only what follows the time. -/
theorem settle_frame (machine : Machine) (elapsed : Nat) :
    ∃ timers schedule speaker,
      (machine.settle elapsed).2 =
        { machine with
          keypad := machine.keypad.update machine.feed.poll.1
          feed := machine.feed.poll.2
          timers := timers
          schedule := schedule
          speaker := speaker } := by
  cases advanced : machine.schedule.advance elapsed with
  | error cause =>
    rw [settle_of_error advanced]
    exact ⟨machine.timers, machine.schedule, machine.speaker, rfl⟩
  | ok pair =>
    obtain ⟨due, schedule⟩ := pair
    obtain ⟨timers, speaker, counted⟩ :=
      tickTimersFor_frame { machine.sampleKeys with schedule := schedule } due
    rw [settle_of_ok advanced, counted]
    exact ⟨timers, schedule, speaker, rfl⟩

/-- After its instruction a step fails only if the time is too long to count. -/
theorem settle_ne_fault (machine : Machine) (elapsed : Nat) (fault : Fault) :
    (machine.settle elapsed).1 ≠ .error (.fault fault) := by
  cases advanced : machine.schedule.advance elapsed with
  | error cause => simp [settle_of_error advanced]
  | ok pair => simp [settle_of_ok advanced]

/-- The part of a machine that no instruction changes. -/
structure Setting where
  keypad : Keypad
  feed : KeyFeed
  display : Display
  schedule : Schedule
  stepTime : Nat
  opcode : Opcode

def setting (machine : Machine) : Setting where
  keypad := machine.keypad
  feed := machine.feed
  display := machine.display
  schedule := machine.schedule
  stepTime := machine.stepTime
  opcode := machine.opcode

@[simp] theorem setting_setV (machine : Machine) (x : Register) (value : UInt8) :
    (machine.setV x value).setting = machine.setting := rfl

@[simp] theorem setting_setFlag (machine : Machine) (flag : Bool) :
    (machine.setFlag flag).setting = machine.setting := rfl

@[simp] theorem setting_setIndex (machine : Machine) (address : Address) :
    (machine.setIndex address).setting = machine.setting := rfl

@[simp] theorem setting_goto (machine : Machine) (address : Address) :
    (machine.goto address).setting = machine.setting := rfl

@[simp] theorem setting_proceed (machine : Machine) : machine.proceed.setting = machine.setting :=
  rfl

@[simp] theorem setting_skipIf (machine : Machine) (condition : Bool) :
    (machine.skipIf condition).setting = machine.setting := by
  rw [skipIf_eq_goto, setting_goto]

@[simp] theorem setting_setSound (machine : Machine) (value : UInt8) :
    (machine.setSound value).setting = machine.setting := rfl

@[simp] theorem setting_drawSprite (machine : Machine) (x y height : UInt8) :
    (machine.drawSprite x y height).setting = machine.setting := by
  rw [drawSprite, setting_setFlag]
  rfl

@[simp] theorem setting_randomize (machine : Machine) (x : Register) (mask : UInt8) :
    (machine.randomize x mask).setting = machine.setting := by
  rw [randomize, setting_setV]
  rfl

@[simp] theorem setting_store (machine : Machine) (bytes : List UInt8) :
    (machine.store bytes).setting = machine.setting := rfl

@[simp] theorem setting_loadTo (machine : Machine) (x : Register) :
    (machine.loadTo x).setting = machine.setting := by
  simp only [setting, loadTo]

theorem setting_execute {machine after : Machine} {instruction : Instruction}
    (executed : machine.execute instruction = .ok after) : after.setting = machine.setting := by
  cases instruction
  case ret =>
    simp only [execute] at executed
    split at executed
    · cases executed
    · cases executed
      rfl
  case call =>
    simp only [execute] at executed
    split at executed
    · cases executed
    · cases executed
      rfl
  case awaitKey => cases executed; rfl
  case setDelay => cases executed; rfl
  case clearScreen => cases executed; rfl
  all_goals
    simp only [execute, Except.ok.injEq] at executed
    subst executed
    simp [setWithFlag]

/-- What a machine that is not halted does first in a step, unless its instruction fails. -/
inductive Acts (machine : Machine) : Machine → Prop where
  | executed {after : Machine} (running : machine.status = .running)
      (dispatched : machine.fetch.dispatch = .ok after) : Acts machine after
  | waited {x : Register} (waiting : machine.status = .awaitingKey x) :
      Acts machine (machine.resumeKeyWait x)

theorem resumeKeyWait_of_none {machine : Machine} {x : Register}
    (silent : machine.keypad.firstFresh? = none) : machine.resumeKeyWait x = machine := by
  rw [resumeKeyWait, silent]

theorem resumeKeyWait_of_some {machine : Machine} {x : Register} {key : Key}
    (pressed : machine.keypad.firstFresh? = some key) :
    machine.resumeKeyWait x =
      { (machine.setV x (UInt8.ofNat key.val)).proceed with
        keypad := machine.keypad.takePress (UInt8.ofNat key.val)
        status := .running } := by
  rw [resumeKeyWait, pressed]

/-- A key wait touches the general registers, the program counter, the fresh presses and the
status only. -/
theorem resumeKeyWait_frame (machine : Machine) (x : Register) :
    ∃ v pc fresh status,
      machine.resumeKeyWait x =
        { machine with
          registers := { machine.registers with v := v, pc := pc }
          keypad := { machine.keypad with fresh := fresh }
          status := status } := by
  cases pressed : machine.keypad.firstFresh? with
  | none =>
    rw [resumeKeyWait_of_none pressed]
    exact ⟨_, _, _, _, rfl⟩
  | some key =>
    rw [resumeKeyWait_of_some pressed]
    exact ⟨_, _, _, _, rfl⟩

/-- What a machine has kept of another: all that only the later part of a step changes. -/
structure Keeps (machine after : Machine) : Prop where
  held : after.keypad.held = machine.keypad.held
  feed : after.feed = machine.feed
  schedule : after.schedule = machine.schedule
  stepTime : after.stepTime = machine.stepTime
  display : after.display = machine.display

theorem Acts.keeps {machine acted : Machine} (acts : machine.Acts acted) :
    machine.Keeps acted := by
  cases acts with
  | executed running dispatched =>
    rw [dispatch] at dispatched
    split at dispatched
    · cases dispatched
    · obtain ⟨keypad, feed, display, schedule, stepTime, -⟩ :=
        Setting.mk.inj (setting_execute dispatched)
      exact ⟨congrArg Keypad.held keypad, feed, schedule, stepTime, display⟩
  | @waited x waiting =>
    obtain ⟨v, pc, fresh, status, resumed⟩ := resumeKeyWait_frame machine x
    rw [resumed]
    exact ⟨rfl, rfl, rfl, rfl, rfl⟩

theorem stepElapsed_of_halted {machine : Machine} {fault : Fault} (elapsed : Nat)
    (halted : machine.status = .halted fault) :
    machine.stepElapsed elapsed = (.error (.fault fault), machine) := by
  rw [stepElapsed, halted]

theorem stepElapsed_of_error {machine : Machine} {fault : Fault} (elapsed : Nat)
    (running : machine.status = .running) (failed : machine.fetch.dispatch = .error fault) :
    machine.stepElapsed elapsed =
      (.error (.fault fault), { machine.fetch with status := .halted fault }) := by
  rw [stepElapsed, running]
  simp only [failed]

theorem stepElapsed_of_acts {machine acted : Machine} (elapsed : Nat)
    (acts : machine.Acts acted) : machine.stepElapsed elapsed = acted.settle elapsed := by
  cases acts with
  | executed running dispatched =>
    rw [stepElapsed, running]
    simp only [dispatched]
  | waited waiting => rw [stepElapsed, waiting]

/-- A step repeats the fault of a halted machine, or halts with the fault of its instruction,
or acts and then settles. -/
theorem stepElapsed_cases (machine : Machine) (elapsed : Nat) :
    (∃ fault, machine.status = .halted fault ∧
      machine.stepElapsed elapsed = (.error (.fault fault), machine)) ∨
    (∃ fault, machine.status = .running ∧ machine.fetch.dispatch = .error fault ∧
      machine.stepElapsed elapsed =
        (.error (.fault fault), { machine.fetch with status := .halted fault })) ∨
    ∃ acted, machine.Acts acted ∧ machine.stepElapsed elapsed = acted.settle elapsed := by
  cases status : machine.status with
  | halted fault => exact Or.inl ⟨fault, rfl, stepElapsed_of_halted elapsed status⟩
  | awaitingKey x =>
    exact Or.inr (Or.inr ⟨_, .waited status, stepElapsed_of_acts elapsed (.waited status)⟩)
  | running =>
    cases dispatched : machine.fetch.dispatch with
    | error fault =>
      exact Or.inr (Or.inl ⟨fault, rfl, rfl, stepElapsed_of_error elapsed status dispatched⟩)
    | ok after =>
      have acts : machine.Acts after := .executed status dispatched
      exact Or.inr (Or.inr ⟨after, acts, stepElapsed_of_acts elapsed acts⟩)

end Chip8.Machine
