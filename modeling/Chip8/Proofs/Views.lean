import Chip8.Proofs.Sources

namespace Chip8

/-- The part of a machine that programs compute with. -/
structure Core where
  memory : Memory
  registers : Registers
  screen : Screen
  generator : Random.Generator
  deriving DecidableEq

def Machine.core (machine : Machine) : Core where
  memory := machine.memory
  registers := machine.registers
  screen := machine.screen
  generator := machine.generator

/-- A machine with nothing but a core. -/
def Core.alone (core : Core) : Machine :=
  { Machine.new .standard .silent core.generator with
    memory := core.memory
    registers := core.registers
    screen := core.screen
    generator := core.generator }

/-- What is kept track of: the core, or all that is determined without a clock and random bytes
and does not depend on what has been delivered to the display. -/
inductive View where
  | core
  | scene
  deriving DecidableEq, Repr

namespace View

/-- A machine with all that a view leaves out put aside. -/
def keep : View → Machine → Machine
  | .core, machine => machine.core.alone
  | .scene, machine =>
    { machine with
      timers := .new
      schedule := .ofRate Machine.timerRate
      speaker := .new
      generator := .ofSeed 0
      screen := ⟨machine.screen.frame, false⟩
      display := .new }

/-- The instructions that read nothing outside of a view. -/
def Admits : View → Instruction → Prop
  | .core, instruction =>
    Source.keys.reads instruction = false ∧ Source.time.reads instruction = false
  | .scene, instruction =>
    Source.time.reads instruction = false ∧ Source.randomness.reads instruction = false

instance (view : View) (instruction : Instruction) : Decidable (view.Admits instruction) :=
  match view with
  | .core => inferInstanceAs (Decidable (_ ∧ _))
  | .scene => inferInstanceAs (Decidable (_ ∧ _))

variable {view : View} {machine other : Machine}

theorem keep_core_iff :
    View.core.keep machine = View.core.keep other ↔ machine.core = other.core :=
  ⟨congrArg Machine.core, congrArg Core.alone⟩

theorem keep_skipIf (view : View) (machine : Machine) (condition : Bool) :
    view.keep (machine.skipIf condition) = view.keep ((view.keep machine).skipIf condition) := by
  cases view
  all_goals
    cases condition
    · rfl
    · rfl

theorem keep_loadTo (view : View) (machine : Machine) (x : Register) :
    view.keep (machine.loadTo x).proceed = view.keep ((view.keep machine).loadTo x).proceed := by
  cases view
  all_goals
    simp only [keep, Core.alone, Machine.core, Machine.loadTo, Machine.proceed, Machine.goto,
      Machine.v]

theorem keep_execute (machine : Machine) {instruction : Instruction}
    (admitted : view.Admits instruction) :
    (machine.execute instruction).map view.keep =
      ((view.keep machine).execute instruction).map view.keep := by
  cases instruction
  case skipIfPressed | skipUnlessPressed =>
    cases view
    case core => cases admitted.1
    case scene => exact congrArg Except.ok (keep_skipIf _ machine _)
  case awaitKey =>
    cases view
    case core => cases admitted.1
    case scene => rfl
  case getDelay =>
    cases view
    case core => cases admitted.2
    case scene => cases admitted.1
  case random =>
    cases view
    case core => rfl
    case scene => cases admitted.2
  case skipIfConst | skipUnlessConst | skipIfSame | skipUnlessSame =>
    cases view
    all_goals exact congrArg Except.ok (keep_skipIf _ machine _)
  case loadRegisters x => exact congrArg Except.ok (keep_loadTo view machine x)
  case ret =>
    cases view
    all_goals
      simp only [Machine.execute, keep, Core.alone, Machine.core]
      cases machine.registers.stack.pop machine.registers.pc
      · rfl
      · rfl
  case call =>
    cases view
    all_goals
      simp only [Machine.execute, keep, Core.alone, Machine.core]
      cases machine.registers.stack.push (machine.registers.pc.advance 2) machine.registers.pc
      · rfl
      · rfl
  all_goals
    cases view
    all_goals rfl

/-- An instruction fails alike, or has the same effect on what a view keeps, on machines of which
the same is kept. -/
theorem keep_execute_congr (same : view.keep machine = view.keep other) {instruction : Instruction}
    (admitted : view.Admits instruction) :
    (machine.execute instruction).map view.keep = (other.execute instruction).map view.keep := by
  rw [keep_execute machine admitted, same, ← keep_execute other admitted]

/-- Two attempts that come to the same: they fail alike, or succeed with the same being kept. -/
theorem eq_of_keep_map {first second : Except Fault Machine}
    (same : first.map view.keep = second.map view.keep) :
    (∃ fault, first = .error fault ∧ second = .error fault) ∨
      ∃ after otherAfter, first = .ok after ∧ second = .ok otherAfter ∧
        view.keep after = view.keep otherAfter := by
  cases first with
  | error fault =>
    cases second with
    | error otherFault =>
      cases same
      exact Or.inl ⟨fault, rfl, rfl⟩
    | ok otherAfter => cases same
  | ok after =>
    cases second with
    | error otherFault => cases same
    | ok otherAfter => exact Or.inr ⟨after, otherAfter, rfl, rfl, Except.ok.inj same⟩

end View
end Chip8
