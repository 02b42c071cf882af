import Chip8.Machine.Operation
import Chip8.Proofs.Stepping

namespace Chip8.Machine

/-- The machines passed through when the timers count down a number of times. -/
def tickStages (machine : Machine) : Nat → List Machine
  | 0 => []
  | count + 1 => machine.tickTimers :: machine.tickTimers.tickStages count

/-- The machines passed through by a step after its instruction. -/
def settleStages (machine : Machine) (elapsed : Nat) : List Machine :=
  machine.sampleKeys ::
    match machine.schedule.advance elapsed with
    | .error _ => []
    | .ok (due, schedule) =>
      let scheduled := { machine.sampleKeys with schedule := schedule }
      scheduled :: scheduled.tickStages due

def stepStages (machine : Machine) (elapsed : Nat) : List Machine :=
  match machine.status with
  | .halted _ => []
  | .awaitingKey x => machine.resumeKeyWait x :: (machine.resumeKeyWait x).settleStages elapsed
  | .running =>
    machine.fetch ::
      match machine.fetch.dispatch with
      | .error fault => [{ machine.fetch with status := .halted fault }]
      | .ok executed => executed :: executed.settleStages elapsed

/-- The machines passed through when instructions are executed by hand. -/
def executeStages (machine : Machine) : List Instruction → List Machine
  | [] => []
  | instruction :: rest =>
    match machine.execute instruction with
    | .error _ => []
    | .ok after => after :: after.executeStages rest

/-- The machines passed through by a request, each one change after the one before. -/
def stages (machine : Machine) : Operation → List Machine
  | .load program =>
    match machine.load program with
    | .error _ => []
    | .ok after => [after]
  | .seed seed => [machine.seed seed]
  | .step => machine.stepStages machine.stepTime
  | .stepElapsed elapsed => machine.stepStages elapsed
  | .tickTimers => [machine.tickTimers]
  | .render => [machine.render]
  | .execute instruction => machine.executeStages [instruction]
  | .executeMany instructions => machine.executeStages instructions

def allStages (machine : Machine) : List Operation → List Machine
  | [] => []
  | operation :: rest => machine.stages operation ++ (machine.perform operation).2.allStages rest

/-- From one machine to another through those listed, each related by the rule to the one
before. -/
inductive Passes (rule : Machine → Machine → Prop) :
    Machine → List Machine → Machine → Prop where
  | stay (machine : Machine) : Passes rule machine [] machine
  | change {before next after : Machine} {rest : List Machine} (obeys : rule before next)
      (onward : Passes rule next rest after) : Passes rule before (next :: rest) after

variable {rule : Machine → Machine → Prop}

theorem Passes.one {before after : Machine} (obeys : rule before after) :
    Passes rule before [after] after :=
  .change obeys (.stay after)

theorem Passes.append {before between after : Machine} {first second : List Machine}
    (passed : Passes rule before first between) (onward : Passes rule between second after) :
    Passes rule before (first ++ second) after := by
  induction passed with
  | stay machine => exact onward
  | change obeys _ ih => exact .change obeys (ih onward)

theorem Passes.preserves {property : Machine → Prop} {before after : Machine}
    {stages : List Machine} (passed : Passes rule before stages after)
    (step : ∀ {machine next}, rule machine next → property machine → property next)
    (holds : property before) : property after := by
  induction passed with
  | stay machine => exact holds
  | change obeys _ ih => exact ih (step obeys holds)

/-- A rule that every single change obeys. -/
structure Obeyed (rule : Machine → Machine → Prop) : Prop where
  load : ∀ {machine after program}, machine.load program = .ok after → rule machine after
  seed : ∀ machine seed, rule machine (machine.seed seed)
  fetch : ∀ machine, rule machine machine.fetch
  execute : ∀ {machine after instruction}, machine.execute instruction = .ok after →
    rule machine after
  halt : ∀ machine fault, rule machine { machine with status := .halted fault }
  resumeKeyWait : ∀ machine x, rule machine (machine.resumeKeyWait x)
  sampleKeys : ∀ machine, rule machine machine.sampleKeys
  schedule : ∀ machine schedule, rule machine { machine with schedule := schedule }
  tickTimers : ∀ machine, rule machine machine.tickTimers
  render : ∀ machine, rule machine machine.render

namespace Obeyed

theorem tickStages (obeyed : Obeyed rule) (machine : Machine) (count : Nat) :
    Passes rule machine (machine.tickStages count) (machine.tickTimersFor count) := by
  induction count generalizing machine with
  | zero => exact .stay machine
  | succ count ih =>
    rw [tickTimersFor_succ]
    exact .change (obeyed.tickTimers machine) (ih machine.tickTimers)

theorem settleStages (obeyed : Obeyed rule) (machine : Machine) (elapsed : Nat) :
    Passes rule machine (machine.settleStages elapsed) (machine.settle elapsed).2 := by
  rw [Machine.settleStages]
  cases advanced : machine.schedule.advance elapsed with
  | error cause =>
    rw [settle_of_error advanced]
    exact .one (obeyed.sampleKeys machine)
  | ok pair =>
    rw [settle_of_ok advanced]
    exact .change (obeyed.sampleKeys machine)
      (.change (obeyed.schedule machine.sampleKeys pair.2) (obeyed.tickStages _ pair.1))

theorem dispatch (obeyed : Obeyed rule) {machine after : Machine}
    (dispatched : machine.dispatch = .ok after) : rule machine after := by
  rw [Machine.dispatch] at dispatched
  split at dispatched
  · cases dispatched
  · exact obeyed.execute dispatched

theorem stepStages (obeyed : Obeyed rule) (machine : Machine) (elapsed : Nat) :
    Passes rule machine (machine.stepStages elapsed) (machine.stepElapsed elapsed).2 := by
  rw [Machine.stepStages]
  cases status : machine.status with
  | halted fault =>
    rw [stepElapsed_of_halted elapsed status]
    exact .stay machine
  | awaitingKey x =>
    rw [stepElapsed_of_acts elapsed (.waited status)]
    exact .change (obeyed.resumeKeyWait machine x) (obeyed.settleStages _ elapsed)
  | running =>
    cases dispatched : machine.fetch.dispatch with
    | error fault =>
      rw [stepElapsed_of_error elapsed status dispatched]
      exact .change (obeyed.fetch machine) (.one (obeyed.halt machine.fetch fault))
    | ok executed =>
      rw [stepElapsed_of_acts elapsed (.executed status dispatched)]
      exact .change (obeyed.fetch machine)
        (.change (obeyed.dispatch dispatched) (obeyed.settleStages executed elapsed))

theorem executeStages (obeyed : Obeyed rule) (machine : Machine)
    (instructions : List Instruction) :
    Passes rule machine (machine.executeStages instructions)
      (machine.executeMany instructions).2 := by
  induction instructions generalizing machine with
  | nil => exact .stay machine
  | cons instruction rest ih =>
    rw [Machine.executeStages, executeMany]
    cases executed : machine.execute instruction with
    | error fault => exact .stay machine
    | ok after => exact .change (obeyed.execute executed) (ih after)

theorem stages (obeyed : Obeyed rule) (machine : Machine) (operation : Operation) :
    Passes rule machine (machine.stages operation) (machine.perform operation).2 := by
  cases operation with
  | load program =>
    rw [Machine.stages, perform]
    cases loaded : machine.load program with
    | error error => exact .stay machine
    | ok after => exact .one (obeyed.load loaded)
  | seed seed => exact .one (obeyed.seed machine seed)
  | step => exact obeyed.stepStages machine machine.stepTime
  | stepElapsed elapsed => exact obeyed.stepStages machine elapsed
  | tickTimers => exact .one (obeyed.tickTimers machine)
  | render => exact .one (obeyed.render machine)
  | execute instruction =>
    rw [perform_execute]
    exact obeyed.executeStages machine [instruction]
  | executeMany instructions =>
    rw [perform_executeMany]
    exact obeyed.executeStages machine instructions

theorem allStages (obeyed : Obeyed rule) (machine : Machine) (operations : List Operation) :
    Passes rule machine (machine.allStages operations) (machine.performAll operations).2 := by
  induction operations generalizing machine with
  | nil => exact .stay machine
  | cons operation rest ih => exact (obeyed.stages machine operation).append (ih _)

end Obeyed
end Chip8.Machine
