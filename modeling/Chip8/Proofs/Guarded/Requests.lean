import Chip8.Proofs.Guarded.Step
import Chip8.Proofs.Invariants

namespace Chip8.Guarded

/-- The period of a schedule with the given number of periods per second, at least one. -/
def periodOf (hertz : Nat) : Option Nat := divide nanosPerSecond (max hertz 1)

def fontOnly : Option (List UInt8) := copyTo (List.replicate 4096 0) 0 font.length font

namespace State

/-- A machine at rest, unless the clock speed is refused. -/
def start (hertz : Nat) (feed : KeyFeed) (generator : Random.Generator) :
    Option (Except ClockError State) :=
  if hertz = 0 then some (.error .zero)
  else if ClockSpeed.limit < hertz then some (.error (.tooHigh hertz ClockSpeed.limit))
  else do
    let memory ← fontOnly
    let period ← periodOf Machine.timerRate
    let stepTime ← divide nanosPerSecond hertz
    return .ok {
      memory := memory
      v := List.replicate 16 0
      index := 0
      pc := programStart
      slots := List.replicate 16 0
      depth := 0
      timers := .new
      held := List.replicate 16 false
      fresh := List.replicate 16 false
      cells := List.replicate 2048 0
      needsRedraw := false
      opcode := ⟨0⟩
      status := .running
      period := period
      pending := 0
      stepTime := stepTime
      generator := generator
      feed := feed
      shown := List.replicate 2048 0
      delivered := 0
      speaker := .new }

/-- Put a program into memory and start from scratch, unless it is too large. -/
def load (state : State) (program : Program) : Option (Except RomError State) :=
  if programCapacity < program.length then
    some (.error (.tooLarge program.length programCapacity))
  else do
    let stop ← add indexLimit programStart.toNat program.length
    let memory ← copyTo (← fontOnly) programStart.toNat stop program
    let period ← periodOf Machine.timerRate
    let silenced := { state with timers := state.timers.setDelay 0 }.setSound 0
    return .ok { silenced with
      memory := memory
      v := List.replicate 16 0
      index := 0
      pc := programStart
      slots := List.replicate 16 0
      depth := 0
      period := period
      pending := 0
      cells := List.replicate 2048 0
      needsRedraw := true
      opcode := ⟨0⟩
      status := .running }

/-- Deliver the screen to the display if it needs to be shown. The display counts its frames on its
own account, so this sum has no guard; it is at most the number of requests. -/
def render (state : State) : State :=
  if state.needsRedraw then
    { state with needsRedraw := false, shown := state.cells, delivered := state.delivered + 1 }
  else state

def executeMany (state : State) : List Instruction → Option (Except Fault Unit × State)
  | [] => some (.ok (), state)
  | instruction :: rest => do
    match ← state.execute instruction with
    | .error fault => return (.error fault, state)
    | .ok after => after.executeMany rest

def answerStep (state : State) (elapsed : Nat) : Option (Reply × State) := do
  match ← state.stepElapsed elapsed with
  | (.ok report, after) => return (.stepped report, after)
  | (.error fault, after) => return (.failed (.fault fault), after)

def perform (state : State) : Operation → Option (Reply × State)
  | .load program => do
    match ← state.load program with
    | .error error => return (.rejected error, state)
    | .ok after => return (.done, after)
  | .seed seed => some (.done, { state with generator := .ofSeed seed })
  | .step => state.answerStep state.stepTime
  | .stepElapsed elapsed => state.answerStep elapsed
  | .tickTimers => do return (.done, ← state.tickTimers)
  | .render => some (.done, state.render)
  | .execute instruction => do
    match ← state.execute instruction with
    | .error fault => return (.failed (.fault fault), state)
    | .ok after => return (.done, after)
  | .executeMany instructions => do
    match ← state.executeMany instructions with
    | (.error fault, after) => return (.failed (.fault fault), after)
    | (.ok (), after) => return (.done, after)

def performAll (state : State) : List Operation → Option (List Reply × State)
  | [] => some ([], state)
  | operation :: rest => do
    let (reply, after) ← state.perform operation
    let (replies, last) ← after.performAll rest
    return (reply :: replies, last)

end State

theorem periodOf_eq (hertz : Nat) : periodOf hertz = some (Schedule.ofRate hertz).period :=
  divide_of_ne (Nat.ne_of_gt (Nat.le_max_right hertz 1))

theorem fontOnly_eq : fontOnly = some (font ++ List.replicate 4016 0) := by
  rw [fontOnly, copyTo, if_pos (by rw [List.length_replicate]; decide), List.take_zero,
    List.drop_replicate]
  rfl

theorem cells_new : Memory.new.cells.toList = font ++ List.replicate 4016 0 := by
  change font ++ List.replicate 432 0 ++ [] ++ List.replicate 3584 0 = _
  rw [List.append_nil, List.append_assoc, List.replicate_append_replicate]

theorem copyTo_image (program : Program) (fits : program.length ≤ programCapacity) :
    copyTo (font ++ List.replicate 4016 0) 512 (512 + program.length) program =
      some (Memory.image program fits).cells.toList := by
  have glyphs : font.length = 80 := rfl
  have room : program.length ≤ 3584 := fits
  have inside : 512 + program.length ≤ (font ++ List.replicate 4016 (0 : UInt8)).length := by
    rw [List.length_append, glyphs, List.length_replicate]
    omega
  have before : (font ++ List.replicate 4016 0).take 512 = font ++ List.replicate 432 0 := by
    rw [List.take_append, glyphs, List.take_of_length_le (by rw [glyphs]; decide),
      List.take_replicate]
    rfl
  have behind : (font ++ List.replicate 4016 0).drop (512 + program.length) =
      List.replicate (3584 - program.length) 0 := by
    rw [List.drop_append, glyphs, List.drop_of_length_le (by rw [glyphs]; omega), List.nil_append,
      List.drop_replicate]
    congr 1
    omega
  rw [copyTo, if_pos ⟨Nat.le_add_right _ _, inside, by omega⟩, before, behind]
  rfl

namespace State

/-- A machine starts with every accepted clock speed. -/
theorem start_of (hertz : Nat) (feed : KeyFeed) (generator : Random.Generator) :
    start hertz feed generator =
      some ((ClockSpeed.ofHertz hertz).map fun speed => of (.new speed feed generator)) := by
  by_cases zero : hertz = 0
  · rw [start, if_pos zero, ClockSpeed.ofHertz, dif_pos zero]
    rfl
  · by_cases high : ClockSpeed.limit < hertz
    · rw [start, if_neg zero, if_pos high, ClockSpeed.ofHertz, dif_neg zero, dif_pos high]
      rfl
    · rw [start, if_neg zero, if_neg high, ClockSpeed.ofHertz, dif_neg zero, dif_neg high,
        fontOnly_eq, periodOf_eq, divide_of_ne zero, ← cells_new, ← cellsOf_blank]
      rfl

variable (machine : Machine)

theorem load_of (program : Program) :
    (of machine).load program = some ((machine.load program).map of) := by
  by_cases fits : program.length ≤ programCapacity
  · have room : program.length ≤ 3584 := fits
    have image : copyTo (font ++ List.replicate 4016 0) programStart.toNat
        (programStart.toNat + program.length) program = some _ := copyTo_image program fits
    have stop : programStart.toNat + program.length < indexLimit := by
      change 512 + program.length < 4294967296
      omega
    rw [load, if_neg (Nat.not_lt_of_le fits), fontOnly_eq, periodOf_eq, add_of_lt stop]
    simp only [Option.bind_eq_bind, Option.bind_some, image]
    rw [Machine.load, Memory.load, dif_pos fits, ← cellsOf_blank]
    rfl
  · rw [load, if_pos (Nat.lt_of_not_le fits), Machine.load, Memory.load, dif_neg fits]
    rfl

theorem render_of : (of machine).render = of machine.render := by
  have redraw : (of machine).needsRedraw = machine.screen.needsRedraw := rfl
  rw [render, redraw, Machine.render, Screen.takeRedraw]
  cases shown : machine.screen.needsRedraw with
  | true => rfl
  | false =>
    have same : (⟨machine.screen.frame, false⟩ : Screen) = machine.screen := by rw [← shown]
    simp only [same]
    rfl

theorem executeMany_of (instructions : List Instruction) :
    (of machine).executeMany instructions =
      some ((machine.executeMany instructions).1, of (machine.executeMany instructions).2) := by
  induction instructions generalizing machine with
  | nil => rfl
  | cons instruction rest ih =>
    rw [executeMany, execute_of, Machine.executeMany]
    cases executed : machine.execute instruction with
    | error fault => rfl
    | ok after => exact ih after

/-- A step is answered with its report or its fault, never with a time too long to count. -/
theorem answerStep_of {elapsed : Nat} (regular : machine.schedule.Regular)
    (tolerable : elapsed < Schedule.tolerance) :
    (of machine).answerStep elapsed =
        some ((machine.perform (.stepElapsed elapsed)).1,
          of (machine.perform (.stepElapsed elapsed)).2) ∧
      ∀ cause, (machine.perform (.stepElapsed elapsed)).1 ≠ .failed (.overrun cause) := by
  obtain ⟨result, after, stepped, guarded⟩ := stepElapsed_of machine regular tolerable
  simp only [answerStep, Machine.perform, guarded, stepped]
  cases result with
  | ok report => exact ⟨rfl, by rintro _ ⟨⟩⟩
  | error fault => exact ⟨rfl, by rintro _ ⟨⟩⟩

/-- A request whose time can be tolerated passes its guards; it has the answer and the effect
that the machine gives it, and the answer is no time too long to count. -/
theorem perform_of {operation : Operation} (steady : machine.Steady)
    (tolerable : operation.Tolerable) :
    (of machine).perform operation =
        some ((machine.perform operation).1, of (machine.perform operation).2) ∧
      ∀ cause, (machine.perform operation).1 ≠ .failed (.overrun cause) := by
  cases operation with
  | load program =>
    rw [perform, load_of, Machine.perform]
    cases machine.load program with
    | error error => exact ⟨rfl, by rintro _ ⟨⟩⟩
    | ok after => exact ⟨rfl, by rintro _ ⟨⟩⟩
  | seed seed => exact ⟨rfl, by rintro _ ⟨⟩⟩
  | step => exact answerStep_of machine steady.regular steady.stepTime_lt
  | stepElapsed elapsed => exact answerStep_of machine steady.regular tolerable
  | tickTimers =>
    rw [perform, tickTimers_of]
    exact ⟨rfl, by rintro _ ⟨⟩⟩
  | render =>
    rw [perform, render_of]
    exact ⟨rfl, by rintro _ ⟨⟩⟩
  | execute instruction =>
    rw [perform, execute_of, Machine.perform]
    cases machine.execute instruction with
    | error fault => exact ⟨rfl, by rintro _ ⟨⟩⟩
    | ok after => exact ⟨rfl, by rintro _ ⟨⟩⟩
  | executeMany instructions =>
    rw [perform, executeMany_of, Machine.perform]
    cases machine.executeMany instructions with
    | mk result after =>
      cases result with
      | error fault => exact ⟨rfl, by rintro _ ⟨⟩⟩
      | ok _ => exact ⟨rfl, by rintro _ ⟨⟩⟩

theorem performAll_of {operations : List Operation} (steady : machine.Steady)
    (tolerable : ∀ operation ∈ operations, operation.Tolerable) :
    (of machine).performAll operations =
        some ((machine.performAll operations).1, of (machine.performAll operations).2) ∧
      ∀ cause, .failed (.overrun cause) ∉ (machine.performAll operations).1 := by
  induction operations generalizing machine with
  | nil => exact ⟨rfl, by rintro _ ⟨⟩⟩
  | cons operation rest ih =>
    obtain ⟨performed, timely⟩ := perform_of machine steady (tolerable _ List.mem_cons_self)
    have next : (machine.perform operation).2.Steady :=
      Machine.steady_preserved.perform (fun _ _ => trivial) steady
    obtain ⟨last, later⟩ := ih (machine.perform operation).2 next fun other member =>
      tolerable other (List.mem_cons_of_mem _ member)
    constructor
    · rw [performAll, performed]
      simp only [Option.bind_eq_bind, Option.bind_some, last]
      rfl
    · intro cause member
      rcases List.mem_cons.mp member with here | there
      · exact timely cause here.symm
      · exact later cause there

end State
end Chip8.Guarded
