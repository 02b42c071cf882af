import Chip8.Instruction.Encode
import Chip8.Machine.Operation
import Chip8.Proofs.Timing

namespace Chip8

/-- The time of a step can be tolerated. -/
def Operation.Tolerable : Operation → Prop
  | .stepElapsed elapsed => elapsed < Schedule.tolerance
  | _ => True

/-- The instructions that a request executes by hand. -/
def Operation.byHand : Operation → List Instruction
  | .execute instruction => [instruction]
  | .executeMany instructions => instructions
  | _ => []

namespace Machine

theorem render_frame (machine : Machine) :
    ∃ screen display, machine.render = { machine with screen := screen, display := display } ∧
      display.delivered ≤ machine.display.delivered + 1 := by
  rw [render]
  split
  · exact ⟨_, _, rfl, Nat.le_refl _⟩
  · exact ⟨_, machine.display, rfl, Nat.le_succ _⟩

/-- A property of machines that requests preserve; instructions executed by hand do so if they
are permitted. -/
structure Preserved (property : Machine → Prop) (permitted : Instruction → Prop) : Prop where
  load : ∀ {machine after program}, machine.load program = .ok after → property machine →
    property after
  seed : ∀ {machine} seed, property machine → property (machine.seed seed)
  stepElapsed : ∀ {machine} elapsed, property machine → property (machine.stepElapsed elapsed).2
  tickTimers : ∀ {machine}, property machine → property machine.tickTimers
  render : ∀ {machine}, property machine → property machine.render
  execute : ∀ {machine after instruction}, machine.execute instruction = .ok after →
    permitted instruction → property machine → property after

namespace Preserved

variable {property : Machine → Prop} {permitted : Instruction → Prop} {machine : Machine}

theorem executeMany (preserved : Preserved property permitted) {instructions : List Instruction}
    (allowed : ∀ instruction ∈ instructions, permitted instruction) (holds : property machine) :
    property (machine.executeMany instructions).2 := by
  induction instructions generalizing machine with
  | nil => exact holds
  | cons instruction rest ih =>
    rw [Machine.executeMany]
    cases executed : machine.execute instruction with
    | error fault => exact holds
    | ok after =>
      have next := preserved.execute executed (allowed _ List.mem_cons_self) holds
      exact ih (fun other member => allowed other (List.mem_cons_of_mem _ member)) next

theorem perform (preserved : Preserved property permitted) {operation : Operation}
    (allowed : ∀ instruction ∈ operation.byHand, permitted instruction)
    (holds : property machine) : property (machine.perform operation).2 := by
  cases operation with
  | load program =>
    rw [Machine.perform]
    cases loaded : machine.load program with
    | error error => exact holds
    | ok after => exact preserved.load loaded holds
  | seed seed => exact preserved.seed seed holds
  | step => exact preserved.stepElapsed machine.stepTime holds
  | stepElapsed elapsed => exact preserved.stepElapsed elapsed holds
  | tickTimers => exact preserved.tickTimers holds
  | render => exact preserved.render holds
  | execute instruction =>
    rw [Machine.perform]
    cases executed : machine.execute instruction with
    | error fault => exact holds
    | ok after => exact preserved.execute executed (allowed _ List.mem_cons_self) holds
  | executeMany instructions =>
    have last : property (machine.executeMany instructions).2 := preserved.executeMany allowed holds
    rw [Machine.perform]
    cases executed : machine.executeMany instructions with
    | mk result after =>
      rw [executed] at last
      cases result with
      | error fault => exact last
      | ok _ => exact last

theorem performAll (preserved : Preserved property permitted) {operations : List Operation}
    (allowed : ∀ operation ∈ operations,
      ∀ instruction ∈ operation.byHand, permitted instruction)
    (holds : property machine) : property (machine.performAll operations).2 := by
  induction operations generalizing machine with
  | nil => exact holds
  | cons operation rest ih =>
    have next := preserved.perform (allowed _ List.mem_cons_self) holds
    exact ih (fun other member => allowed other (List.mem_cons_of_mem _ member)) next

theorem of_perform
    (holds : ∀ {machine : Machine}, property machine → ∀ operation,
      property (machine.perform operation).2) : Preserved property fun _ => True where
  load {machine _ program} loaded start := by
    have next := holds start (.load program)
    rwa [Machine.perform, loaded] at next
  seed seed start := holds start (.seed seed)
  stepElapsed elapsed start := holds start (.stepElapsed elapsed)
  tickTimers start := holds start .tickTimers
  render start := holds start .render
  execute {machine _ instruction} executed _ start := by
    have next := holds start (.execute instruction)
    rwa [Machine.perform, executed] at next

end Preserved

/-- The clocks can follow every step that takes the time of the clock speed. -/
structure Steady (machine : Machine) : Prop where
  regular : machine.schedule.Regular
  stepTime_lt : machine.stepTime < Schedule.tolerance

theorem steady_new (speed : ClockSpeed) (feed : KeyFeed) (generator : Random.Generator) :
    (new speed feed generator).Steady := by
  refine ⟨Schedule.regular_ofRate, ?_⟩
  have short : nanosPerSecond / speed.hertz ≤ nanosPerSecond := Nat.div_le_self _ _
  exact Nat.lt_of_le_of_lt short (by decide)

/-- A step changes neither the time that a step takes nor the display. -/
theorem stepElapsed_keeps (machine : Machine) (elapsed : Nat) :
    (machine.stepElapsed elapsed).2.stepTime = machine.stepTime ∧
      (machine.stepElapsed elapsed).2.display = machine.display := by
  rcases stepElapsed_cases machine elapsed with
    ⟨fault, -, stepped⟩ | ⟨fault, -, -, stepped⟩ | ⟨acted, acts, stepped⟩
  · rw [stepped]
    exact ⟨rfl, rfl⟩
  · rw [stepped]
    exact ⟨rfl, rfl⟩
  · have kept := acts.keeps
    obtain ⟨timers, schedule, speaker, settled⟩ := settle_frame acted elapsed
    rw [stepped, settled]
    exact ⟨kept.stepTime, kept.display⟩

theorem steady_preserved : Preserved Steady fun _ => True where
  load loaded steady :=
    have restarted := load_restarted loaded
    ⟨restarted.regular, restarted.stepTime.symm ▸ steady.stepTime_lt⟩
  seed _ steady := ⟨steady.regular, steady.stepTime_lt⟩
  stepElapsed {machine} elapsed steady :=
    ⟨regular_stepElapsed steady.regular elapsed,
      (stepElapsed_keeps machine elapsed).1.symm ▸ steady.stepTime_lt⟩
  tickTimers steady := ⟨steady.regular, steady.stepTime_lt⟩
  render {machine} steady := by
    obtain ⟨screen, display, delivered, -⟩ := machine.render_frame
    rw [delivered]
    exact ⟨steady.regular, steady.stepTime_lt⟩
  execute executed _ steady := by
    obtain ⟨-, -, -, schedule, stepTime, -⟩ := Setting.mk.inj (setting_execute executed)
    exact ⟨schedule ▸ steady.regular, stepTime ▸ steady.stepTime_lt⟩

/-- The program counter and the saved addresses lie in memory. -/
structure Confined (machine : Machine) : Prop where
  pc_lt : machine.registers.pc.toNat < 4096
  saved_lt : ∀ saved ∈ machine.registers.stack.toList, saved.toNat < 4096

theorem confined_of_start {machine : Machine} (fresh : machine.registers = .new) :
    machine.Confined := by
  have empty : Registers.new.stack.toList = [] := rfl
  constructor
  · rw [fresh]
    decide
  · rw [fresh, empty]
    nofun

theorem Confined.proceed {machine after : Machine} (confined : machine.Confined)
    (same : after.registers.stack = machine.registers.stack) : after.proceed.Confined where
  pc_lt := Address.advance_lt _ _
  saved_lt := by
    change ∀ saved ∈ after.registers.stack.toList, saved.toNat < 4096
    rw [same]
    exact confined.saved_lt

theorem Confined.skipIf {machine : Machine} (confined : machine.Confined) (condition : Bool) :
    (machine.skipIf condition).Confined := by
  cases condition with
  | false => exact confined.proceed rfl
  | true =>
    change machine.proceed.proceed.Confined
    exact confined.proceed rfl

theorem Confined.execute {machine after : Machine} {instruction : Instruction}
    (confined : machine.Confined) (fits : instruction.Encodable)
    (executed : machine.execute instruction = .ok after) : after.Confined := by
  cases instruction
  case ret =>
    simp only [Machine.execute] at executed
    split at executed
    · cases executed
    · rename_i address stack popped
      cases executed
      have saved := CallStack.toList_pop popped
      have inside := confined.saved_lt
      rw [saved] at inside
      refine ⟨inside address (by simp), ?_⟩
      intro other member
      exact inside other (by simp [member])
  case call target =>
    simp only [Machine.execute] at executed
    split at executed
    · cases executed
    · rename_i stack pushed
      cases executed
      refine ⟨fits, ?_⟩
      intro saved member
      rw [CallStack.toList_push pushed, List.mem_append, List.mem_singleton] at member
      rcases member with member | rfl
      · exact confined.saved_lt saved member
      · exact Address.advance_lt _ _
  case jump target =>
    cases executed
    exact ⟨fits, confined.saved_lt⟩
  case jumpOffset base =>
    cases executed
    exact ⟨Address.advance_lt _ _, confined.saved_lt⟩
  case awaitKey =>
    cases executed
    exact ⟨confined.pc_lt, confined.saved_lt⟩
  case draw x y height =>
    cases executed
    exact confined.proceed rfl
  case loadRegisters x =>
    cases executed
    exact confined.proceed (by simp only [loadTo])
  case skipIfConst | skipUnlessConst | skipIfSame | skipUnlessSame | skipIfPressed
      | skipUnlessPressed =>
    cases executed
    exact confined.skipIf _
  all_goals
    cases executed
    exact confined.proceed rfl

theorem Confined.act {machine acted : Machine} (confined : machine.Confined)
    (acts : machine.Acts acted) : acted.Confined := by
  cases acts with
  | executed running dispatched =>
    rw [dispatch] at dispatched
    split at dispatched
    · cases dispatched
    · rename_i instruction decoded
      have fetched : machine.fetch.Confined := ⟨confined.pc_lt, confined.saved_lt⟩
      exact fetched.execute (Instruction.encode_of_decode decoded).1 dispatched
  | @waited x waiting =>
    cases pressed : machine.keypad.firstFresh? with
    | none =>
      rw [resumeKeyWait_of_none pressed]
      exact confined
    | some key =>
      have resumed : (machine.setV x (UInt8.ofNat key.val)).proceed.Confined := confined.proceed rfl
      rw [resumeKeyWait_of_some pressed]
      exact ⟨resumed.pc_lt, resumed.saved_lt⟩

theorem Confined.stepElapsed {machine : Machine} (confined : machine.Confined) (elapsed : Nat) :
    (machine.stepElapsed elapsed).2.Confined := by
  rcases stepElapsed_cases machine elapsed with
    ⟨fault, -, stepped⟩ | ⟨fault, -, -, stepped⟩ | ⟨acted, acts, stepped⟩
  · rw [stepped]
    exact confined
  · rw [stepped]
    exact ⟨confined.pc_lt, confined.saved_lt⟩
  · have inside := confined.act acts
    obtain ⟨timers, schedule, speaker, settled⟩ := settle_frame acted elapsed
    rw [stepped, settled]
    exact ⟨inside.pc_lt, inside.saved_lt⟩

/-- Every request that executes nothing by hand leaves a machine confined. -/
theorem confined_preserved : Preserved Confined fun _ => False where
  load loaded _ := confined_of_start (load_restarted loaded).registers
  seed _ confined := ⟨confined.pc_lt, confined.saved_lt⟩
  stepElapsed elapsed confined := confined.stepElapsed elapsed
  tickTimers confined := ⟨confined.pc_lt, confined.saved_lt⟩
  render {machine} confined := by
    obtain ⟨screen, display, delivered, -⟩ := machine.render_frame
    rw [delivered]
    exact ⟨confined.pc_lt, confined.saved_lt⟩
  execute _ impossible _ := impossible.elim

theorem setting_executeMany (machine : Machine) (instructions : List Instruction) :
    (machine.executeMany instructions).2.setting = machine.setting := by
  induction instructions generalizing machine with
  | nil => rfl
  | cons instruction rest ih =>
    rw [Machine.executeMany]
    cases executed : machine.execute instruction with
    | error fault => rfl
    | ok after => exact (ih after).trans (setting_execute executed)

theorem delivered_perform (machine : Machine) (operation : Operation) :
    (machine.perform operation).2.display.delivered ≤ machine.display.delivered + 1 := by
  have kept {after : Machine} (same : after.display = machine.display) :
      after.display.delivered ≤ machine.display.delivered + 1 := by
    rw [same]
    exact Nat.le_succ _
  cases operation with
  | load program =>
    rw [perform]
    cases loaded : machine.load program with
    | error error => exact kept rfl
    | ok after => exact kept (load_restarted loaded).display
  | seed seed => exact kept rfl
  | step => exact kept (stepElapsed_keeps machine machine.stepTime).2
  | stepElapsed elapsed => exact kept (stepElapsed_keeps machine elapsed).2
  | tickTimers => exact kept rfl
  | render =>
    obtain ⟨screen, display, delivered, counted⟩ := machine.render_frame
    rw [perform, delivered]
    exact counted
  | execute instruction =>
    rw [perform]
    cases executed : machine.execute instruction with
    | error fault => exact kept rfl
    | ok after => exact kept (congrArg Setting.display (setting_execute executed))
  | executeMany instructions =>
    have same := congrArg Setting.display (setting_executeMany machine instructions)
    rw [perform]
    cases executed : machine.executeMany instructions with
    | mk result after =>
      rw [executed] at same
      cases result with
      | error fault => exact kept same
      | ok _ => exact kept same

theorem delivered_performAll (machine : Machine) (operations : List Operation) :
    (machine.performAll operations).2.display.delivered ≤
      machine.display.delivered + operations.length := by
  induction operations generalizing machine with
  | nil => exact Nat.le_refl _
  | cons operation rest ih =>
    have first := delivered_perform machine operation
    have later := ih (machine.perform operation).2
    rw [List.length_cons]
    exact Nat.le_trans later (by omega)

end Machine
end Chip8
