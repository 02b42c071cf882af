import Chip8.Proofs.History

/-! Frames and the redraw flag. The flag is set from the moment the screen changes until a frame
is delivered, so no stale picture is shown while it is not set and none is delivered twice. -/
namespace Chip8

/-- Whether an instruction changes the screen. -/
def Instruction.paints : Instruction → Bool
  | .clearScreen | .draw _ _ _ => true
  | _ => false

/-- Whether a request asks for a frame to be delivered. -/
def Operation.renders : Operation → Bool
  | .render => true
  | _ => false

/-- A screen has its redraw flag set if it was painted on, and is as before if not. -/
def Screen.Repainted (painted : Bool) (before after : Screen) : Prop :=
  if painted then after.needsRedraw = true else after = before

theorem Screen.Repainted.trans {painted more : Bool} {before between after : Screen}
    (first : Repainted painted before between) (second : Repainted more between after) :
    Repainted (painted || more) before after := by
  cases more with
  | true =>
    rw [Bool.or_true]
    exact second
  | false =>
    have same : after = between := second
    rw [Bool.or_false, same]
    exact first

namespace Machine

/-- Whether a request changes the screen: it executes an instruction that does so, or puts
another program into memory. -/
def paints (machine : Machine) (operation : Operation) : Bool :=
  machine.reloads operation || (machine.executes operation).any (·.paints)

/-- The display shows the screen unless the redraw flag is set. -/
def Current (machine : Machine) : Prop :=
  machine.screen.needsRedraw = false → machine.display.frame = machine.screen.frame

variable {machine after : Machine}

theorem repainted_execute {instruction : Instruction}
    (executed : machine.execute instruction = .ok after) :
    Screen.Repainted instruction.paints machine.screen after.screen := by
  cases instruction
  case ret | call =>
    rw [execute] at executed
    split at executed
    · cases executed
    · cases executed
      rfl
  case skipIfConst | skipUnlessConst | skipIfSame | skipUnlessSame | skipIfPressed
      | skipUnlessPressed =>
    cases executed
    change (machine.skipIf _).screen = machine.screen
    rw [skipIf]
    split
    · rfl
    · rfl
  case loadRegisters x =>
    cases executed
    have same : (machine.loadTo x).proceed.screen = machine.screen := by
      simp only [loadTo, proceed, goto]
    exact same
  all_goals
    cases executed
    rfl

theorem repainted_executeMany (machine : Machine) (instructions : List Instruction) :
    Screen.Repainted ((machine.executed instructions).any (·.paints)) machine.screen
      (machine.executeMany instructions).2.screen := by
  induction instructions generalizing machine with
  | nil => rfl
  | cons instruction rest ih =>
    rw [executed, executeMany]
    cases result : machine.execute instruction with
    | error fault => rfl
    | ok after =>
      rw [List.any_cons]
      exact (repainted_execute result).trans (ih after)

theorem screen_resumeKeyWait (machine : Machine) (x : Register) :
    (machine.resumeKeyWait x).screen = machine.screen := by
  obtain ⟨v, pc, fresh, status, resumed⟩ := resumeKeyWait_frame machine x
  rw [resumed]

theorem screen_settle (machine : Machine) (elapsed : Nat) :
    (machine.settle elapsed).2.screen = machine.screen := by
  obtain ⟨timers, schedule, speaker, settled⟩ := settle_frame machine elapsed
  rw [settled]

theorem repainted_stepElapsed (machine : Machine) (elapsed : Nat) :
    Screen.Repainted ((machine.executes (.stepElapsed elapsed)).any (·.paints)) machine.screen
      (machine.stepElapsed elapsed).2.screen := by
  rcases stepElapsed_executes machine elapsed with
    ⟨instruction, acted, executes, executed, stepped⟩ |
    ⟨executes, ⟨x, -, stepped⟩ | ⟨fault, opcode, status, stepped⟩⟩
  · rw [executes, stepped, screen_settle, List.any_cons, List.any_nil, Bool.or_false]
    have painted := repainted_execute executed
    exact painted
  · rw [executes, stepped, screen_settle, screen_resumeKeyWait]
    rfl
  · rw [executes, stepped]
    rfl

/-- A request other than one to deliver sets the redraw flag if it changes the screen, leaves
the screen alone if not, and delivers nothing. -/
theorem repainted_perform (machine : Machine) {operation : Operation}
    (still : operation.renders = false) :
    Screen.Repainted (machine.paints operation) machine.screen
        (machine.perform operation).2.screen ∧
      (machine.perform operation).2.display = machine.display := by
  cases operation with
  | load program =>
    rw [paints, reloads, perform]
    cases loaded : machine.load program with
    | error error => exact ⟨rfl, rfl⟩
    | ok after =>
      refine ⟨?_, (load_restarted loaded).display⟩
      rw [load] at loaded
      split at loaded
      · cases loaded
      · cases loaded
        rfl
  | seed seed => exact ⟨rfl, rfl⟩
  | step =>
    exact ⟨repainted_stepElapsed machine machine.stepTime,
      (stepElapsed_keeps machine machine.stepTime).2⟩
  | stepElapsed elapsed =>
    exact ⟨repainted_stepElapsed machine elapsed, (stepElapsed_keeps machine elapsed).2⟩
  | tickTimers => exact ⟨rfl, rfl⟩
  | render => cases still
  | execute instruction =>
    rw [perform_execute]
    exact ⟨repainted_executeMany machine [instruction],
      congrArg Setting.display (setting_executeMany machine [instruction])⟩
  | executeMany instructions =>
    rw [perform_executeMany]
    exact ⟨repainted_executeMany machine instructions,
      congrArg Setting.display (setting_executeMany machine instructions)⟩

theorem render_of_unset (unset : machine.screen.needsRedraw = false) :
    machine.render = machine := by
  have same : (⟨machine.screen.frame, false⟩ : Screen) = machine.screen := by rw [← unset]
  rw [render, Screen.takeRedraw, unset]
  change { machine with screen := ⟨machine.screen.frame, false⟩ } = machine
  rw [same]

theorem render_of_set (set : machine.screen.needsRedraw = true) :
    machine.render =
      { machine with
        screen := ⟨machine.screen.frame, false⟩
        display := machine.display.accept machine.screen.frame } := by
  rw [render, Screen.takeRedraw, set]

theorem Current.render (current : machine.Current) :
    machine.render.screen.needsRedraw = false ∧
      machine.render.display.frame = machine.render.screen.frame := by
  cases flag : machine.screen.needsRedraw with
  | false =>
    rw [render_of_unset flag]
    exact ⟨flag, current flag⟩
  | true =>
    rw [render_of_set flag]
    exact ⟨rfl, rfl⟩

theorem Current.repainted {painted : Bool} (current : machine.Current)
    (screen : Screen.Repainted painted machine.screen after.screen)
    (display : after.display = machine.display) : after.Current := by
  intro unset
  cases painted with
  | false =>
    have same : after.screen = machine.screen := screen
    rw [same] at unset ⊢
    rw [display]
    exact current unset
  | true =>
    have set : after.screen.needsRedraw = true := screen
    rw [unset] at set
    cases set

theorem Current.perform (current : machine.Current) (operation : Operation) :
    (machine.perform operation).2.Current := by
  cases renders : operation.renders with
  | false =>
    obtain ⟨screen, display⟩ := repainted_perform machine renders
    exact current.repainted screen display
  | true =>
    cases operation
    case render => exact fun _ => current.render.2
    all_goals cases renders

theorem current_new (speed : ClockSpeed) (feed : KeyFeed) (generator : Random.Generator) :
    (Machine.new speed feed generator).Current := fun _ => rfl

theorem current_preserved : Preserved Current fun _ => True := .of_perform Current.perform

theorem Current.performAll (current : machine.Current) (operations : List Operation) :
    (machine.performAll operations).2.Current :=
  current_preserved.performAll (fun _ _ _ _ => trivial) current

def delivers (machine : Machine) (operation : Operation) : Bool :=
  machine.display.delivered < (machine.perform operation).2.display.delivered

/-- The redraw flag is set by what changes the screen and stays set until a frame is delivered. -/
theorem needsRedraw_perform (machine : Machine) (operation : Operation) :
    (machine.perform operation).2.screen.needsRedraw =
      (machine.paints operation ||
        (machine.screen.needsRedraw && !machine.delivers operation)) := by
  cases renders : operation.renders with
  | false =>
    obtain ⟨screen, display⟩ := repainted_perform machine renders
    rw [delivers, display]
    cases painted : machine.paints operation with
    | false =>
      have same : (machine.perform operation).2.screen = machine.screen := by
        rwa [painted] at screen
      rw [same]
      simp
    | true => rwa [painted] at screen
  | true =>
    cases operation
    case render =>
      have unpainted : machine.paints .render = false := rfl
      rw [unpainted, delivers, perform]
      cases flag : machine.screen.needsRedraw with
      | false => simp [render_of_unset flag, flag]
      | true => simp [render_of_set flag, Display.accept]
    all_goals cases renders

/-- A frame is delivered if one is asked for while the redraw flag is set, and only then. -/
theorem delivered_perform_eq (machine : Machine) (operation : Operation) :
    (machine.perform operation).2.display.delivered =
      machine.display.delivered +
        if operation.renders && machine.screen.needsRedraw then 1 else 0 := by
  cases renders : operation.renders with
  | false =>
    rw [(repainted_perform machine renders).2]
    simp
  | true =>
    cases operation
    case render =>
      rw [perform]
      cases flag : machine.screen.needsRedraw with
      | false => simp [render_of_unset flag]
      | true => simp [render_of_set flag, Display.accept]
    all_goals cases renders

def paintsAt (machine : Machine) (operations : List Operation) (index : Nat) : Bool :=
  operations[index]?.any (machine.reached operations index).paints

def deliversAt (machine : Machine) (operations : List Operation) (index : Nat) : Bool :=
  operations[index]?.any (machine.reached operations index).delivers

/-- Whether the request after `index` others asks for a frame while the redraw flag is set. -/
def flushesAt (machine : Machine) (operations : List Operation) (index : Nat) : Bool :=
  operations[index]?.any (·.renders) && (machine.reached operations index).screen.needsRedraw

/-- The frames that requests deliver follow the changes of the screen. -/
structure FramesFollow (machine : Machine) (operations : List Operation) : Prop where
  /-- The redraw flag is set exactly if the screen has changed since the last frame. -/
  flag : ∀ count, (machine.reached operations count).screen.needsRedraw = true ↔
    ∃ index, index < count ∧ machine.paintsAt operations index = true ∧
      ∀ later, index < later → later < count → machine.deliversAt operations later = false
  /-- While the flag is not set, the display shows the screen. -/
  current : ∀ count, (machine.reached operations count).screen.needsRedraw = false →
    (machine.reached operations count).display.frame =
      (machine.reached operations count).screen.frame
  /-- After a request to deliver the display shows the screen, and the flag is not set. -/
  rendered : ∀ index, operations[index]? = some .render →
    (machine.reached operations (index + 1)).screen.needsRedraw = false ∧
      (machine.reached operations (index + 1)).display.frame =
        (machine.reached operations (index + 1)).screen.frame
  /-- As many frames are delivered as are asked for while the flag is set. -/
  delivered : ∀ count, (machine.reached operations count).display.delivered =
    (List.range count).countP (machine.flushesAt operations)

/-- Something has happened and nothing has undone it since, one moment later. -/
private theorem pending_succ (happens undone : Nat → Bool) (count : Nat) :
    (∃ index, index < count + 1 ∧ happens index = true ∧
        ∀ later, index < later → later < count + 1 → undone later = false) ↔
      happens count = true ∨
        (∃ index, index < count ∧ happens index = true ∧
          ∀ later, index < later → later < count → undone later = false) ∧
          undone count = false := by
  constructor
  · rintro ⟨index, before, happened, kept⟩
    by_cases last : index = count
    · exact Or.inl (last ▸ happened)
    · right
      refine ⟨⟨index, by omega, happened, ?_⟩,
        kept count (by omega) (Nat.lt_succ_self count)⟩
      intro later after before
      exact kept later after (Nat.lt_succ_of_lt before)
  · rintro (happened | ⟨⟨index, before, happened, kept⟩, last⟩)
    · refine ⟨count, Nat.lt_succ_self count, happened, ?_⟩
      intro later after before
      omega
    · refine ⟨index, Nat.lt_succ_of_lt before, happened, ?_⟩
      intro later after early
      by_cases same : later = count
      · rw [same]
        exact last
      · exact kept later after (by omega)

theorem flag_reached (machine : Machine) (unset : machine.screen.needsRedraw = false)
    (operations : List Operation) (count : Nat) :
    (machine.reached operations count).screen.needsRedraw = true ↔
      ∃ index, index < count ∧ machine.paintsAt operations index = true ∧
        ∀ later, index < later → later < count →
          machine.deliversAt operations later = false := by
  induction count with
  | zero =>
    have start : (machine.reached operations 0).screen.needsRedraw = false := unset
    simp [start]
  | succ count ih =>
    rw [pending_succ, ← ih, reached_next, paintsAt, deliversAt]
    cases operations[count]? with
    | none => simp
    | some operation => simp [needsRedraw_perform]

theorem delivered_reached (machine : Machine) (fresh : machine.display.delivered = 0)
    (operations : List Operation) (count : Nat) :
    (machine.reached operations count).display.delivered =
      (List.range count).countP (machine.flushesAt operations) := by
  induction count with
  | zero => exact fresh
  | succ count ih =>
    rw [List.range_succ, List.countP_append, List.countP_singleton, ← ih, reached_next, flushesAt]
    cases operations[count]? with
    | none => rfl
    | some operation => exact delivered_perform_eq _ operation

/-- No frame is stale and none is spurious, from the start of a machine on and whatever is asked
of it. -/
theorem frames_follow_screen (speed : ClockSpeed) (feed : KeyFeed) (generator : Random.Generator)
    (operations : List Operation) :
    (Machine.new speed feed generator).FramesFollow operations where
  flag count := flag_reached _ rfl operations count
  current count := (current_new speed feed generator).performAll (operations.take count)
  rendered index asked := by
    have current := (current_new speed feed generator).performAll (operations.take index)
    rw [reached_next, asked]
    exact current.render
  delivered count := delivered_reached _ rfl operations count

/-- Requests that load a program which draws a glyph, and clear the screen by hand in a list that
fails after that. -/
def sketch : List Operation :=
  [.load [0xD0, 0x05, 0x12, 0x02], .render, .step, .render, .render,
    .executeMany [.clearScreen, .ret]]

/-- The third request to deliver finds the flag not set. -/
theorem frames_follow_screen_sketch :
    ((Machine.new .standard .silent (.ofSeed 0)).reached sketch 6).display.delivered = 2 ∧
      ((Machine.new .standard .silent (.ofSeed 0)).reached sketch 6).screen.needsRedraw = true := by
  have follows := frames_follow_screen .standard .silent (.ofSeed 0) sketch
  refine ⟨(follows.delivered 6).trans (by decide +kernel), (follows.flag 6).mpr ?_⟩
  exact ⟨5, by decide, by decide +kernel, fun later after before => by omega⟩

end Machine
end Chip8
