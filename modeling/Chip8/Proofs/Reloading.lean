import Chip8.Proofs.Frames

/-! Loading starts from scratch. What it leaves alone of a machine is the keypad, the generator
and the devices; machines that agree on these, but for fresh presses and for what the devices
have been given so far, go on alike after loading the same program. -/
namespace Chip8

def Speaker.playAll (speaker : Speaker) (tones : List Tone) : Speaker := tones.foldl play speaker

def Display.acceptAll (display : Display) (frames : List Frame) : Display :=
  frames.foldl accept display

theorem Speaker.playSome_playAll (speaker : Speaker) (tones : List Tone) (tone : Option Tone) :
    (speaker.playAll tones).playSome tone = speaker.playAll (tones ++ tone.toList) := by
  cases tone with
  | none => rw [Option.toList_none, List.append_nil, playSome]
  | some tone =>
    rw [Option.toList_some, playAll, playAll, List.foldl_append]
    rfl

theorem Display.accept_acceptAll (display : Display) (frames : List Frame) (frame : Frame) :
    (display.acceptAll frames).accept frame = display.acceptAll (frames ++ [frame]) := by
  rw [acceptAll, acceptAll, List.foldl_append]
  rfl

theorem KeyFeed.sample_poll (feed : KeyFeed) (count : Nat) :
    feed.poll.2.sample count = feed.sample (count + 1) := by
  have rest : feed.poll.2.after count = feed.after (count + 1) := by
    induction count with
    | zero => rfl
    | succ count ih => rw [after, ih, ← after]
  rw [sample, sample, rest]

namespace Machine

/-- What lies outside of a program's reach: the fresh presses, which only a key wait can see, and
the devices. -/
structure Outside where
  fresh : KeySet
  feed : KeyFeed
  display : Display
  speaker : Speaker

/-- Hand over the event of a timer change, if there is one. -/
def Outside.hear (outside : Outside) (tone : Option Tone) : Outside :=
  { outside with speaker := outside.speaker.playSome tone }

def outside (machine : Machine) : Outside where
  fresh := machine.keypad.fresh
  feed := machine.feed
  display := machine.display
  speaker := machine.speaker

/-- The same machine with something else outside. -/
def within (machine : Machine) (outside : Outside) : Machine :=
  { machine with
    keypad := { machine.keypad with fresh := outside.fresh }
    feed := outside.feed
    display := outside.display
    speaker := outside.speaker }

/-- The tone event that an instruction hands over. -/
def toneOf (machine : Machine) : Instruction → Option Tone
  | .setSound x => (machine.timers.setSound (machine.v x)).2
  | _ => none

private theorem skipIf_within (machine : Machine) (outside : Outside) (condition : Bool) :
    (machine.within outside).skipIf condition = (machine.skipIf condition).within outside := by
  cases condition
  · rfl
  · rfl

/-- Instructions neither see what lies outside nor do more to it than play a tone. -/
theorem execute_within (machine : Machine) (outside : Outside) (instruction : Instruction) :
    (machine.within outside).execute instruction =
      (machine.execute instruction).map
        (·.within (outside.hear (machine.toneOf instruction))) := by
  cases instruction
  case ret =>
    simp only [execute, within]
    cases machine.registers.stack.pop machine.registers.pc
    · rfl
    · rfl
  case call =>
    simp only [execute, within]
    cases machine.registers.stack.push (machine.registers.pc.advance 2) machine.registers.pc
    · rfl
    · rfl
  case skipIfConst | skipUnlessConst | skipIfSame | skipUnlessSame | skipIfPressed
      | skipUnlessPressed =>
    exact congrArg Except.ok (skipIf_within machine outside _)
  all_goals rfl

theorem load_within (machine : Machine) (outside : Outside) (program : Program) :
    (machine.within outside).load program =
      (machine.load program).map
        (·.within (outside.hear ((machine.timers.setDelay 0).setSound 0).2)) := by
  rw [load, load]
  cases Memory.load program with
  | error error => rfl
  | ok memory => rfl

/-- Two machines that have gone on abreast from two others: they agree on all but what lies
outside, have the same samples to come, and their devices have been given the same since. -/
structure Abreast (start otherStart machine other : Machine) : Prop where
  memory : machine.memory = other.memory
  registers : machine.registers = other.registers
  timers : machine.timers = other.timers
  held : machine.keypad.held = other.keypad.held
  screen : machine.screen = other.screen
  opcode : machine.opcode = other.opcode
  status : machine.status = other.status
  schedule : machine.schedule = other.schedule
  stepTime : machine.stepTime = other.stepTime
  generator : machine.generator = other.generator
  samples : ∀ count, machine.feed.sample count = other.feed.sample count
  tones : ∃ tones, machine.speaker = start.speaker.playAll tones ∧
    other.speaker = otherStart.speaker.playAll tones
  frames : ∃ frames, machine.display = start.display.acceptAll frames ∧
    other.display = otherStart.display.acceptAll frames

/-- Machines abreast that agree on the fresh presses too while they wait for a key. No step begins
with a wait before a sample was taken, so this costs nothing at the start. -/
structure Parallel (start otherStart machine other : Machine) : Prop
    extends Abreast start otherStart machine other where
  fresh : ∀ x, machine.status = .awaitingKey x → machine.keypad.fresh = other.keypad.fresh

variable {start otherStart machine other after otherAfter : Machine}

theorem Abreast.eq_within (abreast : Abreast start otherStart machine other) :
    other = machine.within other.outside := by
  simp only [within, outside, abreast.memory, abreast.registers, abreast.timers, abreast.held,
    abreast.screen, abreast.opcode, abreast.status, abreast.schedule, abreast.stepTime,
    abreast.generator]

/-- Machines stay abreast if nothing more happens outside than that both play the same tone. -/
theorem Abreast.outside (abreast : Abreast start otherStart machine other) {tone : Option Tone}
    (heard : after.outside = machine.outside.hear tone)
    (same : otherAfter = after.within (other.outside.hear tone)) :
    Abreast start otherStart after otherAfter := by
  obtain ⟨-, feed, display, speaker⟩ := Outside.mk.inj heard
  obtain ⟨tones, played, playedToo⟩ := abreast.tones
  rw [same]
  refine ⟨rfl, rfl, rfl, rfl, rfl, rfl, rfl, rfl, rfl, rfl, ?_, ?_, ?_⟩
  · rw [feed]
    exact abreast.samples
  · refine ⟨tones ++ tone.toList, ?_, ?_⟩
    · rw [speaker, ← Speaker.playSome_playAll, ← played]
      rfl
    · rw [← Speaker.playSome_playAll, ← playedToo]
      rfl
  · rw [display]
    exact abreast.frames

/-- What does the same whatever lies outside succeeds or fails on both of two machines abreast,
and keeps them so. -/
theorem Abreast.act {ε : Type} (abreast : Abreast start otherStart machine other)
    (act : Machine → Except ε Machine) (tone : Option Tone)
    (blind : ∀ outside, act (machine.within outside) =
      (act machine).map (·.within (outside.hear tone))) :
    (∃ error, act machine = .error error ∧ act other = .error error) ∨
      ∃ after otherAfter, act machine = .ok after ∧ act other = .ok otherAfter ∧
        Abreast start otherStart after otherAfter := by
  have mine : act machine = (act machine).map (·.within (machine.outside.hear tone)) :=
    blind machine.outside
  have others : act other = (act machine).map (·.within (other.outside.hear tone)) :=
    (congrArg act abreast.eq_within).trans (blind other.outside)
  cases acted : act machine with
  | error error =>
    rw [acted] at others
    exact Or.inl ⟨error, rfl, others⟩
  | ok after =>
    rw [acted] at mine others
    have heard : after.outside = machine.outside.hear tone :=
      congrArg Machine.outside (Except.ok.inj mine)
    exact Or.inr ⟨after, _, rfl, others, abreast.outside heard rfl⟩

theorem Abreast.change (abreast : Abreast start otherStart machine other)
    (change : Machine → Machine) (tone : Option Tone)
    (blind : ∀ outside, change (machine.within outside) =
      (change machine).within (outside.hear tone)) :
    Abreast start otherStart (change machine) (change other) := by
  have heard : (change machine).outside = machine.outside.hear tone :=
    congrArg Machine.outside (blind machine.outside)
  exact abreast.outside heard ((congrArg change abreast.eq_within).trans (blind other.outside))

theorem Abreast.fetch (abreast : Abreast start otherStart machine other) :
    Abreast start otherStart machine.fetch other.fetch :=
  abreast.change Machine.fetch none fun _ => rfl

theorem Abreast.tickTimers (abreast : Abreast start otherStart machine other) :
    Abreast start otherStart machine.tickTimers other.tickTimers :=
  abreast.change Machine.tickTimers machine.timers.tickDelay.tickSound.2 fun _ => rfl

theorem Abreast.tickTimersFor (abreast : Abreast start otherStart machine other) (count : Nat) :
    Abreast start otherStart (machine.tickTimersFor count) (other.tickTimersFor count) := by
  induction count generalizing machine other with
  | zero => exact abreast
  | succ count ih =>
    rw [tickTimersFor_succ, tickTimersFor_succ]
    exact ih abreast.tickTimers

theorem Abreast.dispatch (abreast : Abreast start otherStart machine other) :
    (∃ fault, machine.dispatch = .error fault ∧ other.dispatch = .error fault) ∨
      ∃ after otherAfter, machine.dispatch = .ok after ∧ other.dispatch = .ok otherAfter ∧
        Abreast start otherStart after otherAfter := by
  rw [Machine.dispatch, Machine.dispatch, ← abreast.opcode, ← abreast.registers]
  cases Instruction.decode machine.opcode with
  | none => exact Or.inl ⟨_, rfl, rfl⟩
  | some instruction =>
    exact abreast.act (·.execute instruction) (machine.toneOf instruction) fun outside =>
      execute_within machine outside instruction

theorem Parallel.resumeKeyWait (parallel : Parallel start otherStart machine other) {x : Register}
    (waiting : machine.status = .awaitingKey x) :
    Abreast start otherStart (machine.resumeKeyWait x) (other.resumeKeyWait x) := by
  have fresh := parallel.fresh x waiting
  have abreast := parallel.toAbreast
  cases pressed : machine.keypad.firstFresh? with
  | none =>
    have silent : other.keypad.firstFresh? = none := by
      rwa [Keypad.firstFresh?, fresh] at pressed
    rw [resumeKeyWait_of_none pressed, resumeKeyWait_of_none silent]
    exact abreast
  | some key =>
    have pressedToo : other.keypad.firstFresh? = some key := by
      rwa [Keypad.firstFresh?, fresh] at pressed
    rw [resumeKeyWait_of_some pressed, resumeKeyWait_of_some pressedToo]
    exact { abreast with
      registers := by simp only [setV, proceed, goto, abreast.registers]
      held := by rw [Keypad.held_takePress, Keypad.held_takePress, abreast.held]
      status := rfl }

theorem Abreast.sampleKeys (abreast : Abreast start otherStart machine other) :
    Abreast start otherStart machine.sampleKeys other.sampleKeys ∧
      machine.sampleKeys.keypad = other.sampleKeys.keypad := by
  have sample : machine.feed.poll.1 = other.feed.poll.1 := abreast.samples 0
  have keypad : machine.sampleKeys.keypad = other.sampleKeys.keypad := by
    simp only [Machine.sampleKeys, Keypad.update, sample, abreast.held]
  refine ⟨{ abreast with held := congrArg Keypad.held keypad, samples := ?_ }, keypad⟩
  intro count
  exact (machine.feed.sample_poll count).trans
    ((abreast.samples (count + 1)).trans (other.feed.sample_poll count).symm)

/-- The part of a step after its instruction reports the same on machines abreast, and makes them
parallel whatever fresh presses there were. -/
theorem Abreast.settle (abreast : Abreast start otherStart machine other) (elapsed : Nat) :
    (machine.settle elapsed).1 = (other.settle elapsed).1 ∧
      Parallel start otherStart (machine.settle elapsed).2 (other.settle elapsed).2 := by
  obtain ⟨sampled, keypad⟩ := abreast.sampleKeys
  cases advanced : machine.schedule.advance elapsed with
  | error cause =>
    have advancedToo : other.schedule.advance elapsed = .error cause :=
      abreast.schedule ▸ advanced
    rw [settle_of_error advanced, settle_of_error advancedToo]
    exact ⟨rfl, sampled, fun _ _ => congrArg Keypad.fresh keypad⟩
  | ok pair =>
    obtain ⟨due, schedule⟩ := pair
    have advancedToo : other.schedule.advance elapsed = .ok (due, schedule) :=
      abreast.schedule ▸ advanced
    have scheduled : Abreast start otherStart
        { machine.sampleKeys with schedule := schedule }
        { other.sampleKeys with schedule := schedule } :=
      { sampled with schedule := rfl }
    obtain ⟨timers, speaker, ticked⟩ :=
      tickTimersFor_frame { machine.sampleKeys with schedule := schedule } due
    obtain ⟨otherTimers, otherSpeaker, tickedToo⟩ :=
      tickTimersFor_frame { other.sampleKeys with schedule := schedule } due
    have counted := scheduled.tickTimersFor due
    rw [settle_of_ok advanced, settle_of_ok advancedToo]
    refine ⟨by rw [abreast.screen], counted, ?_⟩
    intro x waiting
    rw [ticked, tickedToo]
    exact congrArg Keypad.fresh keypad

/-- A step gives the same result on parallel machines and keeps them so. -/
theorem Parallel.stepElapsed (parallel : Parallel start otherStart machine other) (elapsed : Nat) :
    (machine.stepElapsed elapsed).1 = (other.stepElapsed elapsed).1 ∧
      Parallel start otherStart (machine.stepElapsed elapsed).2 (other.stepElapsed elapsed).2 := by
  have abreast := parallel.toAbreast
  cases status : machine.status with
  | halted fault =>
    have statusToo : other.status = .halted fault := abreast.status ▸ status
    rw [stepElapsed_of_halted elapsed status, stepElapsed_of_halted elapsed statusToo]
    exact ⟨rfl, parallel⟩
  | awaitingKey x =>
    have statusToo : other.status = .awaitingKey x := abreast.status ▸ status
    rw [stepElapsed_of_acts elapsed (.waited status),
      stepElapsed_of_acts elapsed (.waited statusToo)]
    exact (parallel.resumeKeyWait status).settle elapsed
  | running =>
    have statusToo : other.status = .running := abreast.status ▸ status
    rcases abreast.fetch.dispatch with
      ⟨fault, failed, failedToo⟩ | ⟨after, otherAfter, executed, executedToo, kept⟩
    · rw [stepElapsed_of_error elapsed status failed,
        stepElapsed_of_error elapsed statusToo failedToo]
      have halted : Abreast start otherStart { machine.fetch with status := .halted fault }
          { other.fetch with status := .halted fault } := { abreast.fetch with status := rfl }
      exact ⟨rfl, halted, nofun⟩
    · rw [stepElapsed_of_acts elapsed (.executed status executed),
        stepElapsed_of_acts elapsed (.executed statusToo executedToo)]
      -- The instruction may begin a key wait, but the sample still to come replaces all presses.
      exact kept.settle elapsed

theorem Parallel.render (parallel : Parallel start otherStart machine other) :
    Parallel start otherStart machine.render other.render := by
  have abreast := parallel.toAbreast
  cases flag : machine.screen.needsRedraw with
  | false =>
    have flagToo : other.screen.needsRedraw = false := abreast.screen ▸ flag
    rw [render_of_unset flag, render_of_unset flagToo]
    exact parallel
  | true =>
    have flagToo : other.screen.needsRedraw = true := abreast.screen ▸ flag
    obtain ⟨frames, shown, shownToo⟩ := abreast.frames
    rw [render_of_set flag, render_of_set flagToo, abreast.screen]
    refine ⟨{ abreast with screen := rfl, frames := ?_ }, parallel.fresh⟩
    refine ⟨frames ++ [other.screen.frame], ?_, ?_⟩
    · rw [← Display.accept_acceptAll, ← shown]
    · rw [← Display.accept_acceptAll, ← shownToo]

theorem Parallel.perform_stepElapsed (parallel : Parallel start otherStart machine other)
    (elapsed : Nat) :
    (machine.perform (.stepElapsed elapsed)).1 = (other.perform (.stepElapsed elapsed)).1 ∧
      Parallel start otherStart (machine.perform (.stepElapsed elapsed)).2
        (other.perform (.stepElapsed elapsed)).2 := by
  obtain ⟨same, next⟩ := parallel.stepElapsed elapsed
  rw [Machine.perform, Machine.perform]
  cases stepped : machine.stepElapsed elapsed with
  | mk result after =>
    cases steppedToo : other.stepElapsed elapsed with
    | mk otherResult otherAfter =>
      rw [stepped, steppedToo] at same next
      cases same
      exact ⟨rfl, next⟩

/-- A request that executes nothing by hand gets the same answer on parallel machines and keeps
them so. -/
theorem Parallel.perform (parallel : Parallel start otherStart machine other)
    {operation : Operation} (untouched : operation.byHand = []) :
    (machine.perform operation).1 = (other.perform operation).1 ∧
      Parallel start otherStart (machine.perform operation).2 (other.perform operation).2 := by
  have abreast := parallel.toAbreast
  cases operation with
  | load program =>
    rw [Machine.perform, Machine.perform]
    rcases abreast.act (·.load program) ((machine.timers.setDelay 0).setSound 0).2
        (load_within machine · program) with
      ⟨error, failed, failedToo⟩ | ⟨after, otherAfter, loaded, loadedToo, kept⟩
    · rw [failed, failedToo]
      exact ⟨rfl, parallel⟩
    · rw [loaded, loadedToo]
      refine ⟨rfl, kept, ?_⟩
      intro x waiting
      rw [(load_restarted loaded).running] at waiting
      cases waiting
  | seed seed => exact ⟨rfl, { abreast with generator := rfl }, parallel.fresh⟩
  | step =>
    have same : other.perform .step = other.perform (.stepElapsed machine.stepTime) := by
      rw [abreast.stepTime]
      rfl
    rw [same]
    exact parallel.perform_stepElapsed machine.stepTime
  | stepElapsed elapsed => exact parallel.perform_stepElapsed elapsed
  | tickTimers => exact ⟨rfl, abreast.tickTimers, parallel.fresh⟩
  | render => exact ⟨rfl, parallel.render⟩
  | execute instruction => cases untouched
  | executeMany instructions =>
    have none : instructions = [] := untouched
    rw [none]
    exact ⟨rfl, parallel⟩

theorem performAll_cons (machine : Machine) (operation : Operation) (rest : List Operation) :
    machine.performAll (operation :: rest) =
      ((machine.perform operation).1 :: ((machine.perform operation).2.performAll rest).1,
        ((machine.perform operation).2.performAll rest).2) := rfl

theorem Parallel.performAll (parallel : Parallel start otherStart machine other)
    {operations : List Operation}
    (untouched : ∀ operation ∈ operations, operation.byHand = []) :
    (machine.performAll operations).1 = (other.performAll operations).1 ∧
      Parallel start otherStart (machine.performAll operations).2
        (other.performAll operations).2 := by
  induction operations generalizing machine other with
  | nil => exact ⟨rfl, parallel⟩
  | cons operation rest ih =>
    obtain ⟨reply, next⟩ := parallel.perform (untouched _ List.mem_cons_self)
    have later : ∀ operation ∈ rest, operation.byHand = [] :=
      fun operation member => untouched operation (List.mem_cons_of_mem _ member)
    obtain ⟨replies, last⟩ := ih next later
    rw [performAll_cons, performAll_cons]
    exact ⟨List.cons_eq_cons.mpr ⟨reply, replies⟩, last⟩

/-- Two machines agree on what loading leaves alone and a program can come to know. -/
structure Akin (machine other : Machine) : Prop where
  stepTime : machine.stepTime = other.stepTime
  generator : machine.generator = other.generator
  held : machine.keypad.held = other.keypad.held
  samples : ∀ count, machine.feed.sample count = other.feed.sample count

theorem Akin.load (akin : machine.Akin other) {program : Program}
    (loaded : machine.load program = .ok after) :
    ∃ otherAfter, other.load program = .ok otherAfter ∧
      Parallel after otherAfter after otherAfter := by
  rw [Machine.load] at loaded ⊢
  cases fits : Memory.load program with
  | error error =>
    rw [fits] at loaded
    cases loaded
  | ok memory =>
    rw [fits] at loaded
    cases loaded
    refine ⟨_, rfl, ⟨rfl, rfl, rfl, akin.held, rfl, rfl, rfl, rfl, akin.stepTime,
      akin.generator, akin.samples, ⟨[], rfl, rfl⟩, ⟨[], rfl, rfl⟩⟩, ?_⟩
    intro x waiting
    cases waiting

/-- Loading starts from scratch: whatever was done before on two machines that agree on what it
leaves alone, fresh presses apart, after they load the same program all requests that execute
nothing by hand get the same answers, and after each of them the machines agree and their devices
have been given the same. -/
theorem load_forgets {loaded : Machine} {program : Program} (akin : machine.Akin other)
    (success : machine.load program = .ok loaded) :
    ∃ otherLoaded, other.load program = .ok otherLoaded ∧
      ∀ operations, (∀ operation ∈ operations, operation.byHand = []) →
        (loaded.performAll operations).1 = (otherLoaded.performAll operations).1 ∧
        ∀ count, Parallel loaded otherLoaded (loaded.reached operations count)
          (otherLoaded.reached operations count) := by
  obtain ⟨otherLoaded, successToo, parallel⟩ := akin.load success
  refine ⟨otherLoaded, successToo, ?_⟩
  intro operations untouched
  refine ⟨(parallel.performAll untouched).1, ?_⟩
  intro count
  have earlier : ∀ operation ∈ operations.take count, operation.byHand = [] :=
    fun operation member => untouched operation (List.mem_of_mem_take member)
  exact (parallel.performAll earlier).2

/-- A machine that plays a tone and has just seen a key go down. -/
def interrupted : Machine :=
  ((Machine.new .standard (.constant (.ofNumbers [7])) (.ofSeed 0)).performAll
    [.load [0x63, 0x09], .step, .execute (.setSound 3)]).2

/-- A silent machine on which the same key has been held for a while. -/
def looping : Machine :=
  ((Machine.new .standard (.constant (.ofNumbers [7])) (.ofSeed 0)).performAll
    [.load [0x12, 0x00], .step, .step]).2

/-- The first machine after loading a program that waits for a key. -/
def reloaded : Machine := (interrupted.perform (.load [0xF3, 0x0A])).2

/-- The press from before the program was loaded does not end its key wait. -/
theorem load_forgets_interrupted :
    interrupted.keypad.fresh ≠ looping.keypad.fresh ∧
      (reloaded.reached [.step, .render, .step] 3).status = .awaitingKey 3 ∧
      ∃ otherLoaded, looping.load [0xF3, 0x0A] = .ok otherLoaded ∧
        (reloaded.performAll [.step, .render, .step]).1 =
          (otherLoaded.performAll [.step, .render, .step]).1 ∧
        Parallel reloaded otherLoaded (reloaded.reached [.step, .render, .step] 3)
          (otherLoaded.reached [.step, .render, .step] 3) := by
  have held : interrupted.keypad.held = looping.keypad.held := by decide +kernel
  have feed : interrupted.feed = looping.feed := by decide +kernel
  have akin : interrupted.Akin looping :=
    ⟨by decide +kernel, by decide +kernel, held, fun count => by rw [feed]⟩
  have success : interrupted.load [0xF3, 0x0A] = .ok reloaded := rfl
  obtain ⟨otherLoaded, loaded, alike⟩ := load_forgets akin success
  obtain ⟨replies, parallel⟩ := alike [.step, .render, .step] (by simp [Operation.byHand])
  exact ⟨by decide +kernel, by decide +kernel, otherLoaded, loaded, replies, parallel 3⟩

end Machine
end Chip8
