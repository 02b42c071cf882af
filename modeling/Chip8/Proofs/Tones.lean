import Chip8.Proofs.Executions
import Chip8.Proofs.Invariants
import Chip8.Proofs.Stages
import Chip8.Terminal.Picture
import Mathlib.Data.List.Chain

/-! Tone events and the sound timer. Every change of a machine hands over the event that its
change of the sound timer calls for, so the events alternate, and a tone plays exactly while
the timer is positive. -/
namespace Chip8.Machine

/-- What one change of a machine hands over: the tone begins as the sound timer leaves zero and
ends as it reaches zero. -/
inductive Announces (before after : Machine) : Prop where
  | quiet (level : after.timers.sound = 0 ↔ before.timers.sound = 0)
      (handed : after.speaker = before.speaker)
  | starts (silent : before.timers.sound = 0) (sounds : after.timers.sound ≠ 0)
      (handed : after.speaker = before.speaker.play .start)
  | stops (sounds : before.timers.sound ≠ 0) (silent : after.timers.sound = 0)
      (handed : after.speaker = before.speaker.play .stop)

theorem announces_of_clocks {before after : Machine} (same : after.clocks = before.clocks) :
    Announces before after := by
  obtain ⟨timers, -, speaker⟩ := Clocks.mk.inj same
  exact .quiet (by rw [timers]) speaker

theorem Announces.of_same {before after other : Machine} (announced : Announces before after)
    (level : other.timers.sound = after.timers.sound) (handed : other.speaker = after.speaker) :
    Announces before other := by
  cases announced with
  | quiet kept same => exact .quiet (level ▸ kept) (handed.trans same)
  | starts silent sounds started => exact .starts silent (level ▸ sounds) (handed.trans started)
  | stops sounds silent stopped => exact .stops sounds (level.trans silent) (handed.trans stopped)

theorem announces_setSound (machine : Machine) (value : UInt8) :
    Announces machine (machine.setSound value) := by
  by_cases silent : machine.timers.sound = 0
  · by_cases rest : value = 0
    · refine .quiet (iff_of_true rest silent) ?_
      simp [setSound, Timers.setSound, Speaker.playSome, silent, rest]
    · refine .starts silent rest ?_
      simp [setSound, Timers.setSound, Speaker.playSome, silent, rest]
  · by_cases rest : value = 0
    · refine .stops silent rest ?_
      simp [setSound, Timers.setSound, Speaker.playSome, silent, rest]
    · refine .quiet (iff_of_false rest silent) ?_
      simp [setSound, Timers.setSound, Speaker.playSome, silent, rest]

theorem announces_tickTimers (machine : Machine) : Announces machine machine.tickTimers := by
  have zero : ∀ level : UInt8, level = 0 ↔ level.toNat = 0 := fun _ => UInt8.toNat_inj.symm
  obtain ⟨-, sound, speaker⟩ := tickTimers_effect machine
  by_cases last : machine.timers.sound.toNat = 1
  · rw [if_pos last] at speaker
    refine .stops ?_ ?_ speaker
    · rw [ne_eq, zero]
      omega
    · rw [zero, sound, last]
  · rw [if_neg last] at speaker
    refine .quiet ?_ speaker
    rw [zero, zero, sound]
    omega

theorem announces_load {machine after : Machine} {program : Program}
    (loaded : machine.load program = .ok after) :
    Announces machine after ∧ after.timers.sound = 0 := by
  rw [load] at loaded
  split at loaded
  · cases loaded
  · cases loaded
    exact ⟨(announces_setSound machine 0).of_same rfl rfl, rfl⟩

theorem announces_execute {machine after : Machine} {instruction : Instruction}
    (executed : machine.execute instruction = .ok after) : Announces machine after := by
  cases sets : instruction.setsTimer with
  | false => exact announces_of_clocks (clocks_execute executed sets)
  | true =>
    cases instruction
    case setDelay =>
      cases executed
      exact .quiet Iff.rfl rfl
    case setSound x =>
      cases executed
      exact (announces_setSound machine (machine.v x)).of_same rfl rfl
    all_goals cases sets

/-- Every change of a machine hands over what its change of the sound timer calls for. -/
theorem obeyed_announces : Obeyed Announces where
  load loaded := (announces_load loaded).1
  seed _ _ := announces_of_clocks rfl
  fetch _ := announces_of_clocks rfl
  execute := announces_execute
  halt _ _ := announces_of_clocks rfl
  resumeKeyWait machine x := announces_of_clocks (clocks_resumeKeyWait machine x)
  sampleKeys _ := announces_of_clocks rfl
  schedule _ _ := .quiet Iff.rfl rfl
  tickTimers := announces_tickTimers
  render machine := by
    obtain ⟨screen, display, rendered, -⟩ := render_frame machine
    rw [rendered]
    exact announces_of_clocks rfl

/-- The events handed over alternate and begin with a start, and the last of them is a start as
long as the sound timer is positive. A listener has received them all. -/
structure InTune (machine : Machine) : Prop where
  begins : ∀ first ∈ machine.speaker.events.head?, first = .start
  alternates : machine.speaker.events.IsChain (· ≠ ·)
  plays : machine.speaker.events.getLast? = some .start ↔ machine.timers.sound ≠ 0
  listening : machine.speaker.listening = true
  heard : machine.speaker.received = machine.speaker.events

theorem inTune_new (speed : ClockSpeed) (feed : KeyFeed) (generator : Random.Generator) :
    (Machine.new speed feed generator).InTune where
  begins := nofun
  alternates := .nil
  plays := ⟨nofun, fun sounds => absurd rfl sounds⟩
  listening := rfl
  heard := rfl

/-- At zero the last event is a stop, unless nothing was handed over at all. -/
theorem InTune.rests {machine : Machine} (inTune : machine.InTune) :
    (machine.speaker.events = [] ∨ machine.speaker.events.getLast? = some .stop) ↔
      machine.timers.sound = 0 := by
  rw [← not_iff_not, ← ne_eq machine.timers.sound, ← inTune.plays]
  cases last : machine.speaker.events.getLast? with
  | none => simp [List.getLast?_eq_none_iff.mp last]
  | some tone =>
    have played : machine.speaker.events ≠ [] := by
      intro nothing
      rw [nothing] at last
      cases last
    cases tone with
    | start => simp [played]
    | stop => simp

/-- An event that differs from the last one keeps the tune, if the sound timer changes with it
and the first event is a start. -/
theorem InTune.play {before after : Machine} {tone : Tone} (inTune : before.InTune)
    (handed : after.speaker = before.speaker.play tone)
    (first : before.speaker.events = [] → tone = .start)
    (changes : before.speaker.events.getLast? ≠ some tone)
    (level : tone = .start ↔ after.timers.sound ≠ 0) : after.InTune where
  begins := by
    rw [handed]
    change ∀ opening ∈ (before.speaker.events ++ [tone]).head?, opening = .start
    cases events : before.speaker.events with
    | nil => simpa using first events
    | cons opening rest =>
      have begins := inTune.begins
      rw [events] at begins
      exact begins
  alternates := by
    rw [handed]
    change (before.speaker.events ++ [tone]).IsChain (· ≠ ·)
    refine inTune.alternates.append (.singleton tone) ?_
    intro last isLast next isNext same
    cases isNext
    exact changes (same ▸ isLast)
  plays := by
    rw [handed, ← level]
    simp [Speaker.play]
  listening := by
    rw [handed]
    exact inTune.listening
  heard := by
    rw [handed, Speaker.play, inTune.listening, inTune.heard]
    rfl

theorem InTune.announces {before after : Machine} (inTune : before.InTune)
    (announced : Announces before after) : after.InTune := by
  cases announced with
  | quiet level handed =>
    obtain ⟨begins, alternates, plays, listening, heard⟩ := inTune
    rw [← handed] at begins alternates plays listening heard
    refine ⟨begins, alternates, ?_, listening, heard⟩
    rw [plays, ne_eq, ne_eq, level]
  | starts silent sounds handed =>
    refine inTune.play handed (fun _ => rfl) ?_ (iff_of_true rfl sounds)
    intro playing
    exact inTune.plays.mp playing silent
  | stops sounds silent handed =>
    have playing : before.speaker.events.getLast? = some .start := inTune.plays.mpr sounds
    refine inTune.play handed ?_ ?_ (iff_of_false nofun (not_not_intro silent))
    · intro nothing
      rw [nothing] at playing
      cases playing
    · rw [playing]
      nofun

/-- How often a level leaves zero as it takes the levels listed. -/
def rises : UInt8 → List UInt8 → Nat
  | _, [] => 0
  | level, next :: rest => (if level = 0 ∧ next ≠ 0 then 1 else 0) + rises next rest

/-- The levels of the sound timer, one for each change that a number of requests make. -/
def soundLevels (machine : Machine) (operations : List Operation) : List UInt8 :=
  (machine.allStages operations).map (·.timers.sound)

/-- A start is handed over when the sound timer leaves zero, and then only. -/
theorem Announces.starts_count {before after : Machine} (announced : Announces before after) :
    after.speaker.events.count .start = before.speaker.events.count .start +
      if before.timers.sound = 0 ∧ after.timers.sound ≠ 0 then 1 else 0 := by
  cases announced with
  | quiet level handed =>
    rw [handed, if_neg (fun rise => rise.2 (level.mpr rise.1)), Nat.add_zero]
  | starts silent sounds handed =>
    rw [handed, if_pos ⟨silent, sounds⟩, Speaker.play, List.count_append]
    rfl
  | stops sounds silent handed =>
    rw [handed, if_neg (fun rise => sounds rise.1), Speaker.play, List.count_append]
    rfl

theorem Passes.starts_count {before after : Machine} {stages : List Machine}
    (passed : Passes Announces before stages after) :
    after.speaker.events.count .start = before.speaker.events.count .start +
      rises before.timers.sound (stages.map (·.timers.sound)) := by
  induction passed with
  | stay machine => rfl
  | change announced _ ih =>
    rw [ih, announced.starts_count, List.map_cons, rises, Nat.add_assoc]

/-- From the start of a machine the tone events follow the sound timer, whatever is asked of it.
They alternate and begin with a start; the last of them is a start as long as the timer is
positive, and a stop or none at all as long as it is zero. So there are as many starts, and as
many bells rung by a beeper that listens, as times that the timer left zero, and no program is
loaded that leaves a tone on. -/
theorem tones_follow_sound_timer (speed : ClockSpeed) (feed : KeyFeed)
    (generator : Random.Generator) {operations : List Operation} {replies : List Reply}
    {last : Machine}
    (performed : (Machine.new speed feed generator).performAll operations = (replies, last)) :
    last.InTune ∧
      ((last.speaker.events = [] ∨ last.speaker.events.getLast? = some .stop) ↔
        last.timers.sound = 0) ∧
      last.speaker.events.count .start =
        rises 0 ((Machine.new speed feed generator).soundLevels operations) ∧
      (Terminal.beeps last.speaker.received).length =
        rises 0 ((Machine.new speed feed generator).soundLevels operations) ∧
      ∀ program after, last.load program = .ok after →
        after.timers.sound = 0 ∧ after.speaker.events.getLast? ≠ some .start := by
  have passed := obeyed_announces.allStages (.new speed feed generator) operations
  rw [performed] at passed
  have inTune : last.InTune :=
    passed.preserves (fun announced tuned => tuned.announces announced)
      (inTune_new speed feed generator)
  have starts : last.speaker.events.count .start =
      rises 0 ((Machine.new speed feed generator).soundLevels operations) :=
    passed.starts_count.trans (Nat.zero_add _)
  refine ⟨inTune, inTune.rests, starts, ?_, ?_⟩
  · rw [Terminal.length_beeps, inTune.heard, starts]
  · intro program after loaded
    obtain ⟨announced, silent⟩ := announces_load loaded
    refine ⟨silent, ?_⟩
    intro playing
    exact (inTune.announces announced).plays.mp playing silent

/-- Requests that run a program which plays a tone and then loops, let the tone end, and start
another one by hand. -/
def jingle : List Operation :=
  [.load [0x60, 0x02, 0xF0, 0x18, 0x12, 0x04], .step, .step, .stepElapsed 40000000,
    .execute (.setSound 0)]

def jingled : Machine :=
  ((Machine.new .standard .silent (.ofSeed 0)).performAll jingle).2

theorem tones_follow_sound_timer_jingle :
    jingled.speaker.events = [.start, .stop, .start] ∧ jingled.InTune ∧
      (Terminal.beeps jingled.speaker.received).length = 2 ∧
      ∃ after, jingled.load [] = .ok after ∧ after.timers.sound = 0 := by
  have performed : (Machine.new .standard .silent (.ofSeed 0)).performAll jingle =
      (((Machine.new .standard .silent (.ofSeed 0)).performAll jingle).1, jingled) :=
    (Prod.eta _).symm
  obtain ⟨inTune, -, -, bells, silenced⟩ :=
    tones_follow_sound_timer .standard .silent (.ofSeed 0) performed
  have rung : rises 0 ((Machine.new .standard .silent (.ofSeed 0)).soundLevels jingle) = 2 := by
    decide +kernel
  obtain ⟨after, loaded⟩ : ∃ after, jingled.load [] = .ok after := ⟨_, rfl⟩
  exact ⟨by decide +kernel, inTune, bells.trans rung, after, loaded,
    (silenced [] after loaded).1⟩

end Chip8.Machine
