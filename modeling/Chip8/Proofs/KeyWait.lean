import Chip8.Proofs.Timing

namespace Chip8.Machine

/-- The key is the lowest one that the step after `count` others samples as pressed. -/
def LowestPressed (machine : Machine) (count : Nat) (key : Key) : Prop :=
  machine.Pressed count key ∧ ∀ other, machine.Pressed count other → key ≤ other

/-- Of the steps from `start` on, the one after `last` others is the first to sample a press. -/
structure FirstPress (machine : Machine) (start last : Nat) : Prop where
  reached : start ≤ last
  pressed : ∃ key, machine.Pressed last key
  first : ∀ earlier, start ≤ earlier → earlier < last →
    ∀ key, ¬ machine.Pressed earlier key

/-- A machine that began to wait for a key has not gone on: its program counter is still at
the instruction that waits, and nothing else that the program sees has changed. -/
structure Suspended (begun : Machine) (x : Register) (later : Machine) : Prop where
  status : later.status = .awaitingKey x
  pc : later.registers.pc = begun.registers.pc
  decoded : Instruction.decode later.fetch.opcode = some (.awaitKey x)
  general : later.registers.v = begun.registers.v
  index : later.registers.index = begun.registers.index
  stack : later.registers.stack = begun.registers.stack
  memory : later.memory = begun.memory
  screen : later.screen = begun.screen
  opcode : later.opcode = begun.fetch.opcode
  generator : later.generator = begun.generator

/-- A machine that began to wait for a key has been given one: it runs on at the next
instruction with the key in its register, and nothing else that the program sees has changed. -/
structure Resumed (begun : Machine) (x : Register) (key : Key) (later : Machine) : Prop where
  status : later.status = .running
  pc : later.registers.pc.toNat = (begun.registers.pc.toNat + 2) % 4096
  stored : (later.v x).toNat = key.val
  general : ∀ other, other ≠ x → later.v other = begun.v other
  index : later.registers.index = begun.registers.index
  stack : later.registers.stack = begun.registers.stack
  memory : later.memory = begun.memory
  screen : later.screen = begun.screen
  opcode : later.opcode = begun.fetch.opcode
  generator : later.generator = begun.generator

variable {machine : Machine} {elapsed : Nat → Nat}

theorem acts_awaitKey {begun : Machine} {x : Register} (running : begun.status = .running)
    (awaits : Instruction.decode begun.fetch.opcode = some (.awaitKey x)) :
    begun.Acts { begun.fetch with status := .awaitingKey x } := by
  apply Acts.executed running
  rw [dispatch, awaits]
  rfl

theorem suspended_begin {begun : Machine} {x : Register} (elapsed : Nat)
    (running : begun.status = .running)
    (awaits : Instruction.decode begun.fetch.opcode = some (.awaitKey x)) :
    begun.Suspended x (begun.stepElapsed elapsed).2 := by
  obtain ⟨timers, schedule, speaker, settled⟩ :=
    settle_frame { begun.fetch with status := .awaitingKey x } elapsed
  rw [stepElapsed_of_acts elapsed (acts_awaitKey running awaits), settled]
  exact ⟨rfl, rfl, awaits, rfl, rfl, rfl, rfl, rfl, rfl, rfl⟩

theorem Suspended.stay {begun later : Machine} {x : Register} (suspended : begun.Suspended x later)
    (elapsed : Nat) (silent : later.keypad.firstFresh? = none) :
    begun.Suspended x (later.stepElapsed elapsed).2 := by
  obtain ⟨timers, schedule, speaker, settled⟩ := settle_frame later elapsed
  rw [stepElapsed_of_acts elapsed (.waited suspended.status), resumeKeyWait_of_none silent, settled]
  exact ⟨suspended.status, suspended.pc, suspended.decoded, suspended.general, suspended.index,
    suspended.stack, suspended.memory, suspended.screen, suspended.opcode, suspended.generator⟩

theorem Suspended.resume {begun later : Machine} {x : Register} {key : Key}
    (suspended : begun.Suspended x later) (elapsed : Nat)
    (fresh : later.keypad.firstFresh? = some key) :
    begun.Resumed x key (later.stepElapsed elapsed).2 := by
  obtain ⟨timers, schedule, speaker, settled⟩ := settle_frame (later.resumeKeyWait x) elapsed
  rw [stepElapsed_of_acts elapsed (.waited suspended.status), settled, resumeKeyWait_of_some fresh]
  refine ⟨rfl, ?_, ?_, ?_, suspended.index, suspended.stack, suspended.memory,
    suspended.screen, suspended.opcode, suspended.generator⟩
  · change (Address.advance later.registers.pc 2).toNat = _
    rw [Address.advance_toNat, suspended.pc]
    rfl
  · have bound := key.isLt
    change ((later.registers.v.set x.val (UInt8.ofNat key.val))[x.val]).toNat = key.val
    rw [Vector.getElem_set_self, UInt8.toNat_ofNat']
    omega
  · intro other different
    have apart : x.val ≠ other.val := fun same => different (Fin.ext same.symm)
    change (later.registers.v.set x.val (UInt8.ofNat key.val))[other.val] =
      begun.registers.v[other.val]
    rw [Vector.getElem_set_ne _ _ apart, suspended.general]

theorem Polls.silent {count : Nat} (polls : machine.Polls elapsed count)
    (quiet : ∀ key, ¬ machine.Pressed count key) :
    (machine.run elapsed (count + 1)).keypad.firstFresh? = none := by
  rw [Keypad.firstFresh?_eq_none_iff]
  intro key
  rw [← Bool.not_eq_true, polls.fresh]
  exact quiet key

theorem Polls.lowest {count : Nat} (polls : machine.Polls elapsed count)
    (pressed : ∃ key, machine.Pressed count key) :
    ∃ key, machine.LowestPressed count key ∧
      (machine.run elapsed (count + 1)).keypad.firstFresh? = some key := by
  cases found : (machine.run elapsed (count + 1)).keypad.firstFresh? with
  | none =>
    obtain ⟨key, press⟩ := pressed
    have none := Keypad.firstFresh?_eq_none_iff.mp found key
    rw [(polls.fresh key).mpr press] at none
    cases none
  | some key =>
    obtain ⟨fresh, lowest⟩ := Keypad.firstFresh?_eq_some_iff.mp found
    refine ⟨key, ⟨(polls.fresh key).mp fresh, ?_⟩, rfl⟩
    intro other press
    by_cases below : other < key
    · have stale := lowest other below
      rw [(polls.fresh other).mpr press] at stale
      cases stale
    · exact Fin.not_lt.mp below

section

variable {start : Nat} {x : Register}

/-- The step that begins a wait goes on, and so do those that leave the machine suspended. -/
theorem GoesOn.of_begin (regular : machine.schedule.Regular)
    (running : (machine.run elapsed start).status = .running)
    (awaits : Instruction.decode (machine.run elapsed start).fetch.opcode = some (.awaitKey x)) :
    machine.GoesOn elapsed start :=
  .of_acts regular (acts_awaitKey running awaits) rfl

theorem GoesOn.of_waiting {count : Nat} (regular : machine.schedule.Regular)
    (waiting : (machine.run elapsed count).status = .awaitingKey x) :
    machine.GoesOn elapsed count := by
  apply GoesOn.of_acts regular (.waited waiting)
  obtain ⟨v, pc, fresh, status, resumed⟩ := resumeKeyWait_frame (machine.run elapsed count) x
  rw [resumed]
  rfl

/-- A wait goes on as long as no press is sampled. -/
theorem suspended_run (running : (machine.run elapsed start).status = .running)
    (awaits : Instruction.decode (machine.run elapsed start).fetch.opcode = some (.awaitKey x))
    {count : Nat} (begun : start < count)
    (quiet : ∀ earlier, start ≤ earlier → earlier + 1 < count →
      ∀ key, ¬ machine.Pressed earlier key) :
    (machine.run elapsed start).Suspended x (machine.run elapsed count) := by
  induction begun with
  | refl => exact suspended_begin _ running awaits
  | @step count begun ih =>
    have suspended : (machine.run elapsed start).Suspended x (machine.run elapsed count) := by
      apply ih
      intro earlier from_ below
      exact quiet earlier from_ (Nat.lt_succ_of_lt below)
    have reached : start < count := begun
    obtain ⟨waited, rfl⟩ : ∃ waited, count = waited + 1 := ⟨count - 1, by omega⟩
    have polls : machine.Polls elapsed waited :=
      Polls.previous (.of_acts (.waited suspended.status))
    have silent := polls.silent (quiet waited (Nat.le_of_lt_succ reached) (Nat.lt_succ_self _))
    exact suspended.stay _ silent

/-- In a run of a loaded machine let a step execute the instruction that waits for a key. Up to
the step after the first one that samples a press no step fails, and the machine stays suspended
until that step, which stores the lowest key pressed; if there is no press the wait never ends.
A key held as the wait begins does not end it before a sample has the key up. -/
theorem wait_lasts_until_press {base machine : Machine} {program : Program} {elapsed : Nat → Nat}
    {start : Nat} {x : Register} (loaded : base.load program = .ok machine)
    (running : (machine.run elapsed start).status = .running)
    (awaits : Instruction.decode (machine.run elapsed start).fetch.opcode = some (.awaitKey x)) :
    (∀ last, machine.FirstPress start last →
      (∀ count, start ≤ count → count ≤ last + 1 → machine.GoesOn elapsed count) ∧
      (∀ count, start < count → count ≤ last + 1 →
        (machine.run elapsed start).Suspended x (machine.run elapsed count)) ∧
      ∃ key, machine.LowestPressed last key ∧
        (machine.run elapsed start).Resumed x key (machine.run elapsed (last + 2)) ∧
        ((machine.keysAfter start).contains key = true →
          ∃ released, start < released ∧ released ≤ last ∧
            (machine.keysAfter released).contains key = false)) ∧
    ((∀ count, start ≤ count → ∀ key, ¬ machine.Pressed count key) →
      (∀ count, start ≤ count → machine.GoesOn elapsed count) ∧
      ∀ count, start < count →
        (machine.run elapsed start).Suspended x (machine.run elapsed count)) := by
  have regular := (load_restarted loaded).regular
  constructor
  · intro last press
    have reached := press.reached
    have suspended : ∀ count, start < count → count ≤ last + 1 →
        (machine.run elapsed start).Suspended x (machine.run elapsed count) := by
      intro count after before
      apply suspended_run running awaits after
      intro earlier from_ below
      exact press.first earlier from_ (by omega)
    have goesOn : ∀ count, start ≤ count → count ≤ last + 1 →
        machine.GoesOn elapsed count := by
      intro count after before
      by_cases same : count = start
      · rw [same]
        exact .of_begin regular running awaits
      · exact .of_waiting regular (suspended count (by omega) before).status
    have polls := (goesOn last reached (Nat.le_succ last)).polls
    obtain ⟨key, lowest, fresh⟩ := polls.lowest press.pressed
    refine ⟨goesOn, suspended, key, lowest, ?_, ?_⟩
    · exact (suspended (last + 1) (by omega) (Nat.le_refl _)).resume _ fresh
    · intro held
      have up := lowest.1.2
      by_cases same : last = start
      · rw [same, held] at up
        cases up
      · exact ⟨last, by omega, Nat.le_refl _, up⟩
  · intro quiet
    have suspended : ∀ count, start < count →
        (machine.run elapsed start).Suspended x (machine.run elapsed count) := by
      intro count after
      apply suspended_run running awaits after
      intro earlier from_ _
      exact quiet earlier from_
    refine ⟨?_, suspended⟩
    intro count after
    by_cases same : count = start
    · rw [same]
      exact .of_begin regular running awaits
    · exact .of_waiting regular (suspended count (by omega)).status

end

/-- A machine whose second sample finds two keys pressed. -/
def played : Machine := .new .standard (.ofScript [.none, .ofNumbers [5, 9]]) (.ofSeed 0)

def prompt : Machine :=
  { played with memory := .image [0xF0, 0x0A] (by decide), screen := played.screen.clear }

theorem load_played : played.load [0xF0, 0x0A] = .ok prompt := rfl

theorem firstPress_prompt : prompt.FirstPress 0 1 where
  reached := Nat.zero_le 1
  pressed := ⟨5, by decide +kernel⟩
  first earlier _ before := by
    cases Nat.lt_one_iff.mp before
    decide +kernel

theorem wait_lasts_until_press_prompt :
    prompt.FirstPress 0 1 ∧ ∃ key, prompt.LowestPressed 1 key ∧
      prompt.Resumed 0 key (prompt.run (fun _ => prompt.stepTime) 3) := by
  have awaits : Instruction.decode prompt.fetch.opcode = some (.awaitKey 0) := by decide +kernel
  obtain ⟨-, -, key, lowest, resumed, -⟩ :=
    (@wait_lasts_until_press played prompt _ (fun _ => prompt.stepTime) 0 0 load_played rfl
      awaits).1 1 firstPress_prompt
  exact ⟨firstPress_prompt, key, lowest, resumed⟩

end Chip8.Machine
