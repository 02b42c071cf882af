import Chip8.Proofs.Stepping

namespace Chip8

namespace KeyFeed

/-- What is left of a feed after a number of samples. -/
def after (feed : KeyFeed) : Nat → KeyFeed
  | 0 => feed
  | count + 1 => (feed.after count).poll.2

/-- The samples of a feed, counted from zero. -/
def sample (feed : KeyFeed) (count : Nat) : KeySet := (feed.after count).poll.1

end KeyFeed

namespace Machine

/-- The machine after a number of steps; the step after `count` others takes `elapsed count`. -/
def run (machine : Machine) (elapsed : Nat → Nat) : Nat → Machine
  | 0 => machine
  | count + 1 => ((machine.run elapsed count).stepElapsed (elapsed count)).2

/-- What the step after `count` others tells its host. -/
def outcome (machine : Machine) (elapsed : Nat → Nat) (count : Nat) : Except Failure Report :=
  ((machine.run elapsed count).stepElapsed (elapsed count)).1

/-- The keys last sampled after a number of steps: those held at first, then those that the
last step sampled. -/
def keysAfter (machine : Machine) : Nat → KeySet
  | 0 => machine.keypad.held
  | count + 1 => machine.feed.sample count

/-- The step after `count` others samples a key that the sample before it has up. -/
def Pressed (machine : Machine) (count : Nat) (key : Key) : Prop :=
  (machine.keysAfter (count + 1)).contains key = true ∧
    (machine.keysAfter count).contains key = false

instance (machine : Machine) (count : Nat) (key : Key) : Decidable (machine.Pressed count key) :=
  inferInstanceAs (Decidable (_ ∧ _))

/-- The step after `count` others samples the keys: it is not stopped by a fault. -/
def Polls (machine : Machine) (elapsed : Nat → Nat) (count : Nat) : Prop :=
  ∀ fault, machine.outcome elapsed count ≠ .error (.fault fault)

variable {machine : Machine} {elapsed : Nat → Nat}

theorem run_succ (count : Nat) :
    machine.run elapsed (count + 1) =
      ((machine.run elapsed count).stepElapsed (elapsed count)).2 := rfl

theorem Polls.acts {count : Nat} (polls : machine.Polls elapsed count) :
    ∃ acted, (machine.run elapsed count).Acts acted ∧
      (machine.run elapsed count).stepElapsed (elapsed count) = acted.settle (elapsed count) := by
  rcases stepElapsed_cases (machine.run elapsed count) (elapsed count) with
    ⟨fault, -, stepped⟩ | ⟨fault, -, -, stepped⟩ | settled
  · exact absurd (congrArg Prod.fst stepped) (polls fault)
  · exact absurd (congrArg Prod.fst stepped) (polls fault)
  · exact settled

theorem Polls.of_acts {count : Nat} {acted : Machine}
    (acts : (machine.run elapsed count).Acts acted) : machine.Polls elapsed count := by
  intro fault
  rw [outcome, stepElapsed_of_acts _ acts]
  exact settle_ne_fault acted _ fault

/-- A machine stays halted, and a step that a fault stops halts it. -/
theorem halted_of_not_polls {count : Nat} (stopped : ¬ machine.Polls elapsed count) :
    ∃ fault, (machine.run elapsed (count + 1)).status = .halted fault := by
  rw [run_succ]
  rcases stepElapsed_cases (machine.run elapsed count) (elapsed count) with
    ⟨fault, halted, stepped⟩ | ⟨fault, -, -, stepped⟩ | ⟨acted, acts, -⟩
  · exact ⟨fault, by rw [stepped]; exact halted⟩
  · exact ⟨fault, by rw [stepped]⟩
  · exact absurd (Polls.of_acts acts) stopped

theorem not_polls_of_halted {count : Nat} {fault : Fault}
    (halted : (machine.run elapsed count).status = .halted fault) :
    ¬ machine.Polls elapsed count := by
  intro polls
  apply polls fault
  rw [outcome, stepElapsed_of_halted _ halted]

theorem Polls.previous {count : Nat} (polls : machine.Polls elapsed (count + 1)) :
    machine.Polls elapsed count := by
  by_cases polled : machine.Polls elapsed count
  · exact polled
  · obtain ⟨fault, halted⟩ := halted_of_not_polls polled
    exact absurd polls (not_polls_of_halted halted)

theorem Polls.earlier {count earlier : Nat} (polls : machine.Polls elapsed count)
    (before : earlier ≤ count) : machine.Polls elapsed earlier := by
  induction before with
  | refl => exact polls
  | step _ ih => exact ih polls.previous

theorem Polls.keypad {count : Nat} (polls : machine.Polls elapsed count) :
    (machine.run elapsed (count + 1)).keypad =
        (machine.run elapsed count).keypad.update (machine.run elapsed count).feed.poll.1 ∧
      (machine.run elapsed (count + 1)).feed = (machine.run elapsed count).feed.poll.2 := by
  obtain ⟨acted, acts, stepped⟩ := polls.acts
  have kept := acts.keeps
  obtain ⟨timers, schedule, speaker, settled⟩ := settle_frame acted (elapsed count)
  rw [run_succ, stepped, settled]
  constructor
  · change acted.keypad.update acted.feed.poll.1 = _
    rw [kept.feed, Keypad.update, kept.held]
    rfl
  · change acted.feed.poll.2 = _
    rw [kept.feed]

/-- As long as all steps sample the keys, each takes the sample that is its turn. -/
theorem keys_run {count : Nat}
    (polled : ∀ earlier, earlier < count → machine.Polls elapsed earlier) :
    (machine.run elapsed count).keypad.held = machine.keysAfter count ∧
      (machine.run elapsed count).feed = machine.feed.after count := by
  induction count with
  | zero => exact ⟨rfl, rfl⟩
  | succ count ih =>
    obtain ⟨-, feed⟩ := ih fun earlier before => polled earlier (Nat.lt_succ_of_lt before)
    obtain ⟨updated, rest⟩ := (polled count (Nat.lt_succ_self count)).keypad
    rw [updated, rest, feed]
    exact ⟨rfl, rfl⟩

theorem Polls.fresh {count : Nat} (polls : machine.Polls elapsed count) (key : Key) :
    (machine.run elapsed (count + 1)).keypad.fresh.contains key = true ↔
      machine.Pressed count key := by
  obtain ⟨held, feed⟩ :=
    keys_run fun earlier before => polls.earlier (Nat.le_of_lt before)
  rw [polls.keypad.1, Keypad.fresh_update, held, feed, Bool.and_eq_true, Bool.not_eq_true']
  exact Iff.rfl

end Machine
end Chip8
