import Chip8.Proofs.KeyWait

/-! Presses and the key waits they end. Each sample replaces the presses of the one before, so
a wait is ended by the sample just before it and no two waits by the same one. -/
namespace Chip8.Machine

variable {machine : Machine} {elapsed : Nat → Nat}

/-- Whether the step after `count` others samples the keys can be read off its outcome. -/
instance (machine : Machine) (elapsed : Nat → Nat) (count : Nat) :
    Decidable (machine.Polls elapsed count) :=
  match reported : machine.outcome elapsed count with
  | .ok _ => .isTrue fun fault => by rw [reported]; nofun
  | .error (.overrun _) => .isTrue fun fault => by rw [reported]; nofun
  | .error (.fault fault) => .isFalse fun polls => polls fault reported

/-- The step after `count` others ends a key wait and stores a key. -/
def Resolves (machine : Machine) (elapsed : Nat → Nat) (count : Nat) (key : Key) : Prop :=
  match (machine.run elapsed count).status, (machine.run elapsed (count + 1)).status with
  | .awaitingKey x, .running => (machine.run elapsed (count + 1)).v x = UInt8.ofNat key.val
  | _, _ => False

instance (machine : Machine) (elapsed : Nat → Nat) (count : Nat) (key : Key) :
    Decidable (machine.Resolves elapsed count key) := by
  unfold Resolves
  split <;> infer_instance

/-- The step after `count` others samples the keys and finds one pressed. -/
def Sees (machine : Machine) (elapsed : Nat → Nat) (count : Nat) (key : Key) : Prop :=
  machine.Polls elapsed count ∧ machine.Pressed count key

instance (machine : Machine) (elapsed : Nat → Nat) (count : Nat) (key : Key) :
    Decidable (machine.Sees elapsed count key) :=
  inferInstanceAs (Decidable (_ ∧ _))

/-- The step after `count` others ends a key wait with the last press of its key, which the
step after `poll` others saw. -/
structure Uses (machine : Machine) (elapsed : Nat → Nat) (count : Nat) (key : Key)
    (poll : Nat) : Prop where
  resolves : machine.Resolves elapsed count key
  before : poll < count
  sees : machine.Sees elapsed poll key
  last : ∀ later, poll < later → later < count → ¬ machine.Sees elapsed later key

theorem Resolves.pressed {count : Nat} {key : Key} (resolves : machine.Resolves elapsed count key) :
    machine.Polls elapsed count ∧
      (machine.run elapsed count).keypad.firstFresh? = some key := by
  unfold Resolves at resolves
  split at resolves
  · rename_i x waiting running
    have acts : (machine.run elapsed count).Acts _ := .waited waiting
    refine ⟨.of_acts acts, ?_⟩
    obtain ⟨timers, schedule, speaker, settled⟩ :=
      settle_frame ((machine.run elapsed count).resumeKeyWait x) (elapsed count)
    rw [run_succ, stepElapsed_of_acts _ acts, settled] at resolves running
    cases fresh : (machine.run elapsed count).keypad.firstFresh? with
    | none =>
      rw [resumeKeyWait_of_none fresh] at running
      simp [waiting] at running
    | some found =>
      rw [resumeKeyWait_of_some fresh] at resolves
      have stored : UInt8.ofNat found.val = UInt8.ofNat key.val := by
        simpa [v, setV, proceed, goto] using resolves
      have same : found.val = key.val := by
        have values := congrArg UInt8.toNat stored
        simp only [UInt8.toNat_ofNat'] at values
        omega
      rw [Fin.ext same]
  · exact resolves.elim

/-- From a running machine on, a wait ends with a press that the step before it saw. -/
theorem Resolves.sees {count : Nat} {key : Key} (running : machine.status = .running)
    (resolves : machine.Resolves elapsed count key) :
    ∃ poll, count = poll + 1 ∧ machine.Sees elapsed poll key := by
  obtain ⟨polls, fresh⟩ := resolves.pressed
  cases count with
  | zero => simp [Resolves, run, running] at resolves
  | succ poll =>
    have polled := polls.previous
    exact ⟨poll, rfl, polled, (polled.fresh key).mp (Keypad.firstFresh?_eq_some_iff.mp fresh).1⟩

theorem Uses.succ_eq {count poll : Nat} {key : Key} (running : machine.status = .running)
    (uses : machine.Uses elapsed count key poll) : count = poll + 1 := by
  obtain ⟨seen, rfl, sees⟩ := uses.resolves.sees running
  have before := uses.before
  by_cases same : poll = seen
  · rw [same]
  · exact absurd sees (uses.last seen (by omega) (Nat.lt_succ_self seen))

theorem Resolves.uses {count : Nat} {key : Key} (running : machine.status = .running)
    (resolves : machine.Resolves elapsed count key) :
    ∃ poll, machine.Uses elapsed count key poll := by
  obtain ⟨poll, rfl, sees⟩ := resolves.sees running
  refine ⟨poll, resolves, Nat.lt_succ_self poll, sees, ?_⟩
  intro later after before
  omega

private theorem countP_range_succ (test : Nat → Bool) (count : Nat) :
    (List.range (count + 1)).countP test =
      (List.range count).countP test + if test count then 1 else 0 := by
  rw [List.range_succ, List.countP_append, List.countP_singleton]

/-- Each step that ends a wait is counted by the sample just before it. -/
theorem countP_resolves_succ_le (running : machine.status = .running) (count : Nat) (key : Key) :
    (List.range (count + 1)).countP (machine.Resolves elapsed · key) ≤
      (List.range count).countP (machine.Sees elapsed · key) := by
  induction count with
  | zero => simp [Resolves, run, running]
  | succ count ih =>
    rw [countP_range_succ (machine.Resolves elapsed · key) (count + 1),
      countP_range_succ (machine.Sees elapsed · key) count]
    apply Nat.add_le_add ih
    by_cases resolves : machine.Resolves elapsed (count + 1) key
    · obtain ⟨poll, same, sees⟩ := resolves.sees running
      cases Nat.succ.inj same
      simp [sees, resolves]
    · simp [resolves]

/-- In a run of a loaded machine a press ends at most one key wait: no more waits end with a
key than samples find it pressed, each wait that ends uses the press of one sample, and no two
of them a press of the same sample. -/
theorem press_ends_one_wait {base machine : Machine} {program : Program}
    (loaded : base.load program = .ok machine) (elapsed : Nat → Nat) :
    (∀ count key, (List.range count).countP (machine.Resolves elapsed · key) ≤
      (List.range count).countP (machine.Sees elapsed · key)) ∧
    (∀ count key, machine.Resolves elapsed count key →
      ∃ poll, machine.Uses elapsed count key poll) ∧
    (∀ poll count other key otherKey, machine.Uses elapsed count key poll →
      machine.Uses elapsed other otherKey poll → count = other) := by
  have running := (load_restarted loaded).running
  refine ⟨?_, ?_, ?_⟩
  · intro count key
    cases count with
    | zero => exact Nat.le_refl 0
    | succ count =>
      apply Nat.le_trans (countP_resolves_succ_le running count key)
      rw [countP_range_succ (machine.Sees elapsed · key) count]
      exact Nat.le_add_right _ _
  · intro count key resolves
    exact resolves.uses running
  · intro poll count other key otherKey uses usesToo
    rw [uses.succ_eq running, usesToo.succ_eq running]

theorem press_ends_one_wait_prompt :
    prompt.Resolves (fun _ => prompt.stepTime) 2 5 ∧
      (List.range 3).countP (prompt.Resolves (fun _ => prompt.stepTime) · 5) ≤
        (List.range 3).countP (prompt.Sees (fun _ => prompt.stepTime) · 5) :=
  ⟨by decide +kernel, (press_ends_one_wait load_played fun _ => prompt.stepTime).1 3 5⟩

end Chip8.Machine
