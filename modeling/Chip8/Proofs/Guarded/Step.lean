import Chip8.Proofs.Guarded.Execute
import Chip8.Proofs.Timing

namespace Chip8.Guarded

/-- Take whole periods off a time one by one; a count has 32 bits, and a period of no length
would never be used up. -/
def drain (period pending due : Nat) : Option (Nat × Nat) :=
  if period ≤ pending then
    if 0 < period then
      if due + 1 < Schedule.countLimit then drain period (pending - period) (due + 1) else none
    else none
  else some (due, pending)
termination_by pending

/-- Count one sound tick; the tone ends as the timer reaches zero. -/
def tickSound (timers : Timers) : Option (Timers × Option Tone) :=
  if timers.sound = 0 then some (timers, none)
  else if timers.sound = 1 then some ({ timers with sound := 0 }, some .stop)
  else do
    let sound ← subtract timers.sound.toNat 1
    return ({ timers with sound := UInt8.ofNat sound }, none)

def pressedSince (before keys : List Bool) (key : Nat) : Option Bool := do
  return (← read keys key) && !(← read before key)

theorem drain_eq {period : Nat} (positive : 0 < period) (pending due : Nat)
    (few : due + pending / period < Schedule.countLimit) :
    drain period pending due = some (due + pending / period, pending % period) := by
  induction pending using Nat.strongRecOn generalizing due with
  | ind pending ih =>
    rw [drain]
    by_cases whole : period ≤ pending
    · have counted : due + pending / period = due + 1 + (pending - period) / period := by
        rw [Nat.div_eq_sub_div positive whole, Nat.add_right_comm, Nat.add_assoc]
      have less : pending - period < pending := Nat.sub_lt_of_pos_le positive whole
      rw [counted] at few
      have room : due + 1 < Schedule.countLimit := Nat.lt_of_le_of_lt (Nat.le_add_right _ _) few
      rw [if_pos whole, if_pos positive, if_pos room, ih _ less _ few, counted,
        ← Nat.mod_eq_sub_mod whole]
    · have short : pending < period := Nat.lt_of_not_le whole
      rw [if_neg whole, Nat.div_eq_of_lt short, Nat.mod_eq_of_lt short, Nat.add_zero]

theorem pressedSince_of (before sample : KeySet) {key : Nat} (inside : key < 16) :
    pressedSince before.down.toList sample.down.toList key =
      some (sample.down.toList.getD key false && !before.down.toList.getD key false) := by
  have within (keys : KeySet) : key < keys.down.toList.length := by simpa using inside
  rw [pressedSince, read_of_lt (within sample) false, read_of_lt (within before) false]
  rfl

theorem findIdx?_fresh (keypad : Keypad) :
    keypad.fresh.down.toList.findIdx? id = keypad.firstFresh?.map Fin.val := by
  cases first : keypad.firstFresh? with
  | none =>
    have silent := Keypad.firstFresh?_eq_none_iff.mp first
    rw [Option.map_none, List.findIdx?_eq_none_iff]
    intro pressed member
    obtain ⟨key, inside, found⟩ := List.getElem_of_mem member
    have within : key < 16 := by simpa using inside
    rw [← found]
    simpa [KeySet.contains] using silent ⟨key, within⟩
  | some key =>
    obtain ⟨fresh, lowest⟩ := Keypad.firstFresh?_eq_some_iff.mp first
    rw [Option.map_some, List.findIdx?_eq_some_iff_getElem]
    refine ⟨by simp, by simpa [KeySet.contains] using fresh, ?_⟩
    intro other before
    have within : other < 16 := Nat.lt_trans before key.isLt
    have stale := lowest ⟨other, within⟩ before
    simpa [KeySet.contains] using stale

theorem set_fresh (keypad : Keypad) (key : Key) :
    keypad.fresh.down.toList.set key.val false =
      (keypad.takePress (UInt8.ofNat key.val)).fresh.down.toList := by
  apply List.ext_getElem
  · simp
  · intro other inside _
    have bound := key.isLt
    have small : key.val % 256 = key.val := Nat.mod_eq_of_lt (by omega)
    by_cases same : key.val = other
    · subst same
      simp [Keypad.takePress, KeySet.ofTest, small]
    · simp [Keypad.takePress, KeySet.ofTest, KeySet.contains, same, Ne.symm same, small]

theorem tickSound_eq (timers : Timers) : tickSound timers = some timers.tickSound := by
  rw [tickSound, Timers.tickSound]
  by_cases silent : timers.sound = 0
  · rw [if_pos silent, if_pos silent]
  · rw [if_neg silent, if_neg silent]
    by_cases last : timers.sound = 1
    · rw [if_pos last, if_pos last, last]
      rfl
    · have positive : 1 ≤ timers.sound.toNat := by
        have nonzero : timers.sound.toNat ≠ 0 := fun zero => silent (UInt8.toNat_inj.mp zero)
        omega
      have rest : UInt8.ofNat (timers.sound.toNat - 1) = timers.sound - 1 := by
        rw [← UInt8.toNat_inj, UInt8.toNat_ofNat', UInt8.toNat_sub_of_le _ _ positive]
        have bound := timers.sound.toNat_lt
        exact Nat.mod_eq_of_lt (by omega)
      rw [if_neg last, if_neg last, subtract_of_le positive, ← rest]
      rfl

namespace State

def tickTimers (state : State) : Option State := do
  let (timers, tone) ← tickSound state.timers.tickDelay
  return { state with timers := timers, speaker := state.speaker.playSome tone }

def tickTimersFor (state : State) : Nat → Option State
  | 0 => some state
  | count + 1 => do (← state.tickTimers).tickTimersFor count

/-- Take the next sample of the keys; a press is fresh if the key was up in the one before. -/
def sampleKeys (state : State) : Option State := do
  let (sample, feed) := state.feed.poll
  let keys := sample.down.toList
  let fresh ← (List.range 16).foldlM
    (fun fresh key => do write fresh key (← pressedSince state.held keys key)) state.fresh
  return { state with held := keys, fresh := fresh, feed := feed }

/-- Let time pass and count the timers down as often as is due. -/
def catchUp (state : State) (elapsed : Nat) : Option State := do
  let total ← add Schedule.durationLimit state.pending elapsed
  let (due, pending) ← drain state.period total 0
  { state with pending := pending }.tickTimersFor due

def settle (state : State) (elapsed : Nat) : Option (Except Fault Report × State) := do
  let after ← (← state.sampleKeys).catchUp elapsed
  return (.ok ⟨after.needsRedraw⟩, after)

def fetch (state : State) : Option State := do
  let left ← state.readByte state.pc
  let right ← state.readByte (state.pc + 1)
  return { state with opcode := .ofBytes left right }

def dispatch (state : State) : Option (Except Fault State) :=
  match Instruction.decode state.opcode with
  | none => some (.error (.unknownOpcode state.opcode.word state.pc))
  | some instruction => state.execute instruction

def resumeKeyWait (state : State) (x : Nat) : Option State :=
  match state.fresh.findIdx? id with
  | none => some state
  | some key => do
    let resumed := (← state.setV x (UInt8.ofNat key)).proceed
    return { resumed with fresh := state.fresh.set key false, status := .running }

def stepElapsed (state : State) (elapsed : Nat) : Option (Except Fault Report × State) :=
  match state.status with
  | .halted fault => some (.error fault, state)
  | .awaitingKey x => do (← state.resumeKeyWait x).settle elapsed
  | .running => do
    let fetched ← state.fetch
    match ← fetched.dispatch with
    | .error fault => return (.error fault, { fetched with status := .halted fault })
    | .ok executed => executed.settle elapsed

variable (machine : Machine)

theorem tickTimers_of : (of machine).tickTimers = some (of machine.tickTimers) := by
  rw [tickTimers, tickSound_eq]
  rfl

theorem tickTimersFor_of (count : Nat) :
    (of machine).tickTimersFor count = some (of (machine.tickTimersFor count)) := by
  induction count generalizing machine with
  | zero => rfl
  | succ count ih =>
    rw [tickTimersFor, tickTimers_of, Machine.tickTimersFor_succ]
    exact ih machine.tickTimers

theorem sampleKeys_of : (of machine).sampleKeys = some (of machine.sampleKeys) := by
  have room : 16 ≤ machine.keypad.fresh.down.toList.length :=
    Nat.le_of_eq Vector.length_toList.symm
  have filled := fill room fun key inside =>
    pressedSince_of machine.keypad.held machine.feed.poll.1 inside
  have fresh : (List.range 16).map (fun key => machine.feed.poll.1.down.toList.getD key false &&
      !machine.keypad.held.down.toList.getD key false) ++
        machine.keypad.fresh.down.toList.drop 16 = machine.sampleKeys.keypad.fresh.down.toList := by
    apply List.ext_getElem
    · simp
    · intro key inside _
      have within : key < 16 := by simpa using inside
      simp [Machine.sampleKeys, Keypad.update, KeySet.ofTest, KeySet.contains, within]
  have sampled : (List.range 16).foldlM (fun fresh key => do
      write fresh key (← pressedSince (of machine).held machine.feed.poll.1.down.toList key))
        (of machine).fresh = some _ := filled.trans (congrArg some fresh)
  rw [sampleKeys]
  change ((List.range 16).foldlM (fun fresh key => do
      write fresh key (← pressedSince (of machine).held machine.feed.poll.1.down.toList key))
        (of machine).fresh).bind _ = _
  rw [sampled]
  rfl

theorem catchUp_of {elapsed : Nat} (regular : machine.schedule.Regular)
    (tolerable : elapsed < Schedule.tolerance) :
    ∃ after, machine.catchUp elapsed = .ok after ∧
      (of machine).catchUp elapsed = some (of after) := by
  obtain ⟨positive, short, few⟩ := regular.bounds tolerable
  refine ⟨_, by rw [Machine.catchUp, regular.advance tolerable], ?_⟩
  have total : add Schedule.durationLimit (of machine).pending elapsed = some _ := add_of_lt short
  have drained : drain (of machine).period ((of machine).pending + elapsed) 0 = some _ :=
    drain_eq positive _ 0 ((Nat.zero_add _).symm ▸ few)
  rw [catchUp, total]
  simp only [Option.bind_eq_bind, Option.bind_some, drained, Nat.zero_add]
  exact tickTimersFor_of { machine with schedule := { machine.schedule with
    pending := (machine.schedule.pending + elapsed) % machine.schedule.period } } _

theorem fetch_of : (of machine).fetch = some (of machine.fetch) := by
  rw [fetch, readByte_of]
  change ((of machine).readByte (machine.registers.pc + 1)).bind _ = _
  rw [readByte_of]
  rfl

theorem dispatch_of : (of machine).dispatch = some (machine.dispatch.map of) := by
  rw [dispatch, Machine.dispatch]
  change (match Instruction.decode machine.opcode with | none => _ | some instruction => _) = _
  cases Instruction.decode machine.opcode with
  | none => rfl
  | some instruction => exact execute_of machine instruction

theorem resumeKeyWait_of (x : Register) :
    (of machine).resumeKeyWait x.val = some (of (machine.resumeKeyWait x)) := by
  have found := findIdx?_fresh machine.keypad
  cases first : machine.keypad.firstFresh? with
  | none =>
    rw [first] at found
    have silent : (of machine).fresh.findIdx? id = none := found
    rw [resumeKeyWait, silent, Machine.resumeKeyWait_of_none first]
  | some key =>
    rw [first] at found
    have pressed : (of machine).fresh.findIdx? id = some key.val := found
    have taken : (of machine).fresh.set key.val false = _ := set_fresh machine.keypad key
    rw [resumeKeyWait, pressed, Machine.resumeKeyWait_of_some first]
    simp only [setV_of, Option.bind_eq_bind, Option.bind_some, taken]
    rfl

theorem settle_of {elapsed : Nat} (regular : machine.schedule.Regular)
    (tolerable : elapsed < Schedule.tolerance) :
    ∃ report after, machine.settle elapsed = (.ok report, after) ∧
      (of machine).settle elapsed = some (.ok report, of after) := by
  obtain ⟨after, caught, guarded⟩ := catchUp_of machine.sampleKeys regular tolerable
  refine ⟨_, after, by rw [Machine.settle, caught], ?_⟩
  rw [settle, sampleKeys_of]
  simp only [Option.bind_eq_bind, Option.bind_some, guarded]
  rfl

/-- A step after a time that can be tolerated passes its guards; it has the result and the
effect that the machine gives it. -/
theorem stepElapsed_of {elapsed : Nat} (regular : machine.schedule.Regular)
    (tolerable : elapsed < Schedule.tolerance) :
    ∃ result after, machine.stepElapsed elapsed = (result.mapError .fault, after) ∧
      (of machine).stepElapsed elapsed = some (result, of after) := by
  have fetched := dispatch_of machine.fetch
  cases status : machine.status with
  | halted fault =>
    have halted : (of machine).status = .halted fault := congrArg statusOf status
    refine ⟨.error fault, machine, Machine.stepElapsed_of_halted elapsed status, ?_⟩
    rw [stepElapsed, halted]
  | awaitingKey x =>
    have waiting : (of machine).status = .awaitingKey x.val := congrArg statusOf status
    have acts : machine.Acts _ := .waited status
    have steady : (machine.resumeKeyWait x).schedule.Regular := acts.keeps.schedule ▸ regular
    obtain ⟨report, after, settled, guarded⟩ := settle_of _ steady tolerable
    refine ⟨.ok report, after, (Machine.stepElapsed_of_acts elapsed acts).trans settled, ?_⟩
    rw [stepElapsed, waiting]
    simp only [resumeKeyWait_of, Option.bind_eq_bind, Option.bind_some, guarded]
  | running =>
    have running : (of machine).status = .running := congrArg statusOf status
    cases dispatched : machine.fetch.dispatch with
    | error fault =>
      refine ⟨.error fault, _, Machine.stepElapsed_of_error elapsed status dispatched, ?_⟩
      rw [stepElapsed, running]
      simp only [fetch_of, Option.bind_eq_bind, Option.bind_some, fetched, dispatched, Except.map]
      rfl
    | ok executed =>
      have acts : machine.Acts executed := .executed status dispatched
      have steady : executed.schedule.Regular := acts.keeps.schedule ▸ regular
      obtain ⟨report, after, settled, guarded⟩ := settle_of _ steady tolerable
      refine ⟨.ok report, after, (Machine.stepElapsed_of_acts elapsed acts).trans settled, ?_⟩
      rw [stepElapsed, running]
      simp only [fetch_of, Option.bind_eq_bind, Option.bind_some, fetched, dispatched, Except.map,
        guarded]

end State
end Chip8.Guarded
