import Chip8.ClockSpeed

namespace Chip8

/-- What stops a schedule from counting: a period of no length is never used up, a duration
has at most 2^64 seconds, and a count 32 bits. -/
inductive Overrun where
  | endless
  | duration
  | count
  deriving DecidableEq, Repr

/-- A period and the time that has passed since its last whole multiple, in nanoseconds. -/
structure Schedule where
  period : Nat
  pending : Nat
  deriving DecidableEq, Repr

namespace Schedule

/-- The least duration that cannot be held. -/
def durationLimit : Nat := UInt64.size * nanosPerSecond

/-- The least count that cannot be held. -/
def countLimit : Nat := UInt32.size

/-- A schedule of the given number of periods per second, at least one. -/
def ofRate (hertz : Nat) : Schedule := ⟨nanosPerSecond / max hertz 1, 0⟩

/-- Let time pass: the number of periods that fell due, and the schedule after them. -/
def advance (schedule : Schedule) (elapsed : Nat) : Except Overrun (Nat × Schedule) :=
  let total := schedule.pending + elapsed
  if durationLimit ≤ total then .error .duration
  else if schedule.period = 0 then .error .endless
  else if countLimit ≤ total / schedule.period then .error .count
  else .ok (total / schedule.period, { schedule with pending := total % schedule.period })

/-- A schedule tells the quotient and keeps the remainder, if there are such and they fit. -/
theorem advance_eq_ok_iff {schedule after : Schedule} {elapsed due : Nat} :
    schedule.advance elapsed = .ok (due, after) ↔
      (schedule.pending + elapsed < durationLimit ∧ 0 < schedule.period ∧
        (schedule.pending + elapsed) / schedule.period < countLimit) ∧
      due = (schedule.pending + elapsed) / schedule.period ∧
        after = { schedule with pending := (schedule.pending + elapsed) % schedule.period } := by
  constructor
  · intro advanced
    simp only [advance] at advanced
    split at advanced
    · cases advanced
    rename_i short
    split at advanced
    · cases advanced
    rename_i long
    split at advanced
    · cases advanced
    rename_i few
    cases advanced
    exact ⟨⟨Nat.lt_of_not_le short, Nat.pos_of_ne_zero long, Nat.lt_of_not_le few⟩,
      rfl, rfl⟩
  · rintro ⟨⟨short, positive, few⟩, rfl, rfl⟩
    simp only [advance, if_neg (Nat.not_le_of_lt short), if_neg (Nat.ne_of_gt positive),
      if_neg (Nat.not_le_of_lt few)]

/-- The periods counted and the remainder kept add up to the time that has passed. -/
theorem advance_total {schedule after : Schedule} {elapsed count : Nat}
    (advanced : schedule.advance elapsed = .ok (count, after)) :
    after.period * count + after.pending = schedule.pending + elapsed := by
  obtain ⟨-, rfl, rfl⟩ := advance_eq_ok_iff.mp advanced
  exact Nat.div_add_mod _ _

end Schedule
end Chip8
