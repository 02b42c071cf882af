import Chip8.Schedule
import Mathlib.Logic.Relation

/-! Counting periods one by one. A schedule finds its count by taking whole periods off the time
until less than one is left. The loop ends exactly if the time is a duration, the period has a
length and the count fits, and it ends with the quotient and the remainder. -/
namespace Chip8.Schedule

/-- One turn of the loop, on the time that is left and the count: a whole period is taken off
and counted. -/
inductive Turn (period : Nat) : Nat × Nat → Nat × Nat → Prop where
  | take {left due : Nat} (whole : period ≤ left) (room : due + 1 < countLimit) :
      Turn period (left, due) (left - period, due + 1)

/-- The loop counts a time: all that has passed is a duration, and turns lead from it and from
zero to a count and a rest below the period, which stays pending. -/
structure Counts (schedule : Schedule) (elapsed due : Nat) (after : Schedule) : Prop where
  short : schedule.pending + elapsed < durationLimit
  turns : Relation.ReflTransGen (Turn schedule.period) (schedule.pending + elapsed, 0)
    (after.pending, due)
  stops : after.pending < schedule.period
  period_eq : after.period = schedule.period

/-- The periods counted and the time left add up to the time at the beginning, and the count
fits. -/
def Tallies (period total : Nat) (state : Nat × Nat) : Prop :=
  period * state.2 + state.1 = total ∧ state.2 < countLimit

theorem Turn.tallies {period total : Nat} {state next : Nat × Nat} (turn : Turn period state next)
    (tallies : Tallies period total state) : Tallies period total next := by
  cases turn with
  | @take left due whole room =>
    obtain ⟨sum, -⟩ := tallies
    refine ⟨?_, room⟩
    change period * (due + 1) + (left - period) = total
    rw [Nat.mul_succ, Nat.add_assoc, Nat.add_sub_of_le whole]
    exact sum

theorem tallies_of_turns {period total : Nat} {state : Nat × Nat}
    (turns : Relation.ReflTransGen (Turn period) (total, 0) state) :
    Tallies period total state := by
  induction turns with
  | refl => exact ⟨by rw [Nat.mul_zero, Nat.zero_add], (by decide : 0 < countLimit)⟩
  | tail _ turn ih => exact turn.tallies ih

/-- As many turns can be made as there are whole periods, if their number fits. -/
theorem turns_of_le {period total : Nat} (count : Nat) (whole : period * count ≤ total)
    (room : count < countLimit) :
    Relation.ReflTransGen (Turn period) (total, 0) (total - period * count, count) := by
  induction count with
  | zero => exact .refl
  | succ count ih =>
    rw [Nat.mul_succ] at whole ⊢
    have enough : period ≤ total - period * count := by omega
    have turn := Turn.take enough room
    rw [Nat.sub_sub] at turn
    exact (ih (by omega) (Nat.lt_of_succ_lt room)).tail turn

/-- With a period of some length the loop cannot go on for ever: the time that is left falls. -/
theorem turns_end {period : Nat} (positive : 0 < period) :
    WellFounded fun next state => Turn period state next := by
  refine Subrelation.wf ?_ (measure (Prod.fst : Nat × Nat → Nat)).wf
  intro next state turn
  cases turn with
  | take whole room => exact Nat.sub_lt_of_pos_le positive whole

/-- The loop ends exactly with what the quotient and the remainder give. -/
theorem counts_iff_advance {schedule after : Schedule} {elapsed due : Nat} :
    schedule.Counts elapsed due after ↔ schedule.advance elapsed = .ok (due, after) := by
  rw [advance_eq_ok_iff]
  constructor
  · rintro ⟨short, turns, stops, samePeriod⟩
    -- With a rest below the period, the tally is a division with remainder.
    obtain ⟨sum, room⟩ := tallies_of_turns turns
    have positive : 0 < schedule.period := Nat.zero_lt_of_lt stops
    have quotient : (schedule.pending + elapsed) / schedule.period = due := by
      rw [← sum, Nat.mul_add_div positive, Nat.div_eq_of_lt stops, Nat.add_zero]
    have remainder : (schedule.pending + elapsed) % schedule.period = after.pending := by
      rw [← sum, Nat.mul_add_mod, Nat.mod_eq_of_lt stops]
    refine ⟨⟨short, positive, quotient.symm ▸ room⟩, quotient.symm, ?_⟩
    rw [remainder, ← samePeriod]
  · rintro ⟨⟨short, positive, few⟩, rfl, rfl⟩
    have whole := Nat.mul_div_le (schedule.pending + elapsed) schedule.period
    have turns := turns_of_le _ whole few
    rw [← Nat.mod_eq_sub_mul_div] at turns
    exact ⟨short, turns, Nat.mod_lt _ positive, rfl⟩

/-- The schedules of a rate: a new one, and those that letting time pass leads to. -/
inductive Reached (hertz : Nat) : Schedule → Prop where
  | start : Reached hertz (.ofRate hertz)
  | advanced {schedule after : Schedule} {elapsed due : Nat} (before : Reached hertz schedule)
      (counts : schedule.Counts elapsed due after) : Reached hertz after

/-- Up to the rate of one period a nanosecond, periods have a length. -/
theorem period_ofRate_pos {hertz : Nat} (slow : hertz ≤ 1000000000) :
    0 < (ofRate hertz).period := by
  have most : max hertz 1 ≤ nanosPerSecond := Nat.max_le.mpr ⟨slow, by decide⟩
  exact Nat.div_pos most (Nat.lt_of_lt_of_le Nat.one_pos (Nat.le_max_right hertz 1))

theorem Reached.pending_lt {hertz : Nat} {schedule : Schedule} (slow : hertz ≤ 1000000000)
    (reached : Reached hertz schedule) :
    schedule.period = (ofRate hertz).period ∧ schedule.pending < schedule.period := by
  induction reached with
  | start => exact ⟨rfl, period_ofRate_pos slow⟩
  | advanced before counts ih =>
    obtain ⟨samePeriod, -⟩ := ih
    exact ⟨counts.period_eq.trans samePeriod, counts.period_eq ▸ counts.stops⟩

/-- For every rate up to one period a nanosecond, of every schedule of it and every time, the
loop cannot go on for ever, and it ends with a count exactly if all that has passed is a duration
and holds a number of periods that fits. The count is that number, as the schedule tells it, and
the remainder stays pending, which is below the period. -/
theorem loop_counts_whole_periods {hertz : Nat} (slow : hertz ≤ 1000000000) {schedule : Schedule}
    (reached : Reached hertz schedule) (elapsed : Nat) :
    (schedule.period = 1000000000 / max hertz 1 ∧ schedule.pending < schedule.period ∧
        WellFounded fun next state => Turn schedule.period state next) ∧
      ((∃ due after, schedule.Counts elapsed due after) ↔
        schedule.pending + elapsed < durationLimit ∧
          (schedule.pending + elapsed) / schedule.period < countLimit) ∧
      ∀ due after, schedule.Counts elapsed due after →
        schedule.advance elapsed = .ok (due, after) ∧
          due = (schedule.pending + elapsed) / schedule.period ∧
          after = ⟨schedule.period, (schedule.pending + elapsed) % schedule.period⟩ ∧
          after.pending < after.period := by
  obtain ⟨samePeriod, pending⟩ := reached.pending_lt slow
  have positive : 0 < schedule.period := Nat.zero_lt_of_lt pending
  refine ⟨⟨samePeriod, pending, turns_end positive⟩, ⟨?_, ?_⟩, ?_⟩
  · rintro ⟨due, after, counts⟩
    obtain ⟨⟨short, -, few⟩, -⟩ := advance_eq_ok_iff.mp (counts_iff_advance.mp counts)
    exact ⟨short, few⟩
  · rintro ⟨short, few⟩
    exact ⟨_, _, counts_iff_advance.mpr
      (advance_eq_ok_iff.mpr ⟨⟨short, positive, few⟩, rfl, rfl⟩)⟩
  · intro due after counts
    have advanced := counts_iff_advance.mp counts
    obtain ⟨-, quotient, remainder⟩ := advance_eq_ok_iff.mp advanced
    exact ⟨advanced, quotient, remainder, counts.period_eq ▸ counts.stops⟩

/-- At 60 periods a second, a second leaves 40 nanoseconds. -/
theorem reached_sixty : Reached 60 ⟨16666666, 40⟩ := by
  have second : (ofRate 60).Counts 1000000000 60 ⟨16666666, 40⟩ :=
    counts_iff_advance.mpr (advance_eq_ok_iff.mpr (by decide))
  exact .advanced .start second

/-- With what is left of a second, 40 nanoseconds less than a period are a whole one. -/
theorem loop_counts_whole_periods_sixty :
    60 ≤ 1000000000 ∧ Reached 60 ⟨16666666, 40⟩ ∧
      Counts ⟨16666666, 40⟩ 16666626 1 ⟨16666666, 0⟩ := by
  have slow : 60 ≤ 1000000000 := by decide
  obtain ⟨-, ends, counted⟩ := loop_counts_whole_periods slow reached_sixty 16666626
  obtain ⟨due, after, counts⟩ := ends.mpr (by decide)
  obtain ⟨-, rfl, rfl, -⟩ := counted due after counts
  exact ⟨slow, reached_sixty, counts⟩

/-- No count is told of a time that makes up 2^64 seconds with what is pending, nor of one that
holds 2^32 periods, nor at a rate whose period has no length. -/
theorem loop_overruns :
    Reached 1 ⟨1000000000, 999999999⟩ ∧ 18446744073709551615000000001 < durationLimit ∧
      (∀ due after,
        ¬ Counts ⟨1000000000, 999999999⟩ 18446744073709551615000000001 due after) ∧
      (∀ due after, ¬ (ofRate 1).Counts 4294967296000000000 due after) ∧
      ∀ due after, ¬ (ofRate 2000000000).Counts 0 due after := by
  have almost : (ofRate 1).Counts 999999999 0 ⟨1000000000, 999999999⟩ :=
    counts_iff_advance.mpr (advance_eq_ok_iff.mpr (by decide))
  refine ⟨.advanced .start almost, by decide, ?_, ?_, ?_⟩
  · intro due after counts
    have long := counts.short
    revert long
    decide
  · intro due after counts
    obtain ⟨⟨-, -, few⟩, -⟩ := advance_eq_ok_iff.mp (counts_iff_advance.mp counts)
    revert few
    decide
  · intro due after counts
    have endless : (ofRate 2000000000).period = 0 := by decide
    have stops := counts.stops
    rw [endless] at stops
    exact Nat.not_lt_zero _ stops

end Chip8.Schedule
