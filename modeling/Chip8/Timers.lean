/-! The delay and sound timers. A tone plays exactly while the sound timer is positive,
so a tone event is reported whenever that changes. -/
namespace Chip8

inductive Tone where
  | start
  | stop
  deriving DecidableEq, Repr

/-- The tone event of switching a tone on or off. -/
def Tone.ofSwitch (on : Bool) : Tone := if on then .start else .stop

/-- Two counters that fall to zero. -/
structure Timers where
  delay : UInt8
  sound : UInt8
  deriving DecidableEq, Repr

namespace Timers

def new : Timers := ⟨0, 0⟩

def setDelay (timers : Timers) (value : UInt8) : Timers := { timers with delay := value }

/-- Set the sound timer; an event is due if the tone begins or ends by this. -/
def setSound (timers : Timers) (value : UInt8) : Timers × Option Tone :=
  let event :=
    if timers.sound = 0 then (if value = 0 then none else some .start)
    else if value = 0 then some .stop else none
  ({ timers with sound := value }, event)

/-- Count the delay timer down, stopping at zero. -/
def tickDelay (timers : Timers) : Timers :=
  if timers.delay = 0 then timers else { timers with delay := timers.delay - 1 }

/-- Count the sound timer down; the tone ends as it reaches zero. -/
def tickSound (timers : Timers) : Timers × Option Tone :=
  if timers.sound = 0 then (timers, none)
  else ({ timers with sound := timers.sound - 1 }, if timers.sound = 1 then some .stop else none)

private theorem toNat_pred {value : UInt8} (positive : value ≠ 0) :
    (value - 1).toNat = value.toNat - 1 := by
  have one : 1 ≤ value.toNat := Nat.pos_of_ne_zero fun zero => positive (UInt8.toNat_inj.mp zero)
  exact UInt8.toNat_sub_of_le _ _ one

theorem tickDelay_effect (timers : Timers) :
    timers.tickDelay.delay.toNat = timers.delay.toNat - 1 ∧
      timers.tickDelay.sound = timers.sound := by
  rw [tickDelay]
  split
  · rename_i rest
    exact ⟨by rw [rest]; rfl, rfl⟩
  · rename_i positive
    exact ⟨toNat_pred positive, rfl⟩

theorem tickSound_effect (timers : Timers) :
    timers.tickSound.1.sound.toNat = timers.sound.toNat - 1 ∧
      timers.tickSound.1.delay = timers.delay ∧
      timers.tickSound.2 = if timers.sound.toNat = 1 then some .stop else none := by
  have one : timers.sound = 1 ↔ timers.sound.toNat = 1 := UInt8.toNat_inj.symm
  rw [tickSound]
  split
  · rename_i rest
    exact ⟨by rw [rest]; rfl, rfl, by rw [rest]; rfl⟩
  · rename_i positive
    exact ⟨toNat_pred positive, rfl, by simp only [one]⟩

end Timers
end Chip8
