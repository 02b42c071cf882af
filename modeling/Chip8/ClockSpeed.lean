namespace Chip8

def nanosPerSecond : Nat := 1000000000

inductive ClockError where
  | zero
  | tooHigh (speed limit : Nat)
  deriving DecidableEq, Repr

namespace ClockError

def message : ClockError → String
  | zero => "clock speed must be at least one instruction per second"
  | tooHigh speed limit =>
    "clock speed of " ++ toString speed ++ " instructions per second is above the maximum of " ++
      toString limit

def inspect : ClockError → String
  | zero => "ZeroClockSpeed"
  | tooHigh speed limit =>
    "ClockSpeedTooHigh \x7b speed: " ++ toString speed ++ ", max: " ++ toString limit ++ " \x7d"

end ClockError

/-- An accepted number of instructions per second. -/
structure ClockSpeed where
  hertz : Nat
  positive : 0 < hertz
  bounded : hertz ≤ 1000000000
  deriving DecidableEq, Repr

namespace ClockSpeed

def limit : Nat := 1000000000

def ofHertz (hertz : Nat) : Except ClockError ClockSpeed :=
  if zero : hertz = 0 then .error .zero
  else if high : limit < hertz then .error (.tooHigh hertz limit)
  else .ok ⟨hertz, Nat.pos_of_ne_zero zero, Nat.le_of_not_lt high⟩

def standard : ClockSpeed := ⟨500, by decide, by decide⟩

/-- Nanoseconds per instruction, rounded down. -/
def period (speed : ClockSpeed) : Nat := nanosPerSecond / speed.hertz

theorem ofHertz_of_high {hertz : Nat} (high : 1000000000 < hertz) :
    ofHertz hertz = .error (.tooHigh hertz 1000000000) := by
  have positive : hertz ≠ 0 := Nat.ne_of_gt (Nat.zero_lt_of_lt high)
  rw [ofHertz, dif_neg positive]
  exact dif_pos high

theorem ofHertz_hertz (speed : ClockSpeed) : ofHertz speed.hertz = .ok speed := by
  rw [ofHertz, dif_neg (Nat.ne_of_gt speed.positive)]
  exact dif_neg (Nat.not_lt_of_le speed.bounded)

end ClockSpeed
end Chip8
