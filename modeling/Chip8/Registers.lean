import Chip8.Fault
import Chip8.Memory
import Chip8.Opcode

namespace Chip8

/-- Saved return addresses. Slots from `depth` on are free and keep what was last there. -/
structure CallStack where
  slots : Vector Address 16
  depth : Nat
  depth_le : depth ≤ 16
  deriving DecidableEq

namespace CallStack

def empty : CallStack := ⟨Vector.replicate 16 0, 0, by decide⟩

/-- The saved addresses, oldest first. -/
def toList (stack : CallStack) : List Address := stack.slots.toList.take stack.depth

/-- Save an address on behalf of the call at `pc`. -/
def push (stack : CallStack) (address pc : Address) : Except Fault CallStack :=
  if room : stack.depth < 16 then
    .ok ⟨stack.slots.set stack.depth address, stack.depth + 1, room⟩
  else .error (.stackOverflow pc)

/-- Take the youngest address on behalf of the return at `pc`. -/
def pop (stack : CallStack) (pc : Address) : Except Fault (Address × CallStack) :=
  match stack with
  | ⟨_, 0, _⟩ => .error (.stackUnderflow pc)
  | ⟨slots, depth + 1, bound⟩ => .ok (slots[depth], ⟨slots, depth, Nat.le_of_succ_le bound⟩)

theorem length_toList (stack : CallStack) : stack.toList.length = stack.depth := by
  simp [toList, stack.depth_le]

theorem toList_push {stack pushed : CallStack} {address pc : Address}
    (success : stack.push address pc = .ok pushed) : pushed.toList = stack.toList ++ [address] := by
  unfold push at success
  split at success
  · rename_i room
    cases success
    have inside : stack.depth < (stack.slots.toList.set stack.depth address).length := by
      simpa using room
    simp [toList, Vector.toList_set, List.take_add_one, List.take_set_of_le, room]
  · cases success

theorem toList_pop {stack popped : CallStack} {address pc : Address}
    (success : stack.pop pc = .ok (address, popped)) :
    stack.toList = popped.toList ++ [address] := by
  obtain ⟨slots, depth, bound⟩ := stack
  cases depth with
  | zero => cases success
  | succ depth =>
    have room : depth < 16 := bound
    cases success
    simp [toList, List.take_add_one, room]

theorem pop_of_ne_zero (stack : CallStack) {pc : Address} (deep : stack.depth ≠ 0)
    (inside : stack.depth - 1 < 16) :
    stack.pop pc =
      .ok (stack.slots[stack.depth - 1],
        ⟨stack.slots, stack.depth - 1, Nat.le_trans (Nat.sub_le _ _) stack.depth_le⟩) := by
  obtain ⟨slots, depth, bound⟩ := stack
  cases depth with
  | zero => exact absurd rfl deep
  | succ depth => rfl

theorem push_eq_error_iff {stack : CallStack} {address pc : Address} {fault : Fault} :
    stack.push address pc = .error fault ↔ stack.depth = 16 ∧ fault = .stackOverflow pc := by
  have bound := stack.depth_le
  unfold push
  split
  · have room : stack.depth ≠ 16 := by omega
    simp [room]
  · have full : stack.depth = 16 := by omega
    simp [full, eq_comm]

theorem pop_eq_error_iff {stack : CallStack} {pc : Address} {fault : Fault} :
    stack.pop pc = .error fault ↔ stack.depth = 0 ∧ fault = .stackUnderflow pc := by
  obtain ⟨slots, depth, bound⟩ := stack
  cases depth with
  | zero => simp [pop, eq_comm]
  | succ depth => simp [pop]

end CallStack
structure Registers where
  v : Vector UInt8 16
  index : Address
  pc : Address
  stack : CallStack
  deriving DecidableEq

namespace Registers

/-- All registers clear, at the start of the program. -/
def new : Registers := ⟨Vector.replicate 16 0, 0, programStart, .empty⟩

end Registers
end Chip8
