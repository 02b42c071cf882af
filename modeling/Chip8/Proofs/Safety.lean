import Chip8.Proofs.Guarded.Requests

namespace Chip8.Guarded.State

def saved (state : State) : List Address := state.slots.take state.depth

/-- The arrays have their sizes and the numbers are in their ranges. -/
structure Sound (state : State) : Prop where
  memory : state.memory.length = 4096
  general : state.v.length = 16
  slots : state.slots.length = 16
  held : state.held.length = 16
  fresh : state.fresh.length = 16
  cells : state.cells.length = 2048
  depth_le : state.depth ≤ 16
  bits : ∀ cell ∈ state.cells, cell = 0 ∨ cell = 1
  pending_lt : state.pending < state.period
  awaited_lt : ∀ x, state.status = .awaitingKey x → x < 16

theorem sound_of {machine : Machine} (regular : machine.schedule.Regular) :
    (of machine).Sound where
  memory := Vector.length_toList
  general := Vector.length_toList
  slots := Vector.length_toList
  held := Vector.length_toList
  fresh := Vector.length_toList
  cells := by
    change (cellsOf machine.screen.frame).length = 2048
    rw [cellsOf, List.length_map, Vector.length_toList]
  depth_le := machine.registers.stack.depth_le
  bits cell member := by
    obtain ⟨lit, -, same⟩ := List.mem_map.mp member
    cases lit with
    | false => exact Or.inl same.symm
    | true => exact Or.inr same.symm
  pending_lt := regular.pending_lt
  awaited_lt x waiting := by
    have status : statusOf machine.status = .awaitingKey x := waiting
    cases awaited : machine.status with
    | running => simp [awaited, statusOf] at status
    | awaitingKey register =>
      rw [awaited, statusOf] at status
      cases status
      exact register.isLt
    | halted fault => simp [awaited, statusOf] at status

/-- From the start of a machine at an accepted clock speed, requests whose times can be
tolerated pass all their guards, whatever keys the feed gives; what is left is sound, and the
answers are those of the machine, none of them a time too long to count. No frame is delivered
without a request. If nothing was executed by hand, the program counter and the saved addresses
lie in memory. -/
theorem requests_pass_guards {hertz : Nat} {speed : ClockSpeed} {operations : List Operation}
    (accepted : ClockSpeed.ofHertz hertz = .ok speed) (feed : KeyFeed)
    (generator : Random.Generator)
    (tolerable : ∀ operation ∈ operations, operation.Tolerable) :
    ∃ first replies last,
      start hertz feed generator = some (.ok first) ∧ first.Sound ∧
      first.performAll operations = some (replies, last) ∧ last.Sound ∧
      (replies = ((Machine.new speed feed generator).performAll operations).1 ∧
        last = of ((Machine.new speed feed generator).performAll operations).2) ∧
      (∀ cause, .failed (.overrun cause) ∉ replies) ∧
      last.delivered ≤ operations.length ∧
      ((∀ operation ∈ operations, operation.byHand = []) →
        last.pc.toNat < 4096 ∧ ∀ address ∈ last.saved, address.toNat < 4096) := by
  have steady := Machine.steady_new speed feed generator
  have settled : ((Machine.new speed feed generator).performAll operations).2.Steady :=
    Machine.steady_preserved.performAll (fun _ _ _ _ => trivial) steady
  obtain ⟨performed, timely⟩ := performAll_of _ steady tolerable
  have counted := Machine.delivered_performAll (.new speed feed generator) operations
  refine ⟨of (.new speed feed generator), _, _, ?_, sound_of steady.regular, performed,
    sound_of settled.regular, ⟨rfl, rfl⟩, timely, ?_, ?_⟩
  · rw [start_of, accepted]
    rfl
  · exact Nat.le_trans counted (Nat.le_of_eq (Nat.zero_add _))
  · intro untouched
    have outside : ∀ operation ∈ operations, ∀ instruction ∈ operation.byHand, False := by
      intro operation member instruction byHand
      rw [untouched operation member] at byHand
      cases byHand
    have confined : ((Machine.new speed feed generator).performAll operations).2.Confined :=
      Machine.confined_preserved.performAll outside (Machine.confined_of_start rfl)
    exact ⟨confined.pc_lt, confined.saved_lt⟩

/-- Requests with a program that waits for a key, a long step and a return without a call. -/
def longSession : List Operation :=
  [.load [0xF3, 0x0A], .stepElapsed 70999999999999999, .execute .ret, .step]

theorem longSession_tolerable : ∀ operation ∈ longSession, operation.Tolerable := by
  simp [longSession, Operation.Tolerable, Schedule.tolerance, nanosPerSecond]

theorem requests_pass_guards_longSession :
    ∃ first replies last,
      start 500 (.constant (.ofNumbers [7])) (.ofSeed 0) = some (.ok first) ∧
      first.performAll longSession = some (replies, last) ∧ last.Sound := by
  have accepted : ClockSpeed.ofHertz 500 = .ok .standard := rfl
  obtain ⟨first, replies, last, started, -, performed, sound, -⟩ :=
    requests_pass_guards accepted (.constant (.ofNumbers [7])) (.ofSeed 0) longSession_tolerable
  exact ⟨first, replies, last, started, performed, sound⟩

end Chip8.Guarded.State
