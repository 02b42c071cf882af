import Chip8.Machine.Execute
import Chip8.Proofs.Guarded.Operations

/-! A machine on lists and numbers, which only their guards keep in bounds. Each access agrees
with the machine whose arrays carry their sizes. -/
namespace Chip8.Guarded

/-- What the next step does; the register is any number. -/
inductive Status where
  | running
  | awaitingKey (x : Nat)
  | halted (fault : Fault)

/-- The state. A cell of the screen is one where a pixel is lit, `slots` and `depth` are the call
stack, and the display was shown `shown` last, after `delivered` deliveries in all. -/
structure State where
  memory : List UInt8
  v : List UInt8
  index : Address
  pc : Address
  slots : List Address
  depth : Nat
  timers : Timers
  held : List Bool
  fresh : List Bool
  cells : List UInt8
  needsRedraw : Bool
  opcode : Opcode
  status : Status
  period : Nat
  pending : Nat
  stepTime : Nat
  generator : Random.Generator
  feed : KeyFeed
  shown : List UInt8
  delivered : Nat
  speaker : Speaker

def cellsOf (frame : Frame) : List UInt8 := frame.pixels.toList.map fun lit => if lit then 1 else 0

theorem cellsOf_blank : cellsOf .blank = List.replicate 2048 0 := by
  rw [cellsOf, Frame.blank, Vector.toList_replicate, List.map_replicate]
  rfl

/-- The register a machine waits with is a number. -/
def statusOf : Chip8.Status → Status
  | .running => .running
  | .awaitingKey x => .awaitingKey x.val
  | .halted fault => .halted fault

namespace State

/-- A machine without the sizes of its arrays. -/
def of (machine : Machine) : State where
  memory := machine.memory.cells.toList
  v := machine.registers.v.toList
  index := machine.registers.index
  pc := machine.registers.pc
  slots := machine.registers.stack.slots.toList
  depth := machine.registers.stack.depth
  timers := machine.timers
  held := machine.keypad.held.down.toList
  fresh := machine.keypad.fresh.down.toList
  cells := cellsOf machine.screen.frame
  needsRedraw := machine.screen.needsRedraw
  opcode := machine.opcode
  status := statusOf machine.status
  period := machine.schedule.period
  pending := machine.schedule.pending
  stepTime := machine.stepTime
  generator := machine.generator
  feed := machine.feed
  shown := cellsOf machine.display.frame
  delivered := machine.display.delivered
  speaker := machine.speaker

def register (state : State) (x : Nat) : Option UInt8 := read state.v x

def setV (state : State) (x : Nat) (value : UInt8) : Option State := do
  return { state with v := ← write state.v x value }

/-- Write a result, then the flag that goes with it. -/
def setWithFlag (state : State) (x : Nat) (value : UInt8) (flag : Bool) : Option State := do
  (← state.setV x value).setV 15 (if flag then 1 else 0)

def goto (state : State) (address : Address) : State := { state with pc := address }

def proceed (state : State) : State := state.goto (state.pc.advance 2)

def skipIf (state : State) (condition : Bool) : State :=
  if condition then state.proceed.proceed else state.proceed

def setSound (state : State) (value : UInt8) : State :=
  let (timers, tone) := state.timers.setSound value
  { state with timers := timers, speaker := state.speaker.playSome tone }

def readByte (state : State) (address : Address) : Option UInt8 :=
  read state.memory (address.toNat % 4096)

def storeBytes (memory : List UInt8) (address : Address) : List UInt8 → Option (List UInt8)
  | [] => some memory
  | byte :: bytes => do
    storeBytes (← write memory (address.toNat % 4096) byte) (address + 1) bytes

def store (state : State) (bytes : List UInt8) : Option State := do
  return { state with memory := ← storeBytes state.memory state.index bytes }

def registersTo (state : State) (x : Nat) : Option (List UInt8) :=
  (List.range (x + 1)).mapM (read state.v)

def loadTo (state : State) (x : Nat) : Option State := do
  return { state with
    v := ← (List.range (x + 1)).foldlM
      (fun v k => do write v k (← state.readByte (state.index + UInt16.ofNat k))) state.v }

def push (state : State) (address : Address) : Option (Except Fault State) :=
  if state.depth = 16 then some (.error (.stackOverflow state.pc))
  else do
    let slots ← write state.slots state.depth address
    let depth ← add indexLimit state.depth 1
    return .ok { state with slots := slots, depth := depth }

def pop (state : State) : Option (Except Fault (Address × State)) :=
  if state.depth = 0 then some (.error (.stackUnderflow state.pc))
  else do
    let depth ← subtract state.depth 1
    let address ← read state.slots depth
    return .ok (address, { state with depth := depth })

/-- Whether the numbered key is held; numbers that name no key never are. -/
def isPressed (state : State) (number : UInt8) : Bool := state.held[number.toNat]?.getD false

variable (machine : Machine)

theorem register_of (x : Register) : (of machine).register x.val = some (machine.v x) :=
  read_toList machine.registers.v x.isLt

theorem setV_of (x : Register) (value : UInt8) :
    (of machine).setV x.val value = some (of (machine.setV x value)) := by
  rw [setV, show (of machine).v = machine.registers.v.toList from rfl,
    write_toList machine.registers.v x.isLt]
  rfl

theorem setFlag_of (flag : Bool) :
    (of machine).setV 15 (if flag then 1 else 0) = some (of (machine.setFlag flag)) :=
  setV_of machine 15 _

theorem setWithFlag_of (x : Register) (value : UInt8) (flag : Bool) :
    (of machine).setWithFlag x.val value flag = some (of (machine.setWithFlag x value flag)) := by
  rw [setWithFlag, setV_of]
  exact setFlag_of (machine.setV x value) flag

theorem proceed_of : (of machine).proceed = of machine.proceed := rfl

theorem skipIf_of (condition : Bool) :
    (of machine).skipIf condition = of (machine.skipIf condition) := by
  cases condition with
  | false => rfl
  | true => rfl

theorem readByte_of (address : Address) :
    (of machine).readByte address = some (machine.memory.read address) :=
  read_toList machine.memory.cells (Nat.mod_lt _ (by decide))

theorem storeBytes_of (memory : Memory) (address : Address) (bytes : List UInt8) :
    storeBytes memory.cells.toList address bytes =
      some (memory.writeMany address bytes).cells.toList := by
  induction bytes generalizing memory address with
  | nil => rfl
  | cons byte bytes ih =>
    rw [storeBytes, write_toList memory.cells (Nat.mod_lt _ (by decide))]
    exact ih (memory.write address byte) (address + 1)

theorem store_of (bytes : List UInt8) :
    (of machine).store bytes = some (of (machine.store bytes)) := by
  rw [store, show (of machine).memory = machine.memory.cells.toList from rfl, storeBytes_of]
  rfl

private theorem register_room (x : Register) : x.val + 1 ≤ machine.registers.v.toList.length := by
  rw [Vector.length_toList]
  exact x.isLt

theorem registersTo_of (x : Register) :
    (of machine).registersTo x.val = some (machine.registersTo x) :=
  read_range (register_room machine x)

theorem toList_loadTo (x : Register) :
    (machine.loadTo x).registers.v.toList =
      (List.range (x.val + 1)).map
        (fun k => machine.memory.read (machine.registers.index + UInt16.ofNat k)) ++
          machine.registers.v.toList.drop (x.val + 1) := by
  have bound := x.isLt
  apply List.ext_getElem
  · simp
    omega
  · intro k inside _
    have within : k < 16 := by
      rw [Vector.length_toList] at inside
      exact inside
    rw [Vector.getElem_toList]
    by_cases early : k ≤ x.val
    · have here : (⟨k, within⟩ : Register) ≤ x := early
      have first : k < x.val + 1 := Nat.lt_succ_of_le early
      rw [List.getElem_append_left (by simpa using first), List.getElem_map, List.getElem_range]
      simp only [Machine.loadTo, Vector.getElem_ofFn, if_pos here]
    · have there : ¬ (⟨k, within⟩ : Register) ≤ x := early
      have rest : x.val + 1 ≤ k := Nat.lt_of_not_le early
      have place : x.val + 1 + (k - (x.val + 1)) = k := Nat.add_sub_cancel' rest
      rw [List.getElem_append_right (by simpa using rest), List.getElem_drop,
        Vector.getElem_toList]
      simp only [Machine.loadTo, Vector.getElem_ofFn, if_neg there, List.length_map,
        List.length_range, place]
      rfl

theorem loadTo_of (x : Register) : (of machine).loadTo x.val = some (of (machine.loadTo x)) := by
  have filled := fill (register_room machine x) fun k _ =>
    readByte_of machine (machine.registers.index + UInt16.ofNat k)
  have loaded : (List.range (x.val + 1)).foldlM (fun v k => do
      write v k (← (of machine).readByte ((of machine).index + UInt16.ofNat k))) (of machine).v =
        some (machine.loadTo x).registers.v.toList :=
    filled.trans (congrArg some (toList_loadTo machine x).symm)
  rw [loadTo, loaded]
  simp only [Option.bind_eq_bind, Option.bind_some, Option.pure_def, of, Machine.loadTo]

theorem push_of (address : Address) :
    (of machine).push address =
      some ((machine.registers.stack.push address machine.registers.pc).map fun stack =>
        of { machine with registers := { machine.registers with stack := stack } }) := by
  have bound := machine.registers.stack.depth_le
  by_cases full : (of machine).depth = 16
  · rw [push, if_pos full, CallStack.push_eq_error_iff.mpr ⟨full, rfl⟩]
    rfl
  · have room : machine.registers.stack.depth < 16 := Nat.lt_of_le_of_ne bound full
    have small : (of machine).depth + 1 < indexLimit := Nat.lt_of_le_of_lt room (by decide)
    have stored : write (of machine).slots (of machine).depth address = some _ :=
      write_toList machine.registers.stack.slots room address
    rw [push, if_neg full, stored, add_of_lt small, CallStack.push, dif_pos room]
    rfl

theorem pop_of :
    (of machine).pop =
      some ((machine.registers.stack.pop machine.registers.pc).map fun popped =>
        (popped.1,
          of { machine with registers := { machine.registers with stack := popped.2 } })) := by
  by_cases empty : (of machine).depth = 0
  · rw [pop, if_pos empty, CallStack.pop_eq_error_iff.mpr ⟨empty, rfl⟩]
    rfl
  · have positive : 1 ≤ (of machine).depth := Nat.pos_of_ne_zero empty
    have room : machine.registers.stack.depth - 1 < 16 := by
      have bound := machine.registers.stack.depth_le
      omega
    have loaded : read (of machine).slots ((of machine).depth - 1) = some _ :=
      read_toList machine.registers.stack.slots room
    rw [pop, if_neg empty, subtract_of_le positive,
      machine.registers.stack.pop_of_ne_zero empty room]
    simp only [Option.bind_eq_bind, Option.bind_some, loaded]
    rfl

theorem isPressed_of (number : UInt8) :
    (of machine).isPressed number = machine.keypad.isPressed number := by
  rw [isPressed, Keypad.isPressed]
  change (machine.keypad.held.down.toList[number.toNat]?).getD false = _
  by_cases valid : number.toNat < 16
  · simp [valid, KeySet.contains]
  · simp [valid]

end State
end Chip8.Guarded
