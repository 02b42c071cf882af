import Chip8.Proofs.Nesting
import Mathlib.Data.List.Forall2

/-! Addresses count only modulo 4096. Program counter, index register and saved addresses are 16
bits wide, but no more than their lower twelve bits ever come to matter. -/
namespace Chip8

/-- Two addresses select the same cell: they differ by a multiple of 4096. -/
def Address.Congruent (address other : Address) : Prop := Address.cell address = Address.cell other

namespace Address.Congruent

variable {address other : Address}

theorem iff_mod : Address.Congruent address other ↔ address.toNat % 4096 = other.toNat % 4096 :=
  Fin.ext_iff

theorem add (same : Address.Congruent address other) (distance : Address) :
    Address.Congruent (address + distance) (other + distance) := by
  rw [iff_mod] at same ⊢
  simp only [UInt16.toNat_add]
  omega

theorem advance_eq (same : Address.Congruent address other) (distance : Address) :
    Address.advance address distance = Address.advance other distance := by
  rw [iff_mod] at same
  apply UInt16.toNat_inj.mp
  rw [advance_toNat, advance_toNat]
  omega

theorem eq_of_lt (same : Address.Congruent address other) (small : address.toNat < 4096)
    (smallToo : other.toNat < 4096) : address = other := by
  rw [iff_mod] at same
  apply UInt16.toNat_inj.mp
  omega

end Address.Congruent

namespace Memory

variable {address other : Address}

theorem read_congr (memory : Memory) (same : Address.Congruent address other) :
    memory.read address = memory.read other :=
  congrArg (fun cell : Fin 4096 => memory.cells[cell]) same

theorem write_congr (memory : Memory) (same : Address.Congruent address other) (byte : UInt8) :
    memory.write address byte = memory.write other byte :=
  congrArg (fun cell : Fin 4096 => Memory.mk (memory.cells.set cell byte)) same

theorem readWord_congr (memory : Memory) (same : Address.Congruent address other) :
    memory.readWord address = memory.readWord other := by
  rw [readWord, readWord, memory.read_congr same, memory.read_congr (same.add 1)]

theorem readMany_congr (memory : Memory) (same : Address.Congruent address other) (count : Nat) :
    memory.readMany address count = memory.readMany other count := by
  rw [readMany, readMany]
  exact List.map_congr_left fun offset _ => memory.read_congr (same.add (UInt16.ofNat offset))

theorem writeMany_congr (memory : Memory) (same : Address.Congruent address other)
    (bytes : List UInt8) : memory.writeMany address bytes = memory.writeMany other bytes := by
  induction bytes generalizing memory address other with
  | nil => rfl
  | cons byte bytes ih =>
    rw [writeMany, writeMany, memory.write_congr same, ih _ (same.add 1)]

end Memory

/-- Two faults that differ at most in their addresses, which are congruent. -/
inductive Fault.Congruent : Fault → Fault → Prop where
  | unknownOpcode (opcode : UInt16) {pc other : Address} (same : Address.Congruent pc other) :
      Congruent (.unknownOpcode opcode pc) (.unknownOpcode opcode other)
  | stackOverflow {pc other : Address} (same : Address.Congruent pc other) :
      Congruent (.stackOverflow pc) (.stackOverflow other)
  | stackUnderflow {pc other : Address} (same : Address.Congruent pc other) :
      Congruent (.stackUnderflow pc) (.stackUnderflow other)

theorem Fault.Congruent.refl (fault : Fault) : fault.Congruent fault := by
  cases fault with
  | unknownOpcode opcode pc => exact .unknownOpcode opcode rfl
  | stackOverflow pc => exact .stackOverflow rfl
  | stackUnderflow pc => exact .stackUnderflow rfl

/-- Two attempts of the same kind: both fail with congruent faults, or both succeed and what they
give is related. -/
inductive Matching {First Second : Type} (related : First → Second → Prop) :
    Except Fault First → Except Fault Second → Prop where
  | failed {fault other : Fault} (same : fault.Congruent other) :
      Matching related (.error fault) (.error other)
  | succeeded {result : First} {other : Second} (holds : related result other) :
      Matching related (.ok result) (.ok other)

theorem Matching.cases {First Second : Type} {related : First → Second → Prop}
    {first : Except Fault First} {second : Except Fault Second}
    (matching : Matching related first second) :
    (∃ fault other, first = .error fault ∧ second = .error other ∧ fault.Congruent other) ∨
      ∃ result other, first = .ok result ∧ second = .ok other ∧ related result other := by
  cases matching with
  | failed same => exact Or.inl ⟨_, _, rfl, rfl, same⟩
  | succeeded holds => exact Or.inr ⟨_, _, rfl, rfl, holds⟩

/-- Two call stacks with the same number of saved addresses, all slots of which hold congruent
addresses, and the same address where nothing else is allowed. -/
structure CallStack.Congruent (loose : Fin 16 → Bool) (stack other : CallStack) : Prop where
  depth : stack.depth = other.depth
  slots : ∀ slot : Fin 16, Address.Congruent stack.slots[slot] other.slots[slot]
  same : ∀ slot : Fin 16, loose slot = false → stack.slots[slot] = other.slots[slot]

def CallStack.live (stack : CallStack) (slot : Fin 16) : Bool := decide (slot.val < stack.depth)

theorem CallStack.mem_toList {stack : CallStack} {slot : Fin 16}
    (saved : stack.live slot = true) : stack.slots.get slot ∈ stack.toList := by
  have shallow : slot.val < stack.depth := of_decide_eq_true saved
  have inside : slot.val < stack.slots.toList.length := by
    rw [Vector.length_toList]
    exact slot.isLt
  rw [toList, List.mem_take_iff_getElem]
  exact ⟨slot.val, Nat.lt_min.mpr ⟨shallow, inside⟩, rfl⟩

namespace CallStack.Congruent

variable {loose : Fin 16 → Bool} {stack other : CallStack} {pc otherPc : Address}

theorem refl (stack : CallStack) : Congruent loose stack stack :=
  ⟨rfl, fun _ => rfl, fun _ _ => rfl⟩

theorem push (congruent : Congruent loose stack other) (samePc : Address.Congruent pc otherPc)
    (address : Address) :
    Matching (Congruent loose) (stack.push address pc) (other.push address otherPc) := by
  have depth := congruent.depth
  rw [CallStack.push, CallStack.push]
  split
  · rename_i room
    rw [dif_pos (depth ▸ room)]
    refine .succeeded ⟨congrArg (· + 1) depth, fun slot => ?_, fun slot tight => ?_⟩
    · simp only [Fin.getElem_fin, Vector.getElem_set, depth]
      split
      · rfl
      · exact congruent.slots slot
    · simp only [Fin.getElem_fin, Vector.getElem_set, depth]
      split
      · rfl
      · exact congruent.same slot tight
  · rename_i full
    rw [dif_neg (depth ▸ full)]
    exact .failed (.stackOverflow samePc)

theorem pop (congruent : Congruent loose stack other) (samePc : Address.Congruent pc otherPc) :
    Matching (fun taken otherTaken => Address.Congruent taken.1 otherTaken.1 ∧
      Congruent loose taken.2 otherTaken.2) (stack.pop pc) (other.pop otherPc) := by
  obtain ⟨slots, depth, bound⟩ := stack
  obtain ⟨otherSlots, otherDepth, otherBound⟩ := other
  obtain ⟨rfl, alike, same⟩ := congruent
  cases depth with
  | zero => exact .failed (.stackUnderflow samePc)
  | succ depth => exact .succeeded ⟨alike ⟨depth, bound⟩, rfl, alike, same⟩

end CallStack.Congruent

/-- Two states of the processor that differ at most in the address of a fault. -/
inductive Status.Congruent : Status → Status → Prop where
  | running : Congruent .running .running
  | awaitingKey (x : Register) : Congruent (.awaitingKey x) (.awaitingKey x)
  | halted {fault other : Fault} (same : fault.Congruent other) :
      Congruent (.halted fault) (.halted other)

theorem Status.Congruent.refl (status : Status) : status.Congruent status := by
  cases status with
  | running => exact .running
  | awaitingKey x => exact .awaitingKey x
  | halted fault => exact .halted (.refl fault)

/-- Two failures that differ at most in the address of a fault. -/
inductive Failure.Congruent : Failure → Failure → Prop where
  | fault {fault other : Fault} (same : fault.Congruent other) :
      Congruent (.fault fault) (.fault other)
  | overrun (cause : Overrun) : Congruent (.overrun cause) (.overrun cause)

/-- Two results of a step that differ at most in the address of a fault. -/
inductive Report.Congruent : Except Failure Report → Except Failure Report → Prop where
  | reported (report : Report) : Congruent (.ok report) (.ok report)
  | failed {failure other : Failure} (same : failure.Congruent other) :
      Congruent (.error failure) (.error other)

/-- Two answers that differ at most in the address of a fault. -/
inductive Reply.Congruent : Reply → Reply → Prop where
  | done : Congruent .done .done
  | stepped (report : Report) : Congruent (.stepped report) (.stepped report)
  | rejected (error : RomError) : Congruent (.rejected error) (.rejected error)
  | failed {failure other : Failure} (same : failure.Congruent other) :
      Congruent (.failed failure) (.failed other)

/-- Two instructions that differ at most in an address, which is congruent. -/
inductive Instruction.Congruent : Instruction → Instruction → Prop where
  | same (instruction : Instruction) : Congruent instruction instruction
  | jump {target other : Address} (same : Address.Congruent target other) :
      Congruent (.jump target) (.jump other)
  | call {target other : Address} (same : Address.Congruent target other) :
      Congruent (.call target) (.call other)
  | setIndex {target other : Address} (same : Address.Congruent target other) :
      Congruent (.setIndex target) (.setIndex other)
  | jumpOffset {base other : Address} (same : Address.Congruent base other) :
      Congruent (.jumpOffset base) (.jumpOffset other)

/-- Two requests that differ at most in the addresses of instructions executed by hand. -/
inductive Operation.Congruent : Operation → Operation → Prop where
  | same (operation : Operation) : Congruent operation operation
  | execute {instruction other : Instruction} (same : instruction.Congruent other) :
      Congruent (.execute instruction) (.execute other)
  | executeMany {instructions others : List Instruction}
      (same : List.Forall₂ Instruction.Congruent instructions others) :
      Congruent (.executeMany instructions) (.executeMany others)

namespace Machine

/-- Two machines that differ at most in program counter, index register and saved addresses, and
in the address of a fault that halted them; all of these are congruent. -/
inductive Congruent (loose : Fin 16 → Bool) (machine : Machine) : Machine → Prop where
  | intro {index pc : Address} {stack : CallStack} {status : Status}
      (sameIndex : Address.Congruent machine.registers.index index)
      (samePc : Address.Congruent machine.registers.pc pc)
      (sameStack : machine.registers.stack.Congruent loose stack)
      (sameStatus : machine.status.Congruent status) :
      Congruent loose machine
        { machine with
          registers := ⟨machine.registers.v, index, pc, stack⟩
          status := status }

variable {loose : Fin 16 → Bool} {machine other : Machine}

namespace Congruent

theorem refl (machine : Machine) : Congruent loose machine machine :=
  ⟨rfl, rfl, .refl _, .refl _⟩

theorem pc (congruent : Congruent loose machine other) :
    Address.Congruent machine.registers.pc other.registers.pc := by
  obtain ⟨-, pc, -, -⟩ := congruent
  exact pc

theorem stack (congruent : Congruent loose machine other) :
    machine.registers.stack.Congruent loose other.registers.stack := by
  obtain ⟨-, -, stack, -⟩ := congruent
  exact stack

theorem map (congruent : Congruent loose machine other) (change : Machine → Machine)
    (blind : ∀ registers status,
      change { machine with registers := registers, status := status } =
        { change machine with registers := registers, status := status }) :
    Congruent loose (change machine) (change other) := by
  obtain @⟨otherIndex, otherPc, otherStack, otherStatus, index, pc, stack, status⟩ := congruent
  have own : change machine =
      { change machine with registers := machine.registers, status := machine.status } :=
    blind machine.registers machine.status
  rw [blind ⟨machine.registers.v, otherIndex, otherPc, otherStack⟩ otherStatus, own]
  exact ⟨index, pc, stack, status⟩

theorem setStatus (congruent : Congruent loose machine other) {status otherStatus : Status}
    (same : status.Congruent otherStatus) :
    Congruent loose { machine with status := status } { other with status := otherStatus } := by
  obtain ⟨index, pc, stack, -⟩ := congruent
  exact ⟨index, pc, stack, same⟩

theorem setV (congruent : Congruent loose machine other) (x : Register) (value : UInt8) :
    Congruent loose (machine.setV x value) (other.setV x value) := by
  obtain ⟨index, pc, stack, status⟩ := congruent
  exact ⟨index, pc, stack, status⟩

theorem setFlag (congruent : Congruent loose machine other) (flag : Bool) :
    Congruent loose (machine.setFlag flag) (other.setFlag flag) :=
  congruent.setV _ _

theorem setWithFlag (congruent : Congruent loose machine other) (x : Register) (value : UInt8)
    (flag : Bool) :
    Congruent loose (machine.setWithFlag x value flag) (other.setWithFlag x value flag) :=
  (congruent.setV x value).setFlag flag

theorem goto (congruent : Congruent loose machine other) {address otherAddress : Address}
    (same : Address.Congruent address otherAddress) :
    Congruent loose (machine.goto address) (other.goto otherAddress) := by
  obtain ⟨index, -, stack, status⟩ := congruent
  exact ⟨index, same, stack, status⟩

theorem setIndex (congruent : Congruent loose machine other) {address otherAddress : Address}
    (same : Address.Congruent address otherAddress) :
    Congruent loose (machine.setIndex address) (other.setIndex otherAddress) := by
  obtain ⟨-, pc, stack, status⟩ := congruent
  exact ⟨same, pc, stack, status⟩

theorem proceed (congruent : Congruent loose machine other) :
    Congruent loose machine.proceed other.proceed :=
  congruent.goto (congrArg Address.cell (congruent.pc.advance_eq 2))

theorem skipIf (congruent : Congruent loose machine other) (condition : Bool) :
    Congruent loose (machine.skipIf condition) (other.skipIf condition) := by
  cases condition with
  | false => exact congruent.proceed
  | true => exact congruent.proceed.proceed

theorem setSound (congruent : Congruent loose machine other) (value : UInt8) :
    Congruent loose (machine.setSound value) (other.setSound value) :=
  congruent.map (·.setSound value) fun _ _ => rfl

theorem randomize (congruent : Congruent loose machine other) (x : Register) (mask : UInt8) :
    Congruent loose (machine.randomize x mask) (other.randomize x mask) := by
  obtain ⟨index, pc, stack, status⟩ := congruent
  exact ⟨index, pc, stack, status⟩

theorem drawSprite (congruent : Congruent loose machine other) (x y height : UInt8) :
    Congruent loose (machine.drawSprite x y height) (other.drawSprite x y height) := by
  obtain ⟨index, pc, stack, status⟩ := congruent
  have sprite := machine.memory.readMany_congr index (min height.toNat spriteRows)
  simp only [Machine.drawSprite, ← sprite]
  exact ⟨index, pc, stack, status⟩

theorem store (congruent : Congruent loose machine other) (bytes : List UInt8) :
    Congruent loose (machine.store bytes) (other.store bytes) := by
  obtain ⟨index, pc, stack, status⟩ := congruent
  simp only [Machine.store, ← machine.memory.writeMany_congr index bytes]
  exact ⟨index, pc, stack, status⟩

theorem loadTo (congruent : Congruent loose machine other) (x : Register) :
    Congruent loose (machine.loadTo x) (other.loadTo x) := by
  obtain ⟨index, pc, stack, status⟩ := congruent
  have bytes (k : Register) := machine.memory.read_congr (index.add (UInt16.ofNat k.val))
  simp only [Machine.loadTo, ← bytes]
  exact ⟨index, pc, stack, status⟩

theorem ret (congruent : Congruent loose machine other) :
    Matching (Congruent loose) (machine.execute .ret) (other.execute .ret) := by
  obtain ⟨index, pc, stack, status⟩ := congruent
  obtain ⟨fault, otherFault, failed, failedToo, same⟩ |
    ⟨taken, otherTaken, popped, poppedToo, sameAddress, rest⟩ := (stack.pop pc).cases
  · simp only [Machine.execute, failed, failedToo]
    exact .failed same
  · simp only [Machine.execute, popped, poppedToo]
    exact .succeeded ⟨index, sameAddress, rest, status⟩

theorem call (congruent : Congruent loose machine other) {target otherTarget : Address}
    (same : Address.Congruent target otherTarget) :
    Matching (Congruent loose) (machine.execute (.call target))
      (other.execute (.call otherTarget)) := by
  obtain ⟨index, pc, stack, status⟩ := congruent
  obtain ⟨fault, otherFault, failed, failedToo, sameFault⟩ |
    ⟨saved, otherSaved, pushed, pushedToo, more⟩ :=
    (stack.push pc (machine.registers.pc.advance 2)).cases
  · simp only [Machine.execute, ← pc.advance_eq 2, failed, failedToo]
    exact .failed sameFault
  · simp only [Machine.execute, ← pc.advance_eq 2, pushed, pushedToo]
    exact .succeeded ⟨index, same, more, status⟩

theorem execute (congruent : Congruent loose machine other)
    {instruction otherInstruction : Instruction} (same : instruction.Congruent otherInstruction) :
    Matching (Congruent loose) (machine.execute instruction) (other.execute otherInstruction) := by
  have whole := congruent
  obtain ⟨index, pc, stack, status⟩ := congruent
  cases same with
  | jump same => exact .succeeded (whole.goto same)
  | call same => exact whole.call same
  | setIndex same => exact .succeeded (whole.setIndex same).proceed
  | jumpOffset same =>
    apply Matching.succeeded
    exact whole.goto (congrArg Address.cell (same.advance_eq _))
  | same instruction =>
    cases instruction
    case clearScreen =>
      have cleared := whole.map (fun m => { m with screen := m.screen.clear }) fun _ _ => rfl
      exact .succeeded cleared.proceed
    case ret => exact whole.ret
    case jump target => exact .succeeded (whole.goto rfl)
    case call target => exact whole.call rfl
    case skipIfConst | skipUnlessConst | skipIfSame | skipUnlessSame | skipIfPressed
        | skipUnlessPressed => exact .succeeded (whole.skipIf _)
    case setConst | addConst | copy | bitOr | bitAnd | bitXor | getDelay =>
      exact .succeeded (whole.setV _ _).proceed
    case add | subtract | subtractFrom | shiftRight | shiftLeft =>
      exact .succeeded (whole.setWithFlag _ _ _).proceed
    case setIndex target => exact .succeeded (whole.setIndex rfl).proceed
    case jumpOffset base => exact .succeeded (whole.goto rfl)
    case random x mask => exact .succeeded (whole.randomize x mask).proceed
    case draw x y height => exact .succeeded (whole.drawSprite _ _ height).proceed
    case awaitKey x => exact .succeeded (whole.setStatus (.awaitingKey x))
    case setDelay x =>
      have set := whole.map (fun m => { m with timers := m.timers.setDelay (machine.v x) })
        fun _ _ => rfl
      exact .succeeded set.proceed
    case setSound x => exact .succeeded (whole.setSound _).proceed
    case addIndex x => exact .succeeded (whole.setIndex (index.add _)).proceed
    case pointToGlyph x => exact .succeeded (whole.setIndex rfl).proceed
    case storeDecimal x => exact .succeeded (whole.store _).proceed
    case storeRegisters x => exact .succeeded (whole.store _).proceed
    case loadRegisters x => exact .succeeded (whole.loadTo x).proceed

theorem executeMany (congruent : Congruent loose machine other)
    {instructions others : List Instruction}
    (same : List.Forall₂ Instruction.Congruent instructions others) :
    Matching (fun _ _ => True) (machine.executeMany instructions).1 (other.executeMany others).1 ∧
      Congruent loose (machine.executeMany instructions).2 (other.executeMany others).2 := by
  induction same generalizing machine other with
  | nil => exact ⟨.succeeded trivial, congruent⟩
  | cons first _ ih =>
    rw [Machine.executeMany, Machine.executeMany]
    obtain ⟨fault, otherFault, failed, failedToo, same⟩ |
      ⟨after, otherAfter, executed, executedToo, onward⟩ := (congruent.execute first).cases
    · simp only [failed, failedToo]
      exact ⟨.failed same, congruent⟩
    · simp only [executed, executedToo]
      exact ih onward

theorem fetch (congruent : Congruent loose machine other) :
    Congruent loose machine.fetch other.fetch := by
  obtain ⟨index, pc, stack, status⟩ := congruent
  simp only [Machine.fetch, ← machine.memory.readWord_congr pc]
  exact ⟨index, pc, stack, status⟩

theorem opcode (congruent : Congruent loose machine other) : machine.opcode = other.opcode := by
  cases congruent
  rfl

theorem dispatch (congruent : Congruent loose machine other) :
    Matching (Congruent loose) machine.dispatch other.dispatch := by
  rw [Machine.dispatch, Machine.dispatch, ← congruent.opcode]
  cases Instruction.decode machine.opcode with
  | none => exact .failed (.unknownOpcode _ congruent.pc)
  | some instruction => exact congruent.execute (.same instruction)

theorem keypad (congruent : Congruent loose machine other) : machine.keypad = other.keypad := by
  cases congruent
  rfl

theorem resumeKeyWait (congruent : Congruent loose machine other) (x : Register) :
    Congruent loose (machine.resumeKeyWait x) (other.resumeKeyWait x) := by
  have keypad := congruent.keypad
  cases pressed : machine.keypad.firstFresh? with
  | none =>
    rw [resumeKeyWait_of_none pressed, resumeKeyWait_of_none (keypad ▸ pressed)]
    exact congruent
  | some key =>
    rw [resumeKeyWait_of_some pressed, resumeKeyWait_of_some (keypad ▸ pressed), keypad]
    have answered := (congruent.setV x (UInt8.ofNat key.val)).proceed.setStatus .running
    exact answered.map
      (fun m => { m with keypad := other.keypad.takePress (UInt8.ofNat key.val) }) fun _ _ => rfl

theorem tickTimersFor (congruent : Congruent loose machine other) (count : Nat) :
    Congruent loose (machine.tickTimersFor count) (other.tickTimersFor count) := by
  induction count generalizing machine other with
  | zero => exact congruent
  | succ count ih =>
    rw [tickTimersFor_succ, tickTimersFor_succ]
    exact ih (congruent.map (·.tickTimers) fun _ _ => rfl)

theorem schedule (congruent : Congruent loose machine other) :
    machine.schedule = other.schedule := by
  cases congruent
  rfl

theorem screen (congruent : Congruent loose machine other) : machine.screen = other.screen := by
  cases congruent
  rfl

theorem settle (congruent : Congruent loose machine other) (elapsed : Nat) :
    Report.Congruent (machine.settle elapsed).1 (other.settle elapsed).1 ∧
      Congruent loose (machine.settle elapsed).2 (other.settle elapsed).2 := by
  have sampled := congruent.map (·.sampleKeys) fun _ _ => rfl
  cases advanced : machine.schedule.advance elapsed with
  | error cause =>
    rw [settle_of_error advanced, settle_of_error (congruent.schedule ▸ advanced)]
    exact ⟨.failed (.overrun cause), sampled⟩
  | ok pair =>
    obtain ⟨due, schedule⟩ := pair
    rw [settle_of_ok advanced, settle_of_ok (congruent.schedule ▸ advanced), congruent.screen]
    have scheduled := sampled.map (fun m => { m with schedule := schedule }) fun _ _ => rfl
    exact ⟨.reported _, scheduled.tickTimersFor due⟩

theorem stepElapsed (congruent : Congruent loose machine other) (elapsed : Nat) :
    Report.Congruent (machine.stepElapsed elapsed).1 (other.stepElapsed elapsed).1 ∧
      Congruent loose (machine.stepElapsed elapsed).2 (other.stepElapsed elapsed).2 := by
  have same : machine.status.Congruent other.status := by
    obtain ⟨-, -, -, same⟩ := congruent
    exact same
  rw [Machine.stepElapsed, Machine.stepElapsed]
  generalize machine.status = status, other.status = otherStatus at same
  cases same with
  | running =>
    obtain ⟨fault, otherFault, failed, failedToo, same⟩ |
      ⟨acted, otherActed, executed, executedToo, onward⟩ := congruent.fetch.dispatch.cases
    · simp only [failed, failedToo]
      exact ⟨.failed (.fault same), congruent.fetch.setStatus (.halted same)⟩
    · simp only [executed, executedToo]
      exact onward.settle elapsed
  | awaitingKey x => exact (congruent.resumeKeyWait x).settle elapsed
  | halted same => exact ⟨.failed (.fault same), congruent⟩

theorem render (congruent : Congruent loose machine other) :
    Congruent loose machine.render other.render := by
  apply congruent.map (·.render)
  intro registers status
  simp only [Machine.render, Screen.takeRedraw]
  cases machine.screen.needsRedraw with
  | false => rfl
  | true => rfl

theorem load_eq (congruent : Congruent loose machine other) (program : Program) :
    machine.load program = other.load program := by
  obtain ⟨-, -, -, -⟩ := congruent
  rfl

theorem perform_stepElapsed (congruent : Congruent loose machine other) (elapsed : Nat) :
    Reply.Congruent (machine.perform (.stepElapsed elapsed)).1
        (other.perform (.stepElapsed elapsed)).1 ∧
      Congruent loose (machine.perform (.stepElapsed elapsed)).2
        (other.perform (.stepElapsed elapsed)).2 := by
  obtain ⟨reports, stepped⟩ := congruent.stepElapsed elapsed
  refine ⟨?_, stepped⟩
  simp only [Machine.perform]
  generalize (machine.stepElapsed elapsed).1 = result, (other.stepElapsed elapsed).1 = otherResult
    at reports
  cases reports with
  | reported report => exact .stepped report
  | failed same => exact .failed same

theorem perform_execute (congruent : Congruent loose machine other)
    {instruction otherInstruction : Instruction} (same : instruction.Congruent otherInstruction) :
    Reply.Congruent (machine.perform (.execute instruction)).1
        (other.perform (.execute otherInstruction)).1 ∧
      Congruent loose (machine.perform (.execute instruction)).2
        (other.perform (.execute otherInstruction)).2 := by
  rw [Machine.perform, Machine.perform]
  obtain ⟨fault, otherFault, failed, failedToo, same⟩ |
    ⟨after, otherAfter, executed, executedToo, onward⟩ := (congruent.execute same).cases
  · simp only [failed, failedToo]
    exact ⟨.failed (.fault same), congruent⟩
  · simp only [executed, executedToo]
    exact ⟨.done, onward⟩

theorem perform_executeMany (congruent : Congruent loose machine other)
    {instructions others : List Instruction}
    (same : List.Forall₂ Instruction.Congruent instructions others) :
    Reply.Congruent (machine.perform (.executeMany instructions)).1
        (other.perform (.executeMany others)).1 ∧
      Congruent loose (machine.perform (.executeMany instructions)).2
        (other.perform (.executeMany others)).2 := by
  obtain ⟨results, onward⟩ := congruent.executeMany same
  rw [Machine.perform, Machine.perform]
  generalize machine.executeMany instructions = run, other.executeMany others = otherRun
    at results onward
  obtain ⟨result, after⟩ := run
  obtain ⟨otherResult, otherAfter⟩ := otherRun
  cases results with
  | failed same => exact ⟨.failed (.fault same), onward⟩
  | succeeded _ => exact ⟨.done, onward⟩

theorem stepTime (congruent : Congruent loose machine other) :
    machine.stepTime = other.stepTime := by
  cases congruent
  rfl

theorem perform (congruent : Congruent loose machine other) {operation otherOperation : Operation}
    (same : operation.Congruent otherOperation) :
    Reply.Congruent (machine.perform operation).1 (other.perform otherOperation).1 ∧
      Congruent loose (machine.perform operation).2 (other.perform otherOperation).2 := by
  cases same with
  | execute same => exact congruent.perform_execute same
  | executeMany same => exact congruent.perform_executeMany same
  | same operation =>
    cases operation with
    | load program =>
      rw [Machine.perform, Machine.perform, ← congruent.load_eq]
      cases machine.load program with
      | error error => exact ⟨.rejected error, congruent⟩
      | ok after => exact ⟨.done, .refl after⟩
    | seed seed => exact ⟨.done, congruent.map (·.seed seed) fun _ _ => rfl⟩
    | step =>
      have asked : other.perform .step = other.perform (.stepElapsed machine.stepTime) := by
        rw [congruent.stepTime]
        rfl
      rw [asked]
      exact congruent.perform_stepElapsed machine.stepTime
    | stepElapsed elapsed => exact congruent.perform_stepElapsed elapsed
    | tickTimers => exact ⟨.done, congruent.map (·.tickTimers) fun _ _ => rfl⟩
    | render => exact ⟨.done, congruent.render⟩
    | execute instruction => exact congruent.perform_execute (.same instruction)
    | executeMany instructions =>
      apply congruent.perform_executeMany
      exact List.forall₂_same.mpr fun instruction _ => .same instruction

theorem performAll (congruent : Congruent loose machine other) {operations others : List Operation}
    (same : List.Forall₂ Operation.Congruent operations others) :
    List.Forall₂ Reply.Congruent (machine.performAll operations).1 (other.performAll others).1 ∧
      Congruent loose (machine.performAll operations).2 (other.performAll others).2 := by
  induction same generalizing machine other with
  | nil => exact ⟨.nil, congruent⟩
  | cons first _ ih =>
    obtain ⟨reply, after⟩ := congruent.perform first
    obtain ⟨replies, last⟩ := ih after
    exact ⟨.cons reply replies, last⟩

end Congruent

/-- Two machines that are equal except that program counter, index register, live saved addresses
and the address of a fault may differ by a multiple of 4096. -/
def Related (machine other : Machine) : Prop :=
  Congruent machine.registers.stack.live machine other

/-- What a machine may become from when it was new. -/
def Reachable (machine : Machine) : Prop :=
  ∃ speed feed generator operations,
    ((Machine.new speed feed generator).performAll operations).2 = machine

theorem Reachable.reached (reachable : machine.Reachable) (operations : List Operation)
    (count : Nat) : (machine.reached operations count).Reachable := by
  obtain ⟨speed, feed, generator, earlier, rfl⟩ := reachable
  exact ⟨speed, feed, generator, earlier ++ operations.take count, performAll_append _ _ _⟩

theorem saved_preserved : Preserved
    (fun machine => ∀ address ∈ machine.registers.stack.toList, address.toNat < 4096)
    fun _ => True := by
  apply Preserved.of_perform
  intro machine inside operation
  by_cases reloads : machine.reloads operation = true
  · rw [registers_of_reloads reloads]
    exact nofun
  · rw [(leads_perform (Bool.eq_false_iff.mpr reloads)).toList_eq]
    intro address member
    rcases List.mem_append.mp member with old | new
    · exact inside address (List.mem_of_mem_take old)
    · obtain ⟨transition, -, rfl⟩ := List.mem_map.mp new
      exact Address.advance_lt _ _

theorem Reachable.saved_lt (reachable : machine.Reachable) {slot : Fin 16}
    (saved : machine.registers.stack.live slot = true) :
    (machine.registers.stack.slots.get slot).toNat < 4096 := by
  obtain ⟨speed, feed, generator, earlier, rfl⟩ := reachable
  have fresh : ∀ address ∈ (Machine.new speed feed generator).registers.stack.toList,
      address.toNat < 4096 := nofun
  exact saved_preserved.performAll (fun _ _ _ _ => trivial) fresh _ (CallStack.mem_toList saved)

/-- Machines that new ones have become save the same addresses if they are related. -/
theorem Related.tight (related : machine.Related other) (reachable : machine.Reachable)
    (reachableToo : other.Reachable) : Congruent (fun _ => false) machine other := by
  have stack := related.stack
  have live (slot : Fin 16) :
      other.registers.stack.live slot = machine.registers.stack.live slot := by
    rw [CallStack.live, CallStack.live, stack.depth]
  have same (slot : Fin 16) :
      machine.registers.stack.slots[slot] = other.registers.stack.slots[slot] := by
    cases saved : machine.registers.stack.live slot with
    | false => exact stack.same slot saved
    | true =>
      apply (stack.slots slot).eq_of_lt (reachable.saved_lt saved)
      exact reachableToo.saved_lt ((live slot).trans saved)
  obtain ⟨index, pc, stack, status⟩ := related
  exact ⟨index, pc, ⟨stack.depth, stack.slots, fun slot _ => same slot⟩, status⟩

theorem Congruent.loosen (congruent : Congruent (fun _ => false) machine other) :
    Congruent loose machine other := by
  obtain ⟨index, pc, stack, status⟩ := congruent
  exact ⟨index, pc, ⟨stack.depth, stack.slots, fun slot _ => stack.same slot rfl⟩, status⟩

theorem Congruent.nextInstruction?_eq (congruent : Congruent loose machine other) :
    machine.nextInstruction? = other.nextInstruction? := by
  have same : machine.status.Congruent other.status := by
    obtain ⟨-, -, -, same⟩ := congruent
    exact same
  rw [nextInstruction?, nextInstruction?, congruent.fetch.opcode]
  generalize machine.status = status, other.status = otherStatus at same
  cases same with
  | running => rfl
  | awaitingKey x => rfl
  | halted same => rfl

/-- Addresses count only modulo 4096. Related machines answer alike to requests that differ at most
in this respect and stay equal but for such differences, also in the slots of returns taken
meanwhile; in particular they go on with the same instructions. Machines that new ones have become
stay related: all addresses they save lie in memory. -/
theorem addresses_count_modulo {operations others : List Operation}
    (related : machine.Related other)
    (alike : List.Forall₂ Operation.Congruent operations others) :
    List.Forall₂ Reply.Congruent (machine.performAll operations).1 (other.performAll others).1 ∧
      (∀ count, Congruent machine.registers.stack.live
        (machine.reached operations count) (other.reached others count)) ∧
      (∀ count, (machine.reached operations count).nextInstruction? =
        (other.reached others count).nextInstruction?) ∧
      (machine.Reachable → other.Reachable →
        ∀ count, (machine.reached operations count).Related (other.reached others count)) := by
  have along (count : Nat) := related.performAll (List.forall₂_take count alike)
  refine ⟨(related.performAll alike).1, fun count => (along count).2,
    fun count => (along count).2.nextInstruction?_eq, ?_⟩
  intro reachable reachableToo count
  have tight := related.tight reachable reachableToo
  exact (tight.performAll (List.forall₂_take count alike)).2.loosen

/-- Go by hand to an index and a program counter. -/
def departure (index pc : Address) : List Operation :=
  [.execute (.setIndex index), .execute (.jump pc)]

def sent (index pc : Address) : Machine :=
  ((Machine.new .standard .silent (.ofSeed 0)).performAll (departure index pc)).2

/-- Store digits from within a subroutine, then return once too often. -/
def excursion (subroutine : Address) : List Operation :=
  [.execute (.call subroutine), .execute (.storeDecimal 0), .execute .ret, .execute .ret]

theorem addresses_count_modulo_excursion :
    (sent 0xFFFF 0x4202).Related (sent 0xFFF 0x202) ∧
      List.Forall₂ Operation.Congruent (excursion 0x1300) (excursion 0x300) ∧
      ((sent 0xFFFF 0x4202).reached (excursion 0x1300) 4).Related
        ((sent 0xFFF 0x202).reached (excursion 0x300) 4) := by
  have departures : List.Forall₂ Operation.Congruent
      (departure 0xFFFF 0x4202) (departure 0xFFF 0x202) :=
    .cons (.execute (.setIndex rfl)) (.cons (.execute (.jump rfl)) .nil)
  have related : (sent 0xFFFF 0x4202).Related (sent 0xFFF 0x202) :=
    ((Congruent.refl _).performAll departures).2
  have alike : List.Forall₂ Operation.Congruent (excursion 0x1300) (excursion 0x300) :=
    .cons (.execute (.call rfl)) (.cons (.same _) (.cons (.same _) (.cons (.same _) .nil)))
  have sentReachable (index pc : Address) : (sent index pc).Reachable := ⟨_, _, _, _, rfl⟩
  exact ⟨related, alike,
    (addresses_count_modulo related alike).2.2.2 (sentReachable _ _) (sentReachable _ _) 4⟩

end Machine
end Chip8
