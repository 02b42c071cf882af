import Chip8.Proofs.Executions
import Chip8.Proofs.Loading
import Chip8.Proofs.Transfers

/-! Where the bytes of memory come from. A step changes only the cells in which it stores
decimal digits or registers, so along a run every cell holds the byte stored in it last, or the
byte of the image it was loaded with. -/
namespace Chip8.Machine

/-- The next step stores a byte in a cell: a decimal digit of a register, hundreds first, or one
of the registers up to `x`. -/
inductive Stores (machine : Machine) : Fin 4096 → UInt8 → Prop where
  | digit {x : Register} {offset : Nat}
      (next : machine.nextInstruction? = some (.storeDecimal x)) (inside : offset ≤ 2) :
      Stores machine (machine.registers.index.cellAfter offset)
        (.ofNat ((machine.v x).toNat / 10 ^ (2 - offset) % 10))
  | register {x register : Register}
      (next : machine.nextInstruction? = some (.storeRegisters x)) (inside : register ≤ x) :
      Stores machine (machine.registers.index.cellAfter register.val) (machine.v register)

/-- The bytes that an instruction stores from the index register on. -/
def stored (machine : Machine) : Instruction → List UInt8
  | .storeDecimal x => decimalDigits (machine.v x)
  | .storeRegisters x => machine.registersTo x
  | _ => []

/-- The bytes that the next step stores from the index register on. -/
def storedNext (machine : Machine) : List UInt8 :=
  match machine.nextInstruction? with
  | some instruction => machine.stored instruction
  | none => []

section

variable {machine after : Machine} {instruction : Instruction}

theorem stored_fits (machine : Machine) (instruction : Instruction) :
    (machine.stored instruction).length ≤ 4096 := by
  cases instruction
  case storeDecimal => exact decimalDigits_fits _
  case storeRegisters => exact registersTo_fits _ _
  all_goals exact Nat.zero_le _

theorem storedNext_fits (machine : Machine) : machine.storedNext.length ≤ 4096 := by
  rw [storedNext]
  split
  · exact stored_fits _ _
  · exact Nat.zero_le _

/-- What an instruction does to memory is to store its bytes. -/
theorem memory_execute (executed : machine.execute instruction = .ok after) :
    after.memory =
      machine.memory.writeMany machine.registers.index (machine.stored instruction) := by
  cases instruction
  case ret | call =>
    simp only [execute] at executed
    split at executed
    · cases executed
    · cases executed
      rfl
  case skipIfConst | skipUnlessConst | skipIfSame | skipUnlessSame | skipIfPressed
      | skipUnlessPressed =>
    cases executed
    rw [skipIf_eq_goto]
    rfl
  case loadRegisters =>
    cases executed
    rw [memory_proceed, memory_loadTo]
    rfl
  all_goals
    cases executed
    rfl

theorem stored_of_error {fault : Fault} (failed : machine.execute instruction = .error fault) :
    machine.stored instruction = [] := by
  cases instruction
  case storeDecimal | storeRegisters => cases failed
  all_goals rfl

theorem memory_resumeKeyWait (machine : Machine) (x : Register) :
    (machine.resumeKeyWait x).memory = machine.memory := by
  obtain ⟨v, pc, fresh, status, resumed⟩ := resumeKeyWait_frame machine x
  rw [resumed]

theorem storedNext_of_inactive (inactive : machine.status ≠ .running) :
    machine.storedNext = [] := by
  rw [storedNext, nextInstruction?_of_inactive inactive]

theorem storedNext_of_error {fault : Fault} (running : machine.status = .running)
    (failed : machine.fetch.dispatch = .error fault) : machine.storedNext = [] := by
  rw [storedNext, nextInstruction?, running]
  rw [dispatch] at failed
  cases decoded : Instruction.decode machine.fetch.opcode with
  | none => rfl
  | some instruction =>
    rw [decoded] at failed
    have nothing : machine.fetch.stored instruction = [] := stored_of_error failed
    exact nothing

theorem storedNext_of_idle
    (idle : ∀ x, machine.nextInstruction? ≠ some (.storeDecimal x) ∧
      machine.nextInstruction? ≠ some (.storeRegisters x)) :
    machine.storedNext = [] := by
  rw [storedNext]
  split
  case h_1 instruction next =>
    cases instruction
    case storeDecimal x => exact absurd next (idle x).1
    case storeRegisters x => exact absurd next (idle x).2
    all_goals rfl
  case h_2 => rfl

/-- What a step does to memory is to store the bytes of its instruction. Neither a key wait nor
a failure nor the passing of time has any part in it. -/
theorem memory_stepElapsed (machine : Machine) (elapsed : Nat) :
    (machine.stepElapsed elapsed).2.memory =
      machine.memory.writeMany machine.registers.index machine.storedNext := by
  rcases stepElapsed_cases machine elapsed with
    ⟨fault, halted, stepped⟩ | ⟨fault, running, failed, stepped⟩ |
    ⟨acted, acts, stepped⟩
  · rw [stepped, storedNext_of_inactive (by rw [halted]; nofun)]
    rfl
  · rw [stepped, storedNext_of_error running failed]
    rfl
  · obtain ⟨timers, schedule, speaker, settled⟩ := settle_frame acted elapsed
    rw [stepped, settled]
    change acted.memory = _
    -- Settling has no part in memory, so what counts is the instruction or the key wait.
    rcases acts.cases with ⟨instruction, next, executed⟩ | ⟨x, waiting, rfl⟩
    · rw [memory_execute executed, storedNext, next]
      rfl
    · rw [memory_resumeKeyWait, storedNext_of_inactive (by rw [waiting]; nofun)]
      rfl

theorem getElem?_decimalDigits (value : UInt8) {offset : Nat} {byte : UInt8} :
    (decimalDigits value)[offset]? = some byte ↔
      offset ≤ 2 ∧ byte = .ofNat (value.toNat / 10 ^ (2 - offset) % 10) := by
  have small := value.toNat_lt
  match offset with
  | 0 | 1 | 2 =>
    simp [decimalDigits, ← UInt8.toNat_inj]
    omega
  | offset + 3 => simp [decimalDigits]

theorem getElem?_registersTo (machine : Machine) {x : Register} {position : Nat} {byte : UInt8} :
    (machine.registersTo x)[position]? = some byte ↔
      ∃ register ≤ x, register.val = position ∧ byte = machine.v register := by
  have length := machine.length_registersTo x
  rw [List.getElem?_eq_some_iff]
  constructor
  · rintro ⟨inside, rfl⟩
    have low : position ≤ x.val := by
      rw [length] at inside
      exact Nat.le_of_lt_succ inside
    have valid : position < 16 := Nat.lt_of_le_of_lt low x.isLt
    exact ⟨⟨position, valid⟩, low, rfl, machine.getElem_registersTo valid inside⟩
  · rintro ⟨register, low, rfl, rfl⟩
    have inside : register.val < (machine.registersTo x).length := by
      rw [length]
      exact Nat.lt_succ_of_le low
    exact ⟨inside, machine.getElem_registersTo register.isLt inside⟩

/-- The bytes that are stored next, each in the cell of its place. -/
theorem stores_iff {cell : Fin 4096} {byte : UInt8} :
    machine.Stores cell byte ↔
      machine.storedNext[Memory.place machine.registers.index.toNat cell]? = some byte := by
  constructor
  · intro stores
    cases stores with
    | digit next inside =>
      rw [storedNext, next, Memory.place_cellAfter _ (by omega)]
      exact (getElem?_decimalDigits _).mpr ⟨inside, rfl⟩
    | @register x register next inside =>
      rw [storedNext, next, Memory.place_cellAfter _ (by omega)]
      exact (getElem?_registersTo _).mpr ⟨register, inside, rfl, rfl⟩
  · intro stored
    rw [← Memory.cellAfter_place machine.registers.index cell]
    rw [storedNext] at stored
    split at stored
    case h_2 => cases stored
    case h_1 instruction next =>
      cases instruction
      case storeDecimal x =>
        obtain ⟨inside, rfl⟩ := (getElem?_decimalDigits _).mp stored
        exact .digit next inside
      case storeRegisters x =>
        obtain ⟨register, inside, place, rfl⟩ := (getElem?_registersTo _).mp stored
        rw [← place]
        exact .register next inside
      all_goals cases stored

/-- After a step a cell holds the byte stored in it, if there is one. -/
theorem byteIn_stepElapsed_of_stores {cell : Fin 4096} {byte : UInt8}
    (stores : machine.Stores cell byte) (elapsed : Nat) :
    (machine.stepElapsed elapsed).2.memory.byteIn cell = byte := by
  rw [memory_stepElapsed, Memory.byteIn_writeMany _ _ (storedNext_fits machine),
    stores_iff.mp stores, Option.getD_some]

theorem byteIn_stepElapsed_of_not_stores {cell : Fin 4096}
    (untouched : ∀ byte, ¬ machine.Stores cell byte) (elapsed : Nat) :
    (machine.stepElapsed elapsed).2.memory.byteIn cell = machine.memory.byteIn cell := by
  have nothing : machine.storedNext[Memory.place machine.registers.index.toNat cell]? = none := by
    rw [Option.eq_none_iff_forall_ne_some]
    intro byte stored
    exact untouched byte (stores_iff.mpr stored)
  rw [memory_stepElapsed, Memory.byteIn_writeMany _ _ (storedNext_fits machine), nothing,
    Option.getD_none]

end

section

variable (machine : Machine) (elapsed : Nat → Nat) (count : Nat)

/-- The byte that the first `count` steps store last in a cell: one of them stores it, and none
after that one stores anything there. -/
def LastStored (cell : Fin 4096) (byte : UInt8) : Prop :=
  ∃ step < count, (machine.run elapsed step).Stores cell byte ∧
    ∀ later, step < later → later < count →
      ∀ other, ¬ (machine.run elapsed later).Stores cell other

/-- None of the first `count` steps stores anything in a cell. -/
def NeverStored (cell : Fin 4096) : Prop :=
  ∀ step < count, ∀ byte, ¬ (machine.run elapsed step).Stores cell byte

/-- None of the first `count` steps executes an instruction that stores. -/
def StoresNothing : Prop :=
  ∀ step < count, ∀ x,
    (machine.run elapsed step).nextInstruction? ≠ some (.storeDecimal x) ∧
      (machine.run elapsed step).nextInstruction? ≠ some (.storeRegisters x)

variable {machine elapsed count} {cell : Fin 4096} {byte : UInt8}

theorem lastStored_succ_iff :
    machine.LastStored elapsed (count + 1) cell byte ↔
      (machine.run elapsed count).Stores cell byte ∨
        (∀ other, ¬ (machine.run elapsed count).Stores cell other) ∧
          machine.LastStored elapsed count cell byte := by
  constructor
  · rintro ⟨step, before, stores, last⟩
    rcases Nat.lt_succ_iff_lt_or_eq.mp before with earlier | rfl
    · right
      refine ⟨last count earlier (Nat.lt_succ_self count), step, earlier, stores, ?_⟩
      intro later after before
      exact last later after (Nat.lt_succ_of_lt before)
    · exact Or.inl stores
  · rintro (stores | ⟨untouched, step, before, stores, last⟩)
    · refine ⟨count, Nat.lt_succ_self count, stores, ?_⟩
      intro later after before
      exact absurd after (Nat.not_lt_of_le (Nat.le_of_lt_succ before))
    · refine ⟨step, Nat.lt_succ_of_lt before, stores, ?_⟩
      intro later after before
      rcases Nat.lt_succ_iff_lt_or_eq.mp before with earlier | rfl
      · exact last later after earlier
      · exact untouched

theorem neverStored_succ_iff :
    machine.NeverStored elapsed (count + 1) cell ↔
      (∀ byte, ¬ (machine.run elapsed count).Stores cell byte) ∧
        machine.NeverStored elapsed count cell := by
  rw [NeverStored, Nat.forall_lt_succ_right, and_comm]
  exact Iff.rfl

/-- Along a run each cell holds the byte stored in it last, or if there is none the byte it held
at first. -/
theorem byteIn_run :
    (machine.run elapsed count).memory.byteIn cell = byte ↔
      machine.LastStored elapsed count cell byte ∨
        machine.NeverStored elapsed count cell ∧ byte = machine.memory.byteIn cell := by
  induction count with
  | zero =>
    have never : machine.NeverStored elapsed 0 cell := nofun
    have nothing : ¬ machine.LastStored elapsed 0 cell byte := by
      rintro ⟨step, before, -⟩
      cases before
    rw [or_iff_right nothing, and_iff_right never, eq_comm]
    exact Iff.rfl
  | succ count ih =>
    rw [run_succ, lastStored_succ_iff, neverStored_succ_iff]
    -- Either the last step leaves the cell to what came before, or it settles the matter alone.
    by_cases untouched : ∀ other, ¬ (machine.run elapsed count).Stores cell other
    case pos =>
      rw [byteIn_stepElapsed_of_not_stores untouched, ih, or_iff_right (untouched byte),
        and_iff_right untouched, and_iff_right untouched]
    case neg =>
      obtain ⟨other, stores⟩ := not_forall_not.mp untouched
      have stored := byteIn_stepElapsed_of_stores stores (elapsed count)
      simp only [untouched, false_and, or_false, stored]
      constructor
      · rintro rfl
        exact stores
      · intro storesToo
        exact stored.symm.trans (byteIn_stepElapsed_of_stores storesToo (elapsed count))

theorem memory_run (idle : machine.StoresNothing elapsed count) {step : Nat}
    (within : step ≤ count) : (machine.run elapsed step).memory = machine.memory := by
  induction step with
  | zero => rfl
  | succ step ih =>
    rw [run_succ, memory_stepElapsed, storedNext_of_idle (idle step within)]
    exact ih (Nat.le_of_succ_le within)

theorem opcode_fetch_congr {other : Machine} (memory : machine.memory = other.memory)
    (pc : machine.registers.pc = other.registers.pc) :
    machine.fetch.opcode = other.fetch.opcode := by
  simp only [fetch, memory, pc]

end

/-- All that memory holds after a number of steps is accounted for. -/
structure Accounted (start : Machine) (program : Program) (elapsed : Nat → Nat) (count : Nat) :
    Prop where
  /-- A cell holds the byte stored in it last, or its byte of the program's image. -/
  cells : ∀ cell byte, (start.run elapsed count).memory.byteIn cell = byte ↔
    start.LastStored elapsed count cell byte ∨
      start.NeverStored elapsed count cell ∧ byte = program.byteAt cell
  /-- As long as nothing is stored, memory stays as it is. -/
  constant : start.StoresNothing elapsed count →
    ∀ step ≤ count, (start.run elapsed step).memory = start.memory
  /-- Until then the same program counter always fetches the same opcode. -/
  fetches : start.StoresNothing elapsed count →
    ∀ earlier ≤ count, ∀ later ≤ count,
      (start.run elapsed earlier).registers.pc = (start.run elapsed later).registers.pc →
        (start.run elapsed earlier).fetch.opcode = (start.run elapsed later).fetch.opcode

/-- Memory is the image of the program and what was stored since, after any run of steps from
where the program was loaded: whatever keys are held, however much time passes, and also after a
failure. -/
theorem memory_accounted (machine : Machine) {program : Program}
    (fits : program.length ≤ 3584) :
    ∃ start, machine.load program = .ok start ∧
      ∀ elapsed count, start.Accounted program elapsed count := by
  obtain ⟨start, loaded, startsOver⟩ := machine.load_startsOver fits
  refine ⟨start, loaded, ?_⟩
  intro elapsed count
  exact {
    cells := fun cell byte => by rw [byteIn_run, startsOver.memory]
    constant := fun idle step within => memory_run idle within
    fetches := fun idle earlier before later beforeToo pc => by
      have same : (start.run elapsed earlier).memory = (start.run elapsed later).memory := by
        rw [memory_run idle before, memory_run idle beforeToo]
      exact opcode_fetch_congr same pc }

/-- A program that stores two registers in the last cell and the first one. -/
def wrapper : Program := [0x60, 0xAA, 0x61, 0xBB, 0xAF, 0xFF, 0xF1, 0x55, 0x00, 0x00]

def wrapping : Machine := ((Machine.new .standard .silent (.ofSeed 0)).perform (.load wrapper)).2

/-- The program overwrites a byte of the font, then halts. -/
theorem memory_accounted_wrapping :
    wrapper.length ≤ 3584 ∧
      wrapper.byteAt 0 = 0xF0 ∧
      (wrapping.run (fun _ => 0) 6).status = .halted (.unknownOpcode 0 0x208) ∧
      wrapping.LastStored (fun _ => 0) 6 0 0xBB := by
  have fits : wrapper.length ≤ 3584 := by decide
  obtain ⟨start, loaded, accounted⟩ :=
    memory_accounted (Machine.new .standard .silent (.ofSeed 0)) fits
  have same : (Machine.new .standard .silent (.ofSeed 0)).load wrapper = .ok wrapping := rfl
  rw [same] at loaded
  cases loaded
  have overwritten : (wrapping.run (fun _ => 0) 6).memory.byteIn 0 = 0xBB := by
    decide +kernel
  refine ⟨fits, by decide, by decide +kernel, ?_⟩
  rcases ((accounted (fun _ => 0) 6).cells 0 0xBB).mp overwritten with last | ⟨-, glyph⟩
  · exact last
  · exact absurd glyph (by decide)

end Chip8.Machine
