import Chip8.Machine.Operation
import Chip8.Proofs.Drawing
import Chip8.Proofs.InPlace
import Chip8.Proofs.Storage
import Mathlib.Data.List.GetD

/-! Loading is all or nothing. Done in place it refuses a program that is too large before
anything has changed; any other program then lies in memory byte by byte, and the machine starts
over. -/
namespace Chip8

/-- The byte a program's image has in a cell: the font comes first, the program lies where
programs start, and all else is zero. -/
def Program.byteAt (program : Program) (cell : Fin 4096) : UInt8 :=
  if cell.val < 80 then font.getD cell.val 0
  else if 512 ≤ cell.val ∧ cell.val < 512 + program.length then program.getD (cell.val - 512) 0
  else 0

namespace Memory

def cleared : Memory := ⟨.ofFn fun _ => 0⟩

/-- Copy bytes to the cells from a position on. -/
def overwrite (memory : Memory) (start : Nat) (bytes : List UInt8) : Memory :=
  ⟨.ofFn fun cell =>
    if start ≤ cell.val then bytes.getD (cell.val - start) (memory.byteIn cell)
    else memory.byteIn cell⟩

theorem byteIn_ofFn (bytes : Fin 4096 → UInt8) (cell : Fin 4096) :
    byteIn ⟨.ofFn bytes⟩ cell = bytes cell := Vector.getElem_ofFn cell.isLt

theorem byteIn_eq_getD (memory : Memory) (cell : Fin 4096) :
    memory.byteIn cell = memory.cells.toList.getD cell.val 0 := by
  have same : memory.byteIn cell = memory.cells[cell] := rfl
  simp [same, List.getD_eq_getElem?_getD]

theorem byteIn_overwrite (memory : Memory) (start : Nat) (bytes : List UInt8)
    (cell : Fin 4096) :
    (memory.overwrite start bytes).byteIn cell =
      if start ≤ cell.val then bytes.getD (cell.val - start) (memory.byteIn cell)
      else memory.byteIn cell := by
  rw [overwrite, byteIn_ofFn]

/-- Memory is known by its cells. -/
theorem eq_of_byteIn {memory other : Memory}
    (same : ∀ cell : Fin 4096, memory.byteIn cell = other.byteIn cell) : memory = other := by
  have cells : memory.cells = other.cells := by
    apply Vector.ext
    intro position inside
    exact same ⟨position, inside⟩
  calc memory = ⟨memory.cells⟩ := rfl
    _ = ⟨other.cells⟩ := by rw [cells]

variable {program : Program}

theorem toList_image (fits : program.length ≤ programCapacity) :
    (image program fits).cells.toList =
      font ++ (List.replicate 432 0 ++
        (program ++ List.replicate (programCapacity - program.length) 0)) := by
  rw [← List.append_assoc, ← List.append_assoc]
  rfl

theorem getD_zeros (count position : Nat) :
    (List.replicate count (0 : UInt8)).getD position 0 = 0 := by
  rw [List.getD_eq_getElem?_getD, List.getElem?_getD_replicate_default_eq]

theorem byteIn_image (fits : program.length ≤ programCapacity) (cell : Fin 4096) :
    (image program fits).byteIn cell = program.byteAt cell := by
  have glyphs : font.length = 80 := rfl
  have gap : (List.replicate 432 (0 : UInt8)).length = 432 := List.length_replicate
  rw [byteIn_eq_getD, toList_image, Program.byteAt]
  -- The four parts of the image, from the start of memory to its end.
  by_cases glyph : cell.val < 80
  · rw [if_pos glyph, List.getD_append _ _ _ _ (by omega)]
  rw [if_neg glyph, List.getD_append_right _ _ _ _ (by omega), glyphs]
  by_cases below : cell.val < 512
  · rw [if_neg (by omega), List.getD_append _ _ _ _ (by omega), getD_zeros]
  rw [List.getD_append_right _ _ _ _ (by omega), gap, Nat.sub_sub]
  by_cases occupied : cell.val < 512 + program.length
  · rw [if_pos (by omega), List.getD_append _ _ _ _ (by omega)]
  · rw [if_neg (by omega), List.getD_append_right _ _ _ _ (by omega), getD_zeros]

/-- The image arises in place: zeros first, then the font, then the program. -/
theorem overwrite_eq_image (fits : program.length ≤ programCapacity) :
    (cleared.overwrite 0 font).overwrite 512 program = image program fits := by
  have glyphs : font.length = 80 := rfl
  apply eq_of_byteIn
  intro cell
  rw [byteIn_image, Program.byteAt, byteIn_overwrite, byteIn_overwrite, cleared, byteIn_ofFn,
    if_pos (Nat.zero_le _), Nat.sub_zero]
  by_cases glyph : cell.val < 80
  · rw [if_pos glyph, if_neg (by omega)]
  · rw [if_neg glyph, List.getD_eq_default font 0 (by omega)]
    by_cases occupied : 512 ≤ cell.val ∧ cell.val < 512 + program.length
    · rw [if_pos occupied, if_pos occupied.1]
    · rw [if_neg occupied]
      split
      · exact List.getD_eq_default program 0 (by omega)
      · rfl

end Memory

namespace InPlace

def changeMemory (change : Memory → Memory) : Action RomError Unit :=
  modify fun machine => { machine with memory := change machine.memory }

/-- Put a program into memory, unless it is too large. -/
def loadMemory (program : Program) : Action RomError Unit := do
  if programCapacity < program.length then throw (.tooLarge program.length programCapacity)
  changeMemory fun _ => .cleared
  changeMemory (·.overwrite 0 font)
  changeMemory (·.overwrite programStart.toNat program)

/-- Put a program into memory, then set back one part of the machine after another. -/
def load (program : Program) : Action RomError Unit := do
  loadMemory program
  modify fun machine => { machine with registers := .new }
  modify fun machine => { machine with timers := machine.timers.setDelay 0 }
  modify (·.setSound 0)
  modify fun machine => { machine with schedule := .ofRate Machine.timerRate }
  modify fun machine => { machine with screen := machine.screen.clear }
  modify fun machine => { machine with opcode := ⟨0⟩ }
  modify fun machine => { machine with status := .running }

variable (machine : Machine) {program : Program}

theorem loadMemory_of_large (large : 3584 < program.length) :
    (loadMemory program).on machine = (.error (.tooLarge program.length 3584), machine) := by
  have tooLarge : programCapacity < program.length := large
  rw [loadMemory, if_pos tooLarge]
  rfl

theorem loadMemory_of_fits (fits : program.length ≤ programCapacity) :
    (loadMemory program).on machine = (.ok (), { machine with memory := .image program fits }) := by
  rw [← Memory.overwrite_eq_image fits, loadMemory, if_neg (Nat.not_lt_of_le fits)]
  rfl

/-- Done in place, loading leaves a machine as it was or ends as the machine says. -/
theorem load_on (program : Program) :
    (load program).on machine =
      match machine.load program with
      | .error error => (.error error, machine)
      | .ok after => (.ok (), after) := by
  rw [load, on_bind]
  by_cases fits : program.length ≤ programCapacity
  case neg =>
    have large : 3584 < program.length := Nat.lt_of_not_le fits
    rw [loadMemory_of_large machine large, machine.load_of_large large]
  case pos =>
    rw [loadMemory_of_fits machine fits, Machine.load, Memory.load, dif_pos fits]
    rfl

end InPlace

namespace Machine

/-- A machine starts over with a program. The keypad, the generator, the display and the feed are
kept, and the speaker hears of a tone that ends by this. -/
structure StartsOver (machine : Machine) (program : Program) (after : Machine) : Prop where
  memory : ∀ cell, after.memory.byteIn cell = program.byteAt cell
  general : ∀ register, after.v register = 0
  index : after.registers.index = 0
  pc : after.registers.pc = 0x200
  stack : after.registers.stack = .empty
  timers : after.timers = ⟨0, 0⟩
  schedule : after.schedule = ⟨16666666, 0⟩
  dark : ∀ point, after.screen.frame.get point = false
  redraw : after.screen.needsRedraw = true
  opcode : after.opcode = ⟨0⟩
  status : after.status = .running
  speaker : after.speaker =
    if 0 < machine.timers.sound then machine.speaker.play .stop else machine.speaker
  rest : after = { machine with
    memory := after.memory
    registers := after.registers
    timers := after.timers
    schedule := after.schedule
    screen := after.screen
    opcode := after.opcode
    status := after.status
    speaker := after.speaker }

variable {machine : Machine} {program : Program}

theorem v_of_new (fresh : machine.registers = .new) (register : Register) :
    machine.v register = 0 := by
  rw [v, fresh, Registers.new, Fin.getElem_fin, Vector.getElem_replicate]

/-- Silencing a machine is heard of if a tone ends by this. -/
theorem playSome_setSound_zero (timers : Timers) (speaker : Speaker) :
    speaker.playSome (timers.setSound 0).2 =
      if 0 < timers.sound then speaker.play .stop else speaker := by
  rw [Timers.setSound]
  by_cases silent : timers.sound = 0
  · rw [if_pos silent, if_pos rfl, silent]
    rfl
  · have sounding : 0 < timers.sound := by
      rw [UInt8.lt_iff_toNat_lt]
      exact Nat.pos_of_ne_zero fun zero => silent (UInt8.toNat_inj.mp zero)
    rw [if_neg silent, if_pos rfl, if_pos sounding]
    rfl

/-- A program that fits is loaded, and the machine starts over with it. -/
theorem load_startsOver (fits : program.length ≤ programCapacity) :
    ∃ after, machine.load program = .ok after ∧ machine.StartsOver program after := by
  rw [load, Memory.load, dif_pos fits]
  refine ⟨_, rfl, ?_⟩
  exact {
    memory := Memory.byteIn_image fits
    general := v_of_new rfl
    index := rfl
    pc := rfl
    stack := rfl
    timers := rfl
    schedule := rfl
    dark := Frame.get_blank
    redraw := rfl
    opcode := rfl
    status := rfl
    speaker := playSome_setSound_zero _ _
    rest := rfl }

/-- How loading a program ends, in place and as a request. -/
structure AllOrNothing (machine : Machine) (program : Program) : Prop where
  /-- Only a program that is too large is refused, and refusing it changes nothing. -/
  refused : ∀ error after, (InPlace.load program).on machine = (.error error, after) ↔
    3584 < program.length ∧ error = .tooLarge program.length 3584 ∧ after = machine
  /-- Any other is loaded. -/
  accepted : program.length ≤ 3584 → ∃ after,
    (InPlace.load program).on machine = (.ok (), after) ∧ machine.StartsOver program after
  /-- A request to load is answered in the same way. -/
  requested : machine.perform (.load program) =
    match (InPlace.load program).on machine with
    | (.error error, after) => (.rejected error, after)
    | (.ok (), after) => (.done, after)
  /-- What is asked of a machine after it refused a program is answered as if the program had
  never been there. -/
  unnoticed : 3584 < program.length → ∀ operations,
    machine.performAll (.load program :: operations) =
      (.rejected (.tooLarge program.length 3584) :: (machine.performAll operations).1,
        (machine.performAll operations).2)

/-- Loading is all or nothing: on every machine each program is either refused without a trace,
for its size alone, or loaded exactly. -/
theorem load_all_or_nothing (machine : Machine) (program : Program) :
    machine.AllOrNothing program := by
  have inPlace := InPlace.load_on machine program
  by_cases fits : program.length ≤ 3584
  case neg =>
    have large : 3584 < program.length := Nat.lt_of_not_le fits
    rw [machine.load_of_large large] at inPlace
    have asked : machine.perform (.load program) =
        (.rejected (.tooLarge program.length 3584), machine) := by
      rw [perform, machine.load_of_large large]
    constructor
    case refused =>
      intro error after
      rw [inPlace, Prod.mk.injEq, Except.error.injEq]
      constructor
      · rintro ⟨rfl, rfl⟩
        exact ⟨large, rfl, rfl⟩
      · rintro ⟨-, rfl, rfl⟩
        exact ⟨rfl, rfl⟩
    case accepted => exact fun small => absurd small fits
    case requested => rw [asked, inPlace]
    case unnoticed =>
      intro _ operations
      rw [performAll, asked]
  case pos =>
    obtain ⟨after, loaded, startsOver⟩ := machine.load_startsOver fits
    rw [loaded] at inPlace
    constructor
    case refused =>
      intro error refused
      rw [inPlace]
      constructor
      · intro loadedToo
        cases loadedToo
      · intro outcome
        exact absurd fits (Nat.not_le_of_lt outcome.1)
    case accepted => exact fun _ => ⟨after, inPlace, startsOver⟩
    case requested => rw [perform, loaded, inPlace]
    case unnoticed => exact fun large => absurd fits (Nat.not_le_of_lt large)

/-- A machine that plays a tone. -/
def sounding : Machine := { Machine.new .standard .silent (.ofSeed 0) with timers := ⟨0, 3⟩ }

/-- It is silenced by the longest program there can be, and plays on if given a longer one. -/
theorem load_all_or_nothing_sounding :
    (∃ after, (InPlace.load (.replicate 3584 0x60)).on sounding = (.ok (), after) ∧
      after.speaker.events = [.stop]) ∧
    (InPlace.load (.replicate 3585 0x60)).on sounding =
      (.error (.tooLarge 3585 3584), sounding) := by
  constructor
  · have fits : (List.replicate 3584 (0x60 : UInt8)).length ≤ 3584 := by
      rw [List.length_replicate]
    obtain ⟨after, loaded, startsOver⟩ :=
      (load_all_or_nothing sounding (.replicate 3584 0x60)).accepted fits
    refine ⟨after, loaded, ?_⟩
    rw [startsOver.speaker]
    rfl
  · have length : (List.replicate 3585 (0x60 : UInt8)).length = 3585 := List.length_replicate
    refine ((load_all_or_nothing sounding (.replicate 3585 0x60)).refused _ _).mpr ⟨?_, ?_, rfl⟩
    · rw [length]
      decide
    · rw [length]

end Machine
end Chip8
