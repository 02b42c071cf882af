import Chip8.Address
import Chip8.RomError

namespace Chip8

/-- The sixteen hexadecimal glyphs, five rows each. -/
def font : List UInt8 :=
  [0xF0, 0x90, 0x90, 0x90, 0xF0,
   0x20, 0x60, 0x20, 0x20, 0x70,
   0xF0, 0x10, 0xF0, 0x80, 0xF0,
   0xF0, 0x10, 0xF0, 0x10, 0xF0,
   0x90, 0x90, 0xF0, 0x10, 0x10,
   0xF0, 0x80, 0xF0, 0x10, 0xF0,
   0xF0, 0x80, 0xF0, 0x90, 0xF0,
   0xF0, 0x10, 0x20, 0x40, 0x40,
   0xF0, 0x90, 0xF0, 0x90, 0xF0,
   0xF0, 0x90, 0xF0, 0x10, 0xF0,
   0xF0, 0x90, 0xF0, 0x90, 0x90,
   0xE0, 0x90, 0xE0, 0x90, 0xE0,
   0xF0, 0x80, 0x80, 0x80, 0xF0,
   0xE0, 0x90, 0x90, 0x90, 0xE0,
   0xF0, 0x80, 0xF0, 0x80, 0xF0,
   0xF0, 0x80, 0xF0, 0x80, 0x80]

abbrev Program := List UInt8

def programStart : Address := 0x200

/-- The number of bytes from the start of programs to the end of memory. -/
def programCapacity : Nat := 3584

structure Memory where
  cells : Vector UInt8 4096
  deriving DecidableEq

namespace Memory

private def zeros (count : Nat) : List UInt8 := List.replicate count 0

private theorem image_size (program : Program) (fits : program.length ≤ programCapacity) :
    (font ++ zeros 432 ++ program ++ zeros (programCapacity - program.length)).toArray.size =
      4096 := by
  have glyphs : font.length = 80 := rfl
  simp only [programCapacity] at fits ⊢
  simp only [zeros, List.size_toArray, List.length_append, List.length_replicate, glyphs]
  omega

/-- Memory as a program finds it: the font, the program at its start, zeros elsewhere. -/
def image (program : Program) (fits : program.length ≤ programCapacity) : Memory :=
  ⟨⟨(font ++ zeros 432 ++ program ++ zeros (programCapacity - program.length)).toArray,
    image_size program fits⟩⟩

def new : Memory := image [] (by decide)

/-- The image of a program, unless it is too large. -/
def load (program : Program) : Except RomError Memory :=
  if fits : program.length ≤ programCapacity then .ok (image program fits)
  else .error (.tooLarge program.length programCapacity)

def read (memory : Memory) (address : Address) : UInt8 :=
  memory.cells[Address.cell address]

def write (memory : Memory) (address : Address) (byte : UInt8) : Memory :=
  ⟨memory.cells.set (Address.cell address) byte⟩

/-- The two bytes at an address and the next one. -/
def readWord (memory : Memory) (address : Address) : UInt8 × UInt8 :=
  (memory.read address, memory.read (address + 1))

/-- Consecutive bytes, around the end of memory if need be. -/
def readMany (memory : Memory) (address : Address) (count : Nat) : List UInt8 :=
  (List.range count).map fun offset => memory.read (address + UInt16.ofNat offset)

/-- Store bytes at consecutive addresses, first to last. -/
def writeMany (memory : Memory) (address : Address) : List UInt8 → Memory
  | [] => memory
  | byte :: bytes => (memory.write address byte).writeMany (address + 1) bytes

theorem read_write (memory : Memory) (address other : Address) (byte : UInt8) :
    (memory.write address byte).read other =
      if Address.cell address = Address.cell other then byte else memory.read other := by
  simp only [read, write, Fin.getElem_fin, Vector.getElem_set, Fin.ext_iff]

end Memory
end Chip8
