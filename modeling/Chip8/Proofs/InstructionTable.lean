import Chip8.Machine
import Chip8.Proofs.Drawing
import Chip8.Proofs.Storage

/-! The instruction table: for each bit pattern what a machine does, in natural numbers.
It knows neither machine words nor decoded instructions. -/
namespace Chip8.InstructionTable

/-- A machine in natural numbers; `saved` holds the return addresses, oldest first, and
`pixel` is one where a pixel is lit. The last five components no row of the table touches. -/
structure State where
  memory : Fin 4096 → Nat
  v : Register → Nat
  index : Nat
  pc : Nat
  saved : List Nat
  delay : Nat
  sound : Nat
  pixel : Fin 64 → Fin 32 → Nat
  needsRedraw : Bool
  opcode : Nat
  status : Status
  generator : Random.Generator
  speaker : Speaker
  keypad : Keypad
  schedule : Schedule
  stepTime : Nat
  feed : KeyFeed
  display : Display

namespace State

/-- A machine read in natural numbers. -/
def of (machine : Machine) : State where
  memory := fun cell => machine.memory.cells[cell].toNat
  v := fun x => (machine.v x).toNat
  index := machine.registers.index.toNat
  pc := machine.registers.pc.toNat
  saved := machine.registers.stack.toList.map UInt16.toNat
  delay := machine.timers.delay.toNat
  sound := machine.timers.sound.toNat
  pixel := fun column line => (machine.screen.frame.get (column, line)).toNat
  needsRedraw := machine.screen.needsRedraw
  opcode := machine.opcode.word.toNat
  status := machine.status
  generator := machine.generator
  speaker := machine.speaker
  keypad := machine.keypad
  schedule := machine.schedule
  stepTime := machine.stepTime
  feed := machine.feed
  display := machine.display

/-- The byte at an address; addresses run around the end of memory. -/
def byteAt (state : State) (address : Nat) : Nat :=
  state.memory ⟨address % 4096, Nat.mod_lt _ (by decide)⟩

def wordAt (state : State) (address : Nat) : Nat :=
  256 * state.byteAt address + state.byteAt (address + 1)

def write (state : State) (x : Register) (value : Nat) : State :=
  { state with v := fun register => if register = x then value else state.v register }

/-- The flag is written last, so it stays if the result goes to the same register. -/
def writeWithFlag (state : State) (x : Register) (value : Nat) (flag : Bool) : State :=
  (state.write x value).write 15 flag.toNat

def next (state : State) : State := { state with pc := (state.pc + 2) % 4096 }

def skipIf (state : State) (condition : Bool) : State :=
  { state with pc := (state.pc + if condition then 4 else 2) % 4096 }

/-- Keys are numbered up to fifteen; larger numbers name none. -/
def pressed (state : State) (number : Nat) : Bool :=
  if valid : number < 16 then state.keypad.held.contains ⟨number, valid⟩ else false

def clear (state : State) : State :=
  { state with pixel := fun _ _ => 0, needsRedraw := true }

/-- The rows of a sprite toggle the pixels they hit; the flag tells whether one went dark. -/
def draw (state : State) (x y : Nat) (rows : List Nat) : State :=
  let total := fun (column : Fin 64) (line : Fin 32) =>
    state.pixel column line + Sprite.hits rows x y (column, line)
  let collision := (List.finRange 64).any fun column =>
    (List.finRange 32).any fun line => 2 ≤ total column line
  { state with
    pixel := fun column line => total column line % 2
    needsRedraw := true }.write 15 collision.toNat

/-- A tone starts as the sound timer leaves zero and stops as it is set to zero. -/
def setSound (state : State) (value : Nat) : State :=
  { state with
    sound := value
    speaker :=
      if state.sound = 0 ∧ 0 < value then state.speaker.play .start
      else if 0 < state.sound ∧ value = 0 then state.speaker.play .stop
      else state.speaker }

/-- Bytes go to consecutive cells from the index register on. -/
def store (state : State) (bytes : List Nat) : State :=
  { state with
    memory := fun cell => bytes[Memory.place state.index cell]?.getD (state.memory cell) }

/-- The registers up to `x` come from consecutive cells from the index register on. -/
def loadTo (state : State) (x : Register) : State :=
  { state with
    v := fun register =>
      if register ≤ x then state.byteAt (state.index + register) else state.v register }

end State

/-- The operand fields of a word: two registers, the last digit, the last two and the last
three digits. -/
structure Operands where
  x : Register
  y : Register
  n : Nat
  kk : Nat
  nnn : Nat

def Operands.ofWord (word : Nat) : Operands where
  x := ⟨word / 256 % 16, Nat.mod_lt _ (by decide)⟩
  y := ⟨word / 16 % 16, Nat.mod_lt _ (by decide)⟩
  n := word % 16
  kk := word % 256
  nnn := word % 4096

inductive Row where
  | clearScreen | ret | jump | call | skipIfConst | skipUnlessConst | skipIfSame
  | setConst | addConst | copy | bitOr | bitAnd | bitXor | add | subtract | shiftRight
  | subtractFrom | shiftLeft | skipUnlessSame | setIndex | jumpOffset | random | draw
  | skipIfPressed | skipUnlessPressed | getDelay | awaitKey | setDelay | setSound
  | addIndex | pointToGlyph | storeDecimal | storeRegisters | loadRegisters
  deriving DecidableEq

/-- The digit a symbol of a pattern stands for; a small letter stands for any. -/
def digitOf? (symbol : Char) : Option Nat :=
  if symbol.isLower then none
  else if symbol.isDigit then some (symbol.toNat - '0'.toNat)
  else some (symbol.toNat - 'A'.toNat + 10)

def digits (word : Nat) : List Nat :=
  [word / 4096 % 16, word / 256 % 16, word / 16 % 16, word % 16]

namespace Row

def pattern : Row → String
  | clearScreen => "00E0"
  | ret => "00EE"
  | jump => "1nnn"
  | call => "2nnn"
  | skipIfConst => "3xkk"
  | skipUnlessConst => "4xkk"
  | skipIfSame => "5xy0"
  | setConst => "6xkk"
  | addConst => "7xkk"
  | copy => "8xy0"
  | bitOr => "8xy1"
  | bitAnd => "8xy2"
  | bitXor => "8xy3"
  | add => "8xy4"
  | subtract => "8xy5"
  | shiftRight => "8xy6"
  | subtractFrom => "8xy7"
  | shiftLeft => "8xyE"
  | skipUnlessSame => "9xy0"
  | setIndex => "Annn"
  | jumpOffset => "Bnnn"
  | random => "Cxkk"
  | draw => "Dxyn"
  | skipIfPressed => "Ex9E"
  | skipUnlessPressed => "ExA1"
  | getDelay => "Fx07"
  | awaitKey => "Fx0A"
  | setDelay => "Fx15"
  | setSound => "Fx18"
  | addIndex => "Fx1E"
  | pointToGlyph => "Fx29"
  | storeDecimal => "Fx33"
  | storeRegisters => "Fx55"
  | loadRegisters => "Fx65"

/-- Every symbol of the pattern stands for the digit at its place. -/
def Matches (row : Row) (word : Nat) : Prop :=
  ∀ place ∈ row.pattern.toList.zip (digits word),
    ∀ digit ∈ digitOf? place.1, place.2 = digit

instance (row : Row) (word : Nat) : Decidable (row.Matches word) :=
  inferInstanceAs (Decidable (∀ place ∈ _, _))

/-- What a row does. All operands come from the state before it. -/
def effect (row : Row) (operands : Operands) (state : State) : Except Fault State :=
  let ⟨x, y, n, kk, nnn⟩ := operands
  let v := state.v
  match row with
  | clearScreen => .ok state.clear.next
  | ret =>
    match state.saved.getLast? with
    | none => .error (.stackUnderflow (.ofNat state.pc))
    | some address => .ok { state with saved := state.saved.dropLast, pc := address }
  | jump => .ok { state with pc := nnn }
  | call =>
    if state.saved.length = 16 then .error (.stackOverflow (.ofNat state.pc))
    else .ok { state with saved := state.saved ++ [(state.pc + 2) % 4096], pc := nnn }
  | skipIfConst => .ok (state.skipIf (v x = kk))
  | skipUnlessConst => .ok (state.skipIf (v x ≠ kk))
  | skipIfSame => .ok (state.skipIf (v x = v y))
  | setConst => .ok (state.write x kk).next
  | addConst => .ok (state.write x ((v x + kk) % 256)).next
  | copy => .ok (state.write x (v y)).next
  | bitOr => .ok (state.write x (v x ||| v y)).next
  | bitAnd => .ok (state.write x (v x &&& v y)).next
  | bitXor => .ok (state.write x (v x ^^^ v y)).next
  | add => .ok (state.writeWithFlag x ((v x + v y) % 256) (255 < v x + v y)).next
  | subtract => .ok (state.writeWithFlag x ((v x + 256 - v y) % 256) (v y < v x)).next
  | shiftRight => .ok (state.writeWithFlag x (v y / 2) (v y % 2 = 1)).next
  | subtractFrom => .ok (state.writeWithFlag x ((v y + 256 - v x) % 256) (v x < v y)).next
  | shiftLeft => .ok (state.writeWithFlag x (2 * v y % 256) (128 ≤ v y)).next
  | skipUnlessSame => .ok (state.skipIf (v x ≠ v y))
  | setIndex => .ok { state with index := nnn }.next
  | jumpOffset => .ok { state with pc := (nnn + v 0) % 4096 }
  | random =>
    let (byte, generator) := state.generator.draw
    .ok ({ state with generator := generator }.write x (byte.toNat &&& kk)).next
  | draw =>
    let rows := (List.range n).map fun row => state.byteAt (state.index + row)
    .ok (state.draw (v x) (v y) rows).next
  | skipIfPressed => .ok (state.skipIf (state.pressed (v x)))
  | skipUnlessPressed => .ok (state.skipIf (!state.pressed (v x)))
  | getDelay => .ok (state.write x state.delay).next
  | awaitKey => .ok { state with status := .awaitingKey x }
  | setDelay => .ok { state with delay := v x }.next
  | setSound => .ok (state.setSound (v x)).next
  | addIndex => .ok { state with index := (state.index + v x) % 65536 }.next
  | pointToGlyph => .ok { state with index := 5 * v x }.next
  | storeDecimal => .ok (state.store [v x / 100, v x / 10 % 10, v x % 10]).next
  | storeRegisters => .ok (state.store (((List.finRange 16).take (x.val + 1)).map v)).next
  | loadRegisters => .ok (state.loadTo x).next

end Row
end Chip8.InstructionTable
