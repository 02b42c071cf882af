import Chip8.CommandLine.Numeral
import Chip8.Terminal.KeyEvent

/-! Bytes from a terminal read as signals. An escape with more after it starts a sequence: one
further character with the alt key, a key that stands for no character, or a report of the
terminal. A sequence that means none of these is dropped. -/
namespace Chip8.Terminal

/-- What bytes amount to: a key event, or else a key without a character or a report, of which
nothing is made. -/
inductive Signal where
  | key (event : KeyEvent)
  | other
  deriving DecidableEq, Repr

namespace Signal

def event? : Signal → Option KeyEvent
  | key event => some event
  | other => none

/-- Something else if a condition holds, and nothing otherwise. -/
def otherIf (condition : Bool) : Option Signal := if condition then some other else none

end Signal

/-- What has been read of a signal that is not complete. -/
inductive KeyReader where
  | ready
  /-- An escape. -/
  | escape
  /-- An escape and a capital O; one byte names a function key. -/
  | singleShift
  /-- An escape and a bracket. -/
  | control
  /-- An escape and two brackets; one byte names a function key. -/
  | function
  /-- A control sequence with numbers, read backwards up to its final letter or sign. -/
  | numbers (text : List Char)
  /-- The report of a pointer, read backwards up to its final letter. -/
  | pointer (text : List Char)
  /-- The short report of a pointer, by the bytes to come. -/
  | bytes (remaining : Nat)
  /-- A character, after an escape or not, by the bytes to come and the value of those before. -/
  | character (alt : Bool) (remaining value : Nat)
  deriving DecidableEq, Repr

namespace KeyReader

/-- The event of a complete character. After an escape even a control character is only that
character with the alt key. -/
def eventOf (alt : Bool) (value : Nat) : KeyEvent :=
  if alt then ⟨.char (Char.ofNat value), ⟨false, false, true⟩⟩
  else .ofTyped (Char.ofNat value)

/-- Read the first byte of a character, which tells how many follow. A byte that begins no
character is dropped. -/
def readFirst (alt : Bool) (byte : UInt8) : KeyReader × Option Signal :=
  let value := byte.toNat
  if value < 0x80 then (ready, some (.key (eventOf alt value)))
  else if value < 0xC0 then (ready, none)
  else if value < 0xE0 then (character alt 1 (value - 0xC0), none)
  else if value < 0xF0 then (character alt 2 (value - 0xE0), none)
  else if value < 0xF8 then (character alt 3 (value - 0xF0), none)
  else (ready, none)

/-- Read a further byte of a character; any other byte is dropped together with it. -/
def readFurther (alt : Bool) (remaining value : Nat) (byte : UInt8) : KeyReader × Option Signal :=
  if 0x80 ≤ byte ∧ byte < 0xC0 then
    let longer := 64 * value + (byte.toNat - 0x80)
    if remaining ≤ 1 then (ready, some (.key (eventOf alt longer)))
    else (character alt (remaining - 1) longer, none)
  else (ready, none)

/-- What comes after an escape and a bracket opens a longer sequence or names a key. -/
def readControl (sign : Char) : KeyReader × Option Signal :=
  if sign = '[' then (function, none)
  else if sign = 'M' then (bytes 3, none)
  else if sign = '<' then (pointer [], none)
  else if sign.isDigit then (numbers [sign], none)
  else (ready, Signal.otherIf ("ABCDFHZ".contains sign))

/-- The numbers between semicolons, of text read backwards; anything else is no number. -/
def fields (limit : Nat) (text : List Char) : List (Option Nat) :=
  ((String.ofList text.reverse).splitOn ";").map (CommandLine.readNumeral limit)

/-- A number that a sequence ending in a tilde gives to a key. -/
def isKeyNumber (number : Nat) : Bool :=
  (1 ≤ number ∧ number ≤ 8) || (11 ≤ number ∧ number ≤ 15) ||
    (17 ≤ number ∧ number ≤ 21) || (23 ≤ number ∧ number ≤ 26) ||
    (28 ≤ number ∧ number ≤ 29) || (31 ≤ number ∧ number ≤ 34)

/-- The meaning of a control sequence with numbers: a numbered key, the place of the cursor, a
report of a pointer, or a key with modifiers. A pointer cannot be dragged with no button. -/
def ofNumbers (text : List Char) (final : Char) : Option Signal :=
  match final, fields UInt8.size text, fields UInt16.size text with
  | '~', some number :: _, _ => Signal.otherIf (isKeyNumber number)
  | 'R', _, some _ :: some _ :: _ => some .other
  | 'M', _, some buttons :: some _ :: some _ :: _ =>
    Signal.otherIf (buttons % 4 ≠ 3 || buttons / 32 % 4 ≠ 2)
  | '~', _, _ | 'R', _, _ | 'M', _, _ => none
  | _, _, _ => Signal.otherIf ("ABCDFHPQS".contains final)

/-- The meaning of the report of a pointer: it needs three numbers, and a button or the wheel. -/
def ofPointer (text : List Char) : Option Signal :=
  match fields UInt16.size text with
  | some buttons :: some _ :: some _ :: _ =>
    Signal.otherIf (buttons % 4 ≠ 3 || buttons / 64 % 2 = 1)
  | _ => none

/-- Read a byte, knowing whether more may follow at once. An escape alone is a key, and so are
two of them. -/
def read (reader : KeyReader) (byte : UInt8) (more : Bool) : KeyReader × Option Signal :=
  let sign := Char.ofNat byte.toNat
  match reader with
  | ready => if sign = '\x1b' ∧ more then (escape, none) else readFirst false byte
  | escape =>
    if sign = 'O' then (singleShift, none)
    else if sign = '[' then (control, none)
    else readFirst (sign ≠ '\x1b') byte
  | singleShift => (ready, Signal.otherIf ("PQRS".contains sign))
  | control => readControl sign
  | function => (ready, Signal.otherIf ("ABCDE".contains sign))
  | numbers text =>
    if '@' ≤ sign ∧ sign ≤ '~' then (ready, ofNumbers text sign)
    else (numbers (sign :: text), none)
  | pointer text =>
    if sign = 'm' ∨ sign = 'M' then (ready, ofPointer text) else (pointer (sign :: text), none)
  | bytes remaining =>
    if remaining ≤ 1 then (ready, some .other) else (bytes (remaining - 1), none)
  | character alt remaining value => readFurther alt remaining value byte

/-- Read bytes that arrive at once, and may have more behind them. -/
def readAll (reader : KeyReader) (more : Bool) : List UInt8 → KeyReader × List Signal
  | [] => (reader, [])
  | byte :: rest =>
    let (next, signal) := reader.read byte (!rest.isEmpty || more)
    let (after, signals) := next.readAll more rest
    (after, signal.toList ++ signals)

theorem readAll_ready {more : Bool} {bytes : List UInt8}
    (plain : ∀ byte ∈ bytes, byte < 0x80 ∧ byte ≠ 0x1B) :
    ready.readAll more bytes =
      (ready, bytes.map fun byte => .key (.ofTyped (Char.ofNat byte.toNat))) := by
  induction bytes with
  | nil => rfl
  | cons byte rest ih =>
    obtain ⟨short, different⟩ := plain byte List.mem_cons_self
    have small : byte.toNat < 0x80 := short
    have noEscape : Char.ofNat byte.toNat ≠ '\x1b' := by
      intro same
      have value : byte.toNat = 0x1B := by
        have valid : byte.toNat.isValidChar := Or.inl (by omega)
        have equal := congrArg Char.toNat same
        rwa [Char.ofNat, dif_pos valid] at equal
      exact different (UInt8.toNat_inj.mp value)
    have remaining := ih fun other member => plain other (List.mem_cons_of_mem _ member)
    simp [readAll, read, readFirst, noEscape, small, eventOf, remaining]

end KeyReader
end Chip8.Terminal
