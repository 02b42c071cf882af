import Chip8.Keypad

namespace Chip8.Terminal

inductive KeyCode where
  | escape
  | enter
  | tab
  | backTab
  | backspace
  | insert
  | delete
  | up
  | down
  | left
  | right
  | home
  | endOfLine
  | pageUp
  | pageDown
  | function (number : UInt8)
  | null
  | char (character : Char)
  deriving DecidableEq, Repr

structure Modifiers where
  shift : Bool
  control : Bool
  alt : Bool
  deriving DecidableEq, Repr

def Modifiers.none : Modifiers := ⟨false, false, false⟩

structure KeyEvent where
  code : KeyCode
  modifiers : Modifiers
  deriving DecidableEq, Repr

/-- The key a character stands for: the left of a keyboard, laid out as the keypad is.
Capital letters count as small ones. -/
def keyOfChar? (character : Char) : Option Key :=
  match character.toLower with
  | '1' => some 0x1
  | '2' => some 0x2
  | '3' => some 0x3
  | '4' => some 0xC
  | 'q' => some 0x4
  | 'w' => some 0x5
  | 'e' => some 0x6
  | 'r' => some 0xD
  | 'a' => some 0x7
  | 's' => some 0x8
  | 'd' => some 0x9
  | 'f' => some 0xE
  | 'z' => some 0xA
  | 'x' => some 0x0
  | 'c' => some 0xB
  | 'v' => some 0xF
  | _ => none

namespace KeyEvent

/-- Escape quits, and so does a small c with control. -/
def isQuit (event : KeyEvent) : Bool :=
  match event.code with
  | .escape => true
  | .char character => character = 'c' && event.modifiers.control
  | _ => false

/-- The key an event presses: that of its character, whatever the modifiers. -/
def key? (event : KeyEvent) : Option Key :=
  match event.code with
  | .char character => keyOfChar? character
  | _ => none

/-- The event a terminal sends for a typed character. Controls come as letters or digits
with the control key, except those that have a key of their own. -/
def ofTyped (character : Char) : KeyEvent :=
  let value := character.toNat
  let plain (code : KeyCode) : KeyEvent := ⟨code, .none⟩
  let controlled (base : Char) (offset : Nat) : KeyEvent :=
    ⟨.char (Char.ofNat (base.toNat + offset)), ⟨false, true, false⟩⟩
  if value = 0x00 then plain .null
  else if value = 0x09 then plain .tab
  else if value = 0x0A ∨ value = 0x0D then plain .enter
  else if value = 0x1B then plain .escape
  else if value = 0x7F then plain .backspace
  else if value < 0x1B then controlled 'a' (value - 1)
  else if value < 0x20 then controlled '4' (value - 0x1C)
  else plain (.char character)

end KeyEvent
end Chip8.Terminal
