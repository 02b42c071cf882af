import Chip8.Terminal.KeyReader

/-! A keyboard hands over typed bytes in fetches of limited size. Only typing causes fetches, and
they go on until one brings a signal, so what is left behind then waits for the next text. -/
namespace Chip8.Terminal

/-- How far events were read, and the bytes typed but not fetched. -/
structure Keyboard where
  reader : KeyReader
  waiting : List UInt8
  deriving DecidableEq, Repr

namespace Keyboard

def new : Keyboard := ⟨.ready, []⟩

/-- The most bytes that one fetch takes. -/
def fetchLimit : Nat := 1204

/-- Fetch until there is a signal or nothing more: the key events that are complete then. A full
fetch is taken to have more behind it. -/
def fetch (reader : KeyReader) (waiting : List UInt8) : Keyboard × List KeyEvent :=
  if waiting.isEmpty then (⟨reader, []⟩, [])
  else
    let fetched := waiting.take fetchLimit
    let rest := waiting.drop fetchLimit
    let (next, signals) := reader.readAll (fetched.length = fetchLimit) fetched
    if signals.isEmpty then fetch next rest
    else (⟨next, rest⟩, signals.filterMap Signal.event?)
termination_by waiting.length
decreasing_by
  have positive : 0 < waiting.length :=
    List.length_pos_iff.mpr (by simpa using ‹¬waiting.isEmpty›)
  simp only [List.length_drop, fetchLimit]
  omega

/-- Type a text; typing nothing causes no fetch. -/
def type (keyboard : Keyboard) (text : String) : Keyboard × List KeyEvent :=
  match text.toList.flatMap String.utf8EncodeChar with
  | [] => (keyboard, [])
  | bytes => fetch keyboard.reader (keyboard.waiting ++ bytes)

def typeAll (keyboard : Keyboard) : List String → Keyboard × List KeyEvent
  | [] => (keyboard, [])
  | text :: texts =>
    let (next, events) := keyboard.type text
    let (after, others) := next.typeAll texts
    (after, events ++ others)

end Keyboard
end Chip8.Terminal
