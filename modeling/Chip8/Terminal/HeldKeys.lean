import Chip8.Terminal.KeyEvent

/-! Terminals tell of presses and not of releases, so a key counts as held for a while after
its last press. Instants are nanoseconds on a clock that never runs backwards. -/
namespace Chip8.Terminal

/-- When each key was last pressed, and how long a press lasts. -/
structure HeldKeys where
  hold : Nat
  pressedAt : Vector (Option Nat) 16
  deriving DecidableEq

namespace HeldKeys

def new (hold : Nat) : HeldKeys := ⟨hold, Vector.replicate 16 none⟩

/-- Note a press of the numbered key; numbers above fifteen name no key. -/
def press (keys : HeldKeys) (number now : Nat) : HeldKeys :=
  { keys with pressedAt := keys.pressedAt.setIfInBounds number (some now) }

def snapshot (keys : HeldKeys) (now : Nat) : KeySet :=
  .ofTest fun key =>
    match keys.pressedAt.get key with
    | none => false
    | some pressed => now - pressed < keys.hold

end HeldKeys

/-- What a listener has learnt from key events: held keys, and how often it was told to quit. -/
structure Listener where
  keys : HeldKeys
  quits : Nat
  deriving DecidableEq

namespace Listener

def new (hold : Nat) : Listener := ⟨.new hold, 0⟩

/-- Hear an event: it quits, or presses its key, or means nothing. -/
def hear (listener : Listener) (event : KeyEvent) (now : Nat) : Listener :=
  if event.isQuit then { listener with quits := listener.quits + 1 }
  else
    match event.key? with
    | some key => { listener with keys := listener.keys.press key.val now }
    | none => listener

def hearAll (listener : Listener) (events : List (KeyEvent × Nat)) : Listener :=
  events.foldl (fun listener (event, now) => listener.hear event now) listener

end Listener
end Chip8.Terminal
