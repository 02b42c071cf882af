import Chip8.Screen
import Chip8.Timers

namespace Chip8

/-- A display keeps the last frame delivered to it and counts the deliveries. -/
structure Display where
  frame : Frame
  delivered : Nat
  deriving DecidableEq

namespace Display

def new : Display := ⟨.blank, 0⟩

def accept (display : Display) (frame : Frame) : Display := ⟨frame, display.delivered + 1⟩

end Display

/-- A speaker keeps all tone events handed to it, and those that a listener received. -/
structure Speaker where
  events : List Tone
  received : List Tone
  listening : Bool
  deriving DecidableEq

namespace Speaker

def new : Speaker := ⟨[], [], true⟩

/-- Hand over an event; it is lost if nobody listens. -/
def play (speaker : Speaker) (tone : Tone) : Speaker :=
  { speaker with
    events := speaker.events ++ [tone]
    received := if speaker.listening then speaker.received ++ [tone] else speaker.received }

/-- Hand over the event of a timer change, if there is one. -/
def playSome (speaker : Speaker) : Option Tone → Speaker
  | none => speaker
  | some tone => speaker.play tone

def hangUp (speaker : Speaker) : Speaker := { speaker with listening := false }

end Speaker
end Chip8
