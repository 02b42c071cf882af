import Chip8.Keypad

namespace Chip8

/-- Samples still to come, then the last one for ever. -/
structure KeyFeed where
  upcoming : List KeySet
  current : KeySet
  deriving DecidableEq

namespace KeyFeed

/-- A feed that plays a script; before its first sample no key is down. -/
def ofScript (script : List KeySet) : KeyFeed := ⟨script, .none⟩

def silent : KeyFeed := ofScript []

def constant (keys : KeySet) : KeyFeed := ⟨[], keys⟩

def poll (feed : KeyFeed) : KeySet × KeyFeed :=
  match feed.upcoming with
  | [] => (feed.current, feed)
  | sample :: rest => (sample, ⟨rest, sample⟩)

def pollMany (feed : KeyFeed) : Nat → List KeySet
  | 0 => []
  | count + 1 => feed.poll.1 :: feed.poll.2.pollMany count

end KeyFeed
end Chip8
