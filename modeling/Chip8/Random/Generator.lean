import Chip8.Random.ChaCha

/-! Random bytes are the low bytes of keystream words under a key grown from a seed, so the
byte drawn depends on the seed and on how many were drawn before, and on nothing else. -/
namespace Chip8.Random

/-- A step of the congruential sequence that spreads a seed over the key. -/
def spread (seed : UInt64) : UInt64 := seed * 6364136223846793005 + 11634580027462260723

/-- The key word taken from a member of the sequence: shifted, folded and rotated right. -/
def scramble (state : UInt64) : UInt32 :=
  let word := (((state >>> 18) ^^^ state) >>> 27).toUInt32
  let amount := (state >>> 59).toUInt32
  (word >>> amount) ||| (word <<< (32 - amount))

def keyOfSeed (seed : UInt64) : ChaCha.Key :=
  Vector.ofFn fun position => scramble (Nat.repeat spread (position.val + 1) seed)

/-- A keystream and the position of its next word. What is proved of random bytes needs only that
there is a stream for each seed and that a draw moves on by one: no theorem looks into the key or
the words. -/
structure Generator where
  key : ChaCha.Key
  position : Nat
  deriving DecidableEq

namespace Generator

/-- The generator at the start of the stream of a seed. -/
def ofSeed (seed : UInt64) : Generator := ⟨keyOfSeed seed, 0⟩

def byteAt (key : ChaCha.Key) (position : Nat) : UInt8 := (ChaCha.streamWord key position).toUInt8

def draw (generator : Generator) : UInt8 × Generator :=
  (byteAt generator.key generator.position, { generator with position := generator.position + 1 })

end Generator
end Chip8.Random
