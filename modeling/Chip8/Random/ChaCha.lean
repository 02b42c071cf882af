import Chip8.Address

/-! The ChaCha stream cipher with twenty rounds, as a keystream addressed by block number. -/
namespace Chip8.Random.ChaCha

/-- Sixteen words of working state. -/
abbrev Block := Vector UInt32 16

abbrev Key := Vector UInt32 8

def rotateLeft (word amount : UInt32) : UInt32 := (word <<< amount) ||| (word >>> (32 - amount))

/-- Mix four words of a block. -/
def quarterRound (block : Block) (i j k l : Fin 16) : Block :=
  let a := block[i] + block[j]
  let d := rotateLeft (block[l] ^^^ a) 16
  let c := block[k] + d
  let b := rotateLeft (block[j] ^^^ c) 12
  let a := a + b
  let d := rotateLeft (d ^^^ a) 8
  let c := c + d
  let b := rotateLeft (b ^^^ c) 7
  (((block.set i a).set j b).set k c).set l d

/-- A round over the columns, then one over the diagonals. -/
def doubleRound (block : Block) : Block :=
  let block := quarterRound block 0 4 8 12
  let block := quarterRound block 1 5 9 13
  let block := quarterRound block 2 6 10 14
  let block := quarterRound block 3 7 11 15
  let block := quarterRound block 0 5 10 15
  let block := quarterRound block 1 6 11 12
  let block := quarterRound block 2 7 8 13
  quarterRound block 3 4 9 14

/-- Constants, key, block number in two halves, and an empty nonce. -/
def initial (key : Key) (number : UInt64) : Block :=
  #v[0x61707865, 0x3320646e, 0x79622d32, 0x6b206574,
     key[0], key[1], key[2], key[3], key[4], key[5], key[6], key[7],
     number.toUInt32, (number >>> 32).toUInt32, 0, 0]

def block (key : Key) (number : UInt64) : Block :=
  let start := initial key number
  let mixed := Nat.repeat doubleRound 10 start
  Vector.ofFn fun word => mixed[word] + start[word]

/-- The word at a position of the keystream, counting through the blocks. -/
def streamWord (key : Key) (position : Nat) : UInt32 :=
  (block key (UInt64.ofNat (position / 16)))[digit position]

end Chip8.Random.ChaCha
