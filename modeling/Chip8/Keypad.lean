import Chip8.Address

namespace Chip8

abbrev Key := Fin 16

structure KeySet where
  down : Vector Bool 16
  deriving DecidableEq

namespace KeySet

def none : KeySet := ⟨Vector.replicate 16 false⟩

def contains (keys : KeySet) (key : Key) : Bool := keys.down[key]

def ofTest (test : Key → Bool) : KeySet := ⟨Vector.ofFn test⟩

/-- The set of the numbered keys; numbers above fifteen name no key. -/
def ofNumbers (numbers : List Nat) : KeySet := ofTest fun key => numbers.contains key.val

/-- The keys that are down, ascending. -/
def toList (keys : KeySet) : List Key := (List.finRange 16).filter keys.contains

@[simp] theorem contains_ofTest (test : Key → Bool) (key : Key) :
    (ofTest test).contains key = test key := by
  simp [ofTest, contains]

end KeySet

/-- Held keys, and those of them whose press has not been answered yet. -/
structure Keypad where
  held : KeySet
  fresh : KeySet
  deriving DecidableEq

namespace Keypad

def new : Keypad := ⟨.none, .none⟩

/-- Take a new sample; a press is fresh if the key was up in the sample before. -/
def update (keypad : Keypad) (sample : KeySet) : Keypad :=
  ⟨sample, .ofTest fun key => sample.contains key && !keypad.held.contains key⟩

/-- Whether the numbered key is held; numbers above fifteen never are. -/
def isPressed (keypad : Keypad) (number : UInt8) : Bool :=
  if valid : number.toNat < 16 then keypad.held.contains ⟨number.toNat, valid⟩ else false

def firstFresh? (keypad : Keypad) : Option Key := (List.finRange 16).find? keypad.fresh.contains

/-- Answer the press of the numbered key, which stays held. -/
def takePress (keypad : Keypad) (number : UInt8) : Keypad :=
  { keypad with fresh := .ofTest fun key => keypad.fresh.contains key && key.val != number.toNat }

@[simp] theorem held_takePress (keypad : Keypad) (number : UInt8) :
    (keypad.takePress number).held = keypad.held := by
  rw [takePress]

theorem fresh_update (keypad : Keypad) (sample : KeySet) (key : Key) :
    (keypad.update sample).fresh.contains key =
      (sample.contains key && !keypad.held.contains key) := by
  rw [update, KeySet.contains_ofTest]

theorem fresh_takePress (keypad : Keypad) (number : UInt8) (key : Key) :
    (keypad.takePress number).fresh.contains key =
      (keypad.fresh.contains key && key.val != number.toNat) := by
  rw [takePress, KeySet.contains_ofTest]

theorem firstFresh?_eq_some_iff {keypad : Keypad} {key : Key} :
    keypad.firstFresh? = some key ↔
      keypad.fresh.contains key = true ∧
        ∀ lower, lower < key → keypad.fresh.contains lower = false := by
  rw [firstFresh?, List.find?_eq_some_iff_getElem]
  constructor
  · rintro ⟨fresh, position, bound, found, before⟩
    refine ⟨fresh, ?_⟩
    intro lower below
    have inside : lower.val < (List.finRange 16).length := by simp
    have earlier : lower.val < position := by
      simpa [← found] using Fin.lt_def.mp below
    simpa using before lower.val earlier
  · rintro ⟨fresh, lowest⟩
    refine ⟨fresh, key.val, by simp, by simp, ?_⟩
    intro position below
    have inside : position < 16 := Nat.lt_trans below key.isLt
    simpa using lowest ⟨position, inside⟩ below

theorem firstFresh?_eq_none_iff {keypad : Keypad} :
    keypad.firstFresh? = none ↔ ∀ key, keypad.fresh.contains key = false := by
  simp [firstFresh?]

end Keypad
end Chip8
