import Chip8.Terminal.KeyEvent
import Mathlib

namespace Chip8.Terminal

theorem eq_toLower_or (character : Char) :
    character = character.toLower ∨ character = character.toLower.toUpper := by
  by_cases capital : character.isUpper
  · right
    rw [Char.toUpper_toLower_eq_toUpper,
      Char.toUpper_eq_of_not_isLower (Char.not_isLower_of_isUpper capital)]
  · exact Or.inl (Char.toLower_eq_of_not_isUpper capital).symm

def smallCharacters : Vector Char 16 :=
  #v['x', '1', '2', '3', 'q', 'w', 'e', 'a', 's', 'd', 'z', 'c', '4', 'r', 'f', 'v']

theorem keyOfChar?_eq_some_iff {character : Char} {key : Key} :
    keyOfChar? character = some key ↔ character.toLower = smallCharacters.get key := by
  constructor
  · intro stands
    rw [keyOfChar?] at stands
    split at stands
    all_goals cases stands
    all_goals assumption
  · intro small
    rw [keyOfChar?, small]
    clear small
    decide +revert

theorem isSome_keyOfChar?_iff (character : Char) :
    (keyOfChar? character).isSome = true ↔
      character ∈ "1234qwerasdfzxcv".toList ∨ character ∈ "QWERASDFZXCV".toList := by
  constructor
  · intro stands
    obtain ⟨key, found⟩ := Option.isSome_iff_exists.mp stands
    have small := keyOfChar?_eq_some_iff.mp found
    have listed : ∀ key : Key, smallCharacters.get key ∈ "1234qwerasdfzxcv".toList ∧
        ((smallCharacters.get key).toUpper ∈ "1234qwerasdfzxcv".toList ∨
          (smallCharacters.get key).toUpper ∈ "QWERASDFZXCV".toList) := by decide
    rcases eq_toLower_or character with same | same
    · rw [same, small]
      exact Or.inl (listed key).1
    · rw [same, small]
      exact (listed key).2
  · have stand : ("1234qwerasdfzxcv".toList ++ "QWERASDFZXCV".toList).all
        (fun character => (keyOfChar? character).isSome) = true := by decide
    intro member
    exact List.all_eq_true.mp stand character (List.mem_append.mpr member)

/-- The characters that stand for keys. -/
structure KeyLayout : Prop where
  /-- They are sixteen small ones and the capitals of their letters. -/
  defined : ∀ character, (keyOfChar? character).isSome = true ↔
    character ∈ "1234qwerasdfzxcv".toList ∨ character ∈ "QWERASDFZXCV".toList
  /-- Capital and small letters stand for the same key. -/
  caseless : ∀ character, keyOfChar? character.toUpper = keyOfChar? character ∧
    keyOfChar? character.toLower = keyOfChar? character
  /-- Capitals aside, there is one character for each key. -/
  unique : ∀ key, ∃! character, character.isUpper = false ∧ keyOfChar? character = some key

theorem keyLayout : KeyLayout where
  defined := isSome_keyOfChar?_iff
  caseless character := by
    constructor
    · apply Option.ext
      intro key
      rw [keyOfChar?_eq_some_iff, keyOfChar?_eq_some_iff,
        Char.toLower_toUpper_eq_toLower]
    · apply Option.ext
      intro key
      rw [keyOfChar?_eq_some_iff, keyOfChar?_eq_some_iff,
        Char.toLower_toLower_eq_toLower]
  unique key := by
    have small : ∀ key : Key, (smallCharacters.get key).isUpper = false := by decide
    refine ⟨smallCharacters.get key, ⟨small key, ?_⟩, ?_⟩
    · rw [keyOfChar?_eq_some_iff,
        Char.toLower_eq_of_not_isUpper (Bool.eq_false_iff.mp (small key))]
    · rintro character ⟨small, stands⟩
      rwa [keyOfChar?_eq_some_iff,
        Char.toLower_eq_of_not_isUpper (Bool.eq_false_iff.mp small)] at stands

end Chip8.Terminal
