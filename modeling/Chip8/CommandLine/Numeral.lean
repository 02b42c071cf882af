namespace Chip8.CommandLine

private def digits (limit : Nat) : Nat → List Char → Option Nat
  | value, [] => if value < limit then some value else none
  | value, digit :: rest =>
    if digit.isDigit then digits limit (10 * value + (digit.toNat - '0'.toNat)) rest else none

/-- The value of a numeral below a limit: at least one digit, after an optional plus sign. -/
def readNumeral (limit : Nat) (text : String) : Option Nat :=
  match text.toList with
  | [] => none
  | ['+'] => none
  | '+' :: rest => digits limit 0 rest
  | characters => digits limit 0 characters

private theorem digits_of_isDigit {limit : Nat} {characters : List Char}
    (numeral : ∀ digit ∈ characters, digit.isDigit = true) (value : Nat) :
    digits limit value characters =
      if Nat.ofDigitChars 10 characters value < limit then
        some (Nat.ofDigitChars 10 characters value)
      else none := by
  induction characters generalizing value with
  | nil => rfl
  | cons digit rest ih =>
    rw [digits, if_pos (numeral digit List.mem_cons_self)]
    exact ih (fun other member => numeral other (List.mem_cons_of_mem _ member)) _

/-- The numeral of a number starts with a digit, and so it is neither empty nor signed. -/
theorem toList_numeral (number : Nat) : ∃ first rest, first.isDigit = true ∧
    (toString number).toList = first :: rest ∧ Nat.toDigits 10 number = first :: rest := by
  have spelled : (toString number).toList = Nat.toDigits 10 number := by
    rw [Nat.toString_eq_repr, Nat.toList_repr]
  cases shape : Nat.toDigits 10 number with
  | nil => exact absurd shape Nat.toDigits_ne_nil
  | cons first rest =>
    have member : first ∈ Nat.toDigits 10 number := shape ▸ List.mem_cons_self
    exact ⟨first, rest, Nat.isDigit_of_mem_toDigits (by decide) (by decide) member,
      spelled.trans shape, rfl⟩

theorem readNumeral_toString {limit number : Nat} (below : number < limit) :
    readNumeral limit (toString number) = some number := by
  obtain ⟨first, rest, digit, spelled, shape⟩ := toList_numeral number
  have numeral : ∀ digit ∈ first :: rest, digit.isDigit = true := fun _ member =>
    Nat.isDigit_of_mem_toDigits (by decide) (by decide) (shape ▸ member)
  have value : Nat.ofDigitChars 10 (first :: rest) 0 = number :=
    shape ▸ Nat.ofDigitChars_ten_toDigits
  have unsigned : first ≠ '+' := by
    rintro rfl
    exact absurd digit (by decide)
  rw [readNumeral, spelled]
  split
  · rename_i empty
    cases empty
  · rename_i signed
    cases signed
    exact absurd rfl unsigned
  · rename_i signed
    cases signed
    exact absurd rfl unsigned
  · rw [digits_of_isDigit numeral, value, if_pos below]

end Chip8.CommandLine
