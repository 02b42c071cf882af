namespace Chip8.Guarded

universe u v w
variable {α : Type u} {β : Type v} {σ : Type w}

/-- Sizes and indices stay below it. -/
def indexLimit : Nat := UInt32.size

def read (array : List α) (index : Nat) : Option α := array[index]?

def write (array : List α) (index : Nat) (value : α) : Option (List α) :=
  if index < array.length then some (array.set index value) else none

def sliceTo (array : List α) (stop : Nat) : Option (List α) :=
  if stop ≤ array.length then some (array.take stop) else none

/-- Replace the elements between two indices by as many others. -/
def copyTo (array : List α) (start stop : Nat) (values : List α) : Option (List α) :=
  if start ≤ stop ∧ stop ≤ array.length ∧ values.length = stop - start then
    some (array.take start ++ values ++ array.drop stop)
  else none

def add (limit left right : Nat) : Option Nat :=
  if left + right < limit then some (left + right) else none

def multiply (limit left right : Nat) : Option Nat :=
  if left * right < limit then some (left * right) else none

def subtract (left right : Nat) : Option Nat :=
  if right ≤ left then some (left - right) else none

def divide (left right : Nat) : Option Nat :=
  if right = 0 then none else some (left / right)

/-- A byte shifted by less than its width. -/
def shiftRight (byte : UInt8) (amount : Nat) : Option UInt8 :=
  if amount < 8 then some (UInt8.ofNat (byte.toNat >>> amount)) else none

theorem add_of_lt {limit left right : Nat} (fits : left + right < limit) :
    add limit left right = some (left + right) := if_pos fits

theorem multiply_of_lt {limit left right : Nat} (fits : left * right < limit) :
    multiply limit left right = some (left * right) := if_pos fits

theorem subtract_of_le {left right : Nat} (fits : right ≤ left) :
    subtract left right = some (left - right) := if_pos fits

theorem divide_of_ne {left right : Nat} (proper : right ≠ 0) :
    divide left right = some (left / right) := if_neg proper

theorem shiftRight_of_lt {byte : UInt8} {amount : Nat} (fits : amount < 8) :
    shiftRight byte amount = some (UInt8.ofNat (byte.toNat >>> amount)) := if_pos fits

theorem read_of_lt {array : List α} {index : Nat} (inside : index < array.length) (other : α) :
    read array index = some (array.getD index other) := by
  simp [read, inside]

theorem read_toList {size index : Nat} (array : Vector α size) (inside : index < size) :
    read array.toList index = some array[index] := by
  simp [read, inside]

theorem write_toList {size index : Nat} (array : Vector α size) (inside : index < size)
    (value : α) : write array.toList index value = some (array.set index value).toList := by
  rw [write, if_pos (by simpa using inside), Vector.toList_set]

theorem read_range {array : List α} {count : Nat} (fits : count ≤ array.length) :
    (List.range count).mapM (read array) = some (array.take count) := by
  induction count with
  | zero => rfl
  | succ count ih =>
    have room : count < array.length := fits
    rw [List.range_succ, List.mapM_append, ih (Nat.le_of_succ_le fits), List.take_add_one]
    simp [read, room]

theorem fill {array : List α} {count : Nat} {compute : Nat → Option α} {value : Nat → α}
    (fits : count ≤ array.length)
    (computed : ∀ index, index < count → compute index = some (value index)) :
    ((List.range count).foldlM
        (fun filled index => do write filled index (← compute index)) array) =
      some ((List.range count).map value ++ array.drop count) := by
  induction count with
  | zero => simp
  | succ count ih =>
    have filled := ih (Nat.le_of_succ_le fits) fun index before =>
      computed index (Nat.lt_succ_of_lt before)
    have room : count < array.length := fits
    rw [List.range_succ, List.foldlM_append, filled]
    simp only [Option.bind_eq_bind, Option.bind_some, List.foldlM_cons, List.foldlM_nil,
      computed count (Nat.lt_succ_self count)]
    rw [write, if_pos (by simp; omega), List.set_append_right _ _ (by simp)]
    simp only [List.length_map, List.length_range, Nat.sub_self]
    rw [List.drop_eq_getElem_cons room, List.set_cons_zero]
    simp

theorem foldlM_follows {step : σ → β → Option σ} {calculate : α → β → α}
    {represent : α → σ} {inputs : List β} (state : α)
    (follows : ∀ state, ∀ input ∈ inputs,
      step (represent state) input = some (represent (calculate state input))) :
    inputs.foldlM step (represent state) = some (represent (inputs.foldl calculate state)) := by
  induction inputs generalizing state with
  | nil => rfl
  | cons input rest ih =>
    rw [List.foldlM_cons, follows state input List.mem_cons_self]
    exact ih _ fun state other member => follows state other (List.mem_cons_of_mem input member)

end Chip8.Guarded
