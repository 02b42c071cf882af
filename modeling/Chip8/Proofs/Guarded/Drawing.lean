import Chip8.Proofs.Drawing
import Chip8.Proofs.Guarded.State

namespace Chip8.Guarded

/-- The cells of a picture while it is drawn, and whether a lit one was struck. -/
abbrev Picture := List UInt8 × Bool

/-- Where a column and a line meet; both wrap. -/
def cellIndex (column line : Nat) : Option Nat := do
  add indexLimit (column % 64) (← multiply indexLimit 64 (line % 32))

/-- Flip the cell under one pixel of a row, if the pixel is lit. -/
def plot (x line : Nat) (row : UInt8) (picture : Picture) (column : Nat) : Option Picture := do
  let amount ← subtract 7 column
  let bits ← shiftRight row amount
  if bits &&& 1 = 0 then return picture
  else
    let cell ← cellIndex (← add indexLimit x column) line
    let pixel ← read picture.1 cell
    let cells ← write picture.1 cell (pixel ^^^ 1)
    return (cells, picture.2 || pixel == 1)

/-- Draw the rows of a sprite from a line on, top to bottom. -/
def plotRows (x y : Nat) (picture : Picture) : List UInt8 → Nat → Option Picture
  | [], _ => some picture
  | row :: rows, count => do
    let line ← add indexLimit y count
    let drawn ← (List.range 8).foldlM (plot x line row) picture
    plotRows x y drawn rows (count + 1)

/-- The picture that a frame and a flag make. -/
def pictureOf (state : Frame × Bool) : Picture := (cellsOf state.1, state.2)

theorem cellIndex_eq (column line : Nat) :
    cellIndex column line = some (Frame.index (column, line)).val := by
  have inside : 64 * (line % 32) < indexLimit := by
    simp only [indexLimit, UInt32.size]
    omega
  have within : column % 64 + 64 * (line % 32) < indexLimit := by
    simp only [indexLimit, UInt32.size]
    omega
  rw [cellIndex, multiply_of_lt inside]
  exact add_of_lt within

theorem read_cellsOf (frame : Frame) (point : Point) :
    read (cellsOf frame) (Frame.index point).val = some (if frame.get point then 1 else 0) := by
  simp only [read, cellsOf, List.getElem?_map, Vector.getElem?_toList, Frame.get]
  rw [Vector.getElem?_eq_getElem (Frame.index point).isLt]
  rfl

theorem write_cellsOf (frame : Frame) (point : Point) :
    write (cellsOf frame) (Frame.index point).val ((if frame.get point then 1 else 0) ^^^ 1) =
      some (cellsOf (frame.flip point)) := by
  have inside := (Frame.index point).isLt
  have flipped : (if frame.get point then 1 else 0 : UInt8) ^^^ 1 =
      if !frame.get point then 1 else 0 := by
    cases frame.get point with
    | false => rfl
    | true => rfl
  rw [write, if_pos (by simp [cellsOf]), flipped]
  simp [cellsOf, Frame.flip, List.map_set, Vector.toList_set]

/-- The lowest bit of a shifted byte is the bit at the distance of the shift. -/
theorem shifted_eq_zero_iff (row : UInt8) (amount : Nat) :
    UInt8.ofNat (row.toNat >>> amount) &&& 1 = 0 ↔ ¬ row.toNat.testBit amount = true := by
  have bound := row.toNat_lt
  have small : row.toNat >>> amount < 256 := by
    rw [Nat.shiftRight_eq_div_pow]
    exact Nat.lt_of_le_of_lt (Nat.div_le_self _ _) bound
  have one : UInt8.toNat 1 = 1 := rfl
  rw [← UInt8.toNat_inj, UInt8.toNat_and, UInt8.toNat_ofNat', Nat.mod_eq_of_lt small, one,
    Nat.and_one_is_mod, Nat.testBit, Nat.and_comm, Nat.and_one_is_mod]
  simp

theorem plot_pictureOf {x line column : Nat} (row : UInt8) (state : Frame × Bool)
    (inside : column < 8) (near : x + column < indexLimit) :
    plot x line row (pictureOf state) column =
      some (pictureOf (if row.toNat.testBit (7 - column) then
        Screen.strike state (x + column, line) else state)) := by
  rw [plot, subtract_of_le (Nat.le_of_lt_succ inside)]
  simp only [Option.bind_eq_bind, Option.bind_some, shiftRight_of_lt (show 7 - column < 8 by omega),
    shifted_eq_zero_iff]
  by_cases lit : row.toNat.testBit (7 - column) = true
  · rw [if_neg (not_not_intro lit), if_pos lit, add_of_lt near]
    simp only [Option.bind_some, cellIndex_eq, pictureOf, read_cellsOf, write_cellsOf]
    cases before : state.1.get (x + column, line) with
    | false => simp [Screen.strike, before]
    | true => simp [Screen.strike, before]
  · rw [if_pos lit, if_neg lit]
    rfl

theorem plotRows_pictureOf {x y count : Nat} (state : Frame × Bool) (sprite : Sprite)
    (near : x + 8 < indexLimit) (above : y + count + sprite.length < indexLimit) :
    plotRows x y (pictureOf state) sprite count =
      some (pictureOf ((Sprite.points x (y + count) sprite).foldl Screen.strike state)) := by
  induction sprite generalizing state count with
  | nil => rfl
  | cons row rows ih =>
    rw [List.length_cons] at above
    have drawn : (List.range 8).foldlM (plot x (y + count) row) (pictureOf state) =
        some (pictureOf ((Sprite.rowPoints x (y + count) row).foldl Screen.strike state)) := by
      rw [Sprite.rowPoints, List.foldl_filterMap]
      apply foldlM_follows
      intro state column member
      have inside : column < 8 := List.mem_range.mp member
      rw [plot_pictureOf row state inside (by omega)]
      by_cases lit : row.toNat.testBit (7 - column) = true
      · simp [lit]
      · simp [lit]
    rw [plotRows, add_of_lt (by omega)]
    simp only [Option.bind_eq_bind, Option.bind_some, drawn]
    rw [ih _ (by omega), Sprite.points, List.foldl_append, Nat.add_assoc]

theorem foldl_strike_congr {points others : List Point} (state : Frame × Bool)
    (same : points.map Frame.index = others.map Frame.index) :
    points.foldl Screen.strike state = others.foldl Screen.strike state := by
  induction points generalizing others state with
  | nil =>
    cases others with
    | nil => rfl
    | cons => cases same
  | cons point points ih =>
    cases others with
    | nil => cases same
    | cons other others =>
      obtain ⟨first, rest⟩ := List.cons.inj same
      have struck : Screen.strike state point = Screen.strike state other := by
        simp only [Screen.strike, Frame.flip, Frame.get, first]
      rw [List.foldl_cons, List.foldl_cons, struck]
      exact ih _ rest

theorem map_index_points (x : Nat) {y line : Nat} (same : line % 32 = y % 32) (sprite : Sprite) :
    (Sprite.points (x % 64) line sprite).map Frame.index =
      (Sprite.points x y sprite).map Frame.index := by
  induction sprite generalizing y line with
  | nil => rfl
  | cons row rows ih =>
    have drawn : (Sprite.rowPoints (x % 64) line row).map Frame.index =
        (Sprite.rowPoints x y row).map Frame.index := by
      simp only [Sprite.rowPoints, List.map_filterMap]
      congr 1
      funext column
      have fallen : Frame.index (x % 64 + column, line) = Frame.index (x + column, y) := by
        rw [Frame.index_eq_iff]
        omega
      by_cases lit : row.toNat.testBit (7 - column) = true
      · simp [lit, fallen]
      · simp [lit]
    simp only [Sprite.points, List.map_append, drawn]
    rw [ih (show (line + 1) % 32 = (y + 1) % 32 by omega)]

namespace State

/-- The rows of the sprite at the index register, read into a buffer for fifteen. -/
def spriteRows (state : State) (height : Nat) : Option Sprite := do
  let buffer ← (List.range height).foldlM
    (fun buffer row => do write buffer row (← state.readByte (state.index + UInt16.ofNat row)))
    (List.replicate 15 0)
  sliceTo buffer height

/-- Draw the sprite at the index register; the flag register tells of a collision. -/
def drawSprite (state : State) (x y height : UInt8) : Option State := do
  let sprite ← state.spriteRows (min height.toNat 15)
  let (cells, collision) ← plotRows (x.toNat % 64) (y.toNat % 32) (state.cells, false) sprite 0
  { state with cells := cells, needsRedraw := true }.setV 15 (if collision then 1 else 0)

theorem spriteRows_of (machine : Machine) {height : Nat} (fits : height ≤ 15) :
    (of machine).spriteRows height =
      some (machine.memory.readMany machine.registers.index height) := by
  have room : height ≤ (List.replicate 15 (0 : UInt8)).length := by simpa using fits
  have filled : (List.range height).foldlM (fun buffer row => do
      write buffer row (← (of machine).readByte ((of machine).index + UInt16.ofNat row)))
        (List.replicate 15 0) = some _ :=
    fill room fun row _ => readByte_of machine (machine.registers.index + UInt16.ofNat row)
  rw [spriteRows, filled]
  simp [sliceTo, Memory.readMany]

theorem drawSprite_of (machine : Machine) (x y height : UInt8) :
    (of machine).drawSprite x y height = some (of (machine.drawSprite x y height)) := by
  have fits : min height.toNat 15 ≤ 15 := Nat.min_le_right _ _
  have few :
      (machine.memory.readMany machine.registers.index (min height.toNat 15)).length ≤ 15 := by
    rw [Memory.readMany, List.length_map, List.length_range]
    exact fits
  have near : x.toNat % 64 + 8 < indexLimit := by
    simp only [indexLimit, UInt32.size]
    omega
  have above : y.toNat % 32 + 0 + (machine.memory.readMany machine.registers.index
      (min height.toNat 15)).length < indexLimit := by
    simp only [indexLimit, UInt32.size]
    omega
  have wrapped : (y.toNat % 32 + 0) % 32 = y.toNat % 32 := Nat.mod_mod _ _
  have drawn := plotRows_pictureOf (machine.screen.frame, false) _ near above
  rw [foldl_strike_congr _ (map_index_points x.toNat wrapped _)] at drawn
  have plotted : plotRows (x.toNat % 64) (y.toNat % 32) ((of machine).cells, false)
      (machine.memory.readMany machine.registers.index (min height.toNat 15)) 0 = some _ := drawn
  rw [drawSprite, spriteRows_of machine fits]
  simp only [Option.bind_eq_bind, Option.bind_some, plotted]
  let picture := machine.screen.draw x y
    (machine.memory.readMany machine.registers.index (min height.toNat 15))
  exact setFlag_of { machine with screen := picture.1 } picture.2

end State
end Chip8.Guarded
