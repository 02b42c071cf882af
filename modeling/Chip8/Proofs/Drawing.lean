import Chip8.Screen
import Mathlib.Algebra.Ring.Nat

/-! Drawing in closed form. How often a point is struck decides its pixel, and a
collision is a pixel whose old value and strikes add up to two or more. -/
namespace Chip8

/-- How many lit points of a sprite drawn from `(x, y)` fall on the pixel at `point`. -/
def Sprite.hits (rows : List Nat) (x y : Nat) (point : Point) : Nat :=
  ((List.range rows.length).map fun dy =>
    (List.range 8).countP fun dx =>
      (rows.getD dy 0).testBit (7 - dx) ∧
        (x + dx) % 64 = point.1 % 64 ∧ (y + dy) % 32 = point.2 % 32).sum

namespace Frame

theorem index_eq_iff (point other : Point) :
    index point = index other ↔ point.1 % 64 = other.1 % 64 ∧ point.2 % 32 = other.2 % 32 := by
  simp only [index, Fin.ext_iff]
  omega

theorem get_congr {frame : Frame} {point other : Point} (same : index point = index other) :
    frame.get point = frame.get other := by
  simp only [get, same]

theorem get_blank (point : Point) : blank.get point = false := by
  simp [get, blank]

end Frame

namespace Screen

open Chip8.Frame

def strikes (points : List Point) (point : Point) : Nat :=
  points.countP fun other => index other = index point

private theorem strikes_cons (struck : Point) (points : List Point) (point : Point) :
    strikes (struck :: points) point =
      strikes points point + if index struck = index point then 1 else 0 := by
  simp [strikes, List.countP_cons]

private theorem toNat_flip (frame : Frame) (struck point : Point) :
    ((frame.flip struck).get point).toNat =
      if index struck = index point then 1 - (frame.get point).toNat
      else (frame.get point).toNat := by
  rw [get_flip]
  split
  · cases frame.get point <;> rfl
  · rfl

private theorem get_fold (points : List Point) (state : Frame × Bool) (point : Point) :
    ((points.foldl strike state).1.get point).toNat =
      ((state.1.get point).toNat + strikes points point) % 2 := by
  induction points generalizing state with
  | nil =>
    have bit := Bool.toNat_lt (state.1.get point)
    simp only [List.foldl_nil, strikes, List.countP_nil]
    omega
  | cons struck points ih =>
    have bit := Bool.toNat_lt (state.1.get point)
    rw [List.foldl_cons, ih, strikes_cons]
    simp only [strike, toNat_flip]
    split <;> omega

private theorem collision_fold (points : List Point) (state : Frame × Bool) :
    (points.foldl strike state).2 = true ↔
      state.2 = true ∨ ∃ point, 2 ≤ (state.1.get point).toNat + strikes points point := by
  induction points generalizing state with
  | nil =>
    constructor
    · exact .inl
    · rintro (already | ⟨point, twice⟩)
      · exact already
      · have bit := Bool.toNat_lt (state.1.get point)
        simp only [strikes, List.countP_nil] at twice
        omega
  | cons struck points ih =>
    rw [List.foldl_cons, ih]
    simp only [strike, Bool.or_eq_true, toNat_flip, strikes_cons, or_assoc]
    apply or_congr_right
    constructor
    · rintro (lit | ⟨point, twice⟩)
      · exact ⟨struck, by simp [lit]; omega⟩
      · refine ⟨point, ?_⟩
        by_cases same : index struck = index point
        · rw [if_pos same] at twice ⊢
          omega
        · rw [if_neg same] at twice ⊢
          exact twice
    · rintro ⟨point, twice⟩
      by_cases same : index struck = index point
      · by_cases lit : state.1.get struck = true
        · exact .inl lit
        · right
          have dark : state.1.get point = false := by
            simpa only [get_congr same, Bool.not_eq_true] using lit
          refine ⟨point, ?_⟩
          simp only [same, dark, if_true, Bool.toNat_false] at twice ⊢
          omega
      · exact .inr ⟨point, by simpa only [same, if_false, Nat.add_zero] using twice⟩

/-- A pixel ends lit exactly if its old value and its strikes add up to an odd number. -/
theorem get_flipAll (frame : Frame) (points : List Point) (point : Point) :
    ((flipAll frame points).1.get point).toNat =
      ((frame.get point).toNat + strikes points point) % 2 :=
  get_fold points (frame, false) point

/-- A lit pixel is struck on the way exactly if some value and strikes reach two. -/
theorem flipAll_collision_iff (frame : Frame) (points : List Point) :
    (flipAll frame points).2 = true ↔
      ∃ (column : Fin 64) (line : Fin 32),
        2 ≤ (frame.get (column, line)).toNat + strikes points (column, line) := by
  have folded := collision_fold points (frame, false)
  simp only [Bool.false_eq_true, false_or] at folded
  rw [flipAll, folded]
  constructor
  · rintro ⟨point, twice⟩
    have same : index (point.1 % 64, point.2 % 32) = index point := by
      simp [index_eq_iff]
    refine ⟨⟨point.1 % 64, by omega⟩, ⟨point.2 % 32, by omega⟩, ?_⟩
    simpa only [strikes, same, get_congr same] using twice
  · rintro ⟨column, line, twice⟩
    exact ⟨(column, line), twice⟩

private theorem strikes_rowPoints (x y : Nat) (row : UInt8) (point : Point) :
    strikes (Sprite.rowPoints x y row) point =
      (List.range 8).countP fun dx =>
        row.toNat.testBit (7 - dx) ∧ (x + dx) % 64 = point.1 % 64 ∧ y % 32 = point.2 % 32 := by
  simp only [strikes, Sprite.rowPoints, List.countP_filterMap]
  apply List.countP_congr
  intro dx _
  by_cases lit : row.toNat.testBit (7 - dx) = true <;> simp [lit, index_eq_iff]

theorem strikes_points (sprite : Sprite) (x y : Nat) (point : Point) :
    strikes (Sprite.points x y sprite) point =
      Sprite.hits (sprite.map UInt8.toNat) x y point := by
  induction sprite generalizing y with
  | nil => rfl
  | cons row rows ih =>
    have below : ∀ dy, y + 1 + dy = y + (dy + 1) := by omega
    have split : strikes (Sprite.points x y (row :: rows)) point =
        strikes (Sprite.rowPoints x y row) point +
          strikes (Sprite.points x (y + 1) rows) point := by
      simp [strikes, Sprite.points, List.countP_append]
    rw [split, ih, strikes_rowPoints]
    simp [Sprite.hits, List.range_succ_eq_map, Function.comp_def, below]

/-- After a draw a pixel is lit exactly if its old value and its hits add up to an odd number. -/
theorem get_draw (screen : Screen) (x y : UInt8) (sprite : Sprite) (point : Point) :
    ((screen.draw x y sprite).1.frame.get point).toNat =
      ((screen.frame.get point).toNat +
        Sprite.hits (sprite.map UInt8.toNat) x.toNat y.toNat point) % 2 := by
  rw [← strikes_points]
  exact get_flipAll screen.frame _ point

/-- A draw reports a collision exactly if some old value and its hits reach two. -/
theorem draw_collision_iff (screen : Screen) (x y : UInt8) (sprite : Sprite) :
    (screen.draw x y sprite).2 = true ↔
      ∃ (column : Fin 64) (line : Fin 32),
        2 ≤ (screen.frame.get (column, line)).toNat +
          Sprite.hits (sprite.map UInt8.toNat) x.toNat y.toNat (column, line) := by
  simp only [← strikes_points]
  exact flipAll_collision_iff screen.frame _

end Screen
end Chip8
