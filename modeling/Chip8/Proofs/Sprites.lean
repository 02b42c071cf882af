import Chip8.Machine.Execute
import Chip8.Proofs.Drawing
import Chip8.Proofs.Storage
import Mathlib.Algebra.BigOperators.Group.Finset.Piecewise
import Mathlib.Algebra.BigOperators.Group.Finset.Sigma

namespace Chip8

/-- The lit points of a sprite drawn from `(x, y)` that fall on a pixel, each as the number of
its row and of its column. -/
def Sprite.landings (sprite : Sprite) (x y : UInt8) (column : Fin 64) (line : Fin 32) :
    Finset (Nat × Nat) :=
  (Finset.range sprite.length ×ˢ Finset.range 8).filter fun point =>
    (sprite.getD point.1 0).toNat.testBit (7 - point.2) ∧
      (x.toNat + point.2) % 64 = column ∧ (y.toNat + point.1) % 32 = line

theorem Sprite.mem_landings {sprite : Sprite} {x y : UInt8} {column : Fin 64} {line : Fin 32}
    {dy dx : Nat} :
    (dy, dx) ∈ sprite.landings x y column line ↔
      (dy < sprite.length ∧ dx < 8) ∧ (sprite.getD dy 0).toNat.testBit (7 - dx) ∧
        (x.toNat + dx) % 64 = column ∧ (y.toNat + dy) % 32 = line := by
  simp only [landings, Finset.mem_filter, Finset.mem_product, Finset.mem_range]

/-- Row by row, the points that fall on a pixel are those that hit it. -/
theorem Sprite.card_landings (sprite : Sprite) (x y : UInt8) (column : Fin 64) (line : Fin 32) :
    (sprite.landings x y column line).card =
      Sprite.hits (sprite.map UInt8.toNat) x.toNat y.toNat (column, line) := by
  have rows (dy : Nat) : (sprite.map UInt8.toNat).getD dy 0 = (sprite.getD dy 0).toNat := by
    simp only [List.getD_eq_getElem?_getD, List.getElem?_map]
    cases sprite[dy]? with
    | none => rfl
    | some row => rfl
  have columns (dy : Nat) :
      (∑ dx ∈ Finset.range 8, if (sprite.getD dy 0).toNat.testBit (7 - dx) ∧
          (x.toNat + dx) % 64 = column ∧ (y.toNat + dy) % 32 = line then 1 else 0) =
        (List.range 8).countP fun dx => (sprite.getD dy 0).toNat.testBit (7 - dx) ∧
          (x.toNat + dx) % 64 = column ∧ (y.toNat + dy) % 32 = line := by
    rw [← Finset.card_filter, List.countP_eq_length_filter]
    rfl
  rw [landings, Finset.card_filter, Finset.sum_product]
  simp only [columns, Sprite.hits, List.length_map, rows, Nat.mod_eq_of_lt column.isLt,
    Nat.mod_eq_of_lt line.isLt]
  rfl

/-- What drawing a sprite from `(x, y)` does: each pixel ends lit exactly if its old value and
the points that fall on it add up to an odd number, a collision is told exactly if for some pixel
they reach two, and the screen has to be shown. -/
structure Screen.Stamped (screen : Screen) (x y : UInt8) (sprite : Sprite) (drawn : Screen)
    (collision : Bool) : Prop where
  pixels : ∀ (column : Fin 64) (line : Fin 32),
    (drawn.frame.get (column, line)).toNat =
      ((screen.frame.get (column, line)).toNat + (sprite.landings x y column line).card) % 2
  collides : collision = true ↔ ∃ (column : Fin 64) (line : Fin 32),
    2 ≤ (screen.frame.get (column, line)).toNat + (sprite.landings x y column line).card
  redraw : drawn.needsRedraw = true

theorem Screen.stamped_draw (screen : Screen) (x y : UInt8) (sprite : Sprite) :
    screen.Stamped x y sprite (screen.draw x y sprite).1 (screen.draw x y sprite).2 where
  pixels column line := by
    rw [Sprite.card_landings]
    exact screen.get_draw x y sprite (column, line)
  collides := by
    simp only [Sprite.card_landings]
    exact screen.draw_collision_iff x y sprite
  redraw := rfl

namespace Machine

/-- The rows of a sprite of some height: the bytes from the index register on around the memory,
fifteen at most. -/
def rowsAtIndex (machine : Machine) (height : UInt8) : Sprite :=
  (List.range (min height.toNat 15)).map fun row =>
    machine.memory.cells[Fin.ofNat 4096 (machine.registers.index.toNat + row)]

theorem readMany_eq_rowsAtIndex (machine : Machine) (height : UInt8) :
    machine.memory.readMany machine.registers.index (min height.toNat spriteRows) =
      machine.rowsAtIndex height := by
  apply List.map_congr_left
  intro row _
  exact machine.memory.read_add machine.registers.index row

theorem v_setFlag (machine : Machine) (flag : Bool) (register : Register) :
    (machine.setFlag flag).v register =
      if register = 15 then (if flag then 1 else 0) else machine.v register := by
  simp only [setFlag, flagRegister, setV, v, Fin.getElem_fin, Vector.getElem_set, Fin.ext_iff,
    eq_comm]

theorem v_goto (machine : Machine) (address : Address) (register : Register) :
    (machine.goto address).v register = machine.v register := rfl

/-- What the instruction that draws does: it stamps its rows on the screen from the old contents
of its registers, writes the flag register alone and continues with the next instruction. -/
structure Draws (machine : Machine) (x y : Register) (height : UInt8) (after : Machine)
    (collision : Bool) : Prop where
  stamped : machine.screen.Stamped (machine.v x) (machine.v y) (machine.rowsAtIndex height)
    after.screen collision
  flag : after.v 15 = if collision then 1 else 0
  others : ∀ register, register ≠ 15 → after.v register = machine.v register
  kept : after = { machine with
    screen := after.screen
    registers := { machine.registers with
      v := after.registers.v
      pc := machine.registers.pc.advance 2 } }

theorem draws_drawSprite (machine : Machine) (x y : Register) (height : UInt8) :
    machine.Draws x y height
      (machine.drawSprite (machine.v x) (machine.v y) height).proceed
      (machine.screen.draw (machine.v x) (machine.v y) (machine.rowsAtIndex height)).2 where
  stamped := by
    have drawn := machine.screen.stamped_draw (machine.v x) (machine.v y)
      (machine.rowsAtIndex height)
    rw [drawSprite, readMany_eq_rowsAtIndex]
    exact drawn
  flag := by
    rw [drawSprite, readMany_eq_rowsAtIndex, proceed, v_goto, v_setFlag]
    exact if_pos rfl
  others register other := by
    rw [drawSprite, proceed, v_goto, v_setFlag]
    exact if_neg other
  kept := by
    rw [drawSprite]
    rfl

/-- Drawing is counting. For every screen, position and list of rows, however many, the points
that fall on a pixel decide with its old value whether it ends lit, and whether a collision is
told. The instruction that draws does this with its rows as they stood in memory, and tells of
the collision in the flag register, whichever registers it takes the position from. -/
theorem drawing_counts_landings :
    (∀ (screen : Screen) (x y : UInt8) (sprite : Sprite),
      screen.Stamped x y sprite (screen.draw x y sprite).1 (screen.draw x y sprite).2) ∧
    ∀ (machine : Machine) (x y : Register) (height : UInt8), ∃ after collision,
      machine.execute (.draw x y height) = .ok after ∧
        machine.Draws x y height after collision := by
  constructor
  · exact Screen.stamped_draw
  · intro machine x y height
    exact ⟨_, _, rfl, machine.draws_drawSprite x y height⟩

end Machine
end Chip8
