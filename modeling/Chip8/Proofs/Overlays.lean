import Chip8.Proofs.Sprites
import Mathlib.Algebra.BigOperators.Group.List.Basic

namespace Chip8

structure Overlay where
  x : UInt8
  y : UInt8
  sprite : Sprite
  deriving DecidableEq

namespace Frame

/-- Some pixel is lit in the frame before and not in the one after. -/
def TurnsOff (before after : Frame) : Prop :=
  ∃ (column : Fin 64) (line : Fin 32),
    before.get (column, line) = true ∧ after.get (column, line) = false

/-- Some pixel is lit in the frame after and not in the one before. -/
def TurnsOn (before after : Frame) : Prop :=
  ∃ (column : Fin 64) (line : Fin 32),
    before.get (column, line) = false ∧ after.get (column, line) = true

theorem turnsOff_comm (before after : Frame) : after.TurnsOff before ↔ before.TurnsOn after := by
  simp only [TurnsOff, TurnsOn, and_comm]

theorem eq_of_get {frame other : Frame}
    (same : ∀ point, (frame.get point).toNat = (other.get point).toNat) : frame = other := by
  have pixels : frame.pixels = other.pixels := by
    apply Vector.ext
    intro position inside
    have here : (index (position % 64, position / 64)).val = position := by
      simp only [index]
      omega
    have agree := congrArg Bool.ofNat (same (position % 64, position / 64))
    simpa only [Bool.ofNat_toNat, get, Fin.getElem_fin, here] using agree
  calc frame = ⟨frame.pixels⟩ := rfl
    _ = ⟨other.pixels⟩ := by rw [pixels]

end Frame

/-- Two points of one sprite fall on the same pixel only if their rows are 32 apart or more. -/
theorem Sprite.card_landings_le_one {sprite : Sprite} (short : sprite.length ≤ 32) (x y : UInt8)
    (column : Fin 64) (line : Fin 32) : (sprite.landings x y column line).card ≤ 1 := by
  rw [Finset.card_le_one]
  rintro ⟨dy, dx⟩ first ⟨dy', dx'⟩ second
  obtain ⟨⟨row, narrow⟩, -, across, down⟩ := mem_landings.mp first
  obtain ⟨⟨row', narrow'⟩, -, across', down'⟩ := mem_landings.mp second
  have sameColumn : dx = dx' := by omega
  have sameRow : dy = dy' := by omega
  rw [sameColumn, sameRow]

namespace Overlay

/-- How often the sprites of some overlays hit a pixel in all. -/
def hits (overlays : List Overlay) (point : Point) : Nat :=
  (overlays.map fun overlay =>
    Sprite.hits (overlay.sprite.map UInt8.toNat) overlay.x.toNat overlay.y.toNat point).sum

theorem hits_perm {overlays reordered : List Overlay} (permuted : overlays.Perm reordered)
    (point : Point) : hits overlays point = hits reordered point :=
  (permuted.map _).sum_eq

end Overlay

namespace Screen

def drawAll (screen : Screen) : List Overlay → Screen
  | [] => screen
  | overlay :: rest => (screen.draw overlay.x overlay.y overlay.sprite).1.drawAll rest

/-- After a number of draws a pixel is lit exactly if its old value and all hits add up to an
odd number. -/
theorem get_drawAll (screen : Screen) (overlays : List Overlay) (point : Point) :
    ((screen.drawAll overlays).frame.get point).toNat =
      ((screen.frame.get point).toNat + Overlay.hits overlays point) % 2 := by
  induction overlays generalizing screen with
  | nil =>
    have bit := Bool.toNat_lt (screen.frame.get point)
    exact (Nat.mod_eq_of_lt bit).symm
  | cons overlay rest ih =>
    rw [drawAll, ih, get_draw]
    simp only [Overlay.hits, List.map_cons, List.sum_cons]
    omega

theorem frame_drawAll_perm (screen : Screen) {overlays reordered : List Overlay}
    (permuted : overlays.Perm reordered) :
    (screen.drawAll overlays).frame = (screen.drawAll reordered).frame := by
  apply Frame.eq_of_get
  intro point
  rw [get_drawAll, get_drawAll, Overlay.hits_perm permuted]

/-- Drawing all again, in any order, hits every pixel an even number of times in all. -/
theorem frame_drawAll_undo (screen : Screen) {overlays reordered : List Overlay}
    (permuted : overlays.Perm reordered) :
    ((screen.drawAll overlays).drawAll reordered).frame = screen.frame := by
  apply Frame.eq_of_get
  intro point
  have bit := Bool.toNat_lt (screen.frame.get point)
  rw [get_drawAll, get_drawAll, Overlay.hits_perm permuted]
  omega

/-- A sprite that hits each pixel once at most collides where it turns one off. -/
theorem draw_collides_iff_turnsOff (screen : Screen) (x y : UInt8) {sprite : Sprite}
    (short : sprite.length ≤ 32) :
    (screen.draw x y sprite).2 = true ↔
      screen.frame.TurnsOff (screen.draw x y sprite).1.frame := by
  have drawn := screen.stamped_draw x y sprite
  rw [drawn.collides, Frame.TurnsOff]
  apply exists_congr
  intro column
  apply exists_congr
  intro line
  -- Hit once at most, a pixel reaches two only if it was lit, and then it goes dark.
  have once := Sprite.card_landings_le_one short x y column line
  have pixel := drawn.pixels column line
  have bit := Bool.toNat_lt (screen.frame.get (column, line))
  rw [← Bool.toNat_eq_one, ← Bool.toNat_eq_zero, pixel]
  omega

/-- With a row more, a sprite may collide and turn nothing off: its last row falls on its first. -/
example : (Screen.new.draw 0 0 (List.replicate 33 0x80)).2 = true :=
  (Screen.new.stamped_draw 0 0 _).collides.mpr ⟨0, 0, by decide +kernel⟩

/-- Drawing is an exclusive or. Draws in another order end with the same pixels, and drawing
all of them again in any order brings back the pixels of the beginning. If one sprite that does
not wrap onto itself is drawn twice at one place, the first draw collides exactly if it turns a
pixel off, and the second exactly if the first turned a pixel on. -/
theorem overlays_cancel (screen : Screen) :
    (∀ overlays reordered : List Overlay, overlays.Perm reordered →
      (screen.drawAll overlays).frame = (screen.drawAll reordered).frame ∧
        ((screen.drawAll overlays).drawAll reordered).frame = screen.frame) ∧
    ∀ (x y : UInt8) (sprite : Sprite), sprite.length ≤ 32 →
      (((screen.draw x y sprite).1.draw x y sprite).2 = true ↔
          screen.frame.TurnsOn (screen.draw x y sprite).1.frame) ∧
        ((screen.draw x y sprite).2 = true ↔
          screen.frame.TurnsOff (screen.draw x y sprite).1.frame) := by
  refine ⟨?_, ?_⟩
  · intro overlays reordered permuted
    exact ⟨screen.frame_drawAll_perm permuted, screen.frame_drawAll_undo permuted⟩
  · intro x y sprite short
    refine ⟨?_, screen.draw_collides_iff_turnsOff x y short⟩
    have restored : ((screen.draw x y sprite).1.draw x y sprite).1.frame = screen.frame :=
      screen.frame_drawAll_undo (List.Perm.refl [Overlay.mk x y sprite])
    rw [draw_collides_iff_turnsOff _ x y short, restored, Frame.turnsOff_comm]

/-- A bar of eight pixels, and a stroke that crosses its left end. -/
def bar : Overlay := ⟨0, 0, [0xFF]⟩

def stroke : Overlay := ⟨0, 255, [0x80, 0x80, 0x80]⟩

/-- On a screen that shows the bar, the bar and the stroke undo each other's draws, and half a
bar collides as it turns pixels off. -/
theorem overlays_cancel_crossing :
    [bar, stroke].Perm [stroke, bar] ∧ [(0xF0 : UInt8)].length ≤ 32 ∧
      (((Screen.new.drawAll [bar]).drawAll [bar, stroke]).drawAll [stroke, bar]).frame =
        (Screen.new.drawAll [bar]).frame ∧
      ((Screen.new.drawAll [bar]).draw 0 0 [0xF0]).2 = true := by
  have permuted : [bar, stroke].Perm [stroke, bar] := .swap stroke bar []
  have short : [(0xF0 : UInt8)].length ≤ 32 := by decide
  obtain ⟨cancels, collides⟩ := overlays_cancel (Screen.new.drawAll [bar])
  refine ⟨permuted, short, (cancels _ _ permuted).2, ?_⟩
  apply (collides 0 0 [0xF0] short).2.mpr
  exact ⟨0, 0, by decide +kernel, by decide +kernel⟩

end Screen
end Chip8
