import Chip8.Screen

namespace Chip8

/-- A text shows a frame in lines, one character a pixel: a mark if it is lit, else a blank. -/
structure Frame.Printed (frame : Frame) (text : String) (lines : List (List Char)) : Prop where
  text_eq : text = String.ofList (lines.flatMap fun line => line ++ ['\n'])
  height : lines.length = 32
  width : ∀ line ∈ lines, line.length = 64
  pixels : ∀ x y, x < 64 → y < 32 → ∃ row, lines[y]? = some row ∧
    row[x]? = some (if frame.get (x, y) then '#' else ' ')

theorem Frame.printed_text (frame : Frame) :
    frame.Printed frame.text
      (frame.lines.map fun line => line.map fun pixel => if pixel then '#' else ' ') where
  text_eq := by rw [text, List.flatMap_map]
  height := by simp [lines, Frame.height]
  width line member := by
    obtain ⟨pixels, inside, rfl⟩ := List.mem_map.mp member
    obtain ⟨y, -, rfl⟩ := List.mem_map.mp inside
    simp [Frame.line, Frame.width]
  pixels x y left upper := by
    refine ⟨(frame.line y).map fun pixel => if pixel then '#' else ' ', ?_, ?_⟩
    · simp [lines, Frame.height, upper]
    · simp [Frame.line, Frame.width, left]

/-- There is one way only to print a frame. -/
theorem Frame.Printed.eq_text {frame : Frame} {text : String} {lines : List (List Char)}
    (printed : frame.Printed text lines) : text = frame.text := by
  have own := frame.printed_text
  suffices same : lines = frame.lines.map fun line => line.map fun pixel =>
      if pixel then '#' else ' ' by
    rw [printed.text_eq, same, own.text_eq]
  apply List.ext_getElem (printed.height.trans own.height.symm)
  intro y inside insideToo
  have upper : y < 32 := printed.height ▸ inside
  apply List.ext_getElem
  · rw [printed.width _ (List.getElem_mem inside), own.width _ (List.getElem_mem insideToo)]
  intro x within withinToo
  have left : x < 64 := printed.width _ (List.getElem_mem inside) ▸ within
  obtain ⟨line, atLine, mark⟩ := printed.pixels x y left upper
  obtain ⟨ownLine, atOwnLine, ownMark⟩ := own.pixels x y left upper
  rw [List.getElem?_eq_getElem inside] at atLine
  rw [List.getElem?_eq_getElem insideToo] at atOwnLine
  cases atLine
  cases atOwnLine
  rw [List.getElem?_eq_getElem within] at mark
  rw [List.getElem?_eq_getElem withinToo] at ownMark
  exact Option.some.inj (mark.trans ownMark.symm)

end Chip8
