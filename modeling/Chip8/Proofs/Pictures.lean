import Chip8.Proofs.Drawing
import Chip8.Proofs.Printing
import Chip8.Proofs.Writings
import Chip8.Terminal.Session
import Mathlib.Data.List.Induction

namespace Chip8.Terminal

variable {column line width height : Nat}

def borderStrokes : List Stroke :=
  [⟨0, 0, horizontalSide '┏' '┓'⟩] ++
    (List.range Frame.height).flatMap (fun y =>
      [⟨0, y + 1, ['┃']⟩, ⟨rightEdge, y + 1, ['┃']⟩]) ++
    [⟨0, bottomEdge, horizontalSide '┗' '┛'⟩]

def frameStrokes (frame : Frame) : List Stroke :=
  (List.range Frame.height).flatMap fun y => [⟨1, y + 1, (frame.line y).flatMap pixelCells⟩]

theorem borderCommands_eq : borderCommands = borderStrokes.flatMap Stroke.commands := by
  simp only [borderStrokes, List.flatMap_append, List.flatMap_assoc]
  rfl

theorem frameCommands_eq (frame : Frame) :
    frameCommands frame = (frameStrokes frame).flatMap Stroke.commands := by
  rw [frameStrokes, List.flatMap_assoc]
  rfl

def mark (lit : Bool) : Char := if lit then '█' else ' '

theorem getElem?_flatMap_pixelCells (pixels : List Bool) (position : Nat) :
    (pixels.flatMap pixelCells)[position]? = pixels[position / 2]?.map mark := by
  induction pixels generalizing position with
  | nil => rfl
  | cons lit rest ih =>
    match position with
    | 0 | 1 => rfl
    | position + 2 =>
      rw [Nat.add_div_right position (by decide), List.getElem?_cons_succ, ← ih]
      rfl

theorem getElem?_line (frame : Frame) (x y : Nat) :
    (frame.line y)[x]? = if x < 64 then some (frame.get (x, y)) else none := by
  split
  · rename_i left
    simp [Frame.line, Frame.width, left]
  · rename_i far
    simp [Frame.line, Frame.width, far]

def Inside (column line : Nat) : Prop :=
  1 ≤ column ∧ column ≤ 128 ∧ 1 ≤ line ∧ line ≤ 32

instance (column line : Nat) : Decidable (Inside column line) :=
  inferInstanceAs (Decidable (_ ∧ _))

/-- A frame writes in every cell within the box, and in no other. -/
theorem lastIn_frame (frame : Frame) :
    lastIn column line ((frameStrokes frame).flatMap Stroke.cells) =
      if Inside column line then some (mark (frame.get ((column - 1) / 2, line - 1)))
      else none := by
  rw [frameStrokes, lastIn_lines (by simp)]
  simp only [List.flatMap_singleton, Stroke.cells, lastIn_row, getElem?_flatMap_pixelCells,
    getElem?_line, Frame.height]
  by_cases level : 1 ≤ line ∧ line ≤ 32
  · rw [if_pos level]
    by_cases left : 1 ≤ column ∧ column ≤ 128
    · rw [if_pos ⟨by omega, left.1⟩, if_pos (show (column - 1) / 2 < 64 by omega),
        if_pos ⟨left.1, left.2, level⟩]
      rfl
    · rw [if_neg (show ¬ Inside column line from fun within => left ⟨within.1, within.2.1⟩)]
      split
      · rw [if_neg (show ¬ (column - 1) / 2 < 64 by omega)]
        rfl
      · rfl
  · rw [if_neg level, if_neg (show ¬ Inside column line from fun within => level within.2.2)]

theorem lastIn_frames (frames : List Frame) :
    lastIn column line ((frames.flatMap frameStrokes).flatMap Stroke.cells) =
      if Inside column line then
        frames.getLast?.map fun frame => mark (frame.get ((column - 1) / 2, line - 1))
      else none := by
  induction frames using List.reverseRecOn with
  | nil => simp [lastIn]
  | append_singleton frames last ih =>
    rw [List.flatMap_append, List.flatMap_append, lastIn_append, List.flatMap_singleton,
      lastIn_frame, ih]
    split
    · simp
    · rfl

/-- The character of the box in a cell, if the cell is on the box. -/
def boxMark (column line : Nat) : Option Char :=
  if line = 0 then
    if column = 0 then some '┏' else if column ≤ 128 then some '━'
    else if column = 129 then some '┓' else none
  else if line = 33 then
    if column = 0 then some '┗' else if column ≤ 128 then some '━'
    else if column = 129 then some '┛' else none
  else if line ≤ 32 ∧ (column = 0 ∨ column = 129) then some '┃'
  else none

theorem getElem?_horizontalSide (left right : Char) (column : Nat) :
    (horizontalSide left right)[column]? =
      if column = 0 then some left else if column ≤ 128 then some '━'
      else if column = 129 then some right else none := by
  rw [horizontalSide, Frame.width, pixelWidth]
  cases column with
  | zero => rfl
  | succ column =>
    rw [List.getElem?_cons_succ, if_neg (Nat.succ_ne_zero column), List.getElem?_append,
      List.length_replicate]
    by_cases inner : column < 128
    · rw [if_pos inner, if_pos (Nat.succ_le_of_lt inner), List.getElem?_replicate, if_pos inner]
    · rw [if_neg inner, if_neg (show ¬ column + 1 ≤ 128 by omega)]
      by_cases last : column = 128
      · rw [last]; rfl
      · rw [if_neg (by omega), List.getElem?_eq_none]
        rw [List.length_singleton]
        omega

theorem lastIn_side (start level : Nat) :
    lastIn column line (row start level ['┃']) =
      if line = level ∧ column = start then some '┃' else none := by
  rw [lastIn_row]
  by_cases here : line = level ∧ column = start
  · rw [if_pos here, if_pos ⟨here.1, Nat.le_of_eq here.2.symm⟩, here.2, Nat.sub_self]
    rfl
  · rw [if_neg here]
    split
    · rw [List.getElem?_eq_none]
      rw [List.length_singleton]
      omega
    · rfl

theorem lastIn_border :
    lastIn column line (borderStrokes.flatMap Stroke.cells) = boxMark column line := by
  have sides : lastIn column line (((List.range Frame.height).flatMap fun y =>
      [⟨0, y + 1, ['┃']⟩, ⟨rightEdge, y + 1, ['┃']⟩]).flatMap Stroke.cells) =
      if 1 ≤ line ∧ line ≤ 32 ∧ (column = 0 ∨ column = 129) then some '┃'
      else none := by
    have edge : rightEdge = 129 := rfl
    rw [lastIn_lines (by simp)]
    simp only [List.flatMap_cons, List.flatMap_nil, List.append_nil, Stroke.cells, lastIn_append,
      lastIn_side, edge, Frame.height]
    grind
  simp only [borderStrokes, List.flatMap_append, lastIn_append, sides, List.flatMap_singleton,
    Stroke.cells, lastIn_row, getElem?_horizontalSide]
  have bottom : bottomEdge = 33 := rfl
  simp only [bottom, boxMark, Nat.zero_le, and_true, Nat.sub_zero]
  grind

namespace Canvas

/-- The canvas once the box and then frames are drawn on it. -/
def drawn (canvas : Canvas width height) (frames : List Frame) : Canvas width height :=
  frames.foldl (fun canvas frame => canvas.applyAll (frameCommands frame))
    (canvas.applyAll borderCommands)

theorem drawn_concat (canvas : Canvas width height) (frames : List Frame) (frame : Frame) :
    canvas.drawn (frames ++ [frame]) = (canvas.drawn frames).applyAll (frameCommands frame) := by
  simp only [drawn, List.foldl_append, List.foldl_cons, List.foldl_nil]

theorem drawn_eq (canvas : Canvas width height) (frames : List Frame) :
    canvas.drawn frames =
      canvas.applyAll ((borderStrokes ++ frames.flatMap frameStrokes).flatMap Stroke.commands) := by
  induction frames using List.reverseRecOn with
  | nil => rw [List.flatMap_nil, List.append_nil, ← borderCommands_eq, drawn, List.foldl_nil]
  | append_singleton frames last ih =>
    have onward : (frames ++ [last]).flatMap frameStrokes =
        frames.flatMap frameStrokes ++ frameStrokes last := by
      rw [List.flatMap_append, List.flatMap_singleton]
    rw [onward, ← List.append_assoc, List.flatMap_append, applyAll_append, drawn_concat, ih,
      ← frameCommands_eq]

theorem get_of_outside (canvas : Canvas width height)
    (outside : width ≤ column ∨ height ≤ line) : canvas.get column line = ' ' := by
  rw [get]
  split
  · rfl
  · rename_i cells found
    obtain ⟨within, -⟩ := Vector.getElem?_eq_some_iff.mp found
    rw [Vector.getElem?_eq_none (by omega)]
    rfl

theorem get_blank (column line : Nat) : (blank : Canvas width height).get column line = ' ' := by
  rcases Nat.lt_or_ge column width with inside | outside
  · rcases Nat.lt_or_ge line height with within | outside
    · simp [get, blank, inside, within]
    · exact get_of_outside blank (.inr outside)
  · exact get_of_outside blank (.inl outside)

/-- Each cell shows the last frame within the box, and the box around it. -/
theorem get_drawn {canvas : Canvas width height}
    (cleared : ∀ column line, canvas.get column line = ' ') (frames : List Frame)
    (inside : column < width) (within : line < height) :
    (canvas.drawn frames).get column line =
      ((if Inside column line then
        frames.getLast?.map fun frame => mark (frame.get ((column - 1) / 2, line - 1))
      else none).or (boxMark column line)).getD ' ' := by
  rw [drawn_eq, get_applyAll _ _ inside within, writings_strokes, List.flatMap_append,
    lastIn_append, lastIn_frames, lastIn_border, cleared]

theorem get_drawn_of_inside {canvas : Canvas width height} (wide : 130 ≤ width)
    (high : 34 ≤ height) (cleared : ∀ column line, canvas.get column line = ' ')
    (frames : List Frame) (within : Inside column line) :
    (canvas.drawn frames).get column line =
      if frames.getLast?.any (·.get ((column - 1) / 2, line - 1)) then '█' else ' ' := by
  obtain ⟨left, right, upper, lower⟩ := within
  have offBox : boxMark column line = none := by
    rw [boxMark, if_neg (by omega), if_neg (by omega), if_neg (by omega)]
  rw [get_drawn cleared frames (by omega) (by omega), if_pos ⟨left, right, upper, lower⟩,
    offBox, Option.or_none]
  cases frames.getLast? with
  | none => rfl
  | some frame => rfl

theorem get_drawn_of_outside {canvas : Canvas width height}
    (cleared : ∀ column line, canvas.get column line = ' ') (frames : List Frame)
    (inside : column < width) (within : line < height) (outside : ¬ Inside column line) :
    (canvas.drawn frames).get column line = (boxMark column line).getD ' ' := by
  rw [get_drawn cleared frames inside within, if_neg outside, Option.none_or]

/-- The canvas shows a box, within it a frame if there is one, and nothing else. A pixel takes
two cells. -/
structure Boxes (canvas : Canvas width height) (frame? : Option Frame) : Prop where
  corners : canvas.get 0 0 = '┏' ∧ canvas.get 129 0 = '┓' ∧
    canvas.get 0 33 = '┗' ∧ canvas.get 129 33 = '┛'
  horizontals : ∀ column, 1 ≤ column → column ≤ 128 →
    canvas.get column 0 = '━' ∧ canvas.get column 33 = '━'
  verticals : ∀ line, 1 ≤ line → line ≤ 32 →
    canvas.get 0 line = '┃' ∧ canvas.get 129 line = '┃'
  pixels : ∀ x y, x < 64 → y < 32 →
    let cell := if frame?.any (·.get (x, y)) then '█' else ' '
    canvas.get (1 + 2 * x) (1 + y) = cell ∧ canvas.get (2 + 2 * x) (1 + y) = cell
  surroundings : ∀ column line, 129 < column ∨ 33 < line → canvas.get column line = ' '

theorem boxes_drawn {canvas : Canvas width height} (wide : 130 ≤ width) (high : 34 ≤ height)
    (cleared : ∀ column line, canvas.get column line = ' ') (frames : List Frame) :
    (canvas.drawn frames).Boxes frames.getLast? := by
  have onBox {column line : Nat} (outside : ¬ Inside column line) (left : column < 130)
      (upper : line < 34) :
      (canvas.drawn frames).get column line = (boxMark column line).getD ' ' :=
    get_drawn_of_outside cleared frames (by omega) (by omega) outside
  refine ⟨?corners, ?horizontals, ?verticals, ?pixels, ?surroundings⟩
  case corners =>
    refine ⟨?_, ?_, ?_, ?_⟩
    all_goals
      rw [onBox (by decide) (by decide) (by decide)]
      rfl
  case horizontals =>
    intro column left right
    have offCorner : column ≠ 0 := Nat.ne_of_gt left
    constructor
    · rw [onBox (fun within => absurd within.2.2.1 (by decide)) (by omega) (by decide), boxMark,
        if_pos rfl, if_neg offCorner, if_pos right]
      rfl
    · rw [onBox (fun within => absurd within.2.2.2 (by decide)) (by omega) (by decide), boxMark,
        if_neg (by decide), if_pos rfl, if_neg offCorner, if_pos right]
      rfl
  case verticals =>
    intro line upper lower
    have side {column : Nat} (edge : column = 0 ∨ column = 129) :
        (canvas.drawn frames).get column line = '┃' := by
      have outside : ¬ Inside column line := by
        rintro ⟨left, right, -⟩
        omega
      rw [onBox outside (by omega) (by omega), boxMark, if_neg (by omega), if_neg (by omega),
        if_pos ⟨lower, edge⟩]
      rfl
    exact ⟨side (.inl rfl), side (.inr rfl)⟩
  case pixels =>
    intro x y left upper
    have pixel {column : Nat} (across : (column - 1) / 2 = x) (positive : 1 ≤ column) :
        (canvas.drawn frames).get column (1 + y) =
          if frames.getLast?.any (·.get (x, y)) then '█' else ' ' := by
      have within : Inside column (1 + y) := ⟨positive, by omega, by omega, by omega⟩
      rw [get_drawn_of_inside wide high cleared frames within, across, Nat.add_sub_cancel_left]
    exact ⟨pixel (by omega) (by omega), pixel (by omega) (by omega)⟩
  case surroundings =>
    intro column line far
    rcases Nat.lt_or_ge column width with inside | beyond
    · rcases Nat.lt_or_ge line height with within | beyond
      · have outside : ¬ Inside column line := by
          rintro ⟨-, right, -, lower⟩
          omega
        have offBox : boxMark column line = none := by grind [boxMark]
        rw [get_drawn_of_outside cleared frames inside within outside, offBox]
        rfl
      · exact get_of_outside _ (.inr beyond)
    · exact get_of_outside _ (.inl beyond)

/-- The canvas shows lines of marks and blanks inside of the box: two blocks for each mark, and
two blanks for each blank. -/
def Shows (canvas : Canvas width height) (lines : List (List Char)) : Prop :=
  ∀ x y, x < 64 → y < 32 → ∃ marks, lines[y]? = some marks ∧
    ((marks[x]? = some '#' ∧
        canvas.get (1 + 2 * x) (1 + y) = '█' ∧ canvas.get (2 + 2 * x) (1 + y) = '█') ∨
      (marks[x]? = some ' ' ∧
        canvas.get (1 + 2 * x) (1 + y) = ' ' ∧ canvas.get (2 + 2 * x) (1 + y) = ' '))

/-- A canvas with a frame in its box agrees with the text of the frame. -/
theorem Boxes.shows {canvas : Canvas width height} {frame : Frame}
    (boxes : canvas.Boxes (some frame)) {text : String} {lines : List (List Char)}
    (printed : frame.Printed text lines) : canvas.Shows lines := by
  intro x y left upper
  obtain ⟨marks, found, pixel⟩ := printed.pixels x y left upper
  have cells := boxes.pixels x y left upper
  rw [Option.any_some] at cells
  refine ⟨marks, found, ?_⟩
  by_cases lit : frame.get (x, y)
  · rw [if_pos lit] at pixel cells
    exact .inl ⟨pixel, cells⟩
  · rw [if_neg lit] at pixel cells
    exact .inr ⟨pixel, cells⟩

end Canvas

/-- Commands change cells of one kind only, wherever the cursor is and whatever the cells hold. -/
def ChangesOnly (place : Nat → Nat → Prop) (commands : List Command) : Prop :=
  ∀ {width height : Nat} (canvas : Canvas width height) (column line : Nat),
    ¬ place column line → (canvas.applyAll commands).get column line = canvas.get column line

theorem changesOnly_strokes {place : Nat → Nat → Prop} {strokes : List Stroke}
    (confined : ∀ column line, ¬ place column line →
      lastIn column line (strokes.flatMap Stroke.cells) = none) :
    ChangesOnly place (strokes.flatMap Stroke.commands) := by
  intro width height canvas column line elsewhere
  rcases Nat.lt_or_ge column width with inside | outside
  · rcases Nat.lt_or_ge line height with within | outside
    · rw [Canvas.get_applyAll _ _ inside within, writings_strokes, confined _ _ elsewhere]
      rfl
    · rw [Canvas.get_of_outside _ (.inr outside), Canvas.get_of_outside _ (.inr outside)]
  · rw [Canvas.get_of_outside _ (.inl outside), Canvas.get_of_outside _ (.inl outside)]

def OnBox (column line : Nat) : Prop :=
  column ≤ 129 ∧ line ≤ 33 ∧ (column = 0 ∨ column = 129 ∨ line = 0 ∨ line = 33)

theorem changesOnly_borderCommands : ChangesOnly OnBox borderCommands := by
  rw [borderCommands_eq]
  refine changesOnly_strokes fun column line elsewhere => ?_
  rw [lastIn_border]
  grind [boxMark, OnBox]

theorem changesOnly_frameCommands (frame : Frame) : ChangesOnly Inside (frameCommands frame) := by
  rw [frameCommands_eq]
  refine changesOnly_strokes fun column line elsewhere => ?_
  rw [lastIn_frame, if_neg elsewhere]

/-- On a terminal that is large enough and cleared, the box surrounds the last frame drawn. The
box is drawn on its own cells only and a frame within it only, so that nothing is left of earlier
frames and the box stays whole, and the picture agrees with the text of the last frame. -/
theorem picture_boxes_last_frame {canvas : Canvas width height} (wide : 130 ≤ width)
    (high : 34 ≤ height) (cleared : ∀ column line, canvas.get column line = ' ')
    (frames : List Frame) :
    (canvas.drawn frames).Boxes frames.getLast? ∧
      ChangesOnly OnBox borderCommands ∧
      (∀ frame, ChangesOnly Inside (frameCommands frame)) ∧
      ∀ last ∈ frames.getLast?, ∃ lines, last.Printed last.text lines ∧
        (canvas.drawn frames).Shows lines := by
  have boxes := Canvas.boxes_drawn wide high cleared frames
  refine ⟨boxes, changesOnly_borderCommands, changesOnly_frameCommands, ?_⟩
  intro last final
  rw [Option.mem_def.mp final] at boxes
  exact ⟨_, last.printed_text, boxes.shows last.printed_text⟩

/-- Two frames drawn on a larger terminal, with its cursor somewhere: nothing is left of the
first, and the second reaches the lower right corner of the box. -/
theorem picture_boxes_last_frame_overdrawn :
    let canvas : Canvas 140 40 := { Canvas.blank with column := 7, line := 3 }
    let first := Frame.blank.flip (0, 0)
    let last := Frame.blank.flip (63, 31)
    let picture := canvas.drawn [first, last]
    picture.get 1 1 = ' ' ∧ picture.get 2 1 = ' ' ∧
      picture.get 127 32 = '█' ∧ picture.get 128 32 = '█' ∧
      picture.get 129 32 = '┃' ∧ picture.get 128 33 = '━' ∧ picture.get 130 33 = ' ' := by
  intro canvas first last picture
  have cleared (column line : Nat) : canvas.get column line = ' ' := Canvas.get_blank column line
  obtain ⟨boxes, -⟩ := picture_boxes_last_frame (by decide) (by decide) cleared [first, last]
  have upper := boxes.pixels 0 0 (by decide) (by decide)
  have lower := boxes.pixels 63 31 (by decide) (by decide)
  have dark : last.get (0, 0) = false := by
    rw [Frame.get_flip, if_neg (by decide), Frame.get_blank]
  have lit : last.get (63, 31) = true := by
    rw [Frame.get_flip, if_pos rfl, Frame.get_blank]
    rfl
  simp only [List.getLast?_cons_cons, List.getLast?_singleton, Option.any_some, dark] at upper
  simp only [List.getLast?_cons_cons, List.getLast?_singleton, Option.any_some, lit] at lower
  exact ⟨upper.1, upper.2, lower.1, lower.2, (boxes.verticals 32 (by decide) (by decide)).2,
    (boxes.horizontals 128 (by decide) (by decide)).2,
    boxes.surroundings 130 33 (.inl (by decide))⟩

namespace Session

/-- The canvas of a session shows its frames, drawn one over the other. -/
def Pictured (session : Session width height) : Prop :=
  session.canvas = Canvas.blank.drawn session.frames

variable {session after : Session width height}

theorem pictured_start (machine : Machine) (typings : List Typing) :
    (start machine typings : Session width height).Pictured := by
  simp only [Pictured, start, Canvas.drawn, List.foldl_nil]

theorem pictured_hearTypings (pictured : session.Pictured) : session.hearTypings.Pictured :=
  pictured

theorem pictured_drawFrame (pictured : session.Pictured) (machine : Machine) :
    (session.drawFrame machine).Pictured := by
  rw [drawFrame]
  split
  · rw [Pictured, Canvas.drawn_concat, ← pictured]
  · exact pictured

/-- An iteration leaves a picture of all frames so far, whether the session ends or not. -/
theorem pictured_turn {cycles elapsed : Nat} (pictured : session.Pictured) :
    (∀ result, session.turn cycles elapsed = .ended result after → after.Pictured) ∧
      (session.turn cycles elapsed = .continued after → after.Pictured) := by
  have heard : { session with now := session.now + elapsed }.hearTypings.Pictured :=
    pictured_hearTypings pictured
  rw [turn]
  dsimp only
  split
  · exact ⟨fun result ended => (Turn.ended.inj ended).2 ▸ heard, nofun⟩
  · exact ⟨nofun, fun continued => Turn.continued.inj continued ▸ pictured_drawFrame heard _⟩

theorem run_cases {elapsed : Nat → Nat} {cycles fuel : Nat} {result : RunResult}
    (ran : session.run elapsed cycles fuel = some (result, after)) :
    session.turn cycles (elapsed cycles) = .ended result after ∨
    ∃ next less, fuel = less + 1 ∧ session.turn cycles (elapsed cycles) = .continued next ∧
      next.run elapsed (cycles + 1) less = some (result, after) := by
  unfold run at ran
  cases turned : session.turn cycles (elapsed cycles) with
  | ended final last =>
    rw [turned] at ran
    cases ran
    exact Or.inl rfl
  | continued next =>
    rw [turned] at ran
    cases fuel with
    | zero => cases ran
    | succ less => exact Or.inr ⟨next, less, rfl, rfl, ran⟩

theorem pictured_run {elapsed : Nat → Nat} {cycles fuel : Nat} {result : RunResult}
    (pictured : session.Pictured)
    (ran : session.run elapsed cycles fuel = some (result, after)) : after.Pictured := by
  induction fuel generalizing session cycles with
  | zero =>
    rcases run_cases ran with ended | ⟨next, less, spent, -⟩
    · exact (pictured_turn pictured).1 _ ended
    · cases spent
  | succ fuel ih =>
    rcases run_cases ran with ended | ⟨next, less, spent, continued, onward⟩
    · exact (pictured_turn pictured).1 _ ended
    · cases spent
      exact ih ((pictured_turn pictured).2 continued) onward

/-- A session on a terminal that is large enough ends with a box around its last frame. -/
theorem boxes_last_frame (wide : 130 ≤ width) (high : 34 ≤ height) {machine : Machine}
    {typings : List Typing} {elapsed : Nat → Nat} {fuel : Nat} {result : RunResult}
    (ran : (start machine typings).run elapsed 0 fuel = some (result, after)) :
    after.canvas.Boxes after.frames.getLast? := by
  have pictured : after.Pictured := pictured_run (pictured_start machine typings) ran
  rw [pictured]
  exact Canvas.boxes_drawn wide high Canvas.get_blank after.frames

end Session
end Chip8.Terminal
