import Chip8.Proofs.KeyLayout
import Chip8.Terminal.HeldKeys

namespace Chip8.Terminal

namespace KeyEvent

/-- An event asks to quit: it is escape, whatever is held along with it, or a small c with
control. -/
def Quits (event : KeyEvent) : Prop :=
  event.code = .escape ∨ event.code = .char 'c' ∧ event.modifiers.control = true

instance (event : KeyEvent) : Decidable event.Quits := inferInstanceAs (Decidable (_ ∨ _))

/-- An event presses a key: it does not ask to quit, and its character stands for the key. -/
def Presses (event : KeyEvent) (key : Key) : Prop :=
  ¬ event.Quits ∧ ∃ character, event.code = .char character ∧ keyOfChar? character = some key

theorem isQuit_iff (event : KeyEvent) : event.isQuit = true ↔ event.Quits := by
  rw [isQuit, Quits]
  split
  case h_1 escape => simp [escape]
  case h_2 character typed => simp [typed]
  case h_3 other untyped =>
    refine iff_of_false nofun ?_
    rintro (escape | ⟨typed, -⟩)
    · exact other escape
    · exact untyped 'c' typed

theorem key?_eq_some_iff {event : KeyEvent} {key : Key} :
    event.key? = some key ↔
      ∃ character, event.code = .char character ∧ keyOfChar? character = some key := by
  rw [key?]
  split
  case h_1 character typed => simp [typed]
  case h_2 untyped =>
    exact iff_of_false nofun fun ⟨character, typed, _⟩ => untyped character typed

end KeyEvent

/-- One of the events presses a key at an instant. -/
def PressedAt (events : List (KeyEvent × Nat)) (key : Key) (instant : Nat) : Prop :=
  ∃ event, (event, instant) ∈ events ∧ event.Presses key

/-- The latest of the events that press a key does so at an instant. -/
structure LastPressedAt (events : List (KeyEvent × Nat)) (key : Key) (instant : Nat) : Prop where
  pressed : PressedAt events key instant
  latest : ∀ other, PressedAt events key other → other ≤ instant

section

variable {events : List (KeyEvent × Nat)} {event : KeyEvent} {key : Key} {instant now : Nat}

theorem pressedAt_concat_iff :
    PressedAt (events ++ [(event, now)]) key instant ↔
      PressedAt events key instant ∨ instant = now ∧ event.Presses key := by
  simp only [PressedAt, List.mem_append, List.mem_singleton, Prod.mk.injEq, or_and_right, exists_or,
    and_assoc, exists_eq_left]

theorem lastPressedAt_concat_of_presses (presses : event.Presses key)
    (earlier : ∀ other ∈ events.map Prod.snd, other ≤ now) :
    LastPressedAt (events ++ [(event, now)]) key instant ↔ instant = now := by
  constructor
  · rintro ⟨pressed, latest⟩
    have after : now ≤ instant :=
      latest now (pressedAt_concat_iff.mpr (Or.inr ⟨rfl, presses⟩))
    rcases pressedAt_concat_iff.mp pressed with ⟨other, member, -⟩ | ⟨same, -⟩
    · exact Nat.le_antisymm (earlier instant (List.mem_map_of_mem member)) after
    · exact same
  · rintro rfl
    refine ⟨pressedAt_concat_iff.mpr (Or.inr ⟨rfl, presses⟩), ?_⟩
    intro other pressed
    rcases pressedAt_concat_iff.mp pressed with ⟨event, member, -⟩ | ⟨rfl, -⟩
    · exact earlier other (List.mem_map_of_mem member)
    · exact Nat.le_refl _

theorem lastPressedAt_concat_of_not_presses (silent : ¬ event.Presses key) :
    LastPressedAt (events ++ [(event, now)]) key instant ↔ LastPressedAt events key instant := by
  have same (instant : Nat) :
      PressedAt (events ++ [(event, now)]) key instant ↔ PressedAt events key instant := by
    rw [pressedAt_concat_iff, or_iff_left fun pressed => silent pressed.2]
  constructor
  · rintro ⟨pressed, latest⟩
    exact ⟨(same instant).mp pressed,
      fun other pressed => latest other ((same other).mpr pressed)⟩
  · rintro ⟨pressed, latest⟩
    exact ⟨(same instant).mpr pressed,
      fun other pressed => latest other ((same other).mp pressed)⟩

end

theorem HeldKeys.get_press (keys : HeldKeys) (pressed key : Key) (now : Nat) :
    (keys.press pressed.val now).pressedAt.get key =
      if pressed = key then some now else keys.pressedAt.get key := by
  change (keys.pressedAt.setIfInBounds pressed.val (some now))[key.val] = _
  rw [Vector.getElem_setIfInBounds key.isLt]
  simp only [Fin.val_inj]
  rfl

theorem HeldKeys.contains_snapshot_iff (keys : HeldKeys) (now : Nat) (key : Key) :
    (keys.snapshot now).contains key = true ↔
      ∃ instant, keys.pressedAt.get key = some instant ∧ now - instant < keys.hold := by
  rw [snapshot, KeySet.contains_ofTest]
  cases keys.pressedAt.get key with
  | none => exact iff_of_false nofun nofun
  | some pressed => simp

namespace Listener

variable {listener : Listener} {event : KeyEvent} {key : Key} {now : Nat}

theorem hear_of_quits (quits : event.Quits) :
    listener.hear event now = { listener with quits := listener.quits + 1 } := by
  rw [hear, if_pos (event.isQuit_iff.mpr quits)]

theorem hear_of_stays (stays : ¬ event.Quits) :
    listener.hear event now =
      match event.key? with
      | some key => { listener with keys := listener.keys.press key.val now }
      | none => listener := by
  rw [hear]
  exact if_neg (mt event.isQuit_iff.mp stays)

theorem hold_hear : (listener.hear event now).keys.hold = listener.keys.hold := by
  rw [hear]
  split
  · rfl
  · split
    · rfl
    · rfl

theorem quits_hear :
    (listener.hear event now).quits = listener.quits + if event.Quits then 1 else 0 := by
  by_cases quits : event.Quits
  · rw [hear_of_quits quits, if_pos quits]
  · rw [hear_of_stays quits, if_neg quits]
    split
    · rfl
    · rfl

/-- Hearing an event notes the press of its key, and leaves all other keys alone. -/
theorem pressedAt_hear (listener : Listener) (event : KeyEvent) (now : Nat) (key : Key) :
    (event.Presses key → (listener.hear event now).keys.pressedAt.get key = some now) ∧
      (¬ event.Presses key →
        (listener.hear event now).keys.pressedAt.get key = listener.keys.pressedAt.get key) := by
  by_cases quits : event.Quits
  · rw [hear_of_quits quits]
    exact ⟨fun presses => absurd quits presses.1, fun _ => rfl⟩
  · have presses_iff : event.Presses key ↔ event.key? = some key := by
      rw [KeyEvent.Presses, and_iff_right quits, KeyEvent.key?_eq_some_iff]
    rw [hear_of_stays quits, presses_iff]
    cases event.key? with
    | none => exact ⟨nofun, fun _ => rfl⟩
    | some pressed =>
      rw [Option.some.injEq, HeldKeys.get_press]
      exact ⟨fun same => if_pos same, fun other => if_neg other⟩

/-- What a listener has heard: each key was last pressed by the latest event that presses it, and
as many events as it counts asked to quit. -/
structure Heard (listener : Listener) (events : List (KeyEvent × Nat)) : Prop where
  pressedAt : ∀ key instant, listener.keys.pressedAt.get key = some instant ↔
    LastPressedAt events key instant
  quits : listener.quits = events.countP (·.1.Quits)

theorem heard_new (hold : Nat) : (Listener.new hold).Heard [] where
  pressedAt key instant := by
    have unpressed : (Listener.new hold).keys.pressedAt.get key = none := by
      change (Vector.replicate 16 none)[key.val] = (none : Option Nat)
      exact Vector.getElem_replicate _
    rw [unpressed]
    refine iff_of_false (Option.some_ne_none instant).symm ?_
    rintro ⟨⟨event, member, -⟩, -⟩
    cases member
  quits := rfl

/-- What has been heard includes the next event, if that is no earlier than those before. -/
theorem Heard.hear {events : List (KeyEvent × Nat)} (heard : listener.Heard events)
    (event : KeyEvent) {now : Nat} (earlier : ∀ other ∈ events.map Prod.snd, other ≤ now) :
    (listener.hear event now).Heard (events ++ [(event, now)]) where
  pressedAt key instant := by
    obtain ⟨noted, kept⟩ := pressedAt_hear listener event now key
    by_cases presses : event.Presses key
    · rw [noted presses, lastPressedAt_concat_of_presses presses earlier, Option.some.injEq,
        eq_comm]
    · rw [kept presses, lastPressedAt_concat_of_not_presses presses, heard.pressedAt]
  quits := by
    rw [quits_hear, heard.quits, List.countP_append, List.countP_singleton]
    simp only [decide_eq_true_eq]

theorem heard_hearAll (hold : Nat) {events : List (KeyEvent × Nat)}
    (timely : (events.map Prod.snd).Pairwise (· ≤ ·)) :
    ((Listener.new hold).hearAll events).Heard events ∧
      ((Listener.new hold).hearAll events).keys.hold = hold := by
  induction events using List.reverseRecOn with
  | nil => exact ⟨heard_new hold, rfl⟩
  | append_singleton events last ih =>
    rw [List.map_append, List.pairwise_append] at timely
    obtain ⟨before, -, earlier⟩ := timely
    obtain ⟨heard, held⟩ := ih before
    rw [hearAll, List.foldl_append]
    refine ⟨heard.hear last.1 fun other member => earlier other member last.2 (by simp), ?_⟩
    exact hold_hear.trans held

/-- What a listener tells at an instant follows from the events that it has heard. -/
structure FollowsEvents (listener : Listener) (hold : Nat) (events : List (KeyEvent × Nat))
    (now : Nat) : Prop where
  /-- A key is held if the latest event that presses it happened less than the hold ago. -/
  held : ∀ key, (listener.keys.snapshot now).contains key = true ↔
    ∃ instant, LastPressedAt events key instant ∧ now < instant + hold
  /-- Every event that asks to quit counts, and no other. -/
  quits : listener.quits = events.countP (·.1.Quits)
  /-- An event that asks to quit leaves all keys alone. -/
  unpressed : ∀ event instant, event.Quits → (listener.hear event instant).keys = listener.keys

end Listener

/-- Whatever events a listener hears, at instants that never run backwards, its held keys and its
count of quits follow from them at every later instant; and every key has one small character,
and the capital of that if it is a letter. -/
theorem listener_follows_events (hold now : Nat) {events : List (KeyEvent × Nat)}
    (timely : (events.map Prod.snd ++ [now]).Pairwise (· ≤ ·)) :
    ((Listener.new hold).hearAll events).FollowsEvents hold events now ∧ KeyLayout := by
  rw [List.pairwise_append] at timely
  obtain ⟨ordered, -, before⟩ := timely
  obtain ⟨heard, kept⟩ := Listener.heard_hearAll hold ordered
  refine ⟨?_, keyLayout⟩
  constructor
  · intro key
    rw [HeldKeys.contains_snapshot_iff, kept]
    apply exists_congr
    intro instant
    rw [heard.pressedAt]
    apply and_congr_right
    rintro ⟨⟨event, member, -⟩, -⟩
    have past : instant ≤ now := before instant (List.mem_map_of_mem member) now (by simp)
    omega
  · exact heard.quits
  · intro event instant quits
    rw [Listener.hear_of_quits quits]

/-- A character typed with the control key held or not. -/
def stroke (character : Char) (control : Bool) : KeyEvent :=
  ⟨.char character, ⟨false, control, false⟩⟩

/-- A small q, a capital C with control, which does not quit, a small one, which does, and
escape. -/
def typing : List (KeyEvent × Nat) :=
  [(stroke 'q' false, 10), (stroke 'c' false, 10), (stroke 'C' true, 20), (stroke 'c' true, 30),
    (⟨.escape, ⟨true, false, true⟩⟩, 40), (⟨.function 4, .none⟩, 40)]

/-- Both letters are held for 200 from their latest press, and the small c with control is none. -/
theorem listener_follows_events_typing :
    (typing.map Prod.snd ++ [215]).Pairwise (· ≤ ·) ∧
      (∃ instant, LastPressedAt typing 0xB instant ∧ 215 < instant + 200) ∧
      (¬ ∃ instant, LastPressedAt typing 0x4 instant ∧ 215 < instant + 200) ∧
      ((Listener.new 200).hearAll typing).quits = 2 := by
  have timely : (typing.map Prod.snd ++ [215]).Pairwise (· ≤ ·) := by decide
  obtain ⟨follows, -⟩ := listener_follows_events 200 215 timely
  refine ⟨timely, (follows.held 0xB).mp (by decide), ?_, follows.quits.trans (by decide)⟩
  exact mt (follows.held 0x4).mpr (by decide)

end Chip8.Terminal
