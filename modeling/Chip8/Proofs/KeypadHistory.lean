import Chip8.Keypad
import Mathlib.Data.List.Basic
import Mathlib.Data.List.Induction

/-! What a keypad makes of its history. Held keys are those of the last sample; a press is fresh
if the sample before has the key up and nothing has answered it since. -/
namespace Chip8.Keypad

/-- What is done to a keypad: it takes a sample, or a press is answered. -/
inductive Call where
  | update (sample : KeySet)
  | takePress (number : UInt8)
  deriving DecidableEq

/-- The sample that a call takes. -/
def Call.sample? : Call → Option KeySet
  | update sample => some sample
  | takePress _ => none

def call (keypad : Keypad) : Call → Keypad
  | .update sample => keypad.update sample
  | .takePress number => keypad.takePress number

def callAll (keypad : Keypad) (calls : List Call) : Keypad := calls.foldl call keypad

/-- A sample that calls take, counted back from the last one. Before the first all keys are up. -/
def sampled (calls : List Call) (back : Nat) : KeySet :=
  (calls.filterMap Call.sample?).reverse[back]?.getD .none

/-- The press of a key is answered after the last sample. -/
def Answered (calls : List Call) (key : Key) : Prop :=
  ∃ earlier number later, calls = earlier ++ .takePress number :: later ∧
    number.toNat = key.val ∧ ∀ sample, .update sample ∉ later

/-- The last sample has a key down which the sample before has up, and the press is not answered
after it. -/
structure Outstanding (calls : List Call) (key : Key) : Prop where
  down : (sampled calls 0).contains key = true
  up : (sampled calls 1).contains key = false
  unanswered : ¬ Answered calls key

theorem sampled_update_zero (calls : List Call) (sample : KeySet) :
    sampled (calls ++ [.update sample]) 0 = sample := by
  rw [sampled, List.filterMap_append, List.reverse_append]
  rfl

theorem sampled_update_succ (calls : List Call) (sample : KeySet) (back : Nat) :
    sampled (calls ++ [.update sample]) (back + 1) = sampled calls back := by
  rw [sampled, List.filterMap_append, List.reverse_append]
  rfl

theorem sampled_takePress (calls : List Call) (number : UInt8) (back : Nat) :
    sampled (calls ++ [.takePress number]) back = sampled calls back := by
  rw [sampled, List.filterMap_append, List.reverse_append]
  rfl

/-- The last call answers a press, or it takes no sample and an earlier call answers it. -/
theorem answered_concat_iff (calls : List Call) (last : Call) (key : Key) :
    Answered (calls ++ [last]) key ↔
      (∃ number, last = .takePress number ∧ number.toNat = key.val) ∨
        (∀ sample, last ≠ .update sample) ∧ Answered calls key := by
  constructor
  · rintro ⟨earlier, number, later, split, same, unsampled⟩
    rcases later.eq_nil_or_concat' with rfl | ⟨between, final, rfl⟩
    · obtain ⟨-, answers⟩ := List.append_inj' split rfl
      exact Or.inl ⟨number, List.singleton_inj.mp answers, same⟩
    · rw [← List.cons_append, ← List.append_assoc] at split
      obtain ⟨before, final⟩ := List.append_inj' split rfl
      cases final
      refine Or.inr ⟨?_, earlier, number, between, before, same, ?_⟩
      · rintro sample rfl
        exact unsampled sample (by simp)
      · intro sample member
        exact unsampled sample (List.mem_append_left _ member)
  · rintro (⟨number, rfl, same⟩ | ⟨other, earlier, number, later, rfl, same, unsampled⟩)
    · exact ⟨calls, number, [], rfl, same, nofun⟩
    · refine ⟨earlier, number, later ++ [last], by simp, same, ?_⟩
      intro sample member
      rcases List.mem_append.mp member with inside | final
      · exact unsampled sample inside
      · exact other sample (List.mem_singleton.mp final).symm

/-- A keypad agrees with the calls carried out on it. -/
structure Recalls (keypad : Keypad) (calls : List Call) : Prop where
  held : keypad.held = sampled calls 0
  fresh : ∀ key, keypad.fresh.contains key = true ↔ Outstanding calls key

theorem recalls_new : new.Recalls [] where
  held := rfl
  fresh key := by
    have up : ∀ keys : KeySet, keys = .none → keys.contains key ≠ true := by
      rintro _ rfl
      simp [KeySet.none, KeySet.contains]
    exact iff_of_false (up _ rfl) fun outstanding => up _ rfl outstanding.down

theorem Recalls.call {keypad : Keypad} {calls : List Call} (recalls : keypad.Recalls calls)
    (last : Call) : (keypad.call last).Recalls (calls ++ [last]) := by
  cases last with
  | update sample =>
    refine ⟨(sampled_update_zero calls sample).symm, ?_⟩
    intro key
    have unanswered : ¬ Answered (calls ++ [.update sample]) key := by
      simp [answered_concat_iff]
    rw [Keypad.call, fresh_update, recalls.held, Bool.and_eq_true, Bool.not_eq_true']
    constructor
    · rintro ⟨down, up⟩
      exact ⟨(sampled_update_zero calls sample).symm ▸ down,
        (sampled_update_succ calls sample 0).symm ▸ up, unanswered⟩
    · rintro ⟨down, up, -⟩
      rw [sampled_update_zero] at down
      rw [sampled_update_succ] at up
      exact ⟨down, up⟩
  | takePress number =>
    have sampled_eq := sampled_takePress calls number
    have held : (keypad.takePress number).held = sampled (calls ++ [.takePress number]) 0 := by
      rw [held_takePress, recalls.held, sampled_eq]
    refine ⟨held, ?_⟩
    intro key
    have unanswered_iff : ¬ Answered (calls ++ [.takePress number]) key ↔
        key.val ≠ number.toNat ∧ ¬ Answered calls key := by
      simp [answered_concat_iff, eq_comm]
    rw [Keypad.call, fresh_takePress, Bool.and_eq_true, recalls.fresh, bne_iff_ne]
    constructor
    · rintro ⟨⟨down, up, unanswered⟩, other⟩
      exact ⟨(sampled_eq 0).symm ▸ down, (sampled_eq 1).symm ▸ up,
        unanswered_iff.mpr ⟨other, unanswered⟩⟩
    · rintro ⟨down, up, unanswered⟩
      rw [sampled_eq] at down up
      obtain ⟨other, unanswered⟩ := unanswered_iff.mp unanswered
      exact ⟨⟨down, up, unanswered⟩, other⟩

theorem recalls_callAll (calls : List Call) : (new.callAll calls).Recalls calls := by
  induction calls using List.reverseRecOn with
  | nil => exact recalls_new
  | append_singleton calls last ih =>
    rw [callAll, List.foldl_append]
    exact ih.call last

/-- What a keypad tells follows from the calls carried out on it. -/
structure FollowsHistory (keypad : Keypad) (calls : List Call) : Prop where
  /-- A number is pressed if it names a key that the last sample has down. -/
  pressed : ∀ number, keypad.isPressed number = true ↔
    ∃ valid : number.toNat < 16, (sampled calls 0).contains ⟨number.toNat, valid⟩ = true
  /-- The first fresh press is the lowest outstanding one. -/
  first : ∀ key, keypad.firstFresh? = some key ↔
    Outstanding calls key ∧ ∀ lower, lower < key → ¬ Outstanding calls lower
  /-- There is none if no press is outstanding. -/
  silent : keypad.firstFresh? = none ↔ ∀ key, ¬ Outstanding calls key

/-- A keypad follows its history: whatever samples it takes and whatever presses are answered, in
any order. -/
theorem keypad_follows_history (calls : List Call) : (new.callAll calls).FollowsHistory calls := by
  obtain ⟨held, fresh⟩ := recalls_callAll calls
  have stale (key : Key) :
      (new.callAll calls).fresh.contains key = false ↔ ¬ Outstanding calls key := by
    rw [← fresh, Bool.not_eq_true]
  constructor
  · intro number
    rw [isPressed, held]
    split
    · rename_i valid
      exact ⟨fun down => ⟨valid, down⟩, fun ⟨_, down⟩ => down⟩
    · rename_i invalid
      exact iff_of_false nofun fun ⟨valid, _⟩ => invalid valid
  · intro key
    simp only [firstFresh?_eq_some_iff, fresh, stale]
  · simp only [firstFresh?_eq_none_iff, stale]

end Chip8.Keypad
