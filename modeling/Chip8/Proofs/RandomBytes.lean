import Chip8.Proofs.History

/-! Random bytes depend on the seed and their position only. Every random instruction takes the
next byte of the stream, however it is executed, and nothing else moves the stream. -/
namespace Chip8

def Instruction.rolls : Instruction → Bool
  | .random _ _ => true
  | _ => false

/-- Whether a request starts another stream. -/
def Operation.seeds : Operation → Bool
  | .seed _ => true
  | _ => false

namespace Random.Generator

def advanced (generator : Generator) : Nat → Generator
  | 0 => generator
  | count + 1 => (generator.advanced count).draw.2

/-- The byte of the draw after `position` others. -/
def stream (generator : Generator) (position : Nat) : UInt8 := (generator.advanced position).draw.1

theorem advanced_advanced (generator : Generator) (first later : Nat) :
    (generator.advanced first).advanced later = generator.advanced (first + later) := by
  induction later with
  | zero => rfl
  | succ later ih => rw [advanced, ih, Nat.add_succ, advanced]

end Random.Generator

namespace Machine

open Chip8.Random

def Transition.rolls (transition : Transition) : Bool := transition.instruction.rolls

def rolled (log : List Transition) : Nat := log.countP (·.rolls)

/-- Everything that is executed in requests, in steps and by hand. -/
def log (machine : Machine) : List Operation → List Transition
  | [] => []
  | operation :: rest => machine.transitionsOf operation ++ (machine.perform operation).2.log rest

theorem rolled_append (first later : List Transition) :
    rolled (first ++ later) = rolled first + rolled later := List.countP_append

/-- Only random instructions touch the generator. -/
theorem generator_execute {machine after : Machine} {instruction : Instruction}
    (executed : machine.execute instruction = .ok after) (other : instruction.rolls = false) :
    after.generator = machine.generator := by
  cases instruction
  case random => cases other
  case ret | call =>
    simp only [execute] at executed
    split at executed
    · cases executed
    · cases executed
      rfl
  case skipIfConst | skipUnlessConst | skipIfSame | skipUnlessSame | skipIfPressed
      | skipUnlessPressed =>
    cases executed
    rw [skipIf_eq_goto]
    rfl
  case loadRegisters x =>
    cases executed
    simp only [loadTo, proceed, goto]
  all_goals
    cases executed
    rfl

namespace Transition

variable (transition : Transition)

/-- A random instruction takes the next byte, even if its mask leaves nothing of it. -/
theorem takes_byte {x : Register} {mask : UInt8}
    (random : transition.instruction = .random x mask) :
    transition.after.v x = transition.before.generator.draw.1 &&& mask ∧
      transition.after.generator = transition.before.generator.draw.2 := by
  obtain ⟨before, instruction, after, executed⟩ := transition
  cases random
  cases executed
  refine ⟨?_, rfl⟩
  simp [v, randomize, proceed, goto, setV]

/-- An instruction moves the stream by the bytes that it takes: one or none. -/
theorem moves_stream :
    transition.after.generator = transition.before.generator.advanced (rolled [transition]) := by
  by_cases rolls : transition.rolls = true
  · have one : rolled [transition] = 1 := by simp [rolled, rolls]
    obtain ⟨x, mask, random⟩ : ∃ x mask, transition.instruction = .random x mask := by
      rw [Transition.rolls] at rolls
      cases instruction : transition.instruction
      case random x mask => exact ⟨x, mask, rfl⟩
      all_goals
        rw [instruction] at rolls
        cases rolls
    rw [one, (transition.takes_byte random).2]
    rfl
  · have none : rolled [transition] = 0 := by simp [rolled, rolls]
    rw [none]
    exact generator_execute transition.executed (Bool.eq_false_iff.mpr rolls)

end Transition

variable {machine : Machine}

/-- A log follows a stream if each of its instructions finds the generator behind the bytes that
those before it have taken. -/
def Follows (generator : Generator) (log : List Transition) : Prop :=
  ∀ index transition, log[index]? = some transition →
    transition.before.generator = generator.advanced (rolled (log.take index))

theorem follows_nil (generator : Generator) : Follows generator [] := by
  intro index transition found
  cases found

theorem Follows.append {generator : Generator} {first later : List Transition}
    (follows : Follows generator first)
    (onward : Follows (generator.advanced (rolled first)) later) :
    Follows generator (first ++ later) := by
  intro index transition found
  rcases Nat.lt_or_ge index first.length with early | late
  · rw [List.getElem?_append_left early] at found
    rw [List.take_append_of_le_length (Nat.le_of_lt early)]
    exact follows index transition found
  · rw [List.getElem?_append_right late] at found
    rw [List.take_append, List.take_of_length_le late, rolled_append,
      ← Generator.advanced_advanced]
    exact onward _ transition found

theorem follows_singleton (transition : Transition) :
    Follows transition.before.generator [transition] := by
  intro index later found
  cases index with
  | zero =>
    cases found
    rfl
  | succ index => cases found

theorem follows_executeMany (machine : Machine) (instructions : List Instruction) :
    Follows machine.generator (machine.transitions instructions) ∧
      (machine.executeMany instructions).2.generator =
        machine.generator.advanced (rolled (machine.transitions instructions)) := by
  induction instructions generalizing machine with
  | nil => exact ⟨follows_nil _, rfl⟩
  | cons instruction rest ih =>
    cases executed : machine.execute instruction with
    | error fault =>
      rw [transitions_of_error executed, executeMany, executed]
      exact ⟨follows_nil _, rfl⟩
    | ok after =>
      let transition : Transition := ⟨machine, instruction, after, executed⟩
      have moved : after.generator = machine.generator.advanced (rolled [transition]) :=
        transition.moves_stream
      have onward : machine.executeMany (instruction :: rest) = after.executeMany rest := by
        rw [executeMany, executed]
      obtain ⟨follows, last⟩ := ih after
      rw [moved] at follows last
      rw [transitions_of_ok executed, onward, last, Generator.advanced_advanced, ← rolled_append]
      exact ⟨(follows_singleton transition).append follows, rfl⟩

theorem executeMany_eq (machine : Machine) (instructions : List Instruction) :
    (machine.executeMany instructions).2 =
      ((machine.transitions instructions).getLast?.map (·.after)).getD machine := by
  induction instructions generalizing machine with
  | nil => rfl
  | cons instruction rest ih =>
    cases executed : machine.execute instruction with
    | error fault =>
      rw [transitions_of_error executed, executeMany, executed]
      rfl
    | ok after =>
      have onward : machine.executeMany (instruction :: rest) = after.executeMany rest := by
        rw [executeMany, executed]
      rw [transitions_of_ok executed, onward, ih, List.getLast?_cons]
      cases (after.transitions rest).getLast? with
      | none => rfl
      | some last => rfl

theorem follows_perform (machine : Machine) {operation : Operation}
    (unseeded : operation.seeds = false) :
    Follows machine.generator (machine.transitionsOf operation) ∧
      (machine.perform operation).2.generator =
        machine.generator.advanced (rolled (machine.transitionsOf operation)) := by
  have step (elapsed : Nat) :
      Follows machine.generator (machine.transitionsOf (.stepElapsed elapsed)) ∧
        (machine.stepElapsed elapsed).2.generator =
          machine.generator.advanced (rolled (machine.transitionsOf (.stepElapsed elapsed))) := by
    rcases stepElapsed_transitions machine elapsed with
      ⟨transition, alone, before, stepped⟩ | ⟨idle, -⟩
    · have start : transition.before.generator = machine.generator := by
        rw [before]
        rfl
      obtain ⟨timers, schedule, speaker, settled⟩ := settle_frame transition.after elapsed
      rw [alone, stepped, settled, ← start]
      exact ⟨follows_singleton transition, transition.moves_stream⟩
    · rw [idle, (stepElapsed_idle idle).2]
      exact ⟨follows_nil _, rfl⟩
  cases operation with
  | load program =>
    refine ⟨follows_nil _, ?_⟩
    rw [perform]
    cases loaded : machine.load program with
    | error error => rfl
    | ok after =>
      rw [load] at loaded
      split at loaded
      · cases loaded
      · cases loaded
        rfl
  | seed seed => cases unseeded
  | step => exact step machine.stepTime
  | stepElapsed elapsed => exact step elapsed
  | tickTimers => exact ⟨follows_nil _, rfl⟩
  | render =>
    obtain ⟨screen, display, rendered, -⟩ := render_frame machine
    rw [perform, rendered]
    exact ⟨follows_nil _, rfl⟩
  | execute instruction =>
    rw [perform_execute]
    exact follows_executeMany machine [instruction]
  | executeMany instructions =>
    rw [perform_executeMany]
    exact follows_executeMany machine instructions

theorem registers_perform {operation : Operation} {transition : Transition}
    (last : (machine.transitionsOf operation).getLast? = some transition) :
    (machine.perform operation).2.registers = transition.after.registers := by
  have byHand {instructions : List Instruction}
      (last : (machine.transitions instructions).getLast? = some transition) :
      (machine.executeMany instructions).2.registers = transition.after.registers := by
    rw [executeMany_eq, last]
    rfl
  have step {elapsed : Nat}
      (last : (machine.transitionsOf (.stepElapsed elapsed)).getLast? = some transition) :
      (machine.stepElapsed elapsed).2.registers = transition.after.registers := by
    rcases stepElapsed_transitions machine elapsed with
      ⟨only, alone, -, stepped⟩ | ⟨idle, -⟩
    · rw [alone] at last
      obtain rfl : only = transition := Option.some.inj last
      obtain ⟨timers, schedule, speaker, settled⟩ := settle_frame only.after elapsed
      rw [stepped, settled]
    · rw [idle] at last
      cases last
  cases operation
  case step => exact step last
  case stepElapsed elapsed => exact step last
  case execute instruction =>
    rw [perform_execute]
    exact byHand last
  case executeMany instructions =>
    rw [perform_executeMany]
    exact byHand last
  all_goals cases last

theorem follows_log (machine : Machine) {operations : List Operation}
    (unseeded : ∀ operation ∈ operations, operation.seeds = false) :
    Follows machine.generator (machine.log operations) ∧
      (machine.performAll operations).2.generator =
        machine.generator.advanced (rolled (machine.log operations)) := by
  induction operations generalizing machine with
  | nil => exact ⟨follows_nil _, rfl⟩
  | cons operation rest ih =>
    obtain ⟨now, rests⟩ := List.forall_mem_cons.mp unseeded
    obtain ⟨follows, moved⟩ := follows_perform machine now
    obtain ⟨onward, last⟩ := ih (machine.perform operation).2 rests
    rw [moved] at onward last
    rw [log, rolled_append, ← Generator.advanced_advanced]
    exact ⟨follows.append onward, last⟩

/-- The random bytes of a machine come from a stream, one after the other. -/
structure FollowsStream (machine : Machine) (generator : Generator)
    (operations : List Operation) : Prop where
  /-- A random instruction sets its register to the byte whose position in the stream is the
  number of random instructions before it, masked. -/
  drawn : ∀ index transition, (machine.log operations)[index]? = some transition →
    ∀ x mask, transition.instruction = .random x mask →
      transition.after.v x =
        generator.stream (rolled ((machine.log operations).take index)) &&& mask
  /-- What the last instruction of a request leaves in the registers is there after the request. -/
  left : ∀ count operation, operations[count]? = some operation →
    ∀ transition ∈ ((machine.reached operations count).transitionsOf operation).getLast?,
      (machine.reached operations (count + 1)).registers = transition.after.registers
  /-- Every instruction finds the generator where the random instructions before it left it. -/
  found : ∀ index transition, (machine.log operations)[index]? = some transition →
    transition.before.generator =
      generator.advanced (rolled ((machine.log operations).take index))
  /-- So does whoever looks at it after any number of requests. -/
  consumed : ∀ count, (machine.reached operations count).generator =
    generator.advanced (rolled (machine.log (operations.take count)))

/-- Whatever was asked of a machine before it was seeded, from then on its random instructions
take the bytes of the stream of the seed in order, and nothing else touches the stream, until it
is seeded again. -/
theorem randoms_follow_seed (machine : Machine) (earlier : List Operation) (seed : UInt64)
    {operations : List Operation}
    (unseeded : ∀ operation ∈ operations, operation.seeds = false) :
    (machine.performAll (earlier ++ [.seed seed])).2.FollowsStream (.ofSeed seed) operations := by
  have seeded : (machine.performAll (earlier ++ [.seed seed])).2.generator = .ofSeed seed := by
    rw [performAll_concat]
    rfl
  generalize (machine.performAll (earlier ++ [.seed seed])).2 = start at seeded
  rw [← seeded]
  have follows : Follows start.generator (start.log operations) := (follows_log start unseeded).1
  refine ⟨?drawn, ?left, follows, ?consumed⟩
  case drawn =>
    intro index transition found x mask random
    rw [(transition.takes_byte random).1, follows index transition found, Generator.stream]
  case left =>
    intro count operation asked transition last
    rw [reached_next, asked]
    exact registers_perform last
  case consumed =>
    intro count
    rw [reached]
    exact (follows_log start fun operation member =>
      unseeded operation (List.mem_of_mem_take member)).2

/-- Take random bytes in steps and by hand, with masks that leave everything, something and
nothing of them, and between them a failing return, a step into the void, and programs that are
too large and that are not. -/
def lottery : List Operation :=
  [.load [0xC0, 0xFF, 0xC1, 0x00, 0xFF, 0xFF], .step, .stepElapsed 5, .execute .clearScreen,
    .executeMany [.random 2 0x0F, .ret, .random 3 0xFF], .step,
    .load (List.replicate 3585 0), .tickTimers, .render, .load [0xC0, 0xFF], .step,
    .execute (.random 4 0x3C)]

/-- The lottery begins anew with a seed: the bytes taken before do not count, nor does the random
instruction after the failing return. -/
theorem randoms_follow_seed_lottery :
    let start := ((Machine.new .standard .silent (.ofSeed 1)).performAll
      ([.seed 7, .execute (.random 0 0xFF)] ++ [.seed 7])).2
    (∀ operation ∈ lottery, operation.seeds = false) ∧
      (start.log lottery)[1]?.map (·.after.v 1) =
        some ((Generator.ofSeed 7).stream 1 &&& 0x00) ∧
      (start.log lottery)[5]?.map (·.after.v 4) =
        some ((Generator.ofSeed 7).stream 4 &&& 0x3C) ∧
      (start.reached lottery 12).generator = (Generator.ofSeed 7).advanced 5 := by
  have unseeded : ∀ operation ∈ lottery, operation.seeds = false := by decide
  have follows := randoms_follow_seed (Machine.new .standard .silent (.ofSeed 1))
    [.seed 7, .execute (.random 0 0xFF)] 7 unseeded
  intro start
  obtain ⟨second, atSecond, masked⟩ :
      ∃ transition, (start.log lottery)[1]? = some transition ∧
        transition.instruction = .random 1 0x00 := Option.map_eq_some_iff.mp (by decide +kernel)
  obtain ⟨last, atLast, byHand⟩ :
      ∃ transition, (start.log lottery)[5]? = some transition ∧
        transition.instruction = .random 4 0x3C := Option.map_eq_some_iff.mp (by decide +kernel)
  have one : rolled ((start.log lottery).take 1) = 1 := by decide +kernel
  have four : rolled ((start.log lottery).take 5) = 4 := by decide +kernel
  have five : rolled (start.log (lottery.take 12)) = 5 := by decide +kernel
  refine ⟨unseeded, ?_, ?_, ?_⟩
  · rw [atSecond, Option.map_some, ← one]
    exact congrArg some (follows.drawn 1 second atSecond 1 0x00 masked)
  · rw [atLast, Option.map_some, ← four]
    exact congrArg some (follows.drawn 5 last atLast 4 0x3C byHand)
  · rw [← five]
    exact follows.consumed 12

end Machine
end Chip8
