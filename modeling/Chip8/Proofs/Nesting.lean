import Chip8.Proofs.History

/-! Calls nest. The saved addresses are those of the calls that have not returned yet, oldest
first, whatever the slots of the call stack held before; and a call that has returned has left no
trace of itself on the stack. -/
namespace Chip8

def Instruction.calls : Instruction → Bool
  | .call _ => true
  | _ => false

def Instruction.returns : Instruction → Bool
  | .ret => true
  | _ => false

namespace Machine

namespace Transition

/-- Whether an address was saved. -/
def calls (transition : Transition) : Bool := transition.instruction.calls

/-- Whether a saved address was taken. -/
def returns (transition : Transition) : Bool := transition.instruction.returns

/-- The address of the next instruction but for jumps. -/
def following (transition : Transition) : Address := transition.before.registers.pc.advance 2

end Transition

/-- What has been executed in the first `count` requests since a program was put into memory. -/
def sinceLoad (machine : Machine) (operations : List Operation) : Nat → List Transition
  | 0 => []
  | count + 1 =>
    match operations[count]? with
    | none => machine.sinceLoad operations count
    | some operation =>
      if (machine.reached operations count).reloads operation then []
      else
        machine.sinceLoad operations count ++
          (machine.reached operations count).transitionsOf operation

/-- The number of calls before a log that its returns undo: each call in the log first takes one
of the returns after it for itself. -/
def undoes : List Transition → Nat
  | [] => 0
  | transition :: later =>
    if transition.calls then undoes later - 1
    else if transition.returns then undoes later + 1
    else undoes later

/-- What follows a call undoes it if up to some point it has more returns than calls. -/
def Undone (later : List Transition) : Prop :=
  ∃ count, (later.take count).countP (·.calls) < (later.take count).countP (·.returns)

theorem Transition.not_returns {transition : Transition} (calls : transition.calls = true) :
    transition.returns = false := by
  obtain ⟨before, instruction, after, executed⟩ := transition
  cases instruction
  case call => rfl
  all_goals cases calls

/-- A log undoes more than a number of calls if up to some point it has so many more returns. -/
theorem lt_undoes_iff (log : List Transition) (depth : Nat) :
    depth < undoes log ↔ ∃ count,
      (log.take count).countP (·.calls) + depth < (log.take count).countP (·.returns) := by
  induction log generalizing depth with
  | nil => simp [undoes]
  | cons transition later ih =>
    rw [← Nat.or_exists_add_one, undoes]
    by_cases calls : transition.calls = true
    · have deeper : depth < undoes later - 1 ↔ depth + 1 < undoes later := by omega
      rw [if_pos calls, deeper, ih]
      simp [calls, transition.not_returns calls, Nat.add_assoc, Nat.add_comm 1]
    rw [if_neg calls]
    by_cases returns : transition.returns = true
    · rw [if_pos returns]
      cases depth with
      | zero => exact iff_of_true (Nat.succ_pos _) (Or.inr ⟨0, by simp [calls, returns]⟩)
      | succ depth =>
        rw [Nat.add_lt_add_iff_right, ih]
        simp [calls, returns, ← Nat.add_assoc]
    · rw [if_neg returns, ih]
      simp [calls, returns]

theorem undone_iff (later : List Transition) : Undone later ↔ 0 < undoes later :=
  (lt_undoes_iff later 0).symm

instance (later : List Transition) : Decidable (Undone later) :=
  decidable_of_iff _ (undone_iff later).symm

/-- The calls in a log that no later return undoes, oldest first. -/
def openCalls : List Transition → List Transition
  | [] => []
  | transition :: later =>
    if transition.calls ∧ ¬ Undone later then transition :: openCalls later else openCalls later

variable {machine after : Machine}

/-- Only calls and returns change the call stack. -/
theorem stack_execute {instruction : Instruction}
    (executed : machine.execute instruction = .ok after) (calls : instruction.calls = false)
    (returns : instruction.returns = false) : after.registers.stack = machine.registers.stack := by
  cases instruction
  case call => cases calls
  case ret => cases returns
  case skipIfConst | skipUnlessConst | skipIfSame | skipUnlessSame | skipIfPressed
      | skipUnlessPressed =>
    cases executed
    rw [skipIf]
    split
    · rfl
    · rfl
  case loadRegisters x =>
    cases executed
    simp only [loadTo, proceed, goto]
  all_goals
    cases executed
    rfl

namespace Transition

variable (transition : Transition)

theorem saves (calls : transition.calls = true) :
    transition.after.registers.stack.toList =
      transition.before.registers.stack.toList ++ [transition.following] := by
  obtain ⟨before, instruction, after, executed⟩ := transition
  cases instruction
  case call target =>
    simp only [execute] at executed
    split at executed
    · cases executed
    · rename_i stack pushed
      cases executed
      exact CallStack.toList_push pushed
  all_goals cases calls

theorem takes (returns : transition.returns = true) :
    transition.before.registers.stack.toList =
      transition.after.registers.stack.toList ++ [transition.after.registers.pc] := by
  obtain ⟨before, instruction, after, executed⟩ := transition
  cases instruction
  case ret =>
    simp only [execute] at executed
    split at executed
    · cases executed
    · rename_i address stack popped
      cases executed
      exact CallStack.toList_pop popped
  all_goals cases returns

theorem keeps (calls : ¬ transition.calls = true) (returns : ¬ transition.returns = true) :
    transition.after.registers.stack = transition.before.registers.stack :=
  stack_execute transition.executed (Bool.eq_false_iff.mpr calls) (Bool.eq_false_iff.mpr returns)

end Transition

/-- A log leads from one call stack to another: what is executed finds the stack as it was left
by what was executed before it. -/
inductive Leads : CallStack → List Transition → CallStack → Prop where
  | done (stack : CallStack) : Leads stack [] stack
  | next (transition : Transition) {later : List Transition} {last : CallStack}
      (onward : Leads transition.after.registers.stack later last) :
      Leads transition.before.registers.stack (transition :: later) last

namespace Leads

variable {first between last : CallStack} {log more : List Transition}

theorem append (leads : Leads first log between) (onward : Leads between more last) :
    Leads first (log ++ more) last := by
  induction leads with
  | done stack => exact onward
  | next transition _ ih => exact .next transition (ih onward)

theorem split (leads : Leads first (log ++ more) last) :
    ∃ between, Leads first log between ∧ Leads between more last := by
  induction log generalizing first with
  | nil => exact ⟨first, .done first, leads⟩
  | cons transition later ih =>
    cases leads with
    | next _ onward =>
      obtain ⟨between, reached, rest⟩ := ih onward
      exact ⟨between, .next transition reached, rest⟩

theorem still (leads : Leads first log last)
    (neither : ∀ transition ∈ log,
      ¬ transition.calls = true ∧ ¬ transition.returns = true) :
    last = first := by
  induction leads with
  | done stack => rfl
  | next transition _ ih =>
    obtain ⟨calls, returns⟩ := neither transition List.mem_cons_self
    rw [ih fun later member => neither later (List.mem_cons_of_mem _ member)]
    exact transition.keeps calls returns

/-- A log takes the saved addresses that it undoes and saves those of its open calls. -/
theorem toList_eq (leads : Leads first log last) :
    last.toList =
      first.toList.take (first.toList.length - undoes log) ++
        (openCalls log).map (·.following) := by
  induction leads with
  | done stack => simp [undoes, openCalls]
  | @next transition later last _ ih =>
    rw [ih, undoes, openCalls]
    by_cases calls : transition.calls = true
    · rw [transition.saves calls]
      by_cases undone : Undone later
      · have positive : 0 < undoes later := (undone_iff later).mp undone
        have fewer : transition.before.registers.stack.toList.length + 1 - undoes later =
          transition.before.registers.stack.toList.length - (undoes later - 1) := by omega
        simp [calls, undone, fewer, List.take_append_of_le_length (Nat.sub_le _ _)]
      · have none : undoes later = 0 := by
          rw [undone_iff] at undone
          exact Nat.eq_zero_of_not_pos undone
        simp [calls, undone, none, List.take_of_length_le]
    by_cases returns : transition.returns = true
    · rw [transition.takes returns]
      simp [calls, returns, List.take_append_of_le_length (Nat.sub_le _ _)]
    · rw [transition.keeps calls returns]
      simp [calls, returns]

/-- Addresses at the bottom of the call stack stay there as long as the stack stays as high. -/
theorem bottom (leads : Leads first log last) {below : List Address}
    (start : below <+: first.toList)
    (high : ∀ transition ∈ log, below.length ≤ transition.after.registers.stack.depth) :
    below <+: last.toList := by
  induction leads with
  | done stack => exact start
  | next transition _ ih =>
    apply ih ?_ fun later member => high later (List.mem_cons_of_mem _ member)
    by_cases calls : transition.calls = true
    · rw [transition.saves calls]
      exact start.trans (List.prefix_append _ _)
    by_cases returns : transition.returns = true
    · rw [transition.takes returns] at start
      have room := high transition List.mem_cons_self
      rw [← CallStack.length_toList] at room
      exact List.prefix_of_prefix_length_le start (List.prefix_append _ _) room
    · rw [transition.keeps calls returns]
      exact start

end Leads

theorem leads_executeMany (machine : Machine) (instructions : List Instruction) :
    Leads machine.registers.stack (machine.transitions instructions)
      (machine.executeMany instructions).2.registers.stack := by
  induction instructions generalizing machine with
  | nil => exact .done _
  | cons instruction rest ih =>
    cases executed : machine.execute instruction with
    | error fault =>
      rw [transitions_of_error executed, executeMany, executed]
      exact .done _
    | ok after =>
      have onward : machine.executeMany (instruction :: rest) = after.executeMany rest := by
        rw [executeMany, executed]
      rw [transitions_of_ok executed, onward]
      exact .next ⟨machine, instruction, after, executed⟩ (ih after)

/-- A request that puts no program into memory does to the call stack what its instructions do. -/
theorem leads_perform {operation : Operation} (kept : machine.reloads operation = false) :
    Leads machine.registers.stack (machine.transitionsOf operation)
      (machine.perform operation).2.registers.stack := by
  have step (elapsed : Nat) : Leads machine.registers.stack
      (machine.transitionsOf (.stepElapsed elapsed))
      (machine.stepElapsed elapsed).2.registers.stack := by
    rcases stepElapsed_transitions machine elapsed with
      ⟨transition, alone, before, stepped⟩ | ⟨idle, -⟩
    · have start : transition.before.registers.stack = machine.registers.stack := by
        rw [before]
        rfl
      obtain ⟨timers, schedule, speaker, settled⟩ := settle_frame transition.after elapsed
      rw [alone, stepped, settled, ← start]
      exact .next transition (.done _)
    · rw [idle, (stepElapsed_idle idle).1]
      exact .done _
  cases operation with
  | load program =>
    rw [perform]
    cases loaded : machine.load program with
    | error error => exact .done _
    | ok after =>
      rw [reloads, loaded] at kept
      cases kept
  | seed seed => exact .done _
  | step => exact step machine.stepTime
  | stepElapsed elapsed => exact step elapsed
  | tickTimers => exact .done _
  | render =>
    obtain ⟨screen, display, rendered, -⟩ := render_frame machine
    rw [perform, rendered]
    exact .done _
  | execute instruction =>
    rw [perform_execute]
    exact leads_executeMany machine [instruction]
  | executeMany instructions =>
    rw [perform_executeMany]
    exact leads_executeMany machine instructions

theorem registers_of_reloads {operation : Operation} (reloads : machine.reloads operation = true) :
    (machine.perform operation).2.registers = .new := by
  cases operation
  case load program =>
    rw [perform]
    cases loaded : machine.load program with
    | error error =>
      rw [Machine.reloads, loaded] at reloads
      cases reloads
    | ok after => exact (load_restarted loaded).registers
  all_goals cases reloads

theorem leads_sinceLoad (fresh : machine.registers.stack = .empty) (operations : List Operation)
    (count : Nat) :
    Leads .empty (machine.sinceLoad operations count)
      (machine.reached operations count).registers.stack := by
  induction count with
  | zero =>
    have start : machine.reached operations 0 = machine := rfl
    rw [start, fresh]
    exact .done _
  | succ count ih =>
    rw [sinceLoad, reached_next]
    cases operations[count]? with
    | none => exact ih
    | some operation =>
      by_cases reloads : (machine.reached operations count).reloads operation = true
      · simp only [if_pos reloads, registers_of_reloads reloads]
        exact .done _
      · simp only [if_neg reloads]
        exact ih.append (leads_perform (Bool.eq_false_iff.mpr reloads))

structure CallsNest (machine : Machine) (operations : List Operation) : Prop where
  /-- The saved addresses are those of the calls that no return has undone. -/
  saved : ∀ count, (machine.reached operations count).registers.stack.toList =
    (openCalls (machine.sinceLoad operations count)).map (·.following)
  /-- There are never more of them than slots. -/
  bounded : ∀ count, (openCalls (machine.sinceLoad operations count)).length ≤ 16
  /-- Nothing but calls, returns and loading a program touches the call stack. -/
  untouched : ∀ index operation, operations[index]? = some operation →
    (machine.reached operations index).reloads operation = false →
    (∀ transition ∈ (machine.reached operations index).transitionsOf operation,
      ¬ transition.calls = true ∧ ¬ transition.returns = true) →
    (machine.reached operations (index + 1)).registers.stack =
      (machine.reached operations index).registers.stack
  /-- The return of a call continues after it, with the older addresses as they were. -/
  balanced : ∀ count outer call inner ret rest,
    machine.sinceLoad operations count = outer ++ call :: (inner ++ ret :: rest) →
    call.calls = true →
    (∀ transition ∈ inner,
      call.before.registers.stack.depth < transition.after.registers.stack.depth) →
    ret.returns = true →
    ret.after.registers.stack.depth = call.before.registers.stack.depth →
    ret.after.registers.pc = call.following ∧
      ret.after.registers.stack.toList = call.before.registers.stack.toList

/-- After a call, and as long as its address is saved, the return that takes the stack back to the
depth of the call takes its address. -/
theorem Leads.returned {call ret : Transition} {inner rest : List Transition}
    {first last : CallStack} (leads : Leads first (call :: (inner ++ ret :: rest)) last)
    (calls : call.calls = true)
    (deep : ∀ transition ∈ inner,
      call.before.registers.stack.depth < transition.after.registers.stack.depth)
    (returns : ret.returns = true)
    (back : ret.after.registers.stack.depth = call.before.registers.stack.depth) :
    ret.after.registers.pc = call.following ∧
      ret.after.registers.stack.toList = call.before.registers.stack.toList := by
  cases leads with
  | next _ onward =>
    obtain ⟨between, led, onward⟩ := onward.split
    cases onward with
    | next _ _ =>
      have saves := call.saves calls
      have takes := ret.takes returns
      have length : call.after.registers.stack.toList.length =
          call.before.registers.stack.depth + 1 := by
        rw [saves, List.length_append, CallStack.length_toList]
        rfl
      have kept := led.bottom (List.prefix_refl _) fun transition member => by
        rw [length]
        exact deep transition member
      have same : call.after.registers.stack.toList = ret.before.registers.stack.toList := by
        apply kept.eq_of_length
        rw [length, takes, List.length_append, CallStack.length_toList, back]
        rfl
      rw [saves, takes] at same
      obtain ⟨older, youngest⟩ := List.append_inj' same rfl
      exact ⟨(List.singleton_inj.mp youngest).symm, older.symm⟩

/-- Whatever is asked of a new machine, its calls nest: the call stack holds the addresses after
the calls that have not returned since a program was loaded, and a return that ends a call goes on
after it. -/
theorem calls_nest (speed : ClockSpeed) (feed : KeyFeed) (generator : Random.Generator)
    (operations : List Operation) : (Machine.new speed feed generator).CallsNest operations := by
  have leads (count : Nat) :
      Leads .empty ((Machine.new speed feed generator).sinceLoad operations count)
        ((Machine.new speed feed generator).reached operations count).registers.stack :=
    leads_sinceLoad rfl operations count
  have saved (count : Nat) :
      ((Machine.new speed feed generator).reached operations count).registers.stack.toList =
        (openCalls ((Machine.new speed feed generator).sinceLoad operations count)).map
          (·.following) := by
    have lifted := (leads count).toList_eq
    have empty : CallStack.empty.toList = [] := rfl
    rw [empty] at lifted
    simpa using lifted
  refine ⟨saved, ?_, ?_, ?_⟩
  · intro count
    have counted := congrArg List.length (saved count)
    rw [CallStack.length_toList, List.length_map] at counted
    rw [← counted]
    exact CallStack.depth_le _
  · intro index operation asked kept neither
    rw [reached_next, asked]
    exact (leads_perform kept).still neither
  · intro count outer call inner ret rest log calls deep returns back
    have led := leads count
    rw [log] at led
    obtain ⟨between, -, onward⟩ := led.split
    exact onward.returned calls deep returns back

/-- Load a program whose subroutine calls another one, and step through both. -/
def errand : List Operation :=
  [.load [0x22, 0x06, 0x12, 0x02, 0x00, 0xEE, 0x22, 0x04, 0x00, 0xEE], .step, .step, .step, .step]

theorem calls_nest_errand :
    ((Machine.new .standard .silent (.ofSeed 0)).reached errand 3).registers.stack.toList =
        [0x202, 0x208] ∧
      ((Machine.new .standard .silent (.ofSeed 0)).reached errand 4).registers.stack.toList =
        [0x202] := by
  have nest := calls_nest .standard .silent (.ofSeed 0) errand
  exact ⟨(nest.saved 3).trans (by decide +kernel), (nest.saved 4).trans (by decide +kernel)⟩

end Machine
end Chip8
