import Chip8.Machine.Step

namespace Chip8

inductive Operation where
  | load (program : Program)
  | seed (seed : UInt64)
  | step
  | stepElapsed (elapsed : Nat)
  | tickTimers
  | render
  | execute (instruction : Instruction)
  | executeMany (instructions : List Instruction)
  deriving Repr

inductive Reply where
  | done
  | stepped (report : Report)
  | rejected (error : RomError)
  | failed (failure : Failure)
  deriving DecidableEq, Repr

namespace Machine

private def replyTo : Except Failure Report → Reply
  | .ok report => .stepped report
  | .error failure => .failed failure

def perform (machine : Machine) : Operation → Reply × Machine
  | .load program =>
    match machine.load program with
    | .error error => (.rejected error, machine)
    | .ok after => (.done, after)
  | .seed seed => (.done, machine.seed seed)
  | .step => let (result, after) := machine.step; (replyTo result, after)
  | .stepElapsed elapsed =>
    let (result, after) := machine.stepElapsed elapsed; (replyTo result, after)
  | .tickTimers => (.done, machine.tickTimers)
  | .render => (.done, machine.render)
  | .execute instruction =>
    match machine.execute instruction with
    | .error fault => (.failed (.fault fault), machine)
    | .ok after => (.done, after)
  | .executeMany instructions =>
    match machine.executeMany instructions with
    | (.error fault, after) => (.failed (.fault fault), after)
    | (.ok (), after) => (.done, after)

def performAll (machine : Machine) : List Operation → List Reply × Machine
  | [] => ([], machine)
  | operation :: rest =>
    let (reply, after) := machine.perform operation
    let (replies, last) := after.performAll rest
    (reply :: replies, last)

theorem perform_execute (machine : Machine) (instruction : Instruction) :
    (machine.perform (.execute instruction)).2 = (machine.executeMany [instruction]).2 := by
  rw [perform, executeMany]
  cases machine.execute instruction with
  | error fault => rfl
  | ok after => rfl

theorem perform_executeMany (machine : Machine) (instructions : List Instruction) :
    (machine.perform (.executeMany instructions)).2 = (machine.executeMany instructions).2 := by
  rw [perform]
  cases machine.executeMany instructions with
  | mk result after =>
    cases result with
    | error fault => rfl
    | ok _ => rfl

theorem performAll_append (machine : Machine) (operations later : List Operation) :
    (machine.performAll (operations ++ later)).2 =
      ((machine.performAll operations).2.performAll later).2 := by
  induction operations generalizing machine with
  | nil => rfl
  | cons first rest ih => exact ih (machine.perform first).2

theorem performAll_concat (machine : Machine) (operations : List Operation)
    (operation : Operation) :
    (machine.performAll (operations ++ [operation])).2 =
      ((machine.performAll operations).2.perform operation).2 :=
  performAll_append machine operations [operation]

end Machine
end Chip8
