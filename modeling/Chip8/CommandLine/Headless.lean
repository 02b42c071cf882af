import Chip8.CommandLine.Complaint
import Chip8.CommandLine.Manual
import Chip8.Directory
import Chip8.Runner

namespace Chip8.CommandLine

/-- How a program ends: its exit code and what it wrote. -/
structure Exit where
  code : Nat
  output : String
  complaint : Complaint
  deriving DecidableEq, Repr

namespace Headless

/-- A machine loaded with the program the options name, and the runner to drive it. -/
structure Launch where
  runner : Runner
  machine : Machine

def settings : List Setting := [.clockSpeed, .cycles]

def refuse (complaint : Complaint) : Exit := ⟨complaint.exitCode, "", complaint⟩

/-- End without running a program: the answer to an inquiry is printed. -/
def interrupt (command : String) : Interruption → Exit
  | .usage error => refuse (.usage error)
  | .inquiry inquiry => ⟨0, inquiry.text command settings, .silent⟩

/-- Get ready: the clock speed is checked first, then the program is read, then loaded. -/
def launch (options : Options) (read : String → Except RomError Program)
    (generator : Random.Generator) : Except Complaint Launch :=
  match ClockSpeed.ofHertz options.clockSpeed with
  | .error error => .error (.ofClock error)
  | .ok speed =>
    match read options.path with
    | .error error => .error (.ofRom error)
    | .ok program =>
      match (Machine.new speed .silent generator).load program with
      | .error error => .error (.ofRom error)
      | .ok machine => .ok ⟨⟨options.cycles⟩, machine⟩

/-- End after a run: the screen is printed also if a step failed, but not after a crash. -/
def finish (result : RunResult) (machine : Machine) : Exit :=
  let screen := machine.screen.frame.text
  match result with
  | .ok summary => ⟨0, screen ++ "Ran " ++ toString summary.cycles ++ " cycles\n", .silent⟩
  | .error (.fault fault) => ⟨1, screen, .report fault.message⟩
  | .error (.overrun cause) => ⟨Complaint.exitCode (.crash cause), "", .crash cause⟩

/-- The whole program under the name of a command, nothing if it has not ended after `fuel`
cycles. The time before each cycle may depend on the period of the clock. -/
def run (command : String) (commandLine : List String) (directory : Directory)
    (generator : Random.Generator) (elapsed : Nat → Nat → Nat) (fuel : Nat) : Option Exit :=
  match Options.parse settings commandLine with
  | .error interruption => some (interrupt command interruption)
  | .ok options =>
    match launch options directory.read generator with
    | .error complaint => some (refuse complaint)
    | .ok launch =>
      let world : Surroundings := ⟨fun _ => .quiet, elapsed launch.machine.stepTime⟩
      (launch.runner.run world fuel launch.machine).map fun (result, machine) =>
        finish result machine

end Headless
end Chip8.CommandLine
