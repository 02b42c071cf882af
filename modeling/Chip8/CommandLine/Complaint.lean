import Chip8.ClockSpeed
import Chip8.CommandLine.Options
import Chip8.Fault
import Chip8.Machine.Step

namespace Chip8.CommandLine

/-- Nothing, the wrong use of the command line, an error report, or the cause of a crash. -/
inductive Complaint where
  | silent
  | usage (error : UsageError)
  | report (text : String)
  | crash (cause : Overrun)
  deriving DecidableEq, Repr

namespace Complaint

def ofClock (error : ClockError) : Complaint := .report error.message

/-- The report of a program that could not be loaded, with its cause if it has one. -/
def ofRom (error : RomError) : Complaint :=
  match error.cause? with
  | none => .report error.message
  | some cause => .report (error.message ++ "\n\nCaused by:\n    " ++ cause)

/-- The report of a failed step; a time too long to count is a crash. -/
def ofFailure : Failure → Complaint
  | .fault fault => .report fault.message
  | .overrun cause => .crash cause

/-- The text on standard error, apart from the lines of a logger, such as the one that tells of a
machine that halts. For a misused command line and a crash only the stream and the exit code are
settled; the wording is this library's own. -/
def text : Complaint → String
  | silent => ""
  | usage error => "error: " ++ error.message ++ "\n"
  | report text => "Error: " ++ text ++ "\n"
  | crash .endless => "crash: a period of no length is never used up\n"
  | crash .duration => "crash: a duration is too long\n"
  | crash .count => "crash: too many periods to count\n"

def exitCode : Complaint → Nat
  | silent => 0
  | usage _ | report _ => 1
  | crash _ => 101

end Complaint
end Chip8.CommandLine
