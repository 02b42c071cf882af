import Chip8.ClockSpeed
import Chip8.CommandLine.Argument
import Chip8.CommandLine.Numeral

namespace Chip8.CommandLine

/-- The value that stands for none being given, if there is one. -/
def Setting.default? : Setting → Option Nat
  | .clockSpeed => some ClockSpeed.standard.hertz
  | .cycles => none

theorem Argument.isOption_toString (number : Nat) : isOption (toString number) = false := by
  obtain ⟨first, rest, digit, spelled, -⟩ := toList_numeral number
  have unsigned : first ≠ '-' := by
    rintro rfl
    exact absurd digit (by decide)
  rw [isOption, spelled]
  split
  · rename_i dashed
    cases dashed
    exact absurd rfl unsigned
  · rfl

inductive UsageError where
  | unknownOption (argument : String)
  | missingValue (setting : Setting)
  | repeated (setting : Setting)
  | invalidNumber (setting : Setting) (value : String)
  | missingProgram
  | unexpected (argument : String)
  deriving DecidableEq, Repr

namespace UsageError

private def name (setting : Setting) : String := "--" ++ String.ofList setting.longName

/-- A report for a user, in this library's own wording. -/
def message : UsageError → String
  | unknownOption argument => "unknown option " ++ argument
  | missingValue setting => name setting ++ " needs a value"
  | repeated setting => name setting ++ " is given more than once"
  | invalidNumber setting value => name setting ++ " does not take the value " ++ value
  | missingProgram => "no program is given"
  | unexpected argument => "unexpected argument " ++ argument

end UsageError

/-- Why nothing is run: the command line makes no sense, or something is asked. -/
inductive Interruption where
  | usage (error : UsageError)
  | inquiry (inquiry : Inquiry)
  deriving DecidableEq, Repr

/-- What the arguments read so far ask for: settings in order, each with the value given for it
if there is one, and the program to run. -/
structure Request where
  settings : List (Setting × Option String)
  program : Option String
  deriving DecidableEq, Repr

namespace Request

def empty : Request := ⟨[], none⟩

/-- Take one more argument. An inquiry, an unknown option and a second program interrupt at
once, whatever comes after them. -/
def add (request : Request) : Argument → Except Interruption Request
  | .setting setting value =>
    .ok { request with settings := request.settings ++ [(setting, value)] }
  | .inquiry inquiry => .error (.inquiry inquiry)
  | .unknown option => .error (.usage (.unknownOption option))
  | .program path =>
    match request.program with
    | none => .ok { request with program := some path }
    | some _ => .error (.usage (.unexpected path))

def ofArguments (arguments : List Argument) : Except Interruption Request :=
  arguments.foldlM add empty

/-- The number for a setting, below a limit: the one given, or its default. A setting that is
named needs one of the two. -/
def number? (request : Request) (setting : Setting) (limit : Nat) :
    Except UsageError (Option Nat) :=
  match request.settings.filter (·.1 = setting) with
  | [] => .ok setting.default?
  | [(_, none)] =>
    match setting.default? with
    | some number => .ok (some number)
    | none => .error (.missingValue setting)
  | [(_, some value)] =>
    match readNumeral limit value with
    | some number => .ok (some number)
    | none => .error (.invalidNumber setting value)
  | _ => .error (.repeated setting)

theorem number?_toString {request : Request} {setting : Setting} {limit number : Nat}
    (given : request.settings.filter (·.1 = setting) = [(setting, some (toString number))])
    (below : number < limit) : request.number? setting limit = .ok (some number) := by
  rw [number?, given]
  simp only [readNumeral_toString below]

end Request

structure Options where
  path : String
  clockSpeed : Nat
  cycles : Option Nat
  deriving DecidableEq, Repr

namespace Options

def ofRequest (request : Request) : Except UsageError Options := do
  let speed ← request.number? .clockSpeed UInt32.size
  let cycles ← request.number? .cycles UInt64.size
  match request.program with
  | none => .error .missingProgram
  | some path => .ok ⟨path, speed.getD ClockSpeed.standard.hertz, cycles⟩

/-- Read a command line on which the given settings are known. -/
def parse (known : List Setting) (commandLine : List String) : Except Interruption Options := do
  let request ← Request.ofArguments (Argument.readAll known commandLine)
  (ofRequest request).mapError .usage

end Options
end Chip8.CommandLine
