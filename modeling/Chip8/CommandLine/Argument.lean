/-! Command line arguments, each read for what it says. A long option takes its value after an
equals sign or from the next argument, unless that is an option too; a short one also
directly. Anything that is no option names a program to run. -/
namespace Chip8.CommandLine

inductive Setting where
  | clockSpeed
  | cycles
  deriving DecidableEq, Repr

namespace Setting

def longName : Setting → List Char
  | clockSpeed => "clock-speed".toList
  | cycles => "cycles".toList

/-- The letter of the short form, if there is one. -/
def letter? : Setting → Option Char
  | clockSpeed => some 'c'
  | cycles => none

end Setting

inductive Inquiry where
  | help
  | version
  deriving DecidableEq, Repr

namespace Inquiry

def all : List Inquiry := [help, version]

def longName : Inquiry → List Char
  | help => "help".toList
  | version => "version".toList

def letter : Inquiry → Char
  | help => 'h'
  | version => 'V'

end Inquiry

/-- What an argument says, together with the one after it if that is its value. -/
inductive Argument where
  | setting (setting : Setting) (value : Option String)
  | inquiry (inquiry : Inquiry)
  | program (path : String)
  | unknown (option : String)
  deriving DecidableEq, Repr

namespace Argument

/-- More than a lone dash, and starting with one. -/
def isOption (argument : String) : Bool :=
  match argument.toList with
  | '-' :: _ :: _ => true
  | _ => false

/-- A value attached to its option, without the equals signs before it. -/
private def attached (value : List Char) : String := String.ofList (value.dropWhile (· == '='))

/-- What a long name says with the value after its equals sign, if it has any. -/
def ofLongName? (known : List Setting) (name : List Char) (value : Option String) :
    Option Argument :=
  ((known.find? (·.longName == name)).map (.setting · value)).or
    ((Inquiry.all.find? (·.longName == name)).map .inquiry)

/-- What a letter says with the value attached to it, if it has any. -/
def ofLetter? (known : List Setting) (letter : Char) (value : Option String) : Option Argument :=
  ((known.find? (·.letter? == some letter)).map (.setting · value)).or
    ((Inquiry.all.find? (·.letter == letter)).map .inquiry)

/-- What an option says by itself; an inquiry takes no notice of a value. -/
def ofOption (known : List Setting) (option : String) : Argument :=
  let read := match option.toList with
    | '-' :: '-' :: rest =>
      let body := rest.dropWhile (· == '-')
      let value := match body.dropWhile (· != '=') with
        | [] => none
        | _ :: value => some (attached value)
      ofLongName? known (body.takeWhile (· != '=')) value
    | '-' :: letter :: rest =>
      ofLetter? known letter (if rest.isEmpty then none else some (attached rest))
    | _ => none
  read.getD (.unknown option)

/-- The setting that lacks a value, if there is one. -/
def open? : Argument → Option Setting
  | .setting target none => some target
  | _ => none

/-- Read a command line; after a double dash everything names a program. -/
def readAll (known : List Setting) : List String → List Argument
  | [] => []
  | [argument] =>
    if argument = "--" then []
    else if isOption argument then [ofOption known argument]
    else [.program argument]
  | argument :: next :: rest =>
    if argument = "--" then (next :: rest).map .program
    else if isOption argument then
      let read := ofOption known argument
      match read.open?, isOption next with
      | some target, false => .setting target (some next) :: readAll known rest
      | _, _ => read :: readAll known (next :: rest)
    else .program argument :: readAll known (next :: rest)

/-- A setting without a value takes the next argument for it, unless that is an option. -/
theorem readAll_setting {known : List Setting} {option value : String} {setting : Setting}
    (rest : List String) (ongoing : option ≠ "--") (dashed : isOption option = true)
    (named : ofOption known option = .setting setting none) (plain : isOption value = false) :
    readAll known (option :: value :: rest) =
      .setting setting (some value) :: readAll known rest := by
  rw [readAll, if_neg ongoing, if_pos dashed]
  simp only [named, open?, plain]

end Argument
end Chip8.CommandLine
