import Chip8.CommandLine.Options

namespace Chip8.CommandLine

/-- A form on the command line, and what it is for. -/
structure Usage where
  form : String
  purpose : String
  deriving DecidableEq, Repr

namespace Usage

/-- Blanks that are seen as an indentation or a gap. -/
private def blanks (count : Nat) : String := String.ofList (List.replicate count ' ')

/-- One line each, the purposes aligned four blanks after the widest form. -/
def lines (usages : List Usage) : List String :=
  let width := (usages.map (·.form.length)).foldl max 0
  usages.map fun usage =>
    blanks 4 ++ usage.form ++ blanks (width - usage.form.length + 4) ++ usage.purpose

def ofInquiry (inquiry : Inquiry) : Usage where
  form := "-" ++ inquiry.letter.toString ++ ", --" ++ String.ofList inquiry.longName
  purpose := match inquiry with
    | .help => "Prints help information"
    | .version => "Prints version information"

/-- How to set a number; a setting without a letter leaves the place for it blank. -/
def ofSetting (setting : Setting) : Usage where
  form :=
    let short := match setting.letter? with
      | some letter => "-" ++ letter.toString ++ ", "
      | none => blanks 4
    let name := String.ofList setting.longName
    short ++ "--" ++ name ++ " <" ++ name ++ ">"
  purpose :=
    let purpose := match setting with
      | .clockSpeed => "Instructions executed per second"
      | .cycles => "Stop after this many instructions and print the screen"
    match setting.default? with
    | some number => purpose ++ " [default: " ++ toString number ++ "]"
    | none => purpose

def ofProgram : Usage := ⟨"<input>", "The program to execute"⟩

end Usage

namespace Inquiry

def versionLine : String := "chyp8 0.1.0"

/-- The manual of a command on which the given settings are known. -/
def manual (command : String) (known : List Setting) : List String :=
  [versionLine, "The program options", "", "USAGE:", "    " ++ command ++ " [OPTIONS] <input>", "",
    "FLAGS:"] ++ Usage.lines (all.map .ofInquiry) ++
  ["", "OPTIONS:"] ++ Usage.lines (known.map .ofSetting) ++
  ["", "ARGS:"] ++ Usage.lines [.ofProgram]

def answer (command : String) (known : List Setting) : Inquiry → List String
  | help => manual command known
  | version => [versionLine]

def text (command : String) (known : List Setting) (inquiry : Inquiry) : String :=
  String.join ((inquiry.answer command known).map (· ++ "\n"))

end Inquiry
end Chip8.CommandLine
