import Chip8.Text.Quoted

namespace Chip8

/-- A program is too large, absent, or unreadable for a reason the system gives. -/
inductive RomError where
  | tooLarge (size limit : Nat)
  | notFound (path : String)
  | unreadable (reason : String)
  deriving DecidableEq, Repr

namespace RomError

def message : RomError → String
  | tooLarge size limit =>
    "ROM is too large (" ++ toString size ++ " bytes), max size is " ++ toString limit ++ " bytes"
  | notFound path => "ROM not found at " ++ Text.quoted path
  | unreadable reason => "could not read ROM: " ++ reason

def inspect : RomError → String
  | tooLarge size limit =>
    "RomTooLarge \x7b size: " ++ toString size ++ ", max: " ++ toString limit ++ " \x7d"
  | notFound path => "RomNotFound(" ++ Text.quoted path ++ ")"
  | unreadable reason => "Io(Custom \x7b kind: Other, error: " ++ Text.quoted reason ++ " \x7d)"

def cause? : RomError → Option String
  | unreadable reason => some reason
  | _ => none

end RomError
end Chip8
