import Chip8.Memory

namespace Chip8

inductive Entry where
  | file (content : Program)
  | directory (entries : List (String × Entry))

/-- The names in a directory; the first of two equal ones counts. -/
abbrev Entries := List (String × Entry)

/-- A directory within a tree: its own entries, then those of the directories above it up to
the root. -/
structure Directory where
  entries : Entries
  above : List Entries

namespace Directory

inductive Refusal where
  | isDirectory
  | notDirectory
  | invalidPath
  | nameTooLong
  deriving DecidableEq, Repr

def Refusal.reason : Refusal → String
  | isDirectory => "Is a directory (os error 21)"
  | notDirectory => "Not a directory (os error 20)"
  | invalidPath => "file name contained an unexpected NUL byte"
  | nameTooLong => "File name too long (os error 36)"

/-- Where a path leads to. -/
inductive Place where
  | file (content : Program)
  | directory (directory : Directory)

def nameLimit : Nat := 255

/-- The least number of bytes that is too many for a path. -/
def pathLimit : Nat := 4096

/-- The directory above; the root is above itself. -/
def parent (directory : Directory) : Directory :=
  match directory.above with
  | [] => directory
  | entries :: above => ⟨entries, above⟩

def root (directory : Directory) : Directory :=
  match directory.above.getLast? with
  | none => directory
  | some entries => ⟨entries, []⟩

def find? (directory : Directory) (name : String) : Option Place :=
  match directory.entries.lookup name with
  | none => none
  | some (.file content) => some (.file content)
  | some (.directory entries) =>
    some (.directory ⟨entries, directory.entries :: directory.above⟩)

def follow (path : String) : Place → List String → Except RomError Place
  | place, [] => .ok place
  | .file _, _ :: _ => .error (.unreadable Refusal.notDirectory.reason)
  | .directory directory, "" :: parts | .directory directory, "." :: parts =>
    follow path (.directory directory) parts
  | .directory directory, ".." :: parts => follow path (.directory directory.parent) parts
  | .directory directory, name :: parts =>
    if nameLimit < name.utf8ByteSize then .error (.unreadable Refusal.nameTooLong.reason)
    else
      match directory.find? name with
      | none => .error (.notFound path)
      | some place => follow path place parts

def read (directory : Directory) (path : String) : Except RomError Program :=
  if path.isEmpty then .error (.notFound path)
  else if path.toList.contains '\x00' then .error (.unreadable Refusal.invalidPath.reason)
  else if pathLimit ≤ path.utf8ByteSize then .error (.unreadable Refusal.nameTooLong.reason)
  else
    let start := if path.startsWith "/" then directory.root else directory
    match follow path (.directory start) (path.splitOn "/") with
    | .error error => .error error
    | .ok (.file content) => .ok content
    | .ok (.directory _) => .error (.unreadable Refusal.isDirectory.reason)

theorem follow_eq_error {path : String} {place : Place} {parts : List String}
    {error : RomError} (failed : follow path place parts = .error error) :
    error = .notFound path ∨ ∃ reason, error = .unreadable reason := by
  fun_induction follow path place parts with
  | case1 => cases failed
  | case2 =>
    cases failed
    exact Or.inr ⟨_, rfl⟩
  | case3 directory parts ih => exact ih failed
  | case4 directory parts ih => exact ih failed
  | case5 directory parts ih => exact ih failed
  | case6 =>
    cases failed
    exact Or.inr ⟨_, rfl⟩
  | case7 =>
    cases failed
    exact Or.inl rfl
  | case8 directory name parts _ _ _ _ place _ ih => exact ih failed

theorem read_eq_error {directory : Directory} {path : String} {error : RomError}
    (failed : directory.read path = .error error) :
    error = .notFound path ∨ ∃ reason, error = .unreadable reason := by
  simp only [read] at failed
  split at failed
  · cases failed
    exact Or.inl rfl
  split at failed
  · cases failed
    exact Or.inr ⟨_, rfl⟩
  split at failed
  · cases failed
    exact Or.inr ⟨_, rfl⟩
  split at failed
  · rename_i followed
    cases failed
    exact follow_eq_error followed
  · cases failed
  · cases failed
    exact Or.inr ⟨_, rfl⟩

end Directory
end Chip8
