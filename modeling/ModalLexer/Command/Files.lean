import ModalLexer.Text.Quoted

/-!
Files as a command sees them, and a directory of files that is held as a value.
-/

namespace ModalLexer.Command

/-- Why a file cannot be read or made. -/
inductive FileFault
  | missing
  | denied
  | notADirectory
  | isADirectory
  | nameTooLong
  | notText
  | other (message : String)
deriving DecidableEq, Repr, Inhabited

namespace FileFault

/-- A fault that the system reports by number. -/
def systemFault (code : Nat) (kind message : String) : String :=
  s!"Os \x7b code: {code}, kind: {kind}, message: " ++ Text.quote message ++ " \x7d"

/-- The fault, as the command line shows it. -/
def describe : FileFault → String
  | missing => systemFault 2 "NotFound" "No such file or directory"
  | denied => systemFault 13 "PermissionDenied" "Permission denied"
  | notADirectory => systemFault 20 "NotADirectory" "Not a directory"
  | isADirectory => systemFault 21 "IsADirectory" "Is a directory"
  | nameTooLong => systemFault 36 "InvalidFilename" "File name too long"
  | notText =>
    "Error \x7b kind: InvalidData, message: " ++ Text.quote "stream did not contain valid UTF-8" ++ " \x7d"
  | other message => Text.quote message

end FileFault

/-- All that a command can reach: files to read and to make, and the standard input. -/
structure Surroundings where
  read : String → Except FileFault ByteArray
  create : String → Except FileFault Unit
  stdin : ByteArray := ByteArray.empty

/-- The text of some bytes. -/
def decode (bytes : ByteArray) : Except FileFault String :=
  match String.fromUTF8? bytes with
  | some text => .ok text
  | none => .error .notText

/-! ## A directory as a value -/

/-- A place, by the steps to it from the working directory. Steps up come first, and a slash in front starts
at the root of the system. -/
abbrev Steps := List String

/-- The steps that a path names; empty ones do not count. -/
def stepsOf (path : String) : Steps :=
  (path.splitOn "/").filter (· != "")

/-- The place above. -/
def Steps.up (steps : Steps) : Steps :=
  match steps.getLast? with
  | none => [".."]
  | some ".." => steps ++ [".."]
  | some "/" => steps
  | some _ => steps.dropLast

/-- The files that can be reached. -/
abbrev Directory := List (Steps × ByteArray)

/-- What stands at a place. -/
inductive Place
  | file (content : ByteArray)
  | directory
  | nothing

/-- Directories that every system has. -/
def systemDirectories : List Steps :=
  [["/"], ["/", "dev"], ["/", "etc"], ["/", "tmp"], ["/", "usr"], ["/", "var"]]

/-- The file that is always empty. -/
def nullFile : Steps := ["/", "dev", "null"]

/-- The greatest length of a step, in bytes. -/
def maxStep : Nat := 255

/-- The greatest length of a path, in bytes. -/
def maxPath : Nat := 4095

namespace Directory

def ofFiles (files : List (String × ByteArray)) : Directory :=
  files.map fun f => (stepsOf f.1, f.2)

/-- What stands at the end of some steps. Nothing but directories is known outside the working directory. -/
def place (d : Directory) (steps : Steps) : Place :=
  match d.find? fun f => f.1 == steps with
  | some f => .file f.2
  | none =>
    if steps.all (· == "..") || systemDirectories.contains steps || d.any fun f => steps.isPrefixOf f.1 then
      .directory
    else if steps == nullFile then .file ByteArray.empty
    else .nothing

/-- Takes one step from a place, which has to be a directory. -/
def step (d : Directory) (steps : Steps) (name : String) : Except FileFault Steps :=
  match d.place steps with
  | .file _ => .error .notADirectory
  | .nothing => .error .missing
  | .directory =>
    if name = "." then .ok steps
    else if name = ".." then .ok steps.up
    else if maxStep < name.utf8ByteSize then .error .nameTooLong
    else .ok (steps ++ [name])

/-- The place that a path stands for. An empty path stands for nothing. -/
def locate (d : Directory) (path : String) : Except FileFault Steps :=
  if path.isEmpty then .error .missing
  else if maxPath < path.utf8ByteSize then .error .nameTooLong
  else (stepsOf path).foldlM d.step (if path.toList.head? == some '/' then ["/"] else [])

/-- A path that ends in a slash can only be a directory. -/
def namesDirectory (path : String) : Bool :=
  path.toList.getLast? == some '/'

def read (d : Directory) (path : String) : Except FileFault ByteArray := do
  match d.place (← d.locate path) with
  | .file content => if namesDirectory path then throw .notADirectory else return content
  | .directory => throw .isADirectory
  | .nothing => throw .missing

/-- Can a file be made there? One that exists is overwritten. -/
def create (d : Directory) (path : String) : Except FileFault Unit := do
  match d.place (← d.locate path) with
  | .directory => throw .isADirectory
  | _ => if namesDirectory path then throw .isADirectory else return ()

/-- The directory after a file has been written. -/
def write (d : Directory) (path : String) (content : ByteArray) : Directory :=
  let steps := (d.locate path).toOption.getD (stepsOf path)
  (steps, content) :: d.filter fun f => f.1 != steps

/-- The directory as surroundings of a command. -/
def surroundings (d : Directory) (stdin : ByteArray) : Surroundings :=
  { read := d.read, create := d.create, stdin }

end Directory

end ModalLexer.Command
