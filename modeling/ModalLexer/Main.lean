import ModalLexer.Command.Log

/-!
The command line over the files of the system.
-/

namespace ModalLexer.Command

/-- The fault that an error of the system reports; some calls negate its number. -/
def faultOf : IO.Error → FileFault
  | .noFileOrDirectory _ _ _ => .missing
  | .permissionDenied _ _ _ => .denied
  | .inappropriateType _ code _ => if code = 20 ∨ code = -20 then .notADirectory else .isADirectory
  | .invalidArgument _ code details =>
    if code = 36 ∨ code = -36 then .nameTooLong else .other details
  | e => .other (toString e)

def readPath (path : String) : IO (Except FileFault ByteArray) := do
  try
    return .ok (← IO.FS.readBinFile path)
  catch e =>
    return .error (faultOf e)

/-- Makes the file, or empties it. -/
def createPath (path : String) : IO (Except FileFault Unit) := do
  try
    IO.FS.writeBinFile path ByteArray.empty
    return .ok ()
  catch e =>
    return .error (faultOf e)

/-- Reads all that a run may ask for. -/
def gather (i : Invocation) : IO Surroundings := do
  let names := if i.subcommand = .tokens then i.inputNames else []
  let paths := i.table :: names.filter (· != standardName)
  let files ← paths.mapM fun path => return (path, ← readPath path)
  let stdin ← if names.contains standardName then (← IO.getStdin).readBinToEnd else pure ByteArray.empty
  return {
    read := fun path => (files.lookup path).getD (.error .missing)
    create := fun _ => .ok ()
    stdin }

/-- Runs an invocation; the file for the output is made when there is something to be written. -/
def runFiles (i : Invocation) : IO Exit := do
  let s ← gather i
  let printed := work i s
  let created ← match printed, i.target? with
    | .ok _, some path => createPath path
    | _, _ => pure (.ok ())
  let s := { s with create := fun _ => created }
  return (deliver i s.create printed).exit (log i s)

def finish (e : Exit) : IO UInt32 := do
  if let some (path, text) := e.written then IO.FS.writeFile path text
  IO.print e.stdout
  IO.eprint e.stderr
  return e.code.toUInt32

end ModalLexer.Command

open ModalLexer.Command in
def main (arguments : List String) : IO UInt32 := do
  match parseArguments arguments with
  | .error f => finish f.exit
  | .ok .help => finish { code := 0, stdout := usage }
  | .ok (.run i) => finish (← runFiles i)
