import ModalLexer.Command.Run
import ModalLexer.Session.Trace
import ModalLexer.Table.Trace

/-!
What a run of a subcommand tells, in the order in which it happens.
-/

namespace ModalLexer.Command

def loadEvents (i : Invocation) (s : Surroundings) : List Event :=
  match loadDeclaration i s with
  | .error _ => []
  | .ok d =>
    d.buildEvents ++
      match d.build with
      | .error _ => []
      | .ok t => [.loaded i.table t.stateCount t.ruleCount]

/-- The inputs that are read, up to the first that cannot be. -/
def readEvents (s : Surroundings) : (stdin : ByteArray) → List String → List Event
  | _, [] => []
  | stdin, name :: names =>
    match readInput s stdin name with
    | .error _ => []
    | .ok (input, stdin) => .read name input.text.utf8ByteSize :: readEvents s stdin names

def Lexer.events : Lexer → String → List Event
  | plain t => t.scanEvents
  | transcript s => s.spliceEvents

/-- The inputs that have tokens, up to the first that fails. -/
def countEvents (lexer : Lexer) : List Input → List Event
  | [] => []
  | input :: inputs =>
    match lexer.tokenize input.text with
    | .error _ => []
    | .ok tokens =>
      .counted input.name tokens.length ::
        match tokenLines lexer input with
        | .error _ => []
        | .ok _ => countEvents lexer inputs

/-- Can the output be written? -/
def canDeliver (i : Invocation) (s : Surroundings) : Bool :=
  match i.target? with
  | none => true
  | some path => (s.create path).toBool

/-- What is told of scanning and writing. -/
def scanEvents (i : Invocation) (s : Surroundings) (p : Prepared) : List Event :=
  p.inputs.flatMap (fun input => p.lexer.events input.text) ++
    if canDeliver i s then countEvents p.lexer p.inputs else []

/-- What is told of reading and scanning the inputs. -/
def inputEvents (i : Invocation) (s : Surroundings) : List Event :=
  match loadTable i s with
  | .error _ => []
  | .ok _ =>
    readEvents s s.stdin i.inputNames ++
      match prepare i s with
      | .error _ => []
      | .ok p => scanEvents i s p

/-- All that is told of a run. -/
def events (i : Invocation) (s : Surroundings) : List Event :=
  match i.subcommand with
  | .tokens => loadEvents i s ++ inputEvents i s
  | .check => loadEvents i s

/-- The rank up to which events are told: scans start with warnings, checks with information, and every
request for more adds one. -/
def Invocation.logLimit (i : Invocation) : Nat :=
  if i.quiet then 0
  else match i.subcommand with
    | .tokens => Level.warning.rank + i.verbose
    | .check => Level.info.rank + i.verbose

/-- The log of a run. Every event is at least information, so up to warnings there is none. -/
def log (i : Invocation) (s : Surroundings) : String :=
  if i.logLimit ≤ Level.warning.rank then "" else logLines i.logLimit (events i s)

/-! ## Whole command lines -/

/-- How to call the command. -/
def usage : String :=
  "usage: tokens --table JSON [--root STATE] [--session] [--prompt RE] [--output FILE] [-q] [-v] [--ts] [FILE]...\n" ++
  "       check --table JSON [--root STATE] [--output FILE] [-q] [-v] [--ts]\n"

/-- What the process leaves behind. -/
structure Exit where
  code : Nat
  stdout : String := ""
  stderr : String := ""
  written : Option (String × String) := none
deriving DecidableEq, Repr, Inhabited

/-- The end of a run, with its log. -/
def Outcome.exit (o : Outcome) (log : String) : Exit :=
  { code := o.code, stdout := o.stdout, stderr := log ++ o.report, written := o.written }

/-- Wrong arguments. -/
def UsageFault.exit (f : UsageFault) : Exit :=
  { code := 2, stderr := "error: " ++ f.message ++ "\n" ++ usage }

/-- Runs a command line. -/
def execute (arguments : List String) (s : Surroundings) : Exit :=
  match parseArguments arguments with
  | .error f => f.exit
  | .ok .help => { code := 0, stdout := usage }
  | .ok (.run i) => (run i s).exit (log i s)

end ModalLexer.Command
