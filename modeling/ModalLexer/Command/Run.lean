import ModalLexer.Command.Arguments
import ModalLexer.Command.Files
import ModalLexer.Document.Build
import ModalLexer.Session.Basic

/-!
What the subcommands do. Everything is read before anything is written; inputs are written in the order of
the arguments, and the first that fails ends the output.
-/

namespace ModalLexer.Command

open Text (quote)

/-- Why a run fails. -/
inductive Failure
  | file (fault : FileFault)
  /-- The table or the prompt is at fault. -/
  | setup (cause : Error)
  | input (name : String) (cause : Error)
  /-- The tokens of an input do not cover it from that offset on. -/
  | uncovered (name : String) (offset : Nat)
deriving DecidableEq, Repr, Inhabited

/-- The failure, as the command line shows it. -/
def Failure.describe : Failure → String
  | file f => f.describe
  | setup e => e.describe
  | input name e => quote (name ++ ": " ++ e.message)
  | uncovered name offset => quote s!"{name}: token stream breaks at byte {offset}"

/-! ## Reading -/

/-- The name of the standard input and output. -/
def standardName : String := "-"

structure Input where
  name : String
  text : String
deriving DecidableEq, Repr, Inhabited

def readText (s : Surroundings) (path : String) : Except Failure String := do
  let bytes ← (s.read path).mapError .file
  (decode bytes).mapError .file

/-- The table as declared, with the root that the command line asks for. -/
def loadDeclaration (i : Invocation) (s : Surroundings) : Except Failure Declaration := do
  let document ← (Document.load (← readText s i.table)).mapError .setup
  let document := { document with root := i.root.getD document.root }
  document.toDeclaration.mapError .setup

def loadTable (i : Invocation) (s : Surroundings) : Except Failure Table := do
  (← loadDeclaration i s).build.mapError .setup

/-- The inputs by name; without any, the standard input is read. -/
def Invocation.inputNames (i : Invocation) : List String :=
  if i.files.isEmpty then [standardName] else i.files

/-- Reads an input; returns what is left of the standard input too. -/
def readInput (s : Surroundings) (stdin : ByteArray) (name : String) : Except Failure (Input × ByteArray) :=
  if name = standardName then do
    return (⟨name, ← (decode stdin).mapError .file⟩, ByteArray.empty)
  else do
    return (⟨name, ← readText s name⟩, stdin)

def readInputs (s : Surroundings) : (stdin : ByteArray) → List String → Except Failure (List Input)
  | _, [] => .ok []
  | stdin, name :: names => do
    let (input, stdin) ← readInput s stdin name
    return input :: (← readInputs s stdin names)

/-! ## Scanning -/

/-- What inputs are taken for: plain texts or transcripts. -/
inductive Lexer
  | plain (table : Table)
  | transcript (session : Session)

def Lexer.tokenize : Lexer → String → Except Error (List Token)
  | plain t => t.tokenize
  | transcript s => s.tokenize

/-- A prompt asks for transcripts too. -/
def Invocation.isSession (i : Invocation) : Bool :=
  i.session || i.prompt.isSome

def Invocation.sessionConfig (i : Invocation) : SessionConfig :=
  match i.prompt with
  | some prompt => { prompt := { text := prompt } }
  | none => {}

def Lexer.ofTable (i : Invocation) (t : Table) : Except Failure Lexer :=
  if i.isSession then ((Session.ofTable t i.sessionConfig).mapError .setup).map .transcript
  else .ok (.plain t)

/-- All that is read before the first token is written. -/
structure Prepared where
  inputs : List Input
  lexer : Lexer

def prepare (i : Invocation) (s : Surroundings) : Except Failure Prepared := do
  let table ← loadTable i s
  let inputs ← readInputs s s.stdin i.inputNames
  return { inputs, lexer := ← Lexer.ofTable i table }

/-! ## Writing -/

/-- A token on a line of its own. -/
def tokenLine (t : Token) : String :=
  s!"{t.offset}\t{t.kind.path}\t" ++ quote t.text ++ "\n"

/-- The lines of an input. -/
def tokenLines (lexer : Lexer) (input : Input) : Except Failure String :=
  match lexer.tokenize input.text with
  | .error e => .error (.input input.name e)
  | .ok tokens =>
    match uncovered? input.text tokens with
    | some offset => .error (.uncovered input.name offset)
    | none => .ok (String.join (tokens.map tokenLine))

/-- The line above the tokens of an input; blank lines divide inputs. -/
def header (first : Bool) (name : String) : String :=
  (if first then "" else "\n") ++ s!"==> {name} <==\n"

/-- A text that was written, and what ended it if it is not complete. -/
structure Printed where
  text : String
  failure : Option Failure := none
deriving DecidableEq, Repr, Inhabited

/-- The sections of inputs up to the first that fails, of which only the header is written. -/
def printSections (lexer : Lexer) (headers : Bool) : (first : Bool) → List Input → Printed
  | _, [] => { text := "" }
  | first, input :: inputs =>
    let head := if headers then header first input.name else ""
    match tokenLines lexer input with
    | .error f => { text := head, failure := some f }
    | .ok body =>
      let rest := printSections lexer headers false inputs
      { rest with text := head ++ body ++ rest.text }

def printTokens (p : Prepared) : Printed :=
  printSections p.lexer (1 < p.inputs.length) true p.inputs

/-- The shape of a table. -/
def printShape (path : String) (t : Table) : Printed :=
  let title := s!"{path}: {t.stateCount} states, {t.ruleCount} rules (root " ++ quote (t.name t.root) ++ ")\n"
  let states := t.names.toList.zip t.rules.toList
  let line (state : String × List CompiledRule) : String := "  " ++ state.1 ++ s!": {state.2.length}\n"
  { text := title ++ String.join (states.map line) }

/-! ## Runs -/

/-- What is to be written, or why nothing is. -/
def work (i : Invocation) (s : Surroundings) : Except Failure Printed :=
  match i.subcommand with
  | .tokens => (prepare i s).map printTokens
  | .check => (loadTable i s).map (printShape i.table)

/-- The file that is written, if it is not the standard output. -/
def Invocation.target? (i : Invocation) : Option String :=
  i.output.filter (· != standardName)

/-- What a run leaves behind. -/
structure Outcome where
  stdout : String := ""
  /-- The file that was made, with its text. -/
  written : Option (String × String) := none
  failure : Option Failure := none
deriving DecidableEq, Repr, Inhabited

/-- Writes what there is to be written; the file is made only then. -/
def deliver (i : Invocation) (create : String → Except FileFault Unit) : Except Failure Printed → Outcome
  | .error f => { failure := some f }
  | .ok printed =>
    match i.target? with
    | none => { stdout := printed.text, failure := printed.failure }
    | some path =>
      match create path with
      | .error f => { failure := some (.file f) }
      | .ok () => { written := some (path, printed.text), failure := printed.failure }

def run (i : Invocation) (s : Surroundings) : Outcome :=
  deliver i s.create (work i s)

def Outcome.code (o : Outcome) : Nat :=
  if o.failure.isSome then 1 else 0

/-- The line that reports the failure. -/
def Outcome.report (o : Outcome) : String :=
  match o.failure with
  | some f => "Error: " ++ f.describe ++ "\n"
  | none => ""

end ModalLexer.Command
