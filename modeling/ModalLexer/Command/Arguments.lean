import ModalLexer.Text.Quoted

/-!
The arguments of the command line. An option is written `--name value` or `--name=value`; letters of flags
may be joined behind one hyphen; after `--` everything is a file.
-/

namespace ModalLexer.Command

inductive Subcommand
  | tokens
  | check
deriving DecidableEq, Repr, Inhabited

def Subcommand.ofName? : String → Option Subcommand
  | "tokens" => some .tokens
  | "check" => some .check
  | _ => none

/-- What can be set on the command line. -/
inductive Setting
  | table
  | root
  | output
  | prompt
  | session
  | quiet
  | verbose
  /-- Dates the events; their text is the same. -/
  | timestamps
  | help
deriving DecidableEq, Repr, Inhabited

namespace Setting

def all : List Setting :=
  [table, root, output, prompt, session, quiet, verbose, timestamps, help]

def name : Setting → String
  | table => "table"
  | root => "root"
  | output => "output"
  | prompt => "prompt"
  | session => "session"
  | quiet => "quiet"
  | verbose => "verbose"
  | timestamps => "ts"
  | help => "help"

def letter? : Setting → Option Char
  | quiet => some 'q'
  | verbose => some 'v'
  | help => some 'h'
  | _ => none

def takesValue : Setting → Bool
  | table => true
  | root => true
  | output => true
  | prompt => true
  | _ => false

/-- Transcripts concern scans alone. -/
def belongsTo : Setting → Subcommand → Bool
  | prompt, .check => false
  | session, .check => false
  | _, _ => true

def ofName? (c : Subcommand) (name : String) : Option Setting :=
  all.find? fun s => s.belongsTo c && s.name == name

def ofLetter? (c : Subcommand) (letter : Char) : Option Setting :=
  all.find? fun s => s.belongsTo c && s.letter? == some letter

end Setting

/-- Why arguments are refused. -/
inductive UsageFault
  | missingSubcommand
  | unknownSubcommand (name : String)
  | unexpected (argument : String)
  | unexpectedValue (setting : Setting)
  | missingValue (setting : Setting)
  | repeated (setting : Setting)
  | missing (setting : Setting)
deriving DecidableEq, Repr, Inhabited

def UsageFault.message : UsageFault → String
  | missingSubcommand => "a subcommand is needed: tokens or check"
  | unknownSubcommand n => "unknown subcommand " ++ Text.quote n
  | unexpected a => "unexpected argument " ++ Text.quote a
  | unexpectedValue s => "--" ++ s.name ++ " takes no value"
  | missingValue s => "--" ++ s.name ++ " needs a value"
  | repeated s => "--" ++ s.name ++ " is given more than once"
  | missing s => "--" ++ s.name ++ " is needed"

/-- One argument, with its value if it takes one. -/
inductive Argument
  | flag (s : Setting)
  | value (s : Setting) (v : String)
  | file (name : String)
deriving DecidableEq, Repr, Inhabited

/-! ## Reading -/

/-- Arguments that begin with a hyphen are settings, a hyphen alone is not. -/
def isValue (argument : String) : Bool :=
  argument = "-" || argument.toList.head? != some '-'

/-- The name before the first equals sign, and the value after it. -/
def splitValue (body : List Char) : String × Option String :=
  let name := String.ofList (body.takeWhile (· != '='))
  match body.dropWhile (· != '=') with
  | [] => (name, none)
  | _ :: value => (name, some (String.ofList value))

/-- The flags of letters behind one hyphen. -/
def readLetters (c : Subcommand) : List Char → Except UsageFault (List Argument)
  | [] => .ok []
  | letter :: rest =>
    match Setting.ofLetter? c letter with
    | none => .error (.unexpected (String.ofList ['-', letter]))
    | some .help => .ok [.flag .help]
    | some s => do return .flag s :: (← readLetters c rest)

/-- A name of a file, where files are taken. -/
def fileArgument (c : Subcommand) (name : String) : Except UsageFault Argument :=
  match c with
  | .tokens => .ok (.file name)
  | .check => .error (.unexpected name)

/-- Reads arguments in order; the result ends where help is asked for. -/
def readArguments (c : Subcommand) : List String → Except UsageFault (List Argument)
  | [] => .ok []
  | a :: rest =>
    match a.toList with
    | ['-', '-'] => rest.mapM (fileArgument c)
    | '-' :: '-' :: body =>
      let (name, value) := splitValue body
      match Setting.ofName? c name with
      | none => .error (.unexpected a)
      | some s =>
        match value, s.takesValue, rest with
        | some v, true, rest => do return .value s v :: (← readArguments c rest)
        | some _, false, _ => .error (.unexpectedValue s)
        | none, false, rest =>
          if s = .help then .ok [.flag .help] else do return .flag s :: (← readArguments c rest)
        | none, true, [] => .error (.missingValue s)
        | none, true, v :: rest =>
          if isValue v then do return .value s v :: (← readArguments c rest) else .error (.missingValue s)
    | '-' :: letter :: letters => do
      let flags ← readLetters c (letter :: letters)
      if flags.contains (.flag .help) then return flags else return flags ++ (← readArguments c rest)
    | _ => do
      let file ← fileArgument c a
      return file :: (← readArguments c rest)

/-! ## Meaning -/

/-- What a command line asks for. -/
structure Invocation where
  subcommand : Subcommand
  table : String
  root : Option String := none
  output : Option String := none
  session : Bool := false
  prompt : Option String := none
  files : List String := []
  quiet : Bool := false
  verbose : Nat := 0
deriving DecidableEq, Repr, Inhabited

/-- The settings of some arguments, in order. -/
def settings (arguments : List Argument) : List Setting :=
  arguments.filterMap fun
    | .flag s => some s
    | .value s _ => some s
    | .file _ => none

/-- The first setting that stands a second time although it may not. -/
def repeated? : (seen : List Setting) → List Setting → Option Setting
  | _, [] => none
  | seen, s :: rest =>
    if seen.contains s && s != .verbose then some s else repeated? (s :: seen) rest

def valueOf? (s : Setting) (arguments : List Argument) : Option String :=
  arguments.findSome? fun
    | .value s' v => if s' = s then some v else none
    | _ => none

def fileNames (arguments : List Argument) : List String :=
  arguments.filterMap fun
    | .file n => some n
    | _ => none

/-- What is asked for: to run, or to be told how. -/
inductive Request
  | run (i : Invocation)
  | help
deriving DecidableEq, Repr, Inhabited

/-- The request of the arguments of a subcommand. -/
def interpret (c : Subcommand) (arguments : List Argument) : Except UsageFault Request :=
  let set := settings arguments
  match repeated? [] set with
  | some s => .error (.repeated s)
  | none =>
    if set.contains .help then .ok .help
    else match valueOf? .table arguments with
      | none => .error (.missing .table)
      | some table => .ok (.run {
          subcommand := c
          table
          root := valueOf? .root arguments
          output := valueOf? .output arguments
          session := set.contains .session
          prompt := valueOf? .prompt arguments
          files := fileNames arguments
          quiet := set.contains .quiet
          verbose := set.count .verbose })

/-- The request of a command line. -/
def parseArguments : List String → Except UsageFault Request
  | [] => .error .missingSubcommand
  | "-h" :: _ => .ok .help
  | "--help" :: _ => .ok .help
  | ["help"] => .ok .help
  | ["help", name] => if name = "help" || (Subcommand.ofName? name).isSome then .ok .help
    else .error (.unknownSubcommand name)
  | name :: rest =>
    match Subcommand.ofName? name with
    | none => .error (.unknownSubcommand name)
    | some c => do interpret c (← readArguments c rest)

end ModalLexer.Command
