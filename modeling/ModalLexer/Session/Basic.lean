import ModalLexer.Scan.Step
import ModalLexer.Session.Merge
import ModalLexer.Text.Lines

/-!
Transcripts of interactive sessions. A line that begins with a prompt carries code, any other line is
output. The code of prompt lines that follow one another is scanned as one text, and the prompts are put
back at their places.
-/

namespace ModalLexer

open Text (Span slice slice? lineSpans)

/-- How transcripts are read. -/
structure SessionConfig where
  /-- Matched at the start of each line. -/
  prompt : Pattern := { text := "\\d+>(?:[ \\t]|\\r?$)" }
  /-- Output that begins with this character is a traceback. -/
  tracebackMarker : Option Char := some '*'
  promptKind : Kind := .prompt
  outputKind : Kind := .output
  tracebackKind : Kind := .traceback
deriving DecidableEq, Repr, Inhabited

/-- The kind of a line without a prompt. -/
def SessionConfig.lineKind (c : SessionConfig) (line : String) : Kind :=
  match c.tracebackMarker with
  | some marker => if line.toList.head? = some marker then c.tracebackKind else c.outputKind
  | none => c.outputKind

/-- A table with the prompt that sets its code apart. -/
structure Session where
  table : Table
  prompt : Matcher
  config : SessionConfig

namespace Session

/-- A session for a table; line anchors of the prompt hold at every line. -/
def ofTable (table : Table) (config : SessionConfig) : Except Error Session := do
  let prompt ← (config.prompt.compile true).mapError fun e => .ofFault e.2 (.badPrompt e.1)
  return { table, prompt, config }

/-- The length of the prompt that a line begins with; an empty one does not count. -/
def promptLength? (s : Session) (line : String) : Except Error (Option Nat) :=
  match s.prompt.find line 0 with
  | .error e => .error (.badPrompt e.dialect)
  | .ok found => .ok ((found.filter fun span => !span.isEmpty).map (·.stop))

/-- Prompt lines that have been read and not yet scanned: where they start, their code, and the prompts by
their places in the code. -/
structure Region where
  start : Nat
  code : String := ""
  prompts : List Insertion := []
deriving DecidableEq, Repr, Inhabited

/-- Adds a prompt line. -/
def Region.add (r : Region) (prompt : Token) (code : String) : Region :=
  { r with
    code := r.code ++ code
    prompts := r.prompts ++ [⟨r.code.utf8ByteSize, [prompt]⟩] }

/-- The tokens of a region. -/
def flush (s : Session) (text : String) : Option Region → Except Error (List Token)
  | none => .ok []
  | some r => do
    let nested ← s.table.tokenize r.code
    merge text r.start r.prompts nested

/-- Reads one line: the tokens that it settles, and the prompt lines that still wait. An error while tokens
are settled leaves none waiting. -/
def readLine (s : Session) (text : String) (region : Option Region) (span : Span) :
    Except Error (List Token) × Option Region :=
  let line := slice text span
  match s.promptLength? line with
  | .error e => (.error e, region)
  | .ok (some n) =>
    let prompt : Token := ⟨span.start, s.config.promptKind, slice line ⟨0, n⟩⟩
    let waiting : Region := region.getD { start := span.start }
    (.ok [], some (waiting.add prompt (slice line ⟨n, line.utf8ByteSize⟩)))
  | .ok none =>
    ((s.flush text region).map (· ++ [⟨span.start, s.config.lineKind line, line⟩]), none)

/-- The tokens of a transcript, and the error that ended it if one did. -/
structure Spliced where
  tokens : List Token
  error : Option Error
deriving DecidableEq, Repr, Inhabited

/-- Reads lines to the end of the transcript, with the tokens so far newest first. -/
def spliceFrom (s : Session) (text : String) : Option Region → List Token → List Span → Spliced
  | region, done, [] =>
    match s.flush text region with
    | .error e => ⟨done.reverse, some e⟩
    | .ok tokens => ⟨done.reverse ++ tokens, none⟩
  | region, done, span :: spans =>
    match s.readLine text region span with
    | (.error e, _) => ⟨done.reverse, some e⟩
    | (.ok tokens, region) => spliceFrom s text region (tokens.reverse ++ done) spans

/-- Reads a transcript. -/
def splice (s : Session) (text : String) : Spliced :=
  s.spliceFrom text none [] (lineSpans text)

/-- The tokens of a transcript. -/
def tokenize (s : Session) (text : String) : Except Error (List Token) :=
  let r := s.splice text
  match r.error with
  | some e => .error e
  | none => .ok r.tokens

/-! ## Item by item -/

/-- A transcript that is being read, with the tokens that have not been handed out. -/
structure Reading where
  lines : List Span
  region : Option Region := none
  pending : List Token := []
  finished : Bool := false
deriving DecidableEq, Repr, Inhabited

def Reading.start (text : String) : Reading :=
  { lines := lineSpans text }

/-- Do prompt lines wait to be scanned? -/
def Reading.isAccumulating (r : Reading) : Bool :=
  r.region.isSome

/-- Reads lines until there is something to hand out. -/
def advance (s : Session) (text : String) (region : Option Region) :
    List Span → Option (Except Error Token) × Reading
  | [] =>
    match s.flush text region with
    | .error e => (some (.error e), { lines := [], finished := true })
    | .ok [] => (none, { lines := [], finished := true })
    | .ok (t :: ts) => (some (.ok t), { lines := [], pending := ts, finished := true })
  | span :: spans =>
    match s.readLine text region span with
    | (.error e, region) => (some (.error e), { lines := spans, region, finished := true })
    | (.ok (t :: ts), region) => (some (.ok t), { lines := spans, region, pending := ts })
    | (.ok [], region) => advance s text region spans

/-- The next item; there is none after the end of the transcript or after an error. -/
def next (s : Session) (text : String) (r : Reading) : Option (Except Error Token) × Reading :=
  match r.pending with
  | t :: ts => (some (.ok t), { r with pending := ts })
  | [] => if r.finished then (none, r) else s.advance text r.region r.lines

end Session

end ModalLexer
