import ModalLexer.Text.Quoted
import ModalLexer.Text.Slice

/-!
What a run tells about itself. Every event has a level; how much is told is a matter of the levels that are
let through.
-/

namespace ModalLexer

open Text (Span quote)

/-- How much an event matters. -/
inductive Level
  | error
  | warning
  | info
  | debug
  | trace
deriving DecidableEq, Repr, Inhabited

namespace Level

/-- The more an event matters, the lower its rank. -/
def rank : Level → Nat
  | error => 1
  | warning => 2
  | info => 3
  | debug => 4
  | trace => 5

def name : Level → String
  | error => "ERROR"
  | warning => "WARN"
  | info => "INFO"
  | debug => "DEBUG"
  | trace => "TRACE"

end Level

/-- Something that happened. -/
inductive Event
  /-- The includes of a state were replaced by rules. -/
  | flattened (state : String) (rules : Nat)
  | built (states declared rules : Nat)
  | loaded (path : String) (states rules : Nat)
  | read (name : String) (bytes : Nat)
  /-- A rule matched while the named state was on top. -/
  | matched (origin : String) (index : Nat) (span : Span) (state : String)
  | unmatched (text : String) (offset : Nat)
  /-- The code of some prompt lines was scanned. -/
  | flushed (start prompts codeBytes tokens : Nat)
  | counted (name : String) (tokens : Nat)
deriving DecidableEq, Repr, Inhabited

namespace Event

def level : Event → Level
  | flattened _ _ => .trace
  | built _ _ _ => .debug
  | loaded _ _ _ => .info
  | read _ _ => .debug
  | matched _ _ _ _ => .trace
  | unmatched _ _ => .trace
  | flushed _ _ _ _ => .debug
  | counted _ _ => .info

def message : Event → String
  | flattened state rules => "flattened state " ++ quote state ++ s!": {rules} rules"
  | built states declared rules =>
    s!"built state table: {states} states, {declared} declared rules, {rules} flattened rules"
  | loaded path states rules => "loaded " ++ quote path ++ s!": {states} states, {rules} rules"
  | read name bytes => s!"read {bytes} bytes from " ++ quote name
  | matched origin index span state =>
    s!"MATCHED: {origin}[{index}] at {span.start}..{span.stop} in state " ++ quote state
  | unmatched text offset => "UNMATCHED: " ++ quote text ++ s!" at {offset}"
  | flushed start prompts codeBytes tokens =>
    s!"flushed session region at {start}: {prompts} prompts, {codeBytes} code bytes, {tokens} tokens"
  | counted name tokens => s!"{name}: {tokens} tokens"

/-- The line that tells of an event. -/
def line (e : Event) : String :=
  e.level.name ++ " " ++ e.message ++ "\n"

end Event

/-- The lines of the events up to a rank. -/
def logLines (limit : Nat) (events : List Event) : String :=
  String.join ((events.filter fun e => e.level.rank ≤ limit).map Event.line)

end ModalLexer
