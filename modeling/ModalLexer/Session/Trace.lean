import ModalLexer.Scan.Trace
import ModalLexer.Session.Basic

/-!
What is told while a transcript is read: the scan of each region, and the region when its tokens are in place.
-/

namespace ModalLexer.Session

/-- What is told of a region. -/
def flushEvents (s : Session) (text : String) : Option Region → List Event
  | none => []
  | some r =>
    s.table.scanEvents r.code ++
      match s.flush text (some r) with
      | .error _ => []
      | .ok tokens => [.flushed r.start r.prompts.length r.code.utf8ByteSize tokens.length]

/-- What is told of a line. -/
def lineEvents (s : Session) (text : String) (region : Option Region) (span : Text.Span) : List Event :=
  match s.promptLength? (Text.slice text span) with
  | .ok none => s.flushEvents text region
  | _ => []

/-- What is told of the lines from a region on. -/
def spliceEventsFrom (s : Session) (text : String) : Option Region → List Text.Span → List Event
  | region, [] => s.flushEvents text region
  | region, span :: spans =>
    s.lineEvents text region span ++
      match s.readLine text region span with
      | (.error _, _) => []
      | (.ok _, region) => spliceEventsFrom s text region spans

/-- What is told of a transcript. -/
def spliceEvents (s : Session) (text : String) : List Event :=
  s.spliceEventsFrom text none (Text.lineSpans text)

end ModalLexer.Session
