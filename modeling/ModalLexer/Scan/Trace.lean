import ModalLexer.Event
import ModalLexer.Scan.Step

/-!
What is told while a text is scanned: each match and each character that no rule matches, in order. The
matches inside a group come before the match of the group's rule.
-/

namespace ModalLexer.Table

/-- What is told of the scan of a group. -/
abbrev GroupEvents := String → StateId → List Event

/-- What is told of the pieces of a match, up to the first that fails. -/
def piecesEvents (t : Table) (text : String) (lexGroup : GroupLexer) (groupEvents : GroupEvents)
    (actions : List (GroupAction StateId)) : List Piece → List Event
  | [] => []
  | p :: ps =>
    let inner := match p with
      | .gap _ => []
      | .group i span =>
        match actions[i]? with
        | some (.lex state) => groupEvents (Text.slice text span) state
        | _ => []
    match (t.pieceTokens text lexGroup actions p).error with
    | some _ => inner
    | none => inner ++ t.piecesEvents text lexGroup groupEvents actions ps

/-- What is told of the groups of a match. -/
def matchEvents (t : Table) (text : String) (lexGroup : GroupLexer) (groupEvents : GroupEvents)
    (r : CompiledRule) (m : RuleMatch) : List Event :=
  match r.emission with
  | .byGroups actions =>
    if m.span.isEmpty then []
    else
      t.piecesEvents text lexGroup groupEvents actions
        (Piece.plan m.span (m.groups.getD []) (actionEmits actions))
  | _ => []

/-- What is told of one step. -/
def stepEvents (t : Table) (text : String) (lexGroup : GroupLexer) (groupEvents : GroupEvents) (s : Scan) :
    List Event :=
  match choose text s.cursor (t.rulesOf s.stack.top) s.memo with
  | (.error _, _) => []
  | (.ok none, _) =>
    let piece := charText text s.cursor
    if piece = "\n" then [] else [.unmatched piece s.cursor]
  | (.ok (some (r, m)), _) =>
    t.matchEvents text lexGroup groupEvents r m ++
      match (t.accept text lexGroup s r m).error with
      | some _ => []
      | none => [.matched r.origin r.index m.span (t.name s.stack.top)]

/-- What is told of a scan, with the events so far newest first. -/
def runEventsFrom (t : Table) (text : String) (lexGroup : GroupLexer) (groupEvents : GroupEvents) :
    (fuel : Nat) → Scan → List Event → List Event
  | 0, _, told => told.reverse
  | fuel + 1, s, told =>
    if text.utf8ByteSize ≤ s.cursor then told.reverse
    else
      let told := (t.stepEvents text lexGroup groupEvents s).reverse ++ told
      match t.step text lexGroup s with
      | ⟨_, _, some _⟩ => told.reverse
      | ⟨s, _, none⟩ => runEventsFrom t text lexGroup groupEvents fuel s told

/-- What is told of the scan of a group, with so many levels left for groups inside it. -/
def groupEvents (t : Table) : (levels : Nat) → GroupEvents
  | 0, _, _ => []
  | levels + 1, text, state =>
    t.runEventsFrom text (t.lexGroup levels) (t.groupEvents levels) (t.stepBound text + 1)
      { stack := ⟨t.root, [state]⟩ } []

/-- What is told of the scan of a text. -/
def scanEvents (t : Table) (text : String) : List Event :=
  t.runEventsFrom text t.lexOuterGroup (t.groupEvents t.options.maxNesting) (t.stepBound text + 1)
    { stack := ⟨t.root, []⟩ } []

end ModalLexer.Table
