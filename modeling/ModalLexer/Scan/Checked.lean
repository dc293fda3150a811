import ModalLexer.Scan.Step

/-!
The scan in which everything that could be out of range is looked at: the states of the stack, the actions of groups,
slices of the text, and sums of offsets. It has no result, not even an error, once something is.
-/

namespace ModalLexer

open Text

/-- A computation that has no result, not even an error, once something is out of range. -/
abbrev Checked := ExceptT Error Option

/-- What is there if it is in range. -/
def inRange (o : Option α) : Checked α :=
  liftM o

namespace Table

/-- The scan of a group that lies at some offset. -/
abbrev CheckedLexer := String → StateId → (base : Nat) → Checked (List Token)

def pieceTokens? (t : Table) (text : String) (lexGroup : CheckedLexer) (actions : List (GroupAction StateId)) :
    Piece → Checked (List Token)
  | .gap span => do
    let piece ← inRange (slice? text span.start span.stop)
    return [⟨span.start, t.options.textKind, piece⟩]
  | .group i span => do
    let action ← inRange actions[i]?
    let piece ← inRange (slice? text span.start span.stop)
    match action with
    | .kind k => return [⟨span.start, k, piece⟩]
    | .text | .skip => return [⟨span.start, t.options.textKind, piece⟩]
    | .lex state => lexGroup piece state span.start

def piecesTokens? (t : Table) (text : String) (lexGroup : CheckedLexer) (actions : List (GroupAction StateId)) :
    List Piece → Checked (List Token)
  | [] => return []
  | p :: ps => do
    let first ← t.pieceTokens? text lexGroup actions p
    let rest ← t.piecesTokens? text lexGroup actions ps
    return first ++ rest

def matchTokens? (t : Table) (text : String) (lexGroup : CheckedLexer) (r : CompiledRule) (m : RuleMatch)
    (cursor : Nat) : Checked (List Token) :=
  match r.emission with
  | .token k => do
    let piece ← inRange (slice? text m.span.start m.span.stop)
    return [⟨m.span.start, k, piece⟩]
  | .byGroups actions =>
    t.piecesTokens? text lexGroup actions (Piece.plan m.span (m.groups.getD []) (actionEmits actions))
  | .nothing => throw (.droppedText r.origin r.index cursor)

/-- The count of empty matches goes up before it is compared with its bound. The sum is looked at only where the
bound is not itself the last offset: then it does not fit. -/
def increment? (t : Table) (count : Nat) : Option Nat :=
  if t.options.maxZeroWidth + 1 < offsetLimit then addOffset? count 1 else some (count + 1)

def accept? (t : Table) (text : String) (lexGroup : CheckedLexer) (s : Scan) (r : CompiledRule) (m : RuleMatch) :
    Option Stepped :=
  if m.span.isEmpty then
    if r.transition.isStay then
      some { scan := s, error := some (.zeroWidthMatch r.origin r.index s.cursor) }
    else do
      let zeroWidth ← t.increment? s.zeroWidth
      let counted := { s with zeroWidth }
      if t.options.maxZeroWidth < zeroWidth then
        let name ← t.name? s.stack.top
        return { scan := counted, error := some (.zeroWidthLoop name s.cursor t.options.maxZeroWidth) }
      else return { scan := counted.follow r m }
  else do
    let counted := { s with zeroWidth := 0 }
    match ← (t.matchTokens? text lexGroup r m s.cursor).run with
    | .error e => return { scan := counted, error := some e }
    | .ok tokens => return { scan := counted.follow r m, queued := tokens }

def fallback? (t : Table) (text : String) (s : Scan) : Option Stepped := do
  let rest ← slice? text s.cursor text.utf8ByteSize
  let stop ← addOffset? s.cursor (firstWidth rest)
  let piece ← slice? text s.cursor stop
  let next := { s with cursor := stop, zeroWidth := 0 }
  if piece = "\n" then
    return {
      scan := if t.options.resetOnNewline then { next with stack := s.stack.reset } else next
      queued := [⟨s.cursor, t.options.textKind, piece⟩] }
  else
    return { scan := next, queued := [⟨s.cursor, t.options.errorKind, piece⟩] }

def step? (t : Table) (text : String) (lexGroup : CheckedLexer) (s : Scan) : Option Stepped := do
  let rules ← t.rules? s.stack.top
  -- Every step that is taken is told with the name of the state.
  let _ ← t.name? s.stack.top
  match choose text s.cursor rules s.memo with
  | (.error e, memo) => return { scan := { s with memo }, error := some e }
  | (.ok (some (r, m)), memo) => t.accept? text lexGroup { s with memo } r m
  | (.ok none, memo) => t.fallback? text { s with memo }

def runFrom? (t : Table) (text : String) (lexGroup : CheckedLexer) :
    (fuel : Nat) → Scan → List Token → Option Scanned
  | 0, s, done => some ⟨done.reverse, none, s⟩
  | fuel + 1, s, done =>
    if text.utf8ByteSize ≤ s.cursor then some ⟨done.reverse, none, s⟩
    else match t.step? text lexGroup s with
      | none => none
      | some ⟨s, _, some e⟩ => some ⟨done.reverse, some e, s⟩
      | some ⟨s, tokens, none⟩ => runFrom? t text lexGroup fuel s (tokens.reverse ++ done)

def run? (t : Table) (text : String) (lexGroup : CheckedLexer) (s : Scan) : Option Scanned :=
  t.runFrom? text lexGroup (t.stepBound text + 1) s []

/-- The scan of a group inside so many others. Its tokens are moved as they come, those before an error too. -/
def lexGroup? (t : Table) : (levels nesting : Nat) → CheckedLexer
  | levels, nesting, text, state, base =>
    if t.options.maxNesting ≤ nesting then throw (.nestingTooDeep t.options.maxNesting)
    else match levels with
      | 0 => inRange none
      | levels + 1 => do
        let inner ← inRange (addOffset? nesting 1)
        let scanned ← inRange (t.run? text (t.lexGroup? levels inner) { stack := ⟨t.root, [state]⟩ })
        let tokens ← inRange (scanned.tokens.mapM (·.shift? base))
        match scanned.error with
        | some e => throw e
        | none => return tokens

/-- A whole scan. -/
def scanFrom? (t : Table) (text : String) (stack : StateStack) : Option Scanned :=
  t.run? text (t.lexGroup? t.options.maxNesting 0) { stack }

end Table

end ModalLexer
