import ModalLexer.Scan.Memo
import ModalLexer.Scan.Pieces
import ModalLexer.Scan.Stack
import ModalLexer.Token

/-!
One step of a scan: the rules of the top state are tried at the cursor in order, and the first that matches
decides. Where none does, one character becomes a token of its own. A group may be scanned by itself with
the same table; how deep such scans nest is bounded.
-/

namespace ModalLexer

open Text (Span slice slice? charAt?)

/-- Where a scan stands. -/
structure Scan where
  cursor : Nat := 0
  stack : StateStack
  memo : Memo := {}
  /-- Empty matches since the cursor last moved. -/
  zeroWidth : Nat := 0
deriving DecidableEq, Repr, Inhabited

/-- The scan behind a match, with the stack moved as its rule says. -/
def Scan.follow (s : Scan) (r : CompiledRule) (m : RuleMatch) : Scan :=
  { s with cursor := m.span.stop, stack := s.stack.apply r.transition }

/-- What a step leaves behind: where the scan stands then, the tokens that it queued, and the error that broke it
off if one did. -/
structure Stepped where
  scan : Scan
  queued : List Token := []
  error : Option Error := none
deriving DecidableEq, Repr, Inhabited

/-- What a text becomes: tokens, and the error that broke them off if one did. The tokens before it are there too. -/
structure Emitted where
  tokens : List Token := []
  error : Option Error := none
deriving DecidableEq, Repr, Inhabited

/-- The tokens moved to the right. -/
def Emitted.shift (out : Emitted) (base : Nat) : Emitted :=
  { out with tokens := out.tokens.map (·.shift base) }

/-- The tokens, if there was no error. -/
def Emitted.result (out : Emitted) : Except Error (List Token) :=
  match out.error with
  | some e => .error e
  | none => .ok out.tokens

/-- The scan of a piece of text from a state, on its own. -/
abbrev GroupLexer := String → StateId → Emitted

namespace Table

/-! ## Choosing a rule -/

/-- The first rule that matches at an offset, and its match. -/
def choose (text : String) (pos : Nat) : List CompiledRule → Memo →
    Except Error (Option (CompiledRule × RuleMatch)) × Memo
  | [], memo => (.ok none, memo)
  | r :: rs, memo =>
    match memo.mayMatch r text pos with
    | (.error e, memo) => (.error e, memo)
    | (.ok false, memo) => choose text pos rs memo
    | (.ok true, memo) =>
      match r.matchAt text pos with
      | .error e => (.error e, memo)
      | .ok (some m) => (.ok (some (r, m)), memo)
      | .ok none => choose text pos rs memo

/-! ## Tokens of a match -/

/-- The tokens of one piece of a match. -/
def pieceTokens (t : Table) (text : String) (lexGroup : GroupLexer)
    (actions : List (GroupAction StateId)) : Piece → Emitted
  | .gap span => { tokens := [⟨span.start, t.options.textKind, slice text span⟩] }
  | .group i span =>
    match actions[i]? with
    | some (.kind k) => { tokens := [⟨span.start, k, slice text span⟩] }
    | some (.lex state) => (lexGroup (slice text span) state).shift span.start
    | _ => { tokens := [⟨span.start, t.options.textKind, slice text span⟩] }

/-- The tokens of pieces in order, up to the first that fails. -/
def piecesTokens (t : Table) (text : String) (lexGroup : GroupLexer)
    (actions : List (GroupAction StateId)) : List Piece → Emitted
  | [] => {}
  | p :: ps =>
    match t.pieceTokens text lexGroup actions p with
    | ⟨tokens, some e⟩ => ⟨tokens, some e⟩
    | ⟨tokens, none⟩ =>
      let rest := t.piecesTokens text lexGroup actions ps
      { rest with tokens := tokens ++ rest.tokens }

/-- Does an action become tokens? -/
def actionEmits (actions : List (GroupAction StateId)) (i : Nat) : Bool :=
  match actions[i]? with
  | some a => a.emits
  | none => false

/-- The tokens of a match that is not empty. -/
def matchTokens (t : Table) (text : String) (lexGroup : GroupLexer) (r : CompiledRule) (m : RuleMatch)
    (cursor : Nat) : Emitted :=
  match r.emission with
  | .token k => { tokens := [⟨m.span.start, k, slice text m.span⟩] }
  | .byGroups actions =>
    t.piecesTokens text lexGroup actions (Piece.plan m.span (m.groups.getD []) (actionEmits actions))
  | .nothing => { error := some (.droppedText r.origin r.index cursor) }

/-! ## Steps -/

/-- What a match does. An empty one has to move the stack, and not too many of them follow one another. The text of
any other becomes tokens. They are queued once all of them are there; if an error breaks them off, those before it are
dropped. The cursor and the stack move last. -/
def accept (t : Table) (text : String) (lexGroup : GroupLexer) (s : Scan) (r : CompiledRule) (m : RuleMatch) :
    Stepped :=
  if m.span.isEmpty then
    if r.transition.isStay then
      { scan := s, error := some (.zeroWidthMatch r.origin r.index s.cursor) }
    else
      let counted := { s with zeroWidth := s.zeroWidth + 1 }
      if t.options.maxZeroWidth < counted.zeroWidth then
        { scan := counted, error := some (.zeroWidthLoop (t.name s.stack.top) s.cursor t.options.maxZeroWidth) }
      else { scan := counted.follow r m }
  else
    let counted := { s with zeroWidth := 0 }
    match t.matchTokens text lexGroup r m s.cursor with
    | ⟨_, some e⟩ => { scan := counted, error := some e }
    | ⟨tokens, none⟩ => { scan := counted.follow r m, queued := tokens }

/-- The character at the cursor, as text. -/
def charText (text : String) (pos : Nat) : String :=
  match charAt? text pos with
  | some c => c.toString
  | none => ""

/-- The step over one character that no rule matches. A line feed is plain text, and resets the stack if the
table says so. -/
def fallback (t : Table) (text : String) (s : Scan) : Stepped :=
  let piece := charText text s.cursor
  let next := { s with cursor := s.cursor + piece.utf8ByteSize, zeroWidth := 0 }
  if piece = "\n" then
    { scan := if t.options.resetOnNewline then { next with stack := s.stack.reset } else next
      queued := [⟨s.cursor, t.options.textKind, piece⟩] }
  else
    { scan := next, queued := [⟨s.cursor, t.options.errorKind, piece⟩] }

/-- One step. The searches that were run for it are remembered, whether it succeeds or not. -/
def step (t : Table) (text : String) (lexGroup : GroupLexer) (s : Scan) : Stepped :=
  match choose text s.cursor (t.rulesOf s.stack.top) s.memo with
  | (.error e, memo) => { scan := { s with memo }, error := some e }
  | (.ok (some (r, m)), memo) => t.accept text lexGroup { s with memo } r m
  | (.ok none, memo) => t.fallback text { s with memo }

/-! ## Whole scans -/

/-- The tokens of a scan, the error that ended it if one did, and where it stands. -/
structure Scanned where
  tokens : List Token
  error : Option Error
  final : Scan
deriving Inhabited

/-- Steps to the end of the text or to an error, with the tokens so far newest first. -/
def runFrom (t : Table) (text : String) (lexGroup : GroupLexer) : (fuel : Nat) → Scan → List Token → Scanned
  | 0, s, done => ⟨done.reverse, none, s⟩
  | fuel + 1, s, done =>
    if text.utf8ByteSize ≤ s.cursor then ⟨done.reverse, none, s⟩
    else match t.step text lexGroup s with
      | ⟨s, _, some e⟩ => ⟨done.reverse, some e, s⟩
      | ⟨s, tokens, none⟩ => runFrom t text lexGroup fuel s (tokens.reverse ++ done)

/-- The number of steps that a scan of the text can take: at each offset the bounded number of empty matches
and one step more. -/
def stepBound (t : Table) (text : String) : Nat :=
  (t.options.maxZeroWidth + 1) * text.utf8ByteSize

/-- Runs a scan to its end. -/
def run (t : Table) (text : String) (lexGroup : GroupLexer) (s : Scan) : Scanned :=
  t.runFrom text lexGroup (t.stepBound text + 1) s []

/-- What the text of a scan has become. -/
def Scanned.emitted (s : Scanned) : Emitted :=
  ⟨s.tokens, s.error⟩

/-- The scan of a group, with so many levels left for groups inside it. -/
def lexGroup (t : Table) : (levels : Nat) → GroupLexer
  | 0, _, _ => { error := some (.nestingTooDeep t.options.maxNesting) }
  | levels + 1, text, state =>
    (t.run text (t.lexGroup levels) { stack := ⟨t.root, [state]⟩ }).emitted

/-- The scan of groups in a scan of a whole text. -/
def lexOuterGroup (t : Table) : GroupLexer :=
  t.lexGroup t.options.maxNesting

/-- The stack with the named states above the root, the last one on top. -/
def initialStack (t : Table) (names : List String) : Except Error StateStack := do
  let ids ← names.mapM fun name =>
    match t.stateId? name with
    | some id => pure id
    | none => throw (Error.undefinedState name "<initial stack>")
  return ⟨t.root, ids.reverse⟩

/-- Scans a text from a stack. -/
def scanFrom (t : Table) (text : String) (stack : StateStack) : Scanned :=
  t.run text t.lexOuterGroup { stack }

/-- The tokens of a text. -/
def tokenize (t : Table) (text : String) : Except Error (List Token) :=
  (t.scanFrom text ⟨t.root, []⟩).emitted.result

end Table

end ModalLexer
