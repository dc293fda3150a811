import ModalLexer.Error
import ModalLexer.Token

/-!
Merging literal tokens into the tokens of a buffer. The buffer is a text with pieces taken out; putting the
pieces back splits the tokens around them, and every token gets its offset in the whole text.
-/

namespace ModalLexer

open Text (addOffset? slice?)

/-- Literal tokens that belong before an offset of the buffer. -/
structure Insertion where
  index : Nat
  tokens : List Token
deriving DecidableEq, Repr, Inhabited

namespace Session

/-- What a merge puts out next. -/
inductive Move
  | piece (kind : Kind) (text : String)
  /-- A cut falls inside a character. -/
  | brokenCut
  /-- The end of a token is no offset. -/
  | overflow
deriving DecidableEq, Repr, Inhabited

/-- The part of a token's text between two offsets of it, unless it is empty. -/
def tokenPart (t : Token) (start stop : Nat) : List Move :=
  match slice? t.text start stop with
  | none => [.brokenCut]
  | some text => if text.isEmpty then [] else [.piece t.kind text]

def literalMoves (i : Insertion) : List Move :=
  i.tokens.map fun t => .piece t.kind t.text

/-- Puts out a token of the buffer from `split` on, with the insertions up to its end; returns those that
come later. An insertion outside the rest of the token is moved to the nearer end of it. -/
def cutToken (t : Token) : (split : Nat) → List Insertion → List Move × List Insertion
  | split, [] => (tokenPart t split t.length, [])
  | split, i :: rest =>
    match t.stop? with
    | none => ([.overflow], [])
    | some stop =>
      if i.index ≤ stop then
        let cut := min (max (i.index - t.offset) split) t.length
        let (moves, later) := cutToken t cut rest
        (tokenPart t split cut ++ literalMoves i ++ moves, later)
      else
        (tokenPart t split t.length, i :: rest)

/-- All that a merge puts out, in order. -/
def mergeMoves : List Token → List Insertion → List Move
  | [], is => is.flatMap literalMoves
  | t :: ts, is =>
    let (moves, later) := cutToken t 0 is
    moves ++ mergeMoves ts later

/-- Gives each piece its place in the source, where it has to stand. -/
def place (source : String) : (pos : Nat) → List Move → Except Error (List Token)
  | _, [] => .ok []
  | pos, .piece kind text :: rest =>
    match addOffset? pos text.utf8ByteSize with
    | none => .error .offsetOverflow
    | some stop =>
      if slice? source pos stop = some text then do
        return ⟨pos, kind, text⟩ :: (← place source stop rest)
      else
        .error (.misaligned pos)
  | pos, .brokenCut :: _ => .error (.misaligned pos)
  | _, .overflow :: _ => .error .offsetOverflow

/-- Merges insertions into the tokens of a buffer; the result starts at an offset of the source. -/
def merge (source : String) (start : Nat) (insertions : List Insertion) (nested : List Token) :
    Except Error (List Token) :=
  place source start (mergeMoves nested insertions)

/-! ## Cuts in range -/

/-- The number of a range that is nearest to a number. The range has to be one: its ends may not be swapped. -/
def clamp? (n lo hi : Nat) : Option Nat :=
  if lo ≤ hi then some (min (max n lo) hi) else none

def cutToken? (t : Token) : (split : Nat) → List Insertion → Option (List Move × List Insertion)
  | split, [] => some (tokenPart t split t.length, [])
  | split, i :: rest =>
    match t.stop? with
    | none => some ([.overflow], [])
    | some stop =>
      if i.index ≤ stop then do
        let cut ← clamp? (i.index - t.offset) split t.length
        let (moves, later) ← cutToken? t cut rest
        return (tokenPart t split cut ++ literalMoves i ++ moves, later)
      else
        some (tokenPart t split t.length, i :: rest)

def mergeMoves? : List Token → List Insertion → Option (List Move)
  | [], is => some (is.flatMap literalMoves)
  | t :: ts, is => do
    let (moves, later) ← cutToken? t 0 is
    return moves ++ (← mergeMoves? ts later)

/-- A merge that looks at the ends of every range that it moves a cut into. -/
def merge? (source : String) (start : Nat) (insertions : List Insertion) (nested : List Token) :
    Option (Except Error (List Token)) :=
  (mergeMoves? nested insertions).map (place source start)

end Session

end ModalLexer
