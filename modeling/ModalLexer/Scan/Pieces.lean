import ModalLexer.Text.Slice

/-!
How the groups of a match divide it. Groups are taken from left to right; what no group takes is a gap.
-/

namespace ModalLexer

open Text (Span)

/-- A piece of a match. -/
inductive Piece
  | gap (span : Span)
  /-- The text of group `index + 1`. -/
  | group (index : Nat) (span : Span)
deriving DecidableEq, Repr, Inhabited

namespace Piece

def span : Piece → Span
  | gap s => s
  | group _ s => s

/-- A gap, unless it is empty. -/
def gapUpTo (start stop : Nat) : List Piece :=
  if start < stop then [gap ⟨start, stop⟩] else []

/-- The pieces of a match from `pos` to `stop`. A group is left out when it did not take part, emits
nothing, is empty, starts before `pos` or ends after the match. -/
def planFrom (stop : Nat) (emits : Nat → Bool) : (index pos : Nat) → List (Option Span) → List Piece
  | _, pos, [] => gapUpTo pos stop
  | index, pos, none :: gs => planFrom stop emits (index + 1) pos gs
  | index, pos, some g :: gs =>
    if emits index && !g.isEmpty && pos ≤ g.start && g.stop ≤ stop then
      gapUpTo pos g.start ++ group index g :: planFrom stop emits (index + 1) g.stop gs
    else
      planFrom stop emits (index + 1) pos gs

/-- The pieces of a match. The first of the groups is the whole match and is not a piece. -/
def plan (span : Span) (groups : List (Option Span)) (emits : Nat → Bool) : List Piece :=
  planFrom span.stop emits 0 span.start (groups.drop 1)

end Piece

end ModalLexer
