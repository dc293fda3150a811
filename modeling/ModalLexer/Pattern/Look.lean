import ModalLexer.Pattern.Unicode.Lookup
import ModalLexer.Text.Slice

/-!
Assertions about a position: they look at the characters on both sides and consume nothing.
-/

namespace ModalLexer.Pattern

open Text (charAt? charBefore?)

/-- A condition on a position. Line assertions know the line feed only, unless they say otherwise. -/
inductive Look
  | textStart
  | textEnd
  | lineStart
  | lineEnd
  /-- A line also ends with a carriage return, and the pair of both counts once. -/
  | lineStartCR
  | lineEndCR
  | wordBoundary (unicode : Bool)
  | notWordBoundary (unicode : Bool)
  | wordStart (unicode : Bool)
  | wordEnd (unicode : Bool)
  /-- No word character stands before. -/
  | wordStartHalf (unicode : Bool)
  /-- No word character stands after. -/
  | wordEndHalf (unicode : Bool)
deriving DecidableEq, Repr, Inhabited

namespace Look

/-- Is there a word character on that side? -/
def isWordSide (unicode : Bool) : Option Char → Bool
  | none => false
  | some c => if unicode then Unicode.isWord c else Unicode.asciiWord.contains c

/-- The condition in terms of the characters before and after the position. -/
def holdsBetween (before after : Option Char) : Look → Bool
  | textStart => before.isNone
  | textEnd => after.isNone
  | lineStart => before.isNone || before == some '\n'
  | lineEnd => after.isNone || after == some '\n'
  | lineStartCR => before.isNone || before == some '\n' || (before == some '\r' && after != some '\n')
  | lineEndCR => after.isNone || after == some '\r' || (after == some '\n' && before != some '\r')
  | wordBoundary u => isWordSide u before != isWordSide u after
  | notWordBoundary u => isWordSide u before == isWordSide u after
  | wordStart u => !isWordSide u before && isWordSide u after
  | wordEnd u => isWordSide u before && !isWordSide u after
  | wordStartHalf u => !isWordSide u before
  | wordEndHalf u => !isWordSide u after

/-- Does the condition hold at an offset of the text? -/
def holds (l : Look) (text : String) (pos : Nat) : Bool :=
  l.holdsBetween (charBefore? text pos) (charAt? text pos)

end Look

end ModalLexer.Pattern
