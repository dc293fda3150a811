import ModalLexer.Text.Quoted

/-!
Reading the listing of an input back: line by line, from each the offset of a token and its text.
-/

namespace ModalLexer.Command

open Text (unquote)

/-- The lines, without their line feeds. -/
def splitLines : List Char → List (List Char)
  | [] => []
  | c :: cs =>
    if c = '\n' then [] :: splitLines cs
    else match splitLines cs with
      | [] => [[c]]
      | line :: lines => (c :: line) :: lines

/-- What a line of a listing tells: the number before its first tab, and the text in quotes behind its last one. -/
def readLine (line : List Char) : Option (Nat × String) :=
  let number := line.takeWhile (· != '\t')
  let quoted := (line.reverse.takeWhile (· != '\t')).reverse
  if number ≠ [] ∧ number.all Char.isDigit then (unquote quoted).map (Nat.ofDigitChars 10 number 0, ·) else none

/-- Reads a listing back line by line. -/
def readListing (listing : String) : Option (List (Nat × String)) :=
  (splitLines listing.toList).mapM readLine

end ModalLexer.Command
