import ModalLexer.Text.Slice

/-!
The lines of a text. A line runs up to and with its line feed, or to the end of the text. They can be had all at once
or one by one.
-/

namespace ModalLexer.Text

/-- The lines of the characters from offset `pos` on, where the current line began at `start`. -/
def lineSpansFrom (start pos : Nat) : List Char → List Span
  | [] => if start < pos then [⟨start, pos⟩] else []
  | c :: cs =>
    let next := pos + c.utf8Size
    if c = '\n' then ⟨start, next⟩ :: lineSpansFrom next next cs else lineSpansFrom start next cs

/-- The spans of the lines, in order; the empty text has none. -/
def lineSpans (text : String) : List Span :=
  lineSpansFrom 0 0 text.toList

/-! ## Line by line -/

/-- Where the first line feed stands, counted in bytes. -/
def lineFeed? : List Char → Option Nat
  | [] => none
  | c :: cs => if c = '\n' then some 0 else (lineFeed? cs).map (c.utf8Size + ·)

/-- The line that starts at an offset, and the offset for the next call; at the end of the text there is no line. -/
def nextLine (text : String) (pos : Nat) : Option Span × Nat :=
  if text.utf8ByteSize ≤ pos then (none, pos)
  else
    let stop := match lineFeed? (slice text ⟨pos, text.utf8ByteSize⟩).toList with
      | some i => pos + i + 1
      | none => text.utf8ByteSize
    (some ⟨pos, stop⟩, stop)

end ModalLexer.Text
