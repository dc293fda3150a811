import ModalLexer.Kind
import ModalLexer.Text.Offset
import ModalLexer.Text.Slice

/-!
Tokens, and when a list of tokens covers a text: each starts where the one before ended, none is empty, and
each holds the text at its place.
-/

namespace ModalLexer

open Text (slice?)

/-- A classified piece of a text, at a byte offset. -/
structure Token where
  offset : Nat
  kind : Kind
  text : String
deriving DecidableEq, Repr, Inhabited

namespace Token

/-- The length in bytes. -/
def length (t : Token) : Nat :=
  t.text.utf8ByteSize

def isEmpty (t : Token) : Bool :=
  t.length == 0

/-- Where the token ends, if that is an offset. -/
def stop? (t : Token) : Option Nat :=
  Text.addOffset? t.offset t.length

/-- The token moved to the right. -/
def shift (t : Token) (base : Nat) : Token :=
  { t with offset := base + t.offset }

/-- The token moved to the right, if it stays in range. -/
def shift? (t : Token) (base : Nat) : Option Token :=
  (Text.addOffset? t.offset base).map fun offset => { t with offset }

/-- Is this the token that a cover of the text has at an offset? -/
def fits (source : String) (pos : Nat) (t : Token) : Bool :=
  t.offset == pos && !t.isEmpty && slice? source pos (pos + t.length) == some t.text

end Token

/-- The first offset from `pos` on at which the tokens fail to cover the text. -/
def uncoveredFrom (source : String) (pos : Nat) : List Token → Option Nat
  | [] => if pos = source.utf8ByteSize then none else some pos
  | t :: ts => if t.fits source pos then uncoveredFrom source (pos + t.length) ts else some pos

/-- The first offset at which the tokens fail to cover the text. -/
def uncovered? (source : String) (tokens : List Token) : Option Nat :=
  uncoveredFrom source 0 tokens

/-- The test with the end of each token that it looks at as a number of 64 bits: it has no result once one does not
fit. -/
def uncoveredFrom? (source : String) (pos : Nat) : List Token → Option (Option Nat)
  | [] => some (if pos = source.utf8ByteSize then none else some pos)
  | t :: ts =>
    if t.offset = pos ∧ t.isEmpty = false then do
      let stop ← t.stop?
      if slice? source t.offset stop = some t.text then uncoveredFrom? source stop ts else return some pos
    else some (some pos)

end ModalLexer
