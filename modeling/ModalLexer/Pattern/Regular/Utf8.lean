import ModalLexer.Pattern.CharSet

/-!
Sets of characters as sequences of bytes: every range of code points is divided until the encodings of its
characters are all the combinations of one range of bytes at each place.
-/

namespace ModalLexer.Pattern.Utf8

/-- A range of bytes, both ends included. -/
abbrev ByteRange := Nat × Nat

/-- The bytes that encode a code point. -/
def encode (n : Nat) : List Nat :=
  if n < 0x80 then [n]
  else if n < 0x800 then [0xC0 + n / 0x40, 0x80 + n % 0x40]
  else if n < 0x10000 then [0xE0 + n / 0x1000, 0x80 + n / 0x40 % 0x40, 0x80 + n % 0x40]
  else [0xF0 + n / 0x40000, 0x80 + n / 0x1000 % 0x40, 0x80 + n / 0x40 % 0x40, 0x80 + n % 0x40]

/-- The first of the limits that lies inside a range divides it after the limit. -/
def cutAtLimit? (a b : Nat) : List Nat → Option (Nat × Nat)
  | [] => none
  | m :: ms => if a ≤ m ∧ m < b then some (m, m + 1) else cutAtLimit? a b ms

/-- The first of the block sizes of which a range holds a part of a block divides it at the block. -/
def cutAtBlock? (a b : Nat) : List Nat → Option (Nat × Nat)
  | [] => none
  | m :: ms =>
    if a / m = b / m then cutAtBlock? a b ms
    else if a % m ≠ 0 then some (a / m * m + (m - 1), a / m * m + m)
    else if b % m ≠ m - 1 then some (b / m * m - 1, b / m * m)
    else cutAtBlock? a b ms

/-- Where a range has to be divided: the end of its first part and the start of its second. -/
def cut? (a b : Nat) : Option (Nat × Nat) :=
  if a < 0xE000 ∧ 0xD7FF < b then some (0xD7FF, 0xE000)
  else
    (cutAtLimit? a b [0x7F, 0x7FF, 0xFFFF]).or
      (if b < 0x80 then none else cutAtBlock? a b [0x40, 0x1000, 0x40000])

/-- The sequences of a range of code points, in order. A range is divided at most a dozen times on the way
to a sequence, so the fuel given below is enough. -/
def sequencesOf : (fuel : Nat) → (a b : Nat) → List (List ByteRange)
  | 0, _, _ => []
  | fuel + 1, a, b =>
    if b < a then []
    else
      match cut? a b with
      | some (m, n) => sequencesOf fuel a m ++ sequencesOf fuel n b
      | none => [(encode a).zip (encode b)]

/-- The sequences of a set, in order. -/
def sequences (s : CharSet) : List (List ByteRange) :=
  s.ranges.toList.flatMap fun r => sequencesOf 32 r.1 r.2

end ModalLexer.Pattern.Utf8
