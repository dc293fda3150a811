/-!
Offsets are numbers of 64 bits: a sum that does not fit is an error of its own.
-/

namespace ModalLexer.Text

/-- The first number that is no offset. -/
def offsetLimit : Nat := 0x10000000000000000

/-- The sum of two offsets, if it is one. -/
def addOffset? (a b : Nat) : Option Nat :=
  if a + b < offsetLimit then some (a + b) else none

theorem addOffset?_eq_some_iff {a b n : Nat} :
    addOffset? a b = some n ↔ a + b = n ∧ n < offsetLimit := by
  unfold addOffset?
  split <;> simp <;> omega

end ModalLexer.Text
