import ModalLexer.Table.Basic

/-!
What is known about where rules match next. A rule of the backtracking dialect can only be searched for;
as long as the cursor has not passed the start that the last search found, the answer is known.
-/

namespace ModalLexer

/-- The result of a search: where it began, and where the next match starts. -/
structure NextMatch where
  origin : Nat
  start : Option Nat
deriving DecidableEq, Repr, Inhabited

/-- What a search says about an offset: nothing if it began later or its match has been passed. -/
def NextMatch.answer? (n : NextMatch) (pos : Nat) : Option Bool :=
  if n.origin ≤ pos then
    match n.start with
    | none => some false
    | some start => if pos ≤ start then some (pos == start) else none
  else
    none

/-- The last search of each rule, by slot, and the number of searches so far. It is for one text only. -/
structure Memo where
  known : List (Nat × NextMatch) := []
  searches : Nat := 0
deriving DecidableEq, Repr, Inhabited

namespace Memo

def lookup (slot : Nat) : List (Nat × NextMatch) → Option NextMatch
  | [] => none
  | (s, n) :: rest => if s = slot then some n else lookup slot rest

def insert (slot : Nat) (n : NextMatch) : List (Nat × NextMatch) → List (Nat × NextMatch)
  | [] => [(slot, n)]
  | (s, m) :: rest => if s = slot then (slot, n) :: rest else (s, m) :: insert slot n rest

/-- Can the rule match at the offset? A rule that need not be searched for always may. -/
def mayMatch (m : Memo) (r : CompiledRule) (text : String) (pos : Nat) : Except Error Bool × Memo :=
  if r.needsSearch then
    match (lookup r.slot m.known).bind (·.answer? pos) with
    | some answer => (.ok answer, m)
    | none =>
      match r.nextStart text pos with
      | .ok start =>
        (.ok (start == some pos), ⟨insert r.slot ⟨pos, start⟩ m.known, m.searches + 1⟩)
      | .error e => (.error e, { m with searches := m.searches + 1 })
  else
    (.ok true, m)

end Memo

end ModalLexer
