import ModalLexer.Table.Basic

/-!
Stacks of states. The root is at the bottom and is never taken off.
-/

namespace ModalLexer

/-- A stack of states: the root, and the states above it, the top first. -/
structure StateStack where
  root : StateId
  above : List StateId := []
deriving DecidableEq, Repr, Inhabited

namespace StateStack

def top (s : StateStack) : StateId :=
  s.above.head?.getD s.root

/-- The number of states, the root included. -/
def depth (s : StateStack) : Nat :=
  s.above.length + 1

/-- The states from the root to the top. -/
def toList (s : StateStack) : List StateId :=
  s.root :: s.above.reverse

def push (s : StateStack) (id : StateId) : StateStack :=
  { s with above := id :: s.above }

/-- Takes off so many states, or all above the root. -/
def pop (s : StateStack) (count : Nat) : StateStack :=
  { s with above := s.above.drop count }

/-- Takes off everything above the root. -/
def reset (s : StateStack) : StateStack :=
  { s with above := [] }

def apply (s : StateStack) : Transition StateId → StateStack
  | .stay => s
  | .push states => { s with above := states.reverse ++ s.above }
  | .pushCurrent => s.push s.top
  | .pop count => s.pop count
  | .goto id => (s.pop 1).push id

end StateStack

end ModalLexer
