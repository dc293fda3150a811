import ModalLexer.Pattern.Basic

/-!
What in a pattern ties a match to the search that found it: the start of the match may be moved, and the place where the
search began may be asked for.
-/

namespace ModalLexer.Pattern

namespace Backtracking

/-- What ties a match to the search that found it. -/
inductive Mark
  /-- The start of the match is moved. -/
  | keepOut
  /-- The place where the search began is asked for. -/
  | searchStart
deriving DecidableEq

namespace Expr

mutual

/-- The marks in the expression. -/
def marks : Expr → List Mark
  | seq es => marksAll es
  | alt es => marksAll es
  | group _ e => e.marks
  | loop _ _ _ e => e.marks
  | ahead _ e => e.marks
  | behind _ e => e.marks
  | atomic e => e.marks
  | conditional c y n => c.marks ++ y.marks ++ n.marks
  | keepOut => [.keepOut]
  | searchStart => [.searchStart]
  | _ => []

def marksAll : List Expr → List Mark
  | [] => []
  | e :: es => e.marks ++ marksAll es

end

end Expr

end Backtracking

/-- What is read of the pattern. -/
def source (p : Pattern) (multiLine : Bool) : String :=
  if multiLine then "(?m)" ++ p.text else p.text

/-- The marks in what the pattern is read as in the backtracking dialect. -/
def marks (p : Pattern) (multiLine : Bool) : List Backtracking.Mark :=
  match Backtracking.parse (p.source multiLine) with
  | .ok q => q.expr.marks
  | .error _ => []

end ModalLexer.Pattern
