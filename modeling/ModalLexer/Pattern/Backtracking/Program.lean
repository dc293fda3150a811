import ModalLexer.Pattern.Backtracking.Basic
import ModalLexer.Pattern.Regular.Automaton
import ModalLexer.Pattern.Regular.Parser

/-!
What the backtracking machine runs. Parts of an expression that cannot influence how the rest matches are
handed to an automaton, which gives one match and no others; the rest is matched step by step.
-/

namespace ModalLexer.Pattern.Backtracking

/-- A step of a match, built from steps. -/
inductive Node
  | any (newline : Bool)
  | text (t : String)
  | set (s : CharSet)
  | check (cond : Look)
  /-- The preferred match of an automaton, whose groups are the given ones in order. -/
  | delegate (a : Automaton) (groups : List Nat)
  | seq (items : List Node)
  | alt (branches : List Node)
  | group (index : Nat) (body : Node)
  /-- A guarded loop does not go round again without moving. -/
  | loop (lo : Nat) (hi : Option Nat) (greedy guarded : Bool) (body : Node)
  /-- Steps back by some characters, matches, and returns to the position before. -/
  | around (negated : Bool) (back : Nat) (body : Node)
  | backref (index : Nat)
  | matched (index : Nat)
  | atomic (body : Node)
  | conditional (cond yes no : Node)
  | keepOut
  | searchStart
deriving Inhabited

/-- An automaton for a sequence, which is written in the regular dialect. A mere text is compared, and a mere
set is looked up. -/
def delegate (es : List Expr) : Except Fault Node := do
  match Expr.texts? es with
  | some cs => return if cs.isEmpty then .seq [] else .text (String.ofList cs)
  | none =>
    match ← Regular.parse (Expr.writeAll es), Expr.groupsAll es with
    | .oneOf _ s, [] => return .set s
    | r, groups => return .delegate (.ofRegular r) groups

/-- Look-behind steps back by the size of its body, which has to be fixed. -/
def behindNode (negated : Bool) (e : Expr) (body : Except Fault Node) : Except Fault Node := do
  if !e.isConstSize then throw .variableLookBehind
  return .around negated e.minSize (← body)

/-- The steps of all parts, if every part has some. -/
def collect : List (Expr × Except Fault Node) → Except Fault (List Node)
  | [] => .ok []
  | (_, n) :: rest => do return (← n) :: (← collect rest)

def alternatives (parts : List (Expr × Except Fault Node)) : Except Fault Node := do
  return .alt (← collect parts)

/-- A sequence: an automaton takes the easy parts of fixed size at its start, and the easy parts at its end,
which have to be of fixed size too when more follows. -/
def sequence (refs : List Nat) (hard : Bool) (parts : List (Expr × Except Fault Node)) : Except Fault Node := do
  let fixed (p : Expr × Except Fault Node) : Bool := p.1.isConstSize && !p.1.isHard refs
  let easy (p : Expr × Except Fault Node) : Bool := !p.1.isHard refs
  let rest := parts.dropWhile fixed
  let tail := (rest.reverse.takeWhile (if hard then fixed else easy)).reverse
  let first ← delegate ((parts.takeWhile fixed).map (·.1))
  let middle ← collect (rest.take (rest.length - tail.length))
  let last ← delegate (tail.map (·.1))
  return .seq (first :: middle ++ [last])

mutual

/-- The steps for an expression. In a hard place, where what follows may fail and come back, an easy
expression is still matched step by step. -/
def node (refs : List Nat) (hard : Bool) (e : Expr) : Except Fault Node :=
  if !hard && !e.isHard refs then delegate [e] else
  match e with
  | .empty => .ok (.seq [])
  | .any newline => .ok (.any newline)
  | .literal c ignoreCase => delegate [.literal c ignoreCase]
  | .written text ignoreCase => delegate [.written text ignoreCase]
  | .look l => .ok (.check l)
  | .seq es => sequence refs hard (nodes refs true es)
  | .alt es => alternatives (nodes refs hard es)
  | .group i e => do return .group i (← node refs hard e)
  | .loop lo hi greedy e => do
    let optional := lo = 0 ∧ hi = some 1
    let body ← node refs (if optional then hard else hard || e.isHard refs) e
    return .loop lo hi greedy (hi.isNone && e.minSize == 0) body
  | .ahead negated e => do return .around negated 0 (← node refs false e)
  | .behind negated (.alt es) =>
    if (Expr.alt es).isConstSize then
      behindNode negated (.alt es)
        (if Expr.anyHard refs es then alternatives (nodes refs false es) else delegate [.alt es])
    else do
      let each ← collect (behindNodes refs negated es)
      return if negated then .seq each else .alt each
  | .behind negated e => behindNode negated e (node refs false e)
  | .backref i => .ok (.backref i)
  | .matched i => .ok (.matched i)
  | .atomic e => do return .atomic (← node refs false e)
  | .conditional c y n => do
    return .conditional (← node refs hard c) (← node refs hard y) (← node refs hard n)
  | .keepOut => .ok .keepOut
  | .searchStart => .ok .searchStart

def nodes (refs : List Nat) (hard : Bool) : List Expr → List (Expr × Except Fault Node)
  | [] => []
  | e :: es => (e, node refs hard e) :: nodes refs hard es

/-- One look-behind for each alternative. -/
def behindNodes (refs : List Nat) (negated : Bool) : List Expr → List (Expr × Except Fault Node)
  | [] => []
  | e :: es => (e, behindNode negated e (node refs false e)) :: behindNodes refs negated es

end

end ModalLexer.Pattern.Backtracking
