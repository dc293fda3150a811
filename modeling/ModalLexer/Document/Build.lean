import ModalLexer.Document.Reader
import ModalLexer.Table.Build

/-!
From a document to a declaration. A document may contradict itself where a declaration cannot.
-/

namespace ModalLexer

namespace Document

/-- The name that pushes the top state again. -/
def pushCurrentName : String := "#push"

/-- The number of fields that are set. -/
def Move.count (m : Move) : Nat :=
  m.push.toList.length + m.pop.toList.length + m.goto.toList.length

/-- The transition that a move describes. -/
def Move.toTransition (m : Move) : Except Error (Transition String) :=
  if 1 < m.count then .error (.inconsistent (.severalMoves m))
  else match m.push, m.pop, m.goto with
    | some (.one s), _, _ => .ok (if s = pushCurrentName then .pushCurrent else .push [s])
    | some (.many ss), _, _ =>
      if ss.contains pushCurrentName then .error (.inconsistent .pushCurrentAmongOthers) else .ok (.push ss)
    | none, some n, _ => .ok (.pop n)
    | none, none, some s => .ok (.goto s)
    | none, none, none => .ok .stay

/-- The kind of plain text is whatever the table uses for it. -/
def actionOf : Option Group → GroupAction String
  | none => .skip
  | some (.kind k) => if k = .text then .text else .kind k
  | some (.lex s) => .lex s

def Rule.toRule (r : Rule) : Except Error ModalLexer.Rule := do
  let transition ← r.move.toTransition
  let emission ← match r.token, r.groups with
    | some _, some _ => throw (.inconsistent (.tokenAndGroups r.pattern))
    | some k, none => pure (.token k)
    | none, some gs => pure (.byGroups (gs.map actionOf))
    | none, none => pure .nothing
  return { pattern := { text := r.pattern }, emission, transition }

def Entry.toEntry : Entry → Except Error ModalLexer.Entry
  | .include s => .ok (.include s)
  | .default m => do return .rule (.defaultTo (← m.toTransition))
  | .rule r => do return .rule (← r.toRule)

/-- The options that a document sets; the others keep their defaults. -/
def options (d : Document) : Options :=
  let base : Options := {}
  { root := d.root
    multiLine := d.multiLine
    resetOnNewline := d.resetOnNewline
    maxZeroWidth := d.maxZeroWidth.getD base.maxZeroWidth
    maxNesting := d.maxNesting.getD base.maxNesting }

/-- The declaration that a document describes. -/
def toDeclaration (d : Document) : Except Error Declaration := do
  let states ← d.states.mapM fun s => do return (s.1, ← s.2.mapM Entry.toEntry)
  return { options := d.options, states }

/-- The table that a document describes. -/
def build (d : Document) : Except Error Table := do
  (← d.toDeclaration).build

/-- Reads a document, with its fault as an error. -/
def load (text : String) : Except Error Document :=
  (parse text).mapError .unreadable

end Document

end ModalLexer
