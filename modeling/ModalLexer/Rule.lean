import ModalLexer.Kind
import ModalLexer.Pattern.Basic

/-!
Rules: what a state matches, what it emits and how it moves the stack of states. A declared rule refers to
states by name, a compiled one by identifier, so the parts of a rule are generic in the reference.
-/

namespace ModalLexer

/-- What happens to the stack of states after a match. -/
inductive Transition (σ : Type)
  | stay
  /-- Pushes the states in order, so that the last one ends on top. -/
  | push (states : List σ)
  /-- Pushes the top state again. -/
  | pushCurrent
  /-- Takes states off the stack, but never the root. -/
  | pop (count : Nat)
  /-- Replaces the top state. -/
  | goto (state : σ)
deriving DecidableEq, Repr, Inhabited

/-- What a group of a match becomes. -/
inductive GroupAction (σ : Type)
  | kind (k : Kind)
  /-- A token of the kind that the table uses for plain text. -/
  | text
  /-- No token of its own; the text belongs to the gap around it. -/
  | skip
  /-- The tokens of a scan of the group's text that starts from the state. -/
  | lex (state : σ)
deriving DecidableEq, Repr, Inhabited

/-- What a match becomes. -/
inductive Emission (σ : Type)
  | token (k : Kind)
  /-- Action `i` is for group `i + 1`; what no group takes becomes plain text. -/
  | byGroups (actions : List (GroupAction σ))
  /-- Nothing, which is right for an empty match only. -/
  | nothing
deriving DecidableEq, Repr, Inhabited

/-- A declared rule. -/
structure Rule where
  pattern : Pattern
  emission : Emission String
  transition : Transition String := .stay
deriving DecidableEq, Repr, Inhabited

/-- A line of a state's declaration: a rule, or all the rules of another state. -/
inductive Entry
  | rule (r : Rule)
  | include (state : String)
deriving DecidableEq, Repr, Inhabited

/-- A rule that matches everywhere, consumes nothing and moves the stack. -/
def Rule.defaultTo (t : Transition String) : Rule :=
  { pattern := { text := "" }, emission := .nothing, transition := t }

def Entry.isRule : Entry → Bool
  | .rule _ => true
  | .include _ => false

def Rule.andThen (r : Rule) (t : Transition String) : Rule :=
  { r with transition := t }

namespace Transition

def isStay : Transition σ → Bool
  | stay => true
  | _ => false

/-- Resolves the references in order. -/
def mapM [Monad m] (f : σ → m τ) : Transition σ → m (Transition τ)
  | stay => return stay
  | push ss => return push (← ss.mapM f)
  | pushCurrent => return pushCurrent
  | pop n => return pop n
  | goto s => return goto (← f s)

def map (f : σ → τ) : Transition σ → Transition τ
  | stay => stay
  | push ss => push (ss.map f)
  | pushCurrent => pushCurrent
  | pop n => pop n
  | goto s => goto (f s)

end Transition

namespace GroupAction

/-- Does the group become tokens? -/
def emits : GroupAction σ → Bool
  | skip => false
  | _ => true

def mapM [Monad m] (f : σ → m τ) : GroupAction σ → m (GroupAction τ)
  | kind k => return kind k
  | text => return text
  | skip => return skip
  | lex s => return lex (← f s)

def map (f : σ → τ) : GroupAction σ → GroupAction τ
  | kind k => kind k
  | text => text
  | skip => skip
  | lex s => lex (f s)

end GroupAction

namespace Emission

def mapM [Monad m] (f : σ → m τ) : Emission σ → m (Emission τ)
  | token k => return token k
  | byGroups as => return byGroups (← as.mapM (·.mapM f))
  | nothing => return nothing

def map (f : σ → τ) : Emission σ → Emission τ
  | token k => token k
  | byGroups as => byGroups (as.map (·.map f))
  | nothing => nothing

end Emission

/-- How a table is built and run. -/
structure Options where
  /-- The state at the bottom of every stack. -/
  root : String := "root"
  /-- Line anchors hold at every line. -/
  multiLine : Bool := true
  /-- A line feed that no rule matches brings the stack back to the root. -/
  resetOnNewline : Bool := true
  /-- The greatest number of empty matches in a row. -/
  maxZeroWidth : Nat := 64
  /-- The greatest depth of scans of groups inside scans of groups. -/
  maxNesting : Nat := 16
  textKind : Kind := .text
  errorKind : Kind := .error
deriving DecidableEq, Repr, Inhabited

/-- A table as declared: named states with their entries, the first entry of a state tried first. -/
structure Declaration where
  options : Options := {}
  states : List (String × List Entry) := []
deriving DecidableEq, Repr, Inhabited

end ModalLexer
