import ModalLexer.Document.Basic
import ModalLexer.Text.Quoted

/-!
Everything that can go wrong, by cause, with the text of each message.
-/

namespace ModalLexer

open Text (quote)

/-- Why a rule can never be valid. -/
inductive RuleFault
  | emptyPush
  | emptyPop
  /-- It neither emits a token nor moves the stack. -/
  | inert
  | tooManyActions (actions groups : Nat)
deriving DecidableEq, Repr, Inhabited

def RuleFault.message : RuleFault → String
  | emptyPush => "push of no states"
  | emptyPop => "pop count must be >= 1"
  | inert => "rule emits nothing and has no transition"
  | tooManyActions a g => s!"{a} group actions for {g} capture groups"

/-- Causes of failure. A rule is named by the state that declares it and its place among the entries. -/
inductive Error
  | duplicateState (name : String)
  | missingRoot (name : String)
  | undefinedState (name : String) (referencedFrom : String)
  /-- The states of the cycle, the first one again at the end. -/
  | includeCycle (path : List String)
  | invalidRule (state : String) (index : Nat) (fault : RuleFault)
  | badPattern (state : String) (index : Nat) (pattern : String) (dialect : Dialect)
  | searchFailed (state : String) (index offset : Nat) (dialect : Dialect)
  | zeroWidthMatch (state : String) (index offset : Nat)
  | zeroWidthLoop (state : String) (offset steps : Nat)
  | droppedText (state : String) (index offset : Nat)
  | nestingTooDeep (depth : Nat)
  | misaligned (offset : Nat)
  | badPrompt (dialect : Dialect)
  | unreadable (fault : ReadFault)
  | inconsistent (cause : Inconsistency)
  | offsetOverflow
deriving DecidableEq, Repr, Inhabited

/-- The error for a pattern that is refused, unless its size is beyond counting. -/
def Error.ofFault (fault : Pattern.Fault) (refused : Error) : Error :=
  if fault = .sizeOverflow then .offsetOverflow else refused

namespace Document

/-- A set field with its value, or the word for an absent one. -/
def showOption (render : α → String) : Option α → String
  | some a => "Some(" ++ render a ++ ")"
  | none => "None"

def Push.describe : Push → String
  | .one s => "One(" ++ quote s ++ ")"
  | .many ss => "Many([" ++ ", ".intercalate (ss.map quote) ++ "])"

/-- The fields of a move, as messages show them. -/
def Move.describe (m : Move) : String :=
  "TransitionDef \x7b push: " ++ showOption Push.describe m.push ++ ", pop: " ++ showOption toString m.pop
    ++ ", goto: " ++ showOption quote m.goto ++ " \x7d"

end Document

def Inconsistency.message : Inconsistency → String
  | severalMoves m => "at most one of push/pop/goto may be set: " ++ m.describe
  | pushCurrentAmongOthers => quote "#push" ++ " is only valid as a single push target"
  | tokenAndGroups p => "rule " ++ quote p ++ " sets both token and groups"

namespace Error

/-- The rule at fault, as messages show it. -/
def ruleName (state : String) (index : Nat) : String :=
  s!"{state}[{index}]"

/-- The message of an error. -/
def message : Error → String
  | duplicateState n => "duplicate state: " ++ quote n
  | missingRoot n => "missing root state: " ++ quote n
  | undefinedState n r => "state " ++ quote r ++ " references undefined state " ++ quote n
  | includeCycle path => "include cycle: " ++ " -> ".intercalate path
  | invalidRule s i f => "invalid rule " ++ ruleName s i ++ ": " ++ f.message
  | badPattern s i p _ => "bad pattern in rule " ++ ruleName s i ++ " (" ++ quote p ++ ")"
  | searchFailed s i o _ => "pattern failure in rule " ++ ruleName s i ++ s!" at offset {o}"
  | zeroWidthMatch s i o => "rule " ++ ruleName s i ++ s!" matched empty text at offset {o} without a transition"
  | zeroWidthLoop s o n =>
    s!"{n} zero-width transitions at offset {o} without progress (last state " ++ quote s ++ ")"
  | droppedText s i o => "rule " ++ ruleName s i ++ s!" consumed text at offset {o} but emits nothing"
  | nestingTooDeep d => s!"nested group lexing exceeded depth {d}"
  | misaligned o => s!"spliced token at offset {o} does not align with the source text"
  | badPrompt _ => "prompt pattern"
  | unreadable _ => "unreadable document"
  | inconsistent c => c.message
  | offsetOverflow => "offset overflow"

/-- A constructor with named fields, as the command line shows it. -/
def showFields (name : String) (fields : List (String × String)) : String :=
  name ++ " \x7b " ++ ", ".intercalate (fields.map fun f => f.1 ++ ": " ++ f.2) ++ " \x7d"

/-- The error by its cause and fields, as the command line shows it. -/
def describe : Error → String
  | duplicateState n => showFields "DuplicateState" [("name", quote n)]
  | missingRoot n => showFields "MissingRootState" [("name", quote n)]
  | undefinedState n r => showFields "UndefinedState" [("name", quote n), ("referenced_from", quote r)]
  | includeCycle path => showFields "IncludeCycle" [("cycle", quote (" -> ".intercalate path))]
  | invalidRule s i f =>
    showFields "InvalidRule" [("state", quote s), ("index", toString i), ("reason", quote f.message)]
  | badPattern s i p _ =>
    showFields "Pattern" [("state", quote s), ("index", toString i), ("pattern", quote p)]
  | searchFailed s i o _ =>
    showFields "Match" [("state", quote s), ("index", toString i), ("offset", toString o)]
  | zeroWidthMatch s i o =>
    showFields "ZeroWidthMatch" [("state", quote s), ("index", toString i), ("offset", toString o)]
  | zeroWidthLoop s o n =>
    showFields "ZeroWidthLoop" [("state", quote s), ("offset", toString o), ("steps", toString n)]
  | droppedText s i o =>
    showFields "DroppedText" [("state", quote s), ("index", toString i), ("offset", toString o)]
  | nestingTooDeep d => showFields "NestingTooDeep" [("depth", toString d)]
  | misaligned o => showFields "SpliceMisaligned" [("offset", toString o)]
  | badPrompt _ => "Prompt"
  | unreadable _ => "Json"
  | inconsistent c => "Config(" ++ quote c.message ++ ")"
  | offsetOverflow => "OffsetOverflow"

end Error

end ModalLexer
