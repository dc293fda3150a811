import ModalLexer.Rule

/-!
Table documents: the data of a table as it is written down, before anything is resolved.
-/

namespace ModalLexer

namespace Document

/-- States to push: one, or several in order. -/
inductive Push
  | one (state : String)
  | many (states : List String)
deriving DecidableEq, Repr, Inhabited

/-- The fields that move the stack; one of them at most is meant to be set. -/
structure Move where
  push : Option Push := none
  pop : Option Nat := none
  goto : Option String := none
deriving DecidableEq, Repr, Inhabited

/-- What a group becomes. -/
inductive Group
  | kind (k : Kind)
  | lex (state : String)
deriving DecidableEq, Repr, Inhabited

/-- A rule; either a token or groups are meant to be set, or neither. -/
structure Rule where
  pattern : String
  token : Option Kind := none
  groups : Option (List (Option Group)) := none
  move : Move := {}
deriving DecidableEq, Repr, Inhabited

inductive Entry
  | include (state : String)
  | default (move : Move)
  | rule (r : Rule)
deriving DecidableEq, Repr, Inhabited

end Document

/-- A document. Names of states may repeat, and the order of states is kept. -/
structure Document where
  root : String := "root"
  multiLine : Bool := true
  resetOnNewline : Bool := true
  maxZeroWidth : Option Nat := none
  maxNesting : Option Nat := none
  states : List (String × List Document.Entry)
deriving DecidableEq, Repr, Inhabited

/-- Why a document describes no table, although it can be read. -/
inductive Inconsistency
  | severalMoves (m : Document.Move)
  | pushCurrentAmongOthers
  | tokenAndGroups (pattern : String)
deriving DecidableEq, Repr, Inhabited

/-- How the text of a document fails to be one. -/
inductive ReadFault
  /-- No value of the format is written this way. -/
  | malformed
  /-- A value of another form is expected. -/
  | mismatch
  /-- The text ends too early. -/
  | truncated
deriving DecidableEq, Repr, Inhabited

end ModalLexer
