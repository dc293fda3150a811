import ModalLexer.Error

/-!
Compiled tables: every state has its rules in order, includes are gone, and references are identifiers.
-/

namespace ModalLexer

open Text (Span)

/-- A state of a table, by its place in the declaration. -/
structure StateId where
  index : Nat
deriving DecidableEq, Repr, Inhabited

/-- A match of a rule; groups are asked for only where the emission needs them. -/
structure RuleMatch where
  span : Span
  groups : Option Groups
deriving DecidableEq, Repr, Inhabited

/-- A rule ready to run. -/
structure CompiledRule where
  pattern : Pattern
  matcher : Matcher
  emission : Emission StateId
  transition : Transition StateId
  /-- The state that declares the rule. -/
  origin : String
  /-- The place of the rule among the entries of that state. -/
  index : Nat
  /-- The number of the rule among all declared rules. -/
  slot : Nat

namespace CompiledRule

/-- The error of a search that was given up. -/
def failure (r : CompiledRule) (pos : Nat) (e : SearchFailure) : Error :=
  .searchFailed r.origin r.index pos e.dialect

/-- The match of the rule that starts at the offset. -/
def matchAt (r : CompiledRule) (text : String) (pos : Nat) : Except Error (Option RuleMatch) :=
  match r.emission with
  | .byGroups _ =>
    ((r.matcher.captures text pos).mapError (r.failure pos)).map fun found =>
      found.bind fun groups => (groups.head?.join).map fun span => ⟨span, some groups⟩
  | _ =>
    ((r.matcher.find text pos).mapError (r.failure pos)).map fun found =>
      found.map fun span => ⟨span, none⟩

/-- Where the leftmost match at or after the offset starts. -/
def nextStart (r : CompiledRule) (text : String) (pos : Nat) : Except Error (Option Nat) :=
  (r.matcher.next text pos).mapError (r.failure pos)

/-- Does a match at an offset have to be searched for? -/
def needsSearch (r : CompiledRule) : Bool :=
  r.matcher.dialect == .backtracking

end CompiledRule

/-- A table that is ready to run. State `i` has name `names[i]` and rules `rules[i]`. -/
structure Table where
  options : Options
  names : Array String
  rules : Array (List CompiledRule)
  root : StateId

namespace Table

def stateCount (t : Table) : Nat :=
  t.names.size

/-- The number of rules over all states, each counted where it is included. -/
def ruleCount (t : Table) : Nat :=
  t.rules.toList.flatten.length

def name? (t : Table) (id : StateId) : Option String :=
  t.names[id.index]?

def rules? (t : Table) (id : StateId) : Option (List CompiledRule) :=
  t.rules[id.index]?

/-- The name of a state of this table. -/
def name (t : Table) (id : StateId) : String :=
  (t.name? id).getD ""

/-- The rules of a state of this table. -/
def rulesOf (t : Table) (id : StateId) : List CompiledRule :=
  (t.rules? id).getD []

/-- The state of that name. -/
def stateId? (t : Table) (name : String) : Option StateId :=
  (t.names.findIdx? (· == name)).map StateId.mk

end Table

end ModalLexer
