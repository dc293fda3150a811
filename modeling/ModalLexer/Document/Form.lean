import ModalLexer.Document.Json

/-!
The parts of a document as JSON values: which values stand for a part, and which value a part is written as.
A part with named fields is an object with these names, each at most once, or an array of their values in
order, where fields at the end may be left out.
-/

namespace ModalLexer.Document

/-- The member of that name, if no other has it too. -/
def onlyMember? (name : String) (members : List (String × Json)) : Option (Option Json) :=
  match members.filter (·.1 == name) with
  | [] => some none
  | [(_, v)] => some (some v)
  | _ => none

/-- The values of named fields. -/
def fields? (names : List String) : Json → Option (List (Option Json))
  | .array items =>
    if items.length ≤ names.length then
      some (items.map some ++ List.replicate (names.length - items.length) none)
    else none
  | .object members =>
    if members.all fun m => names.contains m.1 then names.mapM fun n => onlyMember? n members else none
  | _ => none

/-- A field that may be absent or null. -/
def optional? (read : Json → Option α) : Option Json → Option (Option α)
  | none => some none
  | some .null => some none
  | some v => (read v).map some

def text? : Json → Option String
  | .string s => some s
  | _ => none

def natural? : Json → Option Nat
  | .natural n => some n
  | _ => none

namespace Push

def ofJson? : Json → Option Push
  | .string s => some (.one s)
  | .array items => (items.mapM text?).map .many
  | _ => none

def toJson : Push → Json
  | one s => .string s
  | many ss => .array (ss.map .string)

end Push

namespace Move

def ofFields? : List (Option Json) → Option Move
  | [push, pop, goto] => do
    return { push := ← optional? Push.ofJson? push, pop := ← optional? natural? pop, goto := ← optional? text? goto }
  | _ => none

def ofJson? (v : Json) : Option Move := do
  ofFields? (← fields? ["push", "pop", "goto"] v)

/-- The fields that are set. -/
def members (m : Move) : List (String × Json) :=
  (m.push.map fun p => ("push", p.toJson)).toList ++ (m.pop.map fun n => ("pop", .natural n)).toList ++
    (m.goto.map fun s => ("goto", .string s)).toList

end Move

namespace Group

/-- A kind, or an object with the state to scan from; other members of the object do not matter. -/
def ofJson? : Json → Option Group
  | .string k => some (.kind ⟨k⟩)
  | .object members => do return .lex (← text? (← ← onlyMember? "lex" members))
  | _ => none

def toJson : Group → Json
  | kind k => .string k.path
  | lex s => .object [("lex", .string s)]

end Group

namespace Rule

def groups? : Json → Option (List (Option Group))
  | .array items => items.mapM fun v => optional? Group.ofJson? (some v)
  | _ => none

def kind? (v : Json) : Option Kind :=
  (text? v).map Kind.mk

def ofJson? (v : Json) : Option Rule := do
  match ← fields? ["pattern", "token", "groups", "push", "pop", "goto"] v with
  | some pattern :: token :: groups :: move =>
    return {
      pattern := ← text? pattern
      token := ← optional? kind? token
      groups := ← optional? groups? groups
      move := ← Move.ofFields? move }
  | _ => none

def groupsToJson (gs : List (Option Group)) : Json :=
  .array (gs.map fun g => (g.map Group.toJson).getD .null)

def toJson (r : Rule) : Json :=
  .object (("pattern", .string r.pattern) :: (r.token.map fun k => ("token", .string k.path)).toList ++
    (r.groups.map fun gs => ("groups", groupsToJson gs)).toList ++ r.move.members)

end Rule

namespace Entry

def include? (v : Json) : Option Entry := do
  match ← fields? ["include"] v with
  | [some s] => return .include (← text? s)
  | _ => none

def default? (v : Json) : Option Entry := do
  match ← fields? ["default"] v with
  | [some m] => return .default (← Move.ofJson? m)
  | _ => none

/-- The first form that the value has. -/
def ofJson? (v : Json) : Option Entry :=
  include? v <|> default? v <|> (Rule.ofJson? v).map .rule

def toJson : Entry → Json
  | .include s => .object [("include", .string s)]
  | .default m => .object [("default", .object m.members)]
  | .rule r => r.toJson

end Entry

/-- The entries of a state. -/
def entriesToJson (es : List Entry) : Json :=
  .array (es.map Entry.toJson)

/-- States in order. -/
def statesToJson (states : List (String × List Entry)) : Json :=
  .object (states.map fun s => (s.1, entriesToJson s.2))

/-- A document; limits that are not set are left out. -/
def toJson (d : Document) : Json :=
  .object ([("root", .string d.root), ("multi_line", .bool d.multiLine),
      ("reset_on_newline", .bool d.resetOnNewline)] ++
    (d.maxZeroWidth.map fun n => ("max_zero_width_steps", .natural n)).toList ++
    (d.maxNesting.map fun n => ("max_nesting", .natural n)).toList ++
    [("states", statesToJson d.states)])

/-- The text of a document. -/
def render (d : Document) : String :=
  d.toJson.render

end ModalLexer.Document
