/-!
Kinds of tokens: dotted paths in an open hierarchy, such as `String.Escape` below `String`.
-/

namespace ModalLexer

/-- The classification of a token. -/
structure Kind where
  path : String
deriving DecidableEq, Repr, Inhabited

namespace Kind

/-- Plain text: what no rule classifies. -/
def text : Kind := ⟨"Text"⟩

/-- Text that no rule matches. -/
def error : Kind := ⟨"Error"⟩

def prompt : Kind := ⟨"Generic.Prompt"⟩

def output : Kind := ⟨"Generic.Output"⟩

def traceback : Kind := ⟨"Generic.Traceback"⟩

/-- The parts of a path between its dots; there is always one. -/
def splitDots : List Char → List (List Char)
  | [] => [[]]
  | c :: cs =>
    if c = '.' then [] :: splitDots cs
    else match splitDots cs with
      | [] => [[c]]
      | p :: ps => (c :: p) :: ps

/-- What stands before the last dot. -/
def beforeLastDot? : List Char → Option (List Char)
  | [] => none
  | c :: cs =>
    match beforeLastDot? cs with
    | some p => some (c :: p)
    | none => if c = '.' then some [] else none

/-- The components of the path, the most general first. -/
def components (k : Kind) : List String :=
  (splitDots k.path.toList).map String.ofList

def depth (k : Kind) : Nat :=
  k.components.length

/-- The kind that encloses this one. -/
def parent? (k : Kind) : Option Kind :=
  (beforeLastDot? k.path.toList).map fun p => ⟨String.ofList p⟩

/-- A kind below this one. -/
def child (k : Kind) (name : String) : Kind :=
  ⟨k.path ++ "." ++ name⟩

/-- The enclosing kinds, the nearest first; the fuel bounds their number. -/
def ancestorsFrom : Nat → Kind → List Kind
  | 0, _ => []
  | n + 1, k =>
    match k.parent? with
    | some p => p :: ancestorsFrom n p
    | none => []

def ancestors (k : Kind) : List Kind :=
  ancestorsFrom k.depth k

/-- Is the kind the other one, or below it? The path goes on with a dot, if at all. -/
def isSubkindOf (k other : Kind) : Bool :=
  let path := k.path.toList
  let above := other.path.toList
  above.isPrefixOf path &&
    match path.drop above.length with
    | [] => true
    | c :: _ => c == '.'

instance : Ord Kind where
  compare a b := compare a.path b.path

end Kind

end ModalLexer
