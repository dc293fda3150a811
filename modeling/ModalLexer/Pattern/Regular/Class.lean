import ModalLexer.Pattern.Regular.Escape

/-!
Bracket classes: members, ranges, nested classes, named ASCII classes, and the three operators, which are
applied from left to right.
-/

namespace ModalLexer.Pattern.Regular

/-- The operators between the parts of a class. -/
inductive SetOp
  | intersection
  | difference
  | symmetricDifference
deriving DecidableEq, Repr, Inhabited

def SetOp.apply : SetOp → CharSet → CharSet → CharSet
  | .intersection => .inter
  | .difference => .diff
  | .symmetricDifference => .symmDiff

/-- A set as written, with the depth of its nesting. -/
structure Nested where
  set : CharSet
  depth : Nat := 0
deriving Inhabited

/-- Members that stand side by side; two or more are one level deeper than the deepest of them. -/
def Nested.union : List Nested → Nested
  | [] => ⟨.empty, 0⟩
  | [m] => m
  | ms => ⟨.unions (ms.map (·.set)), ms.foldl (fun n m => max n m.depth) 0 + 1⟩

/-- A class that has been opened and not closed: the members before it in the class around it, the operator
that waits there for its right side, and whether the class around it is negated. -/
structure OpenClass where
  outer : List Nested
  outerOp : Option (SetOp × Nested)
  negated : Bool
deriving Inhabited

/-- The ASCII classes that are written by name. -/
def asciiClasses : List (String × CharSet) := [
  ("alnum", .ofTable "30-39 41-5a 61-7a"), ("alpha", .ofTable "41-5a 61-7a"), ("ascii", .ofTable "0-7f"),
  ("blank", .ofTable "9 20"), ("cntrl", .ofTable "0-1f 7f"), ("digit", .ofTable "30-39"),
  ("graph", .ofTable "21-7e"), ("lower", .ofTable "61-7a"), ("print", .ofTable "20-7e"),
  ("punct", .ofTable "21-2f 3a-40 5b-60 7b-7e"), ("space", .ofTable "9-d 20"), ("upper", .ofTable "41-5a"),
  ("word", .ofTable "30-39 41-5a 5f 61-7a"), ("xdigit", .ofTable "30-39 41-46 61-66")]

/-- Reads a named ASCII class after its bracket, if there is one: the class, and whether it is negated. -/
def readNamed? : List Char → Option ((CharSet × Bool) × List Char)
  | ':' :: rest =>
    let (negated, rest) := match rest with
      | '^' :: rest => (true, rest)
      | _ => (false, rest)
    match rest.dropWhile (· ≠ ':') with
    | ':' :: ']' :: after =>
      let name := String.ofList (rest.takeWhile (· ≠ ':'))
      (asciiClasses.find? (·.1 = name)).map fun e => ((e.2, negated), after)
    | _ => none
  | _ => none

/-- Literal hyphens at the start of a class. -/
def leadingHyphens (flags : Flags) : (fuel : Nat) → List Nested → List Char →
    Except Fault (List Nested × List Char)
  | 0, _, _ => .error .badClass
  | fuel + 1, members, cs =>
    match skipBlank flags cs with
    | [] => .error .badClass
    | '-' :: rest => leadingHyphens flags fuel (⟨.single '-', 0⟩ :: members) rest
    | cs => .ok (members, cs)

/-- Reads what may follow an opening bracket: the negation, hyphens that stand for themselves, and a closing
bracket that does so when it comes first. -/
def readOpening (flags : Flags) (cs : List Char) : Except Fault ((Bool × List Nested) × List Char) := do
  let (negated, cs) := match skipBlank flags cs with
    | '^' :: rest => (true, rest)
    | cs => (false, cs)
  let (members, cs) ← leadingHyphens flags (cs.length + 1) [] cs
  match members, cs with
  | [], ']' :: rest =>
    if (skipBlank flags rest).isEmpty then throw .badClass
    return ((negated, [⟨.single ']', 0⟩]), rest)
  | _, _ => return ((negated, members), cs)

/-- One side of a range, or a member. -/
def readMember (flags : Flags) : List Char → Except Fault (Primitive × List Char)
  | [] => .error .badClass
  | '\\' :: rest => readEscape flags rest
  | c :: rest => .ok (.literal c false, rest)

/-- A character as a member of a class; without the Unicode flag it has to be ASCII. -/
def memberChar (flags : Flags) : Primitive → Except Fault Char
  | .literal c _ => if flags.unicode ∨ c.toNat < 128 then .ok c else .error .invalidEncoding
  | _ => .error .badClass

def memberSet (flags : Flags) : Primitive → Except Fault CharSet
  | .set s => .ok s
  | .look _ => .error .badClass
  | p => (memberChar flags p).map .single

/-- The first character that is no blank, or that follows a `#` and is no blank; where there is none, the
first character. -/
def peekBeyond (cs : List Char) : Option Char :=
  let beyond := cs.dropWhile Unicode.isWhiteSpace
  let beyond := match beyond with
    | '#' :: rest => rest.dropWhile Unicode.isWhiteSpace
    | _ => beyond
  beyond.head?.or cs.head?

/-- The character that decides whether a hyphen before it makes a range. -/
def peekAfterHyphen (flags : Flags) (cs : List Char) : Option Char :=
  if flags.verbose then peekBeyond cs else cs.head?

/-- Reads a member or a range. A hyphen before the closing bracket or before another hyphen makes none. -/
def readRange (flags : Flags) (cs : List Char) : Except Fault (CharSet × List Char) := do
  let (first, cs) ← readMember flags cs
  match skipBlank flags cs with
  | [] => throw .badClass
  | '-' :: rest =>
    let peeked := peekAfterHyphen flags rest
    if peeked = some ']' ∨ peeked = some '-' then
      return (← memberSet flags first, '-' :: rest)
    let (second, cs) ← readMember flags (skipBlank flags rest)
    let a ← memberChar flags first
    let b ← memberChar flags second
    if b < a then throw .badClass
    return (.range a b, cs)
  | cs => return (← memberSet flags first, cs)

/-- The members so far, joined to the operator that waits for them. -/
def closePart (flags : Flags) (op : Option (SetOp × Nested)) (members : List Nested) : Nested :=
  let right := Nested.union members
  match op with
  | none => right
  | some (op, left) =>
    ⟨op.apply (foldCase flags left.set) (foldCase flags right.set), max left.depth right.depth + 1⟩

/-- Reads the inside of a class up to the bracket that closes it. The fuel bounds the characters. -/
def readClassParts (flags : Flags) : (fuel : Nat) → List OpenClass → Option (SetOp × Nested) →
    List Nested → Bool → List Char → Except Fault (Nested × List Char)
  | 0, _, _, _, _, _ => .error .badClass
  | fuel + 1, stack, op, members, negated, cs =>
    let operator (o : SetOp) (rest : List Char) : Except Fault (Nested × List Char) :=
      readClassParts flags fuel stack (some (o, closePart flags op members)) [] negated rest
    match skipBlank flags cs with
    | [] => .error .badClass
    | '[' :: rest =>
      match readNamed? rest with
      | some ((s, other), rest) => do
        let s ← negate flags other (foldCase flags s)
        readClassParts flags fuel stack op (⟨s, 0⟩ :: members) negated rest
      | none => do
        let ((inner, first), rest) ← readOpening flags rest
        readClassParts flags fuel (⟨members, op, negated⟩ :: stack) none first inner rest
    | ']' :: rest => do
      let part := closePart flags op members
      let closed : Nested := ⟨← negate flags negated (foldCase flags part.set), part.depth + 1⟩
      match stack with
      | [] => return (closed, rest)
      | o :: stack => readClassParts flags fuel stack o.outerOp (closed :: o.outer) o.negated rest
    | '&' :: '&' :: rest => operator .intersection rest
    | '-' :: '-' :: rest => operator .difference rest
    | '~' :: '~' :: rest => operator .symmetricDifference rest
    | cs => do
      let (s, rest) ← readRange flags cs
      readClassParts flags fuel stack op (⟨s, 0⟩ :: members) negated rest

/-- Reads a class after its opening bracket. Without the Unicode flag it may hold ASCII characters only. -/
def readClass (flags : Flags) (cs : List Char) : Except Fault (Nested × List Char) := do
  let ((negated, first), cs) ← readOpening flags cs
  readClassParts flags (cs.length + 1) [] none first negated cs

end ModalLexer.Pattern.Regular
