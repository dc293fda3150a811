import ModalLexer.Pattern.Regular.Basic

/-!
Expressions of the backtracking dialect, and what is known of an expression before it is matched: the least
number of characters it takes, whether it always takes as many, and whether an automaton could match it. One
that an automaton can match is written in the regular dialect.
-/

namespace ModalLexer.Pattern.Backtracking

/-- An expression with features that need the history of the match. -/
inductive Expr
  | empty
  /-- Any character, or any but the line feed. -/
  | any (newline : Bool)
  | literal (c : Char) (ignoreCase : Bool)
  /-- One character, as the regular dialect writes it. -/
  | written (text : List Char) (ignoreCase : Bool)
  | look (cond : Look)
  | seq (items : List Expr)
  | alt (branches : List Expr)
  | group (index : Nat) (body : Expr)
  | loop (lo : Nat) (hi : Option Nat) (greedy : Bool) (body : Expr)
  /-- Holds, or fails to hold, of the text after the position. -/
  | ahead (negated : Bool) (body : Expr)
  /-- Holds, or fails to hold, of the text before the position. -/
  | behind (negated : Bool) (body : Expr)
  /-- The text that a group has matched. -/
  | backref (index : Nat)
  /-- A group has matched. -/
  | matched (index : Nat)
  /-- The first way to match is the only one. -/
  | atomic (body : Expr)
  | conditional (cond yes no : Expr)
  /-- The match is taken to start here. -/
  | keepOut
  /-- The search started here. -/
  | searchStart
deriving Inhabited

namespace Expr

/-- The greatest number of 64 bits. A repetition up to so many times is one without a bound. -/
def maxCount : Nat := 0xFFFFFFFFFFFFFFFF

def isEmpty : Expr → Bool
  | empty => true
  | _ => false

mutual

/-- The least number of characters that a match takes. -/
def minSize : Expr → Nat
  | empty => 0
  | any _ => 1
  | literal _ _ => 1
  | written _ _ => 1
  | look _ => 0
  | seq es => sumSizes es
  | alt es => leastSize es
  | group _ e => e.minSize
  | loop lo _ _ e => e.minSize * lo
  | ahead _ _ => 0
  | behind _ _ => 0
  | backref _ => 0
  | matched _ => 0
  | atomic e => e.minSize
  | conditional c y n => c.minSize + min y.minSize n.minSize
  | keepOut => 0
  | searchStart => 0

def sumSizes : List Expr → Nat
  | [] => 0
  | e :: es => e.minSize + sumSizes es

def leastSize : List Expr → Nat
  | [] => 0
  | [e] => e.minSize
  | e :: es => min e.minSize (leastSize es)

end

mutual

/-- The least sizes of the expression and of all its parts fit in 64 bits. -/
def sizesFit : Expr → Bool
  | seq es => allSizesFit es && sumSizes es ≤ maxCount
  | alt es => allSizesFit es
  | group _ e => e.sizesFit
  | loop lo _ _ e => e.sizesFit && e.minSize * lo ≤ maxCount
  | ahead _ e => e.sizesFit
  | behind _ e => e.sizesFit
  | atomic e => e.sizesFit
  | conditional c y n =>
    c.sizesFit && y.sizesFit && n.sizesFit && c.minSize + min y.minSize n.minSize ≤ maxCount
  | _ => true

def allSizesFit : List Expr → Bool
  | [] => true
  | e :: es => e.sizesFit && allSizesFit es

end

mutual

/-- Every match takes the same number of characters. -/
def isConstSize : Expr → Bool
  | empty => true
  | any _ => true
  | literal _ _ => true
  | written _ _ => true
  | look _ => true
  | seq es => allConstSize es
  | alt es => allConstSize es && sameSize es
  | group _ e => e.isConstSize
  | loop lo hi _ e => e.isConstSize && hi.getD maxCount == lo
  | ahead _ _ => true
  | behind _ _ => true
  | backref _ => false
  | matched _ => true
  | atomic e => e.isConstSize
  | conditional c y n =>
    c.isConstSize && y.isConstSize && n.isConstSize && c.minSize + y.minSize == n.minSize
  | keepOut => true
  | searchStart => true

def allConstSize : List Expr → Bool
  | [] => true
  | e :: es => e.isConstSize && allConstSize es

def sameSize : List Expr → Bool
  | [] => true
  | e :: es => es.all (fun f => f.minSize == e.minSize)

end

mutual

/-- No automaton can match the expression; `refs` are the groups that are referred to. A group of varying
size may have to be matched in another way when a reference to it fails. -/
def isHard (refs : List Nat) : Expr → Bool
  | empty => false
  | any _ => false
  | literal _ _ => false
  | written _ _ => false
  | look l =>
    match l with
    | .wordBoundary _ | .notWordBoundary _ | .wordStart _ | .wordEnd _ => true
    | _ => false
  | seq es => anyHard refs es
  | alt es => anyHard refs es
  | group i e => e.isHard refs || (refs.contains i && !e.isConstSize)
  | loop _ _ _ e => e.isHard refs
  | ahead _ _ => true
  | behind _ _ => true
  | backref _ => true
  | matched _ => true
  | atomic _ => true
  | conditional _ _ _ => true
  | keepOut => true
  | searchStart => true

def anyHard (refs : List Nat) : List Expr → Bool
  | [] => false
  | e :: es => e.isHard refs || anyHard refs es

end

mutual

/-- The groups of an expression, in order. -/
def groups : Expr → List Nat
  | seq es => groupsAll es
  | alt es => groupsAll es
  | group i e => i :: e.groups
  | loop _ _ _ e => e.groups
  | ahead _ e => e.groups
  | behind _ e => e.groups
  | atomic e => e.groups
  | conditional c y n => c.groups ++ y.groups ++ n.groups
  | _ => []

def groupsAll : List Expr → List Nat
  | [] => []
  | e :: es => e.groups ++ groupsAll es

end

mutual

/-- The text that an expression stands for, if it is no more than a text. -/
def text? : Expr → Option (List Char)
  | literal c false => some [c]
  | seq es => texts? es
  | _ => none

def texts? : List Expr → Option (List Char)
  | [] => some []
  | e :: es => do return (← e.text?) ++ (← texts? es)

end

/-! ## In the regular dialect -/

/-- A character as the regular dialect writes it. -/
def quote (c : Char) : List Char :=
  if "\\.+*?()|[]\x7b\x7d^$#&-~".toList.contains c then ['\\', c] else [c]

/-- How tightly the parts of an expression hold together. -/
inductive Binding
  | alternative
  | sequence
  | repetition
  | operand
deriving DecidableEq, Repr, Inhabited

def group? (condition : Bool) (opening body : String) : String :=
  if condition then "(?" ++ opening ++ ":" ++ body ++ ")" else body

/-- The bounds of a repetition. -/
def writtenBounds (lo : Nat) (hi : Option Nat) : String :=
  match lo, hi with
  | 0, some 1 => "?"
  | 0, none => "*"
  | 1, none => "+"
  | lo, hi =>
    let upper := if hi.getD maxCount = lo then "" else "," ++ (hi.map toString).getD ""
    "\x7b" ++ toString lo ++ upper ++ "\x7d"

def writtenLook : Look → String
  | .textStart => "^"
  | .textEnd => "$"
  | .lineStart => "(?m:^)"
  | .lineEnd => "(?m:$)"
  | _ => ""

mutual

/-- The expression in the regular dialect, in parentheses where its place asks for it. Features that the
regular dialect lacks leave nothing. -/
def write (place : Binding) : Expr → String
  | empty => ""
  | any newline => if newline then "(?s:.)" else "."
  | literal c ignoreCase => group? ignoreCase "i" (String.ofList (quote c))
  | written text ignoreCase => group? ignoreCase "i" (String.ofList text)
  | look l => writtenLook l
  | seq es => group? (place = .repetition || place = .operand) "" (writeSeq es)
  | alt es => group? (place ≠ .alternative) "" (writeAlt es)
  | group _ e => "(" ++ e.write .alternative ++ ")"
  | loop lo hi greedy e =>
    group? (place = .operand) ""
      (e.write .operand ++ writtenBounds lo hi ++ (if greedy then "" else "?"))
  | _ => ""

/-- Items one after the other. -/
def writeSeq : List Expr → String
  | [] => ""
  | e :: es => e.write .repetition ++ writeSeq es

def writeAlt : List Expr → String
  | [] => ""
  | [e] => e.write .sequence
  | e :: es => e.write .sequence ++ "|" ++ writeAlt es

end

/-- Expressions one after the other, each in a place where alternatives need parentheses. -/
def writeAll (es : List Expr) : String :=
  String.join (es.map (write .sequence))

end Expr

end ModalLexer.Pattern.Backtracking
