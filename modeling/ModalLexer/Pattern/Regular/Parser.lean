import ModalLexer.Pattern.Regular.Class
import ModalLexer.Pattern.Regular.Size

/-!
The regular dialect: the text of a pattern is read from left to right with the open groups on a stack, and
becomes an expression for an automaton.
-/

namespace ModalLexer.Pattern.Regular

/-- An element of a sequence, with the depth of its nesting. A change of flags is an element too, one that
cannot be repeated. -/
structure Item where
  expr : Regular
  depth : Nat
  repeatable : Bool := true
deriving Inhabited

/-- A group that has been opened: what stood before it, and the flags to return to. -/
structure OpenGroup where
  items : List Item
  branches : List Item
  flags : Flags
  index : Option Nat
deriving Inhabited

/-- The reader's state: the current sequence and the finished alternatives, both newest first. -/
structure Builder where
  items : List Item := []
  branches : List Item := []
  flags : Flags := {}
  stack : List OpenGroup := []
  groups : Nat := 0
  names : List String := []
deriving Inhabited

def maxDepth (items : List Item) : Nat :=
  items.foldl (fun n i => max n i.depth) 0

/-- A sequence as one element. -/
def Item.seq : List Item → Item
  | [] => { expr := .empty, depth := 0 }
  | [i] => i
  | items => { expr := seqOf (items.reverse.map (·.expr)), depth := maxDepth items + 1 }

/-- Alternatives as one element. -/
def Item.alt : List Item → Item
  | [] => { expr := .empty, depth := 0 }
  | [i] => i
  | items => { expr := altOf (items.reverse.map (·.expr)), depth := maxDepth items + 1 }

def Builder.push (b : Builder) (expr : Regular) (depth : Nat) : Builder :=
  { b with items := { expr, depth } :: b.items }

/-- Everything read since the innermost open group. -/
def Builder.finish (b : Builder) : Item :=
  .alt (.seq b.items :: b.branches)

/-- Repeats the last element. -/
def Builder.repeatLast (b : Builder) (lo : Nat) (hi : Option Nat) (lazy : Bool) : Except Fault Builder :=
  match b.items with
  | [] => .error .missingOperand
  | i :: rest =>
    if i.repeatable then
      .ok { b with items :=
        { expr := repeated lo hi (lazy == b.flags.swapGreed) i.expr, depth := i.depth + 1 } :: rest }
    else
      .error .missingOperand

/-! ## Repetition -/

/-- A question mark after a repetition makes it prefer fewer. -/
def readLazy : List Char → Bool × List Char
  | '?' :: rest => (true, rest)
  | cs => (false, cs)

/-- Reads decimal digits; under the verbose flag there may be blanks and comments after each. The fuel
bounds their number. -/
def readDigits (flags : Flags) : (fuel : Nat) → List Char → List Char → List Char × List Char
  | 0, digits, cs => (digits.reverse, cs)
  | _, digits, [] => (digits.reverse, [])
  | fuel + 1, digits, c :: cs =>
    if c.isDigit then readDigits flags fuel (c :: digits) (skipBlank flags cs)
    else (digits.reverse, c :: cs)

/-- Reads a number below `2 ^ 32`, with blanks around it; `none` if there is no digit. -/
def readCount (flags : Flags) (cs : List Char) : Except Fault (Option Nat × List Char) :=
  let (digits, rest) := readDigits flags (cs.length + 1) [] (cs.dropWhile Unicode.isWhiteSpace)
  let rest := rest.dropWhile Unicode.isWhiteSpace
  let n := digits.foldl (fun n c => 10 * n + (c.toNat - '0'.toNat)) 0
  if digits.isEmpty then .ok (none, rest)
  else if n < 0x100000000 then .ok (some n, rest)
  else .error .badRepetition

/-- Reads the bounds of a repetition after its brace. -/
def readBounds (flags : Flags) (cs : List Char) : Except Fault ((Nat × Option Nat) × List Char) := do
  let (lo, cs) ← readCount flags (skipBlank flags cs)
  match cs, lo with
  | '}' :: rest, some lo => return ((lo, some lo), rest)
  | ',' :: rest, some lo =>
    match skipBlank flags rest with
    | '}' :: rest => return ((lo, none), rest)
    | cs =>
      match ← readCount flags cs with
      | (some hi, '}' :: rest) =>
        if hi < lo then throw .badRepetition
        return ((lo, some hi), rest)
      | _ => throw .badRepetition
  | _, _ => throw .badRepetition

/-! ## Groups and flags -/

/-- A switch by its letter. -/
def flagSetter? : Char → Option (Flags → Bool → Flags)
  | 'i' => some fun f v => { f with ignoreCase := v }
  | 'm' => some fun f v => { f with multiLine := v }
  | 's' => some fun f v => { f with dotAll := v }
  | 'U' => some fun f v => { f with swapGreed := v }
  | 'u' => some fun f v => { f with unicode := v }
  | 'R' => some fun f v => { f with carriageReturn := v }
  | 'x' => some fun f v => { f with verbose := v }
  | _ => none

/-- Reads switches up to the mark that ends them, which is returned. A switch occurs once, and a minus sign
has to be followed by one. -/
def readFlags : Flags → (seen : List Char) → (negated dangling : Bool) → List Char →
    Except Fault ((Flags × Bool × Char) × List Char)
  | _, _, _, _, [] => .error .badFlags
  | flags, seen, negated, dangling, c :: cs =>
    if c = ':' ∨ c = ')' then
      if dangling then .error .badFlags else .ok ((flags, seen.isEmpty, c), cs)
    else if c = '-' then
      if negated then .error .badFlags else readFlags flags (c :: seen) true true cs
    else
      match flagSetter? c with
      | some set =>
        if seen.contains c then .error .badFlags
        else readFlags (set flags (!negated)) (c :: seen) negated false cs
      | none => .error .badFlags

/-- May the character stand in a group's name, at its start or later? -/
def isNameChar (first : Bool) (c : Char) : Bool :=
  if first then c = '_' || Unicode.isAlphabetic c
  else c = '_' || c = '.' || c = '[' || c = ']' || Unicode.isAlphanumeric c

/-- Reads a group's name up to the angle bracket. -/
def readName : List Char → List Char → Except Fault (String × List Char)
  | _, [] => .error .badName
  | name, c :: cs =>
    if c = '>' then
      if name.isEmpty then .error .badName else .ok (String.ofList name.reverse, cs)
    else if isNameChar name.isEmpty c then readName (c :: name) cs
    else .error .badName

/-- Opens a group, numbered or not. -/
def Builder.openGroup (b : Builder) (flags : Flags) (index : Option Nat) : Builder :=
  { b with
    items := [], branches := [], flags
    stack := ⟨b.items, b.branches, b.flags, index⟩ :: b.stack }

/-- Opens a numbered group. -/
def Builder.openCapture (b : Builder) : Builder :=
  { b.openGroup b.flags (some (b.groups + 1)) with groups := b.groups + 1 }

/-- Reads what follows an opening parenthesis. -/
def readGroup (b : Builder) (cs : List Char) : Except Fault (Builder × List Char) :=
  let named (cs : List Char) : Except Fault (Builder × List Char) := do
    let (name, rest) ← readName [] cs
    if b.names.contains name then throw .badName
    return ({ b.openCapture with names := name :: b.names }, rest)
  match skipBlank b.flags cs with
  | '?' :: '=' :: _ => .error .lookAround
  | '?' :: '!' :: _ => .error .lookAround
  | '?' :: '<' :: '=' :: _ => .error .lookAround
  | '?' :: '<' :: '!' :: _ => .error .lookAround
  | '?' :: 'P' :: '<' :: rest => named rest
  | '?' :: '<' :: rest => named rest
  | '?' :: rest => do
    let ((flags, none_, mark), rest) ← readFlags b.flags [] false false rest
    if mark = ')' then
      if none_ then throw .missingOperand
      return ({ b with items := { expr := .empty, depth := 0, repeatable := false } :: b.items, flags }, rest)
    else
      return (b.openGroup flags none, rest)
  | cs => .ok (b.openCapture, cs)

/-- Closes the innermost group. -/
def Builder.closeGroup (b : Builder) : Except Fault Builder :=
  match b.stack with
  | [] => .error .unopenedGroup
  | g :: stack =>
    let body := b.finish
    let expr := match g.index with
      | some i => .group i body.expr
      | none => body.expr
    .ok { b with
      items := { expr, depth := body.depth + 1 } :: g.items
      branches := g.branches, flags := g.flags, stack }

/-! ## The whole pattern -/

/-- What the point matches. -/
def dot (flags : Flags) : Except Fault Regular :=
  if !flags.unicode then .error .invalidEncoding
  else if flags.dotAll then .ok (.ofSet false .all)
  else if flags.carriageReturn then .ok (.ofSet false (CharSet.ofTable "a d").complement)
  else .ok (.ofSet false (CharSet.single '\n').complement)

def lineStart (flags : Flags) : Look :=
  if flags.multiLine then (if flags.carriageReturn then .lineStartCR else .lineStart) else .textStart

def lineEnd (flags : Flags) : Look :=
  if flags.multiLine then (if flags.carriageReturn then .lineEndCR else .lineEnd) else .textEnd

/-- A character as an expression, in either case if the flags say so. Without the Unicode flag only ASCII
letters have a case. -/
def literal (flags : Flags) (c : Char) : Regular :=
  if !flags.ignoreCase then .text [c]
  else if flags.unicode then
    if Unicode.hasCase c then .ofSet false (Unicode.caseClosure (.single c)) else .text [c]
  else if c.isAlpha then .ofSet true (Unicode.asciiCaseClosure (.single c))
  else .text [c]

/-- A primitive as an expression. A lone byte beyond ASCII is no character. -/
def Primitive.toRegular (flags : Flags) : Primitive → Except Fault Regular
  | .literal c raw =>
    if !flags.unicode ∧ raw ∧ 128 ≤ c.toNat then .error .invalidEncoding else .ok (Regular.literal flags c)
  | .set s => .ok (.ofSet (!flags.unicode) s)
  | .look l => .ok (.look l)

/-- Reads one element, or an operator on what was read before it. -/
def readNext (b : Builder) : List Char → Except Fault (Builder × List Char)
  | [] => .ok (b, [])
  | c :: rest =>
    match c with
    | '(' => readGroup b rest
    | ')' => do return (← b.closeGroup, rest)
    | '|' => .ok ({ b with items := [], branches := .seq b.items :: b.branches }, rest)
    | '[' => do
      let (s, rest) ← readClass b.flags rest
      return (b.push (.ofSet (!b.flags.unicode) s.set) s.depth, rest)
    | '?' => do let (lazy, rest) := readLazy rest; return (← b.repeatLast 0 (some 1) lazy, rest)
    | '*' => do let (lazy, rest) := readLazy rest; return (← b.repeatLast 0 none lazy, rest)
    | '+' => do let (lazy, rest) := readLazy rest; return (← b.repeatLast 1 none lazy, rest)
    | '{' => do
      let ((lo, hi), rest) ← readBounds b.flags rest
      let (lazy, rest) := readLazy (skipBlank b.flags rest)
      return (← b.repeatLast lo hi lazy, rest)
    | '\\' => do
      let (p, rest) ← readEscape b.flags rest
      return (b.push (← p.toRegular b.flags) 0, rest)
    | '.' => do return (b.push (← dot b.flags) 0, rest)
    | '^' => .ok (b.push (.look (lineStart b.flags)) 0, rest)
    | '$' => .ok (b.push (.look (lineEnd b.flags)) 0, rest)
    | c => do return (b.push (← (Primitive.literal c false).toRegular b.flags) 0, rest)

/-- Reads to the end of the pattern; each element takes a character, so their number bounds the fuel. -/
def readAll : (fuel : Nat) → Builder → List Char → Except Fault Builder
  | 0, _, _ => .error .trailingText
  | fuel + 1, b, cs =>
    match skipBlank b.flags cs with
    | [] => .ok b
    | cs => do
      let (b, rest) ← readNext b cs
      readAll fuel b rest

/-- The greatest depth of nesting. -/
def maxNesting : Nat := 250

/-- The expression that a pattern of the regular dialect writes. It must not be nested too deeply, nor need
too large an automaton. -/
def parse (pattern : String) : Except Fault Regular := do
  let cs := pattern.toList
  let b ← readAll (cs.length + 1) {} cs
  if !b.stack.isEmpty then throw .unclosedGroup
  let whole := b.finish
  if maxNesting < whole.depth then throw .tooDeep
  if !whole.expr.fits then throw .tooLarge
  return whole.expr

end ModalLexer.Pattern.Regular
