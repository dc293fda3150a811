import ModalLexer.Pattern.Backtracking.Basic
import ModalLexer.Pattern.Regular.Escape

/-!
The backtracking dialect: how the text of a pattern becomes an expression. Groups nest to a bounded depth,
and the reader for what stands inside a group is a parameter of the readers around it.
-/

namespace ModalLexer.Pattern.Backtracking

/-- What is left to read and what has been seen so far. A change of flags holds until the flagged group
around it ends. -/
structure Reader where
  rest : List Char
  flags : Flags := {}
  /-- The length of the whole pattern in bytes. -/
  size : Nat
  groups : Nat := 0
  names : List (String × Nat) := []
  /-- A group has been referred to by its number. -/
  numbered : Bool := false
  /-- The groups that are referred to. -/
  refs : List Nat := []
deriving Inhabited

/-- The reader of a nested expression; there is none where no deeper nesting is allowed. -/
abbrev SubReader := Option (Reader → Except Fault (Expr × Reader))

/-- Reads a nested expression. -/
def SubReader.read (sub : SubReader) (r : Reader) : Except Fault (Expr × Reader) :=
  match sub with
  | some read => read r
  | none => .error .tooDeep

/-! ## Blanks and comments -/

inductive Skipping
  | blanks
  | lineComment
  | groupComment

/-- Drops comments in parentheses, and under the verbose flag blanks and comments to the end of the line. -/
def dropIgnored (verbose : Bool) : Skipping → List Char → Except Fault (List Char)
  | .blanks, '(' :: '?' :: '#' :: cs => dropIgnored verbose .groupComment cs
  | .blanks, c :: cs =>
    if verbose ∧ c = '#' then dropIgnored verbose .lineComment cs
    else if verbose ∧ (c = ' ' ∨ c = '\r' ∨ c = '\n' ∨ c = '\t') then dropIgnored verbose .blanks cs
    else .ok (c :: cs)
  | .lineComment, c :: cs => dropIgnored verbose (if c = '\n' then .blanks else .lineComment) cs
  | .groupComment, ')' :: cs => dropIgnored verbose .blanks cs
  | .groupComment, '\\' :: _ :: cs => dropIgnored verbose .groupComment cs
  | .groupComment, _ :: cs => dropIgnored verbose .groupComment cs
  | .groupComment, [] => .error .unclosedGroup
  | _, [] => .ok []

def Reader.skip (r : Reader) : Except Fault Reader := do
  return { r with rest := ← dropIgnored r.flags.verbose .blanks r.rest }

def Reader.drop (r : Reader) (n : Nat) : Reader :=
  { r with rest := r.rest.drop n }

/-- Does the rest start with the given mark? -/
def Reader.startsWith (r : Reader) (mark : String) : Bool :=
  mark.toList.isPrefixOf r.rest

/-- Steps over a closing parenthesis. -/
def Reader.close (r : Reader) : Except Fault Reader := do
  let r ← r.skip
  match r.rest with
  | ')' :: rest => return { r with rest }
  | _ => throw .unclosedGroup

/-! ## Names and numbers -/

/-- Reads a decimal number below `2 ^ 64`. -/
def readDecimal? (cs : List Char) : Option (Nat × List Char) :=
  let digits := cs.takeWhile Char.isDigit
  let n := digits.foldl (fun n c => 10 * n + (c.toNat - '0'.toNat)) 0
  if digits.isEmpty ∨ 0x10000000000000000 ≤ n then none else some (n, cs.dropWhile Char.isDigit)

def isNameChar (c : Char) : Bool :=
  c = '_' || Unicode.isAlphanumeric c

/-- Divides a text after the name it starts with: letters, digits and underscores, or digits after a minus
sign. -/
def splitName : List Char → List Char × List Char
  | '-' :: cs => ('-' :: cs.takeWhile Char.isDigit, cs.dropWhile Char.isDigit)
  | cs => (cs.takeWhile isNameChar, cs.dropWhile isNameChar)

/-- Reads a name between two marks. -/
def readName? (opening closing : String) (cs : List Char) : Option (String × List Char) :=
  if opening.toList.isPrefixOf cs then
    let (name, after) := splitName (cs.drop opening.length)
    if name.isEmpty ∨ !closing.toList.isPrefixOf after then none
    else some (String.ofList name, after.drop closing.length)
  else
    none

/-- The number of the group that a name refers to: the last group of that name, or the name as a number. A
number below zero counts back from the newest group. -/
def Reader.groupNamed? (r : Reader) (name : String) : Option Nat :=
  match r.names.find? (·.1 = name) with
  | some e => some e.2
  | none =>
    match name.toList with
    | '-' :: digits =>
      match readDecimal? digits with
      | some (0, []) => some 0
      | some (n, []) => if n ≤ r.groups + 1 then some (r.groups + 1 - n) else none
      | _ => none
    | digits =>
      match readDecimal? digits with
      | some (n, []) => some n
      | _ => none

/-- Reads a reference by name; the result is the group's number. -/
def Reader.namedRef (r : Reader) (opening closing : String) : Except Fault (Nat × Reader) :=
  match readName? opening closing r.rest with
  | none => .error .badName
  | some (name, rest) =>
    match r.groupNamed? name with
    | some n => .ok (n, { r with rest, refs := n :: r.refs })
    | none => .error .badName

/-- Reads a reference by number. The number has to be below half the length of the pattern. -/
def Reader.numberedRef (r : Reader) : Except Fault (Nat × Reader) :=
  match readDecimal? r.rest with
  | some (n, rest) =>
    if n < r.size / 2 then .ok (n, { r with rest, numbered := true, refs := n :: r.refs }) else .error .backReference
  | none => .error .backReference

/-- A reference as an expression: the group has to be open already. -/
def Reader.backref (r : Reader) (n : Nat) : Except Fault (Expr × Reader) :=
  if n ≤ r.groups then .ok (.backref n, r) else .error .backReference

/-! ## Escapes and classes -/

/-- Reads hexadecimal digits: so many of them, or up to eight in braces. -/
def readHex (width : Nat) (cs : List Char) : Except Fault (Char × List Char) :=
  let isHex (c : Char) : Bool := (CharSet.hexValue? c).isSome
  let finish (digits rest : List Char) : Except Fault (Char × List Char) :=
    match CharSet.charOfCode? (CharSet.hexNumber (String.ofList digits)) with
    | some c => .ok (c, rest)
    | none => .error .badEscape
  let digits := cs.take width
  if digits.length = width ∧ digits.all isHex then finish digits (cs.drop width)
  else match cs with
    | '{' :: cs =>
      let digits := cs.takeWhile isHex
      match cs.dropWhile isHex with
      | '}' :: rest => if digits.isEmpty ∨ 8 < digits.length then .error .badEscape else finish digits rest
      | _ => .error .badEscape
    | _ => .error .badEscape

/-- What an escape stands for. -/
inductive Escape
  | literal (c : Char) (ignoreCase : Bool)
  /-- A set, as the regular dialect writes it. -/
  | set (text : List Char) (ignoreCase : Bool)
  | other (e : Expr)
deriving Inhabited

/-- The text of a property escape, braces included. -/
def readPropertyText : List Char → Except Fault (List Char × List Char)
  | '{' :: rest =>
    match rest.dropWhile (· ≠ '}') with
    | _ :: after => .ok ('{' :: rest.takeWhile (· ≠ '}') ++ ['}'], after)
    | [] => .error .badEscape
  | c :: rest => .ok ([c], rest)
  | [] => .error .badEscape

/-- Reads an escape that is no reference; the backslash has been read. -/
def readEscape (flags : Flags) (inClass : Bool) : List Char → Except Fault (Escape × List Char)
  | [] => .error .badEscape
  | c :: rest =>
    let assertion (l : Look) : Except Fault (Escape × List Char) :=
      if (c = 'b' ∨ c = 'B') ∧ rest.head? = some '{' then .error .badEscape
      else .ok (.other (.look l), rest)
    let hex (width : Nat) : Except Fault (Escape × List Char) := do
      let (d, rest) ← readHex width rest
      return (.literal d flags.ignoreCase, rest)
    let literal (d : Char) : Except Fault (Escape × List Char) := .ok (.literal d false, rest)
    match c, inClass with
    | 'A', false => assertion .textStart
    | 'z', false => assertion .textEnd
    | 'b', false => assertion (.wordBoundary true)
    | 'B', false => assertion (.notWordBoundary true)
    | '<', false => assertion (.wordStart true)
    | '>', false => assertion (.wordEnd true)
    | 'K', false => .ok (.other .keepOut, rest)
    | 'G', false => .ok (.other .searchStart, rest)
    | 'h', _ => .ok (.set "[0-9A-Fa-f]".toList false, rest)
    | 'H', _ => .ok (.set "[^0-9A-Fa-f]".toList false, rest)
    | 'x', _ => hex 2
    | 'u', _ => hex 4
    | 'U', _ => hex 8
    | 'a', _ => literal '\x07'
    | 'b', _ => literal '\x08'
    | 'f', _ => literal '\x0c'
    | 'n', _ => literal '\n'
    | 'r', _ => literal '\r'
    | 't', _ => literal '\t'
    | 'v', _ => literal '\x0b'
    | 'e', _ => literal '\x1b'
    | c, _ =>
      if "dDsSwW".toList.contains c then .ok (.set ['\\', c] flags.ignoreCase, rest)
      else if c = 'p' ∨ c = 'P' then do
        let (name, rest) ← readPropertyText rest
        return (.set ('\\' :: c :: name) flags.ignoreCase, rest)
      else if c.isAlpha ∧ !"kAzBKG".toList.contains c then .error .badEscape
      else literal c

/-- Reads the inside of a class and writes it for the regular dialect, newest character first. The fuel
bounds the characters. -/
def readClassText (flags : Flags) : (fuel nest : Nat) → List Char → List Char →
    Except Fault (List Char × List Char)
  | 0, _, _, _ => .error .badClass
  | _ + 1, _, _, [] => .error .badClass
  | fuel + 1, nest, out, c :: cs =>
    match c with
    | '\\' => do
      if (cs.head?.map Char.isDigit).getD false then throw .badClass
      match ← readEscape flags true cs with
      | (.literal d _, rest) => readClassText flags fuel nest ((Expr.quote d).reverse ++ out) rest
      | (.set text _, rest) => readClassText flags fuel nest (text.reverse ++ out) rest
      | (.other _, _) => throw .badClass
    | '[' => readClassText flags fuel (nest + 1) ('[' :: out) cs
    | ']' => if nest ≤ 1 then .ok (']' :: out, cs) else readClassText flags fuel (nest - 1) (']' :: out) cs
    | c => readClassText flags fuel nest (c :: out) cs

/-- Reads a class after its opening bracket, and leaves its meaning to the regular dialect. -/
def readClass (flags : Flags) (cs : List Char) : Except Fault (Expr × List Char) := do
  let (out, cs) := match cs with
    | '^' :: cs => (['^', '['], cs)
    | _ => (['['], cs)
  let (out, cs) := match cs with
    | ']' :: cs => (']' :: out, cs)
    | _ => (out, cs)
  let (out, rest) ← readClassText flags (cs.length + 1) 1 out cs
  return (.written out.reverse flags.ignoreCase, rest)

/-! ## Groups -/

/-- Reads a group's body and its closing parenthesis. -/
def readBody (sub : SubReader) (r : Reader) (build : Expr → Expr) : Except Fault (Expr × Reader) := do
  let (e, r) ← sub.read r
  return (build e, ← r.close)

/-- Opens a numbered group, named or not. -/
def Reader.openGroup (r : Reader) (name : Option String) : Reader :=
  let r := { r with groups := r.groups + 1 }
  match name with
  | some n => { r with names := (n, r.groups) :: r.names }
  | none => r

/-- Reads a conditional after its opening parenthesis: a test, and one or two branches. A reference as the
test asks whether its group has matched. -/
def readConditional (sub : SubReader) (r : Reader) : Except Fault (Expr × Reader) := do
  let group (found : Nat × Reader) : Except Fault (Option Nat × Expr × Reader) :=
    if found.1 ≤ found.2.groups then .ok (some found.1, .matched found.1, found.2)
    else .error .backReference
  let (group, cond, r) ← match r.rest with
    | '\'' :: _ => do group (← r.namedRef "'" "'")
    | '<' :: _ => do group (← r.namedRef "<" ">")
    | c :: _ =>
      if c.isDigit then do group (← r.numberedRef)
      else do
        match ← sub.read r with
        | (.backref n, r) => pure (some n, .matched n, r)
        | (e, r) => pure (none, e, r)
    | [] => throw .unclosedGroup
  let r ← r.close
  let start := r.rest.length
  let (body, r) ← sub.read r
  if r.rest.length = start then
    if group.isNone then throw .missingOperand
    return (cond, ← r.close)
  let (yes, no) := match body with
    | .alt [yes, no] => (yes, no)
    | .alt (yes :: rest) => (yes, .alt rest)
    | e => (e, .empty)
  let r ← r.close
  if yes.isEmpty ∧ no.isEmpty then return (cond, r)
  return (.conditional cond yes no, r)

/-- Reads switches after the question mark. They hold from here on, or for the group that they open.
`count` is the number of characters read since the question mark. -/
def readFlags (sub : SubReader) (before : Flags) : (fuel count : Nat) → (negated : Bool) → Reader →
    Except Fault (Expr × Reader)
  | 0, _, _, _ => .error .badFlags
  | fuel + 1, count, negated, r => do
    let skipped ← r.skip
    let count := count + (r.rest.length - skipped.rest.length)
    let r := skipped
    let go (flags : Flags) (negated : Bool) (rest : List Char) : Except Fault (Expr × Reader) :=
      readFlags sub before fuel (count + 1) negated { r with flags, rest }
    match r.rest with
    | [] => throw .unclosedGroup
    | 'i' :: cs => go { r.flags with ignoreCase := !negated } negated cs
    | 'm' :: cs => go { r.flags with multiLine := !negated } negated cs
    | 's' :: cs => go { r.flags with dotAll := !negated } negated cs
    | 'U' :: cs => go { r.flags with swapGreed := !negated } negated cs
    | 'x' :: cs => go { r.flags with verbose := !negated } negated cs
    | 'u' :: cs => if negated then throw .badFlags else go r.flags negated cs
    | '-' :: cs => if negated then throw .badFlags else go r.flags true cs
    | ')' :: rest =>
      if count = 0 ∨ (negated ∧ count = 1) then throw .badFlags
      return (.empty, { r with rest })
    | ':' :: rest =>
      if negated ∧ count = 1 then throw .badFlags
      let (e, r) ← sub.read { r with rest }
      match r.rest with
      | ')' :: rest => return (e, { r with rest, flags := before })
      | _ => throw .unclosedGroup
    | _ => throw .badFlags

/-- Reads a group after its opening parenthesis. -/
def readGroup (sub : SubReader) (r : Reader) : Except Fault (Expr × Reader) := do
  if sub.isNone then throw .tooDeep
  let r ← r.skip
  let named (r : Reader) : Except Fault (Expr × Reader) :=
    match readName? "<" ">" r.rest with
    | some (name, rest) =>
      let r := { r.openGroup (some name) with rest }
      readBody sub r (.group r.groups)
    | none => .error .badName
  if r.startsWith "?=" then readBody sub (r.drop 2) (.ahead false)
  else if r.startsWith "?!" then readBody sub (r.drop 2) (.ahead true)
  else if r.startsWith "?<=" then readBody sub (r.drop 3) (.behind false)
  else if r.startsWith "?<!" then readBody sub (r.drop 3) (.behind true)
  else if r.startsWith "?<" then named (r.drop 1)
  else if r.startsWith "?P<" then named (r.drop 2)
  else if r.startsWith "?P=" then do
    let (n, r) ← (r.drop 3).namedRef "" ")"
    r.backref n
  else if r.startsWith "?>" then readBody sub (r.drop 2) .atomic
  else if r.startsWith "?(" then readConditional sub (r.drop 2)
  else if r.startsWith "?" then readFlags sub r.flags (r.rest.length + 1) 0 false (r.drop 1)
  else
    let r := r.openGroup none
    readBody sub r (.group r.groups)

/-! ## Sequences and alternatives -/

/-- Reads an escape outside a class. -/
def readAtomEscape (r : Reader) : Except Fault (Expr × Reader) := do
  let reference (found : Nat × Reader) : Except Fault (Expr × Reader) := found.2.backref found.1
  match r.rest with
  | 'k' :: '\'' :: _ => reference (← (r.drop 1).namedRef "'" "'")
  | 'k' :: _ => reference (← (r.drop 1).namedRef "<" ">")
  | c :: _ =>
    if c.isDigit then reference (← r.numberedRef)
    else
      let (e, rest) ← readEscape r.flags false r.rest
      let r := { r with rest }
      match e with
      | .literal c fold => return (.literal c fold, r)
      | .set text fold => return (.written text fold, r)
      | .other e => return (e, r)
  | [] => throw .badEscape

/-- Reads one atom; an operator or the end of the expression gives the empty one and is left alone. -/
def readAtom (sub : SubReader) (r : Reader) : Except Fault (Expr × Reader) := do
  let r ← r.skip
  match r.rest with
  | [] => return (.empty, r)
  | c :: rest =>
    let next := { r with rest }
    match c with
    | '.' => return (.any r.flags.dotAll, next)
    | '^' => return (.look (if r.flags.multiLine then .lineStart else .textStart), next)
    | '$' => return (.look (if r.flags.multiLine then .lineEnd else .textEnd), next)
    | '(' => readGroup sub next
    | '\\' => readAtomEscape next
    | '[' =>
      let (e, rest) ← readClass r.flags rest
      return (e, { r with rest })
    | '+' | '*' | '?' | '|' | ')' => return (.empty, r)
    | c => return (.literal c r.flags.ignoreCase, next)

/-- Reads the bounds of a repetition after its brace; a brace without them is no repetition. -/
def readBounds (r : Reader) : Except Fault ((Nat × Option Nat) × Reader) := do
  let r ← r.skip
  let (lo, rest) ← match r.rest, readDecimal? r.rest with
    | ',' :: _, _ => pure (0, r.rest)
    | _, some (n, rest) => pure (n, rest)
    | _, none => throw .badRepetition
  let r ← { r with rest }.skip
  match r.rest with
  | '}' :: rest => return ((lo, if lo = Expr.maxCount then none else some lo), { r with rest })
  | ',' :: rest =>
    let r ← { r with rest }.skip
    let (hi, rest) := match readDecimal? r.rest with
      | some (n, rest) => (if n = Expr.maxCount then none else some n, rest)
      | none => (none, r.rest)
    let r ← { r with rest }.skip
    match r.rest with
    | '}' :: rest => return ((lo, hi), { r with rest })
    | _ => throw .badRepetition
  | _ => throw .badRepetition

/-- Assertions and the empty expression are not repeated. -/
def isRepeatable : Expr → Bool
  | .ahead _ _ | .behind _ _ | .look _ | .empty => false
  | _ => true

/-- Reads what may follow the bounds of a repetition: a question mark prefers fewer, and a plus sign keeps
the first way to match. -/
def readRepetition (e : Expr) (lo : Nat) (hi : Option Nat) (r : Reader) : Except Fault (Expr × Reader) := do
  if !isRepeatable e then throw .missingOperand
  let r ← r.skip
  let (lazy, rest) := match r.rest with
    | '?' :: rest => (true, rest)
    | rest => (false, rest)
  let e := .loop lo hi (lazy == r.flags.swapGreed) e
  match rest with
  | '+' :: rest => return (.atomic e, { r with rest })
  | rest => return (e, { r with rest })

/-- Reads an atom and its repetition. -/
def readPiece (sub : SubReader) (r : Reader) : Except Fault (Expr × Reader) := do
  let (e, r) ← readAtom sub r
  let r ← r.skip
  match r.rest with
  | '?' :: rest => readRepetition e 0 (some 1) { r with rest }
  | '*' :: rest => readRepetition e 0 none { r with rest }
  | '+' :: rest => readRepetition e 1 none { r with rest }
  | '{' :: rest =>
    match readBounds { r with rest } with
    | .ok ((lo, hi), after) => readRepetition e lo hi after
    | .error _ => return (e, r)
  | _ => return (e, r)

/-- Reads pieces for as long as they take characters; the fuel bounds their number. -/
def readPieces (sub : SubReader) : (fuel : Nat) → List Expr → Reader → Except Fault (List Expr × Reader)
  | 0, done, r => .ok (done, r)
  | fuel + 1, done, r =>
    if r.rest.isEmpty then .ok (done, r)
    else do
      let (e, next) ← readPiece sub r
      if next.rest.length = r.rest.length then return (done, r)
      readPieces sub fuel (if e.isEmpty then done else e :: done) next

/-- Reads a sequence of pieces. -/
def readBranch (sub : SubReader) (r : Reader) : Except Fault (Expr × Reader) := do
  match ← readPieces sub (r.rest.length + 1) [] r with
  | ([], r) => return (.empty, r)
  | ([e], r) => return (e, r)
  | (es, r) => return (.seq es.reverse, r)

/-- Reads further alternatives, newest first; the fuel bounds their number. -/
def readBranches (sub : SubReader) : (fuel : Nat) → List Expr → Reader → Except Fault (List Expr × Reader)
  | 0, done, r => .ok (done, r)
  | fuel + 1, done, r =>
    match r.rest with
    | '|' :: rest => do
      let (e, r) ← readBranch sub { r with rest }
      readBranches sub fuel (e :: done) (← r.skip)
    | _ => .ok (done, r)

/-- Reads alternatives. Where there is only one, named groups and references by number exclude each other. -/
def readAlternatives (sub : SubReader) (r : Reader) : Except Fault (Expr × Reader) := do
  let (first, r) ← readBranch sub r
  let r ← r.skip
  match ← readBranches sub (r.rest.length + 1) [first] r with
  | ([e], r) =>
    if r.numbered ∧ !r.names.isEmpty then throw .backReference
    return (e, r)
  | (es, r) => return (.alt es.reverse, r)

/-- Reads an expression with groups nested to the given depth. -/
def readNested : (depth : Nat) → Reader → Except Fault (Expr × Reader)
  | 0 => readAlternatives none
  | depth + 1 => readAlternatives (some (readNested depth))

/-- Groups nest to a smaller depth than this. -/
def maxDepth : Nat := 64

/-- A pattern that has been read: the expression, the number of its groups and those referred to. -/
structure Parsed where
  expr : Expr
  groups : Nat
  refs : List Nat
deriving Inhabited

/-- The expression that a pattern of the backtracking dialect writes. -/
def parse (pattern : String) : Except Fault Parsed := do
  let (e, r) ← readNested (maxDepth - 1) { rest := pattern.toList, size := pattern.utf8ByteSize }
  if !r.rest.isEmpty then throw .trailingText
  return ⟨e, r.groups, r.refs⟩

end ModalLexer.Pattern.Backtracking
