import ModalLexer.Pattern.Regular.Basic

/-!
Reading the parts of a pattern that stand for one character, one set or one assertion: flags, escapes,
and blanks where the verbose flag allows them.
-/

namespace ModalLexer.Pattern

/-- The switches that change how a pattern is read. -/
structure Flags where
  ignoreCase : Bool := false
  multiLine : Bool := false
  dotAll : Bool := false
  swapGreed : Bool := false
  unicode : Bool := true
  carriageReturn : Bool := false
  verbose : Bool := false
deriving DecidableEq, Repr, Inhabited

namespace Regular

/-- What one escape or plain character stands for. -/
inductive Primitive
  /-- A character; `raw` if it was written as a byte of two digits. -/
  | literal (c : Char) (raw : Bool)
  | set (s : CharSet)
  | look (l : Look)
deriving Inhabited

/-- Drops blanks, and comments from `#` to the end of the line. -/
def dropComments : (inComment : Bool) → List Char → List Char
  | _, [] => []
  | true, c :: cs => dropComments (c != '\n') cs
  | false, c :: cs =>
    if Unicode.isWhiteSpace c then dropComments false cs
    else if c = '#' then dropComments true cs
    else c :: cs

/-- Drops what the verbose flag makes meaningless. -/
def skipBlank (flags : Flags) (cs : List Char) : List Char :=
  if flags.verbose then dropComments false cs else cs

/-- Reads hexadecimal digits up to the closing brace. -/
def readBracedHex (flags : Flags) : (fuel : Nat) → List Char → List Char → Except Fault (Char × List Char)
  | 0, _, _ => .error .badEscape
  | fuel + 1, digits, cs =>
    match skipBlank flags cs with
    | [] => .error .badEscape
    | '}' :: rest =>
      if digits.isEmpty then .error .badEscape
      else match CharSet.charOfCode? (CharSet.hexNumber (String.ofList digits.reverse)) with
        | some c => .ok (c, rest)
        | none => .error .badEscape
    | d :: rest =>
      if (CharSet.hexValue? d).isSome then readBracedHex flags fuel (d :: digits) rest
      else .error .badEscape

/-- Reads exactly so many hexadecimal digits. -/
def readHexDigits (flags : Flags) : Nat → Nat → List Char → Except Fault (Char × List Char)
  | 0, n, cs =>
    match CharSet.charOfCode? n with
    | some c => .ok (c, cs)
    | none => .error .badEscape
  | k + 1, n, cs =>
    match skipBlank flags cs with
    | [] => .error .badEscape
    | d :: rest =>
      match CharSet.hexValue? d with
      | some v => readHexDigits flags k (16 * n + v) rest
      | none => .error .badEscape

/-- Reads the rest of a hexadecimal escape of the given width. -/
def readHex (flags : Flags) (width : Nat) (cs : List Char) : Except Fault (Primitive × List Char) :=
  match skipBlank flags cs with
  | '{' :: rest => do
    let (c, rest) ← readBracedHex flags (rest.length + 1) [] rest
    return (.literal c false, rest)
  | cs => do
    let (c, rest) ← readHexDigits flags width 0 cs
    return (.literal c (width = 2), rest)

/-- Splits a text at the first place where it has the given mark. -/
def cutAt? (mark : List Char) : List Char → List Char → Option (String × String)
  | _, [] => none
  | before, c :: cs =>
    if mark.isPrefixOf (c :: cs) then
      some (String.ofList before.reverse, String.ofList ((c :: cs).drop mark.length))
    else
      cutAt? mark (c :: before) cs

/-- The set of a braced property name, with or without a value, and whether the complement is meant. -/
def propertySet? (name : String) : Option (CharSet × Bool) :=
  let cs := name.toList
  match cutAt? ['!', '='] [] cs with
  | some (p, v) => (Unicode.valued? p v).map (·, true)
  | none =>
    match (cutAt? [':'] [] cs).or (cutAt? ['='] [] cs) with
    | some (p, v) => (Unicode.valued? p v).map (·, false)
    | none => (Unicode.named? name).map (·, false)

/-- The set with case ignored if the flags say so. -/
def foldCase (flags : Flags) (s : CharSet) : CharSet :=
  if !flags.ignoreCase then s
  else if flags.unicode then Unicode.caseClosure s
  else Unicode.asciiCaseClosure s

/-- The set, or its complement among characters or among bytes. A set of bytes may hold ASCII only. -/
def negate (flags : Flags) (negated : Bool) (s : CharSet) : Except Fault CharSet :=
  if flags.unicode then .ok (if negated then s.complement else s)
  else
    let s := if negated then s.byteComplement else s
    if s.isAscii then .ok s else .error .invalidEncoding

/-- Reads the name of a property up to the closing brace. -/
def readPropertyName (flags : Flags) : (fuel : Nat) → List Char → List Char → Except Fault (String × List Char)
  | 0, _, _ => .error .badEscape
  | fuel + 1, name, cs =>
    match skipBlank flags cs with
    | [] => .error .badEscape
    | '}' :: rest => .ok (String.ofList name.reverse, rest)
    | c :: rest => readPropertyName flags fuel (c :: name) rest

/-- Reads the rest of a property escape. -/
def readProperty (flags : Flags) (negated : Bool) (cs : List Char) : Except Fault (Primitive × List Char) := do
  if !flags.unicode then throw .invalidEncoding
  let (name, rest) ← match skipBlank flags cs with
    | [] => throw .badEscape
    | '{' :: rest => readPropertyName flags (rest.length + 1) [] rest
    | '\\' :: _ => throw .badEscape
    | c :: rest => pure (c.toString, rest)
  match propertySet? name with
  | some (s, other) => return (.set (← negate flags (negated != other) (foldCase flags s)), rest)
  | none => throw .unknownProperty

/-- One of the classes `\d`, `\s`, `\w`. -/
def shorthandSet (flags : Flags) (unicode ascii : CharSet) (negated : Bool) : Except Fault Primitive := do
  return .set (← negate flags negated (if flags.unicode then unicode else ascii))

/-- Reads the name of a special word boundary after the brace, up to the closing one. -/
def readBoundaryName (flags : Flags) : List Char → (fuel : Nat) → List Char → Except Fault (String × List Char)
  | _, 0, _ => .error .badEscape
  | name, fuel + 1, cs =>
    match skipBlank flags cs with
    | '}' :: rest => .ok (String.ofList name.reverse, rest)
    | c :: rest =>
      if c.isAlpha || c = '-' then readBoundaryName flags (c :: name) fuel rest else .error .badEscape
    | [] => .error .badEscape

/-- Reads what may follow a word boundary: a braced name makes it a special one, while a brace with
something else inside is left as a repetition. -/
def readBoundary (flags : Flags) (cs : List Char) : Except Fault (Primitive × List Char) :=
  match cs with
  | '{' :: inner =>
    match skipBlank flags inner with
    | [] => .error .badEscape
    | c :: rest =>
      if c.isAlpha || c = '-' then do
        let (name, after) ← readBoundaryName flags [] ((c :: rest).length + 1) (c :: rest)
        match name with
        | "start" => return (.look (.wordStart flags.unicode), after)
        | "end" => return (.look (.wordEnd flags.unicode), after)
        | "start-half" => return (.look (.wordStartHalf flags.unicode), after)
        | "end-half" => return (.look (.wordEndHalf flags.unicode), after)
        | _ => throw .badEscape
      else
        .ok (.look (.wordBoundary flags.unicode), cs)
  | _ => .ok (.look (.wordBoundary flags.unicode), cs)

/-- Reads an escape; the backslash has been read. Every ASCII character that is neither a letter nor a
digit stands for itself, the angle brackets apart. -/
def readEscape (flags : Flags) : List Char → Except Fault (Primitive × List Char)
  | [] => .error .badEscape
  | c :: rest =>
    if c.isDigit then .error .backReference
    else match c with
      | 'x' => readHex flags 2 rest
      | 'u' => readHex flags 4 rest
      | 'U' => readHex flags 8 rest
      | 'p' => readProperty flags false rest
      | 'P' => readProperty flags true rest
      | 'd' => do return (← shorthandSet flags Unicode.digit Unicode.asciiDigit false, rest)
      | 'D' => do return (← shorthandSet flags Unicode.digit Unicode.asciiDigit true, rest)
      | 's' => do return (← shorthandSet flags Unicode.whiteSpace Unicode.asciiSpace false, rest)
      | 'S' => do return (← shorthandSet flags Unicode.whiteSpace Unicode.asciiSpace true, rest)
      | 'w' => do return (← shorthandSet flags Unicode.word Unicode.asciiWord false, rest)
      | 'W' => do return (← shorthandSet flags Unicode.word Unicode.asciiWord true, rest)
      | 'a' => .ok (.literal '\x07' false, rest)
      | 'f' => .ok (.literal '\x0c' false, rest)
      | 't' => .ok (.literal '\t' false, rest)
      | 'n' => .ok (.literal '\n' false, rest)
      | 'r' => .ok (.literal '\r' false, rest)
      | 'v' => .ok (.literal '\x0b' false, rest)
      | 'A' => .ok (.look .textStart, rest)
      | 'z' => .ok (.look .textEnd, rest)
      | 'b' => readBoundary flags rest
      | 'B' => .ok (.look (.notWordBoundary flags.unicode), rest)
      | '<' => .ok (.look (.wordStart flags.unicode), rest)
      | '>' => .ok (.look (.wordEnd flags.unicode), rest)
      | c => if c.toNat < 128 ∧ !c.isAlphanum then .ok (.literal c false, rest) else .error .badEscape

end Regular

end ModalLexer.Pattern
