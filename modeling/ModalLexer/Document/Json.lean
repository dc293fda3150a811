import ModalLexer.Document.Basic
import ModalLexer.Pattern.CharSet

/-!
Values of the JSON format: reading them from text, and writing them in the compact form. Readers take the
characters that are left and return those that follow. The first fault met from left to right is reported,
and the end of the text is a fault of its own.
-/

namespace ModalLexer

open Pattern (CharSet)

/-- A JSON value. The members of an object keep their order, and names may repeat. Of numbers only the
natural ones of 64 bits are told apart. -/
inductive Json
  | null
  | bool (b : Bool)
  | natural (n : Nat)
  | otherNumber
  | string (s : String)
  | array (items : List Json)
  | object (members : List (String × Json))
deriving Inhabited

namespace Json

/-! ## Blanks, words and strings -/

def isBlank (c : Char) : Bool :=
  c = ' ' || c = '\n' || c = '\t' || c = '\r'

def skipBlank (cs : List Char) : List Char :=
  cs.dropWhile isBlank

/-- Reads the rest of a word. -/
def readWord : (word : List Char) → List Char → Except ReadFault (List Char)
  | [], cs => .ok cs
  | _ :: _, [] => .error .truncated
  | w :: ws, c :: cs => if c = w then readWord ws cs else .error .malformed

/-- The number that four hexadecimal digits write; what is cut off counts in bytes. -/
def readUnit (cs : List Char) : Except ReadFault Nat :=
  let digits := cs.take 4
  if (String.ofList digits).utf8ByteSize < 4 then .error .truncated
  else if digits.length = 4 ∧ digits.all (fun c => (CharSet.hexValue? c).isSome) then
    .ok (CharSet.hexNumber (String.ofList digits))
  else .error .malformed

def isLeadingSurrogate (n : Nat) : Bool := 0xD800 ≤ n && n ≤ 0xDBFF

def isTrailingSurrogate (n : Nat) : Bool := 0xDC00 ≤ n && n ≤ 0xDFFF

/-- Reads the second half of a character that takes two units. -/
def readPair (lead : Nat) : List Char → Except ReadFault Char
  | [] => .error .truncated
  | ['\\'] => .error .truncated
  | '\\' :: 'u' :: cs => do
    let trail ← readUnit cs
    if isTrailingSurrogate trail then
      return Char.ofNat (0x10000 + (lead - 0xD800) * 0x400 + (trail - 0xDC00))
    else throw .malformed
  | _ => .error .malformed

/-- The character that an escape stands for, and the number of characters it takes after the backslash. -/
def readEscape : List Char → Except ReadFault (Char × Nat)
  | [] => .error .truncated
  | c :: cs =>
    match c with
    | '"' => .ok ('"', 1)
    | '\\' => .ok ('\\', 1)
    | '/' => .ok ('/', 1)
    | 'b' => .ok ('\x08', 1)
    | 'f' => .ok ('\x0c', 1)
    | 'n' => .ok ('\n', 1)
    | 'r' => .ok ('\r', 1)
    | 't' => .ok ('\t', 1)
    | 'u' => do
      let n ← readUnit cs
      if isTrailingSurrogate n then throw .malformed
      else if isLeadingSurrogate n then return (← readPair n (cs.drop 4), 11)
      else return (Char.ofNat n, 5)
    | _ => .error .malformed

/-- Reads the characters of a string up to its closing quote; `skip` of them belong to an escape that has
been read. -/
def readChars : (skip : Nat) → List Char → Except ReadFault (List Char × List Char)
  | _, [] => .error .truncated
  | skip + 1, _ :: cs => readChars skip cs
  | 0, c :: cs =>
    if c = '"' then .ok ([], cs)
    else if c = '\\' then do
      let (d, n) ← readEscape cs
      let (ds, rest) ← readChars n cs
      return (d :: ds, rest)
    else if c.toNat < 0x20 then .error .malformed
    else do
      let (ds, rest) ← readChars 0 cs
      return (c :: ds, rest)

/-- Reads a string after its opening quote. -/
def readString (cs : List Char) : Except ReadFault (String × List Char) := do
  let (s, rest) ← readChars 0 cs
  return (String.ofList s, rest)

/-! ## Numbers -/

/-- A number as a whole number of 64 bits times a power of ten. -/
structure Scaled where
  significand : Nat
  exponent : Int
deriving DecidableEq, Repr, Inhabited

def digitValue (c : Char) : Nat := c.toNat - '0'.toNat

/-- The number of a whole part: from the first digit for which there is no room, digits only count. -/
def Scaled.ofWhole : (significand : Nat) → List Char → Scaled
  | n, [] => ⟨n, 0⟩
  | n, c :: cs =>
    if 10 * n + digitValue c < 0x10000000000000000 then ofWhole (10 * n + digitValue c) cs
    else ⟨n, (c :: cs).length⟩

/-- The number with the digits after its point, up to the first for which there is no room. -/
def Scaled.withFraction : Scaled → List Char → Scaled
  | s, [] => s
  | s, c :: cs =>
    if 10 * s.significand + digitValue c < 0x10000000000000000 then
      withFraction ⟨10 * s.significand + digitValue c, s.exponent - 1⟩ cs
    else s

/-- The nearest number with 53 binary digits, an even one of two that are equally near. -/
def nearest53 (n : Nat) : Nat :=
  let unit := Nat.pow 2 (n.log2 - 52)
  let (q, r) := (n / unit, n % unit)
  if 2 * r < unit ∨ (2 * r = unit ∧ q % 2 = 0) then q * unit else (q + 1) * unit

/-- Is a number out of the range of a double? Both its factors are rounded before they are multiplied. -/
def Scaled.isHuge (s : Scaled) : Bool :=
  if s.significand = 0 ∨ s.exponent < 0 then false
  else if 308 < s.exponent then true
  else
    Nat.pow 2 1024 - Nat.pow 2 970 ≤ nearest53 s.significand * nearest53 (Nat.pow 10 s.exponent.toNat)

/-- Reads an exponent after its mark; one beyond 31 bits is taken for infinite. -/
def readExponent (s : Scaled) (cs : List Char) : Except ReadFault (List Char) :=
  let (negative, cs) := match cs with
    | '+' :: cs => (false, cs)
    | '-' :: cs => (true, cs)
    | _ => (false, cs)
  match cs with
  | [] => .error .truncated
  | c :: _ =>
    if c.isDigit then
      let places := (cs.takeWhile Char.isDigit).dropWhile (· == '0')
      let n := (places.take 11).foldl (fun n c => 10 * n + digitValue c) 0
      let huge :=
        if 0x7FFFFFFF < n then !negative && s.significand != 0
        else { s with exponent := if negative then s.exponent - n else s.exponent + n }.isHuge
      if huge then .error .malformed else .ok (cs.dropWhile Char.isDigit)
    else .error .malformed

/-- Reads what may follow the whole part of a number; the result says whether nothing did. -/
def readFraction (digits : List Char) (cs : List Char) : Except ReadFault (Bool × List Char) :=
  let s := Scaled.ofWhole 0 digits
  match cs with
  | '.' :: cs =>
    let places := cs.takeWhile Char.isDigit
    let rest := cs.dropWhile Char.isDigit
    if places.isEmpty then .error (if cs.isEmpty then .truncated else .malformed)
    else
      let s := s.withFraction places
      match rest with
      | 'e' :: rest => do return (false, ← readExponent s rest)
      | 'E' :: rest => do return (false, ← readExponent s rest)
      | _ => if s.isHuge then .error .malformed else .ok (false, rest)
  | 'e' :: rest => do return (false, ← readExponent s rest)
  | 'E' :: rest => do return (false, ← readExponent s rest)
  | _ => if s.isHuge then .error .malformed else .ok (true, cs)

/-- Reads a number after its sign; a whole part of several digits does not start with a zero. -/
def readUnsigned (negative : Bool) (cs : List Char) : Except ReadFault (Json × List Char) :=
  let digits := cs.takeWhile Char.isDigit
  let rest := cs.dropWhile Char.isDigit
  match digits with
  | [] => .error (if cs.isEmpty then .truncated else .malformed)
  | '0' :: _ :: _ => .error .malformed
  | digits => do
    let (whole, rest) ← readFraction digits rest
    let n := digits.foldl (fun n c => 10 * n + digitValue c) 0
    return (if whole ∧ !negative ∧ n < 0x10000000000000000 then .natural n else .otherNumber, rest)

/-! ## Containers -/

/-- What follows inside a container. -/
inductive Next
  | close (rest : List Char)
  | item (rest : List Char)

/-- Finds the next item of an array. -/
def nextItem (first : Bool) (cs : List Char) : Except ReadFault Next :=
  match skipBlank cs with
  | [] => .error .truncated
  | ']' :: rest => .ok (.close rest)
  | c :: rest =>
    if first then .ok (.item (c :: rest))
    else if c = ',' then
      match skipBlank rest with
      | [] => .error .truncated
      | ']' :: _ => .error .malformed
      | rest => .ok (.item rest)
    else .error .malformed

/-- Finds the next name of an object, which follows an opening quote. -/
def nextName (first : Bool) (cs : List Char) : Except ReadFault Next :=
  match skipBlank cs with
  | [] => .error .truncated
  | '}' :: rest => .ok (.close rest)
  | c :: rest =>
    if first then (if c = '"' then .ok (.item rest) else .error .malformed)
    else if c = ',' then
      match skipBlank rest with
      | [] => .error .truncated
      | '"' :: rest => .ok (.item rest)
      | _ => .error .malformed
    else .error .malformed

/-- Steps over the colon after a name. -/
def readColon (cs : List Char) : Except ReadFault (List Char) :=
  match skipBlank cs with
  | [] => .error .truncated
  | ':' :: rest => .ok rest
  | _ => .error .malformed

/-- Reads the items of an array up to its closing bracket; the fuel bounds their number. -/
def readItems (item : List Char → Except ReadFault (α × List Char)) : (fuel : Nat) → (first : Bool) →
    List Char → Except ReadFault (List α × List Char)
  | 0, _, _ => .error .malformed
  | fuel + 1, first, cs => do
    match ← nextItem first cs with
    | .close rest => return ([], rest)
    | .item rest =>
      let (a, rest) ← item rest
      let (as, rest) ← readItems item fuel false rest
      return (a :: as, rest)

/-- Reads the members of an object up to its closing brace, where `member` reads on from the end of a name
and adds to what has been collected; the fuel bounds their number. -/
def readMembers (member : String → σ → List Char → Except ReadFault (σ × List Char)) : (fuel : Nat) →
    (first : Bool) → σ → List Char → Except ReadFault (σ × List Char)
  | 0, _, _, _ => .error .malformed
  | fuel + 1, first, acc, cs => do
    match ← nextName first cs with
    | .close rest => return (acc, rest)
    | .item rest =>
      let (name, rest) ← readString rest
      let (acc, rest) ← member name acc rest
      readMembers member fuel false acc rest

/-- The number of brackets that may be open at once. -/
def maxLevels : Nat := 127

/-- Reads a value with so many levels of brackets. -/
def readValue : (levels : Nat) → List Char → Except ReadFault (Json × List Char)
  | levels, cs =>
    match skipBlank cs with
    | [] => .error .truncated
    | c :: rest =>
      match c with
      | 'n' => do return (.null, ← readWord ['u', 'l', 'l'] rest)
      | 't' => do return (.bool true, ← readWord ['r', 'u', 'e'] rest)
      | 'f' => do return (.bool false, ← readWord ['a', 'l', 's', 'e'] rest)
      | '"' => do
        let (s, rest) ← readString rest
        return (.string s, rest)
      | '-' => readUnsigned true rest
      | '[' =>
        match levels with
        | 0 => .error .malformed
        | levels + 1 => do
          let (items, rest) ← readItems (readValue levels) (rest.length + 1) true rest
          return (.array items, rest)
      | '{' =>
        match levels with
        | 0 => .error .malformed
        | levels + 1 => do
          let member (name : String) (acc : List (String × Json)) (cs : List Char) :
              Except ReadFault (List (String × Json) × List Char) := do
            let (v, rest) ← readValue levels (← readColon cs)
            return ((name, v) :: acc, rest)
          let (members, rest) ← readMembers member (rest.length + 1) true [] rest
          return (.object members.reverse, rest)
      | c => if c.isDigit then readUnsigned false (c :: rest) else .error .malformed

/-! ## Writing -/

/-- A character inside a string. -/
def writeChar (c : Char) : List Char :=
  if c = '"' then ['\\', '"']
  else if c = '\\' then ['\\', '\\']
  else if c = '\n' then ['\\', 'n']
  else if c = '\r' then ['\\', 'r']
  else if c = '\t' then ['\\', 't']
  else if c = '\x08' then ['\\', 'b']
  else if c = '\x0c' then ['\\', 'f']
  else if c.toNat < 0x10 then '\\' :: 'u' :: '0' :: '0' :: '0' :: Nat.toDigits 16 c.toNat
  else if c.toNat < 0x20 then '\\' :: 'u' :: '0' :: '0' :: Nat.toDigits 16 c.toNat
  else [c]

def writeString (s : String) : List Char :=
  '"' :: s.toList.flatMap writeChar ++ ['"']

mutual

/-- A value in the compact form. -/
def write : Json → List Char
  | null => ['n', 'u', 'l', 'l']
  | bool true => ['t', 'r', 'u', 'e']
  | bool false => ['f', 'a', 'l', 's', 'e']
  | natural n => Nat.toDigits 10 n
  | otherNumber => ['-', '0']
  | string s => writeString s
  | array items => '[' :: writeItems items ++ [']']
  | object members => '{' :: writeMembers members ++ ['}']

/-- Items divided by commas. -/
def writeItems : List Json → List Char
  | [] => []
  | [v] => write v
  | v :: w :: vs => write v ++ ',' :: writeItems (w :: vs)

/-- Members divided by commas. -/
def writeMembers : List (String × Json) → List Char
  | [] => []
  | [(k, v)] => writeString k ++ ':' :: write v
  | (k, v) :: m :: ms => writeString k ++ ':' :: write v ++ ',' :: writeMembers (m :: ms)

end

/-- The compact form as text. -/
def render (v : Json) : String :=
  String.ofList v.write

end Json

end ModalLexer
