import ModalLexer.Text.Shown

/-!
Quoted text: between double quotes, with escapes for quotes, backslashes, line ends, tabs, the null
character, and for every character that would not show on its own. Quoted text can be read back.
-/

namespace ModalLexer.Text

open Pattern (CharSet)

/-! ## Quoting -/

/-- A character by its code point. -/
def escapeCode (c : Char) : List Char :=
  '\\' :: 'u' :: '{' :: Nat.toDigits 16 c.toNat ++ ['}']

/-- A character inside quotes. -/
def escapeChar (c : Char) : List Char :=
  if c = '"' then ['\\', '"']
  else if c = '\\' then ['\\', '\\']
  else if c = '\n' then ['\\', 'n']
  else if c = '\r' then ['\\', 'r']
  else if c = '\t' then ['\\', 't']
  else if c = '\x00' then ['\\', '0']
  else if isShown c then [c]
  else escapeCode c

/-- The text in quotes. -/
def quote (s : String) : String :=
  String.ofList ('"' :: s.toList.flatMap escapeChar ++ ['"'])

/-! ## Reading back -/

/-- Where the reading of quoted text stands. -/
inductive Quoting
  | plain
  /-- After a backslash. -/
  | escape
  /-- Before the braces of a code point. -/
  | brace
  /-- Inside them. -/
  | code (value : Nat)

/-- The character that a letter behind a backslash stands for. -/
def unescape? : Char → Option Char
  | '"' => some '"'
  | '\\' => some '\\'
  | 'n' => some '\n'
  | 'r' => some '\r'
  | 't' => some '\t'
  | '0' => some '\x00'
  | _ => none

/-- Reads on to the closing quote, with which the characters have to end. -/
def readQuoted : Quoting → List Char → Option (List Char)
  | _, [] => none
  | .plain, c :: cs =>
    if c = '"' then if cs.isEmpty then some [] else none
    else if c = '\\' then readQuoted .escape cs
    else (readQuoted .plain cs).map (c :: ·)
  | .escape, c :: cs =>
    if c = 'u' then readQuoted .brace cs
    else (unescape? c).bind fun d => (readQuoted .plain cs).map (d :: ·)
  | .brace, c :: cs => if c = '{' then readQuoted (.code 0) cs else none
  | .code n, c :: cs =>
    if c = '}' then (readQuoted .plain cs).map (Char.ofNat n :: ·)
    else (CharSet.hexValue? c).bind fun d => readQuoted (.code (16 * n + d)) cs

/-- The text that stands in quotes. -/
def unquote : List Char → Option String
  | '"' :: cs => (readQuoted .plain cs).map String.ofList
  | _ => none

end ModalLexer.Text
