import ModalLexer.Document.Form

/-!
Reading a document from its text. The document, its map of states and the lists of entries are checked as
they are read; an entry is read as a whole value first and then taken for one of its forms.
-/

namespace ModalLexer.Document

open Json (skipBlank readString readWord readUnsigned readValue readColon readItems readMembers nextItem)

/-- The fault of a value that is not of the form expected: a value that cannot be read comes first. -/
def faultAt (cs : List Char) : ReadFault :=
  match skipBlank cs with
  | '[' :: _ => .mismatch
  | '{' :: _ => .mismatch
  | cs =>
    match readValue 0 cs with
    | .ok _ => .mismatch
    | .error f => f

def readText (cs : List Char) : Except ReadFault (String × List Char) :=
  match skipBlank cs with
  | '"' :: rest => readString rest
  | cs => .error (faultAt cs)

def readBool (cs : List Char) : Except ReadFault (Bool × List Char) :=
  match skipBlank cs with
  | 't' :: rest => do return (true, ← readWord ['r', 'u', 'e'] rest)
  | 'f' :: rest => do return (false, ← readWord ['a', 'l', 's', 'e'] rest)
  | cs => .error (faultAt cs)

/-- A natural number or null. -/
def readLimit (cs : List Char) : Except ReadFault (Option Nat × List Char) := do
  match skipBlank cs with
  | 'n' :: rest => return (none, ← readWord ['u', 'l', 'l'] rest)
  | cs =>
    match ← (readValue 0 cs).mapError fun _ => faultAt cs with
    | (.natural n, rest) => return (some n, rest)
    | _ => throw .mismatch

/-- Reads an entry. -/
def readEntry (levels : Nat) (cs : List Char) : Except ReadFault (Entry × List Char) := do
  let (v, rest) ← readValue levels cs
  match Entry.ofJson? v with
  | some e => return (e, rest)
  | none => throw .mismatch

/-- Reads a list of entries, with so many levels of brackets left. -/
def readEntries : (levels : Nat) → List Char → Except ReadFault (List Entry × List Char)
  | levels, cs =>
    match skipBlank cs with
    | '[' :: rest =>
      match levels with
      | 0 => .error .malformed
      | levels + 1 => readItems (readEntry levels) (rest.length + 1) true rest
    | cs => .error (faultAt cs)

/-- Reads the map of states. -/
def readStates : (levels : Nat) → List Char → Except ReadFault (List (String × List Entry) × List Char)
  | levels, cs =>
    match skipBlank cs with
    | '{' :: rest =>
      match levels with
      | 0 => .error .malformed
      | levels + 1 => do
        let state (name : String) (acc : List (String × List Entry)) (cs : List Char) :
            Except ReadFault (List (String × List Entry) × List Char) := do
          let (entries, rest) ← readEntries levels (← readColon cs)
          return ((name, entries) :: acc, rest)
        let (states, rest) ← readMembers state (rest.length + 1) true [] rest
        return (states.reverse, rest)
    | cs => .error (faultAt cs)

/-! ## The document -/

/-- The fields of a document. -/
inductive Field
  | root
  | multiLine
  | resetOnNewline
  | maxZeroWidth
  | maxNesting
  | states
deriving DecidableEq, Repr, Inhabited

def Field.all : List Field :=
  [.root, .multiLine, .resetOnNewline, .maxZeroWidth, .maxNesting, .states]

def Field.name : Field → String
  | root => "root"
  | multiLine => "multi_line"
  | resetOnNewline => "reset_on_newline"
  | maxZeroWidth => "max_zero_width_steps"
  | maxNesting => "max_nesting"
  | states => "states"

def Field.ofName? (name : String) : Option Field :=
  Field.all.find? fun f => f.name == name

/-- A document of which some fields have been read. -/
structure Draft where
  seen : List Field := []
  document : Document := { states := [] }
deriving Inhabited

/-- Reads the value of a field. -/
def readField (f : Field) (d : Draft) (cs : List Char) : Except ReadFault (Draft × List Char) :=
  let put (document : Document) (rest : List Char) : Draft × List Char :=
    ({ seen := f :: d.seen, document }, rest)
  match f with
  | .root => do
    let (root, rest) ← readText cs
    return put { d.document with root } rest
  | .multiLine => do
    let (multiLine, rest) ← readBool cs
    return put { d.document with multiLine } rest
  | .resetOnNewline => do
    let (resetOnNewline, rest) ← readBool cs
    return put { d.document with resetOnNewline } rest
  | .maxZeroWidth => do
    let (maxZeroWidth, rest) ← readLimit cs
    return put { d.document with maxZeroWidth } rest
  | .maxNesting => do
    let (maxNesting, rest) ← readLimit cs
    return put { d.document with maxNesting } rest
  | .states => do
    let (states, rest) ← readStates (Json.maxLevels - 1) cs
    return put { d.document with states } rest

/-- Reads a member of a document: its name has to be that of a field that has not been read. -/
def readMember (name : String) (d : Draft) (cs : List Char) : Except ReadFault (Draft × List Char) :=
  match Field.ofName? name with
  | none => .error .mismatch
  | some f => if d.seen.contains f then .error .mismatch else do readField f d (← readColon cs)

/-- Reads fields in order, for as long as there are items. Returns what follows the last item read. -/
def readInOrder : List Field → (first : Bool) → Draft → List Char → Except ReadFault (Draft × List Char)
  | [], _, d, cs => .ok (d, cs)
  | f :: fs, first, d, cs => do
    match ← nextItem first cs with
    | .close _ => return (d, cs)
    | .item rest =>
      let (d, rest) ← readField f d rest
      readInOrder fs false d rest

/-- The document, which has to have states. -/
def Draft.finish (d : Draft) : Except ReadFault Document :=
  if d.seen.contains .states then .ok d.document else .error .mismatch

/-- Steps over the closing bracket of a document that is written as an array. -/
def readClosing (cs : List Char) : Except ReadFault (List Char) :=
  match skipBlank cs with
  | [] => .error .truncated
  | ']' :: rest => .ok rest
  | _ => .error .malformed

/-- Reads a document in either form. -/
def readDocument (cs : List Char) : Except ReadFault (Document × List Char) := do
  match skipBlank cs with
  | '{' :: rest =>
    let (d, rest) ← readMembers readMember (rest.length + 1) true {} rest
    return (← d.finish, rest)
  | '[' :: rest =>
    let (d, rest) ← readInOrder Field.all true {} rest
    let document ← d.finish
    return (document, ← readClosing rest)
  | cs => throw (faultAt cs)

/-- Reads a whole text. -/
def readWhole (read : List Char → Except ReadFault (α × List Char)) (text : String) : Except ReadFault α := do
  let (a, rest) ← read text.toList
  if (skipBlank rest).isEmpty then return a else throw .malformed

/-- The document that a text writes. -/
def parse (text : String) : Except ReadFault Document :=
  readWhole readDocument text

/-- The list of entries that a text writes. -/
def parseEntries (text : String) : Except ReadFault (List Entry) :=
  readWhole (readEntries Json.maxLevels) text

end ModalLexer.Document
