import ModalLexer.Document.Reader

/-!
The document that a value stands for. A text can be read as a value first, and the value then be taken for a document.
-/

namespace ModalLexer

namespace Document

/-! ## Parts -/

def bool? : Json → Option Bool
  | .bool b => some b
  | _ => none

/-- A natural number or null. -/
def limit? (v : Json) : Option (Option Nat) :=
  optional? natural? (some v)

def entries? : Json → Option (List Entry)
  | .array items => items.mapM Entry.ofJson?
  | _ => none

def state? (m : String × Json) : Option (String × List Entry) :=
  (entries? m.2).map (m.1, ·)

def states? : Json → Option (List (String × List Entry))
  | .object members => members.mapM state?
  | _ => none

/-! ## Documents -/

/-- Takes a value for that of a field. -/
def Draft.set? (d : Draft) (f : Field) (v : Json) : Option Draft :=
  let put (document : Document) : Draft := { seen := f :: d.seen, document }
  match f with
  | .root => (text? v).map fun root => put { d.document with root }
  | .multiLine => (bool? v).map fun multiLine => put { d.document with multiLine }
  | .resetOnNewline => (bool? v).map fun resetOnNewline => put { d.document with resetOnNewline }
  | .maxZeroWidth => (limit? v).map fun maxZeroWidth => put { d.document with maxZeroWidth }
  | .maxNesting => (limit? v).map fun maxNesting => put { d.document with maxNesting }
  | .states => (states? v).map fun states => put { d.document with states }

/-- Takes a member for a field that has not been set. -/
def Draft.setMember? (d : Draft) (m : String × Json) : Option Draft :=
  (Field.ofName? m.1).bind fun f => if d.seen.contains f then none else d.set? f m.2

/-- Takes values for fields in order. -/
def Draft.setInOrder? : List Field → Draft → List Json → Option Draft
  | _, d, [] => some d
  | [], _, _ :: _ => none
  | f :: fs, d, v :: vs => (d.set? f v).bind fun d => setInOrder? fs d vs

/-- The document that a value stands for. -/
def ofJson? : Json → Option Document
  | .object members => (members.foldlM Draft.setMember? {}).bind fun d => d.finish.toOption
  | .array items => (Draft.setInOrder? Field.all {} items).bind fun d => d.finish.toOption
  | _ => none

end Document

end ModalLexer
