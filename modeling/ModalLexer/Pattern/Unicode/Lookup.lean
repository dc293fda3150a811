import ModalLexer.Pattern.CharSet
import ModalLexer.Pattern.Unicode.Age
import ModalLexer.Pattern.Unicode.CaseFold
import ModalLexer.Pattern.Unicode.Category
import ModalLexer.Pattern.Unicode.Property
import ModalLexer.Pattern.Unicode.Script
import ModalLexer.Pattern.Unicode.ScriptExtension
import ModalLexer.Pattern.Unicode.Segmentation

/-!
Named sets of characters: the classes of digits, blanks and word characters, sets by the name of a
property, the closure of a set under case, and the characters that names are made of.
-/

namespace ModalLexer.Pattern.Unicode

/-! ## Properties by name -/

/-- A name in lower case, without separators, a leading `is` and anything beyond ASCII. -/
def looseName (name : String) : String :=
  let keep (cs : List Char) : List Char :=
    (cs.filter fun c => c.toNat < 128 ∧ c ≠ ' ' ∧ c ≠ '_' ∧ c ≠ '-').map Char.toLower
  match name.toList with
  | a :: b :: rest =>
    if a.toLower = 'i' ∧ b.toLower = 's' then
      if keep rest = ['c'] then "isc" else String.ofList (keep rest)
    else String.ofList (keep (a :: b :: rest))
  | cs => String.ofList (keep cs)

/-- The value beside the list that holds the name. -/
def findNamed (entries : List (List String × α)) (name : String) : Option α :=
  (entries.find? fun e => e.1.contains name).map (·.2)

/-- The set of the table beside a name. -/
def tableNamed? (entries : List (List String × String)) (name : String) : Option CharSet :=
  (findNamed entries name).map .ofTable

/-- A category that is not made of others. -/
def plainCategory (name : String) : CharSet :=
  (tableNamed? categoryTables name).getD .empty

/-- A general category by its loose name, with the three sets that are named like one. -/
def category? (name : String) : Option CharSet :=
  if name = "any" then some .all
  else if name = "assigned" then some (plainCategory "cn").complement
  else if name = "ascii" then some (.range '\x00' '\x7f')
  else if otherNames.contains name then
    some (.unions (["cc", "cf", "cn", "co"].map plainCategory ++ [.ofRanges [(0xD7FF, 0xE000)]]))
  else
    match findNamed categoryGroups name with
    | some members => some (.unions (members.map plainCategory))
    | none => tableNamed? categoryTables name

def script? (name : String) : Option CharSet :=
  tableNamed? scriptTables name

def scriptExtension? (name : String) : Option CharSet :=
  tableNamed? scriptExtensionTables name <|> script? name

/-- The tables up to the first that has the name. -/
def tablesThrough (name : String) : List (List String × String) → Option (List String)
  | [] => none
  | e :: rest =>
    if e.1.contains name then some [e.2] else (tablesThrough name rest).map (e.2 :: ·)

/-- The characters that a version of the standard knows. -/
def age? (name : String) : Option CharSet :=
  (tablesThrough name ageTables).map fun tables => .unions (tables.map .ofTable)

/-- The set that a single name stands for: a property, a category or a script, in this order. The short
names of three categories are also short names of properties, and mean the category. -/
def named? (name : String) : Option CharSet :=
  let key := looseName name
  let byProperty := if key = "cf" ∨ key = "sc" ∨ key = "lc" then none else tableNamed? propertyTables key
  byProperty <|> category? key <|> script? key

/-- The properties with values, and how a value is looked up. -/
def valueLookups : List (List String × (String → Option CharSet)) := [
  (["gc", "generalcategory"], category?),
  (["sc", "script"], script?),
  (["scx", "scriptextensions"], scriptExtension?),
  (["age"], age?),
  (["gcb", "graphemeclusterbreak"], tableNamed? graphemeTables),
  (["wb", "wordbreak"], tableNamed? wordBreakTables),
  (["sb", "sentencebreak"], tableNamed? sentenceTables)]

/-- The set that a property with a value stands for. -/
def valued? (property value : String) : Option CharSet := do
  let lookup ← findNamed valueLookups (looseName property)
  lookup (looseName value)

/-! ## Fixed classes -/

def alphabetic : CharSet := (tableNamed? propertyTables "alpha").getD .empty

def whiteSpace : CharSet := (tableNamed? propertyTables "wspace").getD .empty

def digit : CharSet := plainCategory "nd"

/-- Word characters: letters, marks, decimal digits, connectors and joiners. -/
def word : CharSet :=
  .unions ([alphabetic, .ofTable "200c-200d"] ++ ["mn", "mc", "me", "nd", "pc"].map plainCategory)

def asciiDigit : CharSet := .range '0' '9'

def asciiSpace : CharSet := .ofTable "9-d 20"

def asciiWord : CharSet := .ofTable "30-39 41-5a 5f 61-7a"

def isWord (c : Char) : Bool :=
  if c.toNat < 128 then asciiWord.contains c else word.contains c

def isWhiteSpace (c : Char) : Bool :=
  if c.toNat < 128 then asciiSpace.contains c else whiteSpace.contains c

/-! ## Names -/

/-- Letters of names, with those that version 17 of the standard added. -/
def nameLetters : CharSet :=
  alphabetic.union (.ofTable
    "88f c5c cdc a7ce-a7cf a7d2 a7d4 a7f1 10940-10959 10ec5-10ec7 10efa-10efb 11b60-11b67
     11db0-11ddb 16ea0-16eb8 16ebb-16ed3 16ff2-16ff6 187f8-187ff 18d09-18d1e 18d80-18df2
     1e6c0-1e6de 1e6e0-1e6f5 1e6fe-1e6ff 2b73a-2b73f 2cea2-2cead 323b0-33479")

/-- Numbers of names, with those that version 17 of the standard added. -/
def nameNumbers : CharSet :=
  .unions (.ofTable "11de0-11de9 16ff4-16ff6" :: ["nd", "nl", "no"].map plainCategory)

def isAlphabetic (c : Char) : Bool :=
  if c.toNat < 128 then c.isAlpha else nameLetters.contains c

def isAlphanumeric (c : Char) : Bool :=
  if c.toNat < 128 then c.isAlphanum else nameLetters.contains c || nameNumbers.contains c

/-! ## Case -/

/-- The sets of characters that fold to one another. -/
def caseClasses : List (List Nat) :=
  (CharSet.entries caseFoldTable).map fun entry => (entry.splitOn "=").map CharSet.hexNumber

/-- Every character that has a case, with the set it belongs to, by its code point. -/
def caseTable : Array (Nat × List Nat) :=
  ((caseClasses.flatMap fun cls => cls.map fun n => (n, cls)).mergeSort (fun x y => x.1 ≤ y.1)).toArray

/-- The first entry at or after a code point, between two indices; the fuel bounds the halvings. -/
def firstCase (n : Nat) : (fuel lo hi : Nat) → Nat
  | 0, lo, _ => lo
  | fuel + 1, lo, hi =>
    if lo < hi then
      let mid := (lo + hi) / 2
      match caseTable[mid]? with
      | none => lo
      | some (m, _) => if m < n then firstCase n fuel (mid + 1) hi else firstCase n fuel lo mid
    else
      lo

/-- The classes of the entries from an index on, up to a code point; the fuel bounds their number. -/
def casesUpTo (b : Nat) : (fuel i : Nat) → List (List Nat)
  | 0, _ => []
  | fuel + 1, i =>
    match caseTable[i]? with
    | some (m, cls) => if m ≤ b then cls :: casesUpTo b fuel (i + 1) else []
    | none => []

/-- The sets of characters that fold to one of a range. -/
def casesIn (r : Nat × Nat) : List (List Nat) :=
  casesUpTo r.2 caseTable.size (firstCase r.1 caseTable.size 0 caseTable.size)

/-- Is there another character that differs only in case? -/
def hasCase (c : Char) : Bool :=
  !(casesIn (c.toNat, c.toNat)).isEmpty

/-- The set with every character that differs only in case from one of its own. -/
def caseClosure (s : CharSet) : CharSet :=
  s.union (.ofRanges ((s.ranges.toList.flatMap casesIn).flatten.map fun n => (n, n)))

/-- The set of bytes with every ASCII letter in both cases. -/
def asciiCaseClosure (s : CharSet) : CharSet :=
  let shift (letters : CharSet) (move : Nat → Nat) : List (Nat × Nat) :=
    (s.inter letters).ranges.toList.map fun r => (move r.1, move r.2)
  s.union (.ofRanges (shift (.range 'a' 'z') (· - 32) ++ shift (.range 'A' 'Z') (· + 32)))

end ModalLexer.Pattern.Unicode
