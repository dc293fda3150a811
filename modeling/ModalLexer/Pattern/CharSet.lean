/-!
Sets of characters as sorted ranges of code points, with the Boolean operations that bracket classes use.
No character lies between `D7FF` and `E000`, so a range neither starts nor ends there.
-/

namespace ModalLexer.Pattern

/-- A set of characters: ranges of code points with both ends included, sorted, disjoint and never adjacent. -/
structure CharSet where
  ranges : Array (Nat × Nat)
deriving DecidableEq, Repr, Inhabited

namespace CharSet

/-- The greatest code point. -/
def maxCode : Nat := 0x10FFFF

/-- The code point of the character that follows. -/
def nextCode (n : Nat) : Nat :=
  if n = 0xD7FF then 0xE000 else n + 1

/-- The code point of the character before. -/
def previousCode (n : Nat) : Nat :=
  if n = 0xE000 then 0xD7FF else n - 1

/-- Joins ranges that overlap or touch; the input is sorted by its lower ends. -/
def coalesce : Nat × Nat → List (Nat × Nat) → List (Nat × Nat)
  | r, [] => [r]
  | (a, b), (c, d) :: rest =>
    if c ≤ b + 1 then coalesce (a, max b d) rest else (a, b) :: coalesce (c, d) rest

/-- The set of all code points in any of the ranges, given in any order. -/
def ofRanges (rs : List (Nat × Nat)) : CharSet :=
  match rs.mergeSort (fun x y => x.1 ≤ y.1) with
  | [] => ⟨#[]⟩
  | r :: rest => ⟨(coalesce r rest).toArray⟩

def empty : CharSet := ⟨#[]⟩

/-- Every character. -/
def all : CharSet := ⟨#[(0, maxCode)]⟩

def single (c : Char) : CharSet := ⟨#[(c.toNat, c.toNat)]⟩

/-- The characters from one to another, both included. -/
def range (a b : Char) : CharSet := ⟨#[(a.toNat, b.toNat)]⟩

def isEmpty (s : CharSet) : Bool := s.ranges.isEmpty

def union (s t : CharSet) : CharSet :=
  if s.isEmpty then t else if t.isEmpty then s else
  ofRanges (s.ranges.toList ++ t.ranges.toList)

def unions (ss : List CharSet) : CharSet :=
  ofRanges (ss.flatMap (·.ranges.toList))

/-- The gaps after a range that ends with the code point `b`, up to `top`. Two ranges that meet around the
code points without a character have their own ends for a gap. -/
def gapsAfter (top b : Nat) : List (Nat × Nat) → List (Nat × Nat)
  | [] => if b < top then [(nextCode b, top)] else []
  | (c, d) :: rest =>
    (min (nextCode b) (previousCode c), max (nextCode b) (previousCode c)) :: gapsAfter top d rest

/-- The gaps between sorted ranges, from zero up to `top`. -/
def gaps (top : Nat) : List (Nat × Nat) → List (Nat × Nat)
  | [] => [(0, top)]
  | (a, b) :: rest => if 0 < a then (0, previousCode a) :: gapsAfter top b rest else gapsAfter top b rest

/-- The characters outside the set. -/
def complement (s : CharSet) : CharSet :=
  ⟨(gaps maxCode s.ranges.toList).toArray⟩

/-- The bytes outside a set of bytes. -/
def byteComplement (s : CharSet) : CharSet :=
  ⟨(gaps 0xFF s.ranges.toList).toArray⟩

/-- What sorted ranges have in common; the fuel bounds their number. -/
def commonRanges : (fuel : Nat) → List (Nat × Nat) → List (Nat × Nat) → List (Nat × Nat)
  | 0, _, _ => []
  | _, [], _ => []
  | _, _, [] => []
  | fuel + 1, (a, b) :: rs, (c, d) :: ss =>
    let rest := if b < d then commonRanges fuel rs ((c, d) :: ss) else commonRanges fuel ((a, b) :: rs) ss
    if max a c ≤ min b d then (max a c, min b d) :: rest else rest

def inter (s t : CharSet) : CharSet :=
  ⟨(commonRanges (s.ranges.size + t.ranges.size) s.ranges.toList t.ranges.toList).toArray⟩

/-- A range without the code points of sorted ranges. -/
def subtract : Nat × Nat → List (Nat × Nat) → List (Nat × Nat)
  | r, [] => [r]
  | (a, b), (c, d) :: rest =>
    if d < a then subtract (a, b) rest
    else if b < c then [(a, b)]
    else
      let before := if a < c then [(a, previousCode c)] else []
      if d < b then before ++ subtract (nextCode d, b) rest else before

def diff (s t : CharSet) : CharSet :=
  ⟨s.ranges.flatMap fun r => (subtract r t.ranges.toList).toArray⟩

def symmDiff (s t : CharSet) : CharSet :=
  (s.union t).diff (s.inter t)

/-- Binary search between two indices; the fuel bounds the number of halvings. -/
def search (rs : Array (Nat × Nat)) (n : Nat) : (fuel lo hi : Nat) → Bool
  | 0, _, _ => false
  | fuel + 1, lo, hi =>
    if lo < hi then
      let mid := (lo + hi) / 2
      match rs[mid]? with
      | none => false
      | some (a, b) =>
        if n < a then search rs n fuel lo mid
        else if b < n then search rs n fuel (mid + 1) hi
        else true
    else
      false

/-- Is the code point in the set? -/
def hasCode (s : CharSet) (n : Nat) : Bool :=
  search s.ranges n s.ranges.size 0 s.ranges.size

def contains (s : CharSet) (c : Char) : Bool :=
  s.hasCode c.toNat

/-- Does the set hold ASCII characters only? -/
def isAscii (s : CharSet) : Bool :=
  s.ranges.all (fun r => r.2 < 128)

/-- The character with that code point, if there is one. -/
def charOfCode? (n : Nat) : Option Char :=
  if h : n.isValidChar then some (Char.ofNatAux n h) else none

/-- The only character of the set. -/
def only? (s : CharSet) : Option Char :=
  match s.ranges.toList with
  | [(a, b)] => if a = b then charOfCode? a else none
  | _ => none

/-! ## Tables -/

/-- The value of a hexadecimal digit. -/
def hexValue? (c : Char) : Option Nat :=
  if '0' ≤ c ∧ c ≤ '9' then some (c.toNat - '0'.toNat)
  else if 'a' ≤ c ∧ c ≤ 'f' then some (c.toNat - 'a'.toNat + 10)
  else if 'A' ≤ c ∧ c ≤ 'F' then some (c.toNat - 'A'.toNat + 10)
  else none

/-- The number that the hexadecimal digits of a text write. -/
def hexNumber (s : String) : Nat :=
  s.toList.foldl (fun n c => 16 * n + (hexValue? c).getD 0) 0

/-- The entries of a table, divided by blanks and line ends. -/
def entries (table : String) : List String :=
  ((table.splitOn "\n").flatMap fun line => line.splitOn " ").filter (· != "")

/-- Reads a table of code points and ranges, as in `41-5a 5f`. -/
def ofTable (table : String) : CharSet :=
  ofRanges ((entries table).map fun entry =>
    match entry.splitOn "-" with
    | [a, b] => (hexNumber a, hexNumber b)
    | _ => (hexNumber entry, hexNumber entry))

end CharSet

end ModalLexer.Pattern
