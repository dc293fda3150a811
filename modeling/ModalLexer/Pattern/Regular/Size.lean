import ModalLexer.Pattern.Regular.Basic
import ModalLexer.Pattern.Regular.Utf8
import Std.Data.HashMap

/-!
The size of a pattern. It is the memory of an automaton over bytes that matches the expression, and of one
that matches it backwards: a state takes thirty-two bytes, a transition of a state with several takes eight
more, and an alternative of a branching state four. A pattern whose automaton would not fit is refused, so
only the size is worked out here, part by part, and the work stops where the limit is passed.
-/

namespace ModalLexer.Pattern

/-- The greatest size of an automaton, in bytes. -/
def maxSize : Nat := 10 * 1024 * 1024

/-- What a part of an automaton adds to: the number of states, and the bytes that they take beside. -/
structure Footprint where
  states : Nat := 0
  extra : Nat := 0
deriving DecidableEq, Repr, Inhabited

namespace Footprint

def bytes (f : Footprint) : Nat := 32 * f.states + f.extra

/-- Adds states with some bytes beside them, as long as there is room. -/
def add? (f : Footprint) (states extra : Nat) : Option Footprint :=
  let g : Footprint := ⟨f.states + states, f.extra + extra⟩
  if g.bytes ≤ maxSize then some g else none

end Footprint

/-- A part that has been placed. If it is left through a branching state, what follows is one more
alternative of that state. -/
structure Placed where
  footprint : Footprint
  branching : Bool
deriving DecidableEq, Repr, Inhabited

/-- How a part is placed after others. -/
abbrev Placing := Footprint → Option Placed

namespace Size

/-- Adds states that are left through a plain one. -/
def plain (states extra : Nat) : Placing := fun f =>
  (f.add? states extra).map (⟨·, false⟩)

/-- Joins a part, left in the given way, to what follows it. -/
def link (branching : Bool) (f : Footprint) : Option Footprint :=
  if branching then f.add? 0 4 else some f

/-! ## Sets of characters -/

/-- Mixes a number into a hash. -/
def mix (h : UInt64) (n : Nat) : UInt64 := (h ^^^ n.toUInt64) * 1099511628211

/-- The hash of no numbers. -/
def seed : UInt64 := 14695981039346656037

/-- The state that lists of numbers stand for, each in the slot that its hash gives: a newer list takes the
place of an older one. -/
abbrev SlotTable := Std.HashMap UInt64 (List Nat × Nat)

def lookup? (t : SlotTable) (slot : UInt64) (key : List Nat) : Option Nat :=
  match t[slot]? with
  | some (k, id) => if k = key then some id else none
  | none => none

/-- A state under construction: its finished transitions as numbers, newest first (target, end, start), and
the range whose target is not known yet. -/
structure OpenState where
  done : List Nat := []
  last : Option Utf8.ByteRange := none
deriving Inhabited

/-- Gives the waiting range its target. -/
def OpenState.freeze (s : OpenState) (target : Nat) : OpenState :=
  match s.last with
  | some (a, b) => ⟨target :: b :: a :: s.done, none⟩
  | none => s

/-- The path of states under construction, the deepest first, with the finished ones. -/
structure Building where
  footprint : Footprint
  path : List OpenState
  table : SlotTable := ∅
deriving Inhabited

/-- The number of slots for states that are shared forwards. -/
def forwardSlots : UInt64 := 10000

/-- Finishes a state: one with the same transitions is shared. -/
def finishState (s : OpenState) (b : Building) : Option (Nat × Building) :=
  let key := s.done.reverse
  let slot := key.foldl mix seed % forwardSlots
  match lookup? b.table slot key with
  | some id => some (id, b)
  | none => do
    let id := b.footprint.states
    let footprint ← b.footprint.add? 1 (8 * (s.done.length / 3))
    return (id, { b with footprint, table := b.table.insert slot (key, id) })

/-- Finishes the states below a depth of the path, whose last has the given target. -/
def finishBelow (depth : Nat) : (path : List OpenState) → (target : Nat) → Building → Option Building
  | [], _, b => some { b with path := [] }
  | s :: rest, target, b =>
    if depth < rest.length then
      match finishState (s.freeze target) b with
      | some (id, b) => finishBelow depth rest id b
      | none => none
    else
      some { b with path := s.freeze target :: rest }

/-- How many ranges of a sequence the path starts with, the path given from its root. -/
def sharedDepth : List Utf8.ByteRange → List OpenState → Nat
  | r :: rs, s :: ss => if s.last = some r then sharedDepth rs ss + 1 else 0
  | _, _ => 0

/-- Lengthens the path by ranges. -/
def pushRanges : List Utf8.ByteRange → List OpenState → List OpenState
  | [], path => path
  | r :: rs, path => pushRanges rs ({ last := some r } :: path)

/-- Adds a sequence that is greater than those before it. -/
def addSequence (target : Nat) (b : Building) (ranges : List Utf8.ByteRange) : Option Building := do
  let depth := sharedDepth ranges b.path.reverse
  let b ← finishBelow depth b.path target b
  match ranges.drop depth, b.path with
  | r :: rs, s :: rest => return { b with path := pushRanges rs ({ s with last := some r } :: rest) }
  | _, _ => return b

def addSequences (target : Nat) : List (List Utf8.ByteRange) → Building → Option Building
  | [], b => some b
  | s :: rest, b =>
    match addSequence target b s with
    | some b => addSequences target rest b
    | none => none

/-- A set beyond ASCII, forwards: states with the same transitions are shared. -/
def forwardSet (s : CharSet) : Placing := fun f => do
  let target := f.states
  let b ← addSequences target (Utf8.sequences s) { footprint := ← f.add? 1 0, path := [{}] }
  let b ← finishBelow 0 b.path target b
  let (_, b) ← finishState (b.path.headD {}) b
  return ⟨b.footprint, false⟩

/-- The number of slots for states that are shared backwards. -/
def backwardSlots : UInt64 := 1000

/-- What is shared backwards: in each slot a range of bytes that leads to a state, and the state it starts
from. -/
abbrev RangeTable := Std.HashMap UInt64 ((Nat × Utf8.ByteRange) × Nat)

/-- The state that starts a range of bytes to a state. -/
def sharedStart? (t : RangeTable) (slot : UInt64) (target : Nat) (r : Utf8.ByteRange) : Option Nat :=
  match t[slot]? with
  | some (key, id) => if key = (target, r) then some id else none
  | none => none

/-- Adds a sequence backwards: states that lead to the same state by the same bytes are shared. -/
def backwardSequence : List Utf8.ByteRange → (target : Nat) → Footprint → RangeTable →
    Option (Footprint × RangeTable)
  | [], _, f, t => do return (← f.add? 0 4, t)
  | r :: rest, target, f, t =>
    let slot := mix (mix (mix seed target) r.1) r.2 % backwardSlots
    match sharedStart? t slot target r with
    | some id => backwardSequence rest id f t
    | none =>
      match f.add? 1 0 with
      | some g => backwardSequence rest f.states g (t.insert slot ((target, r), f.states))
      | none => none

def backwardSequences (target : Nat) : List (List Utf8.ByteRange) → Footprint → RangeTable → Option Footprint
  | [], f, _ => some f
  | s :: rest, f, t =>
    match backwardSequence s target f t with
    | some (f, t) => backwardSequences target rest f t
    | none => none

/-- A set beyond ASCII, backwards: a branching state leads to every sequence. -/
def backwardSet (s : CharSet) : Placing := fun f => do
  let f ← f.add? 2 0
  let f ← backwardSequences (f.states - 1) (Utf8.sequences s) f ∅
  return ⟨f, false⟩

def set (backward : Bool) (s : CharSet) : Placing :=
  if s.isAscii then plain 2 (8 * s.ranges.size)
  else if backward then backwardSet s
  else forwardSet s

/-! ## Alternatives that are texts -/

/-- A state of the tree of texts: the transitions that are closed by the end of a text, and the open ones.
Beside each byte stand the rests of the texts that go on with it, newest first. -/
structure TextState where
  closed : List (List (Nat × List (List Nat))) := []
  current : List (Nat × List (List Nat)) := []
deriving Inhabited

/-- Adds the rest of a text under its first byte. -/
def insertRest (b : Nat) (rest : List Nat) : List (Nat × List (List Nat)) → List (Nat × List (List Nat))
  | [] => [(b, [rest])]
  | (c, rests) :: more =>
    if c = b then (c, rest :: rests) :: more else (c, rests) :: insertRest b rest more

def TextState.add (s : TextState) : List Nat → TextState
  | [] =>
    if s.current.isEmpty ∧ s.closed.all (·.isEmpty) ∧ !s.closed.isEmpty then s
    else ⟨s.current :: s.closed, []⟩
  | b :: rest => { s with current := insertRest b rest s.current }

/-- The states, and the bytes beside them, of the tree of some texts; a text that ends leads to the common
end. The fuel bounds the length of the texts. -/
def textTree : (fuel : Nat) → List (List Nat) → Nat × Nat
  | 0, _ => (0, 0)
  | fuel + 1, texts =>
    let s := texts.foldl TextState.add {}
    let chunks := (s.current :: s.closed).filter (!·.isEmpty)
    let below := chunks.flatMap fun chunk =>
      (chunk.filter fun e => e.2.any (!·.isEmpty)).map fun e => textTree fuel e.2.reverse
    let own := chunks.length + 1
    let transitions := chunks.foldl (fun n c => n + (if 1 < c.length then 8 * c.length else 0)) 0
    below.foldl (fun (m, n) (k, l) => (m + k, n + l))
      (own, transitions + 4 * (chunks.length + s.closed.length))

def utf8Bytes (cs : List Char) : List Nat :=
  cs.flatMap fun c => Utf8.encode c.toNat

/-- The characters of branches that are all texts. -/
def texts? : List Regular → Option (List (List Char))
  | [] => some []
  | .text cs :: rest => (texts? rest).map (cs :: ·)
  | _ => none

def texts (backward : Bool) (ts : List (List Char)) : Placing :=
  let ts := ts.map fun cs => if backward then (utf8Bytes cs).reverse else utf8Bytes cs
  let (states, extra) := textTree (ts.foldl (fun n t => max n t.length) 0 + 1) ts
  plain (states + 1) extra

/-! ## Repetition -/

/-- More copies of a part after one that is left in the given way. -/
def chain (body : Placing) : (copies : Nat) → Placed → Option Placed
  | 0, p => some p
  | n + 1, p =>
    match body p.footprint with
    | none => none
    | some q =>
      match link p.branching q.footprint with
      | none => none
      | some f => chain body n ⟨f, q.branching⟩

/-- So many copies of a part. -/
def copies (body : Placing) : Nat → Placing
  | 0, f => plain 1 0 f
  | n + 1, f => (body f).bind (chain body n)

/-- More copies of a part, each behind a branching state that may also leave. -/
def optionalCopies (body : Placing) : (copies : Nat) → Placed → Option Placed
  | 0, p => some p
  | n + 1, p =>
    match (p.footprint.add? 1 8).bind body with
    | none => none
    | some q =>
      match link p.branching q.footprint with
      | none => none
      | some f => optionalCopies body n ⟨f, q.branching⟩

/-- A part, at least `lo` times and at most `hi` times. -/
def bounded (lo hi : Nat) (body : Placing) : Placing := fun f => do
  let p ← copies body lo f
  if lo = hi then return p
  let p ← optionalCopies body (hi - lo) ⟨← p.footprint.add? 1 0, p.branching⟩
  return ⟨← link p.branching p.footprint, false⟩

/-- A part that may be left out. -/
def optional (body : Placing) : Placing := fun f => do
  let p ← body (← f.add? 1 8)
  return ⟨← link p.branching (← p.footprint.add? 1 0), false⟩

/-- A part, any number of times. One that may match without a character is entered through a branching state
of its own. -/
def star (consumes : Bool) (body : Placing) : Placing := fun f => do
  if consumes then
    let p ← body (← f.add? 1 4)
    return ⟨← link p.branching p.footprint, true⟩
  else
    let p ← body f
    return ⟨← link p.branching (← p.footprint.add? 3 16), false⟩

/-- A part, `lo + 1` times or more: the last copy repeats. -/
def plus (lo : Nat) (body : Placing) : Placing := fun f => do
  let first ← if lo = 0 then some ⟨f, false⟩ else copies body lo f
  let p ← body first.footprint
  let f ← link first.branching (← p.footprint.add? 1 4)
  return ⟨← link p.branching f, true⟩

def repeated (lo : Nat) (hi : Option Nat) (consumes : Bool) (body : Placing) : Placing :=
  match lo, hi with
  | 0, some 1 => optional body
  | 0, none => star consumes body
  | n + 1, none => plus n body
  | lo, some hi => bounded lo hi body

/-! ## Expressions -/

mutual

/-- Places an expression. Groups take no states backwards. -/
def place (backward : Bool) : Regular → Placing
  | .empty => plain 1 0
  | .text cs => plain (utf8Bytes cs).length 0
  | .oneOf _ s => set backward s
  | .look _ => plain 1 0
  | .seq rs => if backward then placeBackward rs else placeForward none rs
  | .alt rs =>
    match texts? rs with
    | some ts => texts backward ts
    | none => fun f => do return ⟨← placeBranches backward 0 rs f, false⟩
  | .group _ r =>
    if backward then place true r
    else fun f => do
      let p ← place false r (← f.add? 1 0)
      return ⟨← link p.branching (← p.footprint.add? 1 0), false⟩
  | .loop lo hi _ r => repeated lo hi r.consumes (place backward r)

/-- Places a sequence after a part that is left in the given way, if there is one. -/
def placeForward : Option Bool → List Regular → Placing
  | before, [], f => some ⟨f, before.getD false⟩
  | before, r :: rs, f =>
    match place false r f with
    | none => none
    | some p =>
      match link (before.getD false) p.footprint with
      | none => none
      | some f => placeForward (some p.branching) rs f

/-- Places a sequence from its end to its start. -/
def placeBackward : List Regular → Placing
  | [], f => some ⟨f, false⟩
  | r :: rs, f =>
    match placeBackward rs f with
    | none => none
    | some before =>
      match place true r before.footprint with
      | none => none
      | some p =>
        match link before.branching p.footprint with
        | none => none
        | some f => some ⟨f, p.branching⟩

/-- Places branches; after the second of them comes the branching state, and the one where all end. -/
def placeBranches (backward : Bool) : (index : Nat) → List Regular → Footprint → Option Footprint
  | _, [], f => some f
  | i, r :: rs, f =>
    match place backward r f with
    | none => none
    | some p =>
      match (p.footprint.add? (if i = 1 then 2 else 0) 4).bind (link p.branching) with
      | none => none
      | some f => placeBranches backward (i + 1) rs f

end

/-- The automaton of a pattern: what skips to a match, the expression, and the accepting state. -/
def whole (backward : Bool) (r : Regular) : Option Footprint := do
  let anchored := if backward then r.isAnchoredEnd else r.isAnchoredStart
  let f ← Footprint.add? {} (if anchored then 1 else 3) (if anchored then 0 else 16)
  let p ← place backward (.group 0 r) f
  link p.branching (← p.footprint.add? 1 0)

end Size

/-- Do the automata of the expression fit? -/
def Regular.fits (r : Regular) : Bool :=
  (Size.whole false r).isSome && (Size.whole true r).isSome

end ModalLexer.Pattern
