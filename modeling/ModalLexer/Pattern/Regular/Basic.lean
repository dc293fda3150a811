import ModalLexer.Pattern.Look

/-!
Regular expressions as trees, and the reasons for which the text of a pattern is refused. Trees are built by
functions that keep them simple: sequences and alternatives are never nested in their own kind, neighbouring
texts are one text, and what all alternatives start with stands in front of them.
-/

namespace ModalLexer.Pattern

/-- Why a pattern is not one of its dialect. -/
inductive Fault
  | unclosedGroup
  | unopenedGroup
  | missingOperand
  | badRepetition
  | badEscape
  | badClass
  | badFlags
  | badName
  | unknownProperty
  | lookAround
  | backReference
  | invalidEncoding
  | variableLookBehind
  | trailingText
  | tooDeep
  | tooLarge
  /-- The least length of a match does not fit in 64 bits. -/
  | sizeOverflow
deriving DecidableEq, Repr, Inhabited

/-- An expression that an automaton can match. Alternatives are ordered: the first is preferred. -/
inductive Regular
  | empty
  | text (chars : List Char)
  /-- One character of a set, which was written as a set of bytes or of characters. -/
  | oneOf (bytes : Bool) (set : CharSet)
  | look (cond : Look)
  | seq (items : List Regular)
  | alt (branches : List Regular)
  | group (index : Nat) (body : Regular)
  | loop (lo : Nat) (hi : Option Nat) (greedy : Bool) (body : Regular)
deriving Inhabited

namespace Regular

/-! ## Equality -/

mutual

/-- Are two expressions written alike? -/
def same : Regular → Regular → Bool
  | empty, empty => true
  | text a, text b => a == b
  | oneOf m s, oneOf n t => m == n && s == t
  | look a, look b => a == b
  | seq rs, seq ss => sameAll rs ss
  | alt rs, alt ss => sameAll rs ss
  | group i r, group j s => i == j && r.same s
  | loop lo hi greedy r, loop lo' hi' greedy' s => lo == lo' && hi == hi' && greedy == greedy' && r.same s
  | _, _ => false

def sameAll : List Regular → List Regular → Bool
  | [], [] => true
  | r :: rs, s :: ss => r.same s && sameAll rs ss
  | _, _ => false

end

/-! ## What is known of an expression -/

mutual

/-- No match takes a character, and there can be one. -/
def isWidthless : Regular → Bool
  | empty => true
  | text _ => false
  | oneOf _ _ => false
  | look _ => true
  | seq rs => allWidthless rs
  | alt rs => allWidthless rs
  | group _ r => r.isWidthless
  | loop _ hi _ r => hi.isSome && r.isWidthless

def allWidthless : List Regular → Bool
  | [] => true
  | r :: rs => r.isWidthless && allWidthless rs

end

mutual

/-- The least number of characters that a match takes; none where a part can never match. -/
def minLength : Regular → Option Nat
  | empty => some 0
  | text cs => some cs.length
  | oneOf _ s => if s.isEmpty then none else some 1
  | look _ => some 0
  | seq rs => sumLengths rs
  | alt rs => leastLength rs
  | group _ r => r.minLength
  | loop lo _ _ r => r.minLength.map (· * lo)

def sumLengths : List Regular → Option Nat
  | [] => some 0
  | r :: rs => do return (← r.minLength) + (← sumLengths rs)

def leastLength : List Regular → Option Nat
  | [] => none
  | [r] => r.minLength
  | r :: rs => do return min (← r.minLength) (← leastLength rs)

end

/-- Every match takes at least one character. -/
def consumes (r : Regular) : Bool :=
  match r.minLength with
  | some n => 0 < n
  | none => false

mutual

/-- The number of groups that are left in the expression. -/
def captureCount : Regular → Nat
  | seq rs => captureCounts rs
  | alt rs => captureCounts rs
  | group _ r => r.captureCount + 1
  | loop _ _ _ r => r.captureCount
  | _ => 0

def captureCounts : List Regular → Nat
  | [] => 0
  | r :: rs => r.captureCount + captureCounts rs

end

mutual

/-- The number of groups up to the last one left in the expression, counting the whole match. -/
def groupCount : Regular → Nat
  | seq rs => groupCounts rs
  | alt rs => groupCounts rs
  | group i r => max (i + 1) r.groupCount
  | loop _ _ _ r => r.groupCount
  | _ => 1

def groupCounts : List Regular → Nat
  | [] => 1
  | r :: rs => max r.groupCount (groupCounts rs)

end

mutual

/-- Every match begins at the start of the text, by an assertion in front. -/
def isAnchoredStart : Regular → Bool
  | look l => l == .textStart
  | seq rs => startAnchored rs
  | alt rs => allAnchoredStart rs
  | group _ r => r.isAnchoredStart
  | loop lo _ _ r => 0 < lo && r.isAnchoredStart
  | _ => false

/-- The same of a sequence: only what takes no character may stand before the assertion. -/
def startAnchored : List Regular → Bool
  | [] => false
  | r :: rs => r.isAnchoredStart || (r.isWidthless && startAnchored rs)

def allAnchoredStart : List Regular → Bool
  | [] => true
  | r :: rs => r.isAnchoredStart && allAnchoredStart rs

end

mutual

/-- Every match stops at the end of the text, by an assertion at its end. -/
def isAnchoredEnd : Regular → Bool
  | look l => l == .textEnd
  | seq rs => endAnchored rs
  | alt rs => allAnchoredEnd rs
  | group _ r => r.isAnchoredEnd
  | loop lo _ _ r => 0 < lo && r.isAnchoredEnd
  | _ => false

def endAnchored : List Regular → Bool
  | [] => false
  | r :: rs => endAnchored rs || (allWidthless rs && r.isAnchoredEnd)

def allAnchoredEnd : List Regular → Bool
  | [] => true
  | r :: rs => r.isAnchoredEnd && allAnchoredEnd rs

end

/-! ## Building -/

/-- The expression without a match. -/
def never : Regular := .oneOf true .empty

/-- One character of a set: a set of one character is a text. -/
def ofSet (bytes : Bool) (s : CharSet) : Regular :=
  if s.isEmpty then never
  else match s.only? with
    | some c => .text [c]
    | none => .oneOf bytes s

/-- The items that an expression adds to a sequence. -/
def items : Regular → List Regular
  | .empty => []
  | .seq rs => rs
  | r => [r]

/-- Makes one text of neighbouring texts. -/
def joinTexts : List Regular → List Regular
  | [] => []
  | .text a :: rest =>
    match joinTexts rest with
    | .text b :: more => .text (a ++ b) :: more
    | rest => .text a :: rest
  | r :: rest => r :: joinTexts rest

/-- Expressions one after the other. -/
def seqOf (rs : List Regular) : Regular :=
  match joinTexts (rs.flatMap items) with
  | [] => .empty
  | [r] => r
  | rs => .seq rs

/-- The branches that an expression adds to a choice. -/
def branches : Regular → List Regular
  | .alt rs => rs
  | r => [r]

/-- The characters of texts of one character each. -/
def singleChars? : List Regular → Option (List Char)
  | [] => some []
  | .text [c] :: rest => (singleChars? rest).map (c :: ·)
  | _ => none

/-- The union of branches that are all sets. -/
def joinedSets? : List Regular → Option CharSet
  | [] => some .empty
  | .oneOf _ s :: rest => (joinedSets? rest).map s.union
  | _ => none

/-- The longest start that two sequences share. -/
def sharedItems : List Regular → List Regular → List Regular
  | r :: rs, s :: ss => if r.same s then r :: sharedItems rs ss else []
  | _, _ => []

/-- What all branches start with, if all are sequences. -/
def sharedStart : List Regular → List Regular
  | [] => []
  | [.seq rs] => rs
  | .seq rs :: rest => sharedItems rs (sharedStart rest)
  | _ => []

/-- A choice between expressions: characters and sets become one set, and what all branches start with is
put in front. The fuel bounds how often that is done. -/
def altFrom : (fuel : Nat) → List Regular → Regular
  | 0, rs => .alt rs
  | fuel + 1, rs =>
    match rs.flatMap branches with
    | [] => never
    | [r] => r
    | rs =>
      match singleChars? rs with
      | some cs => ofSet false (.ofRanges (cs.map fun c => (c.toNat, c.toNat)))
      | none =>
        match joinedSets? rs with
        | some s => ofSet false s
        | none =>
          let start := sharedStart rs
          if start.isEmpty then .alt rs
          else seqOf (start ++ [altFrom fuel (rs.map fun r => seqOf (r.items.drop start.length))])

mutual

/-- The number of nodes of an expression. -/
def nodes : Regular → Nat
  | seq rs => nodesAll rs + 1
  | alt rs => nodesAll rs + 1
  | group _ r => r.nodes + 1
  | loop _ _ _ r => r.nodes + 1
  | _ => 1

def nodesAll : List Regular → Nat
  | [] => 0
  | r :: rs => r.nodes + nodesAll rs

end

/-- A choice between expressions, the first preferred. Each shared start takes a node off the first. -/
def altOf (rs : List Regular) : Regular :=
  altFrom ((rs.head?.map nodes).getD 0 + 1) rs

/-- A repetition in its simplest form: what is never repeated vanishes, and what takes no character is
repeated at most once. -/
def repeated (lo : Nat) (hi : Option Nat) (greedy : Bool) (body : Regular) : Regular :=
  let once := body.isWidthless
  let lo := if once then min lo 1 else lo
  let hi := if once then some (min (hi.getD 1) 1) else hi
  if lo = 0 ∧ hi = some 0 then .empty
  else if lo = 1 ∧ hi = some 1 then body
  else .loop lo hi greedy body

end Regular

end ModalLexer.Pattern
