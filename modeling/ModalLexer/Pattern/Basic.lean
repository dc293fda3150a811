import ModalLexer.Pattern.Backtracking.Machine

/-!
Patterns and what they compile to. A pattern names its dialect, or leaves the choice: the regular dialect
is tried first. A matcher answers three questions about a text and an offset.
-/

namespace ModalLexer

open Text (Span charAt?)

/-- The two ways to write and to match a pattern. -/
inductive Dialect
  | regular
  | backtracking
deriving DecidableEq, Repr, Inhabited

/-- A pattern as written; without a dialect, the first one that accepts it is taken. -/
structure Pattern where
  dialect : Option Dialect := none
  text : String
deriving DecidableEq, Repr, Inhabited

/-- A search was given up after too many returns. -/
structure SearchFailure where
  dialect : Dialect
deriving DecidableEq, Repr, Inhabited

/-- The spans of the groups of a match, the whole match first. -/
abbrev Groups := List (Option Span)

/-- A compiled pattern. Offsets before the one asked for are visible to assertions. -/
structure Matcher where
  dialect : Dialect
  /-- The number of groups that can take part in a match, the whole match included. -/
  groupCount : Nat
  /-- The match that starts at the offset. -/
  find : String → Nat → Except SearchFailure (Option Span)
  /-- The match that starts at the offset, with its groups. -/
  captures : String → Nat → Except SearchFailure (Option Groups)
  /-- Where the leftmost match at or after the offset starts. -/
  next : String → Nat → Except SearchFailure (Option Nat)

namespace Pattern

/-- The span between two slots. -/
def spanOf (slots : Slots) (i : Nat) : Option Span := do
  let start ← (slots[2 * i]?).join
  let stop ← (slots[2 * i + 1]?).join
  return ⟨start, stop⟩

def groupsOf (count : Nat) (slots : Slots) : Groups :=
  (List.range count).map (spanOf slots)

/-- A matcher that asks an automaton at one position at a time. -/
def regularMatcher (r : Regular) : Matcher :=
  let a := Automaton.ofRegular r
  { dialect := .regular
    groupCount := r.captureCount + 1
    find := fun text pos => .ok ((a.matchAt text pos).bind (spanOf · 0))
    captures := fun text pos => .ok ((a.matchAt text pos).map (groupsOf a.groups))
    next := fun text pos => .ok (((a.search text pos).bind (spanOf · 0)).map (·.start)) }

/-- A matcher that knows the leftmost match only, and keeps it when it starts at the offset asked for. -/
def searchingMatcher (groupCount groups : Nat) (search : String → Nat → Option (Option Slots)) : Matcher where
  dialect := .backtracking
  groupCount
  find text pos :=
    match search text pos with
    | none => .error ⟨.backtracking⟩
    | some found => .ok ((found.bind (spanOf · 0)).filter (·.start = pos))
  captures text pos :=
    match search text pos with
    | none => .error ⟨.backtracking⟩
    | some found =>
      .ok (found.bind fun slots =>
        if (spanOf slots 0).map (·.start) = some pos then some (groupsOf groups slots) else none)
  next text pos :=
    match search text pos with
    | none => .error ⟨.backtracking⟩
    | some found => .ok ((found.bind (spanOf · 0)).map (·.start))

/-- Compiles a pattern of the backtracking dialect. One that needs no backtracking is left to an
automaton. -/
def compileBacktracking (source : String) : Except Fault Matcher := do
  let p ← Backtracking.parse source
  if !p.expr.sizesFit then throw .sizeOverflow
  if p.expr.isHard p.refs then
    let program : Backtracking.Program := ⟨← Backtracking.node p.refs true p.expr, p.groups + 1⟩
    return searchingMatcher program.groups program.groups program.search
  else
    let r ← Regular.parse (p.expr.write .alternative)
    let a := Automaton.ofRegular r
    return searchingMatcher (r.captureCount + 1) a.groups fun text pos => some (a.search text pos)

def compileRegular (source : String) : Except Fault Matcher := do
  return regularMatcher (← Regular.parse source)

/-- Compiles a pattern; with `multiLine`, line anchors hold at every line. The error names the dialect that
refused the pattern last. -/
def compile (p : Pattern) (multiLine : Bool) : Except (Dialect × Fault) Matcher :=
  let source := if multiLine then "(?m)" ++ p.text else p.text
  match p.dialect with
  | some .regular => (compileRegular source).mapError (Prod.mk .regular)
  | some .backtracking => (compileBacktracking source).mapError (Prod.mk .backtracking)
  | none =>
    match compileRegular source with
    | .ok m => .ok m
    | .error _ => (compileBacktracking source).mapError (Prod.mk .backtracking)

end Pattern

end ModalLexer
