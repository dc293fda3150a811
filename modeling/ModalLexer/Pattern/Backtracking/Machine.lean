import ModalLexer.Pattern.Backtracking.Parser
import ModalLexer.Pattern.Backtracking.Program

/-!
The backtracking machine. What is left to do is a list of tasks; a choice leaves a frame behind, and a
failure returns to the newest frame. The number of returns in one search is limited.
-/

namespace ModalLexer.Pattern.Backtracking

open Text (charAt? previous slice?)

/-- What is left to do at a position. -/
inductive Task
  | node (n : Node)
  /-- Another round of a loop: rounds so far, and where the last one that was free to leave began. -/
  | round (lo : Nat) (hi : Option Nat) (greedy guarded : Bool) (body : Node) (count : Nat) (last : Option Nat)
  | save (slot : Nat)
  | restore (pos : Nat)
  /-- Forgets the frames left since the newest mark. -/
  | commit
  /-- Forgets the frames above a height and fails. -/
  | refuse (height : Nat)
deriving Inhabited

/-- A state of the machine, and what a frame holds. Marks are heights of the stack of frames. -/
structure Config where
  tasks : List Task
  pos : Nat
  slots : Slots
  marks : List Nat := []
deriving Inhabited

/-- How an attempt at one position ends; failures say how often the machine has returned so far. -/
inductive Outcome
  | matched (slots : Slots)
  | failed (returns : Nat)
  | exhausted
deriving Inhabited

/-- The greatest number of returns in one search. -/
def maxReturns : Nat := 1000000

/-- The greatest number of frames. -/
def maxFrames : Nat := 1000000

/-- The greatest number of tasks in one attempt. -/
def maxTasks : Nat := 1000000000000

/-- What a task does to the machine. -/
inductive Effect
  | next (c : Config)
  /-- Goes on with the first and comes back to the second. -/
  | choose (c frame : Config)
  | fail
  /-- Keeps the lowest frames only, and goes on. -/
  | cut (height : Nat) (c : Config)
  | cutFail (height : Nat)
deriving Inhabited

/-- Moves back by some characters. -/
def stepBack (text : String) : Nat → Nat → Option Nat
  | 0, pos => some pos
  | n + 1, pos => if pos = 0 then none else stepBack text n (previous text pos)

/-- Sets the groups that an automaton has matched, and unsets those that it has not. The automaton's own
groups are numbered from `i` on. -/
def copyGroups (found : Slots) : (i : Nat) → List Nat → Slots → Slots
  | _, [], slots => slots
  | i, g :: gs, slots =>
    let (a, b) := ((found[2 * i]?).join, (found[2 * i + 1]?).join)
    copyGroups found (i + 1) gs ((slots.set! (2 * g) a).set! (2 * g + 1) b)

/-- The text that a group has matched. -/
def groupText? (text : String) (slots : Slots) (i : Nat) : Option String := do
  let start ← (slots[2 * i]?).join
  let stop ← (slots[2 * i + 1]?).join
  slice? text start stop

/-- The effect of a step; `height` is the number of frames. -/
def Node.effect (text : String) (origin height : Nat) (c : Config) : Node → Effect
  | .any newline =>
    match charAt? text c.pos with
    | some ch => if newline || ch != '\n' then .next { c with pos := c.pos + ch.utf8Size } else .fail
    | none => .fail
  | .text t =>
    let stop := c.pos + t.utf8ByteSize
    if slice? text c.pos stop = some t then .next { c with pos := stop } else .fail
  | .set s =>
    match charAt? text c.pos with
    | some ch => if s.contains ch then .next { c with pos := c.pos + ch.utf8Size } else .fail
    | none => .fail
  | .check l => if l.holds text c.pos then .next c else .fail
  | .delegate a groups =>
    match a.matchAt text c.pos with
    | some found => .next { c with pos := (found[1]?).join.getD c.pos, slots := copyGroups found 1 groups c.slots }
    | none => .fail
  | .seq ns => .next { c with tasks := ns.map .node ++ c.tasks }
  | .alt [] => .fail
  | .alt [n] => .next { c with tasks := .node n :: c.tasks }
  | .alt (n :: ns) =>
    .choose { c with tasks := .node n :: c.tasks } { c with tasks := .node (.alt ns) :: c.tasks }
  | .group i n =>
    .next { c with
      tasks := .node n :: .save (2 * i + 1) :: c.tasks
      slots := c.slots.set! (2 * i) (some c.pos) }
  | .loop lo hi greedy guarded n => .next { c with tasks := .round lo hi greedy guarded n 0 none :: c.tasks }
  | .around false back n =>
    match stepBack text back c.pos with
    | some pos => .next { c with tasks := .node n :: .restore c.pos :: c.tasks, pos }
    | none => .fail
  | .around true back n =>
    match stepBack text back c.pos with
    | some pos => .choose { c with tasks := .node n :: .refuse height :: c.tasks, pos } c
    | none => .next c
  | .backref i =>
    match groupText? text c.slots i with
    | some t =>
      let stop := c.pos + t.utf8ByteSize
      if slice? text c.pos stop = some t then .next { c with pos := stop } else .fail
    | none => .fail
  | .matched i => if (c.slots[2 * i]?).join.isSome then .next c else .fail
  | .atomic n =>
    .next { c with tasks := .node n :: .commit :: c.tasks, marks := height :: c.marks }
  | .conditional cond yes no =>
    let marks := height :: c.marks
    .choose { c with tasks := .node cond :: .commit :: .node yes :: c.tasks, marks }
      { c with tasks := .node no :: c.tasks, marks }
  | .keepOut => .next { c with slots := c.slots.set! 0 (some c.pos) }
  | .searchStart => if origin < c.pos then .fail else .next c

/-- The effect of a task, which has been taken off the list. -/
def Task.effect (text : String) (origin height : Nat) (c : Config) : Task → Effect
  | .node n => n.effect text origin height c
  | .round lo hi greedy guarded n count last =>
    if guarded && 0 < count && last == some c.pos then .fail
    else if hi == some count then .next c
    else if count < lo then
      .next { c with tasks := .node n :: .round lo hi greedy guarded n (count + 1) last :: c.tasks }
    else
      let again := { c with
        tasks := .node n :: .round lo hi greedy guarded n (count + 1) (some c.pos) :: c.tasks }
      if greedy then .choose again c else .choose c again
  | .save slot => .next { c with slots := c.slots.set! slot (some c.pos) }
  | .restore pos => .next { c with pos }
  | .commit =>
    match c.marks with
    | [] => .next c
    | m :: marks => .cut m { c with marks }
  | .refuse h => .cutFail h

/-- Runs the machine. The heights count one frame more than the list, the one that moves the search on. -/
def run (text : String) (origin : Nat) : (fuel : Nat) → Config → List Config → (height returns : Nat) → Outcome
  | 0, _, _, _, _ => .exhausted
  | fuel + 1, c, frames, height, returns =>
    let fail (frames : List Config) (height : Nat) : Outcome :=
      match frames with
      | [] => .failed returns
      | f :: frames =>
        if maxReturns ≤ returns then .exhausted
        else run text origin fuel f frames (height - 1) (returns + 1)
    match c.tasks with
    | [] =>
      let start := (c.slots[0]?).join.getD c.pos
      .matched ((c.slots.set! 0 (some (min start c.pos))).set! 1 (some c.pos))
    | t :: tasks =>
      match t.effect text origin height { c with tasks } with
      | .next c => run text origin fuel c frames height returns
      | .choose c frame =>
        if height < maxFrames then run text origin fuel c (frame :: frames) (height + 1) returns
        else .exhausted
      | .fail => fail frames height
      | .cut h c => run text origin fuel c (frames.drop (height - h)) h returns
      | .cutFail h => fail (frames.drop (height - h)) h

/-- What the machine runs: the steps, and the number of groups with the whole match. -/
structure Program where
  body : Node
  groups : Nat
deriving Inhabited

/-- Matches at one position, for a search that began at `origin`. -/
def Program.attempt (p : Program) (text : String) (origin pos returns : Nat) : Outcome :=
  let slots : Slots := (Array.replicate (2 * p.groups) none).set! 0 (some pos)
  run text origin maxTasks ⟨[.node p.body], pos, slots, []⟩ [] 1 returns

/-- Attempts a match at each position in turn; moving on counts as a return. `none` means that the search
was given up. -/
def Program.searchFrom (p : Program) (text : String) (origin : Nat) :
    (fuel pos returns : Nat) → Option (Option Slots)
  | 0, _, _ => some none
  | fuel + 1, pos, returns =>
    match p.attempt text origin pos returns with
    | .matched slots => some (some slots)
    | .exhausted => none
    | .failed returns =>
      if maxReturns ≤ returns then none
      else match charAt? text pos with
        | some c => p.searchFrom text origin fuel (pos + c.utf8Size) (returns + 1)
        | none => some none

/-- The leftmost match at or after a position. -/
def Program.search (p : Program) (text : String) (pos : Nat) : Option (Option Slots) :=
  p.searchFrom text pos (text.utf8ByteSize + 1) pos 0

end ModalLexer.Pattern.Backtracking
