import ModalLexer.Pattern.Regular.Basic

/-!
Automata for regular expressions. All threads advance together, one character at a time, in the order of
their preference; a thread that reaches a state which a preferred thread already holds is dropped. The time
of a search is bounded by the product of text and automaton.
-/

namespace ModalLexer.Pattern

open Text (charAt?)

/-- One state of an automaton, with the states that follow it. -/
inductive Instr
  | char (c : Char) (next : Nat)
  | chars (set : CharSet) (next : Nat)
  /-- Both follow, the first is preferred. -/
  | split (first second : Nat)
  /-- Records the position in a slot. -/
  | save (slot : Nat) (next : Nat)
  | check (cond : Look) (next : Nat)
  | accept
deriving Inhabited

/-- Where each group starts and ends: group `i` has slots `2 * i` and `2 * i + 1`. -/
abbrev Slots := Array (Option Nat)

structure Automaton where
  code : Array Instr
  start : Nat
  groups : Nat
deriving Inhabited

namespace Automaton

/-- A split that prefers to go on, or to leave. -/
def choice (greedy : Bool) (body next : Nat) : Instr :=
  if greedy then .split body next else .split next body

/-- Adds the states of a text in front of the state `next`; returns the first of them. -/
def emitText (cs : List Char) (next : Nat) (code : Array Instr) : Nat × Array Instr :=
  cs.foldr (fun c (next, code) => (code.size, code.push (.char c next))) (next, code)

/-- Adds states again and again, each time in front of those before. -/
def emitCopies (emit : Nat → Array Instr → Nat × Array Instr) : (copies : Nat) → Nat → Array Instr →
    Nat × Array Instr
  | 0, next, code => (next, code)
  | n + 1, next, code =>
    let (next, code) := emit next code
    emitCopies emit n next code

/-- Adds the states of a repetition in front of the state `next`. -/
def emitLoop (lo : Nat) (hi : Option Nat) (greedy consumes : Bool)
    (emit : Nat → Array Instr → Nat × Array Instr) (next : Nat) (code : Array Instr) : Nat × Array Instr :=
  match hi with
  | some h =>
    let optional (t : Nat) (code : Array Instr) : Nat × Array Instr :=
      let (body, code) := emit t code
      (code.size, code.push (choice greedy body next))
    let (rest, code) := emitCopies optional (h - lo) next code
    emitCopies emit lo rest code
  | none =>
    let hub := code.size
    let (body, code) := emit hub (code.push .accept)
    let code := code.set! hub (choice greedy body next)
    if 0 < lo then emitCopies emit (lo - 1) body code
    else if consumes then (hub, code)
    else (code.size, code.push (choice greedy body next))

mutual

/-- Adds the states of an expression in front of the state `next`; returns the first of them. -/
def emit : Regular → Nat → Array Instr → Nat × Array Instr
  | .empty, next, code => (next, code)
  | .text cs, next, code => emitText cs next code
  | .oneOf _ s, next, code => (code.size, code.push (.chars s next))
  | .look l, next, code => (code.size, code.push (.check l next))
  | .seq rs, next, code => emitSeq rs next code
  | .alt rs, next, code => emitAlt rs next code
  | .group i r, next, code =>
    let stop := code.size
    let (body, code) := emit r stop (code.push (.save (2 * i + 1) next))
    (code.size, code.push (.save (2 * i) body))
  | .loop lo hi greedy r, next, code => emitLoop lo hi greedy r.consumes (emit r) next code

def emitSeq : List Regular → Nat → Array Instr → Nat × Array Instr
  | [], next, code => (next, code)
  | r :: rs, next, code =>
    let (mid, code) := emitSeq rs next code
    emit r mid code

def emitAlt : List Regular → Nat → Array Instr → Nat × Array Instr
  | [], _, code => (code.size, code.push (.chars .empty 0))
  | [r], next, code => emit r next code
  | r :: rs, next, code =>
    let (y, code) := emitAlt rs next code
    let (x, code) := emit r next code
    (code.size, code.push (.split x y))

end

/-- The automaton of an expression, whole match included as group zero. -/
def ofRegular (r : Regular) : Automaton :=
  let (start, code) := emit (.group 0 r) 0 #[.accept]
  ⟨code, start, r.groupCount⟩

structure Thread where
  state : Nat
  slots : Slots
deriving Inhabited

/-- The threads at one position. A state has been entered at position `p` if its stamp is `p + 1`. -/
structure Front where
  stamps : Array Nat
  threads : Array Thread
deriving Inhabited

/-- Follows every step that takes no character, in order of preference. Each state is entered once, so the
fuel of two steps a state is enough. -/
def close (a : Automaton) (text : String) (pos : Nat) : Nat → List Thread → Front → Front
  | 0, _, f => f
  | _ + 1, [], f => f
  | fuel + 1, t :: ts, f =>
    if f.stamps.getD t.state (pos + 1) = pos + 1 then
      close a text pos fuel ts f
    else
      let f := { f with stamps := f.stamps.set! t.state (pos + 1) }
      match a.code[t.state]? with
      | some (.split x y) => close a text pos fuel (⟨x, t.slots⟩ :: ⟨y, t.slots⟩ :: ts) f
      | some (.save slot next) =>
        close a text pos fuel (⟨next, t.slots.set! slot (some pos)⟩ :: ts) f
      | some (.check l next) =>
        if l.holds text pos then close a text pos fuel (⟨next, t.slots⟩ :: ts) f
        else close a text pos fuel ts f
      | _ => close a text pos fuel ts { f with threads := f.threads.push t }

/-- Adds what follows one thread to the front at a position. -/
def enter (a : Automaton) (text : String) (pos : Nat) (t : Thread) (f : Front) : Front :=
  close a text pos (2 * a.code.size + 2) [t] f

/-- Moves the threads over a character, up to the first that accepts: those after it are less preferred. -/
def advance (a : Automaton) (text : String) (next : Nat) (c : Option Char) :
    List Thread → Front → Front × Option Slots
  | [], f => (f, none)
  | t :: ts, f =>
    match a.code[t.state]?, c with
    | some .accept, _ => (f, some t.slots)
    | some (.char d n), some c =>
      if c = d then advance a text next (some c) ts (enter a text next ⟨n, t.slots⟩ f)
      else advance a text next (some c) ts f
    | some (.chars s n), some c =>
      if s.contains c then advance a text next (some c) ts (enter a text next ⟨n, t.slots⟩ f)
      else advance a text next (some c) ts f
    | _, _ => advance a text next c ts f

/-- A thread that starts here. -/
def first (a : Automaton) : Thread :=
  ⟨a.start, Array.replicate (2 * a.groups) none⟩

/-- Runs the threads to the end of the text or of the threads; a later accepting thread was preferred. A
search starts another thread at every position until one has accepted. The fuel bounds the number of
characters. -/
def run (a : Automaton) (text : String) (searching : Bool) :
    (fuel pos : Nat) → Front → Option Slots → Option Slots
  | 0, _, _, best => best
  | fuel + 1, pos, f, best =>
    let f := if searching && best.isNone then enter a text pos a.first f else f
    if f.threads.isEmpty && !(searching && best.isNone) then best
    else
      let c := charAt? text pos
      let next := pos + (c.map Char.utf8Size).getD 0
      let (g, found) := advance a text next c f.threads.toList ⟨f.stamps, #[]⟩
      let best := found <|> best
      if c.isNone then best else run a text searching fuel next g best

/-- A front without threads. -/
def emptyFront (a : Automaton) : Front :=
  ⟨Array.replicate a.code.size 0, #[]⟩

/-- The preferred match that starts at the offset. -/
def matchAt (a : Automaton) (text : String) (pos : Nat) : Option Slots :=
  run a text false (text.utf8ByteSize + 1 - pos) pos (enter a text pos a.first a.emptyFront) none

/-- The preferred match among those that start first, at or after the offset. -/
def search (a : Automaton) (text : String) (pos : Nat) : Option Slots :=
  run a text true (text.utf8ByteSize + 1 - pos) pos a.emptyFront none

end Automaton

end ModalLexer.Pattern
