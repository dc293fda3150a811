import ModalLexer.Table.Basic

/-!
Building a table from a declaration: names are checked and resolved, patterns are compiled, and every
include is replaced by the rules it stands for.
-/

namespace ModalLexer

/-! ## Names -/

/-- Every name is declared once. -/
def checkDistinct : (seen : List String) → List String → Except Error Unit
  | _, [] => .ok ()
  | seen, n :: ns => if seen.contains n then .error (.duplicateState n) else checkDistinct (n :: seen) ns

/-- The state of a name that is used in the declaration of a state. -/
def resolveName (names : List String) (referencedFrom name : String) : Except Error StateId :=
  match names.findIdx? (· == name) with
  | some i => .ok ⟨i⟩
  | none => .error (.undefinedState name referencedFrom)

/-! ## Rules -/

/-- Where a rule is declared. -/
structure RuleSite where
  state : String
  index : Nat
  slot : Nat
deriving DecidableEq, Repr, Inhabited

def RuleSite.invalid (s : RuleSite) (f : RuleFault) : Except Error α :=
  .error (.invalidRule s.state s.index f)

def compileTransition (names : List String) (site : RuleSite) :
    Transition String → Except Error (Transition StateId)
  | .push [] => site.invalid .emptyPush
  | .pop 0 => site.invalid .emptyPop
  | t => t.mapM (resolveName names site.state)

/-- Checks an emission against the number of groups of the pattern. -/
def compileEmission (names : List String) (site : RuleSite) (groups : Nat) (stays : Bool) :
    Emission String → Except Error (Emission StateId)
  | .token k => .ok (.token k)
  | .nothing => if stays then site.invalid .inert else .ok .nothing
  | .byGroups actions =>
    if groups < actions.length then site.invalid (.tooManyActions actions.length groups)
    else (Emission.byGroups actions).mapM (resolveName names site.state)

def compileRule (multiLine : Bool) (names : List String) (site : RuleSite) (r : Rule) :
    Except Error CompiledRule := do
  let matcher ← (r.pattern.compile multiLine).mapError fun e =>
    .ofFault e.2 (.badPattern site.state site.index r.pattern.text e.1)
  let transition ← compileTransition names site r.transition
  let emission ← compileEmission names site (matcher.groupCount - 1) r.transition.isStay r.emission
  return {
    pattern := r.pattern, matcher, emission, transition
    origin := site.state, index := site.index, slot := site.slot }

/-- An entry with its references resolved. -/
inductive CompiledEntry
  | rule (r : CompiledRule)
  | include (id : StateId)

/-- Compiles the entries of a state from the given place on. Only rules take a slot; the next free one is
returned. -/
def compileEntries (multiLine : Bool) (names : List String) (state : String) :
    (index slot : Nat) → List Entry → Except Error (List CompiledEntry × Nat)
  | _, slot, [] => .ok ([], slot)
  | index, slot, .rule r :: es => do
    let rule ← compileRule multiLine names ⟨state, index, slot⟩ r
    let (rest, slot) ← compileEntries multiLine names state (index + 1) (slot + 1) es
    return (.rule rule :: rest, slot)
  | index, slot, .include target :: es => do
    let id ← resolveName names state target
    let (rest, slot) ← compileEntries multiLine names state (index + 1) slot es
    return (.include id :: rest, slot)

/-- Compiles all states in order, from the given slot on. -/
def compileStates (multiLine : Bool) (names : List String) :
    (slot : Nat) → List (String × List Entry) → Except Error (List (List CompiledEntry))
  | _, [] => .ok []
  | slot, (name, entries) :: rest => do
    let (compiled, slot) ← compileEntries multiLine names name 0 slot entries
    return compiled :: (← compileStates multiLine names slot rest)

/-! ## Includes -/

/-- The states that have been flattened, newest first, with their rules. -/
abbrev Flattened := List (Nat × List CompiledRule)

def Flattened.rules? (done : Flattened) (id : Nat) : Option (List CompiledRule) :=
  (done.find? (·.1 == id)).map (·.2)

/-- A state that includes itself, and how far flattening got. -/
structure IncludeCycle where
  path : List Nat
  done : Flattened

/-- The rules of some entries; `visit` flattens an included state. -/
def flattenEntries (visit : Nat → Flattened → Except IncludeCycle Flattened) :
    List CompiledEntry → Flattened → Except IncludeCycle (List CompiledRule × Flattened)
  | [], done => .ok ([], done)
  | .rule r :: es, done => do
    let (rules, done) ← flattenEntries visit es done
    return (r :: rules, done)
  | .include id :: es, done => do
    let done ← visit id.index done
    let (rules, done') ← flattenEntries visit es done
    return ((Flattened.rules? done id.index).getD [] ++ rules, done')

/-- Flattens a state and first those it includes. `visiting` are the states whose entries are being walked,
newest first; as they differ, their number bounds the fuel. -/
def flattenState (declared : Array (List CompiledEntry)) : (fuel : Nat) → (visiting : List Nat) → Nat →
    Flattened → Except IncludeCycle Flattened
  | 0, visiting, _, done => .error ⟨visiting.reverse, done⟩
  | fuel + 1, visiting, id, done =>
    if (done.rules? id).isSome then .ok done
    else if visiting.contains id then
      .error ⟨id :: (visiting.takeWhile (· != id)).reverse ++ [id], done⟩
    else do
      let (rules, done) ← flattenEntries (flattenState declared fuel (id :: visiting))
        (declared.getD id []) done
      return (id, rules) :: done

/-- Flattens the given states in order. -/
def flattenAll (declared : Array (List CompiledEntry)) : List Nat → Flattened → Except IncludeCycle Flattened
  | [], done => .ok done
  | id :: ids, done => do
    let done ← flattenState declared (declared.size + 1) [] id done
    flattenAll declared ids done

/-! ## The table -/

namespace Declaration

def names (d : Declaration) : List String :=
  d.states.map (·.1)

/-- The declaration with its references resolved, and the root. -/
def resolve (d : Declaration) : Except Error (StateId × List (List CompiledEntry)) := do
  checkDistinct [] d.names
  let root ← match d.names.findIdx? (· == d.options.root) with
    | some i => pure (StateId.mk i)
    | none => throw (.missingRoot d.options.root)
  let declared ← compileStates d.options.multiLine d.names 0 d.states
  return (root, declared)

/-- The rules of every state. -/
def flatten (declared : List (List CompiledEntry)) : Except IncludeCycle Flattened :=
  flattenAll declared.toArray (List.range declared.length) []

/-- The error that reports a cycle by the names of its states. -/
def cycleError (d : Declaration) (c : IncludeCycle) : Error :=
  .includeCycle (c.path.map fun i => (d.names[i]?).getD "")

/-- Builds the table. -/
def build (d : Declaration) : Except Error Table := do
  let (root, declared) ← d.resolve
  let done ← (flatten declared).mapError d.cycleError
  return {
    options := d.options
    names := d.names.toArray
    rules := ((List.range declared.length).map fun i => (done.rules? i).getD []).toArray
    root }

end Declaration

end ModalLexer
