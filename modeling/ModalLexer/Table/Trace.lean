import ModalLexer.Event
import ModalLexer.Table.Build

/-!
What is told while a table is built.
-/

namespace ModalLexer.Declaration

/-- The states that were flattened, in the order in which this was done. -/
def flattenedEvents (d : Declaration) (done : Flattened) : List Event :=
  done.reverse.map fun s => .flattened ((d.names[s.1]?).getD "") s.2.length

/-- The number of rules that are declared; includes do not count. -/
def declaredCount (d : Declaration) : Nat :=
  (d.states.flatMap (·.2)).countP Entry.isRule

/-- What is told of building. A cycle of includes ends it. -/
def buildEvents (d : Declaration) : List Event :=
  match d.resolve with
  | .error _ => []
  | .ok (_, declared) =>
    match flatten declared with
    | .error cycle => d.flattenedEvents cycle.done
    | .ok done =>
      d.flattenedEvents done ++
        [.built d.states.length d.declaredCount (done.flatMap (·.2)).length]

end ModalLexer.Declaration
