import ModalLexer.Scan.Step

/-!
A scan item by item: each item is a token or the error that ends the scan.
-/

namespace ModalLexer

/-- A scan with the tokens that have not been handed out. -/
structure Stream where
  scan : Scan
  pending : List Token := []
  finished : Bool := false
deriving DecidableEq, Repr, Inhabited

namespace Stream

/-- Steps until there is something to hand out; the fuel bounds the steps. An error is handed out before anything
that is queued. -/
def advance (t : Table) (text : String) : (fuel : Nat) → Scan → Option (Except Error Token) × Stream
  | 0, s => (none, { scan := s, finished := true })
  | fuel + 1, s =>
    if text.utf8ByteSize ≤ s.cursor then (none, { scan := s, finished := true })
    else match t.step text t.lexOuterGroup s with
      | ⟨s, queued, some e⟩ => (some (.error e), { scan := s, pending := queued, finished := true })
      | ⟨s, token :: rest, none⟩ => (some (.ok token), { scan := s, pending := rest })
      | ⟨s, [], none⟩ => advance t text fuel s

/-- The next item: what is queued first, then what further steps bring. No step is taken after the end of the text
or after an error. -/
def next (t : Table) (text : String) (s : Stream) : Option (Except Error Token) × Stream :=
  match s.pending with
  | token :: rest => (some (.ok token), { s with pending := rest })
  | [] =>
    if s.finished then (none, s)
    else advance t text (t.stepBound text + 1) s.scan

end Stream

end ModalLexer
