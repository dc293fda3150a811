import ModalLexer.Scan.Stream

/-!
The scan that remembers nothing: every rule of the top state is tried at the cursor, in scans of groups too. It takes
the same steps as a scan with a memory wherever searches find the leftmost match.
-/

namespace ModalLexer

namespace Table

/-- The first rule that matches at an offset, if every rule is tried there. -/
def firstMatch (text : String) (pos : Nat) : List CompiledRule →
    Except Error (Option (CompiledRule × RuleMatch))
  | [] => .ok none
  | r :: rs =>
    match r.matchAt text pos with
    | .error e => .error e
    | .ok (some m) => .ok (some (r, m))
    | .ok none => firstMatch text pos rs

/-- One step that tries every rule. -/
def plainStep (t : Table) (text : String) (lexGroup : GroupLexer) (s : Scan) : Stepped :=
  match firstMatch text s.cursor (t.rulesOf s.stack.top) with
  | .error e => { scan := s, error := some e }
  | .ok (some (r, m)) => t.accept text lexGroup s r m
  | .ok none => t.fallback text s

/-- Plain steps to the end of the text or to an error, with the tokens so far newest first. -/
def plainRunFrom (t : Table) (text : String) (lexGroup : GroupLexer) :
    (fuel : Nat) → Scan → List Token → Scanned
  | 0, s, done => ⟨done.reverse, none, s⟩
  | fuel + 1, s, done =>
    if text.utf8ByteSize ≤ s.cursor then ⟨done.reverse, none, s⟩
    else match t.plainStep text lexGroup s with
      | ⟨s, _, some e⟩ => ⟨done.reverse, some e, s⟩
      | ⟨s, tokens, none⟩ => plainRunFrom t text lexGroup fuel s (tokens.reverse ++ done)

/-- The plain scan of a group, with so many levels left for groups inside it. -/
def plainLexGroup (t : Table) : (levels : Nat) → GroupLexer
  | 0, _, _ => { error := some (.nestingTooDeep t.options.maxNesting) }
  | levels + 1, text, state =>
    (t.plainRunFrom text (t.plainLexGroup levels) (t.stepBound text + 1) { stack := ⟨t.root, [state]⟩ } []).emitted

end Table

namespace Stream

/-- Plain steps until there is something to hand out. -/
def plainAdvance (t : Table) (text : String) : (fuel : Nat) → Scan → Option (Except Error Token) × Stream
  | 0, s => (none, { scan := s, finished := true })
  | fuel + 1, s =>
    if text.utf8ByteSize ≤ s.cursor then (none, { scan := s, finished := true })
    else match t.plainStep text (t.plainLexGroup t.options.maxNesting) s with
      | ⟨s, queued, some e⟩ => (some (.error e), { scan := s, pending := queued, finished := true })
      | ⟨s, token :: rest, none⟩ => (some (.ok token), { scan := s, pending := rest })
      | ⟨s, [], none⟩ => plainAdvance t text fuel s

/-- The next item of a plain scan. -/
def plainNext (t : Table) (text : String) (s : Stream) : Option (Except Error Token) × Stream :=
  match s.pending with
  | token :: rest => (some (.ok token), { s with pending := rest })
  | [] =>
    if s.finished then (none, s)
    else plainAdvance t text (t.stepBound text + 1) s.scan

end Stream

/-! ## Forgetting -/

/-- The scan without its memory. -/
def Scan.forget (s : Scan) : Scan :=
  { s with memo := {} }

/-- What a step leaves behind, without its memory. -/
def Stepped.forget (out : Stepped) : Stepped :=
  { out with scan := out.scan.forget }

/-- The stream without its memory. -/
def Stream.forget (s : Stream) : Stream :=
  { s with scan := s.scan.forget }

end ModalLexer
