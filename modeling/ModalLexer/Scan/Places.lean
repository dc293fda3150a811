import ModalLexer.Scan.Step

/-!
What a scan goes through: the places at which it stands after its steps, and the questions about rules that it asks
there, with the searches that are run for them.
-/

namespace ModalLexer

/-! ## Places -/

namespace Table

/-- Where a run stands after each of its steps. -/
def pathFrom (t : Table) (text : String) (lexGroup : GroupLexer) : (fuel : Nat) → Scan → List Scan
  | 0, _ => []
  | fuel + 1, s =>
    if text.utf8ByteSize ≤ s.cursor then []
    else match t.step text lexGroup s with
      | ⟨_, _, some _⟩ => []
      | ⟨s, _, none⟩ => s :: pathFrom t text lexGroup fuel s

/-- Where the scan of a text from a stack stands after each of its steps. -/
def path (t : Table) (text : String) (stack : StateStack) : List Scan :=
  t.pathFrom text t.lexOuterGroup (t.stepBound text + 1) { stack }

/-- The names on the stack of a scan, the root first. -/
def stackNames (t : Table) (s : Scan) : List String :=
  s.stack.toList.map t.name

end Table

/-! ## Questions -/

/-- A question: can the rule match at the offset? -/
structure Query where
  rule : CompiledRule
  pos : Nat

/-- The answer without a memory. A rule that need not be searched for always may match. -/
def Query.answer (text : String) (q : Query) : Except Error Bool :=
  if q.rule.needsSearch then (q.rule.nextStart text q.pos).map (· == some q.pos) else .ok true

namespace Memo

/-- The answer to a question, and what is remembered then. -/
def ask (m : Memo) (text : String) (q : Query) : Except Error Bool × Memo :=
  m.mayMatch q.rule text q.pos

/-- What is remembered after some questions. -/
def after (text : String) : Memo → List Query → Memo
  | m, [] => m
  | m, q :: qs => after text (m.ask text q).2 qs

/-- The answers to questions one after the other. -/
def answers (text : String) : Memo → List Query → List (Except Error Bool)
  | _, [] => []
  | m, q :: qs => (m.ask text q).1 :: answers text (m.ask text q).2 qs

/-- The questions for which a search was run. -/
def searched (text : String) : Memo → List Query → List Query
  | _, [] => []
  | m, q :: qs =>
    (if m.searches < (m.ask text q).2.searches then [q] else []) ++ searched text (m.ask text q).2 qs

/-- The offsets of the questions about a rule. -/
def positions (r : CompiledRule) (qs : List Query) : List Nat :=
  (qs.filter (·.rule.slot == r.slot)).map (·.pos)

/-- The number of searches for a rule. -/
def searchesFor (r : CompiledRule) (text : String) (m : Memo) (qs : List Query) : Nat :=
  (searched text m qs).countP (·.rule.slot == r.slot)

end Memo

namespace Table

/-- The questions that the choice of a rule asks. -/
def choiceQueries (text : String) (pos : Nat) : List CompiledRule → Memo → List Query
  | [], _ => []
  | r :: rs, memo =>
    ⟨r, pos⟩ :: match memo.mayMatch r text pos with
      | (.error _, _) => []
      | (.ok false, memo) => choiceQueries text pos rs memo
      | (.ok true, memo) =>
        match r.matchAt text pos with
        | .ok none => choiceQueries text pos rs memo
        | _ => []

/-- The questions of the steps from some places, the newest place first. -/
def asked (t : Table) (text : String) (places : List Scan) : List Query :=
  places.reverse.flatMap fun s => choiceQueries text s.cursor (t.rulesOf s.stack.top) s.memo

end Table

end ModalLexer
