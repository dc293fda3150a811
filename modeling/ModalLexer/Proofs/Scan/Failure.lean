import ModalLexer.Proofs.Scan.Step

/-!
How a scan can fail: a search was given up, empty matches do not get on, text would be dropped, or groups nest
too deep. Nothing else can go wrong in it. A step fails of itself, or because the scan of a group fails, and then
with the error of that scan.
-/

namespace ModalLexer

open Text (slice)

/-- The errors of scans. -/
def Error.isScan : Error → Bool
  | .searchFailed .. | .zeroWidthMatch .. | .zeroWidthLoop .. | .droppedText .. | .nestingTooDeep .. => true
  | _ => false

/-! ## Searches -/

namespace CompiledRule

variable {r : CompiledRule} {text : String} {pos : Nat} {e : Error}

theorem matchAt_error (h : r.matchAt text pos = .error e) : ∃ f, e = r.failure pos f := by
  unfold matchAt at h
  split at h
  · obtain ⟨f, _, rfl⟩ := mapError_eq_error.mp (map_eq_error.mp h)
    exact ⟨f, rfl⟩
  · obtain ⟨f, _, rfl⟩ := mapError_eq_error.mp (map_eq_error.mp h)
    exact ⟨f, rfl⟩

theorem nextStart_error (h : r.nextStart text pos = .error e) : ∃ f, e = r.failure pos f := by
  obtain ⟨f, _, rfl⟩ := mapError_eq_error.mp h
  exact ⟨f, rfl⟩

end CompiledRule

theorem Memo.mayMatch_error {m m' : Memo} {r : CompiledRule} {text : String} {pos : Nat} {e : Error}
    (h : m.mayMatch r text pos = (.error e, m')) : ∃ f, e = r.failure pos f := by
  unfold mayMatch at h
  split at h
  · split at h
    · cases h
    · split at h
      · cases h
      · rename_i hn; cases h; exact CompiledRule.nextStart_error hn
  · cases h

namespace Table

variable {t : Table} {text : String} {lexGroup : GroupLexer}

/-- The choice of a rule fails as the search for one of the rules does. -/
theorem choose_error {pos : Nat} {rs : List CompiledRule} {memo memo' : Memo} {e : Error}
    (h : choose text pos rs memo = (.error e, memo')) : ∃ r ∈ rs, ∃ f, e = r.failure pos f := by
  fun_induction choose text pos rs memo with
  | case1 => cases h
  | case2 r rs memo e' memo'' hm => cases h; exact ⟨r, List.mem_cons_self, Memo.mayMatch_error hm⟩
  | case3 r rs memo memo'' _ ih =>
      obtain ⟨r', hr', he⟩ := ih h
      exact ⟨r', List.mem_cons_of_mem _ hr', he⟩
  | case4 r rs memo memo'' _ e' hm => cases h; exact ⟨r, List.mem_cons_self, CompiledRule.matchAt_error hm⟩
  | case5 => cases h
  | case6 r rs memo memo'' _ _ ih =>
      obtain ⟨r', hr', he⟩ := ih h
      exact ⟨r', List.mem_cons_of_mem _ hr', he⟩

/-! ## Groups -/

theorem piecesTokens_append {actions : List (GroupAction StateId)} {ps qs : List Piece} {first : List Token}
    (h : t.piecesTokens text lexGroup actions ps = ⟨first, none⟩) :
    t.piecesTokens text lexGroup actions (ps ++ qs) =
      ⟨first ++ (t.piecesTokens text lexGroup actions qs).tokens,
        (t.piecesTokens text lexGroup actions qs).error⟩ := by
  induction ps generalizing first with
  | nil => cases h; rfl
  | cons p ps ih =>
      obtain ⟨own, rest, hown, hrest, rfl⟩ := piecesTokens_cons_eq_ok.mp h
      simp only [List.cons_append, piecesTokens, hown, ih hrest, List.append_assoc]

/-- Pieces fail if the first one does, or the others do after it. -/
theorem piecesTokens_cons_error {actions : List (GroupAction StateId)} {p : Piece} {ps : List Piece} {e : Error} :
    (t.piecesTokens text lexGroup actions (p :: ps)).error = some e ↔
      (t.pieceTokens text lexGroup actions p).error = some e ∨
        ∃ first, t.pieceTokens text lexGroup actions p = ⟨first, none⟩ ∧
          (t.piecesTokens text lexGroup actions ps).error = some e := by
  rw [piecesTokens]
  rcases t.pieceTokens text lexGroup actions p with ⟨first, _ | e'⟩
  · simp
  · simp

/-- Pieces fail at the first group whose scan does, and with its error. -/
theorem piecesTokens_eq_error {actions : List (GroupAction StateId)} {ps : List Piece} {e : Error} :
    (t.piecesTokens text lexGroup actions ps).error = some e ↔
      ∃ before i span after tokens state, ps = before ++ .group i span :: after ∧
        t.piecesTokens text lexGroup actions before = ⟨tokens, none⟩ ∧ actions[i]? = some (.lex state) ∧
        (lexGroup (slice text span) state).error = some e := by
  constructor
  · intro h
    induction ps with
    | nil => cases h
    | cons p ps ih =>
        rcases piecesTokens_cons_error.mp h with h | ⟨first, hfirst, h⟩
        · cases p with
          | gap span => cases h
          | group i span =>
              simp only [pieceTokens] at h
              split at h
              · cases h
              · rename_i state ha
                exact ⟨[], i, span, ps, [], state, rfl, rfl, ha, h⟩
              · cases h
        · obtain ⟨before, i, span, after, tokens, state, rfl, hb, ha, he⟩ := ih h
          refine ⟨p :: before, i, span, after, first ++ tokens, state, rfl, ?_, ha, he⟩
          exact piecesTokens_cons_eq_ok.mpr ⟨first, tokens, hfirst, hb, rfl⟩
  · rintro ⟨before, i, span, after, tokens, state, rfl, hb, ha, he⟩
    rw [piecesTokens_append hb]
    refine piecesTokens_cons_error.mpr (.inl ?_)
    simp only [pieceTokens, ha]
    exact he

/-- A step comes to scan a group: the match that it chose falls into pieces, those before the group have become
tokens, and the group is to be scanned from a state. -/
inductive Opens (t : Table) (text : String) (lexGroup : GroupLexer) (s : Scan) : String → StateId → Prop
  | intro {r : CompiledRule} {m : RuleMatch} {memo : Memo} {actions : List (GroupAction StateId)}
      {before after : List Piece} {i : Nat} {span : Text.Span} {tokens : List Token} {state : StateId}
      (chosen : choose text s.cursor (t.rulesOf s.stack.top) s.memo = (.ok (some (r, m)), memo))
      (filled : m.span.isEmpty = false) (grouped : r.emission = .byGroups actions)
      (pieces : Piece.plan m.span (m.groups.getD []) (actionEmits actions) = before ++ .group i span :: after)
      (earlier : t.piecesTokens text lexGroup actions before = ⟨tokens, none⟩)
      (action : actions[i]? = some (.lex state)) : Opens t text lexGroup s (slice text span) state

/-! ## Steps -/

/-- A step fails of itself. -/
inductive Fault (t : Table) (text : String) (s : Scan) : Error → Prop
  | search {memo : Memo} {e : Error}
      (failed : choose text s.cursor (t.rulesOf s.stack.top) s.memo = (.error e, memo)) : Fault t text s e
  | inert {r : CompiledRule} {m : RuleMatch} {memo : Memo}
      (chosen : choose text s.cursor (t.rulesOf s.stack.top) s.memo = (.ok (some (r, m)), memo))
      (empty : m.span.isEmpty = true) (stays : r.transition.isStay = true) :
      Fault t text s (.zeroWidthMatch r.origin r.index s.cursor)
  | loop {r : CompiledRule} {m : RuleMatch} {memo : Memo}
      (chosen : choose text s.cursor (t.rulesOf s.stack.top) s.memo = (.ok (some (r, m)), memo))
      (empty : m.span.isEmpty = true) (moves : r.transition.isStay = false)
      (full : t.options.maxZeroWidth < s.zeroWidth + 1) :
      Fault t text s (.zeroWidthLoop (t.name s.stack.top) s.cursor t.options.maxZeroWidth)
  | dropped {r : CompiledRule} {m : RuleMatch} {memo : Memo}
      (chosen : choose text s.cursor (t.rulesOf s.stack.top) s.memo = (.ok (some (r, m)), memo))
      (filled : m.span.isEmpty = false) (silent : r.emission = .nothing) :
      Fault t text s (.droppedText r.origin r.index s.cursor)

/-- A step fails of itself, or it comes to a group whose scan fails. -/
theorem step_eq_error {s : Scan} {e : Error} : (t.step text lexGroup s).error = some e ↔
    t.Fault text s e ∨ ∃ part state, t.Opens text lexGroup s part state ∧
      (lexGroup part state).error = some e := by
  constructor
  · intro h
    have hsteps : t.Steps text lexGroup s (t.step text lexGroup s) := steps_step
    generalize t.step text lexGroup s = out at h hsteps
    cases hsteps with
    | search failed => cases h; exact .inl (.search failed)
    | fallback => rw [fallback_error] at h; cases h
    | accept chosen accepts =>
        cases accepts with
        | inert empty stays => cases h; exact .inl (.inert chosen empty stays)
        | loop empty moves full => cases h; exact .inl (.loop chosen empty moves full)
        | count => cases h
        | put => cases h
        | fail filled failed =>
            cases h
            unfold matchTokens at failed
            split at failed
            · cases failed
            · rename_i actions hgroups
              obtain ⟨before, i, span, after, tokens, state, hp, hb, hact, he⟩ :=
                piecesTokens_eq_error.mp (congrArg Emitted.error failed)
              exact .inr ⟨_, state, .intro chosen filled hgroups hp hb hact, he⟩
            · rename_i hnothing; cases failed; exact .inl (.dropped chosen filled hnothing)
  · rintro (hfault | ⟨part, state, hopens, he⟩)
    · cases hfault with
      | search failed => rw [step_eq_iff.mpr (.search failed)]
      | inert chosen empty stays => rw [step_eq_iff.mpr (.accept chosen (.inert empty stays))]
      | loop chosen empty moves full => rw [step_eq_iff.mpr (.accept chosen (.loop empty moves full))]
      | @dropped r m _ chosen filled silent =>
          have hdropped : t.matchTokens text lexGroup r m s.cursor =
              { error := some (.droppedText r.origin r.index s.cursor) } := by
            simp only [matchTokens, silent]
          rw [step_eq_iff.mpr (.accept chosen (.fail filled hdropped))]
    · cases hopens with
      | @intro r m _ _ _ _ _ _ _ _ chosen filled grouped pieces earlier action =>
          have hgroup : (t.matchTokens text lexGroup r m s.cursor).error = some e := by
            simp only [matchTokens, grouped, piecesTokens_eq_error]
            exact ⟨_, _, _, _, _, _, pieces, earlier, action, he⟩
          rw [step_eq_iff.mpr (.accept chosen (.fail filled (congrArg (Emitted.mk _) hgroup)))]

theorem Fault.isScan {s : Scan} {e : Error} (h : t.Fault text s e) : e.isScan = true := by
  cases h with
  | search failed => obtain ⟨_, _, _, rfl⟩ := choose_error failed; rfl
  | inert => rfl
  | loop => rfl
  | dropped => rfl

/-! ## Whole scans -/

/-- The scan of a group fails as scans do. -/
def FailsInGroups (lexGroup : GroupLexer) : Prop :=
  ∀ text state e, (lexGroup text state).error = some e → e.isScan = true

theorem step_error (hlex : FailsInGroups lexGroup) {s : Scan} {e : Error}
    (h : (t.step text lexGroup s).error = some e) : e.isScan = true := by
  rcases step_eq_error.mp h with hfault | ⟨part, state, _, he⟩
  · exact hfault.isScan
  · exact hlex part state e he

theorem runFrom_error (hlex : FailsInGroups lexGroup) {fuel : Nat} {s : Scan} {done : List Token} {e : Error}
    (h : (t.runFrom text lexGroup fuel s done).error = some e) : e.isScan = true := by
  induction fuel generalizing s done with
  | zero => cases h
  | succ fuel ih =>
      unfold runFrom at h
      split at h
      · cases h
      · split at h
        · rename_i hs; cases h; exact step_error hlex (congrArg Stepped.error hs)
        · exact ih h

theorem lexGroup_fails (t : Table) (levels : Nat) : FailsInGroups (t.lexGroup levels) := by
  induction levels with
  | zero => intro text state e h; cases h; rfl
  | succ levels ih => intro text state e h; exact runFrom_error ih h

/-- A text can only fail to be scanned in the ways that scans fail. -/
theorem tokenize_error {e : Error} (h : t.tokenize text = .error e) : e.isScan = true :=
  runFrom_error (t.lexGroup_fails _) (Emitted.result_eq_error.mp h)

end Table

end ModalLexer
