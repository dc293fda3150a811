import ModalLexer.Proofs.Outcome
import ModalLexer.Proofs.Scan.Pieces
import ModalLexer.Proofs.Table.Rules
import ModalLexer.Proofs.Tiling
import ModalLexer.Scan.Step

/-!
One step of a scan. A step that fails leaves the cursor and the stack, and queues nothing. If it succeeds, either an
empty match moves the stack and leaves the cursor, and the count of empty matches goes up within its bound, or the
cursor moves on and the tokens of the step tile the text that it passed.
-/

namespace ModalLexer

open Text

/-! ## Matches -/

/-- A match at an offset is a place of the text, and so are its groups. -/
structure RuleMatch.At (text : String) (pos : Nat) (m : RuleMatch) : Prop where
  start : m.span.start = pos
  le : pos ≤ m.span.stop
  stop : isBoundary text m.span.stop = true
  groups : ∀ g, some g ∈ m.groups.getD [] → isBoundary text g.start = true ∧ isBoundary text g.stop = true

/-- The pieces of a match lie one after the other, from its place to its end. -/
theorem RuleMatch.At.plan_consecutive {text : String} {pos : Nat} {m : RuleMatch} (hm : m.At text pos)
    (emits : Nat → Bool) : Piece.Consecutive pos (Piece.plan m.span (m.groups.getD []) emits) m.span.stop := by
  rw [Piece.plan, hm.start]
  exact Piece.planFrom_consecutive hm.le

theorem RuleMatch.At.plan_onBoundaries {text : String} {pos : Nat} {m : RuleMatch} (hm : m.At text pos)
    (hpos : isBoundary text pos = true) (emits : Nat → Bool) :
    ∀ p ∈ Piece.plan m.span (m.groups.getD []) emits, p.OnBoundaries text :=
  Piece.planFrom_onBoundaries (hm.start ▸ hpos) hm.stop fun g hg => hm.groups g (List.mem_of_mem_drop hg)

theorem CompiledRule.matchAt_at {r : CompiledRule} (hr : r.matcher.Sound) {text : String} {pos : Nat}
    (hpos : isBoundary text pos = true) {m : RuleMatch} (h : r.matchAt text pos = .ok (some m)) :
    m.At text pos := by
  unfold matchAt at h
  split at h
  · obtain ⟨found, hf, h⟩ := map_eq_ok.mp h
    obtain ⟨groups, rfl, h⟩ := Option.bind_eq_some_iff.mp h
    obtain ⟨span, hs, rfl⟩ := Option.map_eq_some_iff.mp h
    have hf := mapError_eq_ok.mp hf
    have hhead : groups.head? = some (some span) := Option.join_eq_some_iff.mp hs
    obtain ⟨hstart, hle⟩ := hr.whole hpos hf hhead
    have hgroups := hr.groups hpos hf
    exact ⟨hstart, hle, (hgroups span (List.mem_of_mem_head? hhead)).2, hgroups⟩
  · obtain ⟨found, hf, h⟩ := map_eq_ok.mp h
    obtain ⟨span, rfl, rfl⟩ := Option.map_eq_some_iff.mp h
    obtain ⟨hstart, hle, hstop⟩ := hr.find hpos (mapError_eq_ok.mp hf)
    exact ⟨hstart, hle, hstop, by simp⟩

/-! ## Tokens of a text -/

namespace Emitted

variable {out : Emitted} {base : Nat} {tokens : List Token} {e : Error}

theorem shift_eq_ok :
    out.shift base = ⟨tokens, none⟩ ↔ ∃ inner, out = ⟨inner, none⟩ ∧ inner.map (·.shift base) = tokens := by
  rcases out with ⟨inner, _ | e⟩
  · simp [shift]
  · simp [shift]

theorem result_shift (out : Emitted) (base : Nat) :
    (out.shift base).result = out.result.map fun tokens => tokens.map (·.shift base) := by
  rcases out with ⟨inner, _ | e⟩
  · rfl
  · rfl

theorem result_eq_ok : out.result = .ok tokens ↔ out = ⟨tokens, none⟩ := by
  rcases out with ⟨tokens', _ | e⟩
  · simp [result]
  · simp [result]

theorem result_eq_error : out.result = .error e ↔ out.error = some e := by
  rcases out with ⟨tokens', _ | e'⟩
  · simp [result]
  · simp [result]

end Emitted

namespace Table

variable {t : Table} {text : String} {lexGroup : GroupLexer}

theorem choose_some {pos : Nat} {rs : List CompiledRule} {memo memo' : Memo} {r : CompiledRule} {m : RuleMatch}
    (h : choose text pos rs memo = (.ok (some (r, m)), memo')) : r ∈ rs ∧ r.matchAt text pos = .ok (some m) := by
  fun_induction choose text pos rs memo with
  | case1 => cases h
  | case2 => cases h
  | case3 r' rs memo memo'' _ ih => exact ⟨List.mem_cons_of_mem _ (ih h).1, (ih h).2⟩
  | case4 => cases h
  | case5 r' rs memo memo'' _ m' hm => cases h; exact ⟨List.mem_cons_self, hm⟩
  | case6 r' rs memo memo'' _ _ ih => exact ⟨List.mem_cons_of_mem _ (ih h).1, (ih h).2⟩

/-! ## Tokens of a match -/

/-- Pieces become tokens if the first one does and then the others do. -/
theorem piecesTokens_cons_eq_ok {actions : List (GroupAction StateId)} {p : Piece} {ps : List Piece}
    {tokens : List Token} : t.piecesTokens text lexGroup actions (p :: ps) = ⟨tokens, none⟩ ↔
      ∃ first rest, t.pieceTokens text lexGroup actions p = ⟨first, none⟩ ∧
        t.piecesTokens text lexGroup actions ps = ⟨rest, none⟩ ∧ first ++ rest = tokens := by
  rw [piecesTokens]
  rcases t.pieceTokens text lexGroup actions p with ⟨first, _ | e⟩
  · rcases t.piecesTokens text lexGroup actions ps with ⟨rest, _ | e⟩
    · simp
    · simp
  · simp

theorem result_piecesTokens_cons (actions : List (GroupAction StateId)) (p : Piece) (ps : List Piece) :
    (t.piecesTokens text lexGroup actions (p :: ps)).result = (do
      let first ← (t.pieceTokens text lexGroup actions p).result
      let rest ← (t.piecesTokens text lexGroup actions ps).result
      return first ++ rest) := by
  rw [piecesTokens]
  rcases t.pieceTokens text lexGroup actions p with ⟨first, _ | e⟩
  · rcases t.piecesTokens text lexGroup actions ps with ⟨rest, _ | e⟩
    · rfl
    · rfl
  · rfl

/-- Where the scan of a group succeeds, its tokens tile the group. -/
def TilesGroups (lexGroup : GroupLexer) : Prop :=
  ∀ text state tokens, lexGroup text state = ⟨tokens, none⟩ → Tiles text 0 tokens text.utf8ByteSize

theorem pieceTokens_tile (hlex : TilesGroups lexGroup) {actions : List (GroupAction StateId)} {p : Piece}
    {tokens : List Token} (hp : p.OnBoundaries text) (hlt : p.span.start < p.span.stop)
    (h : t.pieceTokens text lexGroup actions p = ⟨tokens, none⟩) :
    Tiles text p.span.start tokens p.span.stop := by
  have hs : slice? text p.span.start p.span.stop = some (slice text p.span) :=
    slice?_slice hp.1 hp.2 (Nat.le_of_lt hlt)
  cases p with
  | gap span => cases h; exact .single _ hs hlt
  | group i span =>
      simp only [pieceTokens] at h
      split at h
      · cases h; exact .single _ hs hlt
      · obtain ⟨inner, hin, rfl⟩ := Emitted.shift_eq_ok.mp h
        have := Tiles.shift hs (hlex _ _ _ hin)
        rwa [Nat.add_zero, ← slice?_size hs] at this
      · cases h; exact .single _ hs hlt

theorem piecesTokens_tile (hlex : TilesGroups lexGroup) {actions : List (GroupAction StateId)} {ps : List Piece}
    {start stop : Nat} {tokens : List Token} (hps : ∀ p ∈ ps, p.OnBoundaries text)
    (hc : Piece.Consecutive start ps stop) (h : t.piecesTokens text lexGroup actions ps = ⟨tokens, none⟩) :
    Tiles text start tokens stop := by
  induction ps generalizing start tokens with
  | nil => cases h; exact hc
  | cons p ps ih =>
      obtain ⟨first, rest, hfirst, hrest, rfl⟩ := piecesTokens_cons_eq_ok.mp h
      obtain ⟨hp, hps⟩ := List.forall_mem_cons.mp hps
      obtain ⟨rfl, hlt, hc⟩ := hc
      exact (pieceTokens_tile hlex hp hlt hfirst).append (ih hps hc hrest)

theorem matchTokens_tile (hlex : TilesGroups lexGroup) {r : CompiledRule} {m : RuleMatch} {pos cursor : Nat}
    {tokens : List Token} (hpos : isBoundary text pos = true) (hm : m.At text pos) (hlt : pos < m.span.stop)
    (h : t.matchTokens text lexGroup r m cursor = ⟨tokens, none⟩) : Tiles text pos tokens m.span.stop := by
  have hstart := hm.start
  unfold matchTokens at h
  split at h
  · cases h
    rw [hstart]
    have hs := slice?_slice (r := m.span) (by rw [hstart]; exact hpos) hm.stop (by omega)
    rw [hstart] at hs
    exact .single _ hs hlt
  · exact piecesTokens_tile hlex (hm.plan_onBoundaries hpos _) (hm.plan_consecutive _) h
  · cases h

/-! ## What a step can do -/

variable {s s' : Scan} {r : CompiledRule} {m : RuleMatch} {tokens : List Token} {out : Stepped} {e : Error}

/-- What a match can do. An empty one breaks off if it leaves the stack as it is or is one too many, and is counted
otherwise. Any other breaks off if its text cannot all become tokens, whatever became tokens before, and otherwise puts
them out. -/
inductive Accepts (t : Table) (text : String) (lexGroup : GroupLexer) (s : Scan) (r : CompiledRule) (m : RuleMatch) :
    Stepped → Prop
  | inert (empty : m.span.isEmpty = true) (stays : r.transition.isStay = true) :
      Accepts t text lexGroup s r m ⟨s, [], some (.zeroWidthMatch r.origin r.index s.cursor)⟩
  | loop (empty : m.span.isEmpty = true) (moves : r.transition.isStay = false)
      (full : t.options.maxZeroWidth < s.zeroWidth + 1) :
      Accepts t text lexGroup s r m ⟨{ s with zeroWidth := s.zeroWidth + 1 }, [],
        some (.zeroWidthLoop (t.name s.stack.top) s.cursor t.options.maxZeroWidth)⟩
  | count (empty : m.span.isEmpty = true) (moves : r.transition.isStay = false)
      (room : s.zeroWidth + 1 ≤ t.options.maxZeroWidth) :
      Accepts t text lexGroup s r m ⟨{ s with zeroWidth := s.zeroWidth + 1 }.follow r m, [], none⟩
  | fail {dropped : List Token} {e : Error} (filled : m.span.isEmpty = false)
      (failed : t.matchTokens text lexGroup r m s.cursor = ⟨dropped, some e⟩) :
      Accepts t text lexGroup s r m ⟨{ s with zeroWidth := 0 }, [], some e⟩
  | put {tokens : List Token} (filled : m.span.isEmpty = false)
      (put : t.matchTokens text lexGroup r m s.cursor = ⟨tokens, none⟩) :
      Accepts t text lexGroup s r m ⟨{ s with zeroWidth := 0 }.follow r m, tokens, none⟩

theorem accepts_accept : t.Accepts text lexGroup s r m (t.accept text lexGroup s r m) := by
  unfold accept
  split
  next hempty =>
    split
    next hstays => exact .inert hempty hstays
    next hmoves =>
      have hmoves := Bool.eq_false_iff.mpr hmoves
      simp only
      split
      next hfull => exact .loop hempty hmoves hfull
      next hroom => exact .count hempty hmoves (Nat.le_of_not_lt hroom)
  next hfilled =>
    have hfilled := Bool.eq_false_iff.mpr hfilled
    simp only
    split
    next hfailed => exact .fail hfilled hfailed
    next htokens => exact .put hfilled htokens

theorem accept_eq_iff : t.accept text lexGroup s r m = out ↔ t.Accepts text lexGroup s r m out := by
  constructor
  · rintro rfl
    exact accepts_accept
  · intro h
    cases h with
    | inert empty stays => simp [accept, empty, stays]
    | loop empty moves full => simp [accept, empty, moves, full]
    | count empty moves room => simp [accept, empty, moves, Nat.not_lt.mpr room]
    | fail filled failed => simp [accept, filled, failed]
    | put filled put => simp [accept, filled, put]

/-- What a step can do: the search for a rule is given up, the rule that is found is followed, or none is found and
a character is passed. Each time the searches that were run are remembered. -/
inductive Steps (t : Table) (text : String) (lexGroup : GroupLexer) (s : Scan) : Stepped → Prop
  | search {memo : Memo} {e : Error}
      (failed : choose text s.cursor (t.rulesOf s.stack.top) s.memo = (.error e, memo)) :
      Steps t text lexGroup s ⟨{ s with memo }, [], some e⟩
  | accept {r : CompiledRule} {m : RuleMatch} {memo : Memo} {out : Stepped}
      (chosen : choose text s.cursor (t.rulesOf s.stack.top) s.memo = (.ok (some (r, m)), memo))
      (accepts : t.Accepts text lexGroup { s with memo } r m out) : Steps t text lexGroup s out
  | fallback {memo : Memo} (chosen : choose text s.cursor (t.rulesOf s.stack.top) s.memo = (.ok none, memo)) :
      Steps t text lexGroup s (t.fallback text { s with memo })

theorem step_eq_iff : t.step text lexGroup s = out ↔ t.Steps text lexGroup s out := by
  unfold step
  constructor
  · rintro rfl
    split
    next hc => exact .search hc
    next hc => exact .accept hc accepts_accept
    next hc => exact .fallback hc
  · intro h
    cases h with
    | search failed => rw [failed]
    | accept chosen accepts => rw [chosen]; exact accept_eq_iff.mpr accepts
    | fallback chosen => rw [chosen]

theorem steps_step : t.Steps text lexGroup s (t.step text lexGroup s) :=
  step_eq_iff.mp rfl

/-- A character that is passed is queued with some kind, and nothing breaks off there. The stack is reset at most. -/
theorem fallback_eq (t : Table) (text : String) (s : Scan) : ∃ stack kind, (stack = s.stack ∨ stack = s.stack.reset) ∧
    t.fallback text s =
      ⟨{ s with cursor := s.cursor + (charText text s.cursor).utf8ByteSize, stack, zeroWidth := 0 },
        [⟨s.cursor, kind, charText text s.cursor⟩], none⟩ := by
  unfold fallback
  simp only
  split
  · split
    · exact ⟨_, _, .inr rfl, rfl⟩
    · exact ⟨_, _, .inl rfl, rfl⟩
  · exact ⟨_, _, .inl rfl, rfl⟩

theorem fallback_error (t : Table) (text : String) (s : Scan) : (t.fallback text s).error = none := by
  obtain ⟨_, _, _, h⟩ := t.fallback_eq text s
  rw [h]

/-- A step that succeeds follows the rule that was chosen, or passes one character. -/
theorem step_eq_ok (h : t.step text lexGroup s = ⟨s', tokens, none⟩) :
    (∃ r m memo, choose text s.cursor (t.rulesOf s.stack.top) s.memo = (.ok (some (r, m)), memo) ∧
      t.accept text lexGroup { s with memo } r m = ⟨s', tokens, none⟩) ∨
    ∃ memo, choose text s.cursor (t.rulesOf s.stack.top) s.memo = (.ok none, memo) ∧
      t.fallback text { s with memo } = ⟨s', tokens, none⟩ := by
  generalize hout : (⟨s', tokens, none⟩ : Stepped) = out at h
  cases step_eq_iff.mp h with
  | search => cases hout
  | accept chosen accepts => exact .inl ⟨_, _, _, chosen, accept_eq_iff.mpr accepts⟩
  | fallback chosen => exact .inr ⟨_, chosen, rfl⟩

/-- Where a match leads to does not depend on what it puts out. -/
theorem accept_scan (h : t.accept text lexGroup s r m = ⟨s', tokens, none⟩) :
    s' = { s with
      cursor := m.span.stop
      stack := s.stack.apply r.transition
      zeroWidth := if m.span.isEmpty then s.zeroWidth + 1 else 0 } := by
  cases accept_eq_iff.mp h with
  | count empty => rw [if_pos empty]; rfl
  | put filled => rw [filled]; rfl

theorem Accepts.memo (h : t.Accepts text lexGroup s r m out) : out.scan.memo = s.memo := by
  cases h with
  | inert => rfl
  | loop => rfl
  | count => rfl
  | fail => rfl
  | put => rfl

theorem fallback_memo (t : Table) (text : String) (s : Scan) : (t.fallback text s).scan.memo = s.memo := by
  obtain ⟨_, _, _, h⟩ := t.fallback_eq text s
  rw [h]

/-- What a step remembers is what the choice of a rule does, whether the step succeeds or not. -/
theorem step_memo (t : Table) (text : String) (lexGroup : GroupLexer) (s : Scan) :
    (t.step text lexGroup s).scan.memo = (choose text s.cursor (t.rulesOf s.stack.top) s.memo).2 := by
  have hsteps : t.Steps text lexGroup s (t.step text lexGroup s) := steps_step
  generalize t.step text lexGroup s = out at hsteps ⊢
  cases hsteps with
  | search failed => rw [failed]
  | accept chosen accepts => rw [chosen]; exact accepts.memo
  | fallback chosen => rw [chosen]; exact fallback_memo t text _

/-! ## Steps that fail -/

/-- Nothing is queued, and the cursor and the stack are where they were. -/
structure Still (s : Scan) (out : Stepped) : Prop where
  cursor : out.scan.cursor = s.cursor
  stack : out.scan.stack = s.stack
  queued : out.queued = []

/-- A match that breaks off has changed no more than the count of empty matches: of the tokens of its groups, none is
queued. -/
theorem Accepts.still (h : t.Accepts text lexGroup s r m out) (he : out.error = some e) : Still s out := by
  cases h with
  | inert => exact ⟨rfl, rfl, rfl⟩
  | loop => exact ⟨rfl, rfl, rfl⟩
  | count => cases he
  | fail => exact ⟨rfl, rfl, rfl⟩
  | put => cases he

/-- A step that fails, in whatever way, has changed no more than that count and what is remembered. -/
theorem step_still (h : (t.step text lexGroup s).error = some e) : Still s (t.step text lexGroup s) := by
  have hsteps : t.Steps text lexGroup s (t.step text lexGroup s) := steps_step
  generalize t.step text lexGroup s = out at h hsteps ⊢
  cases hsteps with
  | search => exact ⟨rfl, rfl, rfl⟩
  | accept _ accepts =>
      obtain ⟨hcursor, hstack, hqueued⟩ := accepts.still h
      exact ⟨hcursor, hstack, hqueued⟩
  | fallback => rw [fallback_error] at h; cases h

theorem step_failed (h : t.step text lexGroup s = ⟨s', tokens, some e⟩) :
    s'.cursor = s.cursor ∧ s'.stack = s.stack ∧ tokens = [] := by
  have hstill := step_still (congrArg Stepped.error h)
  rw [h] at hstill
  exact ⟨hstill.cursor, hstill.stack, hstill.queued⟩

/-! ## Steps that succeed -/

/-- A scan that stands at a boundary and has not had too many empty matches. -/
structure InBounds (t : Table) (text : String) (s : Scan) : Prop where
  boundary : isBoundary text s.cursor = true
  zeroWidth : s.zeroWidth ≤ t.options.maxZeroWidth

/-- What a step does: it stays and counts an empty match, or it goes on over text that its tokens tile. -/
inductive Progress (t : Table) (text : String) (s : Scan) (tokens : List Token) (s' : Scan) : Prop
  | stay (cursor : s'.cursor = s.cursor) (count : s'.zeroWidth = s.zeroWidth + 1)
      (bound : s'.zeroWidth ≤ t.options.maxZeroWidth) (silent : tokens = [])
  | move (forward : s.cursor < s'.cursor) (reset : s'.zeroWidth = 0)
      (boundary : isBoundary text s'.cursor = true) (tiles : Tiles text s.cursor tokens s'.cursor)

theorem Progress.ofMemo {memo : Memo} : Progress t text { s with memo } tokens s' → Progress t text s tokens s'
  | .stay h₁ h₂ h₃ h₄ => .stay h₁ h₂ h₃ h₄
  | .move h₁ h₂ h₃ h₄ => .move h₁ h₂ h₃ h₄

theorem accept_progress (hlex : TilesGroups lexGroup) (hs : isBoundary text s.cursor = true)
    (hm : m.At text s.cursor) (h : t.accept text lexGroup s r m = ⟨s', tokens, none⟩) :
    Progress t text s tokens s' := by
  have hstart := hm.start
  have hle := hm.le
  cases accept_eq_iff.mp h with
  | count empty _ room =>
      simp only [Span.isEmpty, decide_eq_true_eq] at empty
      exact .stay (by show m.span.stop = s.cursor; omega) rfl room rfl
  | put filled put =>
      simp only [Span.isEmpty, decide_eq_false_iff_not] at filled
      have hlt : s.cursor < m.span.stop := by omega
      exact .move hlt rfl hm.stop (matchTokens_tile hlex hs hm hlt put)

theorem fallback_progress (hs : isBoundary text s.cursor = true) (hlt : s.cursor < text.utf8ByteSize) :
    Progress t text s (t.fallback text s).queued (t.fallback text s).scan := by
  obtain ⟨c, hc⟩ := charAt?_exists hs hlt
  have hslice := charAt?_eq_some_iff.mp hc
  have hpiece : charText text s.cursor = String.singleton c := by simp [charText, hc, Char.toString]
  have hforward : s.cursor < s.cursor + c.utf8Size := Nat.lt_add_of_pos_right c.utf8Size_pos
  obtain ⟨_, kind, _, h⟩ := t.fallback_eq text s
  rw [h, hpiece, String.utf8ByteSize_singleton]
  exact .move hforward rfl (slice?_right hslice) (.single kind hslice hforward)

theorem step_progress (ht : t.Sound) (hlex : TilesGroups lexGroup) (hs : isBoundary text s.cursor = true)
    (hlt : s.cursor < text.utf8ByteSize) (h : t.step text lexGroup s = ⟨s', tokens, none⟩) :
    Progress t text s tokens s' := by
  rcases step_eq_ok h with ⟨r, m, memo, hc, ha⟩ | ⟨memo, _, hf⟩
  · obtain ⟨hr, hm⟩ := choose_some hc
    have hat := CompiledRule.matchAt_at (ht _ r hr) hs hm
    exact (accept_progress (s := { s with memo }) hlex hs hat ha).ofMemo
  · have hp := fallback_progress (t := t) (s := { s with memo }) hs hlt
    rw [hf] at hp
    exact hp.ofMemo

theorem Progress.inBounds (hs : InBounds t text s) : Progress t text s tokens s' → InBounds t text s'
  | .stay h₁ _ h₃ _ => ⟨h₁ ▸ hs.boundary, h₃⟩
  | .move _ h₂ h₃ _ => ⟨h₃, h₂ ▸ Nat.zero_le _⟩

theorem Progress.tiles : Progress t text s tokens s' → Tiles text s.cursor tokens s'.cursor
  | .stay h₁ _ _ h₄ => by subst h₄; exact h₁.symm
  | .move _ _ _ h₄ => h₄

end Table

end ModalLexer
