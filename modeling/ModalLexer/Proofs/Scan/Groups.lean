import ModalLexer.Proofs.Scan.Failure
import ModalLexer.Proofs.Scan.Counterpart

/-!
Scans of groups and scans of their texts alone. A scan of a group starts with fewer levels left than a scan of a whole
text, but levels only matter to a scan that runs out of them. So where a scan of a text has no error, what it puts out
for a group, however deep the group lies, is what a scan of the group's text puts out from the state of the group, moved
to the place of the group.
-/

namespace ModalLexer

open Text

/-! ## Groups that are scanned -/

/-- The span of a group that is scanned, and the state that this scan starts from. -/
def Piece.lexed? (actions : List (GroupAction StateId)) : Piece → Option (Span × StateId)
  | .gap _ => none
  | .group i span =>
    match actions[i]? with
    | some (.lex state) => some (span, state)
    | _ => none

theorem Piece.lexed?_eq_some {actions : List (GroupAction StateId)} {p : Piece} {span : Span} {state : StateId} :
    p.lexed? actions = some (span, state) ↔ ∃ i, p = .group i span ∧ actions[i]? = some (.lex state) := by
  constructor
  · intro h
    cases p with
    | gap g => cases h
    | group i g =>
        simp only [lexed?] at h
        split at h
        · rename_i state' ha; cases h; exact ⟨i, rfl, ha⟩
        · cases h
  · rintro ⟨i, rfl, ha⟩
    simp only [lexed?, ha]

namespace Table

/-- The groups that the next step scans: those of the match that it chooses, with the states they are scanned from. -/
def lexes (t : Table) (text : String) (s : Scan) : List (Span × StateId) :=
  match (choose text s.cursor (t.rulesOf s.stack.top) s.memo).1 with
  | .ok (some (r, m)) =>
    match r.emission with
    | .byGroups actions =>
      (Piece.plan m.span (m.groups.getD []) (actionEmits actions)).filterMap (Piece.lexed? actions)
    | _ => []
  | _ => []

variable {t : Table} {text : String} {lexGroup lexGroup' : GroupLexer} {s s' : Scan} {tokens : List Token}
  {span : Span} {state : StateId}

theorem mem_lexes_iff : (span, state) ∈ t.lexes text s ↔ ∃ r m memo actions i,
    choose text s.cursor (t.rulesOf s.stack.top) s.memo = (.ok (some (r, m)), memo) ∧
      r.emission = .byGroups actions ∧
      .group i span ∈ Piece.plan m.span (m.groups.getD []) (actionEmits actions) ∧
      actions[i]? = some (.lex state) := by
  constructor
  · intro h
    unfold lexes at h
    split at h
    · rename_i r m hc
      split at h
      · rename_i actions hgroups
        obtain ⟨p, hp, hlexed⟩ := List.mem_filterMap.mp h
        obtain ⟨i, rfl, ha⟩ := Piece.lexed?_eq_some.mp hlexed
        exact ⟨r, m, _, actions, i, Prod.ext hc rfl, hgroups, hp, ha⟩
      · cases h
    · cases h
  · rintro ⟨r, m, memo, actions, i, hc, hgroups, hp, ha⟩
    simp only [lexes, hc, hgroups]
    exact List.mem_filterMap.mpr ⟨_, hp, Piece.lexed?_eq_some.mpr ⟨i, rfl, ha⟩⟩

/-- The state of a group is one of the table, so a scan can start from its name. -/
theorem initialStack_name {d : Declaration} (built : d.build = .ok t) (h : (span, state) ∈ t.lexes text s) :
    t.initialStack [t.name state] = .ok ⟨t.root, [state]⟩ := by
  obtain ⟨r, m, memo, actions, i, hc, hgroups, _, ha⟩ := mem_lexes_iff.mp h
  have hlt := lex_lt (d.build_closed built) (choose_some hc).1 hgroups (List.mem_of_getElem? ha)
  have hname : t.name? state = some (t.name state) := name?_eq hlt
  obtain ⟨id, hid⟩ := stateId?_exists (Array.mem_of_getElem? hname)
  -- No two states of a table have the same name.
  have hindex : id.index = state.index := by
    have hstate := hname
    have hfound := name?_of_stateId? hid
    rw [d.build_name? built] at hstate hfound
    exact (List.getElem?_inj (List.getElem?_eq_some_iff.mp hfound).1 (d.build_nodup built)).mp
      (hfound.trans hstate.symm)
  obtain rfl : id = state := congrArg StateId.mk hindex
  rw [initialStack, List.mapM_cons, List.mapM_nil, hid]
  rfl

/-! ## Tokens among tokens -/

/-- Tokens from one offset of a text to another, among which the given ones stand, moved to the right by a base,
between two offsets: what stands before them and after them tiles the rest. -/
def Embedded (text : String) (first : Nat) (tokens : List Token) (last start stop base : Nat)
    (inner : List Token) : Prop :=
  ∃ before after, tokens = before ++ inner.map (·.shift base) ++ after ∧ Tiles text first before start ∧
    Tiles text stop after last

theorem Embedded.append {first middle last start stop base : Nat} {inner rest : List Token}
    (h : Embedded text first tokens middle start stop base inner) (hrest : Tiles text middle rest last) :
    Embedded text first (tokens ++ rest) last start stop base inner := by
  obtain ⟨before, after, rfl, hbefore, hafter⟩ := h
  exact ⟨before, after ++ rest, List.append_assoc _ _ _, hbefore, hafter.append hrest⟩

/-- What stands among tokens of a part of a text stands among those of the text. -/
theorem Embedded.trans {part : String} {first last start stop start' stop' base i : Nat} {inner own : List Token}
    (h : Embedded text first tokens last (base + start) (base + stop) base inner)
    (hpart : slice? text base (base + part.utf8ByteSize) = some part)
    (hown : Embedded part start inner stop start' stop' i own) :
    Embedded text first tokens last (base + start') (base + stop') (base + i) own := by
  obtain ⟨left, right, rfl, hleft, hright⟩ := h
  obtain ⟨before, after, rfl, hbefore, hafter⟩ := hown
  refine ⟨left ++ before.map (·.shift base), after.map (·.shift base) ++ right, ?_,
    hleft.append (hbefore.shift hpart), (hafter.shift hpart).append hright⟩
  rw [List.map_append, List.map_append, Token.map_shift_shift]
  simp only [List.append_assoc]

/-- The tokens of the scan of a group stand, among tokens from one offset to another, where the group stands. -/
def PutsGroup (lexGroup : GroupLexer) (text : String) (first : Nat) (tokens : List Token) (last : Nat) (span : Span)
    (state : StateId) : Prop :=
  slice? text span.start span.stop = some (slice text span) ∧
    ∃ inner, lexGroup (slice text span) state = ⟨inner, none⟩ ∧
      Embedded text first tokens last span.start span.stop span.start inner

/-! ## A step -/

theorem piecesTokens_append_eq_ok {actions : List (GroupAction StateId)} {ps qs : List Piece}
    (h : t.piecesTokens text lexGroup actions (ps ++ qs) = ⟨tokens, none⟩) : ∃ first rest,
    t.piecesTokens text lexGroup actions ps = ⟨first, none⟩ ∧
      t.piecesTokens text lexGroup actions qs = ⟨rest, none⟩ ∧ first ++ rest = tokens := by
  induction ps generalizing tokens with
  | nil => exact ⟨[], tokens, rfl, h, rfl⟩
  | cons p ps ih =>
      obtain ⟨own, others, hown, hothers, rfl⟩ := piecesTokens_cons_eq_ok.mp h
      obtain ⟨first, rest, hfirst, hrest, rfl⟩ := ih hothers
      exact ⟨own ++ first, rest, piecesTokens_cons_eq_ok.mpr ⟨own, first, hown, hfirst, rfl⟩, hrest,
        List.append_assoc _ _ _⟩

theorem piecesTokens_group (hlex : TilesGroups lexGroup) {actions : List (GroupAction StateId)} {ps : List Piece}
    {start stop i : Nat} (hps : ∀ p ∈ ps, p.OnBoundaries text) (hc : Piece.Consecutive start ps stop)
    (hmem : .group i span ∈ ps) (ha : actions[i]? = some (.lex state))
    (h : t.piecesTokens text lexGroup actions ps = ⟨tokens, none⟩) :
    PutsGroup lexGroup text start tokens stop span state := by
  obtain ⟨ps, qs, rfl⟩ := List.append_of_mem hmem
  obtain ⟨_, hcp, rfl, hlt, hcq⟩ := hc.split
  obtain ⟨hpsp, hpsq⟩ := List.forall_mem_append.mp hps
  obtain ⟨hgroup, hpsq⟩ := List.forall_mem_cons.mp hpsq
  obtain ⟨before, rest, hbefore, hrest, rfl⟩ := piecesTokens_append_eq_ok h
  obtain ⟨own, after, hown, hafter, rfl⟩ := piecesTokens_cons_eq_ok.mp hrest
  simp only [pieceTokens, ha] at hown
  obtain ⟨inner, hinner, rfl⟩ := Emitted.shift_eq_ok.mp hown
  exact ⟨slice?_slice hgroup.1 hgroup.2 (Nat.le_of_lt hlt), inner, hinner, before, after,
    (List.append_assoc _ _ _).symm, piecesTokens_tile hlex hpsp hcp hbefore, piecesTokens_tile hlex hpsq hcq hafter⟩

/-- What a step puts out has the tokens of each group that it scans at the place of the group. -/
theorem step_group (ht : t.Sound) (hlex : TilesGroups lexGroup) (hs : isBoundary text s.cursor = true)
    (hstep : t.step text lexGroup s = ⟨s', tokens, none⟩) (hmem : (span, state) ∈ t.lexes text s) :
    PutsGroup lexGroup text s.cursor tokens s'.cursor span state := by
  obtain ⟨r, m, memo, actions, i, hc, hgroups, hgroup, ha⟩ := mem_lexes_iff.mp hmem
  have hm := CompiledRule.matchAt_at (ht _ r (choose_some hc).1) hs (choose_some hc).2
  have hpieces := hm.plan_consecutive (actionEmits actions)
  simp only [step, hc] at hstep
  cases accept_eq_iff.mp hstep with
  | count empty =>
      -- An empty match has no pieces.
      have hstop : m.span.stop = s.cursor := by
        have hle := hm.le
        simp only [Span.isEmpty, decide_eq_true_eq, hm.start] at empty
        omega
      rw [hstop] at hpieces
      rw [hpieces.eq_nil] at hgroup
      cases hgroup
  | put _ put =>
      simp only [matchTokens, hgroups] at put
      exact piecesTokens_group hlex (hm.plan_onBoundaries hs _) hpieces hgroup ha put

/-! ## More levels -/

/-- The second way to scan groups has the tokens of the first one wherever that one has no error. -/
def LexesMore (lexGroup lexGroup' : GroupLexer) : Prop :=
  ∀ text state tokens, lexGroup text state = ⟨tokens, none⟩ → lexGroup' text state = ⟨tokens, none⟩

theorem pieceTokens_more (hmore : LexesMore lexGroup lexGroup') {actions : List (GroupAction StateId)} {p : Piece}
    (h : t.pieceTokens text lexGroup actions p = ⟨tokens, none⟩) :
    t.pieceTokens text lexGroup' actions p = ⟨tokens, none⟩ := by
  cases p with
  | gap span => exact h
  | group i span =>
      simp only [pieceTokens] at h ⊢
      split at h
      · exact h
      · obtain ⟨inner, hinner, rfl⟩ := Emitted.shift_eq_ok.mp h
        rw [hmore _ _ _ hinner]
        rfl
      · exact h

theorem piecesTokens_more (hmore : LexesMore lexGroup lexGroup') {actions : List (GroupAction StateId)}
    {ps : List Piece} (h : t.piecesTokens text lexGroup actions ps = ⟨tokens, none⟩) :
    t.piecesTokens text lexGroup' actions ps = ⟨tokens, none⟩ := by
  induction ps generalizing tokens with
  | nil => exact h
  | cons p ps ih =>
      obtain ⟨first, rest, hfirst, hrest, rfl⟩ := piecesTokens_cons_eq_ok.mp h
      exact piecesTokens_cons_eq_ok.mpr ⟨first, rest, pieceTokens_more hmore hfirst, ih hrest, rfl⟩

theorem matchTokens_more (hmore : LexesMore lexGroup lexGroup') {r : CompiledRule} {m : RuleMatch} {cursor : Nat}
    (h : t.matchTokens text lexGroup r m cursor = ⟨tokens, none⟩) :
    t.matchTokens text lexGroup' r m cursor = ⟨tokens, none⟩ := by
  unfold matchTokens at h ⊢
  split at h
  · exact h
  · exact piecesTokens_more hmore h
  · exact h

theorem accept_more (hmore : LexesMore lexGroup lexGroup') {r : CompiledRule} {m : RuleMatch}
    (h : t.accept text lexGroup s r m = ⟨s', tokens, none⟩) : t.accept text lexGroup' s r m = ⟨s', tokens, none⟩ := by
  refine accept_eq_iff.mpr ?_
  cases accept_eq_iff.mp h with
  | count empty moves room => exact .count empty moves room
  | put filled put => exact .put filled (matchTokens_more hmore put)

theorem step_more (hmore : LexesMore lexGroup lexGroup') (h : t.step text lexGroup s = ⟨s', tokens, none⟩) :
    t.step text lexGroup' s = ⟨s', tokens, none⟩ := by
  unfold step
  rcases step_eq_ok h with ⟨r, m, memo, hc, ha⟩ | ⟨memo, hc, hf⟩
  · rw [hc]; exact accept_more hmore ha
  · rw [hc]; exact hf

theorem runFrom_more (hmore : LexesMore lexGroup lexGroup') {fuel : Nat} {done : List Token}
    (h : (t.runFrom text lexGroup fuel s done).error = none) :
    t.runFrom text lexGroup' fuel s done = t.runFrom text lexGroup fuel s done := by
  induction fuel generalizing s done with
  | zero => rfl
  | succ fuel ih =>
      simp only [runFrom] at h ⊢
      by_cases hend : text.utf8ByteSize ≤ s.cursor
      · rw [if_pos hend, if_pos hend]
      · rw [if_neg hend] at h
        rw [if_neg hend, if_neg hend]
        split at h
        · cases h
        · rename_i s' tokens hstep
          rw [step_more hmore hstep]
          exact ih h

/-- Levels that are left over do not show in what the scan of a group puts out. -/
theorem lexGroup_more {levels levels' : Nat} (h : levels ≤ levels') :
    LexesMore (t.lexGroup levels) (t.lexGroup levels') := by
  induction levels generalizing levels' with
  | zero => intro text state tokens hlex; cases hlex
  | succ levels ih =>
      intro text state tokens hlex
      cases levels' with
      | zero => omega
      | succ levels' =>
          have hrun := runFrom_more (ih (Nat.le_of_succ_le_succ h)) (emitted_eq_ok.mp hlex).1
          exact (congrArg Scanned.emitted hrun).trans hlex

/-- The scan of a group that has succeeded is a scan of the group's text. -/
theorem scanFrom_of_lexGroup {levels : Nat} (hlevels : levels ≤ t.options.maxNesting)
    (h : t.lexGroup levels text state = ⟨tokens, none⟩) :
    (t.scanFrom text ⟨t.root, [state]⟩).error = none ∧ (t.scanFrom text ⟨t.root, [state]⟩).tokens = tokens := by
  -- One level more, so that the scan of the text is the scan of a group too.
  exact emitted_eq_ok.mp (lexGroup_more (Nat.le_succ_of_le hlevels) text state tokens h)

/-! ## Places in a text -/

/-- The places that the scan of a text comes to, those in scans of groups included, by the levels left for groups
inside, and by the part of the text that is scanned and where it begins. -/
inductive Located (t : Table) (text : String) (stack : StateStack) :
    (levels base : Nat) → (part : String) → Scan → Prop
  | start : Located t text stack t.options.maxNesting 0 text { stack }
  | step {levels base : Nat} {part : String} {s s' : Scan} {tokens : List Token}
      (before : Located t text stack levels base part s) (more : s.cursor < part.utf8ByteSize)
      (taken : t.step part (t.lexGroup levels) s = ⟨s', tokens, none⟩) : Located t text stack levels base part s'
  | group {levels base : Nat} {part : String} {s : Scan} {span : Span} {state : StateId}
      (before : Located t text stack (levels + 1) base part s) (more : s.cursor < part.utf8ByteSize)
      (group : (span, state) ∈ t.lexes part s) :
      Located t text stack levels (base + span.start) (slice part span) { stack := ⟨t.root, [state]⟩ }

variable {stack : StateStack} {levels base : Nat} {part : String}

theorem Located.levels_le (h : t.Located text stack levels base part s) : levels ≤ t.options.maxNesting := by
  induction h with
  | start => exact Nat.le_refl _
  | step _ _ _ ih => exact ih
  | group _ _ _ ih => exact Nat.le_of_succ_le ih

theorem Located.inBounds (ht : t.Sound) (h : t.Located text stack levels base part s) : t.InBounds part s := by
  induction h with
  | start => exact inBounds_start t text stack
  | step _ more taken ih => exact (step_progress ht (lexGroup_tiles ht _) ih.boundary more taken).inBounds ih
  | group => exact inBounds_start t _ _

/-- What a scan without an error puts out from a place on has the tokens of each group that it scans there. -/
theorem run_group (ht : t.Sound) (hlex : TilesGroups lexGroup) (hs : t.InBounds text s)
    (more : s.cursor < text.utf8ByteSize) (hclean : (t.run text lexGroup s).error = none)
    (hmem : (span, state) ∈ t.lexes text s) :
    PutsGroup lexGroup text s.cursor (t.run text lexGroup s).tokens text.utf8ByteSize span state := by
  rcases hstep : t.step text lexGroup s with ⟨s', first, _ | e⟩
  · obtain ⟨hslice, inner, hinner, hin⟩ := step_group ht hlex hs.boundary hstep hmem
    have hs' := (step_progress ht hlex hs.boundary more hstep).inBounds hs
    rw [run_step ht hlex hs more hstep] at hclean ⊢
    exact ⟨hslice, inner, hinner, hin.append (run_covers ht hlex hs' hclean)⟩
  · rw [run_error more (congrArg Stepped.error hstep)] at hclean
    cases hclean

/-- Where the scan of a text has no error, there is none in the scans of its groups either, and what they put out from
any place on stands among the tokens of the text. -/
theorem Located.embedded (ht : t.Sound) (hclean : (t.scanFrom text stack).error = none)
    (h : t.Located text stack levels base part s) :
    slice? text base (base + part.utf8ByteSize) = some part ∧ (t.run part (t.lexGroup levels) s).error = none ∧
      Embedded text 0 (t.scanFrom text stack).tokens text.utf8ByteSize (base + s.cursor)
        (base + part.utf8ByteSize) base (t.run part (t.lexGroup levels) s).tokens := by
  induction h with
  | start =>
      refine ⟨by rw [Nat.zero_add]; exact slice?_all text, hclean, [], [], ?_, rfl, Nat.zero_add _⟩
      rw [Token.map_shift_zero, List.nil_append, List.append_nil]
      rfl
  | @step levels base part s s' tokens before more taken ih =>
      obtain ⟨hpart, herror, hin⟩ := ih
      have hp := step_progress ht (lexGroup_tiles ht _) (before.inBounds ht).boundary more taken
      rw [run_step ht (lexGroup_tiles ht _) (before.inBounds ht) more taken] at herror hin
      refine ⟨hpart, herror, hin.trans (i := 0) hpart ⟨tokens, [], ?_, hp.tiles, rfl⟩⟩
      rw [Token.map_shift_zero, List.append_nil]
      rfl
  | @group levels base part s span state before more group ih =>
      obtain ⟨hpart, herror, hin⟩ := ih
      obtain ⟨hslice, inner, hinner, hown⟩ :=
        run_group ht (lexGroup_tiles ht _) (before.inBounds ht) more herror group
      obtain ⟨herror, rfl⟩ := emitted_eq_ok.mp hinner
      have hstop : base + span.start + (slice part span).utf8ByteSize = base + span.stop := by
        rw [slice?_size hslice, Nat.add_assoc]
      rw [hstop]
      exact ⟨slice?_trans hpart hslice, herror, hin.trans hpart hown⟩

end Table

namespace Stream

open Table

/-- What a scan puts out for a group, if no call hands out an error: the items of a scan of the group's text from the
name of its state, none of which is an error either, each moved to the place of the group in the whole text. This is so
for the groups of every match that the scan comes to, those in scans of groups included. -/
theorem group_alone {d : Declaration} {t : Table} (built : d.build = .ok t) (text : String) (stack : StateStack)
    (clean : ∀ n e, Calls.item (next t text) (start stack) n ≠ some (.error e)) {levels base : Nat} {part : String}
    {s : Scan} (place : t.Located text stack levels base part s) (more : s.cursor < part.utf8ByteSize) {span : Span}
    {state : StateId} (group : (span, state) ∈ t.lexes part s) :
    ∃ alone tokens inner, t.initialStack [t.name state] = .ok alone ∧
      (∀ n, Calls.item (next t text) (start stack) n = (tokens[n]?).map .ok) ∧
      (∀ n, Calls.item (next t (slice part span)) (start alone) n = (inner[n]?).map .ok) ∧
      slice? text (base + span.start) (base + span.stop) = some (slice part span) ∧
      Embedded text 0 tokens text.utf8ByteSize (base + span.start) (base + span.stop) (base + span.start)
        inner := by
  have ht := d.build_sound built
  have herror : (t.scanFrom text stack).error = none :=
    Calls.error_eq_none fun n e => by rw [← item_eq_scanFrom ht]; exact clean n e
  obtain ⟨hpart, hrun, hin⟩ := place.embedded ht herror
  obtain ⟨hslice, inner, hinner, hown⟩ :=
    run_group ht (lexGroup_tiles ht levels) (place.inBounds ht) more hrun group
  obtain ⟨halone, rfl⟩ := scanFrom_of_lexGroup place.levels_le hinner
  refine ⟨_, _, _, initialStack_name built group, fun n => ?_, fun n => ?_, slice?_trans hpart hslice,
    hin.trans hpart hown⟩
  · rw [item_eq_scanFrom ht, herror, Calls.getElem?_outcomes_none]
  · rw [item_eq_scanFrom ht, halone, Calls.getElem?_outcomes_none]

/-- Brackets that are read from one state, with parentheses inside that are read from the other one. -/
def twofold : Declaration where
  states := [
    ("root", [
      .rule { pattern := { text := "x" }, emission := .token ⟨"Name"⟩ },
      .rule { pattern := { text := "<(y\\(x*\\))>" }, emission := .byGroups [.lex "inner"] }]),
    ("inner", [.rule { pattern := { text := "\\((x*)\\)" }, emission := .byGroups [.lex "root"] }])]

/-- In `x<y(xx)>` the text `xx` is read by itself, from `root`, two levels deep; it stands at `4..6`. -/
theorem group_alone_twofold : ∃ t alone tokens inner s, twofold.build = .ok t ∧
    t.Located "x<y(xx)>" ⟨t.root, []⟩ 15 2 "y(xx)" s ∧ (⟨2, 4⟩, ⟨0⟩) ∈ t.lexes "y(xx)" s ∧
    t.initialStack ["root"] = .ok alone ∧
    (∀ n, Calls.item (next t "x<y(xx)>") (start ⟨t.root, []⟩) n = (tokens[n]?).map .ok) ∧
    (∀ n, Calls.item (next t "xx") (start alone) n = (inner[n]?).map .ok) ∧
    Embedded "x<y(xx)>" 0 tokens 8 4 6 4 inner := by
  have htable : (twofold.build.toOption.map fun t =>
      (t.root, t.options.maxNesting, t.name ⟨0⟩, (t.scanFrom "x<y(xx)>" ⟨⟨0⟩, []⟩).error)) =
      some (⟨0⟩, 16, "root", none) := by decide +kernel
  have houter : (twofold.build.toOption.map fun t =>
      (t.step "x<y(xx)>" (t.lexGroup 16) { stack := ⟨⟨0⟩, []⟩ },
        t.lexes "x<y(xx)>" { cursor := 1, stack := ⟨⟨0⟩, []⟩ })) =
      some (⟨{ cursor := 1, stack := ⟨⟨0⟩, []⟩ }, [⟨0, ⟨"Name"⟩, "x"⟩], none⟩, [(⟨2, 7⟩, ⟨1⟩)]) := by decide +kernel
  have hinner : (twofold.build.toOption.map fun t =>
      (t.step "y(xx)" (t.lexGroup 15) { stack := ⟨⟨0⟩, [⟨1⟩]⟩ },
        t.lexes "y(xx)" { cursor := 1, stack := ⟨⟨0⟩, [⟨1⟩]⟩ })) =
      some (⟨{ cursor := 1, stack := ⟨⟨0⟩, [⟨1⟩]⟩ }, [⟨0, .error, "y"⟩], none⟩, [(⟨2, 4⟩, ⟨0⟩)]) := by decide +kernel
  obtain ⟨t, hb, htable⟩ := Option.map_eq_some_iff.mp htable
  simp only [hb, Option.map_some, Option.some.injEq, Prod.mk.injEq] at htable houter hinner
  obtain ⟨hroot, hnesting, hname, herror⟩ := htable
  have built := toOption_eq_some.mp hb
  have hstart : t.Located "x<y(xx)>" ⟨t.root, []⟩ 16 0 "x<y(xx)>" { stack := ⟨t.root, []⟩ } := hnesting ▸ .start
  simp only [hroot] at hstart
  have hbrackets : (⟨2, 7⟩, ⟨1⟩) ∈ t.lexes "x<y(xx)>" { cursor := 1, stack := ⟨⟨0⟩, []⟩ } :=
    houter.2 ▸ List.mem_singleton_self _
  have hgroup := (hstart.step (by decide) houter.1).group (by decide) hbrackets
  have hpart : slice "x<y(xx)>" ⟨2, 7⟩ = "y(xx)" := by decide +kernel
  rw [hpart, hroot] at hgroup
  have hparentheses : (⟨2, 4⟩, ⟨0⟩) ∈ t.lexes "y(xx)" { cursor := 1, stack := ⟨⟨0⟩, [⟨1⟩]⟩ } :=
    hinner.2 ▸ List.mem_singleton_self _
  have hplace := hgroup.step (by decide) hinner.1
  have clean : ∀ n e, Calls.item (next t "x<y(xx)>") (start ⟨⟨0⟩, []⟩) n ≠ some (.error e) := by
    intro n e
    rw [item_eq_scanFrom (Declaration.build_sound built), herror, Calls.getElem?_outcomes_none]
    simp
  obtain ⟨alone, tokens, inner, halone, hitems, hinnerItems, hslice, hin⟩ :=
    group_alone built "x<y(xx)>" ⟨⟨0⟩, []⟩ clean hplace (by decide) hparentheses
  have hown : slice "y(xx)" ⟨2, 4⟩ = "xx" := by decide +kernel
  rw [hown] at hinnerItems
  rw [hname] at halone
  exact ⟨t, alone, tokens, inner, _, built, hroot.symm ▸ hplace, hparentheses, halone, hroot.symm ▸ hitems,
    hinnerItems, hin⟩

end Stream

end ModalLexer
