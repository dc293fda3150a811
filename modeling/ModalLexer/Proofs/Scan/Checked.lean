import ModalLexer.Proofs.Scan.Ending
import ModalLexer.Proofs.Scan.States
import ModalLexer.Scan.Checked

/-!
With a table that was built nothing is ever out of range in a scan, so the scan that looks at all of it is the scan
itself.
-/

namespace ModalLexer

open Text

/-! ## Checked computations -/

namespace Checked

variable {α β : Type} {y : Except Error α} {f : α → Checked β}

theorem bind_eq {x : Checked α} {g : α → Except Error β} (hx : x.run = some y)
    (hf : ∀ a, (f a).run = some (g a)) : (x >>= f).run = some (y >>= g) := by
  cases y with
  | error e => rw [ExceptT.run_bind, hx]; rfl
  | ok a => rw [ExceptT.run_bind, hx]; exact hf a

theorem run_inRange (o : Option α) : (inRange o).run = o.map .ok := by
  cases o with
  | none => rfl
  | some a => rfl

theorem bind_inRange {o : Option α} {a : α} {z : Except Error β} (ho : o = some a)
    (hf : (f a).run = some z) : (inRange o >>= f).run = some z := by
  rw [ExceptT.run_bind, run_inRange, ho]
  exact hf

end Checked

namespace Table

/-! ## Tokens of a match -/

variable {t : Table} {text : String} {checked : CheckedLexer} {lexGroup : GroupLexer}

/-- The checked scan of a group is the plain one, wherever the group ends at an offset. -/
def Follows (t : Table) (checked : CheckedLexer) (lexGroup : GroupLexer) : Prop :=
  ∀ part state base, state.index < t.stateCount → base + part.utf8ByteSize < offsetLimit →
    (checked part state base).run = some ((lexGroup part state).shift base).result

theorem pieceTokens?_eq (hlex : t.Follows checked lexGroup) {actions : List (GroupAction StateId)} {p : Piece}
    (hactions : ∀ state, .lex state ∈ actions → state.index < t.stateCount)
    (htext : text.utf8ByteSize < offsetLimit) (hp : p.OnBoundaries text) (hlt : p.span.start < p.span.stop)
    (hemits : ∀ i span, p = .group i span → actionEmits actions i = true) :
    (t.pieceTokens? text checked actions p).run = some (t.pieceTokens text lexGroup actions p).result := by
  have hs : slice? text p.span.start p.span.stop = some (slice text p.span) :=
    slice?_slice hp.1 hp.2 (Nat.le_of_lt hlt)
  cases p with
  | gap span => exact Checked.bind_inRange hs rfl
  | group i span =>
      have hemits := hemits i span rfl
      unfold actionEmits at hemits
      split at hemits
      next a ha =>
        refine Checked.bind_inRange ha (Checked.bind_inRange hs ?_)
        cases a with
        | kind k => simp [pieceTokens, ha]; rfl
        | text => simp [pieceTokens, ha]; rfl
        | skip => simp [pieceTokens, ha]; rfl
        | lex state =>
            have hsize := slice?_size hs
            have hstop := isBoundary_le hp.2
            simp only [pieceTokens, ha]
            exact hlex _ state _ (hactions state (List.mem_of_getElem? ha))
              (Nat.lt_of_le_of_lt (hsize ▸ hstop) htext)
      · cases hemits

theorem piecesTokens?_eq (hlex : t.Follows checked lexGroup) {actions : List (GroupAction StateId)}
    {ps : List Piece} (hactions : ∀ state, .lex state ∈ actions → state.index < t.stateCount)
    (htext : text.utf8ByteSize < offsetLimit) (hps : ∀ p ∈ ps, p.OnBoundaries text)
    (hlt : ∀ p ∈ ps, p.span.start < p.span.stop)
    (hemits : ∀ i span, .group i span ∈ ps → actionEmits actions i = true) :
    (t.piecesTokens? text checked actions ps).run = some (t.piecesTokens text lexGroup actions ps).result := by
  induction ps with
  | nil => rfl
  | cons p ps ih =>
      obtain ⟨hp, hps⟩ := List.forall_mem_cons.mp hps
      obtain ⟨hpl, hlt⟩ := List.forall_mem_cons.mp hlt
      rw [result_piecesTokens_cons]
      refine Checked.bind_eq (pieceTokens?_eq hlex hactions htext hp hpl fun i span h => ?_) fun _ =>
        Checked.bind_eq (ih hps hlt fun i span h => hemits i span (List.mem_cons_of_mem _ h)) fun _ => rfl
      exact hemits i span (h ▸ List.mem_cons_self)

theorem matchTokens?_eq (ht : t.Closed) (hlex : t.Follows checked lexGroup) {r : CompiledRule} {m : RuleMatch}
    {id : StateId} {pos cursor : Nat} (hr : r ∈ t.rulesOf id) (htext : text.utf8ByteSize < offsetLimit)
    (hpos : isBoundary text pos = true) (hm : m.At text pos) :
    (t.matchTokens? text checked r m cursor).run = some (t.matchTokens text lexGroup r m cursor).result := by
  have hstart : isBoundary text m.span.start = true := by rw [hm.start]; exact hpos
  have hle : m.span.start ≤ m.span.stop := by rw [hm.start]; exact hm.le
  cases he : r.emission with
  | token k =>
      simp only [matchTokens?, matchTokens, he]
      exact Checked.bind_inRange (slice?_slice hstart hm.stop hle) rfl
  | byGroups actions =>
      simp only [matchTokens?, matchTokens, he]
      refine piecesTokens?_eq hlex (fun state hstate => lex_lt ht hr he hstate) htext ?_ ?_ ?_
      · exact hm.plan_onBoundaries hpos _
      · exact (hm.plan_consecutive _).mem_lt
      · exact fun i span h => Piece.planFrom_emits h
  | nothing => simp only [matchTokens?, matchTokens, he]; rfl

/-! ## Steps -/

theorem increment?_eq {count : Nat} (h : count ≤ t.options.maxZeroWidth) : t.increment? count = some (count + 1) := by
  unfold increment?
  split
  · exact addOffset?_eq_some_iff.mpr ⟨rfl, by omega⟩
  · rfl

theorem accept?_eq (ht : t.Closed) (hlex : t.Follows checked lexGroup) {s : Scan} {r : CompiledRule}
    {m : RuleMatch} {id : StateId} (hr : r ∈ t.rulesOf id) (htext : text.utf8ByteSize < offsetLimit)
    (hs : t.InBounds text s) (hstack : s.stack.Within t) (hm : m.At text s.cursor) :
    t.accept? text checked s r m = some (t.accept text lexGroup s r m) := by
  unfold accept? accept
  split
  · split
    · rfl
    · rw [increment?_eq hs.zeroWidth, name?_eq (hstack.states _ s.stack.top_mem)]
      simp only [Option.bind_eq_bind, Option.bind_some]
      split
      · rfl
      · rfl
  · rw [matchTokens?_eq ht hlex hr htext hs.boundary hm]
    rcases t.matchTokens text lexGroup r m s.cursor with ⟨tokens, _ | e⟩
    · rfl
    · rfl

theorem fallback?_eq {s : Scan} (htext : text.utf8ByteSize < offsetLimit) (hs : isBoundary text s.cursor = true)
    (hlt : s.cursor < text.utf8ByteSize) : t.fallback? text s = some (t.fallback text s) := by
  obtain ⟨rest, hrest⟩ := slice?_exists hs (isBoundary_size text) (Nat.le_of_lt hlt)
  have hsize := slice?_size hrest
  obtain ⟨c, hc⟩ := charAt?_exists (isBoundary_zero rest) (by omega)
  have hslice := slice?_trans hrest (charAt?_eq_some_iff.mp hc)
  rw [Nat.add_zero, Nat.zero_add] at hslice
  have hchar : charText text s.cursor = String.singleton c := by
    simp [charText, charAt?_eq_some_iff.mpr hslice, Char.toString]
  have hstop : addOffset? s.cursor (firstWidth rest) = some (s.cursor + c.utf8Size) := by
    have hle := isBoundary_le (slice?_right hslice)
    exact addOffset?_eq_some_iff.mpr ⟨by simp [firstWidth, hc], by omega⟩
  unfold fallback? fallback
  simp only [hrest, hstop, hslice, hchar, Option.bind_eq_bind, Option.bind_some]
  split
  · simp
  · simp

theorem step?_eq (ht : t.Closed) (hsound : t.Sound) (hlex : t.Follows checked lexGroup) {s : Scan}
    (htext : text.utf8ByteSize < offsetLimit) (hs : t.InBounds text s) (hstack : s.stack.Within t)
    (hlt : s.cursor < text.utf8ByteSize) :
    t.step? text checked s = some (t.step text lexGroup s) := by
  have htop := hstack.states _ s.stack.top_mem
  unfold step? step
  rw [ht.rules?_eq htop, name?_eq htop]
  simp only [Option.bind_eq_bind, Option.bind_some]
  rcases hc : choose text s.cursor (t.rulesOf s.stack.top) s.memo with ⟨e | _ | ⟨r, m⟩, memo⟩
  · rfl
  · exact fallback?_eq (s := { s with memo }) htext hs.boundary hlt
  · obtain ⟨hr, hm⟩ := choose_some hc
    have hat := CompiledRule.matchAt_at (hsound _ r hr) hs.boundary hm
    exact accept?_eq (s := { s with memo }) ht hlex hr htext ⟨hs.boundary, hs.zeroWidth⟩ hstack hat

/-! ## Runs -/

theorem runFrom?_eq (ht : t.Closed) (hsound : t.Sound) (hlex : t.Follows checked lexGroup)
    (htiles : TilesGroups lexGroup) (htext : text.utf8ByteSize < offsetLimit) {fuel : Nat} {s : Scan}
    {done : List Token} (hs : t.InBounds text s) (hstack : s.stack.Within t) :
    t.runFrom? text checked fuel s done = some (t.runFrom text lexGroup fuel s done) := by
  induction fuel generalizing s done with
  | zero => rfl
  | succ fuel ih =>
      unfold runFrom? runFrom
      split
      · rfl
      next hend =>
        have hlt : s.cursor < text.utf8ByteSize := by omega
        rw [step?_eq ht hsound hlex htext hs hstack hlt]
        rcases hstep : t.step text lexGroup s with ⟨s', tokens, _ | e⟩
        · have hp := step_progress hsound htiles hs.boundary hlt hstep
          exact ih (hp.inBounds hs) (step_within ht hstack hstep)
        · rfl

theorem mapM_shift? {tokens : List Token} {base : Nat} (h : ∀ token ∈ tokens, token.offset + base < offsetLimit) :
    tokens.mapM (·.shift? base) = some (tokens.map (·.shift base)) := by
  induction tokens with
  | nil => rfl
  | cons token tokens ih =>
      obtain ⟨hfirst, hrest⟩ := List.forall_mem_cons.mp h
      have hshift : token.shift? base = some (token.shift base) := by
        rw [Token.shift?, addOffset?, if_pos hfirst, Token.shift, Nat.add_comm]
        rfl
      rw [List.mapM_cons, hshift, ih hrest]
      rfl

/-- The levels are what the check on the nesting leaves, so they do not run out before it fails. -/
theorem lexGroup?_follows (ht : t.Closed) (hsound : t.Sound) (hdeep : t.options.maxNesting < offsetLimit)
    {levels nesting : Nat} (hlevels : nesting + levels = t.options.maxNesting) :
    t.Follows (t.lexGroup? levels nesting) (t.lexGroup levels) := by
  induction levels generalizing nesting with
  | zero =>
      intro part state base _ _
      have hfull : t.options.maxNesting ≤ nesting := by omega
      rw [lexGroup?, if_pos hfull]
      rfl
  | succ levels ih =>
      intro part state base hstate hpart
      have hroom : ¬ t.options.maxNesting ≤ nesting := by omega
      have hinner : addOffset? nesting 1 = some (nesting + 1) := addOffset?_eq_some_iff.mpr ⟨rfl, by omega⟩
      have htiles := lexGroup_tiles hsound levels
      have hs := inBounds_start t part ⟨t.root, [state]⟩
      have hrun : t.run? part (t.lexGroup? levels (nesting + 1)) { stack := ⟨t.root, [state]⟩ } =
          some (t.run part (t.lexGroup levels) { stack := ⟨t.root, [state]⟩ }) := by
        refine runFrom?_eq ht hsound (ih (by omega)) htiles (by omega) hs (.ofAbove ht fun id hid => ?_)
        exact List.mem_singleton.mp hid ▸ hstate
      have hshift : (t.run part (t.lexGroup levels) { stack := ⟨t.root, [state]⟩ }).tokens.mapM (·.shift? base) =
          some _ := mapM_shift? fun token htoken => by
        have hslice := (run_tiles hsound htiles hs).mem_slice? token htoken
        have hle := isBoundary_le (slice?_left hslice)
        omega
      rw [lexGroup?, if_neg hroom]
      refine Checked.bind_inRange hinner (Checked.bind_inRange hrun (Checked.bind_inRange hshift ?_))
      rw [Table.lexGroup, Scanned.emitted, Emitted.shift, Emitted.result]
      cases (t.run part (t.lexGroup levels) { stack := ⟨t.root, [state]⟩ }).error with
      | some e => rfl
      | none => rfl

/-! ## Places -/

/-- Where a scan stands is in range: the cursor in the text, the states on the stack in the table, and all that the
next step looks at, down to the scans of groups in it. -/
structure InRange (t : Table) (depth levels : Nat) (part : String) (s : Scan) : Prop where
  boundary : isBoundary part s.cursor = true
  cursor : s.cursor ≤ part.utf8ByteSize
  bottom : s.stack.toList.head? = some t.root
  states : ∀ id ∈ s.stack.toList, id.index < t.stateCount
  known : ∀ id ∈ s.stack.toList, (t.name? id).isSome ∧ (t.rules? id).isSome
  step : s.cursor < part.utf8ByteSize →
    t.step? part (t.lexGroup? levels depth) s = some (t.step part (t.lexGroup levels) s)

theorem Visits.inRange (ht : t.Closed) (hsound : t.Sound) {stack : StateStack} {depth levels : Nat}
    {part : String} {history : List Scan} {s : Scan} (hstack : stack.Within t)
    (htext : text.utf8ByteSize < offsetLimit) (hdeep : t.options.maxNesting < offsetLimit)
    (h : t.Visits text stack depth levels part history s) : t.InRange depth levels part s := by
  have hs := h.inBounds hsound
  have hwithin := h.within ht hstack
  refine ⟨hs.boundary, isBoundary_le hs.boundary, ?_, hwithin.states, fun id hid => ?_, fun hlt => ?_⟩
  · rw [StateStack.toList, hwithin.root]; rfl
  · have hid := hwithin.states id hid
    simp [name?_eq hid, ht.rules?_eq hid]
  · obtain ⟨a, b, hpart⟩ := h.isPart
    have hsize := slice?_size hpart
    have hle := isBoundary_le (slice?_right hpart)
    have hlex := lexGroup?_follows ht hsound hdeep h.depth_add_levels
    exact step?_eq ht hsound hlex (by omega) hs hwithin hlt

end Table

namespace Stream

/-- Nothing is ever out of range in a scan with a table that was built, from a stack of declared states: not in
the scan as a whole, and at no place that it or a scan of a group comes to. -/
theorem scan_in_range {d : Declaration} {t : Table} (built : d.build = .ok t) (text : String)
    (names : List String) (declared : ∀ name ∈ names, name ∈ d.names)
    (sized : text.utf8ByteSize < offsetLimit) (bounded : d.options.maxNesting < offsetLimit) :
    ∃ stack, t.initialStack names = .ok stack ∧
      t.scanFrom? text stack = some (t.scanFrom text stack) ∧
      (∀ n, ∃ history place, t.Visits text stack 0 t.options.maxNesting text history place ∧
        StandsAt t text place (Calls.after (next t text) (start stack) n)) ∧
      ∀ depth levels part history s, t.Visits text stack depth levels part history s →
        t.InRange depth levels part s := by
  have ht := d.build_closed built
  have hsound := d.build_sound built
  obtain ⟨_, _, _, _, _, hoptions, hnames, _⟩ := d.build_eq_ok built
  rw [← hoptions] at bounded
  obtain ⟨stack, hstack⟩ : ∃ stack, t.initialStack names = .ok stack :=
    Table.initialStack_exists fun name hname => by simpa [hnames] using declared name hname
  have hwithin := Table.initialStack_within ht hstack
  refine ⟨stack, hstack, ?_, after_standsAt t text stack, fun _ _ _ _ _ h => ?_⟩
  · have hlex := Table.lexGroup?_follows ht hsound bounded (Nat.zero_add _)
    exact Table.runFrom?_eq ht hsound hlex (Table.lexOuterGroup_tiles hsound) sized
      (Table.inBounds_start t text stack) hwithin
  · exact h.inRange ht hsound hwithin sized bounded

/-- A group whose scan comes to text that would be dropped. -/
def enclosed : Declaration where
  states := [
    ("root", [.rule {
      pattern := { text := "<(x*y)>" }, emission := .byGroups [.lex "inner"], transition := .goto "inner" }]),
    ("inner", [
      .rule { pattern := { text := "x" }, emission := .token ⟨"Name"⟩, transition := .push ["root", "inner"] },
      .rule { pattern := { text := "y" }, emission := .nothing, transition := .pop 3 }])]

theorem scan_in_range_enclosed : ∃ t stack, enclosed.build = .ok t ∧ t.initialStack ["inner"] = .ok stack ∧
    t.scanFrom? "é\n<xy>" stack = some (t.scanFrom "é\n<xy>" stack) ∧
    ∃ depth levels part history s, t.Visits "é\n<xy>" stack depth levels part history s ∧
      t.Breaks levels part s (.droppedText "inner" 1 1) ∧ t.InRange depth levels part s := by
  have h : (enclosed.build.toOption.bind fun t => (t.initialStack ["inner"]).toOption.map fun stack =>
      (t.scanFrom "é\n<xy>" stack).error) = some (some (.droppedText "inner" 1 1)) := by decide +kernel
  obtain ⟨t, hb, h⟩ := Option.bind_eq_some_iff.mp h
  obtain ⟨stack, hstack, he⟩ := Option.map_eq_some_iff.mp h
  have hb := toOption_eq_some.mp hb
  have hstack := toOption_eq_some.mp hstack
  obtain ⟨stack', hstack', hscan, _, hplaces⟩ :=
    scan_in_range hb "é\n<xy>" ["inner"] (by decide) (by decide) (by decide)
  cases hstack.symm.trans hstack'
  obtain ⟨depth, levels, part, history, s, hv, _, hbreaks⟩ :=
    (Table.scanFrom_error_iff (enclosed.build_sound hb)).mp he
  exact ⟨t, stack, hb, hstack, hscan, depth, levels, part, history, s, hv, hbreaks, hplaces _ _ _ _ _ hv⟩

end Stream

end ModalLexer
