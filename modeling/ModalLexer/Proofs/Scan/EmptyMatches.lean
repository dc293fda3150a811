import ModalLexer.Proofs.Scan.Ending

/-!
Scans end. Each step uses up some of the budget, so their number is bounded; and what a scan counts is the number
of empty matches since its cursor last moved. It breaks off because of empty matches exactly where one more of
them is found than the table allows.
-/

namespace ModalLexer

namespace Table

/-! ## Counting empty matches -/

/-- The rule whose match is chosen, if the match is empty. -/
def emptyMatch? (t : Table) (text : String) (s : Scan) : Option CompiledRule :=
  match choose text s.cursor (t.rulesOf s.stack.top) s.memo with
  | (.ok (some (r, m)), _) => if m.span.isEmpty then some r else none
  | _ => none

/-- The number of empty matches since the cursor came to an offset, after the given places, the newest first. -/
def emptyMatches (t : Table) (text : String) (history : List Scan) (cursor : Nat) : Nat :=
  (history.takeWhile (·.cursor == cursor)).countP fun s => (t.emptyMatch? text s).isSome

variable {t : Table} {text part : String} {stack : StateStack} {lexGroup : GroupLexer} {depth levels : Nat}
  {history : List Scan} {s s' : Scan} {tokens : List Token}

theorem emptyMatches_moved (h : s.cursor ≠ s'.cursor) :
    t.emptyMatches text (s :: history) s'.cursor = 0 := by
  simp [emptyMatches, h]

theorem emptyMatches_stayed (h : s'.cursor = s.cursor) (hempty : (t.emptyMatch? text s).isSome = true) :
    t.emptyMatches text (s :: history) s'.cursor = t.emptyMatches text history s.cursor + 1 := by
  simp [emptyMatches, h, hempty]

theorem emptyMatch?_eq_some {r : CompiledRule} : t.emptyMatch? text s = some r ↔
    ∃ m memo, choose text s.cursor (t.rulesOf s.stack.top) s.memo = (.ok (some (r, m)), memo) ∧
      m.span.isEmpty = true := by
  unfold emptyMatch?
  constructor
  · intro h
    split at h
    · rename_i r' m memo hc
      split at h
      · rename_i hm; cases h; exact ⟨m, memo, hc, hm⟩
      · cases h
    · cases h
  · rintro ⟨m, memo, hc, hm⟩
    simp [hc, hm]

/-- A step that leaves the cursor follows an empty match. -/
theorem emptyMatch?_of_stay (ht : t.Sound) (hs : Text.isBoundary text s.cursor = true)
    (hlt : s.cursor < text.utf8ByteSize) (h : t.step text lexGroup s = ⟨s', tokens, none⟩)
    (hstay : s'.cursor = s.cursor) : (t.emptyMatch? text s).isSome = true := by
  rcases step_eq_ok h with ⟨r, m, memo, hc, ha⟩ | ⟨memo, _, hf⟩
  · have hat := CompiledRule.matchAt_at (ht _ r (choose_some hc).1) hs (choose_some hc).2
    have hempty : m.span.isEmpty = true := by
      have hstart := hat.start
      have hstop : s'.cursor = m.span.stop := congrArg Scan.cursor (accept_scan ha)
      simp only [Text.Span.isEmpty, decide_eq_true_eq]
      omega
    rw [emptyMatch?_eq_some.mpr ⟨m, memo, hc, hempty⟩]
    rfl
  · have hp := fallback_progress (t := t) (s := { s with memo }) hs hlt
    rw [hf] at hp
    cases hp with
    | stay _ count =>
        obtain ⟨_, _, _, heq⟩ := t.fallback_eq text { s with memo }
        cases hf.symm.trans heq
        cases count
    | move forward => exact absurd hstay (Nat.ne_of_gt forward)

/-! ## Places of a scan -/

/-- A scan counts the empty matches since its cursor last moved. -/
theorem Visits.zeroWidth_eq (ht : t.Sound) (h : t.Visits text stack depth levels part history s) :
    s.zeroWidth = t.emptyMatches part history s.cursor := by
  induction h with
  | start => rfl
  | step before more taken ih =>
      have hs := before.inBounds ht
      cases step_progress ht (lexGroup_tiles ht _) hs.boundary more taken with
      | stay cursor count _ _ =>
          rw [count, ih, emptyMatches_stayed cursor (emptyMatch?_of_stay ht hs.boundary more taken cursor)]
      | move forward reset _ _ => rw [reset, emptyMatches_moved (Nat.ne_of_lt forward)]
  | group => rfl

/-- The steps so far and those that can follow are no more than the bound. -/
theorem Visits.steps_le (ht : t.Sound) (h : t.Visits text stack depth levels part history s) :
    history.length + t.budget part s ≤ t.stepBound part := by
  induction h with
  | start => rw [List.length_nil, Nat.zero_add]; exact budget_le_stepBound t text _
  | step before more taken ih =>
      have hs := before.inBounds ht
      have hp := step_progress ht (lexGroup_tiles ht _) hs.boundary more taken
      have hlt := hp.budget_lt hs more
      rw [List.length_cons]
      omega
  | group => rw [List.length_nil, Nat.zero_add]; exact budget_le_stepBound t _ _

theorem budget_pos (hs : t.InBounds text s) (hlt : s.cursor < text.utf8ByteSize) : 0 < t.budget text s := by
  have hz := hs.zeroWidth
  have hone := Nat.mul_le_mul_left (t.options.maxZeroWidth + 1) (show 1 ≤ text.utf8ByteSize - s.cursor by omega)
  unfold budget
  omega

/-- What holds of the counts at a place: the scan is not too deep, it has not taken too many steps and, before the
end of its text, may take one more, and it knows how many empty matches there were since its cursor last moved. -/
structure Counted (t : Table) (depth : Nat) (part : String) (history : List Scan) (s : Scan) : Prop where
  depth_le : depth ≤ t.options.maxNesting
  steps_le : history.length ≤ (t.options.maxZeroWidth + 1) * part.utf8ByteSize
  step_le : s.cursor < part.utf8ByteSize → history.length + 1 ≤ (t.options.maxZeroWidth + 1) * part.utf8ByteSize
  zeroWidth_eq : s.zeroWidth = t.emptyMatches part history s.cursor
  zeroWidth_le : s.zeroWidth ≤ t.options.maxZeroWidth

theorem Visits.counted (ht : t.Sound) (h : t.Visits text stack depth levels part history s) :
    t.Counted depth part history s where
  depth_le := by have := h.depth_add_levels; omega
  steps_le := by have := h.steps_le ht; unfold stepBound at this; omega
  step_le hlt := by
    have hsteps := h.steps_le ht
    have hpos := budget_pos (h.inBounds ht) hlt
    unfold stepBound at hsteps
    omega
  zeroWidth_eq := h.zeroWidth_eq ht
  zeroWidth_le := (h.inBounds ht).zeroWidth

/-! ## Loops of empty matches -/

/-- At a place where there were as many empty matches as the table allows, one more is found that moves the
stack. -/
structure LoopsAt (t : Table) (part : String) (history : List Scan) (s : Scan) : Prop where
  more : s.cursor < part.utf8ByteSize
  full : t.emptyMatches part history s.cursor = t.options.maxZeroWidth
  again : ∃ r, t.emptyMatch? part s = some r ∧ r.transition.isStay = false

/-- A place breaks off with the error of a loop exactly if it loops there. -/
theorem Visits.breaks_loop_iff (ht : t.Sound) (h : t.Visits text stack depth levels part history s)
    {state : String} {offset steps : Nat} :
    s.cursor < part.utf8ByteSize ∧ t.Breaks levels part s (.zeroWidthLoop state offset steps) ↔
      t.LoopsAt part history s ∧ state = t.name s.stack.top ∧ offset = s.cursor ∧
        steps = t.options.maxZeroWidth := by
  have hcount := h.zeroWidth_eq ht
  have hle := (h.inBounds ht).zeroWidth
  constructor
  · rintro ⟨hlt, hbreaks⟩
    cases hbreaks with
    | fault fault =>
        generalize he : Error.zeroWidthLoop state offset steps = e at fault
        cases fault with
        | search failed => obtain ⟨_, _, _, rfl⟩ := choose_error failed; cases he
        | inert => cases he
        | loop chosen empty moves full =>
            cases he
            exact ⟨⟨hlt, by omega, _, emptyMatch?_eq_some.mpr ⟨_, _, chosen, empty⟩, moves⟩, rfl, rfl, rfl⟩
        | dropped => cases he
  · rintro ⟨⟨hlt, hfull, r, hr, hmoves⟩, rfl, rfl, rfl⟩
    obtain ⟨m, memo, hchosen, hempty⟩ := emptyMatch?_eq_some.mp hr
    exact ⟨hlt, .fault (.loop hchosen hempty hmoves (by omega))⟩

end Table

namespace Stream

open Table (Visits)

variable {t : Table} {text : String} {stack : StateStack}

/-- A stream that has come to its end: at the end of the text, or where a step from a place of the scan fails. -/
def Ended (t : Table) (text : String) (stack : StateStack) (s : Stream) : Prop :=
  s.Exhausted ∧ (s.scan.cursor = text.utf8ByteSize ∨ ∃ history place e,
    t.Visits text stack 0 t.options.maxNesting text history place ∧ s.FailedAt t text place e)

theorem after_ended (ht : t.Sound) (text : String) (stack : StateStack) {n : Nat}
    (hn : (t.scanFrom text stack).tokens.length < n) :
    Ended t text stack (Calls.after (next t text) (start stack) n) := by
  obtain ⟨hexhausted, hscan⟩ := after_tokens ht text stack hn
  refine ⟨hexhausted, ?_⟩
  cases herror : (t.scanFrom text stack).error with
  | none =>
      rw [hscan]
      exact Or.inl (Table.run_final ht (Table.lexOuterGroup_tiles ht) (Table.inBounds_start t text stack) herror)
  | some e =>
      obtain ⟨place, _, hstopped⟩ := after_stopped ht text stack herror
      obtain ⟨⟨history, hvisits⟩, hfailed, _⟩ := hstopped n hn
      exact Or.inr ⟨history, place, e, hvisits, hfailed⟩

/-- Every scan ends: after finitely many calls there are no more items, and the stream stands at the end of the
text or where a step fails. Between calls it stands at a place that the scan comes to, or as a step that failed there
left it; at all such places, in scans of groups too, the steps are bounded, the nesting is, and the count of empty
matches is right and in bounds. The error of a loop is handed out exactly if the scan comes to a place with the
greatest number of empty matches and finds one more. -/
theorem scan_ends {d : Declaration} {t : Table} (built : d.build = .ok t) (text : String) (stack : StateStack) :
    (∃ calls, ∀ n ≥ calls, Calls.item (next t text) (start stack) n = none ∧
      Ended t text stack (Calls.after (next t text) (start stack) n)) ∧
    (∀ n, ∃ history place, t.Visits text stack 0 t.options.maxNesting text history place ∧
      StandsAt t text place (Calls.after (next t text) (start stack) n)) ∧
    (∀ depth levels part history s, t.Visits text stack depth levels part history s →
      t.Counted depth part history s) ∧
    (∀ state offset steps,
      (∃ n, Calls.item (next t text) (start stack) n = some (.error (.zeroWidthLoop state offset steps))) ↔
        ∃ depth levels part history s, t.Visits text stack depth levels part history s ∧
          t.LoopsAt part history s ∧ state = t.name s.stack.top ∧ offset = s.cursor ∧
          steps = t.options.maxZeroWidth) := by
  have ht := d.build_sound built
  refine ⟨⟨(t.scanFrom text stack).tokens.length + 1, fun n hn => ?_⟩, after_standsAt t text stack, ?_, ?_⟩
  · have hended := after_ended ht text stack hn
    exact ⟨by rw [Calls.item, hended.1.next_eq], hended⟩
  · intro depth levels part history s h
    exact h.counted ht
  · intro state offset steps
    rw [exists_item_error ht, Table.scanFrom_error_iff ht]
    constructor
    · rintro ⟨depth, levels, part, history, s, h, hbreaks⟩
      exact ⟨depth, levels, part, history, s, h, (h.breaks_loop_iff ht).mp hbreaks⟩
    · rintro ⟨depth, levels, part, history, s, h, hloops⟩
      exact ⟨depth, levels, part, history, s, h, (h.breaks_loop_iff ht).mpr hloops⟩

/-- A group whose state is pushed again and again where no other rule of it matches, twice at most. -/
def looping : Declaration where
  options := { maxZeroWidth := 2 }
  states := [
    ("root", [.rule { pattern := { text := "<(x*y)>" }, emission := .byGroups [.lex "inner"] }]),
    ("inner", [
      .rule { pattern := { text := "x" }, emission := .token ⟨"Name"⟩ },
      .rule (.defaultTo .pushCurrent)])]

theorem scan_ends_looping : ∃ t, looping.build = .ok t ∧
    (∃ calls, ∀ n ≥ calls, Calls.item (next t "a<xy>") (start ⟨t.root, []⟩) n = none) ∧
    (∃ n, Calls.item (next t "a<xy>") (start ⟨t.root, []⟩) n = some (.error (.zeroWidthLoop "inner" 1 2))) ∧
    ∃ depth levels part history s, t.Visits "a<xy>" ⟨t.root, []⟩ depth levels part history s ∧
      t.LoopsAt part history s ∧ t.Counted depth part history s := by
  have h : (looping.build.toOption.map fun t => (t.scanFrom "a<xy>" ⟨t.root, []⟩).error) =
      some (some (.zeroWidthLoop "inner" 1 2)) := by decide +kernel
  obtain ⟨t, hb, he⟩ := Option.map_eq_some_iff.mp h
  have hb := toOption_eq_some.mp hb
  obtain ⟨⟨calls, hends⟩, _, hcounted, hloops⟩ := scan_ends hb "a<xy>" ⟨t.root, []⟩
  have hitem := (exists_item_error (looping.build_sound hb) "a<xy>" ⟨t.root, []⟩).mpr he
  obtain ⟨depth, levels, part, history, s, hv, hl, _⟩ := (hloops "inner" 1 2).mp hitem
  exact ⟨t, hb, ⟨calls, fun n hn => (hends n hn).1⟩, hitem, depth, levels, part, history, s, hv, hl,
    hcounted depth levels part history s hv⟩

end Stream

end ModalLexer
