import ModalLexer.Proofs.Scan.Ending
import ModalLexer.Proofs.Scan.Groups

/-!
The offsets that errors tell. A step that fails of itself tells where it stands, and an error goes out through the scans
around it as it is. So the offset is one of the text whose scan fails: that of a group, where the defect lies in a
group, and not of the text around it.
-/

namespace ModalLexer

open Text

/-- The offset that an error of a scan tells. -/
def Error.offset? : Error → Option Nat
  | .searchFailed _ _ offset _ => some offset
  | .zeroWidthMatch _ _ offset => some offset
  | .zeroWidthLoop _ offset _ => some offset
  | .droppedText _ _ offset => some offset
  | _ => none

namespace Table

variable {t : Table} {text part : String} {lexGroup : GroupLexer} {levels base o : Nat} {s place : Scan} {e : Error}
  {span : Span} {state : StateId}

/-- A step that fails of itself tells where it stands. -/
theorem Fault.offset (h : t.Fault text s e) (ho : e.offset? = some o) : o = s.cursor := by
  cases h with
  | search failed =>
      obtain ⟨r, _, f, rfl⟩ := choose_error failed
      exact (Option.some.inj ho).symm
  | inert => exact (Option.some.inj ho).symm
  | loop => exact (Option.some.inj ho).symm
  | dropped => exact (Option.some.inj ho).symm

/-! ## Where errors come from -/

/-- Where the error of a step comes from: the part of the text that is scanned there, where it begins, and the place of
its scan. The step fails of itself, or the first of its groups whose scan fails stops with the error, at a step of that
scan. -/
inductive Arises (t : Table) : (levels : Nat) → (text : String) → Scan → Error → (base : Nat) → (part : String) →
    (place : Scan) → Prop
  | own {levels : Nat} {text : String} {s : Scan} {e : Error} (fault : t.Fault text s e) :
      Arises t levels text s e 0 text s
  | group {levels base : Nat} {text part : String} {s inner place : Scan} {e : Error} {span : Span} {state : StateId}
      {before after : List (Span × StateId)} (groups : t.lexes text s = before ++ (span, state) :: after)
      (earlier : ∀ g ∈ before, ∃ tokens, t.lexGroup (levels + 1) (slice text g.1) g.2 = ⟨tokens, none⟩)
      (stops : t.StopsAt (slice text span) (t.lexGroup levels) e { stack := ⟨t.root, [state]⟩ } inner)
      (arises : Arises t levels (slice text span) inner e base part place) :
      Arises t (levels + 1) text s e (span.start + base) part place

/-- The groups of a step, where it comes to scan one of them: those before it have been scanned. -/
theorem Opens.lexes_eq (h : t.Opens text lexGroup s part state) : ∃ span before after, part = slice text span ∧
    t.lexes text s = before ++ (span, state) :: after ∧
    ∀ g ∈ before, ∃ tokens, lexGroup (slice text g.1) g.2 = ⟨tokens, none⟩ := by
  cases h with
  | @intro r m memo actions before after i span tokens state chosen _ grouped pieces earlier action =>
      refine ⟨span, before.filterMap (Piece.lexed? actions), after.filterMap (Piece.lexed? actions), rfl, ?_, ?_⟩
      · have hlexed : Piece.lexed? actions (.group i span) = some (span, state) :=
          Piece.lexed?_eq_some.mpr ⟨i, rfl, action⟩
        simp only [lexes, chosen, grouped, pieces, List.filterMap_append, List.filterMap_cons, hlexed]
      · rintro ⟨span', state'⟩ hg
        obtain ⟨p, hp, hlexed⟩ := List.mem_filterMap.mp hg
        obtain ⟨i', rfl, ha⟩ := Piece.lexed?_eq_some.mp hlexed
        obtain ⟨front, back, rfl⟩ := List.append_of_mem hp
        obtain ⟨_, _, _, hrest, _⟩ := piecesTokens_append_eq_ok earlier
        obtain ⟨_, _, hown, _⟩ := piecesTokens_cons_eq_ok.mp hrest
        simp only [pieceTokens, ha] at hown
        obtain ⟨inner, hinner, _⟩ := Emitted.shift_eq_ok.mp hown
        exact ⟨inner, hinner⟩

theorem exists_arises (ht : t.Sound) (h : (t.step text (t.lexGroup levels) s).error = some e)
    (ho : e.offset? = some o) : ∃ base part place, t.Arises levels text s e base part place := by
  induction levels generalizing text s with
  | zero =>
      rcases step_eq_error.mp h with hfault | ⟨part, state, _, hlex⟩
      · exact ⟨0, text, s, .own hfault⟩
      · -- No group can be scanned, and the error that says so tells no offset.
        cases hlex
        cases ho
  | succ levels ih =>
      rcases step_eq_error.mp h with hfault | ⟨part, state, hopens, hlex⟩
      · exact ⟨0, text, s, .own hfault⟩
      · obtain ⟨span, before, after, rfl, hgroups, hearlier⟩ := hopens.lexes_eq
        obtain ⟨inner, hstops, _⟩ :=
          run_stopsAt ht (lexGroup_tiles ht levels) (inBounds_start t _ _) hlex
        obtain ⟨base, part, place, harises⟩ := ih hstops.failed.2
        exact ⟨span.start + base, part, place, .group hgroups hearlier hstops harises⟩

/-- A group that a step scans lies in the text, not before the cursor. -/
theorem slice?_of_mem_lexes (ht : t.Sound) (hs : isBoundary text s.cursor = true)
    (hmem : (span, state) ∈ t.lexes text s) :
    s.cursor ≤ span.start ∧ slice? text span.start span.stop = some (slice text span) := by
  obtain ⟨r, m, memo, actions, i, hc, _, hgroup, _⟩ := mem_lexes_iff.mp hmem
  have hm := CompiledRule.matchAt_at (ht _ r (choose_some hc).1) hs (choose_some hc).2
  obtain ⟨hstart, hstop⟩ := hm.plan_onBoundaries hs _ _ hgroup
  have hpieces := hm.plan_consecutive (actionEmits actions)
  have hlt := hpieces.mem_lt _ hgroup
  obtain ⟨front, back, hsplit⟩ := List.append_of_mem hgroup
  rw [hsplit] at hpieces
  obtain ⟨mid, hfront, hback⟩ := hpieces.split
  obtain ⟨rfl, _⟩ := hback
  exact ⟨hfront.le, slice?_slice hstart hstop (Nat.le_of_lt hlt)⟩

/-- The defect of which an error tells, when a step of the scan of a text fails with it: the place where it comes from
and what the offset means there. -/
structure Defect (t : Table) (levels : Nat) (text : String) (s : Scan) (e : Error) (offset base : Nat) (part : String)
    (place : Scan) : Prop where
  arises : t.Arises levels text s e base part place
  /-- The step at that place fails of itself. -/
  fault : t.Fault part place e
  /-- The part that is scanned there stands in the text. -/
  stands : slice? text base (base + part.utf8ByteSize) = some part
  /-- The offset is that of the place in the part. -/
  told : offset = place.cursor
  boundary : isBoundary part offset = true
  inside : offset < part.utf8ByteSize
  /-- In the text the place is not before the cursor. -/
  beyond : s.cursor ≤ base + offset

theorem Arises.defect (ht : t.Sound) (hs : isBoundary text s.cursor = true) (hlt : s.cursor < text.utf8ByteSize)
    (ho : e.offset? = some o) (h : t.Arises levels text s e base part place) :
    t.Defect levels text s e o base part place := by
  induction h with
  | own fault =>
      obtain rfl := fault.offset ho
      exact ⟨.own fault, fault, by simpa using slice?_all _, rfl, hs, hlt, by omega⟩
  | @group levels base text part s inner place e span state before after groups earlier stops arises ih =>
      have hmem : (span, state) ∈ t.lexes text s := groups ▸ List.mem_append_right _ List.mem_cons_self
      obtain ⟨hle, hslice⟩ := slice?_of_mem_lexes ht hs hmem
      have hin := stops.inBounds ht (lexGroup_tiles ht levels) (inBounds_start t _ _)
      have hd := ih hin.boundary stops.failed.1 ho
      refine ⟨.group groups earlier stops arises, hd.fault, ?_, hd.told, hd.boundary, hd.inside, by omega⟩
      rw [Nat.add_assoc]
      exact slice?_trans hslice hd.stands

theorem exists_defect (ht : t.Sound) (hs : isBoundary text s.cursor = true) (hlt : s.cursor < text.utf8ByteSize)
    (h : (t.step text (t.lexGroup levels) s).error = some e) (ho : e.offset? = some o) :
    ∃ base part place, t.Defect levels text s e o base part place := by
  obtain ⟨base, part, place, harises⟩ := exists_arises ht h ho
  exact ⟨base, part, place, harises.defect ht hs hlt ho⟩

/-- The place of a defect is a boundary of the text before its end. -/
theorem Defect.position (h : t.Defect levels text s e o base part place) :
    isBoundary text (base + o) = true ∧ base + o < text.utf8ByteSize := by
  obtain ⟨c, hc⟩ := charAt?_exists h.boundary h.inside
  have hslice := slice?_trans h.stands (charAt?_eq_some_iff.mp hc)
  have hle := isBoundary_le (slice?_right hslice)
  have hpos := c.utf8Size_pos
  exact ⟨slice?_left hslice, by omega⟩

/-- Where a scan stops with an error that tells an offset, there is the defect of which it tells. -/
theorem StopsAt.exists_defect {stop : Scan} (ht : t.Sound) (hs : t.InBounds text s)
    (h : t.StopsAt text (t.lexGroup levels) e s stop) (ho : e.offset? = some o) :
    ∃ base part place, t.Defect levels text stop e o base part place := by
  obtain ⟨hlt, herror⟩ := h.failed
  exact Table.exists_defect ht (h.inBounds ht (lexGroup_tiles ht levels) hs).boundary hlt herror ho

end Table

end ModalLexer
