import ModalLexer.Proofs.Scan.Step

/-!
Whole scans. Every step uses up some of a budget, which is no more than the bound on the number of steps, so a
scan stops only at the end of the text or at an error. What it has put out by then tiles the text up to the
cursor, in scans of groups too.
-/

namespace ModalLexer.Table

open Text

variable {t : Table} {text : String} {lexGroup : GroupLexer}

/-! ## The budget of steps -/

/-- How many steps a scan can still take: empty matches are counted at each offset anew. -/
def budget (t : Table) (text : String) (s : Scan) : Nat :=
  (t.options.maxZeroWidth + 1) * (text.utf8ByteSize - s.cursor) - s.zeroWidth

theorem budget_le_stepBound (t : Table) (text : String) (s : Scan) : t.budget text s ≤ t.stepBound text := by
  unfold budget stepBound
  exact Nat.le_trans (Nat.sub_le _ _) (Nat.mul_le_mul_left _ (Nat.sub_le _ _))

theorem Progress.budget_lt {s s' : Scan} {tokens : List Token} (hs : InBounds t text s)
    (hlt : s.cursor < text.utf8ByteSize) (h : Progress t text s tokens s') :
    t.budget text s' < t.budget text s := by
  have hz := hs.zeroWidth
  unfold budget
  cases h with
  | stay hcursor hcount hbound _ =>
      have hone := Nat.mul_le_mul_left (t.options.maxZeroWidth + 1)
        (show 1 ≤ text.utf8ByteSize - s.cursor by omega)
      rw [hcursor]
      omega
  | move hforward hreset hb _ =>
      have hle := isBoundary_le hb
      have hstep := Nat.mul_le_mul_left (t.options.maxZeroWidth + 1)
        (show text.utf8ByteSize - s'.cursor + 1 ≤ text.utf8ByteSize - s.cursor by omega)
      rw [Nat.mul_add, Nat.mul_one] at hstep
      rw [hreset]
      omega

/-! ## Runs -/

/-- A run that had put out some tokens before. -/
def Scanned.after (tokens : List Token) (s : Scanned) : Scanned :=
  { s with tokens := tokens ++ s.tokens }

theorem runFrom_done {fuel : Nat} {s : Scan} {done : List Token} :
    t.runFrom text lexGroup fuel s done = (t.runFrom text lexGroup fuel s []).after done.reverse := by
  induction fuel generalizing s done with
  | zero => simp [runFrom, Scanned.after]
  | succ fuel ih =>
      simp only [runFrom]
      split
      · simp [Scanned.after]
      · rcases t.step text lexGroup s with ⟨s', tokens, _ | e⟩
        · simp only
          rw [ih, @ih s' (tokens.reverse ++ [])]
          simp [Scanned.after]
        · simp [Scanned.after]

theorem runFrom_fuel (ht : t.Sound) (hlex : TilesGroups lexGroup) {fuel fuel' : Nat} {s : Scan}
    {done : List Token} (hs : InBounds t text s) (h : t.budget text s < fuel) (h' : t.budget text s < fuel') :
    t.runFrom text lexGroup fuel s done = t.runFrom text lexGroup fuel' s done := by
  induction fuel generalizing fuel' s done with
  | zero => omega
  | succ fuel ih =>
      cases fuel' with
      | zero => omega
      | succ fuel' =>
          simp only [runFrom]
          split
          · rfl
          · rename_i hend
            split
            · rfl
            · rename_i s' tokens hstep
              have hp := step_progress ht hlex hs.boundary (by omega) hstep
              have hlt := hp.budget_lt hs (by omega)
              exact ih (hp.inBounds hs) (by omega) (by omega)

theorem run_end {s : Scan} (hend : text.utf8ByteSize ≤ s.cursor) :
    t.run text lexGroup s = ⟨[], none, s⟩ := by
  simp [run, runFrom, hend]

theorem run_error {s : Scan} {e : Error} (hlt : s.cursor < text.utf8ByteSize)
    (h : (t.step text lexGroup s).error = some e) :
    t.run text lexGroup s = ⟨[], some e, (t.step text lexGroup s).scan⟩ := by
  rcases hstep : t.step text lexGroup s with ⟨s', queued, _ | e'⟩
  · rw [hstep] at h
    cases h
  · rw [hstep] at h
    cases h
    simp [run, runFrom, Nat.not_le.mpr hlt, hstep]

theorem run_step (ht : t.Sound) (hlex : TilesGroups lexGroup) {s s' : Scan} {tokens : List Token}
    (hs : InBounds t text s) (hlt : s.cursor < text.utf8ByteSize)
    (h : t.step text lexGroup s = ⟨s', tokens, none⟩) :
    t.run text lexGroup s = (t.run text lexGroup s').after tokens := by
  have hp := step_progress ht hlex hs.boundary hlt h
  have hb := hp.budget_lt hs hlt
  have hle := budget_le_stepBound t text s
  have hle' := budget_le_stepBound t text s'
  have hfuel : t.runFrom text lexGroup (t.stepBound text) s' tokens.reverse =
      t.runFrom text lexGroup (t.stepBound text + 1) s' tokens.reverse :=
    runFrom_fuel ht hlex (hp.inBounds hs) (by omega) (by omega)
  calc t.run text lexGroup s
      = t.runFrom text lexGroup (t.stepBound text) s' tokens.reverse := by
        simp [run, runFrom, Nat.not_le.mpr hlt, h]
    _ = t.runFrom text lexGroup (t.stepBound text + 1) s' tokens.reverse := hfuel
    _ = (t.run text lexGroup s').after tokens := by rw [runFrom_done, List.reverse_reverse]; rfl

/-- To prove something of all runs, prove it at the end, of a step that fails and of a step that succeeds. -/
theorem run_induction (ht : t.Sound) (hlex : TilesGroups lexGroup) {motive : Scan → Scanned → Prop}
    (stop : ∀ s, InBounds t text s → text.utf8ByteSize ≤ s.cursor → motive s ⟨[], none, s⟩)
    (fail : ∀ s e, InBounds t text s → s.cursor < text.utf8ByteSize → (t.step text lexGroup s).error = some e →
      motive s ⟨[], some e, (t.step text lexGroup s).scan⟩)
    (step : ∀ s tokens s', InBounds t text s → s.cursor < text.utf8ByteSize →
      t.step text lexGroup s = ⟨s', tokens, none⟩ → Progress t text s tokens s' →
      motive s' (t.run text lexGroup s') → motive s ((t.run text lexGroup s').after tokens))
    {s : Scan} (hs : InBounds t text s) : motive s (t.run text lexGroup s) := by
  induction hb : t.budget text s using Nat.strongRecOn generalizing s with
  | ind n ih =>
      subst hb
      by_cases hend : text.utf8ByteSize ≤ s.cursor
      · rw [run_end hend]; exact stop s hs hend
      · have hlt : s.cursor < text.utf8ByteSize := by omega
        rcases hstep : t.step text lexGroup s with ⟨s', tokens, _ | e⟩
        · have hp := step_progress ht hlex hs.boundary hlt hstep
          rw [run_step ht hlex hs hlt hstep]
          exact step s tokens s' hs hlt hstep hp (ih _ (hp.budget_lt hs hlt) (hp.inBounds hs) rfl)
        · have he : (t.step text lexGroup s).error = some e := congrArg Stepped.error hstep
          rw [run_error hlt he]
          exact fail s e hs hlt he

/-! ## Where a run stops -/

/-- A run stops at a place with an error: it comes there, and the step from there fails. -/
inductive StopsAt (t : Table) (text : String) (lexGroup : GroupLexer) (e : Error) : (start place : Scan) → Prop
  | here {s : Scan} (more : s.cursor < text.utf8ByteSize) (failed : (t.step text lexGroup s).error = some e) :
      StopsAt t text lexGroup e s s
  | later {s s' place : Scan} {tokens : List Token} (more : s.cursor < text.utf8ByteSize)
      (taken : t.step text lexGroup s = ⟨s', tokens, none⟩) (stops : StopsAt t text lexGroup e s' place) :
      StopsAt t text lexGroup e s place

variable {s place : Scan} {e : Error}

theorem StopsAt.failed (h : t.StopsAt text lexGroup e s place) :
    place.cursor < text.utf8ByteSize ∧ (t.step text lexGroup place).error = some e := by
  induction h with
  | here more failed => exact ⟨more, failed⟩
  | later _ _ _ ih => exact ih

theorem StopsAt.inBounds (ht : t.Sound) (hlex : TilesGroups lexGroup) (hs : InBounds t text s)
    (h : t.StopsAt text lexGroup e s place) : InBounds t text place := by
  induction h with
  | here => exact hs
  | later more taken _ ih => exact ih ((step_progress ht hlex hs.boundary more taken).inBounds hs)

/-- A run that has an error has stopped at a place, and stands as the step that failed left it. -/
theorem run_stopsAt (ht : t.Sound) (hlex : TilesGroups lexGroup) (hs : InBounds t text s)
    (he : (t.run text lexGroup s).error = some e) : ∃ place, t.StopsAt text lexGroup e s place ∧
      (t.run text lexGroup s).final = (t.step text lexGroup place).scan := by
  refine run_induction ht hlex (motive := fun s out => out.error = some e →
    ∃ place, t.StopsAt text lexGroup e s place ∧ out.final = (t.step text lexGroup place).scan) ?_ ?_ ?_ hs he
  · intro s _ _ he
    cases he
  · intro s e' _ hlt hstep he
    cases he
    exact ⟨s, .here hlt hstep, rfl⟩
  · intro s tokens s' _ hlt hstep _ ih he
    obtain ⟨place, hstops, hfinal⟩ := ih he
    exact ⟨place, .later hlt hstep hstops, hfinal⟩

/-! ## What a run puts out -/

/-- The tokens of a run tile the text from where it began to where it stands. -/
theorem run_tiles (ht : t.Sound) (hlex : TilesGroups lexGroup) {s : Scan} (hs : InBounds t text s) :
    Tiles text s.cursor (t.run text lexGroup s).tokens (t.run text lexGroup s).final.cursor :=
  run_induction ht hlex (motive := fun s out => Tiles text s.cursor out.tokens out.final.cursor)
    (fun _ _ _ => rfl) (fun _ _ _ _ he => (step_still he).cursor.symm)
    (fun _ _ _ _ _ _ hp ih => hp.tiles.append ih) hs

theorem run_final (ht : t.Sound) (hlex : TilesGroups lexGroup) {s : Scan} (hs : InBounds t text s)
    (he : (t.run text lexGroup s).error = none) : (t.run text lexGroup s).final.cursor = text.utf8ByteSize := by
  refine run_induction ht hlex
    (motive := fun _ out => out.error = none → out.final.cursor = text.utf8ByteSize) ?_ ?_ ?_ hs he
  · intro s hs hend _
    exact Nat.le_antisymm (isBoundary_le hs.boundary) hend
  · intro s e _ _ _ he
    cases he
  · intro s tokens s' _ _ _ _ ih he
    exact ih he

theorem inBounds_start (t : Table) (text : String) (stack : StateStack) : InBounds t text { stack } :=
  ⟨isBoundary_zero text, Nat.zero_le _⟩

/-- Where a run has no error, its tokens tile the rest of the text. -/
theorem run_covers (ht : t.Sound) (hlex : TilesGroups lexGroup) {s : Scan} (hs : InBounds t text s)
    (he : (t.run text lexGroup s).error = none) :
    Tiles text s.cursor (t.run text lexGroup s).tokens text.utf8ByteSize := by
  rw [← run_final ht hlex hs he]
  exact run_tiles ht hlex hs

theorem emitted_eq_ok {s : Scanned} {tokens : List Token} :
    s.emitted = ⟨tokens, none⟩ ↔ s.error = none ∧ s.tokens = tokens := by
  rw [Scanned.emitted, Emitted.mk.injEq, and_comm]

theorem run_emitted_tiles (ht : t.Sound) (hlex : TilesGroups lexGroup) {stack : StateStack} {tokens : List Token}
    (h : (t.run text lexGroup { stack }).emitted = ⟨tokens, none⟩) : Tiles text 0 tokens text.utf8ByteSize := by
  obtain ⟨he, rfl⟩ := emitted_eq_ok.mp h
  exact run_covers ht hlex (inBounds_start t text stack) he

/-- Scans of groups tile their groups, however deep they nest. -/
theorem lexGroup_tiles (ht : t.Sound) (levels : Nat) : TilesGroups (t.lexGroup levels) := by
  induction levels with
  | zero => intro text state tokens h; cases h
  | succ levels ih => intro text state tokens h; exact run_emitted_tiles ht ih h

theorem lexOuterGroup_tiles (ht : t.Sound) : TilesGroups t.lexOuterGroup :=
  lexGroup_tiles ht _

theorem tokenize_tiles (ht : t.Sound) {tokens : List Token} (h : t.tokenize text = .ok tokens) :
    Tiles text 0 tokens text.utf8ByteSize :=
  run_emitted_tiles ht (lexOuterGroup_tiles ht) (Emitted.result_eq_ok.mp h)

end ModalLexer.Table
