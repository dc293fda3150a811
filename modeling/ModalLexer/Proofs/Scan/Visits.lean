import ModalLexer.Proofs.Scan.Failure
import ModalLexer.Proofs.Scan.Memo
import ModalLexer.Proofs.Scan.Run

/-!
The places that the scan of a text comes to, those in scans of groups included. Scans of groups do not lie deeper
than the table allows. A scan ends with an error exactly if it comes to a place where a step fails of itself, or
where no level is left for a group; from there the error goes out through all the scans around it.
-/

namespace ModalLexer.Table

open Text

/-- The places of a scan, by the number of scans that it lies in, the number of levels left for groups inside, its
text, and the places that it was at before, the newest first. -/
inductive Visits (t : Table) (text : String) (stack : StateStack) :
    (depth levels : Nat) → (part : String) → (history : List Scan) → Scan → Prop
  | start : Visits t text stack 0 t.options.maxNesting text [] { stack }
  | step {depth levels : Nat} {part : String} {history : List Scan} {s s' : Scan} {tokens : List Token}
      (before : Visits t text stack depth levels part history s) (more : s.cursor < part.utf8ByteSize)
      (taken : t.step part (t.lexGroup levels) s = ⟨s', tokens, none⟩) :
      Visits t text stack depth levels part (s :: history) s'
  | group {depth levels : Nat} {part inner : String} {history : List Scan} {s : Scan} {state : StateId}
      (before : Visits t text stack depth (levels + 1) part history s) (more : s.cursor < part.utf8ByteSize)
      (opens : t.Opens part (t.lexGroup (levels + 1)) s inner state) :
      Visits t text stack (depth + 1) levels inner [] { stack := ⟨t.root, [state]⟩ }

variable {t : Table} {text part inner : String} {stack : StateStack} {depth levels : Nat} {history : List Scan}
  {s s' : Scan} {e : Error}

/-! ## Where the places lie -/

theorem Visits.depth_add_levels (h : t.Visits text stack depth levels part history s) :
    depth + levels = t.options.maxNesting := by
  induction h with
  | start => exact Nat.zero_add _
  | step _ _ _ ih => exact ih
  | group _ _ _ ih => omega

theorem Visits.inBounds (ht : t.Sound) (h : t.Visits text stack depth levels part history s) :
    t.InBounds part s := by
  induction h with
  | start => exact inBounds_start t text stack
  | step _ more taken ih =>
      exact (step_progress ht (lexGroup_tiles ht _) ih.boundary more taken).inBounds ih
  | group => exact inBounds_start t _ _

theorem Opens.isPart {lexGroup : GroupLexer} {state : StateId} (h : t.Opens text lexGroup s part state) :
    IsPart text part := by
  cases h
  exact isPart_slice text _

theorem Visits.isPart (h : t.Visits text stack depth levels part history s) : IsPart text part := by
  induction h with
  | start => exact isPart_self text
  | step _ _ _ ih => exact ih
  | group _ _ opens ih =>
      obtain ⟨a, b, hpart⟩ := ih
      obtain ⟨i, j, hinner⟩ := opens.isPart
      exact ⟨_, _, slice?_trans hpart hinner⟩

/-- Where a run stops is a place as well. -/
theorem Visits.stopsAt {place : Scan} (h : t.Visits text stack depth levels part history s)
    (stops : t.StopsAt part (t.lexGroup levels) e s place) :
    ∃ history, t.Visits text stack depth levels part history place := by
  induction stops generalizing history with
  | here => exact ⟨history, h⟩
  | later more taken _ ih => exact ih (.step h more taken)

/-! ## Errors -/

/-- The next step fails of itself, or comes to a group for which no level is left. -/
inductive Breaks (t : Table) (levels : Nat) (text : String) (s : Scan) : Error → Prop
  | fault {e : Error} (fault : t.Fault text s e) : Breaks t levels text s e
  | deep {inner : String} {state : StateId} (exhausted : levels = 0)
      (opens : t.Opens text (t.lexGroup levels) s inner state) :
      Breaks t levels text s (.nestingTooDeep t.options.maxNesting)

theorem Breaks.step_error (h : t.Breaks levels text s e) : (t.step text (t.lexGroup levels) s).error = some e := by
  cases h with
  | fault fault => exact step_eq_error.mpr (Or.inl fault)
  | deep exhausted opens =>
      subst exhausted
      exact step_eq_error.mpr (Or.inr ⟨_, _, opens, rfl⟩)

/-- An error at any place is the error of the scan as a whole. -/
theorem Visits.scanFrom_error (ht : t.Sound) (h : t.Visits text stack depth levels part history s)
    (he : (t.run part (t.lexGroup levels) s).error = some e) : (t.scanFrom text stack).error = some e := by
  induction h with
  | start => exact he
  | step before more taken ih =>
      refine ih ?_
      rw [run_step ht (lexGroup_tiles ht _) (before.inBounds ht) more taken]
      exact he
  | group before more opens ih =>
      refine ih ?_
      have hstep := step_eq_error.mpr (Or.inr ⟨_, _, opens, he⟩)
      rw [run_error more hstep]

/-- The error of a scan comes from a place where it breaks off. -/
theorem Visits.breaks (ht : t.Sound) (h : t.Visits text stack depth levels part history s)
    (he : (t.run part (t.lexGroup levels) s).error = some e) :
    ∃ depth levels part history s, t.Visits text stack depth levels part history s ∧
      s.cursor < part.utf8ByteSize ∧ t.Breaks levels part s e := by
  -- Outside the induction is on the levels, for errors of groups, and inside it goes along the run.
  induction levels using Nat.strongRecOn generalizing depth part history s with
  | ind levels ihl =>
      refine run_induction ht (lexGroup_tiles ht levels) (motive := fun s out => ∀ history,
        t.Visits text stack depth levels part history s → out.error = some e → _) ?_ ?_ ?_ (h.inBounds ht)
        history h he
      · intro s _ _ history _ he
        cases he
      · intro s e' _ hlt hstep history h he
        cases he
        rcases step_eq_error.mp hstep with hfault | ⟨inner, state, hopens, hlex⟩
        · exact ⟨_, _, _, _, s, h, hlt, .fault hfault⟩
        · cases levels with
          | zero => cases hlex; exact ⟨_, _, _, _, s, h, hlt, .deep rfl hopens⟩
          | succ levels => exact ihl levels (Nat.lt_succ_self _) (.group h hlt hopens) hlex
      · intro s tokens s' _ hlt hstep _ ih history h he
        exact ih _ (.step h hlt hstep) he

/-- A scan has an error exactly if it breaks off with it at one of its places. -/
theorem scanFrom_error_iff (ht : t.Sound) : (t.scanFrom text stack).error = some e ↔
    ∃ depth levels part history s, t.Visits text stack depth levels part history s ∧
      s.cursor < part.utf8ByteSize ∧ t.Breaks levels part s e := by
  constructor
  · exact fun he => Visits.breaks ht .start he
  · rintro ⟨depth, levels, part, history, s, h, hlt, hbreaks⟩
    refine h.scanFrom_error ht ?_
    rw [run_error hlt hbreaks.step_error]

end ModalLexer.Table
