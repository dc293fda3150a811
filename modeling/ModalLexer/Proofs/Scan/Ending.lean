import ModalLexer.Proofs.Scan.Stream
import ModalLexer.Proofs.Scan.Visits

/-!
Where a stream stands. Between calls it stands at a place that the scan of the text comes to, or a step from there has
failed. Once it has handed out all tokens, and the error if there is one, it stands where the scan ended and stays
there: at the end of the text, or as the step that failed left it, at the cursor and with the stack that the step began
with.
-/

namespace ModalLexer.Stream

variable {t : Table} {text : String} {stack : StateStack} {place : Scan} {e : Error}

/-! ## Places -/

/-- Nothing is left to be handed out, and the stream is at its end. -/
structure Exhausted (s : Stream) : Prop where
  finished : s.finished = true
  pending : s.pending = []

theorem Exhausted.next_eq {s : Stream} (h : s.Exhausted) : next t text s = (none, s) := by
  simp [next, h.pending, h.finished]

/-- A step from a place has failed, and the stream stands as that step left it: with the cursor and the stack of the
place, and with nothing to be handed out. -/
structure FailedAt (t : Table) (text : String) (place : Scan) (e : Error) (s : Stream) : Prop where
  more : place.cursor < text.utf8ByteSize
  failed : t.step text t.lexOuterGroup place = ⟨s.scan, s.pending, some e⟩
  cursor : s.scan.cursor = place.cursor
  stack : s.scan.stack = place.stack
  exhausted : s.Exhausted

/-- Where a stream stands: at a place, or as a step that failed there left it. -/
inductive StandsAt (t : Table) (text : String) (place : Scan) (s : Stream) : Prop
  | here (scan : s.scan = place)
  | failed {e : Error} (failed : s.FailedAt t text place e)

/-- In either case it is the cursor of the place, and its stack. -/
theorem StandsAt.same {s : Stream} (h : s.StandsAt t text place) :
    s.scan.cursor = place.cursor ∧ s.scan.stack = place.stack := by
  cases h with
  | here hscan => rw [hscan]; exact ⟨rfl, rfl⟩
  | failed hfailed => exact ⟨hfailed.cursor, hfailed.stack⟩

theorem advance_standsAt {fuel : Nat} {s : Scan} {history : List Scan}
    (h : t.Visits text stack 0 t.options.maxNesting text history s) :
    ∃ history place, t.Visits text stack 0 t.options.maxNesting text history place ∧
      StandsAt t text place (advance t text fuel s).2 := by
  induction fuel generalizing s history with
  | zero => exact ⟨history, s, h, .here rfl⟩
  | succ fuel ih =>
      unfold advance
      split
      · exact ⟨history, s, h, .here rfl⟩
      · rename_i hlt
        split
        · rename_i hstep
          obtain ⟨hcursor, hstack, rfl⟩ := Table.step_failed hstep
          exact ⟨history, s, h, .failed ⟨by omega, hstep, hcursor, hstack, rfl, rfl⟩⟩
        · rename_i hstep; exact ⟨_, _, .step h (by omega) hstep, .here rfl⟩
        · rename_i hstep; exact ih (.step h (by omega) hstep)

/-- Between calls a stream stands at a place that the scan comes to, or as a step that failed there left it. -/
theorem after_standsAt (t : Table) (text : String) (stack : StateStack) (n : Nat) :
    ∃ history place, t.Visits text stack 0 t.options.maxNesting text history place ∧
      StandsAt t text place (Calls.after (next t text) (start stack) n) := by
  refine Calls.after_inv (motive := fun s : Stream => ∃ history place,
    t.Visits text stack 0 t.options.maxNesting text history place ∧ StandsAt t text place s) ?_
    ⟨[], _, .start, .here rfl⟩ n
  rintro s ⟨history, place, h, hstands⟩
  cases hstands with
  | failed hfailed => rw [hfailed.exhausted.next_eq]; exact ⟨history, place, h, .failed hfailed⟩
  | here hscan =>
      unfold next
      split
      · exact ⟨history, place, h, .here hscan⟩
      · split
        · exact ⟨history, place, h, .here hscan⟩
        · rw [hscan]; exact advance_standsAt h

/-! ## The end of a stream -/

/-- Where the scan of a stream ends. -/
def final (t : Table) (text : String) (s : Stream) : Scan :=
  if s.finished then s.scan else (t.run text t.lexOuterGroup s.scan).final

theorem advance_final (ht : t.Sound) {fuel : Nat} {s : Scan} (hs : t.InBounds text s)
    (hfuel : t.budget text s < fuel) :
    final t text (advance t text fuel s).2 = (t.run text t.lexOuterGroup s).final := by
  have hlex := Table.lexOuterGroup_tiles ht
  induction fuel generalizing s with
  | zero => omega
  | succ fuel ih =>
      unfold advance
      split
      · rename_i hend; rw [Table.run_end hend]; rfl
      · rename_i hend
        have hlt : s.cursor < text.utf8ByteSize := by omega
        split
        · rename_i hstep
          rw [Table.run_error hlt (congrArg Stepped.error hstep), hstep]
          rfl
        · rename_i hstep; rw [Table.run_step ht hlex hs hlt hstep]; rfl
        · rename_i s' hstep
          have hp := Table.step_progress ht hlex hs.boundary hlt hstep
          rw [ih (hp.inBounds hs) (by have := hp.budget_lt hs hlt; omega), Table.run_step ht hlex hs hlt hstep]
          rfl

theorem next_final (ht : t.Sound) {s : Stream} (hs : s.InBounds t text) :
    final t text (next t text s).2 = final t text s := by
  unfold next
  split
  · rfl
  · split
    · rfl
    · rename_i hf
      have hfuel := Nat.lt_succ_of_le (Table.budget_le_stepBound t text s.scan)
      rw [advance_final ht (hs (Bool.eq_false_iff.mpr hf)) hfuel, final, if_neg hf]

theorem after_final (ht : t.Sound) (text : String) (stack : StateStack) (n : Nat) :
    final t text (Calls.after (next t text) (start stack) n) = (t.scanFrom text stack).final := by
  have hstart : InBounds t text (start stack) := fun _ => Table.inBounds_start t text stack
  refine (Calls.after_inv (motive := fun s : Stream => s.InBounds t text ∧
    final t text s = (t.scanFrom text stack).final) ?_ ⟨hstart, rfl⟩ n).2
  rintro s ⟨hs, hfinal⟩
  exact ⟨(next_hands ht s hs).inv, (next_final ht hs).trans hfinal⟩

theorem advance_exhausted {fuel : Nat} {s : Scan} (h : ∀ token, (advance t text fuel s).1 ≠ some (.ok token)) :
    (advance t text fuel s).2.Exhausted := by
  induction fuel generalizing s with
  | zero => exact ⟨rfl, rfl⟩
  | succ fuel ih =>
      unfold advance at h ⊢
      split at h
      · rename_i hend; rw [if_pos hend]; exact ⟨rfl, rfl⟩
      · rename_i hend
        rw [if_neg hend]
        split at h
        · rename_i hstep; exact ⟨rfl, (Table.step_failed hstep).2.2⟩
        · exact absurd rfl (h _)
        · exact ih h

/-- A call that hands out no token leaves nothing to be handed out. -/
theorem next_exhausted {s : Stream} (h : ∀ token, (next t text s).1 ≠ some (.ok token)) :
    (next t text s).2.Exhausted := by
  unfold next at h ⊢
  split at h
  · exact absurd rfl (h _)
  · rename_i hp
    split at h
    · rename_i hf; rw [if_pos hf]; exact ⟨hf, hp⟩
    · rename_i hf; rw [if_neg hf]; exact advance_exhausted h

/-- After its tokens and one call more a stream is exhausted, and stands where the scan ended. -/
theorem after_tokens (ht : t.Sound) (text : String) (stack : StateStack) {n : Nat}
    (hn : (t.scanFrom text stack).tokens.length < n) :
    (Calls.after (next t text) (start stack) n).Exhausted ∧
      (Calls.after (next t text) (start stack) n).scan = (t.scanFrom text stack).final := by
  have hlast : (Calls.after (next t text) (start stack) ((t.scanFrom text stack).tokens.length + 1)).Exhausted := by
    rw [Calls.after_succ]
    refine next_exhausted fun token hitem => ?_
    have hout := (item_eq_scanFrom ht text stack _).symm.trans hitem
    cases herror : (t.scanFrom text stack).error with
    | none => simp [Calls.outcomes, herror] at hout
    | some e => simp [Calls.outcomes, herror] at hout
  obtain ⟨k, rfl⟩ := Nat.exists_eq_add_of_le hn
  have hstays : Calls.after (next t text) (start stack) ((t.scanFrom text stack).tokens.length + 1 + k) =
      Calls.after (next t text) (start stack) ((t.scanFrom text stack).tokens.length + 1) := by
    rw [Calls.after_add, Calls.after_of_fixed (by rw [hlast.next_eq])]
  refine ⟨hstays ▸ hlast, ?_⟩
  have hfinal := after_final ht text stack ((t.scanFrom text stack).tokens.length + 1)
  rw [final, if_pos hlast.finished] at hfinal
  rw [Nat.succ_eq_add_one, hstays, hfinal]

/-- The error that is handed out, if one is, is that of the scan. -/
theorem exists_item_error (ht : t.Sound) (text : String) (stack : StateStack) :
    (∃ n, Calls.item (next t text) (start stack) n = some (.error e)) ↔ (t.scanFrom text stack).error = some e := by
  simp only [item_eq_scanFrom ht]
  exact Calls.exists_outcomes_error

/-- A stream that a step has stopped: it comes to a place from which the step fails, and the tokens that were handed
out tile the text up to there. -/
structure StoppedBy (t : Table) (text : String) (stack : StateStack) (tokens : List Token) (e : Error) (place : Scan)
    (s : Stream) : Prop where
  visited : ∃ history, t.Visits text stack 0 t.options.maxNesting text history place
  failed : s.FailedAt t text place e
  tiles : Tiles text 0 tokens s.scan.cursor

theorem after_stopped (ht : t.Sound) (text : String) (stack : StateStack)
    (he : (t.scanFrom text stack).error = some e) : ∃ place, t.StopsAt text t.lexOuterGroup e { stack } place ∧
      ∀ n > (t.scanFrom text stack).tokens.length,
        StoppedBy t text stack (t.scanFrom text stack).tokens e place (Calls.after (next t text) (start stack) n) := by
  have hlex := Table.lexOuterGroup_tiles ht
  have hs := Table.inBounds_start t text stack
  obtain ⟨place, hstops, hfinal⟩ := Table.run_stopsAt ht hlex hs he
  refine ⟨place, hstops, fun n hn => ?_⟩
  obtain ⟨hexhausted, hscan⟩ := after_tokens ht text stack hn
  obtain ⟨hlt, herror⟩ := hstops.failed
  have hstill := Table.step_still herror
  have hleft := hscan.trans hfinal
  refine ⟨Table.Visits.start.stopsAt hstops, ⟨hlt, ?_, ?_, ?_, hexhausted⟩, ?_⟩
  · rw [hleft, hexhausted.pending, ← hstill.queued, ← herror]
  · rw [hleft]; exact hstill.cursor
  · rw [hleft]; exact hstill.stack
  · rw [hscan]; exact Table.run_tiles ht hlex hs

end ModalLexer.Stream
