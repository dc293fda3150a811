import ModalLexer.Proofs.Calls
import ModalLexer.Proofs.Scan.Run
import ModalLexer.Scan.Stream

/-!
A scan item by item hands out what the scan as a whole puts out: its tokens in order, then the error that ended
it if one did, and nothing after that.
-/

namespace ModalLexer.Stream

open Calls (Hands outcomes)

/-- A stream that has handed out nothing. -/
def start (stack : StateStack) : Stream :=
  { scan := { stack } }

/-- What a scan hands out from where it stands. -/
def scanItems (t : Table) (text : String) (s : Scan) : List (Except Error Token) :=
  outcomes (t.run text t.lexOuterGroup s).tokens (t.run text t.lexOuterGroup s).error

/-- What is still to be handed out. -/
def rest (t : Table) (text : String) (s : Stream) : List (Except Error Token) :=
  s.pending.map .ok ++ if s.finished then [] else scanItems t text s.scan

/-- The scan of a stream is in bounds, as long as it goes on. -/
def InBounds (t : Table) (text : String) (s : Stream) : Prop :=
  s.finished = false → t.InBounds text s.scan

variable {t : Table} {text : String}

theorem advance_hands (ht : t.Sound) {fuel : Nat} {s : Scan} (hs : t.InBounds text s)
    (hfuel : t.budget text s < fuel) :
    Hands (rest t text) (InBounds t text) (scanItems t text s) (advance t text fuel s) := by
  have hlex := Table.lexOuterGroup_tiles ht
  induction fuel generalizing s with
  | zero => omega
  | succ fuel ih =>
      unfold scanItems
      by_cases hend : text.utf8ByteSize ≤ s.cursor
      · rw [Table.run_end hend]
        simp only [advance, hend, ↓reduceIte]
        exact ⟨rfl, fun _ => rfl, (fun h => by cases h)⟩
      · have hlt : s.cursor < text.utf8ByteSize := by omega
        simp only [advance, hend, ↓reduceIte]
        rcases hstep : t.step text t.lexOuterGroup s with ⟨s', tokens, _ | e⟩
        · have hp := Table.step_progress ht hlex hs.boundary hlt hstep
          rw [Table.run_step ht hlex hs hlt hstep]
          cases tokens with
          | nil => exact ih (hp.inBounds hs) (by have := hp.budget_lt hs hlt; omega)
          | cons token tokens =>
              refine ⟨?_, (fun h => by cases h), fun _ => hp.inBounds hs⟩
              simp [Table.Scanned.after, rest, scanItems, outcomes]
        · -- Behind the error nothing is queued.
          obtain ⟨_, _, rfl⟩ := Table.step_failed hstep
          rw [Table.run_error hlt (congrArg Stepped.error hstep)]
          exact ⟨rfl, (fun h => by cases h), (fun h => by cases h)⟩

theorem next_hands (ht : t.Sound) (s : Stream) (hs : s.InBounds t text) :
    Hands (rest t text) (InBounds t text) (rest t text s) (next t text s) := by
  unfold next
  split
  · rename_i token tokens hp
    exact ⟨by simp [rest, hp], (fun h => by cases h), hs⟩
  · rename_i hp
    split
    · rename_i hf
      exact ⟨by simp, fun _ => by simp [rest, hp, hf], hs⟩
    · rename_i hf
      have hrest : rest t text s = scanItems t text s.scan := by simp [rest, hp, hf]
      rw [hrest]
      have hfuel := Nat.lt_succ_of_le (Table.budget_le_stepBound t text s.scan)
      exact advance_hands ht (hs (Bool.eq_false_iff.mpr hf)) hfuel

/-- A stream hands out what the scan of the text puts out. -/
theorem item_eq_scanFrom (ht : t.Sound) (text : String) (stack : StateStack) (n : Nat) :
    Calls.item (next t text) (start stack) n =
      (outcomes (t.scanFrom text stack).tokens (t.scanFrom text stack).error)[n]? := by
  have hs : InBounds t text (start stack) := fun _ => Table.inBounds_start t text stack
  exact Calls.item_eq (next_hands ht) hs n

/-- Where no call hands out an error, the tokens that are handed out tile the text: each starts where the one
before it ended, from the start of the text to its end, and each holds what stands at its place. This is so
from every stack, and however deep groups nest. -/
theorem tokens_cover {d : Declaration} {t : Table} (built : d.build = .ok t) (text : String)
    (stack : StateStack) (clean : ∀ n e, Calls.item (next t text) (start stack) n ≠ some (.error e)) :
    ∃ tokens, (∀ n, Calls.item (next t text) (start stack) n = (tokens[n]?).map .ok) ∧
      Tiles text 0 tokens text.utf8ByteSize ∧ uncovered? text tokens = none := by
  have ht := d.build_sound built
  have hlex := Table.lexOuterGroup_tiles ht
  have hs := Table.inBounds_start t text stack
  have herror : (t.scanFrom text stack).error = none :=
    Calls.error_eq_none fun n e => by rw [← item_eq_scanFrom ht]; exact clean n e
  have htiles : Tiles text 0 (t.scanFrom text stack).tokens text.utf8ByteSize := by
    rw [← Table.run_final ht hlex hs herror]
    exact Table.run_tiles ht hlex hs
  refine ⟨(t.scanFrom text stack).tokens, fun n => ?_, htiles, uncovered?_eq_none_iff.mpr htiles⟩
  rw [item_eq_scanFrom ht, herror, Calls.getElem?_outcomes_none]

/-- Names in brackets, read by groups, and a state that is left where no other rule of it matches. -/
def bracketed : Declaration where
  states := [
    ("root", [
      .rule { pattern := { text := "<(x*)(y)>" }, emission := .byGroups [.lex "inner", .kind ⟨"Name"⟩] },
      .rule { pattern := { text := "-" }, emission := .token ⟨"Operator"⟩, transition := .push ["inner"] }]),
    ("inner", [
      .rule { pattern := { text := "x" }, emission := .token ⟨"Number"⟩ },
      .rule (.defaultTo (.pop 1))])]

theorem bracketed_scan : ∃ t stack, bracketed.build = .ok t ∧ t.initialStack ["inner"] = .ok stack ∧
    (t.scanFrom "<xxy>-xé\n" stack).error = none := by
  have h : (bracketed.build.toOption.bind fun t => (t.initialStack ["inner"]).toOption.map fun s =>
      (t.scanFrom "<xxy>-xé\n" s).error) = some none := by decide +kernel
  obtain ⟨t, hb, h⟩ := Option.bind_eq_some_iff.mp h
  obtain ⟨stack, hi, he⟩ := Option.map_eq_some_iff.mp h
  exact ⟨t, stack, toOption_eq_some.mp hb, toOption_eq_some.mp hi, he⟩

theorem tokens_cover_bracketed : ∃ t stack tokens, bracketed.build = .ok t ∧
    t.initialStack ["inner"] = .ok stack ∧
    (∀ n, Calls.item (next t "<xxy>-xé\n") (start stack) n = (tokens[n]?).map .ok) ∧
    Tiles "<xxy>-xé\n" 0 tokens 10 := by
  obtain ⟨t, stack, hb, hi, he⟩ := bracketed_scan
  have clean : ∀ n e, Calls.item (next t "<xxy>-xé\n") (start stack) n ≠ some (.error e) := by
    intro n e
    rw [item_eq_scanFrom (bracketed.build_sound hb), he, Calls.getElem?_outcomes_none]
    simp
  obtain ⟨tokens, hitems, htiles, _⟩ := tokens_cover hb "<xxy>-xé\n" stack clean
  exact ⟨t, stack, tokens, hb, hi, hitems, htiles⟩

end ModalLexer.Stream
