import ModalLexer.Proofs.Scan.Ending
import ModalLexer.Proofs.Session.Reading

/-!
Errors come last. What is handed out of a text or of a transcript is tokens, then at most one error, then nothing
more. The tokens before an error tile the text up to where the step that failed began, and those of a transcript
tile it up to the prompt lines that wait or, if none do, to the line that cannot be read.
-/

namespace ModalLexer

open Text
open Calls (outcomes)

namespace Session

variable {s : Session} {text : String} {run lines : List Span} {span : Span} {region : Option Region} {stop : Nat}
  {e : Error}

/-! ## Where reading fails -/

/-- Reading fails, and all before an offset is settled then: before the region that waits or, where none does,
before the line that is read. -/
inductive Fails (s : Session) (text : String) (e : Error) : (settled : Nat) → Prop
  | line {span : Span} {lines : List Span} (reached : s.Reaches text (span :: lines) none)
      (failed : (s.readLine text none span).1 = .error e) : Fails s text e span.start
  | waiting {span : Span} {lines : List Span} {r : Region} (reached : s.Reaches text (span :: lines) (some r))
      (failed : (s.readLine text (some r) span).1 = .error e) : Fails s text e r.start
  | finish {r : Region} (reached : s.Reaches text [] (some r)) (failed : s.flush text (some r) = .error e) :
      Fails s text e r.start

/-- Up to where a transcript is settled, once the lines before the given ones have been read. -/
def settledTo (text : String) (lines : List Span) : Option Region → Nat
  | some r => r.start
  | none => readTo text lines

theorem flush_tiles (ht : s.table.Sound) (hp : s.prompt.Sound) (h : Waits s text run stop region)
    (hstop : stop = readTo text lines) {settled : List Token} (hs : s.flush text region = .ok settled) :
    Tiles text (settledTo text lines region) settled stop := by
  cases h with
  | idle => cases hs; exact hstop.symm
  | region gathered =>
      rcases flush_region ht hp gathered with ⟨nested, _, htiles, hok⟩ | ⟨e, herr, _⟩
      · rw [hok] at hs
        cases hs
        exact merged_tiles htiles gathered.fit (gathered.prompts_ne_empty hp) (gathered.woven hp)
      · rw [herr] at hs; cases hs

/-- The tokens that a line settles tile the transcript from where it was settled before to where it is then. -/
theorem readLine_tiles (ht : s.table.Sound) (hp : s.prompt.Sound) (h : s.Reaches text (span :: lines) region)
    {tokens : List Token} {region' : Option Region} (hread : s.readLine text region span = (.ok tokens, region')) :
    Tiles text (settledTo text (span :: lines) region) tokens (settledTo text lines region') := by
  obtain ⟨run, hwaits, hb, hstart, hlt, hb', hl⟩ := reaches_waits h
  have hnext : readTo text lines = span.stop := by
    cases lines with
    | nil => exact hl.symm
    | cons span' lines => exact hl.1
  rcases readLine_ok hread with ⟨_, rfl, rfl⟩ | ⟨_, rfl, settled, hs, rfl⟩
  · -- The line waits with those before it, or begins to wait.
    cases region with
    | none => exact rfl
    | some r => exact rfl
  · have hline := slice?_slice hb hb' (Nat.le_of_lt hlt)
    refine (flush_tiles ht hp hwaits rfl hs).append ?_
    show Tiles text span.start _ (readTo text lines)
    rw [hnext]
    exact .single _ hline hlt

/-- Where reading fails, the tokens so far tile what is settled. -/
theorem spliceFrom_fails (ht : s.table.Sound) (hp : s.prompt.Sound) (h : s.Reaches text lines region)
    (he : (s.spliceFrom text region [] lines).error = some e) : ∃ settled, s.Fails text e settled ∧
      Tiles text (settledTo text lines region) (s.spliceFrom text region [] lines).tokens settled := by
  induction lines generalizing region with
  | nil =>
      unfold spliceFrom at he ⊢
      split at he
      · rename_i hs
        cases he
        cases region with
        | none => cases hs
        | some r => exact ⟨r.start, .finish h hs, rfl⟩
      · cases he
  | cons span lines ih =>
      unfold spliceFrom at he ⊢
      split at he
      · rename_i region' hread
        cases he
        have hfailed : (s.readLine text region span).1 = .error e := by rw [hread]
        cases region with
        | none => exact ⟨span.start, .line h hfailed, rfl⟩
        | some r => exact ⟨r.start, .waiting h hfailed, rfl⟩
      · rename_i tokens region' hread
        rw [spliceFrom_done] at he ⊢
        obtain ⟨settled, hfails, htiles⟩ := ih (.read h hread) he
        refine ⟨settled, hfails, ?_⟩
        simp only [List.append_nil, List.reverse_reverse]
        exact (readLine_tiles ht hp h hread).append htiles

theorem settledTo_start (text : String) : settledTo text (lineSpans text) none = 0 := by
  have hl := lineSpans_adjoin text
  cases hlines : lineSpans text with
  | nil => rw [hlines] at hl; exact hl.symm
  | cons span lines => rw [hlines] at hl; exact hl.1

end Session

/-- What the calls hand out, of a text from any stack as of a transcript, is tokens, then at most one error, and then
nothing however often they are repeated. A step that fails, whether of itself or deep in the scan of a group, leaves
the cursor and the stack where they were and queues no token. So after an error a stream stands with the cursor and the
stack of the place from which the step failed and nothing queued, and the tokens before the error tile the text up to
the cursor. The tokens of a transcript before an error tile it up to the prompt lines that waited or, if none did, up to
the line that was read. -/
theorem error_after_tokens {d : Declaration} {t : Table} (built : d.build = .ok t) (text : String) :
    (∀ stack, ∃ tokens error,
      (∀ n, Calls.item (Stream.next t text) (Stream.start stack) n = (outcomes tokens error)[n]?) ∧
      ∀ e, error = some e → ∃ place, ∀ n > tokens.length,
        Stream.StoppedBy t text stack tokens e place (Calls.after (Stream.next t text) (Stream.start stack) n)) ∧
    (∀ lexGroup s e, (t.step text lexGroup s).error = some e → Table.Still s (t.step text lexGroup s)) ∧
    (∀ config s, Session.ofTable t config = .ok s → ∃ tokens error,
      (∀ n, Calls.item (s.next text) (Session.Reading.start text) n = (outcomes tokens error)[n]?) ∧
      ∀ e, error = some e → ∃ settled, s.Fails text e settled ∧ Tiles text 0 tokens settled) := by
  have ht := d.build_sound built
  refine ⟨fun stack => ?_, fun lexGroup s e h => Table.step_still h, ?_⟩
  · refine ⟨_, _, Stream.item_eq_scanFrom ht text stack, fun e he => ?_⟩
    obtain ⟨place, _, hstopped⟩ := Stream.after_stopped ht text stack he
    exact ⟨place, hstopped⟩
  · intro config s opened
    obtain ⟨rfl, _, hp⟩ := Session.ofTable_sound opened
    refine ⟨_, _, s.item_eq_splice text, ?_⟩
    intro e he
    rw [← Session.settledTo_start text]
    exact Session.spliceFrom_fails ht hp .start he

/-- A match that falls into a name and a group; the group cannot be scanned to its end, though it has tokens before the
error. -/
def fragile : Declaration where
  states := [
    ("root", [.rule { pattern := { text := "(a)<(x*y)>" }, emission := .byGroups [.kind ⟨"Name"⟩, .lex "inner"] }]),
    ("inner", [
      .rule { pattern := { text := "x" }, emission := .token ⟨"Number"⟩ },
      .rule { pattern := { text := "z*" }, emission := .token ⟨"Name"⟩ }])]

theorem error_after_tokens_fragile : ∃ t s tokens place lines settled, fragile.build = .ok t ∧
    Session.ofTable t { prompt := { text := ">" } } = .ok s ∧
    (t.stateId? "inner").map (t.lexOuterGroup "xy") =
      some ⟨[⟨0, ⟨"Number"⟩, "x"⟩], some (.zeroWidthMatch "inner" 1 1)⟩ ∧
    (∀ n, Calls.item (Stream.next t "ba<xy>") (Stream.start ⟨t.root, []⟩) n =
      (outcomes tokens (some (.zeroWidthMatch "inner" 1 1)))[n]?) ∧
    (∀ n > tokens.length, Stream.StoppedBy t "ba<xy>" ⟨t.root, []⟩ tokens (.zeroWidthMatch "inner" 1 1) place
      (Calls.after (Stream.next t "ba<xy>") (Stream.start ⟨t.root, []⟩) n)) ∧
    (∀ n, Calls.item (s.next "out\n>b\n>a<xy>") (Session.Reading.start "out\n>b\n>a<xy>") n =
      (outcomes lines (some (.zeroWidthMatch "inner" 1 1)))[n]?) ∧
    s.Fails "out\n>b\n>a<xy>" (.zeroWidthMatch "inner" 1 1) settled ∧ Tiles "out\n>b\n>a<xy>" 0 lines settled := by
  have h : (fragile.build.toOption.bind fun t =>
      (Session.ofTable t { prompt := { text := ">" } }).toOption.map fun s =>
        ((t.stateId? "inner").map (t.lexOuterGroup "xy"), (t.scanFrom "ba<xy>" ⟨t.root, []⟩).error,
          (s.splice "out\n>b\n>a<xy>").error)) =
      some (some ⟨[⟨0, ⟨"Number"⟩, "x"⟩], some (.zeroWidthMatch "inner" 1 1)⟩,
        some (.zeroWidthMatch "inner" 1 1), some (.zeroWidthMatch "inner" 1 1)) := by decide +kernel
  obtain ⟨t, hb, h⟩ := Option.bind_eq_some_iff.mp h
  obtain ⟨s, ho, h⟩ := Option.map_eq_some_iff.mp h
  obtain ⟨hinner, h⟩ := Prod.mk.inj h
  obtain ⟨hscan, hsplice⟩ := Prod.mk.inj h
  have hb := toOption_eq_some.mp hb
  have ho := toOption_eq_some.mp ho
  obtain ⟨tokens, error, hitems, hstopped⟩ := (error_after_tokens hb "ba<xy>").1 ⟨t.root, []⟩
  obtain ⟨lines, error', hitems', hfails⟩ := (error_after_tokens hb "out\n>b\n>a<xy>").2.2 _ s ho
  have herror : error = some (.zeroWidthMatch "inner" 1 1) := by
    obtain ⟨n, hn⟩ := (Stream.exists_item_error (fragile.build_sound hb) _ _).mpr hscan
    rw [hitems] at hn
    exact Calls.getElem?_outcomes_error hn
  have herror' : error' = some (.zeroWidthMatch "inner" 1 1) := by
    obtain ⟨n, hn⟩ := Calls.exists_outcomes_error.mpr hsplice
    rw [← s.item_eq_splice, hitems'] at hn
    exact Calls.getElem?_outcomes_error hn
  subst herror herror'
  obtain ⟨place, hstopped⟩ := hstopped _ rfl
  obtain ⟨settled, hsettled, htiles⟩ := hfails _ rfl
  exact ⟨t, s, tokens, place, lines, settled, hb, ho, hinner, hitems, hstopped, hitems', hsettled, htiles⟩

end ModalLexer
