import ModalLexer.Proofs.Calls
import ModalLexer.Proofs.Session.Splice
import ModalLexer.Proofs.Table.Rules

/-!
A transcript item by item: the calls hand out what reading it as a whole puts out. In every state on the way the
region that waits reads like the transcript, so no token is ever out of place, and the tokens cover the
transcript unless something else goes wrong.
-/

namespace ModalLexer.Session

open Text
open Calls (Hands outcomes)

variable {s : Session} {text : String} {lines : List Span} {region : Option Region}

/-! ## Items -/

/-- What is handed out of the lines, where a region waits. -/
def itemsFrom (s : Session) (text : String) (region : Option Region) (lines : List Span) :
    List (Except Error Token) :=
  outcomes (s.spliceFrom text region [] lines).tokens (s.spliceFrom text region [] lines).error

/-- What is still to be handed out. -/
def rest (s : Session) (text : String) (r : Reading) : List (Except Error Token) :=
  r.pending.map .ok ++ if r.finished then [] else s.itemsFrom text r.region r.lines

theorem advance_hands (s : Session) (text : String) (region : Option Region) (lines : List Span) :
    Hands (s.rest text) (fun _ => True) (s.itemsFrom text region lines) (s.advance text region lines) := by
  induction lines generalizing region with
  | nil =>
      unfold itemsFrom advance spliceFrom
      cases s.flush text region with
      | error e => exact ⟨rfl, (fun h => by cases h), trivial⟩
      | ok tokens =>
          cases tokens with
          | nil => exact ⟨rfl, fun _ => rfl, trivial⟩
          | cons t ts => exact ⟨by simp [outcomes, rest], (fun h => by cases h), trivial⟩
  | cons span lines ih =>
      unfold itemsFrom advance spliceFrom
      cases hread : s.readLine text region span with
      | mk result region' =>
          cases result with
          | error e => exact ⟨rfl, (fun h => by cases h), trivial⟩
          | ok tokens =>
              simp only [List.append_nil]
              rw [spliceFrom_done, List.reverse_reverse]
              cases tokens with
              | nil => exact ih region'
              | cons t ts => exact ⟨by simp [outcomes, rest, itemsFrom], (fun h => by cases h), trivial⟩

theorem next_hands (s : Session) (text : String) (r : Reading) :
    Hands (s.rest text) (fun _ => True) (s.rest text r) (s.next text r) := by
  unfold next
  split
  · rename_i t ts hp
    exact ⟨by simp [rest, hp], (fun h => by cases h), trivial⟩
  · rename_i hp
    split
    · rename_i hf
      exact ⟨by simp, fun _ => by simp [rest, hp, hf], trivial⟩
    · rename_i hf
      have hrest : s.rest text r = s.itemsFrom text r.region r.lines := by simp [rest, hp, hf]
      rw [hrest]
      exact advance_hands s text r.region r.lines

/-- The calls hand out what reading the transcript puts out. -/
theorem item_eq_splice (s : Session) (text : String) (n : Nat) :
    Calls.item (s.next text) (Reading.start text) n =
      (outcomes (s.splice text).tokens (s.splice text).error)[n]? :=
  Calls.item_eq (fun r _ => next_hands s text r) trivial n

/-! ## States -/

/-- The states of reading without an error: the lines that are left, and the region that waits. -/
inductive Reaches (s : Session) (text : String) : List Span → Option Region → Prop
  | start : Reaches s text (lineSpans text) none
  | read {span : Span} {lines : List Span} {region region' : Option Region} {tokens : List Token}
    (before : Reaches s text (span :: lines) region) (read : s.readLine text region span = (.ok tokens, region')) :
    Reaches s text lines region'
  | finish {region : Option Region} {tokens : List Token} (before : Reaches s text [] region)
    (settled : s.flush text region = .ok tokens) : Reaches s text [] none

/-- How far a transcript has been read. -/
def readTo (text : String) : List Span → Nat
  | [] => text.utf8ByteSize
  | span :: _ => span.start

theorem reaches_waits (h : s.Reaches text lines region) :
    ∃ run, Waits s text run (readTo text lines) region ∧ isBoundary text (readTo text lines) = true ∧
      Adjoin text (readTo text lines) lines text.utf8ByteSize := by
  have hto : ∀ {stop lines}, Adjoin text stop lines text.utf8ByteSize → readTo text lines = stop := by
    intro stop lines h
    cases lines with
    | nil => exact h.symm
    | cons span lines => exact h.1
  induction h with
  | start =>
      rw [hto (lineSpans_adjoin text)]
      exact ⟨[], .idle 0, isBoundary_zero text, lineSpans_adjoin text⟩
  | read _ read ih =>
      obtain ⟨run, hwaits, hb, hl⟩ := ih
      obtain ⟨hstart, hlt, hb', hl⟩ := hl
      rw [hto hl]
      rcases readLine_ok read with ⟨hprompt, _, rfl⟩ | ⟨_, rfl, _⟩
      · exact ⟨_, hwaits.add hb hprompt ⟨hstart, hlt, hb', rfl⟩, hb', hl⟩
      · exact ⟨[], .idle _, hb', hl⟩
  | finish _ _ ih =>
      obtain ⟨_, _, hb, hl⟩ := ih
      exact ⟨[], .idle _, hb, hl⟩

theorem advance_reaches (h : s.Reaches text lines region)
    (hok : ∀ e, (s.advance text region lines).1 ≠ some (.error e)) :
    s.Reaches text (s.advance text region lines).2.lines (s.advance text region lines).2.region := by
  induction lines generalizing region with
  | nil =>
      unfold advance at hok ⊢
      split at hok
      · exact absurd rfl (hok _)
      · rename_i hs; exact .finish h hs
      · rename_i hs; exact .finish h hs
  | cons span lines ih =>
      unfold advance at hok ⊢
      split at hok
      · exact absurd rfl (hok _)
      · rename_i hread; exact .read h hread
      · rename_i hread; exact ih (.read h hread) hok

/-- As long as no call has handed out an error, the state is one of those. -/
theorem after_reaches (s : Session) (text : String) (n : Nat)
    (hok : ∀ k < n, ∀ e, Calls.item (s.next text) (Reading.start text) k ≠ some (.error e)) :
    s.Reaches text (Calls.after (s.next text) (Reading.start text) n).lines
      (Calls.after (s.next text) (Reading.start text) n).region := by
  induction n with
  | zero => exact .start
  | succ n ih =>
      have hbefore := ih fun k hk => hok k (Nat.lt_succ_of_lt hk)
      have hitem := hok n (Nat.lt_succ_self n)
      rw [Calls.item] at hitem
      rw [Calls.after_succ]
      unfold next at hitem ⊢
      split at hitem
      · exact hbefore
      · split at hitem
        · rename_i hf; rw [if_pos hf]; exact hbefore
        · rename_i hf; rw [if_neg hf]; exact advance_reaches hbefore hitem

/-! ## Transcripts -/

theorem ofTable_sound {t : Table} {config : SessionConfig} (h : ofTable t config = .ok s) :
    s.table = t ∧ s.config = config ∧ s.prompt.Sound := by
  obtain ⟨prompt, hprompt, h⟩ := bind_eq_ok.mp h
  cases h
  exact ⟨rfl, rfl, Pattern.compile_sound (mapError_eq_ok.mp hprompt)⟩

/-- A region that waits, in whatever state the lines leave it, reads like the transcript from its start to the
end of the last line that was read; every state between two calls is such a state, as long as no error was handed
out. So no call finds a token out of place, and without any error the tokens tile the transcript. -/
theorem transcript_cover {d : Declaration} {t : Table} (built : d.build = .ok t) {config : SessionConfig}
    (opened : ofTable t config = .ok s) (text : String) :
    (∀ lines r, s.Reaches text lines (some r) → r.Holds text (readTo text lines)) ∧
    (∀ n, (∀ k < n, ∀ e, Calls.item (s.next text) (Reading.start text) k ≠ some (.error e)) →
      s.Reaches text (Calls.after (s.next text) (Reading.start text) n).lines
        (Calls.after (s.next text) (Reading.start text) n).region) ∧
    (∀ n pos, Calls.item (s.next text) (Reading.start text) n ≠ some (.error (.misaligned pos))) ∧
    ((∀ n e, Calls.item (s.next text) (Reading.start text) n ≠ some (.error e)) →
      ∃ tokens, (∀ n, Calls.item (s.next text) (Reading.start text) n = (tokens[n]?).map .ok) ∧
        Tiles text 0 tokens text.utf8ByteSize ∧ uncovered? text tokens = none) := by
  obtain ⟨rfl, _, hp⟩ := ofTable_sound opened
  have ht := d.build_sound built
  refine ⟨?_, after_reaches s text, ?_, ?_⟩
  · intro lines r h
    obtain ⟨run, hwaits, _⟩ := reaches_waits h
    cases hwaits with
    | region gathered => exact gathered.holds hp
  · intro n pos h
    rw [item_eq_splice] at h
    have he := Calls.getElem?_outcomes_error h
    have hcause := spliceFrom_error ht hp (isBoundary_zero text) (.idle 0) (lineSpans_adjoin text) he
    rcases hcause with hscan | hover | ⟨_, hprompt⟩
    · cases hscan
    · cases hover
    · cases hprompt
  · intro clean
    have he : (s.splice text).error = none :=
      Calls.error_eq_none fun n e => by rw [← item_eq_splice]; exact clean n e
    have htiles := splice_tiles ht hp he
    refine ⟨_, fun n => ?_, htiles, uncovered?_eq_none_iff.mpr htiles⟩
    rw [item_eq_splice, he, Calls.getElem?_outcomes_none]

/-- A table with one token that goes over the end of a line. -/
def pairs : Declaration where
  states := [("root", [.rule { pattern := { text := "a\nb" }, emission := .token ⟨"Name"⟩ }])]

theorem pairs_splice : ∃ t s, pairs.build = .ok t ∧ ofTable t { prompt := { text := ">" } } = .ok s ∧
    (s.splice ">a\n>b\nout\n>\n>é").error = none ∧
    [⟨0, 3⟩, ⟨3, 6⟩, ⟨6, 10⟩].map (fun span => s.promptLength? (slice ">a\n>b\nout\n>\n>é" span)) =
      [.ok (some 1), .ok (some 1), .ok none] := by
  have h : (pairs.build.toOption.bind fun t => (ofTable t { prompt := { text := ">" } }).toOption.map fun s =>
      ((s.splice ">a\n>b\nout\n>\n>é").error,
        [⟨0, 3⟩, ⟨3, 6⟩, ⟨6, 10⟩].map fun span => s.promptLength? (slice ">a\n>b\nout\n>\n>é" span))) =
      some (none, [.ok (some 1), .ok (some 1), .ok none]) := by decide +kernel
  obtain ⟨t, hb, h⟩ := Option.bind_eq_some_iff.mp h
  obtain ⟨s, ho, h⟩ := Option.map_eq_some_iff.mp h
  exact ⟨t, s, toOption_eq_some.mp hb, toOption_eq_some.mp ho, Prod.mk.inj h⟩

theorem transcript_cover_pairs : ∃ t s tokens, pairs.build = .ok t ∧
    ofTable t { prompt := { text := ">" } } = .ok s ∧
    (∀ n, Calls.item (s.next ">a\n>b\nout\n>\n>é") (Reading.start ">a\n>b\nout\n>\n>é") n =
      (tokens[n]?).map .ok) ∧ Tiles ">a\n>b\nout\n>\n>é" 0 tokens 15 := by
  obtain ⟨t, s, hb, ho, he, _⟩ := pairs_splice
  obtain ⟨_, _, _, hcover⟩ := transcript_cover hb ho ">a\n>b\nout\n>\n>é"
  obtain ⟨tokens, hitems, htiles, _⟩ := hcover fun n e => by
    rw [item_eq_splice, he, Calls.getElem?_outcomes_none]
    simp
  exact ⟨t, s, tokens, hb, ho, hitems, htiles⟩

end ModalLexer.Session
