import ModalLexer.Proofs.Scan.Relabelling
import ModalLexer.Proofs.Session.Reading

/-!
Sessions hand kinds on as scans do. A session with other kinds in the place of its kinds, those of its table and those
of prompts and output, reads a transcript in the same way, but for the kinds of the tokens.
-/

namespace ModalLexer

open Text

def SessionConfig.mapKinds (f : Kind → Kind) (c : SessionConfig) : SessionConfig :=
  { c with
    promptKind := f c.promptKind
    outputKind := f c.outputKind
    tracebackKind := f c.tracebackKind }

theorem SessionConfig.lineKind_mapKinds (f : Kind → Kind) (c : SessionConfig) (line : String) :
    (c.mapKinds f).lineKind line = f (c.lineKind line) := by
  unfold lineKind
  simp only [mapKinds]
  split
  · split
    · rfl
    · rfl
  · rfl

namespace Session

def Region.mapKinds (f : Kind → Kind) (r : Region) : Region :=
  { r with prompts := r.prompts.map (·.map (Token.mapKind f)) }

/-- What is being read, with other kinds in the place of kinds. -/
def Reading.mapKinds (f : Kind → Kind) (r : Reading) : Reading :=
  { r with region := r.region.map (·.mapKinds f), pending := r.pending.map (Token.mapKind f) }

/-- The second session has the same prompts, and other kinds in the place of kinds. -/
structure Relabelled (f : Kind → Kind) (s s' : Session) : Prop where
  tokenize : ∀ code, s'.table.tokenize code = (s.table.tokenize code).map (List.map (Token.mapKind f))
  prompt : s'.prompt = s.prompt
  config : s'.config = s.config.mapKinds f

theorem Region.mapKinds_add (f : Kind → Kind) (r : Region) (prompt : Token) (code : String) :
    (r.add prompt code).mapKinds f = (r.mapKinds f).add (prompt.mapKind f) code := by
  simp [Region.mapKinds, Region.add, Insertion.map]

namespace Relabelled

variable {f : Kind → Kind} {s s' : Session}

theorem promptLength? (h : s.Relabelled f s') (line : String) : s'.promptLength? line = s.promptLength? line := by
  unfold Session.promptLength?
  rw [h.prompt]

theorem flush (h : s.Relabelled f s') (text : String) (region : Option Region) :
    s'.flush text (region.map (·.mapKinds f)) = (s.flush text region).map (List.map (Token.mapKind f)) := by
  cases region with
  | none => rfl
  | some r =>
      simp only [Option.map_some, Session.flush, Region.mapKinds, h.tokenize]
      cases s.table.tokenize r.code with
      | error e => rfl
      | ok nested =>
          have hmoves := mergeMoves_map (f := f) (g := Token.mapKind f) (fun _ => ⟨rfl, rfl⟩) nested r.prompts
          show merge text r.start (r.prompts.map (·.map (Token.mapKind f))) (nested.map (Token.mapKind f)) = _
          rw [merge, hmoves, place_mapKind]
          rfl

theorem readLine (h : s.Relabelled f s') (text : String) (region : Option Region) (span : Span) :
    s'.readLine text (region.map (·.mapKinds f)) span =
      ((s.readLine text region span).1.map (List.map (Token.mapKind f)),
        (s.readLine text region span).2.map (·.mapKinds f)) := by
  simp only [Session.readLine, h.promptLength?, h.flush, h.config, SessionConfig.lineKind_mapKinds]
  cases s.promptLength? (slice text span) with
  | error e => rfl
  | ok found =>
      cases found with
      | some n =>
          have hwaits : (region.map (·.mapKinds f)).getD { start := span.start } =
              (region.getD { start := span.start }).mapKinds f := by cases region <;> rfl
          simp only [hwaits, Option.map_some, Region.mapKinds_add]
          rfl
      | none =>
          cases s.flush text region with
          | error e => rfl
          | ok settled =>
              simp only [Except.map, List.map_append]
              rfl

theorem advance (h : s.Relabelled f s') (text : String) (region : Option Region) (spans : List Span) :
    s'.advance text (region.map (·.mapKinds f)) spans =
      ((s.advance text region spans).1.map (·.map (Token.mapKind f)), (s.advance text region spans).2.mapKinds f) := by
  induction spans generalizing region with
  | nil =>
      unfold Session.advance
      rw [h.flush]
      rcases s.flush text region with e | _ | ⟨t, ts⟩
      · rfl
      · rfl
      · rfl
  | cons span spans ih =>
      unfold Session.advance
      rw [h.readLine]
      rcases s.readLine text region span with ⟨e | _ | ⟨t, ts⟩, region'⟩
      · rfl
      · exact ih region'
      · rfl

theorem next (h : s.Relabelled f s') (text : String) (r : Reading) :
    s'.next text (r.mapKinds f) =
      ((s.next text r).1.map (·.map (Token.mapKind f)), (s.next text r).2.mapKinds f) := by
  obtain ⟨lines, region, pending, finished⟩ := r
  cases pending with
  | cons t ts => rfl
  | nil =>
      cases finished with
      | true => rfl
      | false => exact h.advance text region lines

/-- The calls hand out the same tokens but for their kinds, and leave the same lines to be read. -/
theorem calls (h : s.Relabelled f s') (text : String) (n : Nat) :
    Calls.after (s'.next text) (Reading.start text) n =
        (Calls.after (s.next text) (Reading.start text) n).mapKinds f ∧
      Calls.item (s'.next text) (Reading.start text) n =
        (Calls.item (s.next text) (Reading.start text) n).map (·.map (Token.mapKind f)) :=
  Calls.calls_map (h.next text) (Reading.start text) n

end Relabelled

theorem relabelled_of_build {f : Kind → Kind} {d : Declaration} {t t' : Table} (hb : d.build = .ok t)
    (hb' : (d.mapKinds f).build = .ok t') {config : SessionConfig} {s s' : Session} (ho : ofTable t config = .ok s)
    (ho' : ofTable t' (config.mapKinds f) = .ok s') : s.Relabelled f s' := by
  obtain ⟨prompt, hprompt, ho⟩ := bind_eq_ok.mp ho
  obtain ⟨prompt', hprompt', ho'⟩ := bind_eq_ok.mp ho'
  cases ho
  cases ho'
  exact ⟨Table.tokenize_mapKinds hb hb', Except.ok.inj (hprompt'.symm.trans hprompt), rfl⟩

theorem ofTable_mapKinds_iff {f : Kind → Kind} {t t' : Table} {config : SessionConfig} :
    (∃ s, ofTable t config = .ok s) ↔ ∃ s', ofTable t' (config.mapKinds f) = .ok s' := by
  unfold ofTable
  simp only [bind_eq_ok, SessionConfig.mapKinds]
  constructor
  · rintro ⟨_, prompt, hprompt, _⟩
    exact ⟨_, prompt, hprompt, rfl⟩
  · rintro ⟨_, prompt, hprompt, _⟩
    exact ⟨_, prompt, hprompt, rfl⟩

end Session

/-- Other kinds in a declaration, be they the same for many, are other kinds in the tokens, and nothing else: it can be
built if it could be, the same initial stacks are refused, the items of a scan are the same but for the kinds, and so
are the place and the names on the stack after every call. With the kinds of prompts and output it is the same with
sessions. -/
theorem scans_mapKinds (d : Declaration) (f : Kind → Kind) :
    ((∃ t, d.build = .ok t) ↔ ∃ t', (d.mapKinds f).build = .ok t') ∧
    ∀ t t', d.build = .ok t → (d.mapKinds f).build = .ok t' →
      (∀ names, t'.initialStack names = t.initialStack names) ∧
      (∀ text names stack, t.initialStack names = .ok stack → ∀ n,
        Calls.item (Stream.next t' text) (Stream.start stack) n =
          (Calls.item (Stream.next t text) (Stream.start stack) n).map (·.map (Token.mapKind f)) ∧
        (Calls.after (Stream.next t' text) (Stream.start stack) n).scan.cursor =
          (Calls.after (Stream.next t text) (Stream.start stack) n).scan.cursor ∧
        (Calls.after (Stream.next t' text) (Stream.start stack) n).scan.stack.toList.map t'.name =
          (Calls.after (Stream.next t text) (Stream.start stack) n).scan.stack.toList.map t.name) ∧
      ∀ config, ((∃ s, Session.ofTable t config = .ok s) ↔
          ∃ s', Session.ofTable t' (config.mapKinds f) = .ok s') ∧
        ∀ s s', Session.ofTable t config = .ok s → Session.ofTable t' (config.mapKinds f) = .ok s' → ∀ text n,
          Calls.after (s'.next text) (Session.Reading.start text) n =
            (Calls.after (s.next text) (Session.Reading.start text) n).mapKinds f ∧
          Calls.item (s'.next text) (Session.Reading.start text) n =
            (Calls.item (s.next text) (Session.Reading.start text) n).map (·.map (Token.mapKind f)) := by
  refine ⟨Declaration.build_mapKinds_iff, fun t t' hb hb' => ⟨Table.initialStack_mapKinds hb hb', ?_, ?_⟩⟩
  · intro text names stack hstack n
    exact Stream.calls_mapKinds hb hb' text hstack n
  · refine fun config => ⟨Session.ofTable_mapKinds_iff, fun s s' ho ho' text n => ?_⟩
    exact (Session.relabelled_of_build hb hb' ho ho').calls text n

theorem scans_mapKinds_sharing : ∃ t t' s s' stack, Declaration.build { states := Stream.sharing } = .ok t ∧
    Declaration.build (.mapKinds (fun _ => .text) { states := Stream.sharing }) = .ok t' ∧
    Session.ofTable t { prompt := { text := ">" } } = .ok s ∧
    Session.ofTable t' (.mapKinds (fun _ => .text) { prompt := { text := ">" } }) = .ok s' ∧
    Calls.item (s.next ">xy\n") (Session.Reading.start ">xy\n") 0 = some (.ok ⟨0, .prompt, ">"⟩) ∧
    Calls.item (s'.next ">xy\n") (Session.Reading.start ">xy\n") 0 = some (.ok ⟨0, .text, ">"⟩) ∧
    t.initialStack ["inner"] = .ok stack ∧ ∀ n, Calls.item (Stream.next t' "y<xy>") (Stream.start stack) n =
      (Calls.item (Stream.next t "y<xy>") (Stream.start stack) n).map (·.map (Token.mapKind fun _ => .text)) := by
  have h : ((Declaration.build { states := Stream.sharing }).toOption.bind fun t =>
      (Session.ofTable t { prompt := { text := ">" } }).toOption.map fun s =>
        ((t.initialStack ["inner"]).toOption.isSome,
          Calls.item (s.next ">xy\n") (Session.Reading.start ">xy\n") 0)) =
      some (true, some (.ok ⟨0, .prompt, ">"⟩)) := by decide +kernel
  obtain ⟨t, s, hb, ho, h⟩ := exists_of_toOption_bind h
  obtain ⟨hstack, hitem⟩ := Prod.mk.inj h
  obtain ⟨stack, hstack⟩ := Option.isSome_iff_exists.mp hstack
  have hstack := toOption_eq_some.mp hstack
  obtain ⟨hbuilds, hscans⟩ := scans_mapKinds { states := Stream.sharing } fun _ => .text
  obtain ⟨t', hb'⟩ := hbuilds.mp ⟨t, hb⟩
  obtain ⟨_, hcalls, hsessions⟩ := hscans t t' hb hb'
  obtain ⟨hopens, hread⟩ := hsessions { prompt := { text := ">" } }
  obtain ⟨s', ho'⟩ := hopens.mp ⟨s, ho⟩
  have hitem' := (hread s s' ho ho' ">xy\n" 0).2
  rw [hitem] at hitem'
  exact ⟨t, t', s, s', stack, hb, hb', ho, ho', hitem, hitem', hstack, fun n => (hcalls _ _ stack hstack n).1⟩

end ModalLexer
