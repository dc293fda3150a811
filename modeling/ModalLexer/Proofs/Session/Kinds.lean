import ModalLexer.Proofs.Session.Reading

/-!
What the bytes of a transcript are classified as. In a run of prompt lines, each prompt is one token, and the
code between the prompts has the tokens of the whole code of the run, cut where lines meet and nowhere else.
-/

namespace ModalLexer.Session

open Text

/-! ## The code of a run, line by line -/

/-- The tokens of code, cut where the code of each line ends, and moved to the lines. -/
def lineParts (s : Session) (text : String) (pos : Nat) : List Span → List Token → List (List Token)
  | [], _ => []
  | span :: run, ts =>
    let next := pos + (s.promptLine text span).code.utf8ByteSize
    relocate (s.codeStart text span) (cutAt next ts).1 :: lineParts s text next run (cutAt next ts).2

/-- The tokens of lines: the prompt of each, and the tokens of its code. -/
def withPrompts (s : Session) (text : String) (run : List Span) (parts : List (List Token)) : List Token :=
  (List.zipWith (fun span part => (s.promptLine text span).prompt :: part) run parts).flatten

variable {s : Session} {text code p : String} {run lines before after : List Span} {span : Span}
  {ts tokens nested : List Token} {start stop pos b : Nat} {r : Region}

theorem byteKinds_relocate (pos : Nat) (ts : List Token) : byteKinds (relocate pos ts) = byteKinds ts := by
  induction ts generalizing pos with
  | nil => rfl
  | cons t ts ih =>
      have hrest := ih (pos + t.length)
      simp only [byteKinds, relocate, List.flatMap_cons] at hrest ⊢
      rw [hrest]
      rfl

theorem map_text_relocate (pos : Nat) (ts : List Token) :
    (relocate pos ts).map (·.text) = ts.map (·.text) := by
  induction ts generalizing pos with
  | nil => rfl
  | cons t ts ih =>
      rw [relocate, List.map_cons, List.map_cons, ih]

theorem relocate_append (pos : Nat) (ts us : List Token) :
    relocate pos (ts ++ us) = relocate pos ts ++ relocate (pos + (texts ts).utf8ByteSize) us := by
  induction ts generalizing pos with
  | nil => simp [relocate]
  | cons t ts ih => simp [relocate, ih, Token.length, Nat.add_assoc]

theorem cutAt_line (hcode : code = p ++ codeOf ((span :: run).map (s.promptLine text)))
    (hts : Tiles code p.utf8ByteSize ts code.utf8ByteSize) :
    code = (p ++ (s.promptLine text span).code) ++ codeOf (run.map (s.promptLine text)) ∧
    Tiles code p.utf8ByteSize (cutAt (p ++ (s.promptLine text span).code).utf8ByteSize ts).1
      (p ++ (s.promptLine text span).code).utf8ByteSize ∧
    Tiles code (p ++ (s.promptLine text span).code).utf8ByteSize
      (cutAt (p ++ (s.promptLine text span).code).utf8ByteSize ts).2 code.utf8ByteSize ∧
    Cut ts (cutAt (p ++ (s.promptLine text span).code).utf8ByteSize ts).1
      (cutAt (p ++ (s.promptLine text span).code).utf8ByteSize ts).2 := by
  have hnext : code = (p ++ (s.promptLine text span).code) ++ codeOf (run.map (s.promptLine text)) := by
    rw [hcode, List.map_cons, codeOf_cons, String.append_assoc]
  have hb := isBoundary_iff.mpr ⟨_, _, hnext, rfl⟩
  exact ⟨hnext, cutAt_spec hts hb (by simp) (isBoundary_le hb)⟩

theorem byteKinds_lineParts (hcode : code = p ++ codeOf (run.map (s.promptLine text)))
    (hts : Tiles code p.utf8ByteSize ts code.utf8ByteSize) :
    byteKinds (s.lineParts text p.utf8ByteSize run ts).flatten = byteKinds ts := by
  induction run generalizing p ts with
  | nil =>
      obtain rfl : code = p := by simpa using hcode
      rw [hts.eq_nil]
      rfl
  | cons span run ih =>
      obtain ⟨hnext, _, hback, hcut⟩ := cutAt_line hcode hts
      have hrest := ih hnext hback
      rw [lineParts, ← String.utf8ByteSize_append, List.flatten_cons, byteKinds_append, byteKinds_relocate, hrest,
        ← byteKinds_append, hcut.byteKinds]

/-- Where the tokens of the lines meet: where those of the code do, and where the lines do. -/
theorem mem_joints_lineParts (hcode : code = p ++ codeOf (run.map (s.promptLine text)))
    (hts : Tiles code p.utf8ByteSize ts code.utf8ByteSize) :
    b ∈ joints p.utf8ByteSize ((s.lineParts text p.utf8ByteSize run ts).flatten.map (·.text)) ↔
      b ∈ joints p.utf8ByteSize (ts.map (·.text)) ∨
        b ∈ joints p.utf8ByteSize (run.map fun span => (s.promptLine text span).code) := by
  induction run generalizing p ts with
  | nil =>
      obtain rfl : code = p := by simpa using hcode
      rw [hts.eq_nil]
      simp [lineParts]
  | cons span run ih =>
      obtain ⟨hnext, hfront, hback, hcut⟩ := cutAt_line hcode hts
      have hrest := ih hnext hback
      have hjoints := hcut.mem_joints p.utf8ByteSize b
      have hsum := hfront.stop_eq
      have hstart := start_mem_joints p.utf8ByteSize (ts.map (·.text))
      have hmeet := start_mem_joints (p ++ (s.promptLine text span).code).utf8ByteSize
        (run.map fun span => (s.promptLine text span).code)
      rw [texts] at hsum hjoints
      rw [List.map_append, mem_joints_append, ← hsum] at hjoints
      rw [lineParts, ← String.utf8ByteSize_append, List.flatten_cons, List.map_append, map_text_relocate,
        mem_joints_append, ← hsum, hrest, ← or_assoc, hjoints, List.map_cons, joints,
        ← String.utf8ByteSize_append, List.mem_cons]
      -- The cut is where the next line begins, and this line begins where the tokens do.
      grind

theorem lineParts_tile (hp : s.prompt.Sound) (hstart : isBoundary text start = true)
    (hprompts : ∀ span ∈ run, s.IsPrompt text span) (hrun : Adjoin text start run stop)
    (hcode : code = p ++ codeOf (run.map (s.promptLine text)))
    (hts : Tiles code p.utf8ByteSize ts code.utf8ByteSize) :
    ∀ q ∈ run.zip (s.lineParts text p.utf8ByteSize run ts), Tiles text (s.codeStart text q.1) q.2 q.1.stop := by
  induction run generalizing p ts start with
  | nil => intro q hq; cases hq
  | cons span run ih =>
      obtain ⟨hspan, hprompts⟩ := List.forall_mem_cons.mp hprompts
      obtain ⟨rfl, hlt, hb, hrun⟩ := hrun
      obtain ⟨hnext, hfront, hback, _⟩ := cutAt_line hcode hts
      obtain ⟨line, hline⟩ := slice?_exists hstart hb (Nat.le_of_lt hlt)
      obtain ⟨_, hl, _⟩ := promptLine_slices hp hspan hline
      have hpos := isBoundary_iff.mpr ⟨p, _, hcode, rfl⟩
      have htexts : texts (cutAt (p ++ (s.promptLine text span).code).utf8ByteSize ts).1 =
          (s.promptLine text span).code := by
        refine Option.some.inj ((hfront.slice? hpos).symm.trans ?_)
        exact slice?_eq_some_iff.mpr ⟨p, _, hnext, rfl, String.utf8ByteSize_append⟩
      rw [lineParts, ← String.utf8ByteSize_append, List.zip_cons_cons]
      refine List.forall_mem_cons.mpr ⟨?_, ih hb hprompts hrun hnext hback⟩
      exact relocate_tiles (hl.trans (congrArg some htexts.symm)) hfront.ne_empty

/-- Cutting first at the place of the next prompt makes no difference. -/
theorem sections_promptsFrom (hp : isBoundary code pos = true) (hts : Tiles code start ts code.utf8ByteSize)
    (hle : start ≤ pos) {ls : List PromptLine} (hend : ls = [] → pos = code.utf8ByteSize) :
    sections ts (promptsFrom pos ls) = (cutAt pos ts).1 ++ sections (cutAt pos ts).2 (promptsFrom pos ls) := by
  cases ls with
  | nil =>
      obtain rfl := hend rfl
      rw [cutAt_of_ge hts (Nat.le_refl _)]
      simp [promptsFrom, sections]
  | cons l ls =>
      obtain ⟨_, hback, _⟩ := cutAt_spec hts hp hle (isBoundary_le hp)
      simp only [promptsFrom, sections, cutAt_of_le hback (Nat.le_refl _), List.nil_append, List.append_assoc]

/-- The tokens of a region are those of its lines. -/
theorem relocate_sections (hp : s.prompt.Sound) (hstart : isBoundary text start = true)
    (hprompts : ∀ span ∈ run, s.IsPrompt text span) (hrun : Adjoin text start run stop)
    (hcode : code = p ++ codeOf (run.map (s.promptLine text)))
    (hts : Tiles code p.utf8ByteSize ts code.utf8ByteSize) :
    relocate start (sections ts (promptsFrom p.utf8ByteSize (run.map (s.promptLine text)))) =
      s.withPrompts text run (s.lineParts text p.utf8ByteSize run ts) := by
  induction run generalizing p ts start with
  | nil =>
      obtain rfl : code = p := by simpa using hcode
      rw [hts.eq_nil]
      rfl
  | cons span run ih =>
      obtain ⟨hspan, hprompts⟩ := List.forall_mem_cons.mp hprompts
      obtain ⟨rfl, hlt, hb, hrun⟩ := hrun
      obtain ⟨hnext, hfront, hback, _⟩ := cutAt_line hcode hts
      obtain ⟨line, hline⟩ := slice?_exists hstart hb (Nat.le_of_lt hlt)
      obtain ⟨hprompt, hl, _⟩ := promptLine_slices hp hspan hline
      have hcut := isBoundary_iff.mpr ⟨_, _, hnext, rfl⟩
      have hlast : run.map (s.promptLine text) = [] →
          (p ++ (s.promptLine text span).code).utf8ByteSize = code.utf8ByteSize := by
        intro hnil
        rw [hnil] at hnext
        simpa using congrArg String.utf8ByteSize hnext.symm
      have hskip := sections_promptsFrom hcut hts (by simp) hlast
      -- The prompt stands at the start of its line, and the code behind it up to the end.
      have hcodeStart : span.start + (s.promptLine text span).prompt.length = s.codeStart text span :=
        (slice?_size hprompt).symm
      have hstop : s.codeStart text span +
          (texts (cutAt (p ++ (s.promptLine text span).code).utf8ByteSize ts).1).utf8ByteSize = span.stop := by
        have hsum := hfront.stop_eq
        rw [String.utf8ByteSize_append] at hsum ⊢
        rw [slice?_size hl]
        omega
      rw [List.map_cons, promptsFrom, sections, cutAt_of_le hts (Nat.le_refl _), ← String.utf8ByteSize_append,
        hskip, List.nil_append, List.singleton_append, relocate, hcodeStart, relocate_append, hstop,
        ih hb hprompts hrun hnext hback, lineParts, ← String.utf8ByteSize_append]
      simp [withPrompts, promptLine]

theorem lineParts_length (s : Session) (text : String) (pos : Nat) (run : List Span) (ts : List Token) :
    (s.lineParts text pos run ts).length = run.length := by
  induction run generalizing pos ts with
  | nil => rfl
  | cons span run ih => simp [lineParts, ih]

theorem mem_withPrompts {parts : List (List Token)} (hlen : parts.length = run.length) :
    ∀ span ∈ run, (s.promptLine text span).prompt ∈ s.withPrompts text run parts := by
  induction run generalizing parts with
  | nil => intro span h; cases h
  | cons span run ih =>
      cases parts with
      | nil => cases hlen
      | cons part parts =>
          have hrest := ih (Nat.succ.inj hlen)
          simp only [withPrompts, List.zipWith_cons_cons, List.flatten_cons, List.mem_append] at hrest ⊢
          exact List.forall_mem_cons.mpr ⟨Or.inl List.mem_cons_self, fun span h => Or.inr (hrest span h)⟩

theorem infix_withPrompts {parts : List (List Token)} :
    ∀ q ∈ run.zip parts, q.2 <:+: s.withPrompts text run parts := by
  induction run generalizing parts with
  | nil => intro q h; cases h
  | cons span run ih =>
      cases parts with
      | nil => intro q h; cases h
      | cons part parts =>
          have hrest := @ih parts
          simp only [withPrompts, List.zipWith_cons_cons, List.flatten_cons] at hrest ⊢
          refine List.forall_mem_cons.mpr ⟨⟨[(s.promptLine text span).prompt], _, rfl⟩, fun q h => ?_⟩
          exact (hrest q h).trans (List.suffix_append _ _).isInfix

/-! ## Runs of prompt lines -/

/-- A run of prompt lines among lines, with no prompt line right before or after it. -/
structure MaximalRun (s : Session) (text : String) (lines before run after : List Span) : Prop where
  split : lines = before ++ run ++ after
  nonempty : run ≠ []
  prompts : ∀ span ∈ run, s.IsPrompt text span
  left : ∀ span ∈ before.getLast?, ¬ s.IsPrompt text span
  right : ∀ span ∈ after.head?, ¬ s.IsPrompt text span

/-- The code of the lines of a run has tokens of its own among those of the transcript. Byte for byte they have
the kinds of the nested tokens, and they meet where these do or where two lines do. -/
structure Carries (s : Session) (text : String) (tokens : List Token) (run : List Span) (nested : List Token)
    (parts : List (List Token)) : Prop where
  lines : parts.length = run.length
  placed : ∀ q ∈ run.zip parts, q.2 <:+: tokens ∧ Tiles text (s.codeStart text q.1) q.2 q.1.stop
  kinds : byteKinds parts.flatten = byteKinds nested
  meet : ∀ b, b ∈ joints 0 (parts.flatten.map (·.text)) ↔ b ∈ joints 0 (nested.map (·.text)) ∨
    b ∈ joints 0 (run.map fun span => (s.promptLine text span).code)

theorem Carries.append {parts : List (List Token)} (before : List Token)
    (h : Carries s text tokens run nested parts) : Carries s text (before ++ tokens) run nested parts where
  lines := h.lines
  placed q hq := ⟨(h.placed q hq).1.trans (List.suffix_append _ _).isInfix, (h.placed q hq).2⟩
  kinds := h.kinds
  meet := h.meet

theorem Gathered.carries (ht : s.table.Sound) (hp : s.prompt.Sound) (h : Gathered s text run stop r)
    (hs : s.table.tokenize r.code = .ok nested) (rest : List Token) :
    Carries s text (relocate r.start (sections nested r.prompts) ++ rest) run nested
      (s.lineParts text 0 run nested) ∧
      ∀ span ∈ run, (s.promptLine text span).prompt ∈ relocate r.start (sections nested r.prompts) := by
  have hcode : r.code = "" ++ codeOf (run.map (s.promptLine text)) := by rw [h.lines]; simp [Region.ofLines]
  have hts := Table.tokenize_tiles ht hs
  have hprompts : r.prompts = promptsFrom 0 (run.map (s.promptLine text)) := by rw [h.lines]; rfl
  have htokens : relocate r.start (sections nested r.prompts) =
      s.withPrompts text run (s.lineParts text 0 run nested) := by
    rw [hprompts]
    exact relocate_sections hp h.boundary h.prompts h.adjoin hcode hts
  rw [htokens]
  refine ⟨⟨lineParts_length .., fun q hq => ⟨?_, ?_⟩, byteKinds_lineParts hcode hts, fun b => ?_⟩, ?_⟩
  · exact (infix_withPrompts q hq).trans (List.prefix_append _ _).isInfix
  · exact lineParts_tile hp h.boundary h.prompts h.adjoin hcode hts q hq
  · exact mem_joints_lineParts hcode hts
  · exact mem_withPrompts (lineParts_length ..)

/-- Of lines that begin with a whole run, that run is the first one, and the others come after it. -/
theorem MaximalRun.after_run {run' : List Span} (h : MaximalRun s text (run' ++ lines) before run after)
    (hprompts : ∀ span ∈ run', s.IsPrompt text span)
    (hwhole : ∀ span ∈ lines.head?, ¬ s.IsPrompt text span) :
    run = run' ∨ ∃ before', MaximalRun s text lines before' run after := by
  have hsplit := h.split
  rw [List.append_assoc] at hsplit
  rcases List.append_eq_append_iff.mp hsplit with ⟨later, rfl, hlines⟩ | ⟨now, hnow, hrun⟩
  · refine Or.inr ⟨later, by rw [hlines, List.append_assoc], h.nonempty, h.prompts, fun span hspan => ?_, h.right⟩
    refine h.left span ?_
    rw [Option.mem_def] at hspan ⊢
    rw [List.getLast?_append, hspan]
    rfl
  · -- The run cannot begin inside the first one, and neither can reach further than the other.
    have hbefore : before = [] := by
      cases hlast : before.getLast? with
      | none => exact List.getLast?_eq_none_iff.mp hlast
      | some span =>
          have hmem := List.mem_of_getLast? hlast
          exact absurd (hprompts span (hnow ▸ List.mem_append_left _ hmem)) (h.left span hlast)
    subst hbefore
    obtain rfl : run' = now := hnow
    left
    rcases List.append_eq_append_iff.mp hrun with ⟨more, hmore, hafter⟩ | ⟨more, hmore, hafter⟩
    · cases more with
      | nil => simpa using hmore.symm
      | cons span more =>
          exact absurd (hprompts span (hmore ▸ by simp)) (h.right span (hafter ▸ by simp))
    · cases more with
      | nil => simpa using hmore
      | cons span more =>
          exact absurd (h.prompts span (hmore ▸ by simp)) (hwhole span (hafter ▸ by simp))

theorem Classified.carries (ht : s.table.Sound) (hp : s.prompt.Sound) (h : Classified s text lines tokens)
    (hrun : MaximalRun s text lines before run after) :
    ∃ nested parts, s.table.tokenize (codeOf (run.map (s.promptLine text))) = .ok nested ∧
      Carries s text tokens run nested parts := by
  induction h generalizing before with
  | done =>
      have hsplit := hrun.split
      simp only [List.nil_eq, List.append_eq_nil_iff] at hsplit
      exact absurd hsplit.1.2 hrun.nonempty
  | @output span lines tokens unprompted _ ih =>
      have hrest : ∃ before', MaximalRun s text lines before' run after := by
        have hsplit := hrun.split
        cases before with
        | nil =>
            cases hr : run with
            | nil => exact absurd hr hrun.nonempty
            | cons first more =>
                rw [hr] at hsplit
                obtain rfl : span = first := (List.cons.inj hsplit).1
                exact absurd (hrun.prompts span (hr ▸ List.mem_cons_self)) (not_isPrompt unprompted)
        | cons first before =>
            refine ⟨before, (List.cons.inj hsplit).2, hrun.nonempty, hrun.prompts, fun span' h => ?_, hrun.right⟩
            refine hrun.left span' ?_
            rw [Option.mem_def] at h ⊢
            rw [List.getLast?_cons, h]
            rfl
      obtain ⟨before', hrest⟩ := hrest
      obtain ⟨nested, parts, hn, hc⟩ := ih hrest
      exact ⟨nested, parts, hn, hc.append [_]⟩
  | @run run' lines stop r nested tokens gathered whole scanned _ ih =>
      rcases hrun.after_run gathered.prompts whole with rfl | ⟨before', hrest⟩
      · have hcode : r.code = codeOf (run.map (s.promptLine text)) := by rw [gathered.lines]; rfl
        exact ⟨nested, _, hcode ▸ scanned, (gathered.carries ht hp scanned tokens).1⟩
      · obtain ⟨nested', parts, hn, hc⟩ := ih hrest
        exact ⟨nested', parts, hn, hc.append _⟩

theorem Classified.line (ht : s.table.Sound) (hp : s.prompt.Sound) (h : Classified s text lines tokens) :
    ∀ span ∈ lines, (s.IsPrompt text span ∧ (s.promptLine text span).prompt ∈ tokens) ∨
      (s.promptLength? (slice text span) = .ok none ∧
        ⟨span.start, s.config.lineKind (slice text span), slice text span⟩ ∈ tokens) := by
  induction h with
  | done => intro span h; cases h
  | output unprompted _ ih =>
      refine List.forall_mem_cons.mpr ⟨Or.inr ⟨unprompted, List.mem_cons_self⟩, fun span h => ?_⟩
      exact (ih span h).imp (.imp_right (List.mem_cons_of_mem _)) (.imp_right (List.mem_cons_of_mem _))
  | run gathered _ scanned _ ih =>
      intro span h
      rcases List.mem_append.mp h with h | h
      · have hmem := (gathered.carries ht hp scanned []).2 span h
        exact Or.inl ⟨gathered.prompts span h, List.mem_append_left _ hmem⟩
      · exact (ih span h).imp (.imp_right (List.mem_append_right _)) (.imp_right (List.mem_append_right _))

/-- What a transcript that is read without an error becomes. The prompt of each prompt line is one token, each
other line is one token, and the code of every maximal run of prompt lines carries the kinds that the table gives
to it as one text. -/
theorem transcript_kinds {d : Declaration} {t : Table} (built : d.build = .ok t) {config : SessionConfig}
    (opened : ofTable t config = .ok s) {text : String}
    (clean : ∀ n e, Calls.item (s.next text) (Reading.start text) n ≠ some (.error e)) :
    ∃ tokens, (∀ n, Calls.item (s.next text) (Reading.start text) n = (tokens[n]?).map .ok) ∧
      Tiles text 0 tokens text.utf8ByteSize ∧
      (∀ span ∈ lineSpans text,
        (∃ n prompt, s.promptLength? (slice text span) = .ok (some n) ∧
          slice? text span.start (span.start + n) = some prompt ∧
          ⟨span.start, config.promptKind, prompt⟩ ∈ tokens) ∨
        (s.promptLength? (slice text span) = .ok none ∧
          ⟨span.start, config.lineKind (slice text span), slice text span⟩ ∈ tokens)) ∧
      ∀ before run after, MaximalRun s text (lineSpans text) before run after →
        ∃ nested parts, t.tokenize (codeOf (run.map (s.promptLine text))) = .ok nested ∧
          Carries s text tokens run nested parts := by
  obtain ⟨rfl, rfl, hp⟩ := ofTable_sound opened
  have ht := d.build_sound built
  have he : (s.splice text).error = none :=
    Calls.error_eq_none fun n e => by rw [← item_eq_splice]; exact clean n e
  have hclass := splice_classified ht hp he
  refine ⟨(s.splice text).tokens, fun n => ?_, splice_tiles ht hp he, fun span hspan => ?_,
    fun before run after hrun => hclass.carries ht hp hrun⟩
  · rw [item_eq_splice, he, Calls.getElem?_outcomes_none]
  · rcases hclass.line ht hp span hspan with ⟨⟨n, hn⟩, hmem⟩ | hout
    · obtain ⟨line, hline⟩ := (lineSpans_adjoin text).slice?_mem (isBoundary_zero text) span hspan
      obtain ⟨hslice, _, _⟩ := promptLine_slices hp ⟨n, hn⟩ hline
      have hstart : s.codeStart text span = span.start + n := by simp [codeStart, promptSize, hn]
      exact Or.inl ⟨n, _, hn, hstart ▸ hslice, hmem⟩
    · exact Or.inr hout

theorem transcript_kinds_pairs : ∃ t s nested parts tokens, pairs.build = .ok t ∧
    ofTable t { prompt := { text := ">" } } = .ok s ∧
    (∀ n, Calls.item (s.next ">a\n>b\nout\n>\n>é") (Reading.start ">a\n>b\nout\n>\n>é") n =
      (tokens[n]?).map .ok) ∧
    t.tokenize (codeOf ([⟨0, 3⟩, ⟨3, 6⟩].map (s.promptLine ">a\n>b\nout\n>\n>é"))) = .ok nested ∧
    Carries s ">a\n>b\nout\n>\n>é" tokens [⟨0, 3⟩, ⟨3, 6⟩] nested parts := by
  obtain ⟨t, s, hb, ho, he, hprompts⟩ := pairs_splice
  have clean : ∀ n e, Calls.item (s.next ">a\n>b\nout\n>\n>é") (Reading.start ">a\n>b\nout\n>\n>é") n ≠
      some (.error e) := by
    intro n e
    rw [item_eq_splice, he, Calls.getElem?_outcomes_none]
    simp
  obtain ⟨tokens, hitems, _, _, hruns⟩ := transcript_kinds hb ho clean
  simp only [List.map_cons, List.map_nil, List.cons.injEq, and_true] at hprompts
  obtain ⟨h₀, h₃, h₆⟩ := hprompts
  obtain ⟨nested, parts, hn, hc⟩ := hruns [] [⟨0, 3⟩, ⟨3, 6⟩] [⟨6, 10⟩, ⟨10, 12⟩, ⟨12, 15⟩]
    { split := by decide
      nonempty := by simp
      prompts := by simp [IsPrompt, h₀, h₃]
      left := by simp
      right := by simp [IsPrompt, h₆] }
  exact ⟨t, s, nested, parts, tokens, hb, ho, hitems, hn, hc⟩

end ModalLexer.Session
