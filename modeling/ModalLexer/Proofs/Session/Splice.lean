import ModalLexer.Proofs.Scan.Failure
import ModalLexer.Proofs.Scan.Run
import ModalLexer.Proofs.Session.Region

/-!
Reading a transcript line by line. Prompt lines wait in a region; the first line without a prompt, or the end of
the transcript, settles them. A transcript that is read without an error falls into such regions and single lines,
and its tokens tile it.
-/

namespace ModalLexer.Session

open Text

variable {s : Session} {text : String} {run lines spans : List Span} {span : Span} {region region' : Option Region}
  {tokens : List Token} {stop : Nat} {e : Error}

/-! ## Regions that wait -/

/-- Nothing waits, or the region of a run of prompt lines does. -/
inductive Waits (s : Session) (text : String) : (run : List Span) → (stop : Nat) → Option Region → Prop
  | idle (stop : Nat) : Waits s text [] stop none
  | region {run : List Span} {stop : Nat} {r : Region} (gathered : Gathered s text run stop r) :
    Waits s text run stop (some r)

/-- A region is settled by the tokens of its code and the prompts, or its code cannot be scanned, or an offset
gets too large. -/
theorem flush_region (ht : s.table.Sound) (hp : s.prompt.Sound) {r : Region} (h : Gathered s text run stop r) :
    (∃ nested, s.table.tokenize r.code = .ok nested ∧ Tiles r.code 0 nested r.code.utf8ByteSize ∧
      s.flush text (some r) = .ok (relocate r.start (sections nested r.prompts))) ∨
    ∃ e, s.flush text (some r) = .error e ∧ (e.isScan = true ∨ e = .offsetOverflow) := by
  cases hscan : s.table.tokenize r.code with
  | error e => exact Or.inr ⟨e, by simp [flush, hscan, bind, Except.bind], Or.inl (Table.tokenize_error hscan)⟩
  | ok nested =>
      have htiles := Table.tokenize_tiles ht hscan
      have hflush : s.flush text (some r) = merge text r.start r.prompts nested := by
        simp [flush, hscan, bind, Except.bind]
      rcases merge_eq htiles h.fit (h.woven hp) with hm | hm
      · exact Or.inl ⟨nested, rfl, htiles, hflush.trans hm⟩
      · exact Or.inr ⟨_, hflush.trans hm, Or.inr rfl⟩

theorem flush_error (ht : s.table.Sound) (hp : s.prompt.Sound) (h : Waits s text run stop region)
    (he : s.flush text region = .error e) : e.isScan = true ∨ e = .offsetOverflow := by
  cases h with
  | idle => cases he
  | region gathered =>
      rcases flush_region ht hp gathered with ⟨_, _, _, hok⟩ | ⟨e', herr, hcause⟩
      · rw [hok] at he; cases he
      · rw [herr] at he; cases he; exact hcause

/-! ## One line -/

/-- A line that is read waits, or settles what waited and stands for itself. -/
theorem readLine_ok (h : s.readLine text region span = (.ok tokens, region')) :
    (s.IsPrompt text span ∧ tokens = [] ∧ region' = some ((region.getD { start := span.start }).add
      (s.promptLine text span).prompt (s.promptLine text span).code)) ∨
    (s.promptLength? (slice text span) = .ok none ∧ region' = none ∧ ∃ settled, s.flush text region = .ok settled ∧
      tokens = settled ++ [⟨span.start, s.config.lineKind (slice text span), slice text span⟩]) := by
  unfold readLine at h
  simp only at h
  split at h
  · cases h
  · rename_i n hn
    cases h
    exact Or.inl ⟨⟨n, hn⟩, rfl, by simp [promptLine, promptSize, hn]⟩
  · rename_i hn
    obtain ⟨hmap, rfl⟩ := Prod.mk.inj h
    obtain ⟨settled, hs, rfl⟩ := map_eq_ok.mp hmap
    exact Or.inr ⟨hn, rfl, settled, hs, rfl⟩

theorem readLine_error (h : s.readLine text region span = (.error e, region')) :
    (∃ d, e = .badPrompt d) ∨ s.flush text region = .error e := by
  unfold readLine at h
  simp only at h
  split at h
  · rename_i hn
    cases h
    unfold promptLength? at hn
    split at hn
    · cases hn; exact Or.inl ⟨_, rfl⟩
    · cases hn
  · cases h
  · exact Or.inr (map_eq_error.mp (Prod.mk.inj h).1)

theorem Waits.add (hb : isBoundary text stop = true) (h : Waits s text run stop region)
    (hprompt : s.IsPrompt text span) (hspan : Adjoin text stop [span] span.stop) :
    Waits s text (run ++ [span]) span.stop (some ((region.getD { start := span.start }).add
      (s.promptLine text span).prompt (s.promptLine text span).code)) := by
  cases h with
  | idle =>
      obtain rfl : span.start = stop := hspan.1
      have hregion : Region.add { start := span.start } (s.promptLine text span).prompt
          (s.promptLine text span).code = Region.ofLines span.start [s.promptLine text span] := by
        simp [Region.add, Region.ofLines, promptsFrom]
      rw [List.nil_append, Option.getD_none, hregion]
      exact .region (.start hb hprompt hspan)
  | region gathered => exact .region (gathered.add hprompt hspan)

/-! ## All lines -/

/-- Lines with their tokens: those of a whole run of prompt lines, or one for a line without a prompt. -/
inductive Classified (s : Session) (text : String) : List Span → List Token → Prop
  | done : Classified s text [] []
  | output {span : Span} {lines : List Span} {tokens : List Token}
    (unprompted : s.promptLength? (slice text span) = .ok none) (rest : Classified s text lines tokens) :
    Classified s text (span :: lines)
      (⟨span.start, s.config.lineKind (slice text span), slice text span⟩ :: tokens)
  | run {run lines : List Span} {stop : Nat} {r : Region} {nested tokens : List Token}
    (gathered : Gathered s text run stop r) (whole : ∀ span ∈ lines.head?, ¬ s.IsPrompt text span)
    (scanned : s.table.tokenize r.code = .ok nested) (rest : Classified s text lines tokens) :
    Classified s text (run ++ lines) (relocate r.start (sections nested r.prompts) ++ tokens)

theorem not_isPrompt (h : s.promptLength? (slice text span) = .ok none) : ¬ s.IsPrompt text span := by
  rintro ⟨n, hn⟩
  rw [h] at hn
  cases hn

theorem Classified.settle (ht : s.table.Sound) (hp : s.prompt.Sound) {settled : List Token}
    (h : Waits s text run stop region) (hs : s.flush text region = .ok settled)
    (whole : ∀ span ∈ lines.head?, ¬ s.IsPrompt text span) (rest : Classified s text lines tokens) :
    Classified s text (run ++ lines) (settled ++ tokens) := by
  cases h with
  | idle => cases hs; exact rest
  | region gathered =>
      rcases flush_region ht hp gathered with ⟨nested, hn, _, hok⟩ | ⟨e, herr, _⟩
      · rw [hok] at hs; cases hs; exact .run gathered whole hn rest
      · rw [herr] at hs; cases hs

theorem spliceFrom_done {done : List Token} : s.spliceFrom text region done lines =
    ⟨done.reverse ++ (s.spliceFrom text region [] lines).tokens, (s.spliceFrom text region [] lines).error⟩ := by
  induction lines generalizing region done with
  | nil =>
      unfold spliceFrom
      split
      · simp
      · simp
  | cons span lines ih =>
      unfold spliceFrom
      split
      · simp
      · rename_i settled region' _
        rw [ih, @ih region' (settled.reverse ++ [])]
        simp

/-- A transcript that is read without an error is classified line by line. -/
theorem spliceFrom_classified (ht : s.table.Sound) (hp : s.prompt.Sound) {stop' : Nat}
    (hb : isBoundary text stop = true) (h : Waits s text run stop region) (hl : Adjoin text stop lines stop')
    (he : (s.spliceFrom text region [] lines).error = none) :
    Classified s text (run ++ lines) (s.spliceFrom text region [] lines).tokens := by
  -- The run that waits grows until a line without a prompt, or the end, settles it.
  induction lines generalizing run stop region with
  | nil =>
      unfold spliceFrom at he ⊢
      split at he
      · cases he
      · rename_i settled hs
        have hwhole : ∀ span ∈ ([] : List Span).head?, ¬ s.IsPrompt text span := by simp
        simpa using Classified.settle ht hp h hs hwhole .done
  | cons span lines ih =>
      obtain ⟨hstart, hlt, hb', hl⟩ := hl
      unfold spliceFrom at he ⊢
      split at he
      · cases he
      · rename_i settled region' hread
        rw [spliceFrom_done] at he ⊢
        simp only [List.append_nil, List.reverse_reverse] at he ⊢
        rcases readLine_ok hread with ⟨hprompt, rfl, rfl⟩ | ⟨hnone, rfl, settled', hs, rfl⟩
        · have hrest := ih hb' (h.add hb hprompt ⟨hstart, hlt, hb', rfl⟩) hl he
          simpa using hrest
        · have hrest := Classified.output hnone (ih hb' (.idle span.stop) hl he)
          have hwhole : ∀ span' ∈ (span :: lines).head?, ¬ s.IsPrompt text span' := by
            intro span' hspan'
            cases hspan'
            exact not_isPrompt hnone
          simpa using Classified.settle ht hp h hs hwhole hrest

/-- The errors of a transcript: its code cannot be scanned, an offset gets too large, or the search for a prompt
is given up. -/
theorem spliceFrom_error (ht : s.table.Sound) (hp : s.prompt.Sound) {stop' : Nat}
    (hb : isBoundary text stop = true) (h : Waits s text run stop region) (hl : Adjoin text stop lines stop')
    (he : (s.spliceFrom text region [] lines).error = some e) :
    e.isScan = true ∨ e = .offsetOverflow ∨ ∃ d, e = .badPrompt d := by
  induction lines generalizing run stop region with
  | nil =>
      unfold spliceFrom at he
      split at he
      · rename_i hs
        cases he
        rcases flush_error ht hp h hs with hscan | hover
        · exact Or.inl hscan
        · exact Or.inr (Or.inl hover)
      · cases he
  | cons span lines ih =>
      obtain ⟨hstart, hlt, hb', hl⟩ := hl
      unfold spliceFrom at he
      split at he
      · rename_i hread
        cases he
        rcases readLine_error hread with hprompt | hs
        · exact Or.inr (Or.inr hprompt)
        · rcases flush_error ht hp h hs with hscan | hover
          · exact Or.inl hscan
          · exact Or.inr (Or.inl hover)
      · rename_i settled region' hread
        rw [spliceFrom_done] at he
        rcases readLine_ok hread with ⟨hprompt, rfl, rfl⟩ | ⟨hnone, rfl, _⟩
        · exact ih hb' (h.add hb hprompt ⟨hstart, hlt, hb', rfl⟩) hl he
        · exact ih hb' (.idle span.stop) hl he

theorem Classified.tiles (ht : s.table.Sound) (hp : s.prompt.Sound) (h : Classified s text lines tokens)
    {start : Nat} (hb : isBoundary text start = true) (hl : Adjoin text start lines stop) :
    Tiles text start tokens stop := by
  induction h generalizing start with
  | done => exact hl
  | output _ _ ih =>
      obtain ⟨rfl, hlt, hb', hl⟩ := hl
      exact (Tiles.single _ (slice?_slice hb hb' (Nat.le_of_lt hlt)) hlt).append (ih hb' hl)
  | run gathered _ scanned _ ih =>
      obtain ⟨mid, hrun, hl⟩ := Adjoin.append_iff.mp hl
      obtain ⟨rfl, rfl⟩ := gathered.adjoin.unique gathered.nonempty hrun
      have htiles := Table.tokenize_tiles ht scanned
      have hwoven := gathered.woven hp
      exact (merged_tiles htiles gathered.fit (gathered.prompts_ne_empty hp) hwoven).append
        (ih (slice?_right hwoven) hl)

theorem tokenize_eq_ok : s.tokenize text = .ok tokens ↔ s.splice text = ⟨tokens, none⟩ := by
  unfold tokenize
  rcases s.splice text with ⟨tokens', _ | e⟩
  · simp
  · simp

theorem splice_classified (ht : s.table.Sound) (hp : s.prompt.Sound) (he : (s.splice text).error = none) :
    Classified s text (lineSpans text) (s.splice text).tokens :=
  spliceFrom_classified ht hp (isBoundary_zero text) (.idle 0) (lineSpans_adjoin text) he

theorem splice_tiles (ht : s.table.Sound) (hp : s.prompt.Sound) (he : (s.splice text).error = none) :
    Tiles text 0 (s.splice text).tokens text.utf8ByteSize :=
  (splice_classified ht hp he).tiles ht hp (isBoundary_zero text) (lineSpans_adjoin text)

end ModalLexer.Session
