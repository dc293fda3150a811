import ModalLexer.Proofs.Session.Reading

/-!
Transcripts behind one another. A transcript is read in the same way wherever it stands in a longer one, only that its
tokens are moved; and where no run of prompt lines goes over the place where two transcripts meet, nothing that waits
at the end of the first one matters to the second.
-/

namespace ModalLexer

namespace Session

open Text

variable {s : Session} {text part : String} {base stop pos : Nat} {region region' : Option Region} {span : Span}
  {spans later : List Span} {tokens : List Token}

/-! ## Lines one by one -/

theorem spliceFrom_nil : s.spliceFrom text region [] [] = ⟨tokens, none⟩ ↔ s.flush text region = .ok tokens := by
  unfold spliceFrom
  cases s.flush text region with
  | error e => simp
  | ok settled => simp

/-- The tokens of lines are those that the first one settles and those of the others. -/
theorem spliceFrom_cons : s.spliceFrom text region [] (span :: spans) = ⟨tokens, none⟩ ↔
    ∃ settled region' rest, s.readLine text region span = (.ok settled, region') ∧
      s.spliceFrom text region' [] spans = ⟨rest, none⟩ ∧ settled ++ rest = tokens := by
  rw [spliceFrom]
  rcases s.readLine text region span with ⟨e | settled, region'⟩
  · simp
  · simp only
    rw [spliceFrom_done]
    cases hrest : s.spliceFrom text region' [] spans with
    | mk rest error => simp [hrest, and_comm]

/-! ## A transcript in a longer one -/

/-- The region in a longer transcript. -/
def Region.shift (r : Region) (base : Nat) : Region :=
  { start := base + r.start, code := r.code, prompts := r.prompts.map (·.map (·.shift base)) }

theorem Region.shift_add (r : Region) (prompt : Token) (code : String) (base : Nat) :
    (r.add prompt code).shift base = (r.shift base).add (prompt.shift base) code := by
  simp [Region.shift, Region.add, Insertion.map]

theorem slice_shift (hpart : slice? text base stop = some part) {line : String}
    (hline : slice? part span.start span.stop = some line) : slice text (span.shift base) = slice part span := by
  rw [slice_eq hline]
  exact slice_eq (slice?_trans hpart hline)

theorem isPrompt_shift (hpart : slice? text base stop = some part) {line : String}
    (hline : slice? part span.start span.stop = some line) :
    s.IsPrompt text (span.shift base) ↔ s.IsPrompt part span := by
  rw [IsPrompt, IsPrompt, slice_shift hpart hline]

theorem place_shift (hpart : slice? text base stop = some part) (hfits : text.utf8ByteSize < offsetLimit)
    {moves : List Move} (h : place part pos moves = .ok tokens) :
    place text (base + pos) moves = .ok (tokens.map (·.shift base)) := by
  induction moves generalizing pos tokens with
  | nil => cases h; rfl
  | cons move moves ih =>
      cases move with
      | brokenCut => cases h
      | overflow => cases h
      | piece kind piece =>
          simp only [place] at h
          split at h
          · cases h
          next next hnext =>
            obtain ⟨rfl, _⟩ := addOffset?_eq_some_iff.mp hnext
            split at h
            next hpiece =>
              obtain ⟨rest, hrest, h⟩ := bind_eq_ok.mp h
              cases h
              -- The piece stands in the longer text as well, so its end is an offset there and does not overflow.
              have hpiece := slice?_trans hpart hpiece
              have hle := isBoundary_le (slice?_right hpiece)
              have hsum : addOffset? (base + pos) piece.utf8ByteSize = some (base + (pos + piece.utf8ByteSize)) :=
                addOffset?_eq_some_iff.mpr ⟨Nat.add_assoc .., by omega⟩
              simp only [place, hsum, hpiece, ih hrest, ↓reduceIte]
              rfl
            · cases h

theorem flush_shift (hpart : slice? text base stop = some part) (hfits : text.utf8ByteSize < offsetLimit)
    (h : s.flush part region = .ok tokens) :
    s.flush text (region.map (·.shift base)) = .ok (tokens.map (·.shift base)) := by
  cases region with
  | none => cases h; rfl
  | some r =>
      obtain ⟨nested, hnested, h⟩ := bind_eq_ok.mp h
      have hmoves := mergeMoves_map (f := id) (g := (·.shift base)) (fun _ => ⟨rfl, rfl⟩) nested r.prompts
      rw [map_mapKind_id, Move.mapKind_id] at hmoves
      refine bind_eq_ok.mpr ⟨nested, hnested, ?_⟩
      unfold merge Region.shift
      rw [hmoves]
      exact place_shift hpart hfits h

theorem readLine_shift (hpart : slice? text base stop = some part) (hfits : text.utf8ByteSize < offsetLimit)
    {line : String} (hline : slice? part span.start span.stop = some line)
    (h : s.readLine part region span = (.ok tokens, region')) :
    s.readLine text (region.map (·.shift base)) (span.shift base) =
      (.ok (tokens.map (·.shift base)), region'.map (·.shift base)) := by
  rcases readLine_ok h with ⟨⟨n, hn⟩, rfl, rfl⟩ | ⟨hnone, rfl, settled, hs, rfl⟩
  · have hsize : s.promptSize (slice part span) = n := by simp [promptSize, hn]
    have hwaits : (region.map (·.shift base)).getD { start := (span.shift base).start } =
        (region.getD { start := span.start }).shift base := by cases region <;> rfl
    simp only [readLine, slice_shift hpart hline, hn, hwaits, Option.map_some, Region.shift_add, promptLine, hsize]
    rfl
  · simp only [readLine, slice_shift hpart hline, hnone, flush_shift hpart hfits hs, Except.map, List.map_append]
    rfl

theorem spliceFrom_shift (hpart : slice? text base stop = some part) (hfits : text.utf8ByteSize < offsetLimit)
    (hlines : ∀ span ∈ spans, ∃ line, slice? part span.start span.stop = some line)
    (h : s.spliceFrom part region [] spans = ⟨tokens, none⟩) :
    s.spliceFrom text (region.map (·.shift base)) [] (spans.map (·.shift base)) =
      ⟨tokens.map (·.shift base), none⟩ := by
  induction spans generalizing region tokens with
  | nil => exact spliceFrom_nil.mpr (flush_shift hpart hfits (spliceFrom_nil.mp h))
  | cons span spans ih =>
      obtain ⟨⟨line, hline⟩, hlines⟩ := List.forall_mem_cons.mp hlines
      obtain ⟨settled, region', rest, hread, hrest, rfl⟩ := spliceFrom_cons.mp h
      exact spliceFrom_cons.mpr ⟨_, _, _, readLine_shift hpart hfits hline hread, ih hlines hrest,
        (List.map_append ..).symm⟩

/-! ## Where two transcripts meet -/

/-- A line without a prompt settles what waits, and so does the end. -/
theorem spliceFrom_settle {settled : List Token} (hs : s.flush text region = .ok settled)
    (hfirst : ∀ span ∈ spans.head?, ¬ s.IsPrompt text span)
    (h : s.spliceFrom text none [] spans = ⟨tokens, none⟩) :
    s.spliceFrom text region [] spans = ⟨settled ++ tokens, none⟩ := by
  cases spans with
  | nil =>
      cases spliceFrom_nil.mp h
      rw [List.append_nil]
      exact spliceFrom_nil.mpr hs
  | cons span spans =>
      obtain ⟨line, region', rest, hread, hrest, rfl⟩ := spliceFrom_cons.mp h
      rcases readLine_ok hread with ⟨hprompt, _⟩ | ⟨hnone, rfl, settled', hs', rfl⟩
      · exact absurd hprompt (hfirst span rfl)
      · cases hs'
        refine spliceFrom_cons.mpr ⟨_, none, rest, ?_, hrest, List.append_assoc ..⟩
        simp only [readLine, hnone, hs, Except.map, List.nil_append]

/-- Lines behind other lines, where no run of prompt lines goes on from the one to the other. -/
theorem spliceFrom_append {tokens' : List Token} (h : s.spliceFrom text region [] spans = ⟨tokens, none⟩)
    (hlater : s.spliceFrom text none [] later = ⟨tokens', none⟩)
    (meets : ((spans = [] → region = none) ∧ ∀ span ∈ spans.getLast?, ¬ s.IsPrompt text span) ∨
      ∀ span ∈ later.head?, ¬ s.IsPrompt text span) :
    s.spliceFrom text region [] (spans ++ later) = ⟨tokens ++ tokens', none⟩ := by
  induction spans generalizing region tokens with
  | nil =>
      have hs := spliceFrom_nil.mp h
      rcases meets with ⟨hidle, _⟩ | hfirst
      · obtain rfl := hidle rfl
        cases hs
        exact hlater
      · exact spliceFrom_settle hs hfirst hlater
  | cons span spans ih =>
      obtain ⟨settled, region', rest, hread, hrest, rfl⟩ := spliceFrom_cons.mp h
      refine spliceFrom_cons.mpr ⟨settled, region', rest ++ tokens', hread, ih hrest ?_, (List.append_assoc ..).symm⟩
      refine meets.imp_left fun ⟨_, hlast⟩ => ⟨?_, ?_⟩
      · -- The last line has no prompt, so it leaves nothing waiting.
        rintro rfl
        rcases readLine_ok hread with ⟨hprompt, _⟩ | ⟨_, hidle, _⟩
        · exact absurd hprompt (hlast span rfl)
        · exact hidle
      · intro last hmem
        exact hlast last (by simp [List.getLast?_cons, Option.mem_def.mp hmem])

/-- A transcript that ends with a line, and another one behind it: if the last line of the one or the first line of
the other has no prompt, the tokens of both, those of the second one moved, are the tokens of the whole. The bound is
that of every text that can be held: no offset in it overflows. -/
theorem tokenize_append {first second : String} {tokens' : List Token}
    (fits : (first ++ second).utf8ByteSize < offsetLimit) (ends : EndsLine first)
    (meets : (∀ span ∈ (lineSpans first).getLast?, ¬ s.IsPrompt first span) ∨
      ∀ span ∈ (lineSpans second).head?, ¬ s.IsPrompt second span)
    (hfirst : s.tokenize first = .ok tokens) (hsecond : s.tokenize second = .ok tokens') :
    s.tokenize (first ++ second) = .ok (tokens ++ tokens'.map (·.shift first.utf8ByteSize)) := by
  have hpart : slice? (first ++ second) 0 first.utf8ByteSize = some first :=
    slice?_eq_some_iff.mpr ⟨"", second, by simp, by simp, by simp⟩
  have hpart' : slice? (first ++ second) first.utf8ByteSize (first ++ second).utf8ByteSize = some second :=
    slice?_eq_some_iff.mpr ⟨first, "", by simp, by simp, by simp⟩
  have hlines := (lineSpans_adjoin first).slice?_mem (isBoundary_zero first)
  have hlines' := (lineSpans_adjoin second).slice?_mem (isBoundary_zero second)
  have hread := spliceFrom_shift hpart fits hlines (tokenize_eq_ok.mp hfirst)
  have hread' := spliceFrom_shift hpart' fits hlines' (tokenize_eq_ok.mp hsecond)
  have hzero : (lineSpans first).map (·.shift 0) = lineSpans first := by simp [Span.shift_zero]
  rw [hzero, Token.map_shift_zero] at hread
  rw [tokenize_eq_ok, splice, lineSpans_append ends]
  refine spliceFrom_append hread hread' (meets.imp ?_ ?_)
  · refine fun hlast => ⟨fun _ => rfl, fun span hspan => ?_⟩
    obtain ⟨line, hline⟩ := hlines span (List.mem_of_getLast? hspan)
    have hsame := isPrompt_shift (s := s) hpart hline
    rw [Span.shift_zero] at hsame
    exact mt hsame.mp (hlast span hspan)
  · intro hhead span hspan
    rw [List.head?_map] at hspan
    obtain ⟨span', hspan', rfl⟩ := Option.map_eq_some_iff.mp hspan
    obtain ⟨line, hline⟩ := hlines' span' (List.mem_of_head? hspan')
    exact mt (isPrompt_shift hpart' hline).mp (hhead span' hspan')

theorem tokenize_append_pairs : ∃ t s tokens tokens', pairs.build = .ok t ∧
    ofTable t { prompt := { text := ">" } } = .ok s ∧ s.tokenize "é\n>a\n" = .ok tokens ∧
    s.tokenize "out\n>a\n>b" = .ok tokens' ∧
    s.tokenize ("é\n>a\n" ++ "out\n>a\n>b") = .ok (tokens ++ tokens'.map (·.shift 6)) := by
  have h : (pairs.build.toOption.bind fun t => (ofTable t { prompt := { text := ">" } }).toOption.map fun s =>
      (s.promptLength? (slice "out\n>a\n>b" ⟨0, 4⟩), (s.tokenize "é\n>a\n").toOption.isSome,
        (s.tokenize "out\n>a\n>b").toOption.isSome)) = some (.ok none, true, true) := by decide +kernel
  obtain ⟨t, s, hb, ho, h⟩ := exists_of_toOption_bind h
  obtain ⟨hout, h⟩ := Prod.mk.inj h
  obtain ⟨hfirst, hsecond⟩ := Prod.mk.inj h
  obtain ⟨tokens, hfirst⟩ := Option.isSome_iff_exists.mp hfirst
  obtain ⟨tokens', hsecond⟩ := Option.isSome_iff_exists.mp hsecond
  have hfirst := toOption_eq_some.mp hfirst
  have hsecond := toOption_eq_some.mp hsecond
  have hmeets : ∀ span ∈ (lineSpans "out\n>a\n>b").head?, ¬ s.IsPrompt "out\n>a\n>b" span := by
    have hline : (lineSpans "out\n>a\n>b").head? = some ⟨0, 4⟩ := by decide
    rw [hline]
    rintro _ ⟨⟩
    exact not_isPrompt hout
  exact ⟨t, s, tokens, tokens', hb, ho, hfirst, hsecond,
    tokenize_append (by decide) (by decide) (Or.inr hmeets) hfirst hsecond⟩

end Session

end ModalLexer
