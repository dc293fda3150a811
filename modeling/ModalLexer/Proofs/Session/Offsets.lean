import ModalLexer.Proofs.Coverage
import ModalLexer.Proofs.Scan.Offsets
import ModalLexer.Proofs.Session.Delivery

/-!
The offsets of errors in transcripts. The code of a region is scanned as a text of its own, and an error of that scan is
handed out as it is: its offset is one of the code, or of a part of it, and not of the transcript. Behind the prompts
before it the place of the defect is found again in the transcript, always beyond the offset that is told.
-/

namespace ModalLexer

open Text

namespace Session

/-! ## Places of code -/

/-- The bytes of the insertions up to a place. -/
def insertedBytes (is : List Insertion) (place : Nat) : Nat :=
  totalLength ((is.filter (·.index ≤ place)).flatMap (·.tokens))

/-- Where a place of the code stands in the transcript: behind the prompts up to it. -/
def Region.position (r : Region) (place : Nat) : Nat :=
  r.start + (insertedBytes r.prompts place + place)

variable {s : Session} {text : String} {run : List Span} {stop place : Nat} {r : Region} {e : Error}

theorem le_index_of_mem_promptsFrom {pos : Nat} {lines : List PromptLine} {i : Insertion}
    (h : i ∈ promptsFrom pos lines) : pos ≤ i.index := by
  induction lines generalizing pos with
  | nil => cases h
  | cons l ls ih =>
      rcases List.mem_cons.mp h with rfl | h
      · exact Nat.le_refl _
      · exact Nat.le_trans (Nat.le_add_right _ _) (ih h)

theorem insertedBytes_cons (i : Insertion) (is : List Insertion) (hi : i.index ≤ place) :
    insertedBytes (i :: is) place = totalLength i.tokens + insertedBytes is place := by
  simp [insertedBytes, totalLength_append, hi]

theorem insertedBytes_eq_zero {is : List Insertion} (h : ∀ i ∈ is, place < i.index) : insertedBytes is place = 0 := by
  have hnone : is.filter (·.index ≤ place) = [] :=
    List.filter_eq_nil_iff.mpr fun i hi => by simpa using h i hi
  rw [insertedBytes, hnone]
  rfl

/-- A character of the code of lines stands in their text behind the prompts up to it. -/
theorem charAt?_lines {lines : List PromptLine} {pos a b : Nat} {c : Char}
    (htext : slice? text a b = some (sourceOf lines)) (hc : charAt? (codeOf lines) place = some c) :
    charAt? text (a + (insertedBytes (promptsFrom pos lines) (pos + place) + place)) = some c := by
  induction lines generalizing pos a place with
  | nil =>
      have hle := isBoundary_le (isBoundary_charAt? hc)
      have hpos := c.utf8Size_pos
      simp at hle
      omega
  | cons l ls ih =>
      have hsource : sourceOf (l :: ls) = l.prompt.text ++ (l.code ++ sourceOf ls) := by
        simp [sourceOf, String.append_assoc]
      rw [hsource] at htext
      obtain ⟨_, hrest⟩ := slice?_split htext
      obtain ⟨hcode, hrest⟩ := slice?_split hrest
      have hprompt : totalLength [l.prompt] = l.prompt.text.utf8ByteSize := by simp [totalLength, Token.length]
      have hall := (slice?_all (codeOf (l :: ls))).trans (congrArg some (codeOf_cons l ls))
      obtain ⟨hfirst, hlater⟩ := slice?_split hall
      rw [promptsFrom, insertedBytes_cons _ _ (Nat.le_add_right pos place), hprompt]
      by_cases hplace : place < l.code.utf8ByteSize
      · have hzero : insertedBytes (promptsFrom (pos + l.code.utf8ByteSize) ls) (pos + place) = 0 :=
          insertedBytes_eq_zero fun i hi => by
            have hle := le_index_of_mem_promptsFrom hi
            omega
        have hin := charAt?_in_slice? hfirst hc (Nat.zero_le _) (by omega)
        have hchar := charAt?_slice? hcode hin
        rw [hzero, Nat.add_zero, ← Nat.add_assoc]
        simpa using hchar
      · have hle := isBoundary_le (isBoundary_charAt? hc)
        have hpos := c.utf8Size_pos
        have hin := charAt?_in_slice? hlater hc (by omega) (by omega)
        rw [Nat.zero_add] at hin
        have hchar := @ih _ (pos + l.code.utf8ByteSize) _ hrest hin
        have hindex : pos + l.code.utf8ByteSize + (place - l.code.utf8ByteSize) = pos + place := by omega
        rw [hindex] at hchar
        have hplace : a + (l.prompt.text.utf8ByteSize +
              insertedBytes (promptsFrom (pos + l.code.utf8ByteSize) ls) (pos + place) + place) =
            a + l.prompt.text.utf8ByteSize + l.code.utf8ByteSize +
              (insertedBytes (promptsFrom (pos + l.code.utf8ByteSize) ls) (pos + place) +
                (place - l.code.utf8ByteSize)) := by omega
        rw [hplace]
        exact hchar

/-- A character of the code of a region stands at its position in the transcript. -/
theorem Gathered.charAt?_position (hp : s.prompt.Sound) (h : Gathered s text run stop r) {c : Char}
    (hc : charAt? r.code place = some c) : charAt? text (r.position place) = some c := by
  have hsource := slice?_run hp h.boundary h.prompts h.adjoin
  have hlines := h.lines
  rw [hlines] at hc
  have hchar := @charAt?_lines _ _ _ 0 _ _ _ hsource hc
  rw [Nat.zero_add] at hchar
  rw [Region.position, hlines]
  exact hchar

/-- All code of a region stands behind its first prompt. -/
theorem Gathered.lt_position (hp : s.prompt.Sound) (h : Gathered s text run stop r) (place : Nat) :
    r.start + place < r.position place := by
  have hpositive : 0 < insertedBytes r.prompts place := by
    have hne := h.prompts_ne_empty hp
    have hlines := congrArg Region.prompts h.lines
    cases hrun : run with
    | nil => exact absurd hrun h.nonempty
    | cons span run =>
        rw [hrun, List.map_cons] at hlines
        have hfirst : (s.promptLine text span).prompt.text ≠ "" :=
          hne ⟨0, [(s.promptLine text span).prompt]⟩ (hlines ▸ List.mem_cons_self) _ List.mem_cons_self
        have hsize := Nat.pos_of_ne_zero (mt String.utf8ByteSize_eq_zero_iff.mp hfirst)
        rw [hlines, Region.ofLines, promptsFrom, insertedBytes_cons _ _ (Nat.zero_le place)]
        simp only [totalLength, Token.length]
        omega
  unfold Region.position
  omega

/-! ## Where errors come from -/

/-- An error that tells an offset, while a region is settled, is one of the scan of its code. -/
theorem flush_scan_error (ht : s.table.Sound) (hp : s.prompt.Sound) (h : Gathered s text run stop r)
    (he : s.flush text (some r) = .error e) (ho : e.offset?.isSome) : s.table.tokenize r.code = .error e := by
  rcases bind_eq_error.mp he with hscan | ⟨nested, hscan, hmerge⟩
  · exact hscan
  · rcases merge_eq (Table.tokenize_tiles ht hscan) h.fit (h.woven hp) with hm | hm
    · rw [hm] at hmerge; cases hmerge
    · rw [hm] at hmerge; cases hmerge; cases ho

theorem Fails.gathered (ht : s.table.Sound) (hp : s.prompt.Sound) {settled : Nat} (h : s.Fails text e settled)
    (ho : e.offset?.isSome) : ∃ run stop r, Gathered s text run stop r ∧ r.start = settled ∧
      s.table.tokenize r.code = .error e := by
  have hregion {lines : List Span} {r : Region} (reached : s.Reaches text lines (some r))
      (hs : s.flush text (some r) = .error e) : ∃ run stop r', Gathered s text run stop r' ∧ r'.start = r.start ∧
        s.table.tokenize r'.code = .error e := by
    obtain ⟨run, hwaits, _⟩ := reaches_waits reached
    cases hwaits with
    | region gathered => exact ⟨run, _, r, gathered, rfl, flush_scan_error ht hp gathered hs ho⟩
  cases h with
  | line _ failed =>
      rcases readLine_error (Prod.ext failed rfl) with ⟨d, rfl⟩ | hs
      · cases ho
      · cases hs
  | waiting reached failed =>
      rcases readLine_error (Prod.ext failed rfl) with ⟨d, rfl⟩ | hs
      · cases ho
      · exact hregion reached hs
  | finish reached failed => exact hregion reached failed

end Session

/-- The offset of an error is one of the text whose scan broke off. For a stream that is the text itself, and the offset
its cursor, if the step failed of itself; otherwise the text of a group, and the defect lies, at or after the cursor, as
many bytes further on as the text of the group begins. For a transcript it is the code of the prompt lines that waited,
or the text of a group in it, and the defect stands in the transcript behind the prompts up to it. -/
theorem error_offsets {d : Declaration} {t : Table} (built : d.build = .ok t) (text : String) :
    (∀ stack n e o, Calls.item (Stream.next t text) (Stream.start stack) n = some (.error e) → e.offset? = some o →
      let after := Calls.after (Stream.next t text) (Stream.start stack) (n + 1)
      ∃ s, t.StopsAt text t.lexOuterGroup e { stack } s ∧ after.FailedAt t text s e ∧
      (t.Fault text s e → o = after.scan.cursor) ∧
      ∃ base part place, t.Defect t.options.maxNesting text s e o base part place ∧
        isBoundary text (base + o) = true ∧ base + o < text.utf8ByteSize) ∧
    (∀ config s, Session.ofTable t config = .ok s → ∀ n e o,
      Calls.item (s.next text) (Session.Reading.start text) n = some (.error e) → e.offset? = some o →
      ∃ run stop r, Session.Gathered s text run stop r ∧ s.Fails text e r.start ∧ t.tokenize r.code = .error e ∧
      ∃ scan, t.StopsAt r.code t.lexOuterGroup e { stack := ⟨t.root, []⟩ } scan ∧
      ∃ base part place, t.Defect t.options.maxNesting r.code scan e o base part place ∧
        isBoundary text (r.position (base + o)) = true ∧
        charAt? text (r.position (base + o)) = charAt? r.code (base + o) ∧
        r.start + (base + o) < r.position (base + o)) := by
  have ht := d.build_sound built
  have hlex := Table.lexOuterGroup_tiles ht
  constructor
  · intro stack n e o hitem ho after
    rw [Stream.item_eq_scanFrom ht] at hitem
    have herror := Calls.getElem?_outcomes_error hitem
    obtain ⟨s, hstops, hstopped⟩ := Stream.after_stopped ht text stack herror
    have hfailed := (hstopped (n + 1) (Nat.lt_succ_of_le (Calls.length_le_of_getElem?_outcomes hitem))).failed
    obtain ⟨base, part, place, hdefect⟩ := hstops.exists_defect ht (Table.inBounds_start t text stack) ho
    exact ⟨s, hstops, hfailed, fun hfault => (hfault.offset ho).trans hfailed.cursor.symm, base, part, place, hdefect,
      hdefect.position⟩
  · intro config s opened n e o hitem ho
    obtain ⟨rfl, _, hp⟩ := Session.ofTable_sound opened
    rw [Session.item_eq_splice] at hitem
    have herror := Calls.getElem?_outcomes_error hitem
    obtain ⟨settled, hfails, _⟩ := Session.spliceFrom_fails ht hp .start herror
    obtain ⟨run, stop, r, gathered, rfl, hscan⟩ := hfails.gathered ht hp (Option.isSome_of_eq_some ho)
    have hstart := Table.inBounds_start s.table r.code ⟨s.table.root, []⟩
    obtain ⟨scan, hstops, _⟩ := Table.run_stopsAt ht hlex hstart (Emitted.result_eq_error.mp hscan)
    obtain ⟨base, part, place, hdefect⟩ := hstops.exists_defect ht hstart ho
    obtain ⟨hboundary, hinside⟩ := hdefect.position
    obtain ⟨c, hc⟩ := charAt?_exists hboundary hinside
    have hposition := gathered.charAt?_position hp hc
    exact ⟨run, stop, r, gathered, hfails, hscan, scan, hstops, base, part, place, hdefect,
      slice?_left (charAt?_eq_some_iff.mp hposition), hposition.trans hc.symm, gathered.lt_position hp _⟩

/-- The group of a match fails behind two characters and a name, and so it does in the code of two prompt lines. -/
theorem fragile_errors : ∃ t s, fragile.build = .ok t ∧ Session.ofTable t { prompt := { text := ">" } } = .ok s ∧
    Calls.item (Stream.next t "bba<xy>") (Stream.start ⟨t.root, []⟩) 2 = some (.error (.zeroWidthMatch "inner" 1 1)) ∧
    (Calls.after (Stream.next t "bba<xy>") (Stream.start ⟨t.root, []⟩) 3).scan.cursor = 2 ∧
    Calls.item (s.next "out\n>b\n>a<xy>") (Session.Reading.start "out\n>b\n>a<xy>") 1 =
      some (.error (.zeroWidthMatch "inner" 1 1)) ∧
    (s.splice "out\n>b\n>a<xy>").tokens = [⟨0, .output, "out\n"⟩] := by
  have h : (fragile.build.toOption.bind fun t =>
      (Session.ofTable t { prompt := { text := ">" } }).toOption.map fun s =>
        (Calls.item (Stream.next t "bba<xy>") (Stream.start ⟨t.root, []⟩) 2,
          (Calls.after (Stream.next t "bba<xy>") (Stream.start ⟨t.root, []⟩) 3).scan.cursor,
          Calls.item (s.next "out\n>b\n>a<xy>") (Session.Reading.start "out\n>b\n>a<xy>") 1,
          (s.splice "out\n>b\n>a<xy>").tokens)) =
      some (some (.error (.zeroWidthMatch "inner" 1 1)), 2, some (.error (.zeroWidthMatch "inner" 1 1)),
        [⟨0, .output, "out\n"⟩]) := by decide +kernel
  obtain ⟨t, hb, h⟩ := Option.bind_eq_some_iff.mp h
  obtain ⟨s, ho, h⟩ := Option.map_eq_some_iff.mp h
  simp only [Prod.mk.injEq] at h
  exact ⟨t, s, toOption_eq_some.mp hb, toOption_eq_some.mp ho, h⟩

theorem error_offsets_fragile : ∃ t s, fragile.build = .ok t ∧
    Session.ofTable t { prompt := { text := ">" } } = .ok s ∧
    (∃ scan base part place, scan.cursor = 2 ∧
      t.Defect t.options.maxNesting "bba<xy>" scan (.zeroWidthMatch "inner" 1 1) 1 base part place ∧ base + 1 < 7) ∧
    ∃ r : Session.Region, s.Fails "out\n>b\n>a<xy>" (.zeroWidthMatch "inner" 1 1) r.start ∧
      ∃ base, isBoundary "out\n>b\n>a<xy>" (r.position (base + 1)) = true ∧
        r.start + (base + 1) < r.position (base + 1) := by
  obtain ⟨t, s, hb, ho, hitem, hcursor, hitem', _⟩ := fragile_errors
  obtain ⟨scan, _, hfailed, _, base, part, place, hdefect, _, hinside⟩ :=
    (error_offsets hb "bba<xy>").1 ⟨t.root, []⟩ 2 _ 1 hitem rfl
  obtain ⟨_, _, r, _, hfails, _, _, _, base', _, _, _, hboundary, _, hlt⟩ :=
    (error_offsets hb "out\n>b\n>a<xy>").2 _ s ho 1 _ 1 hitem' rfl
  exact ⟨t, s, hb, ho, ⟨scan, base, part, place, hfailed.cursor.symm.trans hcursor, hdefect, hinside⟩, r,
    hfails, base', hboundary, hlt⟩

/-- An offset that an error tells may be before the cursor, and before the prompt lines that waited. -/
theorem fragile_offset_early :
    (¬ ∀ (d : Declaration) t text stack n e o, d.build = .ok t →
      Calls.item (Stream.next t text) (Stream.start stack) n = some (.error e) → e.offset? = some o →
        (Calls.after (Stream.next t text) (Stream.start stack) (n + 1)).scan.cursor ≤ o) ∧
    ¬ ∀ (d : Declaration) t config s text n e o settled, d.build = .ok t → Session.ofTable t config = .ok s →
      Calls.item (s.next text) (Session.Reading.start text) n = some (.error e) → e.offset? = some o →
        s.Fails text e settled → settled ≤ o := by
  obtain ⟨t, s, hb, ho, hitem, hcursor, hitem', htokens⟩ := fragile_errors
  constructor
  · intro h
    have hle := h fragile t _ _ 2 _ 1 hb hitem rfl
    rw [hcursor] at hle
    omega
  · intro h
    obtain ⟨ht, _, hp⟩ := Session.ofTable_sound ho
    have herror := hitem'
    rw [Session.item_eq_splice] at herror
    obtain ⟨settled, hfails, htiles⟩ := Session.spliceFrom_fails (ht ▸ fragile.build_sound hb) hp .start
      (Calls.getElem?_outcomes_error herror)
    rw [Session.settledTo_start] at htiles
    have htiles : Tiles "out\n>b\n>a<xy>" 0 [⟨0, .output, "out\n"⟩] settled := htokens ▸ htiles
    have hstop : settled = 4 := htiles.stop_eq
    have hle := h fragile t _ s _ 1 _ 1 settled hb ho hitem' rfl hfails
    omega

end ModalLexer
