import ModalLexer.Proofs.Calls
import ModalLexer.Proofs.Text.Boundary
import ModalLexer.Text.Lines

/-!
The lines of a text follow one another from its start to its end, and none of them is empty. Where a text ends with a
line, the lines of a text behind it are its own, moved. Line feeds stand at the ends of lines and nowhere else; and to
look for the next line feed again and again gives the same lines.
-/

namespace ModalLexer.Text

/-- The spans follow one another from one offset to another, none of them empty, all between boundaries. -/
def Adjoin (text : String) : (start : Nat) → List Span → (stop : Nat) → Prop
  | start, [], stop => start = stop
  | start, r :: rs, stop =>
    r.start = start ∧ start < r.stop ∧ isBoundary text r.stop = true ∧ Adjoin text r.stop rs stop

theorem Adjoin.append_iff {text : String} {a c : Nat} {rs rs' : List Span} :
    Adjoin text a (rs ++ rs') c ↔ ∃ b, Adjoin text a rs b ∧ Adjoin text b rs' c := by
  induction rs generalizing a with
  | nil => simp [Adjoin]
  | cons r rs ih =>
      simp only [List.cons_append, Adjoin, ih]
      constructor
      · rintro ⟨hr, hlt, hb, b, hrs, hrs'⟩; exact ⟨b, ⟨hr, hlt, hb, hrs⟩, hrs'⟩
      · rintro ⟨b, ⟨hr, hlt, hb, hrs⟩, hrs'⟩; exact ⟨hr, hlt, hb, b, hrs, hrs'⟩

theorem Adjoin.unique {text : String} {a b c d : Nat} {rs : List Span} (h : Adjoin text a rs b) (hne : rs ≠ [])
    (h' : Adjoin text c rs d) : a = c ∧ b = d := by
  induction rs generalizing a c with
  | nil => exact absurd rfl hne
  | cons r rs ih =>
      refine ⟨h.1.symm.trans h'.1, ?_⟩
      cases rs with
      | nil => exact h.2.2.2.symm.trans h'.2.2.2
      | cons r' rs => exact (ih h.2.2.2 (by simp) h'.2.2.2).2

theorem Adjoin.slice?_mem {text : String} {a b : Nat} {rs : List Span} (ha : isBoundary text a = true)
    (h : Adjoin text a rs b) : ∀ r ∈ rs, ∃ line, slice? text r.start r.stop = some line := by
  induction rs generalizing a with
  | nil => intro r hr; cases hr
  | cons r rs ih =>
      obtain ⟨rfl, hlt, hb, hrs⟩ := h
      exact List.forall_mem_cons.mpr ⟨slice?_exists ha hb (Nat.le_of_lt hlt), ih hb hrs⟩

/-- The first of some characters behind a text. -/
theorem cut_first {text p : String} {c : Char} {cs : List Char} (h : text = p ++ String.ofList (c :: cs)) :
    text = (p ++ String.singleton c) ++ String.ofList cs ∧ charAt? text p.utf8ByteSize = some c ∧
      (p ++ String.singleton c).utf8ByteSize = p.utf8ByteSize + c.utf8Size := by
  have hcut : text = (p ++ String.singleton c) ++ String.ofList cs := by
    rw [h, String.append_assoc, ← String.ofList_cons]
  exact ⟨hcut, charAt?_eq_some_iff.mpr (slice?_eq_some_iff.mpr ⟨p, String.ofList cs, hcut, rfl, by simp⟩), by simp⟩

theorem lineSpansFrom_adjoin {text p : String} {start : Nat} {cs : List Char}
    (htext : text = p ++ String.ofList cs) (hstart : start ≤ p.utf8ByteSize) :
    Adjoin text start (lineSpansFrom start p.utf8ByteSize cs) text.utf8ByteSize := by
  induction cs generalizing p start with
  | nil =>
      have hp : text = p := by simpa using htext
      subst hp
      simp only [lineSpansFrom]
      split
      · rename_i hlt; exact ⟨rfl, hlt, isBoundary_size text, rfl⟩
      · exact Nat.le_antisymm hstart (by omega)
  | cons c cs ih =>
      -- The current line goes on, or it ends with this character and the next one starts behind it.
      obtain ⟨hcut, _, hsize⟩ := cut_first htext
      have hpos := c.utf8Size_pos
      simp only [lineSpansFrom, ← hsize]
      split
      · refine ⟨rfl, ?_, isBoundary_iff.mpr ⟨_, _, hcut, rfl⟩, ih hcut (Nat.le_refl _)⟩
        show start < (p ++ String.singleton c).utf8ByteSize
        omega
      · exact ih hcut (by omega)

/-- The lines make up the text. -/
theorem lineSpans_adjoin (text : String) : Adjoin text 0 (lineSpans text) text.utf8ByteSize :=
  lineSpansFrom_adjoin (p := "") (by simp) (Nat.zero_le _)

/-! ## Texts behind one another -/

theorem Span.shift_zero (r : Span) : r.shift 0 = r := by
  rw [Span.shift, Nat.zero_add, Nat.zero_add]

/-- The text is empty or ends with a line feed. -/
def EndsLine (text : String) : Prop :=
  ∀ c ∈ text.toList.getLast?, c = '\n'

instance (text : String) : Decidable (EndsLine text) :=
  text.toList.getLast?.decidableForallMem

theorem lineSpansFrom_shift (base start pos : Nat) (cs : List Char) :
    lineSpansFrom (base + start) (base + pos) cs = (lineSpansFrom start pos cs).map (·.shift base) := by
  induction cs generalizing start pos with
  | nil =>
      simp only [lineSpansFrom, Nat.add_lt_add_iff_left]
      split
      · rfl
      · rfl
  | cons c cs ih =>
      simp only [lineSpansFrom, Nat.add_assoc, ih]
      split
      · rfl
      · rfl

theorem lineSpansFrom_append {start pos : Nat} {cs : List Char} (hstart : cs = [] → start = pos)
    (hend : ∀ c ∈ cs.getLast?, c = '\n') (ds : List Char) :
    lineSpansFrom start pos (cs ++ ds) = lineSpansFrom start pos cs ++
      lineSpansFrom (pos + (String.ofList cs).utf8ByteSize) (pos + (String.ofList cs).utf8ByteSize) ds := by
  induction cs generalizing start pos with
  | nil =>
      obtain rfl := hstart rfl
      simp [lineSpansFrom]
  | cons c cs ih =>
      have hsize : pos + (String.ofList (c :: cs)).utf8ByteSize =
          pos + c.utf8Size + (String.ofList cs).utf8ByteSize := by
        rw [String.ofList_cons, String.utf8ByteSize_append, String.utf8ByteSize_singleton, Nat.add_assoc]
      have hlast : ∀ d ∈ cs.getLast?, d = '\n' :=
        fun d hd => hend d (by simp [List.getLast?_cons, Option.mem_def.mp hd])
      rw [List.cons_append, lineSpansFrom, lineSpansFrom, hsize]
      split
      · rw [ih (fun _ => rfl) hlast, List.cons_append]
      next hc =>
        -- The last character is a line feed, so this one is not the last.
        exact ih (fun hnil => absurd (hend c (by rw [hnil]; rfl)) hc) hlast

/-- A text that ends with a line keeps its lines when another one comes behind it, and so does that one. -/
theorem lineSpans_append {first : String} (hend : EndsLine first) (second : String) :
    lineSpans (first ++ second) = lineSpans first ++ (lineSpans second).map (·.shift first.utf8ByteSize) := by
  rw [lineSpans, String.toList_append, lineSpansFrom_append (fun _ => rfl) hend, String.ofList_toList, Nat.zero_add]
  exact congrArg _ (lineSpansFrom_shift first.utf8ByteSize 0 0 second.toList)

/-! ## Line feeds -/

/-- A line holds no line feed but as its last byte. -/
theorem lineFeed_stop {text p : String} {start : Nat} {cs : List Char} (htext : text = p ++ String.ofList cs)
    (hopen : ∀ n, start ≤ n → n < p.utf8ByteSize → charAt? text n ≠ some '\n') :
    ∀ r ∈ lineSpansFrom start p.utf8ByteSize cs, ∀ n, r.start ≤ n → n < r.stop → charAt? text n = some '\n' →
      n + 1 = r.stop := by
  induction cs generalizing p start with
  | nil =>
      simp only [lineSpansFrom]
      split
      · intro r hr n hn hlt hc
        cases List.mem_singleton.mp hr
        exact absurd hc (hopen n hn hlt)
      · simp
  | cons c cs ih =>
      obtain ⟨hcut, hchar, hsize⟩ := cut_first htext
      simp only [lineSpansFrom, ← hsize]
      split
      next hfeed =>
        refine List.forall_mem_cons.mpr ⟨fun n hn hlt hc => ?_, ih hcut fun n hn hlt => absurd hlt (Nat.not_lt.mpr hn)⟩
        have hone : c.utf8Size = 1 := by rw [hfeed]; rfl
        have hbefore : ¬ n < p.utf8ByteSize := fun hlt => hopen n hn hlt hc
        simp only [hsize] at hlt ⊢
        omega
      next hfeed =>
        refine ih hcut fun n hn hlt hc => ?_
        -- No line feed starts before this character, at it, or inside it.
        rcases Nat.lt_trichotomy n p.utf8ByteSize with hbefore | rfl | hafter
        · exact hopen n hn hbefore hc
        · exact hfeed (Option.some.inj (hchar.symm.trans hc))
        · have hinside := charAt?_le hchar (slice?_left (charAt?_eq_some_iff.mp hc)) hafter
          omega

/-- Every line but the last one ends with a line feed. -/
theorem lineFeed_dropLast {text p : String} (start : Nat) {cs : List Char} (htext : text = p ++ String.ofList cs) :
    ∀ r ∈ (lineSpansFrom start p.utf8ByteSize cs).dropLast, ∃ n, charAt? text n = some '\n' ∧ n + 1 = r.stop := by
  induction cs generalizing p start with
  | nil =>
      simp only [lineSpansFrom]
      split
      · simp
      · simp
  | cons c cs ih =>
      obtain ⟨hcut, hchar, hsize⟩ := cut_first htext
      simp only [lineSpansFrom, ← hsize]
      split
      next hfeed =>
        subst hfeed
        cases hlines : lineSpansFrom (p ++ String.singleton '\n').utf8ByteSize
            (p ++ String.singleton '\n').utf8ByteSize cs with
        | nil => simp
        | cons r rs =>
            rw [List.dropLast_cons_cons, ← hlines]
            exact List.forall_mem_cons.mpr ⟨⟨_, hchar, hsize.symm⟩, ih _ hcut⟩
      next => exact ih start hcut

/-! ## Line by line -/

theorem lineSpansFrom_of_lineFeed {cs : List Char} {i : Nat} (h : lineFeed? cs = some i) (start pos : Nat) :
    ∃ front rest, cs = front ++ '\n' :: rest ∧ i = (String.ofList front).utf8ByteSize ∧
      lineSpansFrom start pos cs = ⟨start, pos + i + 1⟩ :: lineSpansFrom (pos + i + 1) (pos + i + 1) rest := by
  induction cs generalizing i pos with
  | nil => cases h
  | cons c cs ih =>
      rw [lineFeed?] at h
      split at h
      next hfeed =>
        cases h
        subst hfeed
        exact ⟨[], cs, rfl, rfl, rfl⟩
      next hfeed =>
        obtain ⟨j, hj, rfl⟩ := Option.map_eq_some_iff.mp h
        obtain ⟨front, rest, rfl, rfl, hlines⟩ := ih hj (pos + c.utf8Size)
        refine ⟨c :: front, rest, rfl, ?_, ?_⟩
        · rw [String.ofList_cons, String.utf8ByteSize_append, String.utf8ByteSize_singleton]
        · simp only [lineSpansFrom, if_neg hfeed, hlines, Nat.add_assoc]

theorem lineSpansFrom_of_no_lineFeed {cs : List Char} (h : lineFeed? cs = none) (start pos : Nat) :
    lineSpansFrom start pos cs = if start < pos + (String.ofList cs).utf8ByteSize then
      [⟨start, pos + (String.ofList cs).utf8ByteSize⟩] else [] := by
  induction cs generalizing pos with
  | nil => simp [lineSpansFrom]
  | cons c cs ih =>
      rw [lineFeed?] at h
      split at h
      next => cases h
      next hfeed =>
        have hsize : pos + (String.ofList (c :: cs)).utf8ByteSize =
            pos + c.utf8Size + (String.ofList cs).utf8ByteSize := by
          rw [String.ofList_cons, String.utf8ByteSize_append, String.utf8ByteSize_singleton, Nat.add_assoc]
        rw [hsize, lineSpansFrom, if_neg hfeed, ih (Option.map_eq_none_iff.mp h)]

/-- The lines from an offset on. -/
def linesFrom (text : String) (pos : Nat) : List Span :=
  lineSpansFrom pos pos (slice text ⟨pos, text.utf8ByteSize⟩).toList

theorem linesFrom_size (text : String) : linesFrom text text.utf8ByteSize = [] := by
  rw [linesFrom, slice_eq (slice?_self (isBoundary_size text))]
  simp [lineSpansFrom]

/-- A call hands out the first of the lines from its offset on. -/
theorem nextLine_hands {text : String} {pos : Nat} (h : isBoundary text pos = true) :
    Calls.Hands (linesFrom text) (isBoundary text · = true) (linesFrom text pos) (nextLine text pos) := by
  have hle := isBoundary_le h
  obtain ⟨tail, htail⟩ := slice?_exists h (isBoundary_size text) hle
  have hslice : slice text ⟨pos, text.utf8ByteSize⟩ = tail := slice_eq htail
  unfold nextLine
  split
  next hend =>
    obtain rfl : pos = text.utf8ByteSize := Nat.le_antisymm hle hend
    exact ⟨by simp [linesFrom_size], fun _ => linesFrom_size text, h⟩
  next hmore =>
    rw [hslice, linesFrom, hslice]
    cases hfeed : lineFeed? tail.toList with
    | some i =>
        obtain ⟨front, rest, hcs, rfl, hlines⟩ := lineSpansFrom_of_lineFeed hfeed pos pos
        have hcut : tail = String.ofList (front ++ ['\n']) ++ String.ofList rest := by
          rw [← String.toList_inj, hcs]
          simp
        have hstop : pos + (String.ofList (front ++ ['\n'])).utf8ByteSize =
            pos + (String.ofList front).utf8ByteSize + 1 := by
          rw [String.ofList_append, String.utf8ByteSize_append, ← Nat.add_assoc]
          rfl
        have hrest := (slice?_split (hcut ▸ htail)).2
        rw [hstop] at hrest
        refine ⟨?_, (fun hnone => by cases hnone), slice?_left hrest⟩
        rw [hlines, linesFrom, slice_eq hrest, String.toList_ofList]
        rfl
    | none =>
        have hsize := slice?_size htail
        refine ⟨?_, (fun hnone => by cases hnone), isBoundary_size text⟩
        rw [lineSpansFrom_of_no_lineFeed hfeed, String.ofList_toList, ← hsize, if_pos (by omega), linesFrom_size]
        rfl

theorem item_nextLine (text : String) (n : Nat) : Calls.item (nextLine text) 0 n = (lineSpans text)[n]? := by
  rw [Calls.item_eq (fun _ => nextLine_hands) (isBoundary_zero text), linesFrom, slice_eq (slice?_all text)]
  rfl

/-- The lines of a text are split off one after the other, until the end of the text is reached, and nothing gets
lost: they follow one another from the start to the end of the text and none is empty, a line holds no line feed but
as its last byte, and every line but the last one has it. Behind a text that ends with a line, another text has the
lines that it has alone. -/
theorem lineSpans_lossless (text : String) :
    (∀ n, Calls.item (nextLine text) 0 n = (lineSpans text)[n]?) ∧
    Adjoin text 0 (lineSpans text) text.utf8ByteSize ∧
    (∀ span ∈ lineSpans text, ∀ n, span.start ≤ n → n < span.stop → charAt? text n = some '\n' → n + 1 = span.stop) ∧
    (∀ span ∈ (lineSpans text).dropLast, ∃ n, charAt? text n = some '\n' ∧ n + 1 = span.stop) ∧
    (EndsLine text → ∀ second, lineSpans (text ++ second) =
      lineSpans text ++ (lineSpans second).map (·.shift text.utf8ByteSize)) := by
  have htext : text = "" ++ String.ofList text.toList := by simp
  refine ⟨item_nextLine text, lineSpans_adjoin text, ?_, ?_, lineSpans_append⟩
  · exact lineFeed_stop htext fun n _ hlt => by simp at hlt
  · exact lineFeed_dropLast 0 htext

/-- Two lines, one of them empty but for its end, with a text behind that has no line feed. -/
theorem lineSpans_lossless_blank : EndsLine "é\n\n" ∧ lineSpans "é\n\n" = [⟨0, 3⟩, ⟨3, 4⟩] ∧
    Calls.item (nextLine "é\n\n") 0 1 = some ⟨3, 4⟩ ∧ Calls.item (nextLine "é\n\n") 0 5 = none ∧
    (∃ n, charAt? "é\n\n" n = some '\n' ∧ n + 1 = 3) ∧
    lineSpans ("é\n\n" ++ "b") = [⟨0, 3⟩, ⟨3, 4⟩, ⟨4, 5⟩] := by
  have hends : EndsLine "é\n\n" := by decide
  have hlines : lineSpans "é\n\n" = [⟨0, 3⟩, ⟨3, 4⟩] := by decide
  obtain ⟨hcalls, _, _, hfeeds, happend⟩ := lineSpans_lossless "é\n\n"
  refine ⟨hends, hlines, ?_, ?_, ?_, ?_⟩
  · rw [hcalls, hlines]; rfl
  · rw [hcalls, hlines]; rfl
  · exact hfeeds ⟨0, 3⟩ (by rw [hlines]; decide)
  · rw [happend hends, hlines]; decide

end ModalLexer.Text
