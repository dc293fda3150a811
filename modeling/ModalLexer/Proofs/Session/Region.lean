import ModalLexer.Proofs.Outcome
import ModalLexer.Proofs.Pattern.Matcher
import ModalLexer.Proofs.Session.Merge
import ModalLexer.Proofs.Text.Lines
import ModalLexer.Session.Basic

/-!
Regions of prompt lines. A region is gathered line by line: its code is the code of the lines joined, and the
prompts have their places where the code of each line begins. So the lines can be read off it again: the code
with the prompts put in is the text of the lines.
-/

namespace ModalLexer.Session

open Text

/-! ## Prompt lines -/

/-- A prompt line: the token of its prompt, and the code after it. -/
structure PromptLine where
  prompt : Token
  code : String

/-- The code of the lines, joined. -/
def codeOf (lines : List PromptLine) : String :=
  String.join (lines.map (·.code))

/-- The text of the lines, joined. -/
def sourceOf (lines : List PromptLine) : String :=
  String.join (lines.map fun l => l.prompt.text ++ l.code)

/-- The prompts by their places, where the code of the first line begins at an offset. -/
def promptsFrom (pos : Nat) : List PromptLine → List Insertion
  | [] => []
  | l :: ls => ⟨pos, [l.prompt]⟩ :: promptsFrom (pos + l.code.utf8ByteSize) ls

/-- The region of some lines. -/
def Region.ofLines (start : Nat) (lines : List PromptLine) : Region :=
  { start, code := codeOf lines, prompts := promptsFrom 0 lines }

@[simp] theorem codeOf_nil : codeOf [] = "" := by
  simp [codeOf]

@[simp] theorem codeOf_cons (l : PromptLine) (ls : List PromptLine) : codeOf (l :: ls) = l.code ++ codeOf ls := by
  simp [codeOf]

theorem codeOf_append (ls ls' : List PromptLine) : codeOf (ls ++ ls') = codeOf ls ++ codeOf ls' := by
  simp [codeOf]

theorem promptsFrom_append (pos : Nat) (ls ls' : List PromptLine) :
    promptsFrom pos (ls ++ ls') = promptsFrom pos ls ++ promptsFrom (pos + (codeOf ls).utf8ByteSize) ls' := by
  induction ls generalizing pos with
  | nil => simp [promptsFrom]
  | cons l ls ih => simp [promptsFrom, ih, Nat.add_assoc]

theorem Region.ofLines_add (start : Nat) (lines : List PromptLine) (l : PromptLine) :
    (Region.ofLines start lines).add l.prompt l.code = Region.ofLines start (lines ++ [l]) := by
  simp [Region.ofLines, Region.add, codeOf_append, promptsFrom_append, promptsFrom]

theorem mem_promptsFrom {pos : Nat} {lines : List PromptLine} {i : Insertion} (h : i ∈ promptsFrom pos lines) :
    ∃ l ∈ lines, i.tokens = [l.prompt] := by
  induction lines generalizing pos with
  | nil => cases h
  | cons l ls ih =>
      rcases List.mem_cons.mp h with rfl | h
      · exact ⟨l, List.mem_cons_self, rfl⟩
      · obtain ⟨l', hl', hi⟩ := ih h
        exact ⟨l', List.mem_cons_of_mem _ hl', hi⟩

/-! ## The places of the prompts -/

theorem promptsFrom_fit {code p : String} {lines : List PromptLine} (hcode : code = p ++ codeOf lines) :
    Fit code p.utf8ByteSize (promptsFrom p.utf8ByteSize lines) := by
  induction lines generalizing p with
  | nil => trivial
  | cons l ls ih =>
      have hnext : code = (p ++ l.code) ++ codeOf ls := by rw [hcode, codeOf_cons, String.append_assoc]
      refine ⟨Nat.le_refl _, isBoundary_iff.mpr ⟨p, _, hcode, rfl⟩, ?_⟩
      have hrest := ih hnext
      rw [String.utf8ByteSize_append] at hrest
      exact .mono (Nat.le_add_right _ _) hrest

theorem weaveFrom_skip {code : String} {a b : Nat} {is : List Insertion} (ha : isBoundary code a = true)
    (hb : isBoundary code b = true) (hab : a ≤ b) (hfit : Fit code b is) :
    weaveFrom code a is = slice code ⟨a, b⟩ ++ weaveFrom code b is := by
  obtain ⟨u, hu⟩ := slice?_exists ha hb hab
  cases is with
  | nil =>
      obtain ⟨v, hv⟩ := slice?_exists hb (isBoundary_size code) (isBoundary_le hb)
      rw [weaveFrom, weaveFrom, slice_eq hu, slice_eq hv, slice_eq (slice?_append hu hv)]
  | cons i is =>
      obtain ⟨v, hv⟩ := slice?_exists hb hfit.2.1 hfit.1
      rw [weaveFrom, weaveFrom, slice_eq hu, slice_eq hv, slice_eq (slice?_append hu hv)]
      simp only [String.append_assoc]

theorem weaveFrom_promptsFrom {code p : String} {lines : List PromptLine}
    (hcode : code = p ++ codeOf lines) :
    weaveFrom code p.utf8ByteSize (promptsFrom p.utf8ByteSize lines) = sourceOf lines := by
  induction lines generalizing p with
  | nil =>
      obtain rfl : code = p := by simpa using hcode
      simp [promptsFrom, weaveFrom, sourceOf, slice_eq (slice?_self (isBoundary_size code))]
  | cons l ls ih =>
      have hnext : code = (p ++ l.code) ++ codeOf ls := by rw [hcode, codeOf_cons, String.append_assoc]
      have hp : isBoundary code p.utf8ByteSize = true := isBoundary_iff.mpr ⟨p, _, hcode, rfl⟩
      have hcut := slice?_eq_some_iff.mpr ⟨p, codeOf ls, hnext, rfl, rfl⟩
      have hrest := ih hnext
      have hfit := promptsFrom_fit hnext
      rw [String.utf8ByteSize_append] at hrest hfit
      rw [promptsFrom, weaveFrom, weaveFrom_skip hp (slice?_right hcut) (Nat.le_add_right _ _) hfit, hrest,
        slice_eq (slice?_self hp), slice_eq hcut]
      simp [sourceOf, String.append_assoc]

theorem weave_promptsFrom (lines : List PromptLine) :
    weave (codeOf lines) (promptsFrom 0 lines) = sourceOf lines :=
  weaveFrom_promptsFrom (p := "") (by simp)

/-! ## Regions of a transcript -/

/-- The length of the prompt of a line, zero where it has none. -/
def promptSize (s : Session) (line : String) : Nat :=
  match s.promptLength? line with
  | .ok (some n) => n
  | _ => 0

/-- The line begins with a prompt. -/
def IsPrompt (s : Session) (text : String) (span : Span) : Prop :=
  ∃ n, s.promptLength? (slice text span) = .ok (some n)

/-- Where the code of a line begins. -/
def codeStart (s : Session) (text : String) (span : Span) : Nat :=
  span.start + s.promptSize (slice text span)

/-- A line of the transcript as a prompt line. -/
def promptLine (s : Session) (text : String) (span : Span) : PromptLine :=
  let line := slice text span
  let n := s.promptSize line
  { prompt := ⟨span.start, s.config.promptKind, slice line ⟨0, n⟩⟩
    code := slice line ⟨n, line.utf8ByteSize⟩ }

/-- What is known of a region that has been read up to an offset: the places of the prompts are boundaries of
the code in order, the first of them its start, and the transcript reads like the code with the prompts put in. -/
structure Region.Holds (text : String) (stop : Nat) (r : Region) : Prop where
  ordered : (r.prompts.map (·.index)).Pairwise (· ≤ ·)
  boundaries : ∀ i ∈ r.prompts, isBoundary r.code i.index = true
  first : r.prompts.head?.map (·.index) = some 0
  woven : slice? text r.start stop = some (weave r.code r.prompts)

/-- The region of a run of prompt lines that ends at an offset. -/
structure Gathered (s : Session) (text : String) (run : List Span) (stop : Nat) (r : Region) : Prop where
  nonempty : run ≠ []
  prompts : ∀ span ∈ run, s.IsPrompt text span
  boundary : isBoundary text r.start = true
  adjoin : Adjoin text r.start run stop
  lines : r = Region.ofLines r.start (run.map (s.promptLine text))

variable {s : Session} {text line : String} {span : Span} {run : List Span} {stop n : Nat} {r : Region}

theorem promptLength?_sound (hp : s.prompt.Sound) (h : s.promptLength? line = .ok (some n)) :
    0 < n ∧ isBoundary line n = true := by
  unfold promptLength? at h
  split at h
  · cases h
  · rename_i found hf
    obtain ⟨span, hspan, rfl⟩ := Option.map_eq_some_iff.mp (Except.ok.inj h)
    obtain ⟨rfl, hne⟩ := Option.filter_eq_some_iff.mp hspan
    obtain ⟨hstart, _, hstop⟩ := hp.find (isBoundary_zero line) hf
    simp only [Span.isEmpty, hstart, Nat.le_zero, Bool.not_eq_true', decide_eq_false_iff_not] at hne
    exact ⟨Nat.pos_of_ne_zero hne, hstop⟩

/-- A prompt line is its prompt, which is not empty, and its code. -/
theorem promptLine_slices (hp : s.prompt.Sound) (hprompt : s.IsPrompt text span)
    (hl : slice? text span.start span.stop = some line) :
    slice? text span.start (s.codeStart text span) = some (s.promptLine text span).prompt.text ∧
      slice? text (s.codeStart text span) span.stop = some (s.promptLine text span).code ∧
      (s.promptLine text span).prompt.text ≠ "" := by
  obtain ⟨n, hn⟩ := hprompt
  have hline : slice text span = line := slice_eq hl
  rw [hline] at hn
  obtain ⟨hpos, hb⟩ := promptLength?_sound hp hn
  have hsize : s.promptSize line = n := by simp [promptSize, hn]
  obtain ⟨u, hu⟩ := slice?_exists (isBoundary_zero line) hb (Nat.zero_le n)
  obtain ⟨v, hv⟩ := slice?_exists hb (isBoundary_size line) (isBoundary_le hb)
  have hu' := slice?_trans hl hu
  have hv' := slice?_trans hl hv
  rw [← slice?_size hl] at hv'
  simp only [codeStart, promptLine, hline, hsize, slice_eq hu, slice_eq hv]
  refine ⟨hu', hv', ?_⟩
  rintro rfl
  have := slice?_size hu
  simp at this
  omega

theorem slice?_run (hp : s.prompt.Sound) {start : Nat} (hstart : isBoundary text start = true)
    (hprompts : ∀ span ∈ run, s.IsPrompt text span) (h : Adjoin text start run stop) :
    slice? text start stop = some (sourceOf (run.map (s.promptLine text))) := by
  induction run generalizing start with
  | nil => obtain rfl : start = stop := h; simpa [sourceOf] using slice?_self hstart
  | cons span run ih =>
      obtain ⟨hspan, hrun⟩ := List.forall_mem_cons.mp hprompts
      obtain ⟨rfl, hlt, hb, h⟩ := h
      obtain ⟨line, hl⟩ := slice?_exists hstart hb (Nat.le_of_lt hlt)
      obtain ⟨hprompt, hcode, _⟩ := promptLine_slices hp hspan hl
      have hjoin := slice?_append (slice?_append hprompt hcode) (ih hb hrun h)
      simpa [sourceOf] using hjoin

namespace Gathered

theorem woven (hp : s.prompt.Sound) (h : Gathered s text run stop r) :
    slice? text r.start stop = some (weave r.code r.prompts) := by
  have hsource := slice?_run hp h.boundary h.prompts h.adjoin
  rw [← weave_promptsFrom] at hsource
  rw [h.lines]
  exact hsource

theorem fit (h : Gathered s text run stop r) : Fit r.code 0 r.prompts := by
  rw [h.lines]
  exact promptsFrom_fit (p := "") (by simp [Region.ofLines])

theorem holds (hp : s.prompt.Sound) (h : Gathered s text run stop r) : r.Holds text stop where
  ordered := h.fit.ordered.1
  boundaries i hi := (h.fit.ordered.2 i hi).2
  first := by
    rw [h.lines]
    cases hrun : run with
    | nil => exact absurd hrun h.nonempty
    | cons span run => rfl
  woven := h.woven hp

theorem prompts_ne_empty (hp : s.prompt.Sound) (h : Gathered s text run stop r) :
    ∀ i ∈ r.prompts, ∀ t ∈ i.tokens, t.text ≠ "" := by
  intro i hi t ht
  rw [h.lines] at hi
  obtain ⟨l, hl, htokens⟩ := mem_promptsFrom hi
  obtain ⟨span, hspan, rfl⟩ := List.mem_map.mp hl
  rw [htokens, List.mem_singleton] at ht
  subst ht
  obtain ⟨line, hline⟩ := h.adjoin.slice?_mem h.boundary span hspan
  exact (promptLine_slices hp (h.prompts span hspan) hline).2.2

theorem start {pos : Nat} (hpos : isBoundary text pos = true) (hprompt : s.IsPrompt text span)
    (h : Adjoin text pos [span] stop) :
    Gathered s text [span] stop (Region.ofLines pos [s.promptLine text span]) where
  nonempty := by simp
  prompts := by simpa using hprompt
  boundary := hpos
  adjoin := h
  lines := rfl

theorem add {mid : Nat} (hr : Gathered s text run mid r) (hprompt : s.IsPrompt text span)
    (h : Adjoin text mid [span] stop) :
    Gathered s text (run ++ [span]) stop (r.add (s.promptLine text span).prompt (s.promptLine text span).code) where
  nonempty := by simp
  prompts := by
    intro span' hspan
    rcases List.mem_append.mp hspan with hspan | hspan
    · exact hr.prompts span' hspan
    · rw [List.mem_singleton.mp hspan]; exact hprompt
  boundary := hr.boundary
  adjoin := Adjoin.append_iff.mpr ⟨mid, hr.adjoin, h⟩
  lines := by
    have hlines := hr.lines
    generalize r.start = start at hlines
    subst hlines
    rw [Region.ofLines_add, List.map_append]
    rfl

end Gathered

end ModalLexer.Session
