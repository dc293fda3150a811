import ModalLexer.Command.Listing
import ModalLexer.Command.Log
import ModalLexer.Proofs.Document.Kinds
import ModalLexer.Proofs.Text.Quoted

/-!
The listing of an input holds all of it. The tokens of an input cover it, so no run breaks off for a gap; each token has
a line of its own, as long as no kind goes over the end of a line; and the lines can be read back, each with the offset
of its token and the text.
-/

namespace ModalLexer.Command

open Text

/-! ## Reading a listing back -/

/-- The listing can be read back: its texts joined are the text, and the number of each is the length in bytes of the
texts before it. -/
def ReadsBack (listing text : String) : Prop :=
  ∃ lines, readListing listing = some lines ∧ String.join (lines.map (·.2)) = text ∧
    ∀ n offset piece, lines[n]? = some (offset, piece) →
      offset = (String.join ((lines.take n).map (·.2))).utf8ByteSize

theorem splitLines_line {line : List Char} (h : '\n' ∉ line) (rest : List Char) :
    splitLines (line ++ '\n' :: rest) = line :: splitLines rest := by
  induction line with
  | nil => rfl
  | cons c line ih =>
      obtain ⟨hc, hline⟩ := List.ne_and_not_mem_of_not_mem_cons h
      rw [List.cons_append, splitLines, if_neg hc.symm, ih hline]

/-- The line of a token, without its line feed. -/
def lineOf (t : Token) : List Char :=
  Nat.toDigits 10 t.offset ++ '\t' :: (t.kind.path.toList ++ '\t' :: (quote t.text).toList)

theorem tokenLine_toList (t : Token) : (tokenLine t).toList = lineOf t ++ ['\n'] := by
  have htext (s : String) : toString s = s := rfl
  simp [tokenLine, lineOf, htext]

theorem lineOf_oneLine {t : Token} (h : '\n' ∉ t.kind.path.toList) : '\n' ∉ lineOf t := by
  intro hmem
  simp only [lineOf, List.mem_append, List.mem_cons] at hmem
  rcases hmem with hmem | hmem | hmem | hmem | hmem
  · exact (toDigits_inPart (by decide) (by decide) t.offset _ hmem).2 rfl
  · cases hmem
  · exact h hmem
  · cases hmem
  · exact (quote_inPart t.text _ hmem).2 rfl

theorem takeWhile_inPart {part : List Char} (h : ∀ c ∈ part, InPart c) (rest : List Char) :
    (part ++ '\t' :: rest).takeWhile (· != '\t') = part := by
  rw [List.takeWhile_append_of_pos fun c hc => bne_iff_ne.mpr (h c hc).1]
  simp

theorem readLine_lineOf (t : Token) : readLine (lineOf t) = some (t.offset, t.text) := by
  have hnumber : (lineOf t).takeWhile (· != '\t') = Nat.toDigits 10 t.offset :=
    takeWhile_inPart (toDigits_inPart (by decide) (by decide) t.offset) _
  -- A kind may hold tabs, but a quoted text does not, so the last tab is the one before it.
  have hquoted : (lineOf t).reverse.takeWhile (· != '\t') = (quote t.text).toList.reverse := by
    simp only [lineOf, List.reverse_append, List.reverse_cons, List.append_assoc, List.singleton_append]
    exact takeWhile_inPart (fun c hc => quote_inPart t.text c (List.mem_reverse.mp hc)) _
  have hdigits : (Nat.toDigits 10 t.offset).all Char.isDigit = true :=
    List.all_eq_true.mpr fun c hc => Nat.isDigit_of_mem_toDigits (by decide) (by decide) hc
  have hvalue : Nat.ofDigitChars 10 (Nat.toDigits 10 t.offset) 0 = t.offset :=
    Nat.ofDigitChars_toDigits (by decide) (by decide)
  simp only [readLine, hnumber, hquoted, List.reverse_reverse, unquote_quote, Option.map_some, hvalue]
  rw [if_pos ⟨Nat.toDigits_ne_nil, hdigits⟩]

theorem readListing_tokens {tokens : List Token} (h : ∀ t ∈ tokens, '\n' ∉ t.kind.path.toList) :
    readListing (String.join (tokens.map tokenLine)) = some (tokens.map fun t => (t.offset, t.text)) := by
  unfold readListing
  induction tokens with
  | nil => rfl
  | cons t tokens ih =>
      obtain ⟨ht, htokens⟩ := List.forall_mem_cons.mp h
      rw [List.map_cons, String.join_cons, String.toList_append, tokenLine_toList, List.append_assoc,
        List.singleton_append, splitLines_line (lineOf_oneLine ht), List.mapM_cons, readLine_lineOf, ih htokens]
      rfl

theorem offset_of_tiles {source : String} {a b : Nat} {tokens : List Token} (h : Tiles source a tokens b) {n : Nat}
    {t : Token} (hn : tokens[n]? = some t) : t.offset = a + (texts (tokens.take n)).utf8ByteSize := by
  induction tokens generalizing a n with
  | nil => cases hn
  | cons first tokens ih =>
      obtain ⟨hfirst, _, _, hrest⟩ := h
      cases n with
      | zero => cases hn; simpa using hfirst
      | succ n =>
          rw [ih hrest hn, List.take_succ_cons, texts_cons, String.utf8ByteSize_append, Nat.add_assoc]
          rfl

/-- The listing of tokens that tile a text, with kinds that stand on one line. -/
theorem readsBack_of_tiles {text : String} {tokens : List Token} (htiles : Tiles text 0 tokens text.utf8ByteSize)
    (hkinds : ∀ t ∈ tokens, '\n' ∉ t.kind.path.toList) : ReadsBack (String.join (tokens.map tokenLine)) text := by
  have hpieces (tokens : List Token) : String.join ((tokens.map fun t => (t.offset, t.text)).map (·.2)) =
      texts tokens := by rw [List.map_map]; rfl
  refine ⟨_, readListing_tokens hkinds, ?_, fun n offset piece hn => ?_⟩
  · rw [hpieces]
    exact Option.some.inj ((htiles.slice? (isBoundary_zero text)).symm.trans (slice?_all text))
  · rw [List.getElem?_map] at hn
    obtain ⟨t, ht, heq⟩ := Option.map_eq_some_iff.mp hn
    cases heq
    rw [← List.map_take, hpieces, offset_of_tiles htiles ht, Nat.zero_add]

/-! ## Runs -/

variable {i : Invocation} {s : Surroundings}

theorem tokenLines_eq_ok {lexer : Lexer} {input : Input} {listing : String}
    (h : tokenLines lexer input = .ok listing) :
    ∃ tokens, lexer.tokenize input.text = .ok tokens ∧ Tiles input.text 0 tokens input.text.utf8ByteSize ∧
      listing = String.join (tokens.map tokenLine) := by
  unfold tokenLines at h
  split at h
  · cases h
  next tokens htokens =>
    split at h
    · cases h
    next hnone =>
      cases h
      exact ⟨tokens, htokens, uncovered?_eq_none_iff.mp hnone, rfl⟩

theorem prepare_eq_ok_iff {p : Prepared} : prepare i s = .ok p ↔ ∃ t, loadTable i s = .ok t ∧
    readInputs s s.stdin i.inputNames = .ok p.inputs ∧ Lexer.ofTable i t = .ok p.lexer := by
  constructor
  · intro h
    obtain ⟨t, ht, h⟩ := bind_eq_ok.mp h
    obtain ⟨inputs, hinputs, h⟩ := bind_eq_ok.mp h
    obtain ⟨lexer, hlexer, h⟩ := bind_eq_ok.mp h
    cases h
    exact ⟨t, ht, hinputs, hlexer⟩
  · rintro ⟨t, ht, hinputs, hlexer⟩
    exact bind_eq_ok.mpr ⟨t, ht, bind_eq_ok.mpr ⟨p.inputs, hinputs, bind_eq_ok.mpr ⟨p.lexer, hlexer, rfl⟩⟩⟩

theorem prepare_eq_ok {p : Prepared} (h : prepare i s = .ok p) :
    ∃ source document d t, readText s i.table = .ok source ∧ Document.load source = .ok document ∧
      Document.toDeclaration { document with root := i.root.getD document.root } = .ok d ∧ d.build = .ok t ∧
      readInputs s s.stdin i.inputNames = .ok p.inputs ∧ Lexer.ofTable i t = .ok p.lexer := by
  obtain ⟨t, ht, hinputs, hlexer⟩ := prepare_eq_ok_iff.mp h
  obtain ⟨d, hd, ht⟩ := bind_eq_ok.mp ht
  obtain ⟨source, hsource, hd⟩ := bind_eq_ok.mp hd
  obtain ⟨document, hdocument, hd⟩ := bind_eq_ok.mp hd
  exact ⟨source, document, d, t, hsource, mapError_eq_ok.mp hdocument, mapError_eq_ok.mp hd, mapError_eq_ok.mp ht,
    hinputs, hlexer⟩

theorem lexerOfTable_eq_ok {t : Table} {lexer : Lexer} (h : Lexer.ofTable i t = .ok lexer) :
    lexer = .plain t ∨ ∃ session, Session.ofTable t i.sessionConfig = .ok session ∧ lexer = .transcript session := by
  unfold Lexer.ofTable at h
  split at h
  · obtain ⟨session, hsession, rfl⟩ := map_eq_ok.mp h
    exact .inr ⟨session, mapError_eq_ok.mp hsession, rfl⟩
  · cases h
    exact .inl rfl

theorem sessionConfig_kinds (i : Invocation) : i.sessionConfig.promptKind = .prompt ∧
    i.sessionConfig.outputKind = .output ∧ i.sessionConfig.tracebackKind = .traceback := by
  unfold Invocation.sessionConfig
  split
  · exact ⟨rfl, rfl, rfl⟩
  · exact ⟨rfl, rfl, rfl⟩

theorem prepare_tiles {p : Prepared} (h : prepare i s = .ok p) {text : String} {tokens : List Token}
    (ht : p.lexer.tokenize text = .ok tokens) : Tiles text 0 tokens text.utf8ByteSize := by
  obtain ⟨_, _, d, t, _, _, _, hb, _, hlexer⟩ := prepare_eq_ok h
  rcases lexerOfTable_eq_ok hlexer with heq | ⟨session, ho, heq⟩
  · rw [heq] at ht
    exact Table.tokenize_tiles (d.build_sound hb) ht
  · rw [heq] at ht
    obtain ⟨rfl, _, hprompt⟩ := Session.ofTable_sound ho
    have hsplice := Session.tokenize_eq_ok.mp ht
    have htiles := Session.splice_tiles (d.build_sound hb) hprompt (congrArg (·.error) hsplice)
    rw [hsplice] at htiles
    exact htiles

theorem prepare_oneLine {p : Prepared} (h : prepare i s = .ok p)
    (hkinds : ∀ source document, readText s i.table = .ok source → Document.load source = .ok document →
      ∀ k ∈ document.kinds, '\n' ∉ k.path.toList) {text : String} {tokens : List Token}
    (ht : p.lexer.tokenize text = .ok tokens) : ∀ t ∈ tokens, '\n' ∉ t.kind.path.toList := by
  obtain ⟨source, document, d, t, hsource, hdocument, hd, hb, _, hlexer⟩ := prepare_eq_ok h
  have hsame := Document.keep_mapKinds hd (P := fun k => '\n' ∉ k.path.toList) (by decide) (by decide)
    (hkinds source document hsource hdocument)
  rcases lexerOfTable_eq_ok hlexer with heq | ⟨session, ho, heq⟩
  · rw [heq] at ht
    exact Table.tokenize_kinds hb hsame (by decide) ht
  · rw [heq] at ht
    obtain ⟨hprompt, houtput, htraceback⟩ := sessionConfig_kinds i
    refine Session.tokenize_kinds hb hsame (by decide) ho ?_ ?_ ?_ ht
    · rw [hprompt]; decide
    · rw [houtput]; decide
    · rw [htraceback]; decide

/-! ## Failures -/

/-- The failure comes before the first token. -/
def Failure.IsEarly : Failure → Prop
  | .file _ => True
  | .setup _ => True
  | _ => False

theorem isEarly_of_mapError {α ε : Type} {x : Except ε α} {g : ε → Failure} {f : Failure}
    (h : x.mapError g = .error f) (hg : ∀ e, (g e).IsEarly) : f.IsEarly := by
  obtain ⟨e, _, rfl⟩ := mapError_eq_error.mp h
  exact hg e

theorem readText_isEarly {path : String} {f : Failure} (h : readText s path = .error f) : f.IsEarly := by
  rcases bind_eq_error.mp h with h | ⟨_, _, h⟩
  · exact isEarly_of_mapError h fun _ => trivial
  · exact isEarly_of_mapError h fun _ => trivial

theorem readInputs_isEarly {stdin : ByteArray} {names : List String} {f : Failure}
    (h : readInputs s stdin names = .error f) : f.IsEarly := by
  induction names generalizing stdin with
  | nil => cases h
  | cons name names ih =>
      rcases bind_eq_error.mp h with h | ⟨⟨input, stdin'⟩, _, h⟩
      · unfold readInput at h
        split at h
        · rcases bind_eq_error.mp h with h | ⟨_, _, h⟩
          · exact isEarly_of_mapError h fun _ => trivial
          · cases h
        · rcases bind_eq_error.mp h with h | ⟨_, _, h⟩
          · exact readText_isEarly h
          · cases h
      · rcases bind_eq_error.mp h with h | ⟨_, _, h⟩
        · exact ih h
        · cases h

theorem loadTable_isEarly {f : Failure} (h : loadTable i s = .error f) : f.IsEarly := by
  rcases bind_eq_error.mp h with h | ⟨_, _, h⟩
  · rcases bind_eq_error.mp h with h | ⟨_, _, h⟩
    · exact readText_isEarly h
    · rcases bind_eq_error.mp h with h | ⟨_, _, h⟩
      · exact isEarly_of_mapError h fun _ => trivial
      · exact isEarly_of_mapError h fun _ => trivial
  · exact isEarly_of_mapError h fun _ => trivial

theorem prepare_isEarly {f : Failure} (h : prepare i s = .error f) : f.IsEarly := by
  rcases bind_eq_error.mp h with h | ⟨t, _, h⟩
  · exact loadTable_isEarly h
  · rcases bind_eq_error.mp h with h | ⟨_, _, h⟩
    · exact readInputs_isEarly h
    · rcases bind_eq_error.mp h with h | ⟨_, _, h⟩
      · unfold Lexer.ofTable at h
        split at h
        · exact isEarly_of_mapError (map_eq_error.mp h) fun _ => trivial
        · cases h
      · cases h

theorem printSections_failure {lexer : Lexer} {headers first : Bool} {inputs : List Input} {f : Failure}
    (h : (printSections lexer headers first inputs).failure = some f) :
    ∃ input ∈ inputs, tokenLines lexer input = .error f := by
  induction inputs generalizing first with
  | nil => cases h
  | cons input inputs ih =>
      simp only [printSections] at h
      split at h
      next hlines =>
        cases h
        exact ⟨input, List.mem_cons_self, hlines⟩
      · obtain ⟨input', hmem, hlines⟩ := ih h
        exact ⟨input', List.mem_cons_of_mem _ hmem, hlines⟩

theorem tokenLines_ne_uncovered {p : Prepared} (h : prepare i s = .ok p) (input : Input) {name : String}
    {offset : Nat} : tokenLines p.lexer input ≠ .error (.uncovered name offset) := by
  intro hlines
  unfold tokenLines at hlines
  split at hlines
  · cases hlines
  next tokens ht =>
    rw [uncovered?_eq_none_iff.mpr (prepare_tiles h ht)] at hlines
    cases hlines

/-- No run finds a gap between tokens. -/
theorem run_ne_uncovered (hi : i.subcommand = .tokens) {name : String} {offset : Nat} :
    (run i s).failure ≠ some (.uncovered name offset) := by
  intro hf
  unfold run work deliver at hf
  rw [hi] at hf
  simp only at hf
  cases hp : prepare i s with
  | error f =>
      rw [hp] at hf
      cases hf
      -- A gap is not among the failures that come before the first token.
      exact prepare_isEarly hp
  | ok p =>
      rw [hp] at hf
      have hprinted : (printTokens p).failure ≠ some (.uncovered name offset) := by
        intro hfail
        obtain ⟨input, _, hlines⟩ := printSections_failure hfail
        exact tokenLines_ne_uncovered hp input hlines
      simp only [Except.map] at hf
      split at hf
      · exact hprinted hf
      · split at hf
        · cases hf
        · exact hprinted hf

/-- A run without a failure has written all that was printed. -/
theorem run_eq_ok (hi : i.subcommand = .tokens) (hf : (run i s).failure = none) :
    ∃ p, prepare i s = .ok p ∧ (printTokens p).failure = none ∧
      (i.target? = none → (run i s).stdout = (printTokens p).text) ∧
      ∀ path text, (run i s).written = some (path, text) → text = (printTokens p).text := by
  unfold run work deliver at hf ⊢
  rw [hi] at hf ⊢
  simp only at hf ⊢
  cases hp : prepare i s with
  | error f => rw [hp] at hf; cases hf
  | ok p =>
      rw [hp] at hf
      simp only [Except.map] at hf ⊢
      refine ⟨p, rfl, ?_⟩
      cases htarget : i.target? with
      | none =>
          rw [htarget] at hf
          exact ⟨hf, fun _ => rfl, fun _ _ h => by cases h⟩
      | some path =>
          rw [htarget] at hf
          simp only at hf ⊢
          cases hcreate : s.create path with
          | error fault => rw [hcreate] at hf; cases hf
          | ok _ =>
              rw [hcreate] at hf
              refine ⟨hf, (fun h => by cases h), fun _ _ h => ?_⟩
              cases h
              rfl

theorem readInputs_single {stdin : ByteArray} {name : String} {inputs : List Input}
    (h : readInputs s stdin [name] = .ok inputs) : ∃ input, inputs = [input] := by
  obtain ⟨⟨input, stdin'⟩, _, h⟩ := bind_eq_ok.mp h
  cases h
  exact ⟨input, rfl⟩

theorem inputNames_single {i : Invocation} (h : i.files.length ≤ 1) : ∃ name, i.inputNames = [name] := by
  unfold Invocation.inputNames
  cases hfiles : i.files with
  | nil => exact ⟨standardName, rfl⟩
  | cons name names =>
      rw [hfiles] at h
      have hnil : names = [] := List.length_eq_zero_iff.mp (by simpa using h)
      rw [hnil]
      exact ⟨name, rfl⟩

theorem printTokens_single {p : Prepared} {input : Input} (hinput : p.inputs = [input])
    (hf : (printTokens p).failure = none) : tokenLines p.lexer input = .ok (printTokens p).text := by
  unfold printTokens at hf ⊢
  rw [hinput] at hf ⊢
  simp only [printSections, List.length_singleton, Nat.lt_irrefl, decide_false, Bool.false_eq_true, ↓reduceIte] at hf ⊢
  cases hlines : tokenLines p.lexer input with
  | error f => rw [hlines] at hf; cases hf
  | ok body => simp

theorem Outcome.failure_of_code {o : Outcome} (h : o.code = 0) : o.failure = none := by
  unfold code at h
  split at h
  · cases h
  next hnone => exact Option.not_isSome_iff_eq_none.mp hnone

/-- The command that lists tokens never breaks off for a gap between them. With a document whose kinds stand on one
line each, and one input, a run that succeeds writes a listing from which the input can be read back. -/
theorem listing_lossless {arguments : List String} {i : Invocation} (parsed : parseArguments arguments = .ok (.run i))
    (tokens : i.subcommand = .tokens) (single : i.files.length ≤ 1) (s : Surroundings)
    (kinds : ∀ source document, readText s i.table = .ok source → Document.load source = .ok document →
      ∀ k ∈ document.kinds, '\n' ∉ k.path.toList) :
    (∀ name offset, (run i s).failure ≠ some (.uncovered name offset)) ∧
    ((execute arguments s).code = 0 → ∃ input, readInputs s s.stdin i.inputNames = .ok [input] ∧
      (i.target? = none → ReadsBack (execute arguments s).stdout input.text) ∧
      ∀ path text, (execute arguments s).written = some (path, text) → ReadsBack text input.text) := by
  refine ⟨fun name offset => run_ne_uncovered tokens, fun hcode => ?_⟩
  have hexit : execute arguments s = (run i s).exit (log i s) := by rw [execute, parsed]
  rw [hexit] at hcode ⊢
  obtain ⟨p, hp, hprinted, hstdout, hwritten⟩ := run_eq_ok tokens (Outcome.failure_of_code hcode)
  obtain ⟨_, _, _, _, _, _, _, _, hinputs, _⟩ := prepare_eq_ok hp
  obtain ⟨name, hname⟩ := inputNames_single single
  obtain ⟨input, hinput⟩ := readInputs_single (hname ▸ hinputs)
  have hlists : ReadsBack (printTokens p).text input.text := by
    obtain ⟨listed, ht, htiles, htext⟩ := tokenLines_eq_ok (printTokens_single hinput hprinted)
    rw [htext]
    exact readsBack_of_tiles htiles (prepare_oneLine hp kinds ht)
  rw [hinput] at hinputs
  refine ⟨input, hinputs, fun htarget => ?_, fun path text hpath => ?_⟩
  · rw [Outcome.exit, hstdout htarget]
    exact hlists
  · rw [hwritten path text hpath]
    exact hlists

/-- A table with one rule, and a transcript on the standard input with much that has to be escaped. -/
def plainDesk : Surroundings where
  read _ := .ok "\x7b\"states\": \x7b\"root\": [\x7b\"pattern\": \"a\", \"token\": \"Name\"\x7d]\x7d\x7d".toUTF8
  create _ := .error .denied
  stdin := ">a\t\"\né\\\n".toUTF8

theorem listing_lossless_plainDesk :
    ReadsBack (execute ["tokens", "--table", "t", "--prompt", ">"] plainDesk).stdout ">a\t\"\né\\\n" := by
  have hparsed : parseArguments ["tokens", "--table", "t", "--prompt", ">"] =
      .ok (.run { subcommand := .tokens, table := "t", prompt := some ">" }) := by decide +kernel
  have hkinds : ((readText plainDesk "t").toOption.bind fun source => (Document.load source).toOption.map
      fun document => document.kinds) = some [⟨"Name"⟩] := by decide +kernel
  have hinputs : (readInputs plainDesk plainDesk.stdin ["-"]).toOption = some [⟨"-", ">a\t\"\né\\\n"⟩] := by
    decide +kernel
  obtain ⟨source, document, hsource, hdocument, hnames⟩ := exists_of_toOption_bind hkinds
  obtain ⟨_, hlisting⟩ := listing_lossless hparsed rfl (by decide) plainDesk fun source' document' hs hd => by
    cases hsource.symm.trans hs
    cases hdocument.symm.trans hd
    rw [hnames]
    decide
  obtain ⟨input, hread, hstdout, _⟩ := hlisting (by decide +kernel)
  cases (toOption_eq_some.mp hinputs).symm.trans hread
  exact hstdout rfl

end ModalLexer.Command
