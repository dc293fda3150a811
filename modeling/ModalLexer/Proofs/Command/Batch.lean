import Mathlib.Logic.Relation
import ModalLexer.Command.Jobs
import ModalLexer.Proofs.Command.Listing

/-!
Several inputs in one run. Nothing is written before everything was read; then the sections of the inputs are written in
the order of the arguments, up to the first input that fails, of which only the header is written. The inputs may be
scanned in any order, by several workers, without a difference to what is written.
-/

namespace ModalLexer.Command

variable {i : Invocation} {s : Surroundings} {p : Prepared} {arguments : List String}

/-! ## Starting -/

/-- Why a run writes nothing: the table cannot be loaded, an input cannot be read, or the prompt that sets the code of
transcripts apart cannot be compiled. -/
inductive CannotStart (i : Invocation) (s : Surroundings) : Prop
  | table {f : Failure} : loadTable i s = .error f → CannotStart i s
  | input {f : Failure} : readInputs s s.stdin i.inputNames = .error f → CannotStart i s
  | prompt {e : Dialect × Pattern.Fault} :
      i.isSession = true → i.sessionConfig.prompt.compile true = .error e → CannotStart i s

theorem lexerOfTable_eq_error_iff {t : Table} : (∃ f, Lexer.ofTable i t = .error f) ↔
    i.isSession = true ∧ ∃ e, i.sessionConfig.prompt.compile true = .error e := by
  unfold Lexer.ofTable
  split
  next hsession =>
    simp only [map_eq_error, mapError_eq_error, hsession, true_and]
    unfold Session.ofTable
    cases i.sessionConfig.prompt.compile true with
    | error e => exact ⟨fun _ => ⟨e, rfl⟩, fun _ => ⟨_, _, rfl, rfl⟩⟩
    | ok m =>
        constructor
        · rintro ⟨_, _, h, _⟩; cases h
        · rintro ⟨_, h⟩; cases h
  next hplain =>
    constructor
    · rintro ⟨_, h⟩; cases h
    · rintro ⟨h, _⟩; exact absurd h hplain

theorem cannotStart_iff : CannotStart i s ↔ ∃ f, prepare i s = .error f := by
  constructor
  · intro h
    cases hp : prepare i s with
    | error f => exact ⟨f, rfl⟩
    | ok p =>
        obtain ⟨t, ht, hinputs, hlexer⟩ := prepare_eq_ok_iff.mp hp
        cases h with
        | table h => cases ht.symm.trans h
        | input h => cases hinputs.symm.trans h
        | prompt hsession h =>
            obtain ⟨f, hf⟩ := (lexerOfTable_eq_error_iff (t := t)).mpr ⟨hsession, _, h⟩
            cases hlexer.symm.trans hf
  · rintro ⟨f, h⟩
    rcases bind_eq_error.mp h with h | ⟨t, _, h⟩
    · exact .table h
    · rcases bind_eq_error.mp h with h | ⟨inputs, _, h⟩
      · exact .input h
      · rcases bind_eq_error.mp h with h | ⟨lexer, _, h⟩
        · obtain ⟨hsession, _, hprompt⟩ := lexerOfTable_eq_error_iff.mp ⟨f, h⟩
          exact .prompt hsession hprompt
        · cases h

theorem not_cannotStart (h : prepare i s = .ok p) : ¬ CannotStart i s := by
  intro hcannot
  obtain ⟨_, hf⟩ := cannotStart_iff.mp hcannot
  cases h.symm.trans hf

theorem readInputs_names {stdin : ByteArray} {names : List String} {inputs : List Input}
    (h : readInputs s stdin names = .ok inputs) : inputs.map (·.name) = names := by
  induction names generalizing stdin inputs with
  | nil => cases h; rfl
  | cons name names ih =>
      obtain ⟨⟨input, rest⟩, hinput, h⟩ := bind_eq_ok.mp h
      obtain ⟨inputs, hinputs, h⟩ := bind_eq_ok.mp h
      cases h
      have hname : input.name = name := by
        unfold readInput at hinput
        split at hinput
        · obtain ⟨_, _, h⟩ := bind_eq_ok.mp hinput
          cases h
          rfl
        · obtain ⟨_, _, h⟩ := bind_eq_ok.mp hinput
          cases h
          rfl
      rw [List.map_cons, ih hinputs, hname]

/-! ## Sections -/

/-- The complete sections of inputs. There are none if an input has no tokens. -/
def sections? (lexer : Lexer) (headers : Bool) : (first : Bool) → List Input → Option (List String)
  | _, [] => some []
  | first, input :: inputs => do
    let tokens ← (lexer.tokenize input.text).toOption
    return (headOf headers first input ++ String.join (tokens.map tokenLine)) ::
      (← sections? lexer headers false inputs)

/-- The lexer covers every text that it has tokens for. -/
def Lexer.Covers (lexer : Lexer) : Prop :=
  ∀ text tokens, lexer.tokenize text = .ok tokens → uncovered? text tokens = none

theorem prepare_covers (h : prepare i s = .ok p) : p.lexer.Covers :=
  fun _ _ ht => uncovered?_eq_none_iff.mpr (prepare_tiles h ht)

section

variable {lexer : Lexer} {headers first : Bool}

theorem tokenLines_of_ok (hcovers : lexer.Covers) {input : Input} {tokens : List Token}
    (h : lexer.tokenize input.text = .ok tokens) :
    tokenLines lexer input = .ok (String.join (tokens.map tokenLine)) := by
  rw [tokenLines, h]
  simp only [hcovers _ _ h]

theorem exists_sections (headers first : Bool) {inputs : List Input}
    (h : ∀ input ∈ inputs, ∃ tokens, lexer.tokenize input.text = .ok tokens) :
    ∃ sections, sections? lexer headers first inputs = some sections := by
  induction inputs generalizing first with
  | nil => exact ⟨[], rfl⟩
  | cons input inputs ih =>
      obtain ⟨⟨tokens, ht⟩, h⟩ := List.forall_mem_cons.mp h
      obtain ⟨sections, hs⟩ := ih false h
      exact ⟨_, by rw [sections?, ht, hs]; rfl⟩

/-- Complete sections are printed one behind the other, and then whatever comes of the other inputs. -/
theorem printSections_append (hcovers : lexer.Covers) {done : List Input} {sections : List String}
    (h : sections? lexer headers first done = some sections) (inputs : List Input) :
    printSections lexer headers first (done ++ inputs) =
      (printSections lexer headers (first && done.isEmpty) inputs).behind (String.join sections) := by
  induction done generalizing first sections with
  | nil =>
      cases h
      simp [Printed.behind]
  | cons input done ih =>
      obtain ⟨tokens, ht, h⟩ := Option.bind_eq_some_iff.mp h
      obtain ⟨rest, hrest, h⟩ := Option.bind_eq_some_iff.mp h
      cases h
      have hlines := tokenLines_of_ok hcovers (toOption_eq_some.mp ht)
      rw [List.cons_append, printSections, hlines]
      simp only [ih hrest, Printed.behind, headOf, List.isEmpty_cons, Bool.and_false, Bool.false_and, String.join_cons,
        String.append_assoc]

/-- Whatever comes of inputs begins with what stands above the first of them. -/
theorem printSections_head (lexer : Lexer) (headers first : Bool) (input : Input) (inputs : List Input) :
    ∃ rest, (printSections lexer headers first (input :: inputs)).text = headOf headers first input ++ rest := by
  rw [printSections]
  split
  · exact ⟨"", by rw [String.append_empty]; rfl⟩
  next body _ => exact ⟨body ++ (printSections lexer headers false inputs).text, String.append_assoc⟩

end

/-! ## Batches that fail -/

namespace Prepared

/-- The complete sections of as many inputs from the first one on. -/
def sections? (p : Prepared) (k : Nat) : Option (List String) :=
  Command.sections? p.lexer (1 < p.inputs.length) true (p.inputs.take k)

/-- What stands above the tokens of the input at a place. -/
def head (p : Prepared) (k : Nat) (input : Input) : String :=
  headOf (1 < p.inputs.length) (k == 0) input

/-- The input at that place is the first one whose text cannot be scanned. -/
structure FailsFirst (p : Prepared) (k : Nat) (input : Input) (cause : Error) : Prop where
  place : p.inputs[k]? = some input
  fails : p.lexer.tokenize input.text = .error cause
  before : ∀ earlier ∈ p.inputs.take k, ∃ tokens, p.lexer.tokenize earlier.text = .ok tokens

end Prepared

theorem isEmpty_take {inputs : List Input} {k : Nat} {input : Input} (h : inputs[k]? = some input) :
    (inputs.take k).isEmpty = (k == 0) := by
  cases inputs with
  | nil => cases h
  | cons first inputs =>
      cases k with
      | zero => rfl
      | succ k => rfl

theorem take_append_cons {inputs : List Input} {k : Nat} {input : Input} (h : inputs[k]? = some input) :
    inputs = inputs.take k ++ input :: inputs.drop (k + 1) := by
  obtain ⟨hlt, rfl⟩ := List.getElem?_eq_some_iff.mp h
  rw [← List.drop_eq_getElem_cons hlt, List.take_append_drop]

theorem printTokens_at (hcovers : p.lexer.Covers) {k : Nat} {input : Input} (h : p.inputs[k]? = some input)
    {sections : List String} (hs : p.sections? k = some sections) :
    printTokens p = (printSections p.lexer (1 < p.inputs.length) (k == 0) (input :: p.inputs.drop (k + 1))).behind
      (String.join sections) := by
  have happend := printSections_append hcovers hs (input :: p.inputs.drop (k + 1))
  rw [← take_append_cons h, isEmpty_take h, Bool.true_and] at happend
  exact happend

theorem printTokens_fails (hcovers : p.lexer.Covers) {k : Nat} {input : Input} {cause : Error}
    (h : p.FailsFirst k input cause) : ∃ sections, p.sections? k = some sections ∧ printTokens p =
      { text := String.join sections ++ p.head k input, failure := some (.input input.name cause) } := by
  obtain ⟨sections, hs⟩ := exists_sections (1 < p.inputs.length) true h.before
  have hlines : tokenLines p.lexer input = .error (.input input.name cause) := by rw [tokenLines, h.fails]
  refine ⟨sections, hs, ?_⟩
  rw [printTokens_at hcovers h.place hs, printSections, hlines]
  rfl

theorem printTokens_complete (hcovers : p.lexer.Covers)
    (h : ∀ input ∈ p.inputs, ∃ tokens, p.lexer.tokenize input.text = .ok tokens) :
    ∃ sections, p.sections? p.inputs.length = some sections ∧ printTokens p = { text := String.join sections } := by
  obtain ⟨sections, hs⟩ := exists_sections (1 < p.inputs.length) true h
  refine ⟨sections, by rw [Prepared.sections?, List.take_length, hs], ?_⟩
  have happend := printSections_append hcovers hs []
  rw [List.append_nil] at happend
  rw [printTokens, happend, printSections, Printed.behind, String.append_empty]

/-! ## What is left behind -/

/-- The text was written, to the standard output or to the file that was asked for, and the run ended with the code. -/
def Exit.Delivers (e : Exit) (target : Option String) (code : Nat) (text : String) : Prop :=
  e.code = code ∧
    match target with
    | none => e.stdout = text ∧ e.written = none
    | some path => e.stdout = "" ∧ e.written = some (path, text)

theorem execute_eq (parsed : parseArguments arguments = .ok (.run i)) :
    execute arguments s = (run i s).exit (log i s) := by
  rw [execute, parsed]

theorem run_of_error (tokens : i.subcommand = .tokens) {f : Failure} (h : prepare i s = .error f) :
    run i s = { failure := some f } := by
  simp only [run, work, tokens, h, Except.map, deliver]

theorem run_of_ok (tokens : i.subcommand = .tokens) (h : prepare i s = .ok p) :
    run i s = deliver i s.create (.ok (printTokens p)) := by
  simp only [run, work, tokens, h, Except.map]

theorem deliver_delivers (h : canDeliver i s = true) (printed : Printed) (log : String) :
    ((deliver i s.create (.ok printed)).exit log).Delivers i.target?
      (if printed.failure.isSome then 1 else 0) printed.text := by
  unfold canDeliver at h
  cases htarget : i.target? with
  | none =>
      simp only [deliver, htarget]
      exact ⟨rfl, rfl, rfl⟩
  | some path =>
      rw [htarget] at h
      cases hcreate : s.create path with
      | error f => simp [hcreate, Except.toBool] at h
      | ok _ =>
          simp only [deliver, htarget, hcreate]
          exact ⟨rfl, rfl, rfl⟩

/-! ## Scanning in any order -/

namespace Job

/-- A scan that has finished has the result of the text. -/
def Fits (lexer : Lexer) (text : String) (job : Job) : Prop :=
  ∀ result, job = .finished result → result = lexer.tokenize text

/-- The steps that a scan still takes. -/
def steps : Job → Nat
  | waiting => 2
  | running => 1
  | finished _ => 0

def totalSteps : List Job → Nat
  | [] => 0
  | job :: jobs => job.steps + totalSteps jobs

variable {lexer : Lexer} {texts : List String} {jobs jobs' : List Job}

theorem forall₂_set {r : String → Job → Prop} (h : List.Forall₂ r texts jobs) {n : Nat} {job : Job}
    (hjob : ∀ text, texts[n]? = some text → r text job) : List.Forall₂ r texts (jobs.set n job) := by
  induction h generalizing n with
  | nil => exact .nil
  | cons hr h ih =>
      cases n with
      | zero => exact .cons (hjob _ rfl) h
      | succ n => exact .cons hr (ih hjob)

/-- A step gives no scan a wrong result. -/
theorem Step.fits (h : Step lexer texts jobs jobs') (hj : List.Forall₂ (Fits lexer) texts jobs) :
    List.Forall₂ (Fits lexer) texts jobs' := by
  cases h with
  | take _ => exact forall₂_set hj fun _ _ result hresult => by cases hresult
  | finish _ htext =>
      refine forall₂_set hj fun text htext' result hresult => ?_
      cases htext.symm.trans htext'
      cases hresult
      rfl

theorem fits_of_reaches (h : Relation.ReflTransGen (Step lexer texts) (texts.map fun _ => .waiting) jobs) :
    List.Forall₂ (Fits lexer) texts jobs := by
  induction h with
  | refl =>
      induction texts with
      | nil => exact .nil
      | cons text texts ih => exact .cons (fun _ h => by cases h) ih
  | tail _ hstep ih => exact hstep.fits ih

/-- Where no step can be taken, every scan has finished. -/
theorem eq_finished (hj : List.Forall₂ (Fits lexer) texts jobs) (hend : ∀ jobs', ¬ Step lexer texts jobs jobs') :
    jobs = texts.map fun text => .finished (lexer.tokenize text) := by
  refine List.ext_getElem? fun n => ?_
  rw [List.getElem?_map]
  cases htext : texts[n]? with
  | none =>
      rw [List.getElem?_eq_none_iff] at htext
      exact List.getElem?_eq_none (hj.length_eq ▸ htext)
  | some text =>
      obtain ⟨job, hjob, hfits⟩ := forall₂_left hj htext
      rw [hjob]
      -- A scan that waits could be taken up, and one that runs could finish.
      cases job with
      | waiting => exact absurd (.take hjob) (hend _)
      | running => exact absurd (.finish hjob htext) (hend _)
      | finished result => rw [hfits result rfl]; rfl

theorem totalSteps_set {n : Nat} {job : Job} (h : jobs[n]? = some job) (job' : Job) :
    totalSteps (jobs.set n job') + job.steps = totalSteps jobs + job'.steps := by
  induction jobs generalizing n with
  | nil => cases h
  | cons first jobs ih =>
      cases n with
      | zero => cases h; simp only [List.set_cons_zero, totalSteps]; omega
      | succ n =>
          have hrest := ih h
          simp only [List.set_cons_succ, totalSteps]
          omega

theorem Step.totalSteps_lt (h : Step lexer texts jobs jobs') : totalSteps jobs' < totalSteps jobs := by
  cases h with
  | take hn =>
      have hsum := totalSteps_set hn .running
      simp only [steps] at hsum
      omega
  | @finish _ text hn _ =>
      have hsum := totalSteps_set hn (.finished (lexer.tokenize text))
      simp only [steps] at hsum
      omega

/-- Whatever is done first, the scans come to an end. -/
theorem step_wellFounded : WellFounded fun after before => Step lexer texts before after :=
  Subrelation.wf Step.totalSteps_lt (measure totalSteps).wf

end Job

/-! ## Writing what the workers found -/

theorem printResults_tokenize {lexer : Lexer} {headers first : Bool} (inputs : List Input) :
    printResults headers first (inputs.zip (inputs.map fun input => lexer.tokenize input.text)) =
      printSections lexer headers first inputs := by
  induction inputs generalizing first with
  | nil => rfl
  | cons input inputs ih =>
      have hlines : resultLines input (lexer.tokenize input.text) = tokenLines lexer input := rfl
      rw [List.map_cons, List.zip_cons_cons, printResults, printSections, hlines]
      cases tokenLines lexer input with
      | error f => rfl
      | ok body => simp only [ih, Printed.behind, headOf]

/-- In whatever order the inputs were scanned, the run writes the same. -/
theorem runWith_of_reaches (tokens : i.subcommand = .tokens) (h : prepare i s = .ok p) {jobs : List Job}
    (hreaches : Relation.ReflTransGen (Job.Step p.lexer (p.inputs.map (·.text))) (p.inputs.map fun _ => .waiting) jobs)
    (hend : ∀ jobs', ¬ Job.Step p.lexer (p.inputs.map (·.text)) jobs jobs') :
    ∃ results, jobs = results.map .finished ∧ runWith i s p results = run i s := by
  have hwaiting : (p.inputs.map fun _ => Job.waiting) = (p.inputs.map (·.text)).map fun _ => .waiting := by
    rw [List.map_map]; rfl
  refine ⟨p.inputs.map fun input => p.lexer.tokenize input.text, ?_, ?_⟩
  · rw [Job.eq_finished (Job.fits_of_reaches (hwaiting ▸ hreaches)) hend, List.map_map, List.map_map]
    rfl
  · rw [runWith, printResults_tokenize, run_of_ok tokens h, printTokens]

/-! ## Whole runs -/

/-- The files after a run. -/
def Exit.leaves (e : Exit) (d : Directory) : Directory :=
  match e.written with
  | some (path, text) => d.write path text.toUTF8
  | none => d

theorem text_of_delivers {printed : Printed} {log text : String} {code : Nat}
    (h : ((deliver i s.create (.ok printed)).exit log).Delivers i.target? code text) : text = printed.text := by
  obtain ⟨_, h⟩ := h
  cases htarget : i.target? with
  | none =>
      simp only [deliver, htarget] at h
      exact h.1.symm
  | some path =>
      simp only [deliver, htarget] at h
      split at h
      · cases h.2
      · exact (Prod.mk.inj (Option.some.inj h.2)).2.symm

/-- A run that does not fail, with the same inputs up to a place, begins with the same complete sections and goes on
with the same head. -/
theorem printTokens_begins {s' : Surroundings} {p' : Prepared} (h : prepare i s = .ok p) (h' : prepare i s' = .ok p')
    (htable : loadTable i s' = loadTable i s) {k : Nat} {input : Input} (hk : p.inputs[k]? = some input)
    (htake : p'.inputs.take k = p.inputs.take k) {sections : List String} (hs : p.sections? k = some sections) :
    ∃ rest, (printTokens p').text = String.join sections ++ p.head k input ++ rest := by
  obtain ⟨t, ht, hinputs, hlexer⟩ := prepare_eq_ok_iff.mp h
  obtain ⟨t', ht', hinputs', hlexer'⟩ := prepare_eq_ok_iff.mp h'
  cases ht'.symm.trans (htable.trans ht)
  have hsame : p'.lexer = p.lexer := Except.ok.inj (hlexer'.symm.trans hlexer)
  -- Both runs have the inputs that the arguments name, so their headers agree at every place.
  have hnames : p'.inputs.map (·.name) = p.inputs.map (·.name) :=
    (readInputs_names hinputs').trans (readInputs_names hinputs).symm
  have hlength : p'.inputs.length = p.inputs.length := by simpa using congrArg List.length hnames
  have hname : (p'.inputs.map (·.name))[k]? = some input.name := by rw [hnames, List.getElem?_map, hk]; rfl
  rw [List.getElem?_map] at hname
  obtain ⟨input', hk', hname⟩ := Option.map_eq_some_iff.mp hname
  have hs' : p'.sections? k = some sections := by rw [Prepared.sections?, hsame, hlength, htake]; exact hs
  have hhead : p'.head k input' = p.head k input := by rw [Prepared.head, Prepared.head, headOf, headOf, hname, hlength]
  rw [printTokens_at (prepare_covers h') hk' hs']
  obtain ⟨rest, hrest⟩ := printSections_head p'.lexer (1 < p'.inputs.length) (k == 0) input'
    (p'.inputs.drop (k + 1))
  refine ⟨rest, ?_⟩
  rw [Printed.behind, hrest, ← hhead, String.append_assoc]
  rfl

/-- The command that lists tokens writes nothing if it cannot start. Otherwise, with a place to write to, it writes the
complete sections of the inputs before the first one that fails, as a run that does not fail does, and then that input's
header only; if none fails, it writes all sections. The inputs may be scanned in any order. -/
theorem batch_in_order (parsed : parseArguments arguments = .ok (.run i)) (tokens : i.subcommand = .tokens)
    (s : Surroundings) :
    (CannotStart i s → (execute arguments s).code = 1 ∧ (execute arguments s).stdout = "" ∧
      ∀ d, (execute arguments s).leaves d = d) ∧
    (¬ CannotStart i s → ∃ p, prepare i s = .ok p ∧ p.inputs.map (·.name) = i.inputNames ∧
      (canDeliver i s = true →
        (∀ k input cause, p.FailsFirst k input cause → ∃ sections, p.sections? k = some sections ∧
          (execute arguments s).Delivers i.target? 1 (String.join sections ++ p.head k input) ∧
          ∀ s' p' text, loadTable i s' = loadTable i s → prepare i s' = .ok p' →
            p'.inputs.take k = p.inputs.take k → (execute arguments s').Delivers i.target? 0 text →
            ∃ rest, text = String.join sections ++ p.head k input ++ rest) ∧
        ((∀ input ∈ p.inputs, ∃ tokens, p.lexer.tokenize input.text = .ok tokens) →
          ∃ sections, p.sections? p.inputs.length = some sections ∧
            (execute arguments s).Delivers i.target? 0 (String.join sections))) ∧
      WellFounded (fun after before => Job.Step p.lexer (p.inputs.map (·.text)) before after) ∧
      ∀ jobs, Relation.ReflTransGen (Job.Step p.lexer (p.inputs.map (·.text))) (p.inputs.map fun _ => .waiting) jobs →
        (∀ jobs', ¬ Job.Step p.lexer (p.inputs.map (·.text)) jobs jobs') →
        ∃ results, jobs = results.map .finished ∧ (runWith i s p results).exit (log i s) = execute arguments s) := by
  refine ⟨fun hcannot => ?_, fun hcan => ?_⟩
  · obtain ⟨f, hf⟩ := cannotStart_iff.mp hcannot
    rw [execute_eq parsed, run_of_error tokens hf]
    exact ⟨rfl, rfl, fun d => rfl⟩
  · cases hp : prepare i s with
    | error f => exact absurd (cannotStart_iff.mpr ⟨f, hp⟩) hcan
    | ok p =>
        have hcovers := prepare_covers hp
        have hdelivers (hwrite : canDeliver i s = true) := deliver_delivers hwrite (printTokens p) (log i s)
        rw [← run_of_ok tokens hp, ← execute_eq parsed] at hdelivers
        obtain ⟨_, _, hinputs, _⟩ := prepare_eq_ok_iff.mp hp
        refine ⟨p, rfl, readInputs_names hinputs, fun hwrite => ⟨fun k input cause hfails => ?_, fun hall => ?_⟩,
          Job.step_wellFounded, fun jobs hreaches hend => ?_⟩
        · obtain ⟨sections, hs, hprinted⟩ := printTokens_fails hcovers hfails
          refine ⟨sections, hs, by simpa [hprinted] using hdelivers hwrite, ?_⟩
          intro s' p' text htable hp' htake hdelivers'
          rw [execute_eq parsed, run_of_ok tokens hp'] at hdelivers'
          rw [text_of_delivers hdelivers']
          exact printTokens_begins hp hp' htable hfails.place htake hs
        · obtain ⟨sections, hs, hprinted⟩ := printTokens_complete hcovers hall
          exact ⟨sections, hs, by simpa [hprinted] using hdelivers hwrite⟩
        · obtain ⟨results, hresults, hrun⟩ := runWith_of_reaches tokens hp hreaches hend
          exact ⟨results, hresults, by rw [hrun, execute_eq parsed]⟩

/-- A table with two rules, and two inputs. The second one cannot be scanned. -/
def batchDesk : Surroundings where
  read path :=
    if path = "t" then
      .ok ("\x7b\"states\": \x7b\"root\": [\x7b\"pattern\": \"a\", \"token\": \"Name\"\x7d, " ++
        "\x7b\"pattern\": \"b*\", \"token\": \"Name\"\x7d]\x7d\x7d").toUTF8
    else if path = "p" then .ok "a".toUTF8
    else if path = "q" then .ok "!".toUTF8
    else .error .missing
  create _ := .ok ()

theorem batch_in_order_batchDesk :
    (execute ["tokens", "--table", "t", "--output", "o", "p", "lost"] batchDesk).leaves [(["o"], "a".toUTF8)] =
      [(["o"], "a".toUTF8)] ∧
    (execute ["tokens", "--table", "t", "--output", "o", "p", "q", "p"] batchDesk).Delivers (some "o") 1
      "==> p <==\n0\tName\t\"a\"\n\n==> q <==\n" ∧
    (execute ["tokens", "--table", "t", "p", "p"] batchDesk).Delivers none 0
      "==> p <==\n0\tName\t\"a\"\n\n==> p <==\n0\tName\t\"a\"\n" := by
  refine ⟨?_, ?_, ?_⟩
  · have hparsed : parseArguments ["tokens", "--table", "t", "--output", "o", "p", "lost"] =
        .ok (.run { subcommand := .tokens, table := "t", output := some "o", files := ["p", "lost"] }) := by
      decide +kernel
    have hlost : readInputs batchDesk batchDesk.stdin ["p", "lost"] = .error (.file .missing) := by decide +kernel
    obtain ⟨_, _, hleaves⟩ := (batch_in_order hparsed rfl batchDesk).1 (.input hlost)
    exact hleaves _
  · have hparsed : parseArguments ["tokens", "--table", "t", "--output", "o", "p", "q", "p"] =
        .ok (.run { subcommand := .tokens, table := "t", output := some "o", files := ["p", "q", "p"] }) := by
      decide +kernel
    have hprepared : ((prepare { subcommand := .tokens, table := "t", output := some "o", files := ["p", "q", "p"] }
          batchDesk).toOption.map fun p => (p.inputs, [p.lexer.tokenize "a", p.lexer.tokenize "!"], p.sections? 1)) =
        some ([⟨"p", "a"⟩, ⟨"q", "!"⟩, ⟨"p", "a"⟩], [.ok [⟨0, ⟨"Name"⟩, "a"⟩], .error (.zeroWidthMatch "root" 1 0)],
          some ["==> p <==\n0\tName\t\"a\"\n"]) := by
      decide +kernel
    obtain ⟨p, hp, heq⟩ := Option.map_eq_some_iff.mp hprepared
    obtain ⟨hinputs, ⟨ha, hb⟩, hsections⟩ := by simpa only [Prod.mk.injEq, List.cons.injEq, and_true] using heq
    rw [toOption_eq_some] at hp
    obtain ⟨p', hp', _, hwrites, _⟩ := (batch_in_order hparsed rfl batchDesk).2 (not_cannotStart hp)
    cases hp.symm.trans hp'
    have hfails : p.FailsFirst 1 ⟨"q", "!"⟩ (.zeroWidthMatch "root" 1 0) := {
      place := by rw [hinputs]; rfl
      fails := hb
      before := by
        rw [hinputs]
        intro input hmem
        cases List.mem_singleton.mp hmem
        exact ⟨_, ha⟩ }
    obtain ⟨sections, hs, hdelivers, _⟩ := (hwrites rfl).1 1 _ _ hfails
    cases hsections.symm.trans hs
    have hhead : p.head 1 ⟨"q", "!"⟩ = "\n==> q <==\n" := by rw [Prepared.head, hinputs]; decide +kernel
    rw [hhead] at hdelivers
    exact hdelivers
  · have hparsed : parseArguments ["tokens", "--table", "t", "p", "p"] =
        .ok (.run { subcommand := .tokens, table := "t", files := ["p", "p"] }) := by decide +kernel
    have hprepared : ((prepare { subcommand := .tokens, table := "t", files := ["p", "p"] } batchDesk).toOption.map
          fun p => (p.inputs, p.lexer.tokenize "a", p.sections? 2)) =
        some ([⟨"p", "a"⟩, ⟨"p", "a"⟩], .ok [⟨0, ⟨"Name"⟩, "a"⟩],
          some ["==> p <==\n0\tName\t\"a\"\n", "\n==> p <==\n0\tName\t\"a\"\n"]) := by
      decide +kernel
    obtain ⟨p, hp, heq⟩ := Option.map_eq_some_iff.mp hprepared
    obtain ⟨hinputs, ha, hsections⟩ := by simpa only [Prod.mk.injEq] using heq
    rw [toOption_eq_some] at hp
    obtain ⟨p', hp', _, hwrites, _⟩ := (batch_in_order hparsed rfl batchDesk).2 (not_cannotStart hp)
    cases hp.symm.trans hp'
    obtain ⟨sections, hs, hdelivers⟩ := (hwrites rfl).2 fun input hmem => by
      rw [hinputs] at hmem
      cases List.eq_of_mem_replicate (n := 2) hmem
      exact ⟨_, ha⟩
    rw [hinputs] at hs
    cases hsections.symm.trans hs
    exact hdelivers

end ModalLexer.Command
