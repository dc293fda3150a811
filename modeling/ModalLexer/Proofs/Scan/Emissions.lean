import ModalLexer.Proofs.Scan.Rearrangement
import ModalLexer.Proofs.Table.Revision
import ModalLexer.Scan.Places

/-!
What rules put out does not steer a scan. Two tables whose rules match alike and move the stack alike may put out
different tokens, and scan groups or not, from whatever states: as long as neither scan fails, both take the same steps.
-/

namespace ModalLexer

open Text

/-! ## Rules -/

/-- The same pattern and the same move. -/
structure Rule.SameMoves (r r' : Rule) : Prop where
  pattern : r'.pattern = r.pattern
  transition : r'.transition = r.transition

/-- Rules that are declared at the same place, match alike and move the stack alike. -/
structure CompiledRule.SameMoves (r r' : CompiledRule) : Prop where
  matcher : r'.matcher = r.matcher
  agrees : r.matcher.Agrees
  transition : r'.transition = r.transition
  origin : r.origin = r'.origin
  index : r.index = r'.index

namespace CompiledRule

variable {r r' : CompiledRule}

theorem matchAt_span (h : r.matcher.Agrees) (text : String) (pos : Nat) :
    (r.matchAt text pos).map (·.map (·.span)) = (r.matcher.find text pos).mapError (r.failure pos) := by
  unfold matchAt
  split
  · -- A rule that needs its groups asks for them, and reads the span off the first one.
    rw [← h text pos]
    rcases r.matcher.captures text pos with e | _ | groups
    · rfl
    · rfl
    · simp only [Except.mapError, Except.map, Option.bind_some]
      cases groups.head?.join with
      | none => rfl
      | some span => rfl
  · rcases r.matcher.find text pos with e | _ | span
    · rfl
    · rfl
    · rfl

theorem SameMoves.matchAt_span (h : r.SameMoves r') (text : String) (pos : Nat) :
    (r'.matchAt text pos).map (·.map (·.span)) = (r.matchAt text pos).map (·.map (·.span)) := by
  have hfailure : r'.failure pos = r.failure pos := by
    funext e
    rw [failure, failure, h.origin, h.index]
  rw [CompiledRule.matchAt_span h.agrees, CompiledRule.matchAt_span (h.matcher ▸ h.agrees), h.matcher, hfailure]

end CompiledRule

theorem compileRule_sameMoves {multiLine : Bool} {names : List String} {site site' : RuleSite} {r r' : Rule}
    {c c' : CompiledRule} (h : compileRule multiLine names site r = .ok c)
    (h' : compileRule multiLine names site' r' = .ok c') (hr : r.SameMoves r') (hstate : site'.state = site.state)
    (hindex : site'.index = site.index) : c.SameMoves c' := by
  obtain ⟨hm, ht, _, horigin, hplace, _⟩ := compileRule_eq_ok h
  obtain ⟨hm', ht', _, horigin', hplace', _⟩ := compileRule_eq_ok h'
  rw [hr.pattern] at hm'
  obtain ⟨_, _, ht⟩ := compileTransition_eq_ok ht
  obtain ⟨_, _, ht'⟩ := compileTransition_eq_ok ht'
  rw [hr.transition, hstate] at ht'
  refine ⟨Except.ok.inj (hm'.symm.trans hm), Pattern.compile_agrees hm, Except.ok.inj (ht'.symm.trans ht), ?_, ?_⟩
  · rw [horigin, horigin', hstate]
  · rw [hplace, hplace', hindex]

/-! ## Tables -/

/-- The states have rules that match alike and move the stack alike. -/
structure Table.SameMoves (t t' : Table) : Prop where
  distinct : t.Distinct
  distinct' : t'.Distinct
  rules : ∀ id, List.Forall₂ CompiledRule.SameMoves (t.rulesOf id) (t'.rulesOf id)
  options : t'.options = t.options

theorem Declaration.Revised.sameMoves {d d' : Declaration} (h : d.Revised Rule.SameMoves d')
    (hoptions : d'.options = d.options) {t t' : Table} (hb : d.build = .ok t) (hb' : d'.build = .ok t') :
    t.SameMoves t' where
  distinct := build_distinct hb
  distinct' := build_distinct hb'
  options := by rw [build_options hb, build_options hb', hoptions]
  rules id := by
    have hnames : t'.names = t.names := by rw [build_names hb, build_names hb', h.names_eq]
    by_cases hid : id.index < t.stateCount
    · have hlt : id.index < d.states.length := by
        simpa [Table.stateCount, build_names hb, names] using hid
      obtain ⟨⟨state, entries⟩, hi⟩ : ∃ s, d.states[id.index]? = some s := ⟨_, List.getElem?_eq_getElem hlt⟩
      obtain ⟨⟨_, entries'⟩, hi', rfl, hentries⟩ := forall₂_left h hi
      obtain ⟨rs, hlists, hcompiled⟩ := build_stands hb hi
      obtain ⟨rs', hlists', hcompiled'⟩ := build_stands hb' hi'
      refine forall₂_square (fun {r r' c c'} hr hc hc' => ?_) (h.lists (build_nodup hb) hentries hlists hlists')
        hcompiled hcompiled'
      obtain ⟨_, hc⟩ := hc
      obtain ⟨_, hc'⟩ := hc'
      obtain ⟨hrule, hstate, hindex⟩ := hr
      rw [h.names_eq, hoptions] at hc'
      exact compileRule_sameMoves hc hc' hrule hstate hindex
    · -- Outside its states, neither table has a rule.
      have hnone : t.rulesOf id = [] :=
        List.eq_nil_iff_forall_not_mem.mpr fun r hr => hid ((build_closed hb).lt_of_mem hr)
      have hnone' : t'.rulesOf id = [] := by
        refine List.eq_nil_iff_forall_not_mem.mpr fun r hr => hid ?_
        rw [Table.stateCount, ← hnames]
        exact (build_closed hb').lt_of_mem hr
      rw [hnone, hnone']
      exact .nil

namespace Table

variable {t t' : Table} {text : String}

/-! ## Choices -/

/-- Rules with the same move and matches of the same text, or none, and the same searches remembered. -/
inductive SameChoice (t t' : Table) :
    Option (CompiledRule × RuleMatch) × Memo → Option (CompiledRule × RuleMatch) × Memo → Prop
  | none {memo memo' : Memo} : t.Remember t' memo memo' → SameChoice t t' (none, memo) (none, memo')
  | some {r r' : CompiledRule} {m m' : RuleMatch} {memo memo' : Memo} : r'.transition = r.transition →
      m'.span = m.span → t.Remember t' memo memo' → SameChoice t t' (some (r, m), memo) (some (r', m'), memo')

theorem alike_of_map_eq {v : View} {g : α → β} {x x' : Except Error α} (h : x'.map g = x.map g) :
    Alike v t t' (fun a a' => g a' = g a) x x' := by
  cases x with
  | error e => rw [map_eq_error.mp h]; exact .error rfl
  | ok a =>
      obtain ⟨a', rfl, heq⟩ := map_eq_ok.mp h
      exact .ok heq

theorem choose_same (h : t.SameMoves t') (text : String) {id : StateId} {rs rs' : List CompiledRule}
    (hrs : List.Forall₂ CompiledRule.SameMoves rs rs') (hmem : ∀ r ∈ rs, r ∈ t.rulesOf id)
    (hmem' : ∀ r' ∈ rs', r' ∈ t'.rulesOf id) {m m' : Memo} (hm : t.Remember t' m m') (pos : Nat) :
    Alike {} t t' (t.SameChoice t') (settled (choose text pos rs m)) (settled (choose text pos rs' m')) := by
  induction hrs generalizing m m' with
  | nil => exact .ok (.none hm)
  | cons hr _ ih =>
      obtain ⟨hmem₁, hmem⟩ := List.forall_mem_cons.mp hmem
      obtain ⟨hmem₁', hmem'⟩ := List.forall_mem_cons.mp hmem'
      rw [settled_choose_cons, settled_choose_cons]
      refine (hm.mayMatch h.distinct h.distinct' hmem₁ hmem₁' hr.matcher hr.origin hr.index).bind ?_
      rintro ⟨_, memo⟩ ⟨answer, memo'⟩ ⟨rfl, hmemo⟩
      cases answer with
      | false => exact ih hmem hmem' hmemo
      | true =>
          refine (alike_of_map_eq (hr.matchAt_span text pos)).bind fun found found' hfound => ?_
          cases found with
          | none =>
              cases found' with
              | none => exact ih hmem hmem' hmemo
              | some m' => cases hfound
          | some m =>
              cases found' with
              | none => cases hfound
              | some m' => exact .ok (.some hr.transition (Option.some.inj hfound) hmemo)

/-- Where both tables choose a rule or find none, they do so alike. -/
theorem choice_same (h : t.SameMoves t') {id : StateId} {pos : Nat} {m m' m₁ m₁' : Memo} (hm : t.Remember t' m m')
    {found found' : Option (CompiledRule × RuleMatch)} (hc : choose text pos (t.rulesOf id) m = (.ok found, m₁))
    (hc' : choose text pos (t'.rulesOf id) m' = (.ok found', m₁')) : t.SameChoice t' (found, m₁) (found', m₁') := by
  have hchoice := choose_same h text (h.rules id) (fun _ hr => hr) (fun _ hr => hr) hm pos
  rw [hc, hc'] at hchoice
  cases hchoice with
  | ok hsame => exact hsame

/-! ## Steps -/

/-- Scans at the same place, with the same stack and the same searches remembered. -/
structure ScanSame (t t' : Table) (s s' : Scan) : Prop where
  cursor : s'.cursor = s.cursor
  zeroWidth : s'.zeroWidth = s.zeroWidth
  stack : s'.stack = s.stack
  memo : t.Remember t' s.memo s'.memo

variable {lexGroup lexGroup' : GroupLexer} {s s' s₁ s₁' : Scan} {tokens tokens' : List Token}

theorem fallback_same (h : t.SameMoves t') (text : String) (hs : t.ScanSame t' s s') :
    t.ScanSame t' (t.fallback text s).scan (t'.fallback text s').scan := by
  unfold fallback
  simp only [hs.cursor, h.options, hs.stack]
  split
  · split
    · exact ⟨rfl, rfl, rfl, hs.memo⟩
    · exact ⟨rfl, rfl, rfl, hs.memo⟩
  · exact ⟨rfl, rfl, rfl, hs.memo⟩

/-- Steps that both succeed lead to the same place. -/
theorem step_same (h : t.SameMoves t') (hs : t.ScanSame t' s s')
    (hstep : t.step text lexGroup s = ⟨s₁, tokens, none⟩) (hstep' : t'.step text lexGroup' s' = ⟨s₁', tokens', none⟩) :
    t.ScanSame t' s₁ s₁' := by
  obtain ⟨cursor, stack, memo, zeroWidth⟩ := s
  obtain ⟨_, _, memo', _⟩ := s'
  obtain ⟨hcursor, hzeroWidth, hstack, hmemo⟩ := hs
  cases hcursor
  cases hzeroWidth
  cases hstack
  rcases step_eq_ok hstep with ⟨r, m, memo₁, hc, ha⟩ | ⟨memo₁, hc, hf⟩
  · rcases step_eq_ok hstep' with ⟨r', m', memo₁', hc', ha'⟩ | ⟨memo₁', hc', _⟩
    · cases choice_same h hmemo hc hc' with
      | some htransition hspan hmemo =>
          rw [accept_scan ha, accept_scan ha', htransition, hspan]
          exact ⟨rfl, rfl, rfl, hmemo⟩
    · cases choice_same h hmemo hc hc'
  · rcases step_eq_ok hstep' with ⟨r', m', memo₁', hc', _⟩ | ⟨memo₁', hc', hf'⟩
    · cases choice_same h hmemo hc hc'
    · cases choice_same h hmemo hc hc' with
      | none hmemo =>
          have hmemos : t.ScanSame t' ⟨cursor, stack, memo₁, zeroWidth⟩ ⟨cursor, stack, memo₁', zeroWidth⟩ :=
            ⟨rfl, rfl, rfl, hmemo⟩
          have hfallback := fallback_same h text hmemos
          rw [hf, hf'] at hfallback
          exact hfallback

/-! ## Runs -/

theorem runFrom_final {fuel : Nat} {done : List Token} (he : (t.runFrom text lexGroup fuel s done).error = none) :
    (t.runFrom text lexGroup fuel s done).final = (t.pathFrom text lexGroup fuel s).getLast?.getD s := by
  induction fuel generalizing s done with
  | zero => rfl
  | succ fuel ih =>
      unfold runFrom at he ⊢
      unfold pathFrom
      split
      · rfl
      next hmore =>
        rw [if_neg hmore] at he
        rcases hstep : t.step text lexGroup s with ⟨s', tokens, _ | e⟩
        · rw [hstep] at he
          simp only
          rw [ih he, List.getLast?_cons, Option.getD_some]
        · rw [hstep] at he
          cases he

theorem forall₂_getLast? {rel : α → β → Prop} {as : List α} {bs : List β} (h : List.Forall₂ rel as bs) {a : α} {b : β}
    (hab : rel a b) : rel (as.getLast?.getD a) (bs.getLast?.getD b) := by
  induction h generalizing a b with
  | nil => exact hab
  | cons hfirst _ ih =>
      rw [List.getLast?_cons, List.getLast?_cons]
      exact ih hfirst

theorem pathFrom_same (h : t.SameMoves t') {fuel : Nat} {done done' : List Token} (hs : t.ScanSame t' s s')
    (he : (t.runFrom text lexGroup fuel s done).error = none)
    (he' : (t'.runFrom text lexGroup' fuel s' done').error = none) :
    List.Forall₂ (t.ScanSame t') (t.pathFrom text lexGroup fuel s) (t'.pathFrom text lexGroup' fuel s') := by
  induction fuel generalizing s s' done done' with
  | zero => exact .nil
  | succ fuel ih =>
      unfold runFrom at he he'
      unfold pathFrom
      rw [hs.cursor] at he' ⊢
      split
      · exact .nil
      next hmore =>
        rw [if_neg hmore] at he he'
        rcases hstep : t.step text lexGroup s with ⟨s₁, tokens, _ | e⟩
        · rcases hstep' : t'.step text lexGroup' s' with ⟨s₁', tokens', _ | e'⟩
          · rw [hstep] at he
            rw [hstep'] at he'
            have hnext := step_same h hs hstep hstep'
            exact .cons hnext (ih hnext he he')
          · rw [hstep'] at he'
            cases he'
        · rw [hstep] at he
          cases he

/-- Declarations that differ only in what their rules put out: from the same initial stack, two scans that both end
without an error stand at the same places with the same names on their stacks after each step, and so at the end. -/
theorem path_revised {d d' : Declaration} (revised : d.Revised Rule.SameMoves d') (options : d'.options = d.options)
    (built : d.build = .ok t) (built' : d'.build = .ok t') (text : String) {names : List String} {stack : StateStack}
    (initial : t.initialStack names = .ok stack) :
    t'.initialStack names = .ok stack ∧
    ((t.scanFrom text stack).error = none → (t'.scanFrom text stack).error = none →
      (t'.path text stack).map (fun s => (s.cursor, t'.stackNames s)) =
        (t.path text stack).map (fun s => (s.cursor, t.stackNames s)) ∧
      t'.stackNames (t'.scanFrom text stack).final = t.stackNames (t.scanFrom text stack).final) := by
  have h := revised.sameMoves options built built'
  have hname : t'.name = t.name := by
    funext id
    rw [name, name, d'.build_name? built', d.build_name? built, revised.names_eq]
  have hbound : t'.stepBound text = t.stepBound text := by rw [stepBound, stepBound, h.options]
  have hstart : t.ScanSame t' { stack } { stack } := ⟨rfl, rfl, rfl, fun _ _ _ _ _ _ _ _ => rfl⟩
  refine ⟨?_, fun he he' => ?_⟩
  · rw [initialStack_eq built built' revised.names_eq (by rw [options])]
    exact initial
  · rw [scanFrom, run] at he he'
    rw [hbound] at he'
    have hpath := pathFrom_same h hstart he he'
    have hstacks {s s' : Scan} (hs : t.ScanSame t' s s') : t'.stackNames s' = t.stackNames s := by
      rw [stackNames, stackNames, hs.stack, hname]
    constructor
    · rw [path, path, hbound]
      exact (map_eq_of_forall₂ hpath fun s s' hs => by rw [hs.cursor, hstacks hs]).symm
    · rw [scanFrom, scanFrom, run, run, hbound, runFrom_final he, runFrom_final he']
      exact hstacks (forall₂_getLast? hpath hstart)

/-- Brackets that lead to another state and put out something, and a way back that puts out nothing. -/
def leading (emission : Emission String) : Declaration where
  states := [
    ("root", [.rule { pattern := { text := "<(x*)>" }, emission, transition := .push ["inner"] }]),
    ("inner", [.rule { pattern := { text := "y" }, emission := .token ⟨"Name"⟩ }, .rule (.defaultTo (.pop 1))])]

theorem path_revised_leading : ∃ t t' stack, (leading (.token ⟨"String"⟩)).build = .ok t ∧
    (leading (.byGroups [.lex "inner"])).build = .ok t' ∧ t.initialStack [] = .ok stack ∧
    (t.scanFrom "<x>y<>" stack).tokens ≠ (t'.scanFrom "<x>y<>" stack).tokens ∧
    (t.path "<x>y<>" stack).map (·.cursor) = [3, 4, 4, 6] ∧
    (t'.path "<x>y<>" stack).map (fun s => (s.cursor, t'.stackNames s)) =
      (t.path "<x>y<>" stack).map (fun s => (s.cursor, t.stackNames s)) := by
  have h : ((leading (.token ⟨"String"⟩)).build.toOption.bind fun t => (t.initialStack []).toOption.map fun stack =>
      ((t.scanFrom "<x>y<>" stack).error, (t.scanFrom "<x>y<>" stack).tokens.length,
        (t.path "<x>y<>" stack).map (·.cursor))) = some (none, 3, [3, 4, 4, 6]) := by decide +kernel
  have h' : ((leading (.byGroups [.lex "inner"])).build.toOption.bind fun t =>
      (t.initialStack []).toOption.map fun stack =>
        ((t.scanFrom "<x>y<>" stack).error, (t.scanFrom "<x>y<>" stack).tokens.length)) = some (none, 5) := by
    decide +kernel
  obtain ⟨t, stack, hb, hstack, h⟩ := exists_of_toOption_bind h
  obtain ⟨t', stack', hb', hstack', h'⟩ := exists_of_toOption_bind h'
  obtain ⟨he, h⟩ := Prod.mk.inj h
  obtain ⟨hlength, hcursors⟩ := Prod.mk.inj h
  obtain ⟨he', hlength'⟩ := Prod.mk.inj h'
  have hrevised : (leading (.token ⟨"String"⟩)).Revised Rule.SameMoves (leading (.byGroups [.lex "inner"])) := by
    refine .cons ⟨rfl, .cons (.rule ⟨rfl, rfl⟩) .nil⟩ (.cons ⟨rfl, ?_⟩ .nil)
    exact .cons (.rule ⟨rfl, rfl⟩) (.cons (.rule ⟨rfl, rfl⟩) .nil)
  obtain ⟨hinitial, hscans⟩ := path_revised hrevised rfl hb hb' "<x>y<>" hstack
  cases hstack'.symm.trans hinitial
  refine ⟨t, t', stack, hb, hb', hstack, fun heq => ?_, hcursors, (hscans he he').1⟩
  rw [heq] at hlength
  omega

end Table

end ModalLexer
