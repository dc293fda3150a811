import Mathlib.Data.List.Forall2
import Mathlib.Data.List.Nodup
import ModalLexer.Proofs.Outcome
import ModalLexer.Table.Build

/-!
What compiling a declaration says of it. Where it succeeds, every entry became the entry at the same place of the
compiled state, and every name in it became the place of that name. Where it fails, one entry is at fault: its
pattern is refused, the rule can never be valid, or a name in it is not declared.
-/

namespace ModalLexer

/-! ## Lists side by side -/

section

variable {α β : Type} {r : α → β → Prop} {as : List α} {bs : List β} {i : Nat}

theorem forall₂_left {a : α} (h : List.Forall₂ r as bs) (ha : as[i]? = some a) :
    ∃ b, bs[i]? = some b ∧ r a b := by
  induction h generalizing i with
  | nil => simp at ha
  | cons hab _ ih =>
      cases i with
      | zero => cases ha; exact ⟨_, rfl, hab⟩
      | succ i => exact ih ha

theorem forall₂_right {b : β} (h : List.Forall₂ r as bs) (hb : bs[i]? = some b) :
    ∃ a, as[i]? = some a ∧ r a b :=
  forall₂_left (r := fun b a => r a b) h.flip hb

theorem map_eq_of_forall₂ {γ : Type} {f : α → γ} {g : β → γ} (h : List.Forall₂ r as bs)
    (hr : ∀ a b, r a b → f a = g b) : as.map f = bs.map g := by
  induction h with
  | nil => rfl
  | cons hab _ ih => rw [List.map_cons, List.map_cons, hr _ _ hab, ih]

/-- Lists beside related lists are related themselves. -/
theorem forall₂_square {γ δ : Type} {p : α → γ → Prop} {p' : β → δ → Prop} {q : γ → δ → Prop}
    (hq : ∀ {a b c d}, r a b → p a c → p' b d → q c d) {cs : List γ} {ds : List δ} (h : List.Forall₂ r as bs)
    (hp : List.Forall₂ p as cs) (hp' : List.Forall₂ p' bs ds) : List.Forall₂ q cs ds := by
  induction h generalizing cs ds with
  | nil => cases hp; cases hp'; exact .nil
  | cons hab _ ih =>
      cases hp with
      | cons hac hp =>
          cases hp' with
          | cons hbd hp' => exact .cons (hq hab hac hbd) (ih hp hp')

end

/-! ## References -/

/-- The states that a move refers to. -/
def Transition.references : Transition σ → List σ
  | .push ss => ss
  | .goto s => [s]
  | _ => []

def GroupAction.references : GroupAction σ → List σ
  | .lex s => [s]
  | _ => []

def Emission.references : Emission σ → List σ
  | .byGroups as => as.flatMap GroupAction.references
  | _ => []

def Rule.references (r : Rule) : List String :=
  r.transition.references ++ r.emission.references

def CompiledRule.references (r : CompiledRule) : List StateId :=
  r.transition.references ++ r.emission.references

def Entry.references : Entry → List String
  | .rule r => r.references
  | .include s => [s]

section

variable {σ τ ε : Type} {f : σ → Except ε τ}

theorem mapM_eq_ok {ss : List σ} {ts : List τ} (h : ss.mapM f = .ok ts) :
    List.Forall₂ (fun s t => f s = .ok t) ss ts := by
  induction ss generalizing ts with
  | nil => cases h; exact .nil
  | cons s ss ih =>
      rw [List.mapM_cons] at h
      obtain ⟨t, ht, h⟩ := bind_eq_ok.mp h
      obtain ⟨us, hus, h⟩ := bind_eq_ok.mp h
      cases h
      exact .cons ht (ih hus)

theorem mapM_eq_error {ss : List σ} {e : ε} (h : ss.mapM f = .error e) : ∃ s ∈ ss, f s = .error e := by
  induction ss with
  | nil => cases h
  | cons s ss ih =>
      rw [List.mapM_cons] at h
      rcases bind_eq_error.mp h with h | ⟨t, _, h⟩
      · exact ⟨s, List.mem_cons_self, h⟩
      · rcases bind_eq_error.mp h with h | ⟨us, _, h⟩
        · obtain ⟨s', hs', he⟩ := ih h
          exact ⟨s', List.mem_cons_of_mem _ hs', he⟩
        · cases h

theorem Transition.mapM_references {t : Transition σ} {t' : Transition τ} (h : t.mapM f = .ok t') :
    List.Forall₂ (fun s s' => f s = .ok s') t.references t'.references := by
  cases t with
  | push ss =>
      obtain ⟨ts, hts, h⟩ := bind_eq_ok.mp h
      cases h
      exact mapM_eq_ok hts
  | goto s =>
      obtain ⟨s', hs', h⟩ := bind_eq_ok.mp h
      cases h
      exact .cons hs' .nil
  | stay | pushCurrent | pop _ => cases h; exact .nil

theorem Transition.mapM_eq_error {t : Transition σ} {e : ε} (h : t.mapM f = .error e) :
    ∃ s ∈ t.references, f s = .error e := by
  cases t with
  | push ss =>
      rcases bind_eq_error.mp h with h | ⟨_, _, h⟩
      · exact ModalLexer.mapM_eq_error h
      · cases h
  | goto s =>
      rcases bind_eq_error.mp h with h | ⟨_, _, h⟩
      · exact ⟨s, List.mem_singleton_self s, h⟩
      · cases h
  | stay | pushCurrent | pop _ => cases h

theorem GroupAction.mapM_references {a : GroupAction σ} {a' : GroupAction τ} (h : a.mapM f = .ok a') :
    List.Forall₂ (fun s s' => f s = .ok s') a.references a'.references := by
  cases a with
  | lex s =>
      obtain ⟨s', hs', h⟩ := bind_eq_ok.mp h
      cases h
      exact .cons hs' .nil
  | kind _ | text | skip => cases h; exact .nil

theorem GroupAction.mapM_eq_error {a : GroupAction σ} {e : ε} (h : a.mapM f = .error e) :
    ∃ s ∈ a.references, f s = .error e := by
  cases a with
  | lex s =>
      rcases bind_eq_error.mp h with h | ⟨_, _, h⟩
      · exact ⟨s, List.mem_singleton_self s, h⟩
      · cases h
  | kind _ | text | skip => cases h

theorem Emission.mapM_references {m : Emission σ} {m' : Emission τ} (h : m.mapM f = .ok m') :
    List.Forall₂ (fun s s' => f s = .ok s') m.references m'.references := by
  cases m with
  | byGroups as =>
      obtain ⟨bs, hbs, h⟩ := bind_eq_ok.mp h
      cases h
      exact List.rel_flatMap (mapM_eq_ok hbs) fun _ _ h => GroupAction.mapM_references h
  | token _ | nothing => cases h; exact .nil

theorem Emission.mapM_eq_error {m : Emission σ} {e : ε} (h : m.mapM f = .error e) :
    ∃ s ∈ m.references, f s = .error e := by
  cases m with
  | byGroups as =>
      rcases bind_eq_error.mp h with h | ⟨_, _, h⟩
      · obtain ⟨a, ha, h⟩ := ModalLexer.mapM_eq_error h
        obtain ⟨s, hs, h⟩ := GroupAction.mapM_eq_error h
        exact ⟨s, List.mem_flatMap.mpr ⟨a, ha, hs⟩, h⟩
      · cases h
  | token _ | nothing => cases h

end

/-! ## Names -/

theorem checkDistinct_eq_ok {seen ns : List String} (hs : seen.Nodup) (h : checkDistinct seen ns = .ok ()) :
    (seen ++ ns).Nodup := by
  induction ns generalizing seen with
  | nil => simpa using hs
  | cons n ns ih =>
      simp only [checkDistinct, List.contains_iff_mem] at h
      split at h
      · cases h
      next hn =>
        have := ih (List.nodup_cons.mpr ⟨hn, hs⟩) h
        exact (List.perm_middle.nodup_iff).mpr this

theorem checkDistinct_eq_error {seen ns : List String} {e : Error} (h : checkDistinct seen ns = .error e) :
    ∃ n, e = .duplicateState n ∧ 2 ≤ (seen ++ ns).count n := by
  induction ns generalizing seen with
  | nil => cases h
  | cons n ns ih =>
      simp only [checkDistinct, List.contains_iff_mem] at h
      split at h
      next hn =>
        cases h
        refine ⟨n, rfl, ?_⟩
        have := List.count_pos_iff.mpr hn
        rw [List.count_append, List.count_cons_self]
        omega
      next =>
        obtain ⟨m, rfl, hm⟩ := ih h
        exact ⟨m, rfl, by rwa [List.perm_middle.count_eq]⟩

theorem getElem?_of_findIdx? {names : List String} {name : String} {i : Nat}
    (h : names.findIdx? (· == name) = some i) : names[i]? = some name := by
  obtain ⟨hi, hn, _⟩ := List.findIdx?_eq_some_iff_getElem.mp h
  rw [List.getElem?_eq_getElem hi, eq_of_beq hn]

theorem not_mem_of_findIdx? {names : List String} {name : String}
    (h : names.findIdx? (· == name) = none) : name ∉ names := by
  intro hm
  simpa using List.findIdx?_eq_none_iff.mp h name hm

theorem resolveName_eq_ok {names : List String} {state name : String} {id : StateId}
    (h : resolveName names state name = .ok id) : names[id.index]? = some name := by
  unfold resolveName at h
  split at h
  next i hi => cases h; exact getElem?_of_findIdx? hi
  · cases h

theorem resolveName_eq_error {names : List String} {state name : String} {e : Error}
    (h : resolveName names state name = .error e) : e = .undefinedState name state ∧ name ∉ names := by
  unfold resolveName at h
  split at h
  · cases h
  next hn => cases h; exact ⟨rfl, not_mem_of_findIdx? hn⟩

/-! ## Rules -/

/-- What makes a rule one that can never be valid. -/
inductive Rule.HasFault (multiLine : Bool) (r : Rule) : RuleFault → Prop
  | emptyPush : r.transition = .push [] → HasFault multiLine r .emptyPush
  | emptyPop : r.transition = .pop 0 → HasFault multiLine r .emptyPop
  | inert : r.emission = .nothing → r.transition = .stay → HasFault multiLine r .inert
  | tooManyActions {m : Matcher} {actions : List (GroupAction String)} :
      r.pattern.compile multiLine = .ok m → r.emission = .byGroups actions →
      m.groupCount - 1 < actions.length →
      HasFault multiLine r (.tooManyActions actions.length (m.groupCount - 1))

theorem Transition.isStay_iff {t : Transition σ} : t.isStay = true ↔ t = .stay := by
  cases t <;> simp [Transition.isStay]

section

variable {multiLine : Bool} {names : List String} {site : RuleSite}

theorem compileTransition_eq_ok {t : Transition String} {t' : Transition StateId}
    (h : compileTransition names site t = .ok t') :
    t ≠ .push [] ∧ t ≠ .pop 0 ∧ t.mapM (resolveName names site.state) = .ok t' := by
  unfold compileTransition at h
  split at h
  · cases h
  · cases h
  next hpush hpop => exact ⟨hpush, hpop, h⟩

theorem compileTransition_eq_error {t : Transition String} {e : Error}
    (h : compileTransition names site t = .error e) :
    t = .push [] ∧ e = .invalidRule site.state site.index .emptyPush ∨
    t = .pop 0 ∧ e = .invalidRule site.state site.index .emptyPop ∨
    t.mapM (resolveName names site.state) = .error e := by
  unfold compileTransition at h
  split at h
  · cases h; exact .inl ⟨rfl, rfl⟩
  · cases h; exact .inr (.inl ⟨rfl, rfl⟩)
  · exact .inr (.inr h)

theorem compileEmission_eq_ok {groups : Nat} {stays : Bool} {m : Emission String} {m' : Emission StateId}
    (h : compileEmission names site groups stays m = .ok m') :
    ¬ (m = .nothing ∧ stays = true) ∧ (∀ actions, m = .byGroups actions → actions.length ≤ groups) ∧
      m.mapM (resolveName names site.state) = .ok m' := by
  cases m with
  | token k => cases h; exact ⟨by simp, by simp, rfl⟩
  | nothing =>
      simp only [compileEmission] at h
      split at h
      · cases h
      next hs => cases h; exact ⟨fun ⟨_, ht⟩ => hs ht, by simp, rfl⟩
  | byGroups actions =>
      simp only [compileEmission] at h
      split at h
      · cases h
      next hl => exact ⟨by simp, fun _ ha => by cases ha; exact Nat.le_of_not_lt hl, h⟩

theorem compileEmission_eq_error {groups : Nat} {stays : Bool} {m : Emission String} {e : Error}
    (h : compileEmission names site groups stays m = .error e) :
    m = .nothing ∧ stays = true ∧ e = .invalidRule site.state site.index .inert ∨
    (∃ actions, m = .byGroups actions ∧ groups < actions.length ∧
      e = .invalidRule site.state site.index (.tooManyActions actions.length groups)) ∨
    m.mapM (resolveName names site.state) = .error e := by
  cases m with
  | token k => cases h
  | nothing =>
      simp only [compileEmission] at h
      split at h
      next hs => cases h; exact .inl ⟨rfl, hs, rfl⟩
      · cases h
  | byGroups actions =>
      simp only [compileEmission] at h
      split at h
      next hl => cases h; exact .inr (.inl ⟨actions, rfl, hl, rfl⟩)
      · exact .inr (.inr h)

theorem compileRule_eq_ok {r : Rule} {c : CompiledRule} (h : compileRule multiLine names site r = .ok c) :
    r.pattern.compile multiLine = .ok c.matcher ∧
      compileTransition names site r.transition = .ok c.transition ∧
      compileEmission names site (c.matcher.groupCount - 1) r.transition.isStay r.emission = .ok c.emission ∧
      c.origin = site.state ∧ c.index = site.index ∧ c.slot = site.slot := by
  unfold compileRule at h
  obtain ⟨m, hm, h⟩ := bind_eq_ok.mp h
  obtain ⟨t, ht, h⟩ := bind_eq_ok.mp h
  obtain ⟨e, he, h⟩ := bind_eq_ok.mp h
  cases h
  exact ⟨mapError_eq_ok.mp hm, ht, he, rfl, rfl, rfl⟩

/-- A rule that was compiled has no fault, and what it refers to is declared. -/
theorem compileRule_clean {r : Rule} {c : CompiledRule} (h : compileRule multiLine names site r = .ok c) :
    (∀ fault, ¬ r.HasFault multiLine fault) ∧
      List.Forall₂ (fun name id => resolveName names site.state name = .ok id) r.references c.references := by
  obtain ⟨hm, ht, he, _⟩ := compileRule_eq_ok h
  obtain ⟨hpush, hpop, ht⟩ := compileTransition_eq_ok ht
  obtain ⟨hinert, hmany, he⟩ := compileEmission_eq_ok he
  constructor
  · intro fault hf
    cases hf with
    | emptyPush h => exact hpush h
    | emptyPop h => exact hpop h
    | inert hn hs => exact hinert ⟨hn, Transition.isStay_iff.mpr hs⟩
    | tooManyActions hm' ha hl =>
        cases hm.symm.trans hm'
        exact Nat.not_lt_of_le (hmany _ ha) hl
  · exact List.rel_append (Transition.mapM_references ht) (Emission.mapM_references he)

/-- Why a rule is refused. -/
inductive Rule.Refused (multiLine : Bool) (names : List String) (state : String) (index : Nat) (r : Rule) :
    Error → Prop
  | pattern {dialect : Dialect} {fault : Pattern.Fault} :
      r.pattern.compile multiLine = .error (dialect, fault) →
      Refused multiLine names state index r (.ofFault fault (.badPattern state index r.pattern.text dialect))
  | fault {fault : RuleFault} :
      r.HasFault multiLine fault → Refused multiLine names state index r (.invalidRule state index fault)
  | name {name : String} :
      name ∈ r.references → name ∉ names → Refused multiLine names state index r (.undefinedState name state)

theorem compileRule_eq_error {r : Rule} {e : Error} (h : compileRule multiLine names site r = .error e) :
    r.Refused multiLine names site.state site.index e := by
  have hname {s : String} (hs : s ∈ r.references) (he : resolveName names site.state s = .error e) :
      r.Refused multiLine names site.state site.index e := by
    obtain ⟨rfl, hn⟩ := resolveName_eq_error he
    exact .name hs hn
  unfold compileRule at h
  rcases bind_eq_error.mp h with h | ⟨m, hm, h⟩
  · obtain ⟨⟨dialect, fault⟩, hp, rfl⟩ := mapError_eq_error.mp h
    exact .pattern hp
  have hm := mapError_eq_ok.mp hm
  rcases bind_eq_error.mp h with h | ⟨t, _, h⟩
  · rcases compileTransition_eq_error h with ⟨ht, rfl⟩ | ⟨ht, rfl⟩ | h
    · exact .fault (.emptyPush ht)
    · exact .fault (.emptyPop ht)
    · obtain ⟨s, hs, he⟩ := Transition.mapM_eq_error h
      exact hname (List.mem_append_left _ hs) he
  rcases bind_eq_error.mp h with h | ⟨_, _, h⟩
  · rcases compileEmission_eq_error h with ⟨hn, hs, rfl⟩ | ⟨actions, ha, hl, rfl⟩ | h
    · exact .fault (.inert hn (Transition.isStay_iff.mp hs))
    · exact .fault (.tooManyActions hm ha hl)
    · obtain ⟨s, hs, he⟩ := Emission.mapM_eq_error h
      exact hname (List.mem_append_right _ hs) he
  · cases h

end

/-! ## Entries and states -/

/-- What an entry of a state is compiled to. -/
inductive Entry.CompilesTo (multiLine : Bool) (names : List String) (state : String) :
    Entry → CompiledEntry → Prop
  | rule {index slot : Nat} {r : Rule} {c : CompiledRule} :
      compileRule multiLine names ⟨state, index, slot⟩ r = .ok c →
      CompilesTo multiLine names state (.rule r) (.rule c)
  | include {target : String} {id : StateId} :
      resolveName names state target = .ok id →
      CompilesTo multiLine names state (.include target) (.include id)

theorem Entry.CompilesTo.references_mem {multiLine : Bool} {names : List String} {state : String} {entry : Entry}
    {c : CompiledEntry} (h : entry.CompilesTo multiLine names state c) :
    ∀ name ∈ entry.references, name ∈ names := by
  intro name hname
  cases h with
  | rule hc =>
      obtain ⟨i, hi⟩ := List.getElem?_of_mem hname
      obtain ⟨id, _, hid⟩ := forall₂_left (compileRule_clean hc).2 hi
      exact List.mem_of_getElem? (resolveName_eq_ok hid)
  | «include» hid =>
      cases List.mem_singleton.mp hname
      exact List.mem_of_getElem? (resolveName_eq_ok hid)

/-- Why the entry at a place of a state is refused. -/
inductive Entry.Refused (multiLine : Bool) (names : List String) (state : String) (index : Nat) :
    Entry → Error → Prop
  | rule {r : Rule} {e : Error} :
      r.Refused multiLine names state index e → Refused multiLine names state index (.rule r) e
  | include {target : String} :
      target ∉ names → Refused multiLine names state index (.include target) (.undefinedState target state)

section

variable {multiLine : Bool} {names : List String} {state : String} {index slot : Nat}

theorem compileEntries_eq_ok {es : List Entry} {out : List CompiledEntry × Nat}
    (h : compileEntries multiLine names state index slot es = .ok out) :
    List.Forall₂ (Entry.CompilesTo multiLine names state) es out.1 := by
  induction es generalizing index slot out with
  | nil => cases h; exact .nil
  | cons e es ih =>
      cases e with
      | rule r =>
          obtain ⟨c, hc, h⟩ := bind_eq_ok.mp h
          obtain ⟨⟨rest, next⟩, hrest, h⟩ := bind_eq_ok.mp h
          cases h
          exact .cons (.rule hc) (ih hrest)
      | «include» target =>
          obtain ⟨id, hid, h⟩ := bind_eq_ok.mp h
          obtain ⟨⟨rest, next⟩, hrest, h⟩ := bind_eq_ok.mp h
          cases h
          exact .cons (.include hid) (ih hrest)

theorem compileEntries_eq_error {es : List Entry} {e : Error}
    (h : compileEntries multiLine names state index slot es = .error e) :
    ∃ (i : Nat) (entry : Entry), es[i]? = some entry ∧ entry.Refused multiLine names state (index + i) e := by
  induction es generalizing index slot with
  | nil => cases h
  | cons entry es ih =>
      have hrest {slot : Nat} (h : compileEntries multiLine names state (index + 1) slot es = .error e) :
          ∃ (i : Nat) (entry' : Entry), (entry :: es)[i]? = some entry' ∧
            entry'.Refused multiLine names state (index + i) e := by
        obtain ⟨i, entry', hi, hr⟩ := ih h
        exact ⟨i + 1, entry', hi, by rwa [Nat.add_assoc, Nat.add_comm 1 i] at hr⟩
      cases entry with
      | rule r =>
          rcases bind_eq_error.mp h with h | ⟨c, _, h⟩
          · exact ⟨0, .rule r, rfl, .rule (compileRule_eq_error h)⟩
          rcases bind_eq_error.mp h with h | ⟨_, _, h⟩
          · exact hrest h
          · cases h
      | «include» target =>
          rcases bind_eq_error.mp h with h | ⟨c, _, h⟩
          · obtain ⟨rfl, hn⟩ := resolveName_eq_error h
            exact ⟨0, .include target, rfl, .include hn⟩
          rcases bind_eq_error.mp h with h | ⟨_, _, h⟩
          · exact hrest h
          · cases h

theorem compileStates_eq_ok {states : List (String × List Entry)} {declared : List (List CompiledEntry)}
    (h : compileStates multiLine names slot states = .ok declared) :
    List.Forall₂ (fun s es => List.Forall₂ (Entry.CompilesTo multiLine names s.1) s.2 es) states declared := by
  induction states generalizing slot declared with
  | nil => cases h; exact .nil
  | cons s states ih =>
      obtain ⟨⟨es, next⟩, hes, h⟩ := bind_eq_ok.mp h
      obtain ⟨rest, hrest, h⟩ := bind_eq_ok.mp h
      cases h
      exact .cons (compileEntries_eq_ok hes) (ih hrest)

theorem compileStates_eq_error {states : List (String × List Entry)} {e : Error}
    (h : compileStates multiLine names slot states = .error e) :
    ∃ s ∈ states, ∃ (i : Nat) (entry : Entry), s.2[i]? = some entry ∧ entry.Refused multiLine names s.1 i e := by
  induction states generalizing slot with
  | nil => cases h
  | cons s states ih =>
      rcases bind_eq_error.mp h with h | ⟨_, _, h⟩
      · obtain ⟨i, entry, hi, hr⟩ := compileEntries_eq_error h
        exact ⟨s, List.mem_cons_self, i, entry, hi, by rwa [Nat.zero_add] at hr⟩
      rcases bind_eq_error.mp h with h | ⟨_, _, h⟩
      · obtain ⟨s', hs', h⟩ := ih h
        exact ⟨s', List.mem_cons_of_mem _ hs', h⟩
      · cases h

end

/-! ## Declarations -/

namespace Declaration

variable {d : Declaration}

theorem resolve_eq_ok {root : StateId} {declared : List (List CompiledEntry)}
    (h : d.resolve = .ok (root, declared)) :
    d.names.Nodup ∧ d.names[root.index]? = some d.options.root ∧
      compileStates d.options.multiLine d.names 0 d.states = .ok declared := by
  unfold resolve at h
  obtain ⟨_, hd, h⟩ := bind_eq_ok.mp h
  simp only at h
  split at h
  next i hi =>
    obtain ⟨_, hroot, h⟩ := bind_eq_ok.mp h
    obtain ⟨_, hc, h⟩ := bind_eq_ok.mp h
    cases hroot
    cases h
    exact ⟨by simpa using checkDistinct_eq_ok .nil hd, getElem?_of_findIdx? hi, hc⟩
  · cases h

theorem resolve_eq_error {e : Error} (h : d.resolve = .error e) :
    (∃ name, e = .duplicateState name ∧ 2 ≤ d.names.count name) ∨
    (e = .missingRoot d.options.root ∧ d.options.root ∉ d.names) ∨
    ∃ s ∈ d.states, ∃ (i : Nat) (entry : Entry), s.2[i]? = some entry ∧
      entry.Refused d.options.multiLine d.names s.1 i e := by
  unfold resolve at h
  rcases bind_eq_error.mp h with h | ⟨_, _, h⟩
  · exact .inl (by simpa using checkDistinct_eq_error h)
  simp only at h
  split at h
  next =>
    obtain h | ⟨_, _, h⟩ := bind_eq_error.mp h
    · cases h
    obtain h | ⟨_, _, h⟩ := bind_eq_error.mp h
    · exact .inr (.inr (compileStates_eq_error h))
    · cases h
  next hn =>
    cases h
    exact .inr (.inl ⟨rfl, not_mem_of_findIdx? hn⟩)

theorem build_eq_ok {t : Table} (h : d.build = .ok t) :
    ∃ root declared done, d.resolve = .ok (root, declared) ∧ flatten declared = .ok done ∧
      t.options = d.options ∧ t.names = d.names.toArray ∧ t.root = root ∧
      t.rules = ((List.range declared.length).map fun i => (done.rules? i).getD []).toArray := by
  unfold build at h
  obtain ⟨⟨root, declared⟩, hr, h⟩ := bind_eq_ok.mp h
  obtain ⟨done, hf, h⟩ := bind_eq_ok.mp h
  cases h
  exact ⟨root, declared, done, hr, mapError_eq_ok.mp hf, rfl, rfl, rfl, rfl⟩

theorem build_eq_error {e : Error} (h : d.build = .error e) :
    d.resolve = .error e ∨
    ∃ root declared cycle, d.resolve = .ok (root, declared) ∧ flatten declared = .error cycle ∧
      e = d.cycleError cycle := by
  unfold build at h
  rcases bind_eq_error.mp h with h | ⟨⟨root, declared⟩, hr, h⟩
  · exact .inl h
  rcases bind_eq_error.mp h with h | ⟨_, _, h⟩
  · obtain ⟨cycle, hf, rfl⟩ := mapError_eq_error.mp h
    exact .inr ⟨root, declared, cycle, hr, hf, rfl⟩
  · cases h

end Declaration

end ModalLexer
