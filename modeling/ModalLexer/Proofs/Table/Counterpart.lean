import Mathlib.Data.List.Forall2
import Mathlib.Data.Option.Basic
import Mathlib.Logic.Function.Basic
import ModalLexer.Proofs.Table.Rules
import ModalLexer.Scan.Stack
import ModalLexer.Token

/-!
Two tables side by side. States correspond by name, and rules if they match alike, emit alike and move to
corresponding states. Errors may be told apart by less than the rule at fault, kinds may be exchanged for others,
and the second table may allow more where the first one gives up.
-/

namespace ModalLexer

/-! ## Views -/

/-- The error with another rule at fault. -/
def Error.mapSite (f : String × Nat → String × Nat) : Error → Error
  | .searchFailed s i pos d => .searchFailed (f (s, i)).1 (f (s, i)).2 pos d
  | .zeroWidthMatch s i pos => .zeroWidthMatch (f (s, i)).1 (f (s, i)).2 pos
  | .droppedText s i pos => .droppedText (f (s, i)).1 (f (s, i)).2 pos
  | e => e

/-- What of a rule at fault is looked at, and which kind another table has in the place of a kind. -/
structure View where
  site : String × Nat → String × Nat := id
  kind : Kind → Kind := id

/-- The token of the other table. -/
def View.token (v : View) (token : Token) : Token :=
  { token with kind := v.kind token.kind }

theorem Error.mapSite_id (e : Error) : e.mapSite id = e := by
  cases e <;> rfl

theorem mapError_mapSite_id (x : Except Error α) : x.mapError (·.mapSite id) = x := by
  cases x with
  | error e => exact congrArg Except.error e.mapSite_id
  | ok a => rfl

theorem View.token_plain : View.token {} = id := rfl

theorem map_token_plain (site : String × Nat → String × Nat) (x : Except ε Token) :
    x.map (View.token { site }) = x := by
  cases x with
  | error e => rfl
  | ok token => rfl

namespace Table

/-- The first table gives up with the error where the second one may go on. -/
def Cuts (t t' : Table) : Error → Prop
  | .zeroWidthLoop .. => t.options.maxZeroWidth < t'.options.maxZeroWidth
  | .nestingTooDeep .. => t.options.maxNesting < t'.options.maxNesting
  | _ => False

/-- Tables with the same limits. -/
structure SameLimits (t t' : Table) : Prop where
  maxZeroWidth : t'.options.maxZeroWidth = t.options.maxZeroWidth
  maxNesting : t'.options.maxNesting = t.options.maxNesting

theorem SameLimits.not_cuts {t t' : Table} (h : t.SameLimits t') (e : Error) : ¬ t.Cuts t' e := by
  intro hcut
  cases e with
  | zeroWidthLoop name pos steps => exact Nat.ne_of_lt hcut h.maxZeroWidth.symm
  | nestingTooDeep depth => exact Nat.ne_of_lt hcut h.maxNesting.symm
  | _ => exact hcut

/-- Two computations end alike: both with values that are related, or both with an error that is the same in the
view, unless the first is cut off. -/
inductive Alike (v : View) (t t' : Table) (rel : α → β → Prop) : Except Error α → Except Error β → Prop
  | ok {a : α} {b : β} : rel a b → Alike v t t' rel (.ok a) (.ok b)
  | error {e e' : Error} : e.mapSite v.site = e'.mapSite v.site → Alike v t t' rel (.error e) (.error e')
  | cut {e : Error} {x' : Except Error β} : t.Cuts t' e → Alike v t t' rel (.error e) x'

section

variable {v : View} {t t' : Table} {rel : α → β → Prop} {rel' : γ → δ → Prop}

theorem Alike.bind {x : Except Error α} {x' : Except Error β} {f : α → Except Error γ} {f' : β → Except Error δ}
    (h : Alike v t t' rel x x') (hf : ∀ a b, rel a b → Alike v t t' rel' (f a) (f' b)) :
    Alike v t t' rel' (x >>= f) (x' >>= f') := by
  cases h with
  | ok hab => exact hf _ _ hab
  | error he => exact .error he
  | cut hc => exact .cut hc

theorem Alike.map {x : Except Error α} {x' : Except Error β} {f : α → γ} {f' : β → δ} (h : Alike v t t' rel x x')
    (hf : ∀ a b, rel a b → rel' (f a) (f' b)) : Alike v t t' rel' (x.map f) (x'.map f') := by
  cases h with
  | ok hab => exact .ok (hf _ _ hab)
  | error he => exact .error he
  | cut hc => exact .cut hc

theorem Alike.mapM {f : α → Except Error γ} {f' : α → Except Error δ} (h : ∀ a, Alike v t t' rel' (f a) (f' a))
    (as : List α) : Alike v t t' (List.Forall₂ rel') (as.mapM f) (as.mapM f') := by
  induction as with
  | nil => exact .ok .nil
  | cons a as ih =>
      rw [List.mapM_cons, List.mapM_cons]
      exact (h a).bind fun _ _ hfirst => ih.bind fun _ _ hrest => .ok (.cons hfirst hrest)

theorem Alike.eq_ok {x x' : Except Error α} {a : α} (h : Alike v t t' Eq x x') (hx : x = .ok a) : x' = .ok a := by
  cases h with
  | ok hab => rw [← hab]; exact hx
  | error _ => cases hx
  | cut _ => cases hx

end

/-! ## States and stacks -/

/-- The states have the same name. -/
def SameState (t t' : Table) (id id' : StateId) : Prop :=
  ∃ name, t.name? id = some name ∧ t'.name? id' = some name

theorem SameState.name_eq {t t' : Table} {id id' : StateId} (h : t.SameState t' id id') : t.name id = t'.name id' := by
  obtain ⟨n, hid, hid'⟩ := h
  rw [Table.name, Table.name, hid, hid']

/-- The stacks have the same names on them. -/
structure SameStack (t t' : Table) (s s' : StateStack) : Prop where
  root : t.SameState t' s.root s'.root
  above : List.Forall₂ (t.SameState t') s.above s'.above

end Table

/-! ## Parts of rules -/

/-- Moves that lead to related states. -/
inductive Transition.Like (rel : σ → τ → Prop) : Transition σ → Transition τ → Prop
  | stay : Like rel .stay .stay
  | push {ss : List σ} {ts : List τ} : List.Forall₂ rel ss ts → Like rel (.push ss) (.push ts)
  | pushCurrent : Like rel .pushCurrent .pushCurrent
  | pop (count : Nat) : Like rel (.pop count) (.pop count)
  | goto {s : σ} {t : τ} : rel s t → Like rel (.goto s) (.goto t)

/-- Actions with the kind that stands for another one, or that scan from related states. -/
inductive GroupAction.Like (kind : Kind → Kind) (rel : σ → τ → Prop) : GroupAction σ → GroupAction τ → Prop
  | kind (k : Kind) : Like kind rel (.kind k) (.kind (kind k))
  | text : Like kind rel .text .text
  | skip : Like kind rel .skip .skip
  | lex {s : σ} {t : τ} : rel s t → Like kind rel (.lex s) (.lex t)

inductive Emission.Like (kind : Kind → Kind) (rel : σ → τ → Prop) : Emission σ → Emission τ → Prop
  | token (k : Kind) : Like kind rel (.token k) (.token (kind k))
  | byGroups {as : List (GroupAction σ)} {bs : List (GroupAction τ)} :
      List.Forall₂ (GroupAction.Like kind rel) as bs → Like kind rel (.byGroups as) (.byGroups bs)
  | nothing : Like kind rel .nothing .nothing

theorem forall₂_getElem? {rel : σ → τ → Prop} {ss : List σ} {ts : List τ} (h : List.Forall₂ rel ss ts) (i : Nat) :
    Option.Rel rel ss[i]? ts[i]? := by
  induction h generalizing i with
  | nil => exact .none
  | cons hst _ ih =>
      cases i with
      | zero => exact .some hst
      | succ i => exact ih i

section

variable {rel : σ → τ → Prop} {kind : Kind → Kind}

theorem Transition.Like.isStay_eq {t : Transition σ} {u : Transition τ} (h : t.Like rel u) :
    u.isStay = t.isStay := by
  cases h <;> rfl

theorem GroupAction.Like.emits_eq {a : GroupAction σ} {b : GroupAction τ} (h : a.Like kind rel b) :
    b.emits = a.emits := by
  cases h <;> rfl

theorem GroupAction.like_self (a : GroupAction σ) : a.Like id Eq a := by
  cases a with
  | kind k => exact .kind k
  | text => exact .text
  | skip => exact .skip
  | lex s => exact .lex rfl

theorem Emission.like_self (m : Emission σ) : m.Like id Eq m := by
  cases m with
  | token k => exact .token k
  | byGroups as => exact .byGroups (List.forall₂_same.mpr fun a _ => a.like_self)
  | nothing => exact .nothing

end

/-! Resolving the same references with two functions gives parts that are alike, if what the two functions give for
one reference is related. -/

section

variable {ρ σ τ ε : Type} {f : ρ → Except ε σ} {f' : ρ → Except ε τ} {rel : σ → τ → Prop}

theorem Transition.mapM_like (hrel : ∀ s a b, f s = .ok a → f' s = .ok b → rel a b) {t : Transition ρ}
    {u : Transition σ} {u' : Transition τ} (h : t.mapM f = .ok u) (h' : t.mapM f' = .ok u') : u.Like rel u' := by
  cases t with
  | stay => cases h; cases h'; exact .stay
  | push ss =>
      obtain ⟨as, has, h⟩ := bind_eq_ok.mp h
      obtain ⟨bs, hbs, h'⟩ := bind_eq_ok.mp h'
      cases h
      cases h'
      have hss : List.Forall₂ Eq ss ss := List.forall₂_same.mpr fun _ _ => rfl
      refine .push (forall₂_square ?_ hss (mapM_eq_ok has) (mapM_eq_ok hbs))
      rintro s _ a b rfl ha hb
      exact hrel s a b ha hb
  | pushCurrent => cases h; cases h'; exact .pushCurrent
  | pop count => cases h; cases h'; exact .pop count
  | goto s =>
      obtain ⟨a, ha, h⟩ := bind_eq_ok.mp h
      obtain ⟨b, hb, h'⟩ := bind_eq_ok.mp h'
      cases h
      cases h'
      exact .goto (hrel _ _ _ ha hb)

theorem GroupAction.mapM_like (hrel : ∀ s a b, f s = .ok a → f' s = .ok b → rel a b) {kind : Kind → Kind}
    {a a' : GroupAction ρ} (ha : a.Like kind Eq a') {b : GroupAction σ} {b' : GroupAction τ} (h : a.mapM f = .ok b)
    (h' : a'.mapM f' = .ok b') : b.Like kind rel b' := by
  cases ha with
  | kind k => cases h; cases h'; exact .kind k
  | text => cases h; cases h'; exact .text
  | skip => cases h; cases h'; exact .skip
  | lex hs =>
      cases hs
      obtain ⟨s, hs, h⟩ := bind_eq_ok.mp h
      obtain ⟨s', hs', h'⟩ := bind_eq_ok.mp h'
      cases h
      cases h'
      exact .lex (hrel _ _ _ hs hs')

theorem Emission.mapM_like (hrel : ∀ s a b, f s = .ok a → f' s = .ok b → rel a b) {kind : Kind → Kind}
    {m m' : Emission ρ} (hm : m.Like kind Eq m') {n : Emission σ} {n' : Emission τ} (h : m.mapM f = .ok n)
    (h' : m'.mapM f' = .ok n') : n.Like kind rel n' := by
  cases hm with
  | token k => cases h; cases h'; exact .token k
  | nothing => cases h; cases h'; exact .nothing
  | byGroups has =>
      obtain ⟨bs, hbs, h⟩ := bind_eq_ok.mp h
      obtain ⟨bs', hbs', h'⟩ := bind_eq_ok.mp h'
      cases h
      cases h'
      refine .byGroups (forall₂_square (fun ha hb hb' => ?_) has (mapM_eq_ok hbs) (mapM_eq_ok hbs'))
      exact GroupAction.mapM_like hrel ha hb hb'

end

namespace Table.SameStack

variable {t t' : Table} {s s' : StateStack}

theorem top (h : t.SameStack t' s s') : t.SameState t' s.top s'.top := by
  obtain ⟨root, above⟩ := s
  obtain ⟨root', above'⟩ := s'
  obtain ⟨hroot, habove⟩ := h
  cases habove with
  | nil => exact hroot
  | cons hid _ => exact hid

theorem drop (h : t.SameStack t' s s') (count : Nat) : t.SameStack t' (s.pop count) (s'.pop count) :=
  ⟨h.root, List.forall₂_drop count h.above⟩

theorem reset (h : t.SameStack t' s s') : t.SameStack t' s.reset s'.reset :=
  ⟨h.root, .nil⟩

theorem apply (h : t.SameStack t' s s') {u : Transition StateId} {u' : Transition StateId}
    (hu : u.Like (t.SameState t') u') : t.SameStack t' (s.apply u) (s'.apply u') := by
  cases hu with
  | stay => exact h
  | push hss => exact ⟨h.root, List.rel_append (List.rel_reverse hss) h.above⟩
  | pushCurrent => exact ⟨h.root, .cons h.top h.above⟩
  | pop count => exact h.drop count
  | goto hid => exact ⟨h.root, .cons hid (h.drop 1).above⟩

theorem map_name (h : t.SameStack t' s s') : s.toList.map t.name = s'.toList.map t'.name := by
  have hlist : List.Forall₂ (t.SameState t') s.toList s'.toList := .cons h.root (List.rel_reverse h.above)
  exact map_eq_of_forall₂ hlist fun _ _ hid => hid.name_eq

end Table.SameStack

/-! ## Rules -/

/-- Rules that match alike, emit alike, move alike and are the same in errors. -/
structure CompiledRule.Like (v : View) (t t' : Table) (r r' : CompiledRule) : Prop where
  matcher : r'.matcher = r.matcher
  emission : r.emission.Like v.kind (t.SameState t') r'.emission
  transition : r.transition.Like (t.SameState t') r'.transition
  site : v.site (r.origin, r.index) = v.site (r'.origin, r'.index)

namespace CompiledRule.Like

variable {v : View} {t t' : Table} {r r' : CompiledRule}

theorem failure (h : r.Like v t t' r') (pos : Nat) (f : SearchFailure) :
    (r.failure pos f).mapSite v.site = (r'.failure pos f).mapSite v.site := by
  simp only [CompiledRule.failure, Error.mapSite, h.site]

theorem origin_eq (h : r.Like v t t' r') (hv : Function.Injective v.site) :
    r.origin = r'.origin ∧ r.index = r'.index :=
  Prod.mk.inj (hv h.site)

theorem mapError (h : r.Like v t t' r') (pos : Nat) (x : Except SearchFailure α) :
    Table.Alike v t t' Eq (x.mapError (r.failure pos)) (x.mapError (r'.failure pos)) := by
  cases x with
  | error f => exact .error (h.failure pos f)
  | ok a => exact .ok rfl

theorem matchAt (h : r.Like v t t' r') (text : String) (pos : Nat) :
    Table.Alike v t t' Eq (r.matchAt text pos) (r'.matchAt text pos) := by
  have hemission := h.emission
  unfold CompiledRule.matchAt
  rw [h.matcher]
  generalize r.emission = emission at hemission ⊢
  generalize r'.emission = emission' at hemission ⊢
  cases hemission with
  | token k => exact (h.mapError pos _).map fun _ _ heq => by rw [heq]
  | byGroups _ => exact (h.mapError pos _).map fun _ _ heq => by rw [heq]
  | nothing => exact (h.mapError pos _).map fun _ _ heq => by rw [heq]

theorem nextStart (h : r.Like v t t' r') (text : String) (pos : Nat) :
    Table.Alike v t t' Eq (r.nextStart text pos) (r'.nextStart text pos) := by
  unfold CompiledRule.nextStart
  rw [h.matcher]
  exact h.mapError pos _

theorem needsSearch (h : r.Like v t t' r') : r'.needsSearch = r.needsSearch := by
  rw [CompiledRule.needsSearch, CompiledRule.needsSearch, h.matcher]

end CompiledRule.Like

/-- A rule that is compiled for two tables, perhaps from different places, becomes rules that correspond. -/
theorem compileRule_like {v : View} {t t' : Table} {multiLine : Bool} {site site' : RuleSite} {r r' : Rule}
    {c c' : CompiledRule} (h : compileRule multiLine t.names.toList site r = .ok c)
    (h' : compileRule multiLine t'.names.toList site' r' = .ok c') (hpattern : r'.pattern = r.pattern)
    (hemission : r.emission.Like v.kind Eq r'.emission) (htransition : r'.transition = r.transition)
    (hsite : v.site (site.state, site.index) = v.site (site'.state, site'.index)) : c.Like v t t' c' := by
  have hname (s : String) (id id' : StateId) (hid : resolveName t.names.toList site.state s = .ok id)
      (hid' : resolveName t'.names.toList site'.state s = .ok id') : t.SameState t' id id' :=
    ⟨s, by simpa [Table.name?] using resolveName_eq_ok hid, by simpa [Table.name?] using resolveName_eq_ok hid'⟩
  obtain ⟨hm, ht, he, horigin, hindex, _⟩ := compileRule_eq_ok h
  obtain ⟨hm', ht', he', horigin', hindex', _⟩ := compileRule_eq_ok h'
  rw [hpattern] at hm'
  rw [htransition] at ht'
  refine ⟨Except.ok.inj (hm'.symm.trans hm), ?_, ?_, ?_⟩
  · exact Emission.mapM_like hname hemission (compileEmission_eq_ok he).2.2 (compileEmission_eq_ok he').2.2
  · exact Transition.mapM_like hname (compileTransition_eq_ok ht).2.2 (compileTransition_eq_ok ht').2.2
  · rw [horigin, hindex, horigin', hindex', hsite]

/-! ## Tables -/

/-- The second table has for every state of the first one a state of the same name with rules that correspond, and
its limits are no lower. -/
structure Table.Counterpart (v : View) (t t' : Table) : Prop where
  sound : t.Sound
  sound' : t'.Sound
  names : ∀ name, name ∈ t'.names ↔ name ∈ t.names
  root : t.SameState t' t.root t'.root
  rules : ∀ {id id'}, t.SameState t' id id' →
    List.Forall₂ (CompiledRule.Like v t t') (t.rulesOf id) (t'.rulesOf id')
  resetOnNewline : t'.options.resetOnNewline = t.options.resetOnNewline
  textKind : t'.options.textKind = v.kind t.options.textKind
  errorKind : t'.options.errorKind = v.kind t.options.errorKind
  maxZeroWidth : t.options.maxZeroWidth ≤ t'.options.maxZeroWidth
  maxNesting : t.options.maxNesting ≤ t'.options.maxNesting

end ModalLexer
