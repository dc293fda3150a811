import ModalLexer.Proofs.Table.Counterpart
import ModalLexer.Proofs.Table.WellFormed

/-!
What entries stand for. An include stands, in its place, for the rules of the state that it names. The rules that a
state has in a table that was built are those that its entries stand for, each compiled where it is declared; so
declarations whose entries stand for rules that correspond build tables that correspond.
-/

namespace ModalLexer

/-- A rule with the place where it is declared. -/
structure DeclaredRule where
  state : String
  index : Nat
  rule : Rule
deriving DecidableEq, Repr, Inhabited

/-- Rules that match alike, emit alike, move alike and are the same in errors. -/
structure DeclaredRule.Like (v : View) (r r' : DeclaredRule) : Prop where
  pattern : r'.rule.pattern = r.rule.pattern
  emission : r.rule.emission.Like v.kind Eq r'.rule.emission
  transition : r'.rule.transition = r.rule.transition
  site : v.site (r.state, r.index) = v.site (r'.state, r'.index)

namespace Declaration

/-! ## Lists of rules -/

/-- Entries of a state, from a place of it on, stand for rules in order. -/
inductive Lists (d : Declaration) : (state : String) → (index : Nat) → List Entry → List DeclaredRule → Prop
  | nil {state : String} {index : Nat} : Lists d state index [] []
  | rule {state : String} {index : Nat} {r : Rule} {es : List Entry} {rs : List DeclaredRule} :
      Lists d state (index + 1) es rs → Lists d state index (.rule r :: es) (⟨state, index, r⟩ :: rs)
  | include {state target : String} {index : Nat} {entries es : List Entry} {included rs : List DeclaredRule} :
      (target, entries) ∈ d.states → Lists d target 0 entries included → Lists d state (index + 1) es rs →
      Lists d state index (.include target :: es) (included ++ rs)

variable {d d' : Declaration} {state : String} {index : Nat} {es : List Entry} {rs : List DeclaredRule}

/-- A name that is declared once has one list of entries. -/
theorem entries_unique (hd : d.names.Nodup) {entries entries' : List Entry} (h : (state, entries) ∈ d.states)
    (h' : (state, entries') ∈ d.states) : entries = entries' := by
  have heq := List.inj_on_of_nodup_map hd h h' rfl
  cases heq
  rfl

theorem Lists.unique (hd : d.names.Nodup) {rs' : List DeclaredRule} (h : d.Lists state index es rs)
    (h' : d.Lists state index es rs') : rs = rs' := by
  induction h generalizing rs' with
  | nil => cases h'; rfl
  | rule _ ih =>
      cases h' with
      | rule hrest => rw [ih hrest]
  | «include» hmem _ _ ihincluded ih =>
      cases h' with
      | «include» hmem' hincluded hrest =>
          cases entries_unique hd hmem hmem'
          rw [ihincluded hincluded, ih hrest]

/-- Only the states matter, not the order in which they are declared. -/
theorem Lists.of_states (hstates : ∀ s ∈ d.states, s ∈ d'.states) (h : d.Lists state index es rs) :
    d'.Lists state index es rs := by
  induction h with
  | nil => exact .nil
  | rule _ ih => exact .rule ih
  | «include» hmem _ _ ihincluded ih => exact .include (hstates _ hmem) ihincluded ih

theorem Lists.entryAt (h : d.Lists state index es rs)
    (hes : ∀ (i : Nat) e, es[i]? = some e → d.EntryAt state (index + i) e) :
    ∀ r ∈ rs, d.EntryAt r.state r.index (.rule r.rule) := by
  have hshift {state : String} {index : Nat} {e : Entry} {es : List Entry}
      (hes : ∀ (i : Nat) e', (e :: es)[i]? = some e' → d.EntryAt state (index + i) e') :
      ∀ (i : Nat) e', es[i]? = some e' → d.EntryAt state (index + 1 + i) e' := fun i e' he => by
    rw [Nat.add_assoc, Nat.add_comm 1 i]
    exact hes (i + 1) e' he
  induction h with
  | nil => simp
  | rule _ ih => exact List.forall_mem_cons.mpr ⟨hes 0 _ rfl, ih (hshift hes)⟩
  | «include» hmem _ _ ihincluded ih =>
      intro r hr
      rcases List.mem_append.mp hr with hr | hr
      · exact ihincluded (fun i e he => ⟨_, hmem, by rwa [Nat.zero_add]⟩) r hr
      · exact ih (hshift hes) r hr

/-! ## Compiled lists -/

/-- The rule was compiled where it is declared. -/
def CompilesTo (d : Declaration) (r : DeclaredRule) (c : CompiledRule) : Prop :=
  ∃ slot, compileRule d.options.multiLine d.names ⟨r.state, r.index, slot⟩ r.rule = .ok c

/-- Compiled rules that entries of a state stand for. -/
def Stands (d : Declaration) (state : String) (index : Nat) (es : List Entry) (rules : List CompiledRule) : Prop :=
  ∃ rs, d.Lists state index es rs ∧ List.Forall₂ d.CompilesTo rs rules

/-- The state at a place, or an empty one beyond the last. -/
def stateAt (d : Declaration) (i : Nat) : String × List Entry :=
  (d.states[i]?).getD ("", [])

theorem stateAt_eq {i : Nat} {s : String × List Entry} (h : d.states[i]? = some s) : d.stateAt i = s := by
  rw [stateAt, h]
  rfl

theorem compileStates_stateAt {slot : Nat} {declared : List (List CompiledEntry)}
    (h : compileStates d.options.multiLine d.names slot d.states = .ok declared) (i : Nat) :
    ∃ slot slot', compileEntries d.options.multiLine d.names (d.stateAt i).1 0 slot (d.stateAt i).2 =
      .ok (declared.toArray.getD i [], slot') := by
  rw [Array.getD_eq_getD_getElem?, List.getElem?_toArray]
  cases hi : d.states[i]? with
  | none =>
      have hlen := (compileStates_entries h).length_eq ▸ List.getElem?_eq_none_iff.mp hi
      rw [List.getElem?_eq_none hlen, stateAt, hi]
      exact ⟨0, 0, rfl⟩
  | some s =>
      obtain ⟨ces, hces, hcompiled⟩ := forall₂_left (compileStates_entries h) hi
      rw [hces, stateAt_eq hi]
      exact hcompiled

end Declaration

/-! ## Flattening -/

section

variable {d : Declaration}

/-- The rules of every flattened state are those that its entries stand for. -/
def Flattened.Stands (d : Declaration) (done : Flattened) : Prop :=
  ∀ i rules, done.rules? i = some rules → d.Stands (d.stateAt i).1 0 (d.stateAt i).2 rules

theorem flattenEntries_stands {visit : Nat → Flattened → Except IncludeCycle Flattened}
    (hv : ∀ {id done done'}, done.Stands d → visit id done = .ok done' → done'.Stands d ∧ done'.Has id)
    {state : String} {index slot slot' : Nat} {es : List Entry} {ces : List CompiledEntry}
    {rules : List CompiledRule} {done done' : Flattened}
    (hc : compileEntries d.options.multiLine d.names state index slot es = .ok (ces, slot')) (hd : done.Stands d)
    (h : flattenEntries visit ces done = .ok (rules, done')) :
    d.Stands state index es rules ∧ done'.Stands d := by
  induction es generalizing index slot ces rules done with
  | nil => cases hc; cases h; exact ⟨⟨[], .nil, .nil⟩, hd⟩
  | cons e es ih =>
      cases e with
      | rule r =>
          obtain ⟨c, hrule, hc⟩ := bind_eq_ok.mp hc
          obtain ⟨⟨rest, next⟩, hrest, hc⟩ := bind_eq_ok.mp hc
          cases hc
          obtain ⟨⟨cs, done''⟩, hcs, h⟩ := bind_eq_ok.mp h
          cases h
          obtain ⟨⟨rs, hlists, hcompiled⟩, hd⟩ := ih hrest hd hcs
          exact ⟨⟨_, .rule hlists, .cons ⟨slot, hrule⟩ hcompiled⟩, hd⟩
      | «include» target =>
          obtain ⟨id, hid, hc⟩ := bind_eq_ok.mp hc
          obtain ⟨⟨rest, next⟩, hrest, hc⟩ := bind_eq_ok.mp hc
          cases hc
          obtain ⟨done₁, hvisit, h⟩ := bind_eq_ok.mp h
          obtain ⟨⟨cs, done₂⟩, hcs, h⟩ := bind_eq_ok.mp h
          cases h
          obtain ⟨hd, hhas⟩ := hv hd hvisit
          obtain ⟨included, hrules⟩ := Option.isSome_iff_exists.mp hhas
          obtain ⟨entries, hi⟩ := Declaration.names_getElem?.mp (resolveName_eq_ok hid)
          have hincluded := hd _ _ hrules
          rw [Declaration.stateAt_eq hi] at hincluded
          obtain ⟨inner, hinner, hcompiled⟩ := hincluded
          obtain ⟨⟨rs, hlists, hrest⟩, hd⟩ := ih hrest hd hcs
          rw [hrules]
          exact ⟨⟨_, .include (List.mem_of_getElem? hi) hinner hlists, List.rel_append hcompiled hrest⟩, hd⟩

theorem flattenState_stands {declared : List (List CompiledEntry)}
    (hdecl : compileStates d.options.multiLine d.names 0 d.states = .ok declared) {fuel : Nat} {visiting : List Nat}
    {id : Nat} {done done' : Flattened} (hd : done.Stands d)
    (h : flattenState declared.toArray fuel visiting id done = .ok done') : done'.Stands d ∧ done'.Has id := by
  induction fuel generalizing visiting id done done' with
  | zero => cases h
  | succ fuel ih =>
      simp only [flattenState] at h
      split at h
      next hid => cases h; exact ⟨hd, hid⟩
      · split at h
        · cases h
        · obtain ⟨⟨rules, done''⟩, hf, h⟩ := bind_eq_ok.mp h
          cases h
          obtain ⟨_, _, hc⟩ := Declaration.compileStates_stateAt hdecl id
          obtain ⟨hrules, hd⟩ := flattenEntries_stands ih hc hd hf
          refine ⟨fun i rules' hi => ?_, Flattened.has_cons.mpr (.inl rfl)⟩
          by_cases heq : id = i
          · subst heq
            simp only [Flattened.rules?, List.find?_cons_of_pos, BEq.rfl, Option.map_some, Option.some.injEq] at hi
            exact hi ▸ hrules
          · rw [Flattened.rules?, List.find?_cons_of_neg (by simpa using heq)] at hi
            exact hd i rules' hi

theorem flattenAll_stands {declared : List (List CompiledEntry)}
    (hdecl : compileStates d.options.multiLine d.names 0 d.states = .ok declared) {ids : List Nat}
    {done done' : Flattened} (hd : done.Stands d) (h : flattenAll declared.toArray ids done = .ok done') :
    done'.Stands d := by
  induction ids generalizing done with
  | nil => cases h; exact hd
  | cons id ids ih =>
      obtain ⟨done'', hs, h⟩ := bind_eq_ok.mp h
      exact ih (flattenState_stands hdecl hd hs).1 h

end

namespace Declaration

variable {d d' : Declaration} {t t' : Table}

/-- The rules of a state are those that its entries stand for. -/
theorem build_stands (h : d.build = .ok t) {i : Nat} {state : String} {entries : List Entry}
    (hi : d.states[i]? = some (state, entries)) : d.Stands state 0 entries (t.rulesOf ⟨i⟩) := by
  obtain ⟨root, declared, done, hr, hf, _, _, _, hrules⟩ := build_eq_ok h
  obtain ⟨_, _, hc⟩ := resolve_eq_ok hr
  have hlt : i < declared.length := by
    rw [← (compileStates_entries hc).length_eq]
    exact (List.getElem?_eq_some_iff.mp hi).1
  have hempty (i : Nat) : ¬ Flattened.Has [] i := by simp [Flattened.Has, Flattened.rules?]
  have hhas := (flattenAll_grows (fun i hi => absurd hi (hempty i)) hf).has i (List.mem_range.mpr hlt)
  obtain ⟨rules, hdone⟩ := Option.isSome_iff_exists.mp hhas
  have hstands := flattenAll_stands hc (fun i _ hi => absurd (Option.isSome_of_mem hi) (hempty i)) hf i rules hdone
  rw [stateAt_eq hi] at hstands
  have hof : t.rulesOf ⟨i⟩ = rules := by simp [Table.rulesOf, Table.rules?, hrules, hlt, hdone]
  rw [hof]
  exact hstands

theorem exists_build_of_wellFormed (h : d.WellFormed) : ∃ t, d.build = .ok t := by
  cases hb : d.build with
  | ok t => exact ⟨t, rfl⟩
  | error e => exact absurd (explains_of_build hb) (h.not_explains e)

/-! ## Declarations side by side -/

/-- The declarations have the same names, entries of the same name stand for rules that correspond, and the limits of
the second one are no lower. -/
structure Counterpart (v : View) (d d' : Declaration) : Prop where
  names : ∀ name, name ∈ d'.names ↔ name ∈ d.names
  rules : ∀ {state entries entries' rs rs'}, (state, entries) ∈ d.states → (state, entries') ∈ d'.states →
    d.Lists state 0 entries rs → d'.Lists state 0 entries' rs' → List.Forall₂ (DeclaredRule.Like v) rs rs'
  root : d'.options.root = d.options.root
  multiLine : d'.options.multiLine = d.options.multiLine
  resetOnNewline : d'.options.resetOnNewline = d.options.resetOnNewline
  textKind : d'.options.textKind = v.kind d.options.textKind
  errorKind : d'.options.errorKind = v.kind d.options.errorKind
  maxZeroWidth : d.options.maxZeroWidth ≤ d'.options.maxZeroWidth
  maxNesting : d.options.maxNesting ≤ d'.options.maxNesting

theorem Counterpart.build {v : View} (hd : d.Counterpart v d') (h : d.build = .ok t) (h' : d'.build = .ok t') :
    t.Counterpart v t' where
  sound := d.build_sound h
  sound' := d'.build_sound h'
  names name := by simpa [build_names h, build_names h'] using hd.names name
  root := ⟨d.options.root, build_root h, hd.root ▸ build_root h'⟩
  rules := by
    rintro ⟨i⟩ ⟨i'⟩ ⟨name, hi, hi'⟩
    rw [build_name? h] at hi
    rw [build_name? h'] at hi'
    obtain ⟨entries, hi⟩ := names_getElem?.mp hi
    obtain ⟨entries', hi'⟩ := names_getElem?.mp hi'
    obtain ⟨rs, hlists, hcompiled⟩ := build_stands h hi
    obtain ⟨rs', hlists', hcompiled'⟩ := build_stands h' hi'
    have hrs := hd.rules (List.mem_of_getElem? hi) (List.mem_of_getElem? hi') hlists hlists'
    refine forall₂_square (fun {r r' c c'} hr hc hc' => ?_) hrs hcompiled hcompiled'
    obtain ⟨slot, hc⟩ := hc
    obtain ⟨slot', hc'⟩ := hc'
    rw [← d.names.toList_toArray, ← build_names h] at hc
    rw [← d'.names.toList_toArray, ← build_names h', hd.multiLine] at hc'
    exact compileRule_like hc hc' hr.pattern hr.emission hr.transition hr.site
  resetOnNewline := by rw [build_options h, build_options h', hd.resetOnNewline]
  textKind := by rw [build_options h, build_options h', hd.textKind]
  errorKind := by rw [build_options h, build_options h', hd.errorKind]
  maxZeroWidth := by rw [build_options h, build_options h']; exact hd.maxZeroWidth
  maxNesting := by rw [build_options h, build_options h']; exact hd.maxNesting

end Declaration

end ModalLexer
