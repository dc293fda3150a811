import Mathlib.Data.List.Nodup
import ModalLexer.Proofs.Pattern.Matcher
import ModalLexer.Proofs.Table.Resolution

/-!
The rules of a table that was built. Each of them was declared somewhere, so its matcher can be relied on, two of
them with the same slot are the same rule, and the states that they refer to are states of the table.
-/

namespace ModalLexer

/-! ## Declared rules -/

/-- The rule of an entry, if it is one. -/
def CompiledEntry.rule? : CompiledEntry → Option CompiledRule
  | .rule r => some r
  | .include _ => none

/-- The rules among some entries. -/
def rulesAmong (es : List CompiledEntry) : List CompiledRule :=
  es.filterMap CompiledEntry.rule?

@[simp] theorem rulesAmong_nil : rulesAmong [] = [] := rfl

@[simp] theorem rulesAmong_rule (r : CompiledRule) (es : List CompiledEntry) :
    rulesAmong (.rule r :: es) = r :: rulesAmong es := rfl

@[simp] theorem rulesAmong_include (id : StateId) (es : List CompiledEntry) :
    rulesAmong (.include id :: es) = rulesAmong es := rfl

theorem mem_rulesAmong {r : CompiledRule} {es : List CompiledEntry} : r ∈ rulesAmong es ↔ .rule r ∈ es := by
  simp only [rulesAmong, List.mem_filterMap]
  constructor
  · rintro ⟨e, he, hr⟩
    cases e with
    | rule r' => cases hr; exact he
    | «include» id => cases hr
  · intro h; exact ⟨_, h, rfl⟩

/-- The rules that the states declare, in order. -/
def declaredRules (declared : List (List CompiledEntry)) : List CompiledRule :=
  declared.flatMap rulesAmong

/-- The rules of a state take the slots from the first free one on, each with a matcher that can be relied
on. -/
theorem compileEntries_rules {multiLine : Bool} {names : List String} {state : String} {index slot : Nat}
    {es : List Entry} {out : List CompiledEntry × Nat}
    (h : compileEntries multiLine names state index slot es = .ok out) :
    (rulesAmong out.1).map (·.slot) = List.range' slot (rulesAmong out.1).length ∧
      out.2 = slot + (rulesAmong out.1).length ∧ ∀ r ∈ rulesAmong out.1, r.matcher.Sound := by
  induction es generalizing index slot out with
  | nil => cases h; simp
  | cons e es ih =>
      cases e with
      | rule r =>
          obtain ⟨c, hc, h⟩ := bind_eq_ok.mp h
          obtain ⟨⟨rest, next⟩, hrest, h⟩ := bind_eq_ok.mp h
          cases h
          obtain ⟨hm, _, _, _, _, hslot⟩ := compileRule_eq_ok hc
          obtain ⟨hs, hn, hsound⟩ := ih hrest
          refine ⟨?_, ?_, List.forall_mem_cons.mpr ⟨Pattern.compile_sound hm, hsound⟩⟩
          · simp [List.range'_succ, hs, hslot]
          · simp at hn ⊢; omega
      | «include» target =>
          obtain ⟨id, _, h⟩ := bind_eq_ok.mp h
          obtain ⟨⟨rest, next⟩, hrest, h⟩ := bind_eq_ok.mp h
          cases h
          simpa using ih hrest

theorem compileStates_rules {multiLine : Bool} {names : List String} {slot : Nat}
    {states : List (String × List Entry)} {declared : List (List CompiledEntry)}
    (h : compileStates multiLine names slot states = .ok declared) :
    (declaredRules declared).map (·.slot) = List.range' slot (declaredRules declared).length ∧
      ∀ r ∈ declaredRules declared, r.matcher.Sound := by
  induction states generalizing slot declared with
  | nil => cases h; simp [declaredRules]
  | cons s states ih =>
      obtain ⟨⟨es, next⟩, hes, h⟩ := bind_eq_ok.mp h
      obtain ⟨rest, hrest, h⟩ := bind_eq_ok.mp h
      cases h
      obtain ⟨hs, hn, hsound⟩ := compileEntries_rules hes
      obtain ⟨hs', hsound'⟩ := ih hrest
      have hcons : declaredRules (es :: rest) = rulesAmong es ++ declaredRules rest := rfl
      rw [hcons]
      constructor
      · simp only at hn
        rw [List.map_append, hs, hs', hn, List.length_append, List.range'_append_1]
      · intro r hr
        rcases List.mem_append.mp hr with hr | hr
        · exact hsound r hr
        · exact hsound' r hr

/-! ## Flattening -/

/-- Everything that has been flattened has a property. -/
def Flattened.All (p : CompiledRule → Prop) (done : Flattened) : Prop :=
  ∀ s ∈ done, ∀ r ∈ s.2, p r

variable {p : CompiledRule → Prop}

theorem Flattened.All.rules? {done : Flattened} (h : done.All p) (id : Nat) :
    ∀ r ∈ (done.rules? id).getD [], p r := by
  intro r hr
  cases hf : done.find? (·.1 == id) with
  | none => simp [Flattened.rules?, hf] at hr
  | some s => exact h s (List.mem_of_find?_eq_some hf) r (by simpa [Flattened.rules?, hf] using hr)

theorem flattenEntries_all {visit : Nat → Flattened → Except IncludeCycle Flattened}
    (hv : ∀ {id done done'}, visit id done = .ok done' → done.All p → done'.All p)
    {es : List CompiledEntry} {done : Flattened} {out : List CompiledRule × Flattened}
    (hes : ∀ r ∈ rulesAmong es, p r) (hd : done.All p)
    (h : flattenEntries visit es done = .ok out) : (∀ r ∈ out.1, p r) ∧ out.2.All p := by
  induction es generalizing done out with
  | nil => cases h; exact ⟨by simp, hd⟩
  | cons e es ih =>
      cases e with
      | rule r =>
          obtain ⟨⟨rules, done'⟩, hrest, h⟩ := bind_eq_ok.mp h
          cases h
          obtain ⟨hr, hes⟩ := List.forall_mem_cons.mp hes
          obtain ⟨hrules, hdone⟩ := ih hes hd hrest
          exact ⟨List.forall_mem_cons.mpr ⟨hr, hrules⟩, hdone⟩
      | «include» id =>
          obtain ⟨done', hvisit, h⟩ := bind_eq_ok.mp h
          obtain ⟨⟨rules, done''⟩, hrest, h⟩ := bind_eq_ok.mp h
          cases h
          have hd' := hv hvisit hd
          obtain ⟨hrules, hdone⟩ := ih hes hd' hrest
          refine ⟨fun r hr => ?_, hdone⟩
          rcases List.mem_append.mp hr with hr | hr
          · exact hd'.rules? id.index r hr
          · exact hrules r hr

theorem flattenState_all {declared : Array (List CompiledEntry)}
    (hdecl : ∀ es ∈ declared, ∀ r ∈ rulesAmong es, p r) {fuel : Nat} {visiting : List Nat}
    {id : Nat} {done done' : Flattened} (hd : done.All p)
    (h : flattenState declared fuel visiting id done = .ok done') : done'.All p := by
  induction fuel generalizing visiting id done done' with
  | zero => cases h
  | succ fuel ih =>
      simp only [flattenState] at h
      split at h
      · cases h; exact hd
      · split at h
        · cases h
        · obtain ⟨⟨rules, done''⟩, hf, h⟩ := bind_eq_ok.mp h
          cases h
          have hes : ∀ r ∈ rulesAmong (declared.getD id []), p r := by
            rw [Array.getD_eq_getD_getElem?]
            cases hi : declared[id]? with
            | none => simp
            | some es => exact hdecl es (Array.mem_of_getElem? hi)
          obtain ⟨hrules, hdone⟩ := flattenEntries_all (fun hv hd => ih hd hv) hes hd hf
          intro s hs
          rcases List.mem_cons.mp hs with rfl | hs
          · exact hrules
          · exact hdone s hs

theorem flattenAll_all {declared : Array (List CompiledEntry)}
    (hdecl : ∀ es ∈ declared, ∀ r ∈ rulesAmong es, p r) {ids : List Nat}
    {done done' : Flattened} (hd : done.All p) (h : flattenAll declared ids done = .ok done') : done'.All p := by
  induction ids generalizing done with
  | nil => cases h; exact hd
  | cons id ids ih =>
      obtain ⟨done'', hs, h⟩ := bind_eq_ok.mp h
      exact ih (flattenState_all hdecl hd hs) h

/-! ## Tables -/

/-- Every rule of the table has a matcher that can be relied on. -/
def Table.Sound (t : Table) : Prop :=
  ∀ id, ∀ r ∈ t.rulesOf id, r.matcher.Sound

/-- Rules with the same slot are the same rule. -/
def Table.SlotsIdentify (t : Table) : Prop :=
  ∀ id id', ∀ r ∈ t.rulesOf id, ∀ r' ∈ t.rulesOf id', r.slot = r'.slot → r = r'

/-- Rules that are declared at the same place are the same rule. -/
def Table.SitesIdentify (t : Table) : Prop :=
  ∀ id id', ∀ r ∈ t.rulesOf id, ∀ r' ∈ t.rulesOf id', r.origin = r'.origin → r.index = r'.index → r = r'

/-- Every state that the table refers to is one that it has. -/
structure Table.Closed (t : Table) : Prop where
  rules : t.rules.size = t.stateCount
  root : t.root.index < t.stateCount
  references : ∀ id, ∀ r ∈ t.rulesOf id, ∀ target ∈ r.references, target.index < t.stateCount

theorem Table.Closed.rules?_eq {t : Table} (h : t.Closed) {id : StateId} (hid : id.index < t.stateCount) :
    t.rules? id = some (t.rulesOf id) := by
  rw [← h.rules] at hid
  simp [rulesOf, rules?, hid]

theorem Table.Closed.lt_of_mem {t : Table} (h : t.Closed) {id : StateId} {r : CompiledRule}
    (hr : r ∈ t.rulesOf id) : id.index < t.stateCount := by
  rw [← h.rules]
  by_contra hge
  have hnone : t.rules[id.index]? = none := Array.getElem?_eq_none (Nat.le_of_not_lt hge)
  simp [rulesOf, rules?, hnone] at hr

theorem Table.name?_eq {t : Table} {id : StateId} (hid : id.index < t.stateCount) : t.name? id = some (t.name id) := by
  have hid : id.index < t.names.size := hid
  simp [name, name?, hid]

theorem Declaration.resolve_rules {d : Declaration} {root : StateId} {declared : List (List CompiledEntry)}
    (h : d.resolve = .ok (root, declared)) :
    (declaredRules declared).map (·.slot) = List.range (declaredRules declared).length ∧
      ∀ r ∈ declaredRules declared, r.matcher.Sound := by
  obtain ⟨_, _, hc⟩ := d.resolve_eq_ok h
  rw [List.range_eq_range']
  exact compileStates_rules hc

/-- Every rule of a table that was built is one of the declared rules. -/
theorem Declaration.build_rules {d : Declaration} {t : Table} (h : d.build = .ok t) :
    ∃ root declared, d.resolve = .ok (root, declared) ∧ ∀ id, ∀ r ∈ t.rulesOf id, r ∈ declaredRules declared := by
  obtain ⟨root, declared, done, hr, hf, _, _, _, hrules⟩ := build_eq_ok h
  have hall : done.All (· ∈ declaredRules declared) := by
    refine flattenAll_all (fun es hes r hr => ?_) (by simp [Flattened.All]) hf
    exact List.mem_flatMap.mpr ⟨es, by simpa using hes, hr⟩
  refine ⟨root, declared, hr, fun id r hr => ?_⟩
  simp only [Table.rulesOf, Table.rules?, hrules, List.getElem?_toArray, List.getElem?_map] at hr
  cases hi : (List.range declared.length)[id.index]? with
  | none => simp [hi] at hr
  | some i => exact hall.rules? i r (by simpa [hi] using hr)

theorem Declaration.build_sound {d : Declaration} {t : Table} (h : d.build = .ok t) : t.Sound := by
  obtain ⟨_, _, hr, hrules⟩ := d.build_rules h
  exact fun id r hm => (d.resolve_rules hr).2 r (hrules id r hm)

theorem Declaration.build_slotsIdentify {d : Declaration} {t : Table} (h : d.build = .ok t) :
    t.SlotsIdentify := by
  obtain ⟨_, declared, hr, hrules⟩ := d.build_rules h
  have hnodup : ((declaredRules declared).map (·.slot)).Nodup := by
    rw [(d.resolve_rules hr).1]
    exact List.nodup_range
  exact fun id id' r hm r' hm' hs => List.inj_on_of_nodup_map hnodup (hrules id r hm) (hrules id' r' hm') hs

theorem compileEntries_site {multiLine : Bool} {names : List String} {state : String} {index slot : Nat}
    {es : List Entry} {out : List CompiledEntry × Nat}
    (h : compileEntries multiLine names state index slot es = .ok out) {i : Nat} {r : CompiledRule}
    (hi : out.1[i]? = some (.rule r)) : r.origin = state ∧ r.index = index + i := by
  induction es generalizing index slot out i with
  | nil => cases h; cases hi
  | cons e es ih =>
      cases e with
      | rule r' =>
          obtain ⟨c, hc, h⟩ := bind_eq_ok.mp h
          obtain ⟨⟨rest, next⟩, hrest, h⟩ := bind_eq_ok.mp h
          cases h
          cases i with
          | zero =>
              cases hi
              obtain ⟨_, _, _, horigin, hindex, _⟩ := compileRule_eq_ok hc
              exact ⟨horigin, hindex⟩
          | succ i =>
              obtain ⟨horigin, hindex⟩ := ih hrest hi
              exact ⟨horigin, by omega⟩
      | «include» target =>
          obtain ⟨id, _, h⟩ := bind_eq_ok.mp h
          obtain ⟨⟨rest, next⟩, hrest, h⟩ := bind_eq_ok.mp h
          cases h
          cases i with
          | zero => cases hi
          | succ i =>
              obtain ⟨horigin, hindex⟩ := ih hrest hi
              exact ⟨horigin, by omega⟩

/-- The entries of every state were compiled from some slot on. -/
theorem compileStates_entries {multiLine : Bool} {names : List String} {slot : Nat}
    {states : List (String × List Entry)} {declared : List (List CompiledEntry)}
    (h : compileStates multiLine names slot states = .ok declared) :
    List.Forall₂ (fun s es => ∃ slot slot', compileEntries multiLine names s.1 0 slot s.2 = .ok (es, slot'))
      states declared := by
  induction states generalizing slot declared with
  | nil => cases h; exact .nil
  | cons s states ih =>
      obtain ⟨⟨es, next⟩, hes, h⟩ := bind_eq_ok.mp h
      obtain ⟨rest, hrest, h⟩ := bind_eq_ok.mp h
      cases h
      exact .cons ⟨slot, next, hes⟩ (ih hrest)

theorem Declaration.build_sitesIdentify {d : Declaration} {t : Table} (h : d.build = .ok t) : t.SitesIdentify := by
  obtain ⟨root, declared, hr, hrules⟩ := d.build_rules h
  obtain ⟨hnodup, _, hc⟩ := d.resolve_eq_ok hr
  -- A rule stands among the entries of the state that it names, at its index.
  have hplace {r : CompiledRule} (hmem : r ∈ declaredRules declared) :
      ∃ (i : Nat) (es : List CompiledEntry), d.names[i]? = some r.origin ∧ declared[i]? = some es ∧
        es[r.index]? = some (.rule r) := by
    obtain ⟨es, hes, hr⟩ := List.mem_flatMap.mp hmem
    obtain ⟨i, hi⟩ := List.getElem?_of_mem hes
    obtain ⟨j, hj⟩ := List.getElem?_of_mem (mem_rulesAmong.mp hr)
    obtain ⟨⟨state, entries⟩, hs, _, _, hentries⟩ := forall₂_right (compileStates_entries hc) hi
    obtain ⟨horigin, hindex⟩ := compileEntries_site hentries hj
    refine ⟨i, es, ?_, hi, ?_⟩
    · rw [horigin, names, List.getElem?_map, hs]; rfl
    · rw [hindex, Nat.zero_add]; exact hj
  intro id id' r hm r' hm' horigin hindex
  obtain ⟨i, es, hi, hes, hj⟩ := hplace (hrules id r hm)
  obtain ⟨i', es', hi', hes', hj'⟩ := hplace (hrules id' r' hm')
  rw [← horigin] at hi'
  obtain rfl : i = i' := (List.getElem?_inj (List.getElem?_eq_some_iff.mp hi).1 hnodup).mp (hi.trans hi'.symm)
  cases hes.symm.trans hes'
  rw [← hindex] at hj'
  cases hj.symm.trans hj'
  rfl

theorem Declaration.resolve_references {d : Declaration} {root : StateId} {declared : List (List CompiledEntry)}
    (h : d.resolve = .ok (root, declared)) :
    ∀ r ∈ declaredRules declared, ∀ target ∈ r.references, target.index < d.names.length := by
  intro r hr target htarget
  obtain ⟨es, hes, hr⟩ := List.mem_flatMap.mp hr
  obtain ⟨i, hi⟩ := List.getElem?_of_mem hes
  obtain ⟨j, hj⟩ := List.getElem?_of_mem (mem_rulesAmong.mp hr)
  obtain ⟨_, _, hc⟩ := resolve_eq_ok h
  obtain ⟨_, _, hentries⟩ := forall₂_right (compileStates_eq_ok hc) hi
  obtain ⟨_, _, hto⟩ := forall₂_right hentries hj
  cases hto with
  | rule hrule =>
      obtain ⟨k, hk⟩ := List.getElem?_of_mem htarget
      obtain ⟨name, _, hname⟩ := forall₂_right (compileRule_clean hrule).2 hk
      exact (List.getElem?_eq_some_iff.mp (resolveName_eq_ok hname)).1

theorem Declaration.build_closed {d : Declaration} {t : Table} (h : d.build = .ok t) : t.Closed := by
  obtain ⟨root, declared, done, hr, _, _, hnames, hroot, hrules⟩ := build_eq_ok h
  obtain ⟨_, hplace, hc⟩ := resolve_eq_ok hr
  have hcount : t.stateCount = d.names.length := by simp [Table.stateCount, hnames]
  refine ⟨?_, ?_, fun id r hmem target htarget => ?_⟩
  · have hlength := (compileStates_eq_ok hc).length_eq
    simp [hrules, hcount, names, hlength]
  · rw [hcount, hroot]
    exact (List.getElem?_eq_some_iff.mp hplace).1
  · obtain ⟨root', declared', hr', hall⟩ := d.build_rules h
    rw [hcount]
    exact resolve_references hr' r (hall id r hmem) target htarget

/-! ## Names of a table -/

namespace Declaration

variable {d : Declaration} {t : Table}

theorem build_names (h : d.build = .ok t) : t.names = d.names.toArray := by
  obtain ⟨_, _, _, _, _, _, hnames, _⟩ := build_eq_ok h
  exact hnames

theorem build_options (h : d.build = .ok t) : t.options = d.options := by
  obtain ⟨_, _, _, _, _, hoptions, _⟩ := build_eq_ok h
  exact hoptions

theorem build_name? (h : d.build = .ok t) (id : StateId) : t.name? id = d.names[id.index]? := by
  rw [Table.name?, build_names h, List.getElem?_toArray]

theorem build_root (h : d.build = .ok t) : t.name? t.root = some d.options.root := by
  obtain ⟨_, _, _, hr, _, _, _, hroot, _⟩ := build_eq_ok h
  obtain ⟨_, hplace, _⟩ := resolve_eq_ok hr
  rw [build_name? h, hroot, hplace]

theorem build_nodup (h : d.build = .ok t) : d.names.Nodup := by
  obtain ⟨_, _, _, hr, _⟩ := build_eq_ok h
  exact (resolve_eq_ok hr).1

end Declaration

end ModalLexer
