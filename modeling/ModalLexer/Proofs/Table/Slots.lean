import ModalLexer.Proofs.Table.Flattening

/-!
Slots. The rules of a declaration, state by state and entry by entry, have the numbers from zero on as their slots.
Includes copy rules and give out no slots of their own, so wherever two rules of a table meet, they have the same slot
just if they were declared at the same place, and then they are the same rule.
-/

namespace ModalLexer

/-! ## The rules of a declaration -/

/-- The rules among the entries of a state, from a place of it on. -/
def rulesFrom (state : String) : (index : Nat) → List Entry → List DeclaredRule
  | _, [] => []
  | index, .rule r :: es => ⟨state, index, r⟩ :: rulesFrom state (index + 1) es
  | index, .include _ :: es => rulesFrom state (index + 1) es

/-- The rules of a declaration, state by state and entry by entry. -/
def Declaration.ruleList (d : Declaration) : List DeclaredRule :=
  d.states.flatMap fun s => rulesFrom s.1 0 s.2

theorem compileEntries_rulesFrom {multiLine : Bool} {names : List String} {state : String} {index slot : Nat}
    {es : List Entry} {out : List CompiledEntry × Nat}
    (h : compileEntries multiLine names state index slot es = .ok out) :
    List.Forall₂ (fun r c => ∃ slot, compileRule multiLine names ⟨r.state, r.index, slot⟩ r.rule = .ok c)
      (rulesFrom state index es) (rulesAmong out.1) := by
  induction es generalizing index slot out with
  | nil => cases h; exact .nil
  | cons e es ih =>
      cases e with
      | rule r =>
          obtain ⟨c, hc, h⟩ := bind_eq_ok.mp h
          obtain ⟨⟨rest, next⟩, hrest, h⟩ := bind_eq_ok.mp h
          cases h
          exact .cons ⟨slot, hc⟩ (ih hrest)
      | «include» target =>
          obtain ⟨id, _, h⟩ := bind_eq_ok.mp h
          obtain ⟨⟨rest, next⟩, hrest, h⟩ := bind_eq_ok.mp h
          cases h
          have hrules := ih hrest
          exact hrules

theorem state_of_mem_rulesFrom {state : String} {index : Nat} {es : List Entry} :
    ∀ r ∈ rulesFrom state index es, r.state = state := by
  induction es generalizing index with
  | nil => intro r hr; cases hr
  | cons e es ih =>
      cases e with
      | rule r => exact List.forall_mem_cons.mpr ⟨rfl, ih⟩
      | «include» target => exact ih

namespace Declaration

variable {d : Declaration} {t : Table} {root : StateId} {declared : List (List CompiledEntry)}

theorem CompilesTo.site {r : DeclaredRule} {c : CompiledRule} (h : d.CompilesTo r c) :
    c.origin = r.state ∧ c.index = r.index := by
  obtain ⟨_, hc⟩ := h
  obtain ⟨_, _, _, horigin, hindex, _⟩ := compileRule_eq_ok hc
  exact ⟨horigin, hindex⟩

theorem resolve_ruleList (h : d.resolve = .ok (root, declared)) :
    List.Forall₂ d.CompilesTo d.ruleList (declaredRules declared) := by
  obtain ⟨_, _, hc⟩ := resolve_eq_ok h
  exact List.rel_flatMap (compileStates_entries hc) fun _ _ ⟨_, _, hes⟩ => compileEntries_rulesFrom hes

theorem resolve_slots (h : d.resolve = .ok (root, declared)) :
    (declaredRules declared).map (·.slot) = List.range d.ruleList.length := by
  rw [(d.resolve_rules h).1, (resolve_ruleList h).length_eq]

/-- A slot is the number of a rule among all that are declared. -/
theorem getElem?_slot (h : d.resolve = .ok (root, declared)) {n : Nat} {c : CompiledRule}
    (hn : (declaredRules declared)[n]? = some c) : c.slot = n := by
  have hlt : n < d.ruleList.length := by
    rw [(resolve_ruleList h).length_eq]
    exact (List.getElem?_eq_some_iff.mp hn).1
  have hslots := congrArg (·[n]?) (resolve_slots h)
  simpa only [List.getElem?_map, hn, List.getElem?_range hlt, Option.map_some, Option.some.injEq] using hslots

theorem slot_eq_iff (h : d.resolve = .ok (root, declared)) {c c' : CompiledRule} (hc : c ∈ declaredRules declared)
    (hc' : c' ∈ declaredRules declared) : c.slot = c'.slot ↔ c = c' := by
  constructor
  · intro hslot
    obtain ⟨n, hn⟩ := List.getElem?_of_mem hc
    obtain ⟨n', hn'⟩ := List.getElem?_of_mem hc'
    rw [getElem?_slot h hn, getElem?_slot h hn'] at hslot
    exact Option.some.inj (hn.symm.trans (hslot ▸ hn'))
  · rintro rfl
    rfl

/-- A rule is told by the place of its declaration. -/
theorem site_eq_iff (h : d.resolve = .ok (root, declared)) {c c' : CompiledRule} (hc : c ∈ declaredRules declared)
    (hc' : c' ∈ declaredRules declared) : c.origin = c'.origin ∧ c.index = c'.index ↔ c = c' := by
  obtain ⟨hn, _, hcompiled⟩ := resolve_eq_ok h
  constructor
  · rintro ⟨horigin, hindex⟩
    rw [← slot_eq_iff h hc hc', (compileStates_slot hn hcompiled c hc).2, (compileStates_slot hn hcompiled c' hc').2,
      horigin, hindex]
  · rintro rfl
    exact ⟨rfl, rfl⟩

/-! ## The rules of a table -/

/-- Entries stand for the rules among them, whatever they include beside. -/
theorem Lists.rulesFrom_sublist {state : String} {index : Nat} {es : List Entry} {rs : List DeclaredRule}
    (h : d.Lists state index es rs) : (rulesFrom state index es).Sublist rs := by
  induction h with
  | nil => exact .slnil
  | rule _ ih => exact ih.cons_cons _
  | «include» _ _ _ _ ih => exact ih.trans (List.sublist_append_right _ _)

/-- A rule that is declared is a rule of the state that declares it. -/
theorem exists_rulesOf (h : d.build = .ok t) {r : DeclaredRule} (hr : r ∈ d.ruleList) :
    ∃ id, t.name? id = some r.state ∧ ∃ c ∈ t.rulesOf id, d.CompilesTo r c := by
  obtain ⟨⟨state, entries⟩, hs, hr⟩ := List.mem_flatMap.mp hr
  obtain ⟨i, hi⟩ := List.getElem?_of_mem hs
  obtain ⟨rs, hlists, hcompiled⟩ := build_stands h hi
  obtain ⟨j, hj⟩ := List.getElem?_of_mem (hlists.rulesFrom_sublist.subset hr)
  obtain ⟨c, hc, hrc⟩ := forall₂_left hcompiled hj
  refine ⟨⟨i⟩, ?_, c, List.mem_of_getElem? hc, hrc⟩
  rw [build_name? h, names, List.getElem?_map, hi, state_of_mem_rulesFrom r hr]
  rfl

/-- In a table that was built, the rules of the declaration have the slots from zero on, state by state and entry by
entry: each is among the rules of its own state, with its number as its slot, and every rule of any state is the one
that is declared at the number of its slot. Two rules have the same slot just if they have the same place of
declaration, and then they are the same rule, however they were included. -/
theorem slots_identify (h : d.build = .ok t) :
    (∀ n r, d.ruleList[n]? = some r → ∃ id, t.name? id = some r.state ∧ ∃ c ∈ t.rulesOf id,
      c.slot = n ∧ c.origin = r.state ∧ c.index = r.index ∧ d.CompilesTo r c) ∧
    (∀ id, ∀ c ∈ t.rulesOf id, ∃ r, d.ruleList[c.slot]? = some r ∧
      c.origin = r.state ∧ c.index = r.index ∧ d.CompilesTo r c) ∧
    ∀ id id', ∀ c ∈ t.rulesOf id, ∀ c' ∈ t.rulesOf id',
      (c.slot = c'.slot ↔ c.origin = c'.origin ∧ c.index = c'.index) ∧ (c.slot = c'.slot → c = c') := by
  obtain ⟨root, declared, hresolve, hused⟩ := d.build_rules h
  have hrules := resolve_ruleList hresolve
  refine ⟨fun n r hn => ?_, fun id c hc => ?_, fun id id' c hc c' hc' => ?_⟩
  · obtain ⟨id, hname, c, hc, hrc⟩ := exists_rulesOf h (List.mem_of_getElem? hn)
    obtain ⟨c', hn', hrc'⟩ := forall₂_left hrules hn
    obtain ⟨horigin, hindex⟩ := hrc.site
    obtain ⟨horigin', hindex'⟩ := hrc'.site
    -- The rule of the table and the one with that number have the same place.
    obtain rfl : c = c' := (site_eq_iff hresolve (hused id c hc) (List.mem_of_getElem? hn')).mp
      ⟨horigin.trans horigin'.symm, hindex.trans hindex'.symm⟩
    exact ⟨id, hname, c, hc, getElem?_slot hresolve hn', horigin, hindex, hrc⟩
  · obtain ⟨n, hn⟩ := List.getElem?_of_mem (hused id c hc)
    obtain ⟨r, hr, hrc⟩ := forall₂_right hrules hn
    obtain ⟨horigin, hindex⟩ := hrc.site
    exact ⟨r, getElem?_slot hresolve hn ▸ hr, horigin, hindex, hrc⟩
  · have hslot := slot_eq_iff hresolve (hused id c hc) (hused id' c' hc')
    exact ⟨hslot.trans (site_eq_iff hresolve (hused id c hc) (hused id' c' hc')).symm, hslot.mp⟩

/-- A state that is included twice around a rule, and that includes another state between its own rules. -/
def wrapped : Declaration where
  states := [
    ("root", [.include "inner", .rule { pattern := { text := "a" }, emission := .token ⟨"Name"⟩ }, .include "inner"]),
    ("inner", [.rule { pattern := { text := "b" }, emission := .token ⟨"Name"⟩ }, .include "leaf",
      .rule { pattern := { text := "b" }, emission := .token ⟨"Name"⟩ }]),
    ("leaf", [.rule { pattern := { text := "d" }, emission := .token ⟨"Name"⟩ }])]

theorem slots_identify_wrapped : ∃ t, wrapped.build = .ok t ∧
    (t.rulesOf ⟨0⟩).map (·.slot) = [1, 3, 2, 0, 1, 3, 2] ∧
    (∃ id, t.name? id = some "inner" ∧ ∃ c ∈ t.rulesOf id, c.slot = 2 ∧ c.origin = "inner" ∧ c.index = 2) ∧
    ∀ c ∈ t.rulesOf ⟨0⟩, ∀ c' ∈ t.rulesOf ⟨1⟩, c.slot = c'.slot → c = c' := by
  have hslots : (wrapped.build.toOption.map fun t => (t.rulesOf ⟨0⟩).map (·.slot)) = some [1, 3, 2, 0, 1, 3, 2] := by
    decide +kernel
  obtain ⟨t, ht, hslots⟩ := Option.map_eq_some_iff.mp hslots
  have ht := toOption_eq_some.mp ht
  obtain ⟨hnumbered, _, hsame⟩ := slots_identify ht
  obtain ⟨id, hname, c, hc, hslot, horigin, hindex, _⟩ := hnumbered 2 _ rfl
  exact ⟨t, ht, hslots, ⟨id, hname, c, hc, hslot, horigin, hindex⟩, fun c hc c' hc' => (hsame _ _ c hc c' hc').2⟩

end Declaration

end ModalLexer
