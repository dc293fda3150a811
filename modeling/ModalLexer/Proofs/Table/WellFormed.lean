import ModalLexer.Proofs.Table.Includes
import ModalLexer.Proofs.Table.Resolution

/-!
The declarations that can be built are the well-formed ones, and an error of building is true of the declaration.
-/

namespace ModalLexer.Declaration

/-! ## Well-formed declarations -/

/-- The entry stands at that place of a state of that name. -/
def EntryAt (d : Declaration) (state : String) (index : Nat) (entry : Entry) : Prop :=
  ∃ entries, (state, entries) ∈ d.states ∧ entries[index]? = some entry

/-- One state has an entry that includes the other one. -/
def Includes (d : Declaration) (state target : String) : Prop :=
  ∃ index, d.EntryAt state index (.include target)

/-- Every name is declared once, the root and all that is referred to is declared, every pattern compiles, no rule
has a fault, and no state includes itself, over however many others. -/
structure WellFormed (d : Declaration) : Prop where
  distinct : d.names.Nodup
  root : d.options.root ∈ d.names
  references : ∀ {state index entry}, d.EntryAt state index entry → ∀ name ∈ entry.references, name ∈ d.names
  patterns : ∀ {state index r}, d.EntryAt state index (.rule r) →
    ∃ m, r.pattern.compile d.options.multiLine = .ok m
  faultless : ∀ {state index r}, d.EntryAt state index (.rule r) →
    ∀ fault, ¬ r.HasFault d.options.multiLine fault
  acyclic : ∀ name, ¬ Relation.TransGen d.Includes name name

/-- What an error of building says is true of the declaration. -/
def Explains (d : Declaration) : Error → Prop
  | .duplicateState name => 2 ≤ d.names.count name
  | .missingRoot name => name = d.options.root ∧ name ∉ d.names
  | .undefinedState name state =>
    name ∉ d.names ∧ ∃ index entry, d.EntryAt state index entry ∧ name ∈ entry.references
  | .invalidRule state index fault =>
    ∃ r, d.EntryAt state index (.rule r) ∧ r.HasFault d.options.multiLine fault
  | .badPattern state index pattern dialect =>
    ∃ r fault, d.EntryAt state index (.rule r) ∧ r.pattern.text = pattern ∧
      r.pattern.compile d.options.multiLine = .error (dialect, fault)
  -- The one fault of a pattern that is not told with its rule.
  | .offsetOverflow =>
    ∃ state index r dialect, d.EntryAt state index (.rule r) ∧
      r.pattern.compile d.options.multiLine = .error (dialect, .sizeOverflow)
  | .includeCycle path => IsCycle d.Includes path
  | _ => False

variable {d : Declaration}

theorem WellFormed.not_explains (h : d.WellFormed) (e : Error) : ¬ d.Explains e := by
  intro he
  cases e with
  | duplicateState name =>
      have hcount := List.nodup_iff_count_le_one.mp h.distinct name
      have he : 2 ≤ d.names.count name := he
      omega
  | missingRoot name =>
      obtain ⟨rfl, hn⟩ := he
      exact hn h.root
  | undefinedState name state =>
      obtain ⟨hn, index, entry, hentry, hm⟩ := he
      exact hn (h.references hentry name hm)
  | invalidRule state index fault =>
      obtain ⟨r, hr, hf⟩ := he
      exact h.faultless hr fault hf
  | badPattern state index pattern dialect =>
      obtain ⟨r, fault, hr, _, hc⟩ := he
      obtain ⟨m, hm⟩ := h.patterns hr
      cases hm.symm.trans hc
  | offsetOverflow =>
      obtain ⟨state, index, r, dialect, hr, hc⟩ := he
      obtain ⟨m, hm⟩ := h.patterns hr
      cases hm.symm.trans hc
  | includeCycle path =>
      obtain ⟨name, hname⟩ := IsCycle.transGen he
      exact h.acyclic name hname
  | _ => exact he

/-! ## Compiled states -/

theorem names_getElem? {i : Nat} {state : String} :
    d.names[i]? = some state ↔ ∃ entries, d.states[i]? = some (state, entries) := by
  simp [names, List.getElem?_map]

section

variable {root : StateId} {declared : List (List CompiledEntry)}

/-- A name has one place. -/
theorem resolve_place (h : d.resolve = .ok (root, declared)) {i j : Nat} {state : String}
    (hi : d.names[i]? = some state) (hj : d.names[j]? = some state) : i = j :=
  (List.getElem?_inj (List.getElem?_eq_some_iff.mp hi).1 (resolve_eq_ok h).1).mp (hi.trans hj.symm)

/-- The entries of a state were compiled to those at the same place. -/
theorem resolve_entries (h : d.resolve = .ok (root, declared)) {i : Nat} {state : String} {entries : List Entry}
    (hi : d.states[i]? = some (state, entries)) :
    List.Forall₂ (Entry.CompilesTo d.options.multiLine d.names state) entries (declared.toArray.getD i []) := by
  obtain ⟨_, _, hc⟩ := resolve_eq_ok h
  obtain ⟨es, hes, hf⟩ := forall₂_left (compileStates_eq_ok hc) hi
  rw [Array.getD_eq_getD_getElem?, List.getElem?_toArray, hes]
  exact hf

theorem EntryAt.compilesTo {state : String} {index : Nat} {entry : Entry} (he : d.EntryAt state index entry)
    (h : d.resolve = .ok (root, declared)) :
    ∃ c, entry.CompilesTo d.options.multiLine d.names state c := by
  obtain ⟨entries, hs, he⟩ := he
  obtain ⟨i, hi⟩ := List.getElem?_of_mem hs
  obtain ⟨c, _, hc⟩ := forall₂_left (resolve_entries h hi) he
  exact ⟨c, hc⟩

/-- An include of the compiled states is one of the declaration. -/
theorem includes_of_arc (h : d.resolve = .ok (root, declared)) {i j : Nat} (ha : Arc declared.toArray i j) :
    ∃ state target, d.names[i]? = some state ∧ d.names[j]? = some target ∧ d.Includes state target := by
  obtain ⟨_, _, hc⟩ := resolve_eq_ok h
  have hi : i < d.states.length := by
    simpa [(compileStates_eq_ok hc).length_eq] using ha.lt
  obtain ⟨⟨state, entries⟩, hi⟩ : ∃ s, d.states[i]? = some s := ⟨_, List.getElem?_eq_getElem hi⟩
  obtain ⟨k, hk⟩ := List.getElem?_of_mem (mem_targets.mp ha)
  obtain ⟨entry, hentry, hto⟩ := forall₂_right (resolve_entries h hi) hk
  cases hto with
  | «include» hr =>
      exact ⟨state, _, names_getElem?.mpr ⟨entries, hi⟩, resolveName_eq_ok hr, k, entries,
        List.mem_of_getElem? hi, hentry⟩

/-- And the other way round, as no other state has the name. -/
theorem Includes.exists_arc {state target : String} (hs : d.Includes state target)
    (h : d.resolve = .ok (root, declared)) {i : Nat} (hi : d.names[i]? = some state) :
    ∃ j, d.names[j]? = some target ∧ Arc declared.toArray i j := by
  obtain ⟨index, entries, hmem, he⟩ := hs
  obtain ⟨i', hi'⟩ := List.getElem?_of_mem hmem
  obtain rfl : i = i' := resolve_place h hi (names_getElem?.mpr ⟨entries, hi'⟩)
  obtain ⟨c, hc, hto⟩ := forall₂_left (resolve_entries h hi') he
  cases hto with
  | «include» hr => exact ⟨_, resolveName_eq_ok hr, mem_targets.mpr (List.mem_of_getElem? hc)⟩

theorem transGen_arc (h : d.resolve = .ok (root, declared)) {state target : String}
    (hs : Relation.TransGen d.Includes state target) {i : Nat} (hi : d.names[i]? = some state) :
    ∃ j, d.names[j]? = some target ∧ Relation.TransGen (Arc declared.toArray) i j := by
  induction hs with
  | single hs =>
      obtain ⟨j, hj, ha⟩ := hs.exists_arc h hi
      exact ⟨j, hj, .single ha⟩
  | tail _ hs ih =>
      obtain ⟨j, hj, hij⟩ := ih
      obtain ⟨k, hk, ha⟩ := hs.exists_arc h hj
      exact ⟨k, hk, .tail hij ha⟩

end

/-! ## Building -/

theorem explains_of_refused {state : String} {index : Nat} {entry : Entry} {e : Error}
    (hentry : d.EntryAt state index entry) (h : entry.Refused d.options.multiLine d.names state index e) :
    d.Explains e := by
  cases h with
  | «include» hn => exact ⟨hn, index, _, hentry, List.mem_singleton_self _⟩
  | rule h =>
      cases h with
      | fault hf => exact ⟨_, hentry, hf⟩
      | name hm hn => exact ⟨hn, index, _, hentry, hm⟩
      | pattern hp =>
          rename_i r dialect fault
          unfold Error.ofFault
          split
          next hf => subst hf; exact ⟨state, index, r, dialect, hentry, hp⟩
          · exact ⟨r, fault, hentry, rfl, hp⟩

theorem explains_of_resolve {e : Error} (h : d.resolve = .error e) : d.Explains e := by
  rcases resolve_eq_error h with ⟨name, rfl, hn⟩ | ⟨rfl, hn⟩ | ⟨⟨state, entries⟩, hs, i, entry, hi, hr⟩
  · exact hn
  · exact ⟨rfl, hn⟩
  · exact explains_of_refused ⟨entries, hs, hi⟩ hr

theorem explains_of_flatten {root : StateId} {declared : List (List CompiledEntry)} {cycle : IncludeCycle}
    (h : d.resolve = .ok (root, declared)) (hf : flatten declared = .error cycle) :
    d.Explains (d.cycleError cycle) := by
  have hc := flattenAll_eq_error hf
  refine hc.map (fun i j ha => ?_) fun i hi j hj hij => ?_
  · obtain ⟨state, target, hs, ht, hin⟩ := includes_of_arc h ha
    rwa [hs, ht]
  -- The members of the cycle include something, so they are places of names.
  · obtain ⟨_, ha⟩ := hc.exists_rel hi
    obtain ⟨_, hb⟩ := hc.exists_rel hj
    obtain ⟨_, _, hs, _⟩ := includes_of_arc h ha
    obtain ⟨_, _, ht, _⟩ := includes_of_arc h hb
    rw [hs, ht] at hij
    cases hij
    exact resolve_place h hs ht

theorem explains_of_build {e : Error} (h : d.build = .error e) : d.Explains e := by
  rcases build_eq_error h with h | ⟨root, declared, cycle, hr, hf, rfl⟩
  · exact explains_of_resolve h
  · exact explains_of_flatten hr hf

theorem acyclic_of_flatten {root : StateId} {declared : List (List CompiledEntry)} {done : Flattened}
    {name : String} (h : d.resolve = .ok (root, declared)) (hf : flatten declared = .ok done) :
    ¬ Relation.TransGen d.Includes name name := by
  intro hname
  obtain ⟨_, ⟨_, _, hs, _⟩, _⟩ := Relation.TransGen.head'_iff.mp hname
  obtain ⟨i, hi⟩ := List.getElem?_of_mem (List.mem_map_of_mem (f := (·.1)) hs)
  obtain ⟨j, hj, hij⟩ := transGen_arc h hname hi
  cases resolve_place h hi hj
  exact (flatten_eq_ok hf).transGen.irrefl.irrefl i (Relation.transGen_swap.mpr hij)

theorem wellFormed_of_build {t : Table} (h : d.build = .ok t) : d.WellFormed := by
  obtain ⟨root, declared, done, hr, hf, _⟩ := build_eq_ok h
  obtain ⟨hdistinct, hroot, _⟩ := resolve_eq_ok hr
  refine ⟨hdistinct, List.mem_of_getElem? hroot, fun he name hname => ?_, fun he => ?_, fun he fault => ?_,
    fun name hname => ?_⟩
  · obtain ⟨c, hc⟩ := he.compilesTo hr
    exact hc.references_mem name hname
  · obtain ⟨_, hc⟩ := he.compilesTo hr
    cases hc with
    | rule hc => exact ⟨_, (compileRule_eq_ok hc).1⟩
  · obtain ⟨_, hc⟩ := he.compilesTo hr
    cases hc with
    | rule hc => exact (compileRule_clean hc).1 fault
  · exact acyclic_of_flatten hr hf hname

/-- A declaration can be built if it is well-formed and only then. If it cannot, the error is true of it. -/
theorem build_iff_wellFormed (d : Declaration) :
    ((∃ t, d.build = .ok t) ↔ d.WellFormed) ∧ ∀ e, d.build = .error e → d.Explains e := by
  refine ⟨⟨fun ⟨_, h⟩ => wellFormed_of_build h, fun hw => ?_⟩, fun _ => explains_of_build⟩
  cases h : d.build with
  | ok t => exact ⟨t, rfl⟩
  | error e => exact absurd (explains_of_build h) (hw.not_explains e)

/-- Two ways lead to the shared state, and two states stand apart from the root. -/
def braided (last : List Entry) : Declaration where
  states := [
    ("root", [.include "left", .include "right"]), ("left", [.include "shared"]), ("right", [.include "shared"]),
    ("shared", [.rule {
      pattern := { text := "<(x*)>" }, emission := .byGroups [.lex "right"], transition := .push ["left"] }]),
    ("apart", [.include "last"]), ("last", last)]

theorem build_iff_wellFormed_braided :
    (braided [.include "shared"]).WellFormed ∧
      IsCycle (braided [.include "shared", .include "apart"]).Includes ["apart", "last", "apart"] := by
  constructor
  · have h : (braided [.include "shared"]).build.toOption.isSome = true := by decide +kernel
    obtain ⟨t, ht⟩ := Option.isSome_iff_exists.mp h
    exact (build_iff_wellFormed _).1.mp ⟨t, toOption_eq_some.mp ht⟩
  · have h : (braided [.include "shared", .include "apart"]).build.map (fun _ => ()) =
        .error (.includeCycle ["apart", "last", "apart"]) := by decide +kernel
    exact (build_iff_wellFormed _).2 _ (map_eq_error.mp h)

end ModalLexer.Declaration
