import ModalLexer.Proofs.Table.Expansion

/-!
Declarations that differ in their rules alone: the same names in the same order, the same includes at the same places,
and where the one has a rule, the other one has a rule that is related to it. Then entries of the same name stand for
rules that are related, each declared at the same place.
-/

namespace ModalLexer

/-- The same include, or rules that are related. -/
inductive Entry.Revised (rel : Rule → Rule → Prop) : Entry → Entry → Prop
  | rule {r r' : Rule} : rel r r' → Revised rel (.rule r) (.rule r')
  | include (state : String) : Revised rel (.include state) (.include state)

namespace Declaration

/-- The same states, but for rules that are related. -/
def Revised (rel : Rule → Rule → Prop) (d d' : Declaration) : Prop :=
  List.Forall₂ (fun s s' => s'.1 = s.1 ∧ List.Forall₂ (Entry.Revised rel) s.2 s'.2) d.states d'.states

namespace Revised

variable {rel : Rule → Rule → Prop} {d d' : Declaration}

theorem names_eq (h : d.Revised rel d') : d'.names = d.names :=
  (map_eq_of_forall₂ h fun _ _ hs => hs.1.symm).symm

theorem entries (h : d.Revised rel d') {state : String} {entries' : List Entry}
    (hmem : (state, entries') ∈ d'.states) :
    ∃ entries, (state, entries) ∈ d.states ∧ List.Forall₂ (Entry.Revised rel) entries entries' := by
  obtain ⟨i, hi⟩ := List.getElem?_of_mem hmem
  obtain ⟨⟨_, entries⟩, hi, rfl, hentries⟩ := forall₂_right h hi
  exact ⟨entries, List.mem_of_getElem? hi, hentries⟩

theorem entryAt (h : d.Revised rel d') {state : String} {index : Nat} {entry' : Entry}
    (he : d'.EntryAt state index entry') : ∃ entry, d.EntryAt state index entry ∧ entry.Revised rel entry' := by
  obtain ⟨entries', hmem, he⟩ := he
  obtain ⟨entries, hmem, hentries⟩ := h.entries hmem
  obtain ⟨entry, he, hentry⟩ := forall₂_right hentries he
  exact ⟨entry, ⟨entries, hmem, he⟩, hentry⟩

theorem includes (h : d.Revised rel d') {state target : String} (hi : d'.Includes state target) :
    d.Includes state target := by
  obtain ⟨index, he⟩ := hi
  obtain ⟨entry, he, hentry⟩ := h.entryAt he
  cases hentry with
  | «include» => exact ⟨index, he⟩

theorem wellFormed (h : d.Revised rel d') (hroot : d'.options.root = d.options.root)
    (hmultiLine : d'.options.multiLine = d.options.multiLine)
    (hrel : ∀ r r', rel r r' → r'.pattern = r.pattern ∧ r'.references = r.references ∧
      ∀ multiLine fault, r'.HasFault multiLine fault → r.HasFault multiLine fault) (hd : d.WellFormed) :
    d'.WellFormed where
  distinct := by
    rw [h.names_eq]
    exact hd.distinct
  root := by
    rw [h.names_eq, hroot]
    exact hd.root
  references he name hname := by
    obtain ⟨entry, he₀, hentry⟩ := h.entryAt he
    rw [h.names_eq]
    refine hd.references he₀ name ?_
    cases hentry with
    | rule hr =>
        rw [Entry.references, (hrel _ _ hr).2.1] at hname
        exact hname
    | «include» => exact hname
  patterns he := by
    obtain ⟨_, he, hentry⟩ := h.entryAt he
    cases hentry with
    | rule hr =>
        rw [(hrel _ _ hr).1, hmultiLine]
        exact hd.patterns he
  faultless he fault hfault := by
    obtain ⟨_, he, hentry⟩ := h.entryAt he
    cases hentry with
    | rule hr =>
        rw [hmultiLine] at hfault
        exact hd.faultless he fault ((hrel _ _ hr).2.2 _ _ hfault)
  acyclic name hname := hd.acyclic name (Relation.TransGen.mono (fun _ _ => h.includes) name name hname)

theorem lists (h : d.Revised rel d') (hd : d.names.Nodup) {state : String} {index : Nat} {es es' : List Entry}
    {rs rs' : List DeclaredRule} (hes : List.Forall₂ (Entry.Revised rel) es es') (hrs : d.Lists state index es rs)
    (hrs' : d'.Lists state index es' rs') :
    List.Forall₂ (fun r r' => rel r.rule r'.rule ∧ r'.state = r.state ∧ r'.index = r.index) rs rs' := by
  induction hrs generalizing es' rs' with
  | nil =>
      cases hes
      cases hrs'
      exact .nil
  | rule _ ih =>
      cases hes with
      | cons hentry hes =>
          cases hentry with
          | rule hrule =>
              cases hrs' with
              | rule hrest => exact .cons ⟨hrule, rfl, rfl⟩ (ih hes hrest)
  | «include» hmem _ _ ihincluded ih =>
      cases hes with
      | cons hentry hes =>
          cases hentry with
          | «include» =>
              cases hrs' with
              | «include» hmem' hincluded hrest =>
                  obtain ⟨entries, hmem₁, hentries⟩ := h.entries hmem'
                  cases entries_unique hd hmem hmem₁
                  exact List.rel_append (ihincluded hentries hincluded) (ih hes hrest)

end Revised

end Declaration

end ModalLexer
