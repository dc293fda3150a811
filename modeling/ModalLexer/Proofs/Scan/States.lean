import ModalLexer.Proofs.Scan.Visits

/-!
The stacks of states that a scan comes to. Whatever a table that was built does to a stack, the root of the table
stays at the bottom, and every state on the stack is one of the table.
-/

namespace ModalLexer

/-! ## Stacks -/

/-- A stack of states of the table, with its root at the bottom. -/
structure StateStack.Within (t : Table) (s : StateStack) : Prop where
  root : s.root = t.root
  states : ∀ id ∈ s.toList, id.index < t.stateCount

namespace StateStack

variable {t : Table} {s : StateStack}

theorem top_mem (s : StateStack) : s.top ∈ s.toList := by
  cases h : s.above with
  | nil => simp [top, toList, h]
  | cons id above => simp [top, toList, h]

theorem Within.ofAbove (ht : t.Closed) {above : List StateId} (h : ∀ id ∈ above, id.index < t.stateCount) :
    Within t ⟨t.root, above⟩ := by
  refine ⟨rfl, fun id hid => ?_⟩
  rcases List.mem_cons.mp hid with rfl | hid
  · exact ht.root
  · exact h id (List.mem_reverse.mp hid)

theorem Within.above (h : s.Within t) : ∀ id ∈ s.above, id.index < t.stateCount :=
  fun id hid => h.states id (List.mem_cons_of_mem _ (List.mem_reverse.mpr hid))

/-- Other states above the same root. -/
theorem Within.replace (ht : t.Closed) (h : s.Within t) {above : List StateId}
    (habove : ∀ id ∈ above, id.index < t.stateCount) : Within t { s with above } := by
  obtain ⟨root, _⟩ := s
  cases h.root
  exact .ofAbove ht habove

theorem Within.reset (ht : t.Closed) (h : s.Within t) : s.reset.Within t :=
  h.replace ht (by simp)

theorem Within.apply (ht : t.Closed) (h : s.Within t) {move : Transition StateId}
    (hmove : ∀ id ∈ move.references, id.index < t.stateCount) : (s.apply move).Within t := by
  cases move with
  | stay => exact h
  | push states =>
      refine h.replace ht fun id hid => ?_
      rcases List.mem_append.mp hid with hid | hid
      · exact hmove id (List.mem_reverse.mp hid)
      · exact h.above id hid
  | pushCurrent =>
      refine h.replace ht fun id hid => ?_
      rcases List.mem_cons.mp hid with rfl | hid
      · exact h.states _ s.top_mem
      · exact h.above id hid
  | pop count => exact h.replace ht fun id hid => h.above id (List.mem_of_mem_drop hid)
  | goto state =>
      refine h.replace ht fun id hid => ?_
      rcases List.mem_cons.mp hid with rfl | hid
      · exact hmove id (List.mem_singleton_self id)
      · exact h.above id (List.mem_of_mem_drop hid)

end StateStack

namespace Table

variable {t : Table}

theorem stateId?_lt {name : String} {id : StateId} (h : t.stateId? name = some id) : id.index < t.stateCount := by
  obtain ⟨i, hi, rfl⟩ := Option.map_eq_some_iff.mp h
  exact (Array.findIdx?_eq_some_iff_getElem.mp hi).1

theorem stateId?_exists {name : String} (h : name ∈ t.names) : ∃ id, t.stateId? name = some id := by
  cases hi : t.names.findIdx? (· == name) with
  | none => exact absurd (Array.findIdx?_eq_none_iff.mp hi name h) (by simp)
  | some i => exact ⟨⟨i⟩, by rw [stateId?, hi]; rfl⟩

theorem initialStack_exists {names : List String} (h : ∀ name ∈ names, name ∈ t.names) :
    ∃ stack, t.initialStack names = .ok stack := by
  cases hstack : t.initialStack names with
  | ok stack => exact ⟨stack, rfl⟩
  | error e =>
      rcases bind_eq_error.mp hstack with hids | ⟨_, _, hstack⟩
      · obtain ⟨name, hname, he⟩ := mapM_eq_error hids
        obtain ⟨id, hid⟩ := stateId?_exists (h name hname)
        rw [hid] at he
        cases he
      · cases hstack

theorem initialStack_within (ht : t.Closed) {names : List String} {stack : StateStack}
    (h : t.initialStack names = .ok stack) : stack.Within t := by
  obtain ⟨ids, hids, h⟩ := bind_eq_ok.mp h
  cases h
  refine .ofAbove ht fun id hid => ?_
  obtain ⟨i, hi⟩ := List.getElem?_of_mem (List.mem_reverse.mp hid)
  obtain ⟨name, _, hname⟩ := forall₂_right (mapM_eq_ok hids) hi
  split at hname
  next hid => cases hname; exact stateId?_lt hid
  · cases hname

/-! ## Steps -/

variable {text part : String} {lexGroup : GroupLexer} {s s' : Scan}

theorem step_within (ht : t.Closed) {tokens : List Token} (hs : s.stack.Within t)
    (h : t.step text lexGroup s = ⟨s', tokens, none⟩) : s'.stack.Within t := by
  rcases step_eq_ok h with ⟨r, m, memo, hc, ha⟩ | ⟨memo, _, hf⟩
  · rw [accept_scan ha]
    refine hs.apply ht fun id hid => ?_
    exact ht.references _ r (choose_some hc).1 id (List.mem_append_left _ hid)
  · obtain ⟨_, _, hstack, heq⟩ := t.fallback_eq text { s with memo }
    cases hf.symm.trans heq
    rcases hstack with rfl | rfl
    · exact hs
    · exact hs.reset ht

theorem lex_lt (ht : t.Closed) {id state : StateId} {r : CompiledRule} {actions : List (GroupAction StateId)}
    (hr : r ∈ t.rulesOf id) (hactions : r.emission = .byGroups actions) (hlex : .lex state ∈ actions) :
    state.index < t.stateCount := by
  refine ht.references id r hr state (List.mem_append_right _ ?_)
  rw [hactions]
  exact List.mem_flatMap.mpr ⟨_, hlex, List.mem_singleton_self state⟩

theorem Visits.within (ht : t.Closed) {stack : StateStack} {depth levels : Nat} {history : List Scan}
    (hstack : stack.Within t) (h : t.Visits text stack depth levels part history s) : s.stack.Within t := by
  induction h with
  | start => exact hstack
  | step _ _ taken ih => exact step_within ht ih taken
  | group _ _ opens _ =>
      cases opens with
      | intro chosen _ grouped _ _ action =>
          refine .ofAbove ht fun id hid => ?_
          cases List.mem_singleton.mp hid
          exact lex_lt ht (choose_some chosen).1 grouped (List.mem_of_getElem? action)

end Table

end ModalLexer
