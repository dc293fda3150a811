import Mathlib.Data.List.Chain
import Mathlib.Data.List.Nodup
import Mathlib.Data.List.Perm.Subperm
import Mathlib.Order.WellFounded
import ModalLexer.Proofs.Outcome
import ModalLexer.Table.Build

/-!
Includes. Flattening succeeds only where no state comes back to itself over includes, and where it fails, the path
that it reports is a cycle.
-/

namespace ModalLexer

/-! ## Cycles -/

/-- A cycle of a relation: each one is related to the next, and only the first is there twice, at both ends. -/
def IsCycle (r : α → α → Prop) (path : List α) : Prop :=
  ∃ first mid, path = first :: mid ++ [first] ∧ (first :: mid).Nodup ∧ path.IsChain r

section

variable {α β : Type} {r : α → α → Prop}

theorem transGen_of_isChain {a b : α} {mid : List α} (h : (a :: mid ++ [b]).IsChain r) :
    Relation.TransGen r a b := by
  induction mid generalizing a with
  | nil => exact .single (List.isChain_cons_cons.mp h).1
  | cons c mid ih =>
      obtain ⟨hac, h⟩ := List.isChain_cons_cons.mp h
      exact .head hac (ih h)

theorem IsCycle.transGen {path : List α} (h : IsCycle r path) : ∃ a, Relation.TransGen r a a := by
  obtain ⟨first, mid, rfl, _, hc⟩ := h
  exact ⟨first, transGen_of_isChain hc⟩

/-- A cycle stays one under a map that keeps the relation and tells the members of the cycle apart. -/
theorem IsCycle.map {s : β → β → Prop} {f : α → β} {path : List α} (h : IsCycle r path)
    (hrel : ∀ a b, r a b → s (f a) (f b)) (hinj : ∀ a ∈ path, ∀ b ∈ path, f a = f b → a = b) :
    IsCycle s (path.map f) := by
  obtain ⟨first, mid, rfl, hn, hc⟩ := h
  refine ⟨f first, mid.map f, by simp, ?_, List.isChain_map_of_isChain f hrel hc⟩
  rw [← List.map_cons]
  exact hn.map_on fun a ha b hb =>
    hinj a (List.mem_append_left _ ha) b (List.mem_append_left _ hb)

/-- Going back along a chain, every member but the first has one that it leads to. -/
theorem exists_of_isChain_cons {a b : α} {l : List α} (h : (a :: l).IsChain fun x y => r y x) (hb : b ∈ l) :
    ∃ c, r b c := by
  induction l generalizing a with
  | nil => cases hb
  | cons c l ih =>
      obtain ⟨hac, h⟩ := List.isChain_cons_cons.mp h
      rcases List.mem_cons.mp hb with rfl | hb
      · exact ⟨a, hac⟩
      · exact ih h hb

theorem IsCycle.exists_rel {path : List α} {a : α} (h : IsCycle r path) (ha : a ∈ path) : ∃ b, r a b := by
  obtain ⟨first, mid, rfl, _, hc⟩ := h
  have hback : (first :: (mid.reverse ++ [first])).IsChain fun x y => r y x := by
    rw [← List.isChain_reverse]
    simpa using hc
  exact exists_of_isChain_cons hback (by simpa [or_comm] using ha)

end

/-! ## Targets -/

/-- The state that an entry includes, if it does. -/
def CompiledEntry.target? : CompiledEntry → Option Nat
  | .rule _ => none
  | .include id => some id.index

/-- The states that some entries include. -/
def targets (es : List CompiledEntry) : List Nat :=
  es.filterMap CompiledEntry.target?

@[simp] theorem targets_nil : targets [] = [] := rfl

theorem mem_targets {es : List CompiledEntry} {i : Nat} : i ∈ targets es ↔ .include ⟨i⟩ ∈ es := by
  simp only [targets, List.mem_filterMap]
  constructor
  · rintro ⟨e, he, ht⟩
    cases e with
    | rule r => cases ht
    | «include» id => cases ht; exact he
  · intro h; exact ⟨_, h, rfl⟩

/-- One state includes another one. -/
def Arc (declared : Array (List CompiledEntry)) (i j : Nat) : Prop :=
  j ∈ targets (declared.getD i [])

theorem Arc.lt {declared : Array (List CompiledEntry)} {i j : Nat} (h : Arc declared i j) : i < declared.size := by
  by_contra hi
  simp [Arc, Array.getD, hi] at h

/-! ## States that were flattened -/

namespace Flattened

/-- The state is among the flattened ones. -/
def Has (done : Flattened) (id : Nat) : Prop :=
  (done.rules? id).isSome

theorem has_cons {i j : Nat} {rules : List CompiledRule} {done : Flattened} :
    Has ((i, rules) :: done) j ↔ i = j ∨ done.Has j := by
  by_cases h : i = j
  · simp [Has, rules?, h]
  · simp [Has, rules?, h]

/-- No flattened state starts an endless way along includes. -/
def Grounded (declared : Array (List CompiledEntry)) (done : Flattened) : Prop :=
  ∀ id, done.Has id → Acc (fun j i => Arc declared i j) id

/-- More states are flattened than before, the given ones among them. -/
structure Grows (declared : Array (List CompiledEntry)) (ids : List Nat) (done done' : Flattened) : Prop where
  grounded : done'.Grounded declared
  kept : ∀ id, done.Has id → done'.Has id
  has : ∀ id ∈ ids, done'.Has id

variable {declared : Array (List CompiledEntry)} {done done' done'' : Flattened} {ids ids' : List Nat}

theorem Grounded.grows (h : done.Grounded declared) (hids : ∀ id ∈ ids, done.Has id) :
    Grows declared ids done done :=
  ⟨h, fun _ hi => hi, hids⟩

theorem Grows.append (h : Grows declared ids done done') (h' : Grows declared ids' done' done'') :
    Grows declared (ids ++ ids') done done'' where
  grounded := h'.grounded
  kept id hi := h'.kept id (h.kept id hi)
  has id hi := by
    rcases List.mem_append.mp hi with hi | hi
    · exact h'.kept id (h.has id hi)
    · exact h'.has id hi

/-- A state may be added once those that it includes are there. -/
theorem Grows.add {id : Nat} {rules : List CompiledRule}
    (h : Grows declared (targets (declared.getD id [])) done done') :
    Grows declared [id] done ((id, rules) :: done') where
  grounded i hi := by
    rcases has_cons.mp hi with rfl | hi
    · exact .intro _ fun j hj => h.grounded j (h.has j hj)
    · exact h.grounded i hi
  kept i hi := has_cons.mpr (.inr (h.kept i hi))
  has i hi := has_cons.mpr (.inl (List.mem_singleton.mp hi).symm)

end Flattened

/-! ## Success -/

section

variable {declared : Array (List CompiledEntry)}

theorem flattenEntries_grows {visit : Nat → Flattened → Except IncludeCycle Flattened}
    (hv : ∀ {id done done'}, done.Grounded declared → visit id done = .ok done' →
      Flattened.Grows declared [id] done done')
    {es : List CompiledEntry} {rules : List CompiledRule} {done done' : Flattened}
    (hd : done.Grounded declared) (h : flattenEntries visit es done = .ok (rules, done')) :
    Flattened.Grows declared (targets es) done done' := by
  induction es generalizing rules done with
  | nil => cases h; exact hd.grows (by simp)
  | cons e es ih =>
      cases e with
      | rule r =>
          obtain ⟨_, hrest, h⟩ := bind_eq_ok.mp h
          cases h
          exact ih hd hrest
      | «include» id =>
          obtain ⟨_, hvisit, h⟩ := bind_eq_ok.mp h
          obtain ⟨_, hrest, h⟩ := bind_eq_ok.mp h
          cases h
          have hg := hv hd hvisit
          exact hg.append (ih hg.grounded hrest)

theorem flattenState_grows {fuel : Nat} {visiting : List Nat} {id : Nat} {done done' : Flattened}
    (hd : done.Grounded declared) (h : flattenState declared fuel visiting id done = .ok done') :
    Flattened.Grows declared [id] done done' := by
  induction fuel generalizing visiting id done done' with
  | zero => cases h
  | succ fuel ih =>
      simp only [flattenState] at h
      split at h
      next hid => cases h; exact hd.grows fun i hi => List.mem_singleton.mp hi ▸ hid
      · split at h
        · cases h
        · obtain ⟨⟨rules, done''⟩, hf, h⟩ := bind_eq_ok.mp h
          cases h
          exact (flattenEntries_grows ih hd hf).add

theorem flattenAll_grows {ids : List Nat} {done done' : Flattened} (hd : done.Grounded declared)
    (h : flattenAll declared ids done = .ok done') : Flattened.Grows declared ids done done' := by
  induction ids generalizing done with
  | nil => cases h; exact hd.grows (by simp)
  | cons id ids ih =>
      obtain ⟨done'', hs, h⟩ := bind_eq_ok.mp h
      have hg := flattenState_grows hd hs
      exact hg.append (ih hg.grounded h)

/-- Where flattening succeeds, no way along includes is endless. -/
theorem Declaration.flatten_eq_ok {declared : List (List CompiledEntry)} {done : Flattened}
    (h : flatten declared = .ok done) : WellFounded fun j i => Arc declared.toArray i j := by
  have hg := flattenAll_grows (fun _ hi => by simp [Flattened.Has, Flattened.rules?] at hi) h
  refine ⟨fun i => ?_⟩
  by_cases hi : i < declared.length
  · exact hg.grounded i (hg.has i (List.mem_range.mpr hi))
  · exact .intro _ fun j hj => absurd (by simpa using Arc.lt hj) hi

/-! ## Failure -/

theorem flattenEntries_eq_error {visit : Nat → Flattened → Except IncludeCycle Flattened}
    {es : List CompiledEntry} {done : Flattened} {c : IncludeCycle}
    (h : flattenEntries visit es done = .error c) :
    ∃ id ∈ targets es, ∃ done', visit id done' = .error c := by
  induction es generalizing done with
  | nil => cases h
  | cons e es ih =>
      cases e with
      | rule r =>
          rcases bind_eq_error.mp h with h | ⟨_, _, h⟩
          · exact ih h
          · cases h
      | «include» id =>
          rcases bind_eq_error.mp h with h | ⟨_, _, h⟩
          · exact ⟨id.index, List.mem_cons_self, done, h⟩
          rcases bind_eq_error.mp h with h | ⟨_, _, h⟩
          · obtain ⟨i, hi, h⟩ := ih h
            exact ⟨i, List.mem_cons_of_mem _ hi, h⟩
          · cases h

/-- The states being walked that come after the last visit of a state are a cycle with it. -/
theorem isCycle_of_visiting {visiting : List Nat} {id : Nat} (hn : visiting.Nodup)
    (hc : (id :: visiting).IsChain fun j i => Arc declared i j) (hid : id ∈ visiting) :
    IsCycle (Arc declared) (id :: (visiting.takeWhile (· != id)).reverse ++ [id]) := by
  obtain ⟨newer, older, rfl⟩ := List.append_of_mem hid
  have hnewer : id ∉ newer := fun h => (List.nodup_append.mp hn).2.2 id h id List.mem_cons_self rfl
  have htake : (newer ++ id :: older).takeWhile (· != id) = newer := by
    rw [List.takeWhile_append_of_pos fun i hi => by simpa using ne_of_mem_of_not_mem hi hnewer]
    simp
  rw [htake]
  refine ⟨id, newer.reverse, rfl, ?_, ?_⟩
  · rw [List.nodup_cons, List.mem_reverse, List.nodup_reverse]
    exact ⟨hnewer, (List.nodup_append.mp hn).1⟩
  · have hsplit : id :: (newer ++ id :: older) = (id :: newer ++ [id]) ++ older := by simp
    rw [hsplit] at hc
    rw [← List.reverse_reverse (id :: newer.reverse ++ [id]), List.isChain_reverse]
    simpa using (List.isChain_append.mp hc).1

/-- The states being walked differ and each has an include, so there are no more of them than states. -/
theorem length_le_of_visiting {visiting : List Nat} {id : Nat} (hn : visiting.Nodup)
    (hc : (id :: visiting).IsChain fun j i => Arc declared i j) : visiting.length ≤ declared.size := by
  have hsub : visiting ⊆ List.range declared.size := fun i hi => by
    obtain ⟨j, hj⟩ := exists_of_isChain_cons hc hi
    exact List.mem_range.mpr hj.lt
  simpa using (List.subperm_of_subset hn hsub).length_le

/-- The fuel lasts until a state comes twice. -/
theorem flattenState_eq_error {fuel : Nat} {visiting : List Nat} {id : Nat} {done : Flattened}
    {c : IncludeCycle} (hfuel : fuel + visiting.length = declared.size + 1) (hn : visiting.Nodup)
    (hc : (id :: visiting).IsChain fun j i => Arc declared i j)
    (h : flattenState declared fuel visiting id done = .error c) : IsCycle (Arc declared) c.path := by
  induction fuel generalizing visiting id done with
  | zero =>
      have hlen := length_le_of_visiting hn hc
      omega
  | succ fuel ih =>
      simp only [flattenState, List.contains_iff_mem] at h
      split at h
      · cases h
      · split at h
        next hid => cases h; exact isCycle_of_visiting hn hc hid
        next hid =>
          rcases bind_eq_error.mp h with h | ⟨_, _, h⟩
          · obtain ⟨j, hj, done', h⟩ := flattenEntries_eq_error h
            exact ih (by simp; omega) (List.nodup_cons.mpr ⟨hid, hn⟩) (.cons_cons hj hc) h
          · cases h

theorem flattenAll_eq_error {ids : List Nat} {done : Flattened} {c : IncludeCycle}
    (h : flattenAll declared ids done = .error c) : IsCycle (Arc declared) c.path := by
  induction ids generalizing done with
  | nil => cases h
  | cons id ids ih =>
      rcases bind_eq_error.mp h with h | ⟨_, _, h⟩
      · exact flattenState_eq_error rfl .nil (.singleton id) h
      · exact ih h

end

end ModalLexer
