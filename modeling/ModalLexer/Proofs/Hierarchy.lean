import Mathlib.Logic.Relation
import ModalLexer.Kind

/-!
Kinds are a tree. To be a subkind, to have the components of the other kind in front, and to get there from parent to
parent are one relation, on all paths, also on those with empty components; and the superkinds of a kind are a chain.
-/

namespace ModalLexer.Kind

/-! ## Dots -/

theorem splitDots_eq (cs : List Char) : splitDots cs = cs.splitOn '.' := by
  induction cs with
  | nil => rfl
  | cons c cs ih =>
      rw [splitDots, List.splitOn_cons_eq_if_modifyHead, ih]
      cases hparts : cs.splitOn '.' with
      | nil => exact absurd hparts (List.splitOn_ne_nil '.' cs)
      | cons part parts => simp

theorem beforeLastDot?_eq_none_iff {cs : List Char} : beforeLastDot? cs = none ↔ '.' ∉ cs := by
  induction cs with
  | nil => simp [beforeLastDot?]
  | cons c cs ih =>
      rw [beforeLastDot?, List.mem_cons, not_or, ← ih]
      cases beforeLastDot? cs with
      | some front => simp
      | none => simp [eq_comm]

theorem beforeLastDot?_append {last : List Char} (h : '.' ∉ last) (front : List Char) :
    beforeLastDot? (front ++ '.' :: last) = some front := by
  induction front with
  | nil => rw [List.nil_append, beforeLastDot?, beforeLastDot?_eq_none_iff.mpr h]; rfl
  | cons c front ih => rw [List.cons_append, beforeLastDot?, ih]

theorem eq_append_of_beforeLastDot? {cs front : List Char} (h : beforeLastDot? cs = some front) :
    ∃ last, '.' ∉ last ∧ cs = front ++ '.' :: last := by
  induction cs generalizing front with
  | nil => cases h
  | cons c cs ih =>
      rw [beforeLastDot?] at h
      cases hrest : beforeLastDot? cs with
      | some rest =>
          rw [hrest] at h
          cases h
          obtain ⟨last, hlast, rfl⟩ := ih hrest
          exact ⟨last, hlast, rfl⟩
      | none =>
          rw [hrest] at h
          simp only [Option.ite_none_right_eq_some, Option.some.injEq] at h
          obtain ⟨rfl, rfl⟩ := h
          exact ⟨cs, beforeLastDot?_eq_none_iff.mp hrest, rfl⟩

/-! ## Components -/

theorem components_eq (k : Kind) : k.components = (k.path.toList.splitOn '.').map String.ofList := by
  rw [components, splitDots_eq]

/-- A kind is told by its components. -/
theorem components_injective : Function.Injective components := by
  intro k k' h
  simp only [components_eq] at h
  have hparts := (List.map_inj_right fun _ _ => String.ofList_inj.mp).mp h
  have hpath : k.path.toList = k'.path.toList := by
    calc k.path.toList = ['.'].intercalate (k.path.toList.splitOn '.') := (List.intercalate_splitOn '.').symm
      _ = ['.'].intercalate (k'.path.toList.splitOn '.') := by rw [hparts]
      _ = k'.path.toList := List.intercalate_splitOn '.'
  obtain ⟨path⟩ := k
  obtain ⟨path'⟩ := k'
  exact congrArg mk (String.toList_inj.mp hpath)

theorem components_child (k : Kind) (name : String) :
    (k.child name).components = k.components ++ components ⟨name⟩ := by
  have hpath : (k.path ++ "." ++ name).toList = k.path.toList ++ '.' :: name.toList := by simp
  rw [components_eq, components_eq, components_eq, child, hpath, List.splitOn_append_cons_self, List.map_append]

theorem components_of_notMem {name : String} (h : '.' ∉ name.toList) : components ⟨name⟩ = [name] := by
  rw [components_eq, List.splitOn_eq_singleton h, List.map_singleton, String.ofList_toList]

theorem components_ne_nil (k : Kind) : k.components ≠ [] := by
  rw [components_eq]
  exact fun h => List.splitOn_ne_nil '.' _ (List.map_eq_nil_iff.mp h)

theorem child_child (k : Kind) (name name' : String) : (k.child name).child name' = k.child (name ++ "." ++ name') := by
  simp only [child, String.append_assoc]

/-! ## Parents -/

/-- A parent is what a component without a dot was added to. -/
theorem parent?_eq_some_iff {k p : Kind} : k.parent? = some p ↔ ∃ name, '.' ∉ name.toList ∧ k = p.child name := by
  unfold parent?
  constructor
  · intro h
    obtain ⟨front, hfront, rfl⟩ := Option.map_eq_some_iff.mp h
    obtain ⟨last, hlast, hpath⟩ := eq_append_of_beforeLastDot? hfront
    refine ⟨String.ofList last, by simpa using hlast, ?_⟩
    obtain ⟨path⟩ := k
    rw [child, mk.injEq, ← String.toList_inj, hpath]
    simp
  · rintro ⟨name, hname, rfl⟩
    have hpath : (p.child name).path.toList = p.path.toList ++ '.' :: name.toList := by simp [child]
    rw [hpath, beforeLastDot?_append hname, Option.map_some, String.ofList_toList]

theorem parent?_eq_none_iff {k : Kind} : k.parent? = none ↔ '.' ∉ k.path.toList := by
  rw [parent?, Option.map_eq_none_iff, beforeLastDot?_eq_none_iff]

/-- The parent has all components but the last one. -/
theorem parent?_eq_some_iff_components {k p : Kind} :
    k.parent? = some p ↔ ∃ last, k.components = p.components ++ [last] := by
  constructor
  · intro h
    obtain ⟨name, hname, rfl⟩ := parent?_eq_some_iff.mp h
    exact ⟨name, by rw [components_child, components_of_notMem hname]⟩
  · rintro ⟨last, h⟩
    cases hp : k.parent? with
    | none =>
        -- A path without a dot has one component, which is the last one already.
        have hone := components_of_notMem (parent?_eq_none_iff.mp hp)
        rw [h] at hone
        exact absurd (List.append_eq_singleton_iff.mp hone) (by simp [components_ne_nil])
    | some p' =>
        obtain ⟨name, hname, rfl⟩ := parent?_eq_some_iff.mp hp
        rw [components_child, components_of_notMem hname] at h
        rw [components_injective (List.append_inj_left' h rfl)]

theorem parent?_eq_none_iff_components {k : Kind} : k.parent? = none ↔ k.components.length = 1 := by
  constructor
  · intro h
    rw [show k.components = [k.path] from components_of_notMem (parent?_eq_none_iff.mp h), List.length_singleton]
  · intro h
    cases hp : k.parent? with
    | none => rfl
    | some p =>
        obtain ⟨last, hlast⟩ := parent?_eq_some_iff_components.mp hp
        have hpos := List.length_pos_iff.mpr p.components_ne_nil
        rw [hlast, List.length_append, List.length_singleton] at h
        omega

/-- What follows for a kind from its parent holds of all kinds. -/
theorem induction_on_parent {motive : Kind → Prop} (h : ∀ k, (∀ p, k.parent? = some p → motive p) → motive k)
    (k : Kind) : motive k := by
  induction hn : k.components.length generalizing k with
  | zero => exact absurd (List.length_eq_zero_iff.mp hn) k.components_ne_nil
  | succ n ih =>
      refine h k fun p hp => ih p ?_
      obtain ⟨last, hlast⟩ := parent?_eq_some_iff_components.mp hp
      rw [hlast, List.length_append, List.length_singleton] at hn
      omega

/-! ## Subkinds -/

/-- The second kind is the parent of the first one. -/
def Below (k p : Kind) : Prop :=
  k.parent? = some p

theorem isSubkindOf_iff_child {k other : Kind} :
    k.isSubkindOf other = true ↔ k = other ∨ ∃ name, k = other.child name := by
  unfold isSubkindOf
  simp only [Bool.and_eq_true, List.isPrefixOf_iff_prefix]
  constructor
  · rintro ⟨⟨rest, hpath⟩, hrest⟩
    obtain ⟨path⟩ := k
    obtain ⟨above⟩ := other
    simp only at hpath hrest
    rw [← hpath, List.drop_left] at hrest
    cases rest with
    | nil =>
        rw [List.append_nil] at hpath
        exact .inl (congrArg mk (String.toList_inj.mp hpath.symm))
    | cons c rest =>
        obtain rfl : c = '.' := by simpa using hrest
        refine .inr ⟨String.ofList rest, ?_⟩
        rw [child, mk.injEq, ← String.toList_inj, ← hpath]
        simp
  · rintro (rfl | ⟨name, rfl⟩)
    · simp
    · have hpath : (other.child name).path.toList = other.path.toList ++ '.' :: name.toList := by simp [child]
      rw [hpath, List.drop_left]
      simp

theorem prefix_of_isSubkindOf {k other : Kind} (h : k.isSubkindOf other = true) :
    other.components <+: k.components := by
  rcases isSubkindOf_iff_child.mp h with rfl | ⟨name, rfl⟩
  · exact List.prefix_rfl
  · rw [components_child]
    exact List.prefix_append _ _

theorem reaches_of_components {k other : Kind} (h : other.components <+: k.components) :
    Relation.ReflTransGen Below k other := by
  induction k using induction_on_parent with
  | h k ih =>
      cases hp : k.parent? with
      | none =>
          -- The only component of the kind is that of the other one.
          have hlen := parent?_eq_none_iff_components.mp hp
          have hpos := List.length_pos_iff.mpr other.components_ne_nil
          rw [components_injective (h.eq_of_length_le (by omega))]
      | some p =>
          obtain ⟨last, hlast⟩ := parent?_eq_some_iff_components.mp hp
          rw [hlast, List.prefix_concat_iff, ← hlast] at h
          rcases h with heq | h
          · rw [components_injective heq]
          · exact .head hp (ih p hp h)

theorem isSubkindOf_of_reaches {k other : Kind} (h : Relation.ReflTransGen Below k other) :
    k.isSubkindOf other = true := by
  induction h using Relation.ReflTransGen.head_induction_on with
  | refl => exact isSubkindOf_iff_child.mpr (.inl rfl)
  | head hp _ ih =>
      obtain ⟨name, _, rfl⟩ := parent?_eq_some_iff.mp hp
      rcases isSubkindOf_iff_child.mp ih with rfl | ⟨name', rfl⟩
      · exact isSubkindOf_iff_child.mpr (.inr ⟨name, rfl⟩)
      · exact isSubkindOf_iff_child.mpr (.inr ⟨_, child_child other name' name⟩)

theorem isSubkindOf_iff_components {k other : Kind} : k.isSubkindOf other = true ↔ other.components <+: k.components :=
  ⟨prefix_of_isSubkindOf, fun h => isSubkindOf_of_reaches (reaches_of_components h)⟩

theorem isSubkindOf_iff_reaches {k other : Kind} :
    k.isSubkindOf other = true ↔ Relation.ReflTransGen Below k other :=
  ⟨fun h => reaches_of_components (prefix_of_isSubkindOf h), isSubkindOf_of_reaches⟩

/-- The depth of a kind bounds the number of its ancestors. -/
theorem mem_ancestors_iff {k other : Kind} : other ∈ k.ancestors ↔ Relation.TransGen Below k other := by
  suffices ∀ n, k.depth ≤ n → (other ∈ ancestorsFrom n k ↔ Relation.TransGen Below k other) from
    this k.depth (Nat.le_refl _)
  intro n hn
  induction n generalizing k with
  | zero => exact absurd (List.length_eq_zero_iff.mp (Nat.le_zero.mp hn)) k.components_ne_nil
  | succ n ih =>
      rw [ancestorsFrom, Relation.TransGen.head'_iff]
      cases hp : k.parent? with
      | none => simp [Below, hp]
      | some p =>
          obtain ⟨last, hlast⟩ := parent?_eq_some_iff_components.mp hp
          have hdepth : p.depth ≤ n := by
            rw [depth, hlast, List.length_append, List.length_singleton] at hn
            exact Nat.le_of_succ_le_succ hn
          simp [Below, hp, ih hdepth, Relation.reflTransGen_iff_eq_or_transGen]

/-- Kinds are a tree whose nodes are paths of components. A kind is a subkind of another one just if the components of
the other one stand in front of its own, and just if the other one is the kind itself or one of those that its parent,
and the parent of that, lead to. So subkinds are an order, in which the superkinds of a kind are a chain. A parent
lacks the last component, and only kinds of one component have none; a child has the components of its name more. -/
theorem isSubkindOf_tree :
    (∀ k other : Kind, (k.isSubkindOf other = true ↔ other.components <+: k.components) ∧
      (k.isSubkindOf other = true ↔ Relation.ReflTransGen Below k other)) ∧
    (∀ k : Kind, k.isSubkindOf k = true) ∧
    (∀ k k' : Kind, k.isSubkindOf k' = true → k'.isSubkindOf k = true → k = k') ∧
    (∀ k k' k'' : Kind, k.isSubkindOf k' = true → k'.isSubkindOf k'' = true → k.isSubkindOf k'' = true) ∧
    (∀ k above above' : Kind, k.isSubkindOf above = true → k.isSubkindOf above' = true →
      above.isSubkindOf above' = true ∨ above'.isSubkindOf above = true) ∧
    (∀ k p : Kind, k.parent? = some p ↔ ∃ last, k.components = p.components ++ [last]) ∧
    (∀ k : Kind, k.parent? = none ↔ k.components.length = 1) ∧
    (∀ (k : Kind) (name : String), (k.child name).components = k.components ++ components ⟨name⟩) ∧
    ∀ (k : Kind) (name : String), '.' ∉ name.toList → (k.child name).parent? = some k := by
  refine ⟨fun k other => ⟨isSubkindOf_iff_components, isSubkindOf_iff_reaches⟩, fun k => ?_, fun k k' h h' => ?_,
    fun k k' k'' h h' => ?_, fun k above above' h h' => ?_, fun k p => parent?_eq_some_iff_components,
    fun k => parent?_eq_none_iff_components, components_child, fun k name hname => ?_⟩
  · exact isSubkindOf_iff_components.mpr List.prefix_rfl
  · have hprefix := prefix_of_isSubkindOf h
    have hprefix' := prefix_of_isSubkindOf h'
    exact components_injective (hprefix'.eq_of_length_le hprefix.length_le)
  · exact isSubkindOf_iff_components.mpr ((prefix_of_isSubkindOf h').trans (prefix_of_isSubkindOf h))
  · rw [isSubkindOf_iff_components, isSubkindOf_iff_components, or_comm]
    exact List.prefix_or_prefix_of_prefix (prefix_of_isSubkindOf h) (prefix_of_isSubkindOf h')
  · exact parent?_eq_some_iff.mpr ⟨name, hname, rfl⟩

/-- A path that begins with a dot and has two in a row. Its superkinds are those that end where a dot stands. -/
theorem isSubkindOf_tree_dotted : (⟨".a..b"⟩ : Kind).components = ["", "a", "", "b"] ∧
    (⟨".a..b"⟩ : Kind).parent? = some ⟨".a."⟩ ∧ Relation.ReflTransGen Below ⟨".a..b"⟩ ⟨""⟩ ∧
    (⟨".a."⟩ : Kind).isSubkindOf ⟨".a"⟩ = true ∧ ¬ Relation.ReflTransGen Below ⟨"StringLike"⟩ ⟨"String"⟩ ∧
    (child ⟨""⟩ "").parent? = some ⟨""⟩ := by
  obtain ⟨hsubkind, _, _, _, hchain, hparent, _, hchild, hlast⟩ := isSubkindOf_tree
  have hcomponents : (⟨".a..b"⟩ : Kind).components = ["", "a", "", "b"] := by decide
  refine ⟨hcomponents, ?_, ?_, ?_, ?_, ?_⟩
  · exact (hparent _ _).mpr ⟨"b", hcomponents⟩
  · exact (hsubkind _ _).2.mp ((hsubkind _ _).1.mpr (by decide))
  · rcases hchain ⟨".a..b"⟩ ⟨".a."⟩ ⟨".a"⟩ (by decide) (by decide) with h | h
    · exact h
    · exact absurd h (by decide)
  · rw [← (hsubkind _ _).2]
    decide
  · exact hlast ⟨""⟩ "" (by decide)

end ModalLexer.Kind
