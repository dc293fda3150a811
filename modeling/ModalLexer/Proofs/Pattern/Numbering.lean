import ModalLexer.Pattern.Regular.Parser
import ModalLexer.Proofs.Outcome

/-!
Group zero is the whole match. Reading a pattern of the regular dialect numbers its own groups from one on,
and simplifying an expression adds no groups, so none of them is taken for the whole match.
-/

namespace ModalLexer.Pattern.Regular

/-- No group inside the expression is group zero. -/
inductive Numbered : Regular → Prop
  | empty : Numbered .empty
  | text (cs) : Numbered (.text cs)
  | oneOf (bytes s) : Numbered (.oneOf bytes s)
  | look (l) : Numbered (.look l)
  | seq {rs} (h : ∀ r ∈ rs, Numbered r) : Numbered (.seq rs)
  | alt {rs} (h : ∀ r ∈ rs, Numbered r) : Numbered (.alt rs)
  | group {i r} (hi : i ≠ 0) (h : Numbered r) : Numbered (.group i r)
  | loop {r} (lo hi greedy) (h : Numbered r) : Numbered (.loop lo hi greedy r)

/-! ## Building -/

theorem ofSet_numbered (bytes : Bool) (s : CharSet) : (ofSet bytes s).Numbered := by
  unfold ofSet
  split
  · exact .oneOf _ _
  · split
    · exact .text _
    · exact .oneOf _ _

theorem items_numbered {r : Regular} (h : r.Numbered) : ∀ x ∈ r.items, x.Numbered := by
  cases h with
  | empty => simp [items]
  | seq h => exact h
  | text cs => simp [items, Numbered.text]
  | oneOf b s => simp [items, Numbered.oneOf]
  | look l => simp [items, Numbered.look]
  | alt h => simpa [items] using Numbered.alt h
  | group hi h => simpa [items] using Numbered.group hi h
  | loop lo hi g h => simpa [items] using Numbered.loop lo hi g h

theorem branches_numbered {r : Regular} (h : r.Numbered) : ∀ x ∈ r.branches, x.Numbered := by
  cases h with
  | alt h => exact h
  | empty => simp [branches, Numbered.empty]
  | text cs => simp [branches, Numbered.text]
  | oneOf b s => simp [branches, Numbered.oneOf]
  | look l => simp [branches, Numbered.look]
  | seq h => simpa [branches] using Numbered.seq h
  | group hi h => simpa [branches] using Numbered.group hi h
  | loop lo hi g h => simpa [branches] using Numbered.loop lo hi g h

theorem joinTexts_numbered {rs : List Regular} (h : ∀ r ∈ rs, r.Numbered) :
    ∀ r ∈ joinTexts rs, r.Numbered := by
  fun_induction joinTexts rs with
  | case1 => simp
  | case2 a rest b more hrest ih =>
      have ih := ih fun r hr => h r (List.mem_cons_of_mem _ hr)
      rw [hrest] at ih
      intro r hr
      rcases List.mem_cons.mp hr with rfl | hr
      · exact .text _
      · exact ih r (List.mem_cons_of_mem _ hr)
  | case3 a rest _ ih =>
      intro r hr
      rcases List.mem_cons.mp hr with rfl | hr
      · exact .text _
      · exact ih (fun r hr => h r (List.mem_cons_of_mem _ hr)) r hr
  | case4 r rest _ ih =>
      intro x hx
      rcases List.mem_cons.mp hx with rfl | hx
      · exact h _ List.mem_cons_self
      · exact ih (fun r hr => h r (List.mem_cons_of_mem _ hr)) x hx

theorem seqOf_numbered {rs : List Regular} (h : ∀ r ∈ rs, r.Numbered) : (seqOf rs).Numbered := by
  have hj : ∀ r ∈ joinTexts (rs.flatMap items), r.Numbered := by
    apply joinTexts_numbered
    intro r hr
    obtain ⟨x, hx, hr⟩ := List.mem_flatMap.mp hr
    exact items_numbered (h x hx) r hr
  unfold seqOf
  split
  · exact .empty
  · rename_i r hr; exact hj r (by rw [hr]; exact List.mem_singleton_self r)
  · exact .seq hj

theorem sharedItems_numbered {rs : List Regular} (ss : List Regular) (h : ∀ r ∈ rs, r.Numbered) :
    ∀ r ∈ sharedItems rs ss, r.Numbered := by
  fun_induction sharedItems rs ss with
  | case1 r rs s ss _ ih =>
      intro x hx
      rcases List.mem_cons.mp hx with rfl | hx
      · exact h _ List.mem_cons_self
      · exact ih (fun r hr => h r (List.mem_cons_of_mem _ hr)) x hx
  | case2 => simp
  | case3 => simp

theorem sharedStart_numbered {rs : List Regular} (h : ∀ r ∈ rs, r.Numbered) :
    ∀ r ∈ sharedStart rs, r.Numbered := by
  fun_cases sharedStart rs with
  | case1 => simp
  | case2 rs => exact items_numbered (h (.seq rs) List.mem_cons_self)
  | case3 rs rest => exact sharedItems_numbered _ (items_numbered (h (.seq rs) List.mem_cons_self))
  | case4 => simp

theorem altFrom_numbered {fuel : Nat} {rs : List Regular} (h : ∀ r ∈ rs, r.Numbered) :
    (altFrom fuel rs).Numbered := by
  induction fuel generalizing rs with
  | zero => exact .alt h
  | succ fuel ih =>
      have hb : ∀ r ∈ rs.flatMap branches, r.Numbered := by
        intro r hr
        obtain ⟨x, hx, hr⟩ := List.mem_flatMap.mp hr
        exact branches_numbered (h x hx) r hr
      unfold altFrom
      split
      · exact .oneOf _ _
      · rename_i r hr; exact hb r (by rw [hr]; exact List.mem_singleton_self r)
      · split
        · exact ofSet_numbered _ _
        · split
          · exact ofSet_numbered _ _
          · simp only
            split
            · exact .alt hb
            · -- what the branches share stands in front of what is left of them
              apply seqOf_numbered
              intro r hr
              rcases List.mem_append.mp hr with hr | hr
              · exact sharedStart_numbered hb r hr
              · rw [List.mem_singleton] at hr
                subst hr
                apply ih
                intro r hr
                obtain ⟨x, hx, rfl⟩ := List.mem_map.mp hr
                exact seqOf_numbered fun y hy => items_numbered (hb x hx) y (List.mem_of_mem_drop hy)

theorem repeated_numbered {r : Regular} (lo : Nat) (hi : Option Nat) (greedy : Bool) (h : r.Numbered) :
    (repeated lo hi greedy r).Numbered := by
  unfold repeated
  extract_lets once lo' hi'
  split
  · exact .empty
  · split
    · exact h
    · exact .loop _ _ _ h

/-! ## Reading -/

/-- What has been read so far has no group zero, and the open groups are not group zero. -/
structure Builder.Numbered (b : Builder) : Prop where
  items : ∀ i ∈ b.items, i.expr.Numbered
  branches : ∀ i ∈ b.branches, i.expr.Numbered
  stack : ∀ g ∈ b.stack, (∀ i ∈ g.items, i.expr.Numbered) ∧ (∀ i ∈ g.branches, i.expr.Numbered) ∧
    g.index ≠ some 0

theorem Item.seq_numbered {is : List Item} (h : ∀ i ∈ is, i.expr.Numbered) : (Item.seq is).expr.Numbered := by
  fun_cases Item.seq is with
  | case1 => exact .empty
  | case2 i => exact h i List.mem_cons_self
  | case3 => exact seqOf_numbered (by simpa using h)

theorem Item.alt_numbered {is : List Item} (h : ∀ i ∈ is, i.expr.Numbered) : (Item.alt is).expr.Numbered := by
  fun_cases Item.alt is with
  | case1 => exact .empty
  | case2 i => exact h i List.mem_cons_self
  | case3 => exact altFrom_numbered (by simpa using h)

namespace Builder.Numbered

variable {b b' : Builder}

theorem finish (h : b.Numbered) : b.finish.expr.Numbered :=
  Item.alt_numbered (List.forall_mem_cons.mpr ⟨Item.seq_numbered h.items, h.branches⟩)

theorem withItems (h : b.Numbered) {is : List Item} (flags : Flags) (his : ∀ i ∈ is, i.expr.Numbered) :
    Builder.Numbered { b with items := is, flags } :=
  ⟨his, h.branches, h.stack⟩

theorem push (h : b.Numbered) {r : Regular} (hr : r.Numbered) (depth : Nat) : (b.push r depth).Numbered :=
  h.withItems b.flags (List.forall_mem_cons.mpr ⟨hr, h.items⟩)

theorem repeatLast (h : b.Numbered) {lo hi lazy} (hr : b.repeatLast lo hi lazy = .ok b') : b'.Numbered := by
  unfold Builder.repeatLast at hr
  split at hr
  · cases hr
  · rename_i i rest hi
    split at hr
    · cases hr
      have his := h.items
      rw [hi] at his
      obtain ⟨hi, hrest⟩ := List.forall_mem_cons.mp his
      exact h.withItems b.flags (List.forall_mem_cons.mpr ⟨repeated_numbered _ _ _ hi, hrest⟩)
    · cases hr

theorem openGroup (h : b.Numbered) (flags : Flags) {index : Option Nat} (hi : index ≠ some 0) :
    (b.openGroup flags index).Numbered :=
  ⟨by simp [Builder.openGroup], by simp [Builder.openGroup],
    List.forall_mem_cons.mpr ⟨⟨h.items, h.branches, hi⟩, h.stack⟩⟩

theorem openCapture (h : b.Numbered) : b.openCapture.Numbered := by
  have hi : some (b.groups + 1) ≠ some 0 := by simp
  have ho := h.openGroup b.flags hi
  exact ⟨ho.items, ho.branches, ho.stack⟩

theorem closeGroup (h : b.Numbered) (hc : b.closeGroup = .ok b') : b'.Numbered := by
  unfold Builder.closeGroup at hc
  split at hc
  · cases hc
  · rename_i g stack hs
    cases hc
    have hst := h.stack
    rw [hs] at hst
    obtain ⟨⟨hi, hb, hg⟩, hrest⟩ := List.forall_mem_cons.mp hst
    refine ⟨List.forall_mem_cons.mpr ⟨?_, hi⟩, hb, hrest⟩
    cases hx : g.index with
    | none => exact h.finish
    | some i => exact .group (fun h0 => hg (by rw [hx, h0])) h.finish

theorem readNamed (h : b.Numbered) {cs rest} (hr : (do
      let (name, rest) ← readName [] cs
      if b.names.contains name then throw .badName
      return ({ b.openCapture with names := name :: b.names }, rest)) = Except.ok (b', rest)) : b'.Numbered := by
  obtain ⟨⟨name, rest'⟩, _, hr⟩ := bind_eq_ok.mp hr
  simp only at hr
  split at hr
  · cases hr
  cases hr
  exact ⟨h.openCapture.items, h.openCapture.branches, h.openCapture.stack⟩

theorem readGroup (h : b.Numbered) {cs rest} (hr : Regular.readGroup b cs = .ok (b', rest)) :
    b'.Numbered := by
  unfold Regular.readGroup at hr
  simp only at hr
  split at hr
  · cases hr
  · cases hr
  · cases hr
  · cases hr
  · exact h.readNamed hr
  · exact h.readNamed hr
  · obtain ⟨⟨⟨flags, none_, mark⟩, rest'⟩, _, hr⟩ := bind_eq_ok.mp hr
    simp only at hr
    split at hr
    · split at hr
      · cases hr
      cases hr
      exact h.withItems flags (List.forall_mem_cons.mpr ⟨.empty, h.items⟩)
    · cases hr
      exact h.openGroup flags (by simp)
  · cases hr
    exact h.openCapture

end Builder.Numbered

theorem dot_numbered {flags : Flags} {r : Regular} (h : dot flags = .ok r) : r.Numbered := by
  unfold dot at h
  split at h
  · cases h
  · split at h
    · cases h; exact ofSet_numbered _ _
    · split at h <;> cases h <;> exact ofSet_numbered _ _

theorem literal_numbered (flags : Flags) (c : Char) : (literal flags c).Numbered := by
  unfold literal
  split
  · exact .text _
  · split
    · split
      · exact ofSet_numbered _ _
      · exact .text _
    · split
      · exact ofSet_numbered _ _
      · exact .text _

theorem toRegular_numbered {flags : Flags} {p : Primitive} {r : Regular} (h : p.toRegular flags = .ok r) :
    r.Numbered := by
  cases p with
  | literal c raw =>
      simp only [Primitive.toRegular] at h
      split at h
      · cases h
      · cases h; exact literal_numbered flags c
  | set s => cases h; exact ofSet_numbered _ _
  | look l => cases h; exact .look l

theorem readNext_numbered {b b' : Builder} {cs rest : List Char} (h : b.Numbered)
    (hr : readNext b cs = .ok (b', rest)) : b'.Numbered := by
  unfold readNext at hr
  split at hr
  · cases hr; exact h
  · split at hr
    · exact h.readGroup hr
    · obtain ⟨c, hc, hr⟩ := bind_eq_ok.mp hr
      cases hr; exact h.closeGroup hc
    · cases hr
      exact ⟨by simp, List.forall_mem_cons.mpr ⟨Item.seq_numbered h.items, h.branches⟩, h.stack⟩
    · obtain ⟨⟨s, rest'⟩, _, hr⟩ := bind_eq_ok.mp hr
      cases hr; exact h.push (ofSet_numbered _ _) _
    · obtain ⟨c, hc, hr⟩ := bind_eq_ok.mp hr
      cases hr; exact h.repeatLast hc
    · obtain ⟨c, hc, hr⟩ := bind_eq_ok.mp hr
      cases hr; exact h.repeatLast hc
    · obtain ⟨c, hc, hr⟩ := bind_eq_ok.mp hr
      cases hr; exact h.repeatLast hc
    · obtain ⟨⟨⟨lo, hi⟩, rest'⟩, _, hr⟩ := bind_eq_ok.mp hr
      obtain ⟨c, hc, hr⟩ := bind_eq_ok.mp hr
      cases hr; exact h.repeatLast hc
    · obtain ⟨⟨p, rest'⟩, _, hr⟩ := bind_eq_ok.mp hr
      obtain ⟨r, hp, hr⟩ := bind_eq_ok.mp hr
      cases hr; exact h.push (toRegular_numbered hp) _
    · obtain ⟨r, hd, hr⟩ := bind_eq_ok.mp hr
      cases hr; exact h.push (dot_numbered hd) _
    · cases hr; exact h.push (.look _) _
    · cases hr; exact h.push (.look _) _
    · obtain ⟨r, hp, hr⟩ := bind_eq_ok.mp hr
      cases hr; exact h.push (toRegular_numbered hp) _

theorem readAll_numbered {fuel : Nat} {b b' : Builder} {cs : List Char} (h : b.Numbered)
    (hr : readAll fuel b cs = .ok b') : b'.Numbered := by
  induction fuel generalizing b cs with
  | zero => cases hr
  | succ fuel ih =>
      unfold readAll at hr
      split at hr
      · cases hr; exact h
      · obtain ⟨⟨c, rest⟩, hc, hr⟩ := bind_eq_ok.mp hr
        exact ih (readNext_numbered h hc) hr

/-- A pattern's own groups are numbered from one on. -/
theorem parse_numbered {pattern : String} {r : Regular} (h : parse pattern = .ok r) : r.Numbered := by
  unfold parse at h
  obtain ⟨b, hb, h⟩ := bind_eq_ok.mp h
  simp only at h
  split at h
  · cases h
  split at h
  · cases h
  split at h
  · cases h
  cases h
  exact (readAll_numbered ⟨by simp, by simp, by simp⟩ hb).finish

end ModalLexer.Pattern.Regular
