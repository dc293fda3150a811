import Mathlib.Logic.Basic
import ModalLexer.Proofs.Outcome
import ModalLexer.Pattern.Backtracking.Parser

/-!
Group zero is the whole match in the backtracking dialect, too: a group that a pattern opens gets a number from one on,
whatever reader has read it.
-/

namespace ModalLexer.Pattern.Backtracking

theorem Expr.mem_groupsAll {i : Nat} {es : List Expr} : i ∈ groupsAll es ↔ ∃ e ∈ es, i ∈ e.groups := by
  induction es with
  | nil => simp [groupsAll]
  | cons e es ih => simp [groupsAll, ih]

/-- No group in the expression is group zero. -/
def Expr.Numbered (e : Expr) : Prop :=
  0 ∉ e.groups

theorem Expr.numbered_seq {es : List Expr} : (Expr.seq es).Numbered ↔ ∀ e ∈ es, e.Numbered := by
  simp [Numbered, groups, mem_groupsAll]

theorem Expr.numbered_alt {es : List Expr} : (Expr.alt es).Numbered ↔ ∀ e ∈ es, e.Numbered := by
  simp [Numbered, groups, mem_groupsAll]

theorem Expr.numbered_conditional {c y n : Expr} :
    (Expr.conditional c y n).Numbered ↔ c.Numbered ∧ y.Numbered ∧ n.Numbered := by
  simp [Numbered, groups]

theorem Expr.numbered_group {i : Nat} {e : Expr} : (Expr.group i e).Numbered ↔ i ≠ 0 ∧ e.Numbered := by
  simp [Numbered, groups, eq_comm]

theorem Expr.numbered_of_groups {e : Expr} (h : e.groups = []) : e.Numbered := by
  simp [Numbered, h]

/-- What the reader of a nested expression reads. -/
def SubReader.Numbers (sub : SubReader) : Prop :=
  ∀ {r r' : Reader} {e : Expr}, sub.read r = .ok (e, r') → e.Numbered

variable {sub : SubReader} {r r' : Reader} {e : Expr}

/-! ## Atoms -/

theorem backref_numbered {n : Nat} (h : r.backref n = .ok (e, r')) : e.Numbered := by
  unfold Reader.backref at h
  split at h
  · cases h; exact Expr.numbered_of_groups rfl
  · cases h

theorem readEscape_numbered {flags : Flags} {inClass : Bool} {cs rest : List Char}
    (h : readEscape flags inClass cs = .ok (.other e, rest)) : e.Numbered := by
  unfold readEscape at h
  split at h
  · cases h
  · simp only at h
    split at h
    -- Most escapes are read at once; what is left are word boundaries, numbers, and the classes and letters.
    all_goals try (cases h <;> exact Expr.numbered_of_groups rfl)
    · split at h
      · cases h
      · cases h; exact Expr.numbered_of_groups rfl
    · split at h
      · cases h
      · cases h; exact Expr.numbered_of_groups rfl
    · obtain ⟨_, _, h⟩ := bind_eq_ok.mp h; cases h
    · obtain ⟨_, _, h⟩ := bind_eq_ok.mp h; cases h
    · obtain ⟨_, _, h⟩ := bind_eq_ok.mp h; cases h
    · split at h
      · cases h
      · split at h
        · obtain ⟨_, _, h⟩ := bind_eq_ok.mp h; cases h
        · split at h <;> cases h

theorem readClass_numbered {flags : Flags} {cs rest : List Char} (h : readClass flags cs = .ok (e, rest)) :
    e.Numbered := by
  obtain ⟨_, _, h⟩ := bind_eq_ok.mp h
  cases h
  exact Expr.numbered_of_groups rfl

theorem readAtomEscape_numbered (h : readAtomEscape r = .ok (e, r')) : e.Numbered := by
  unfold readAtomEscape at h
  simp only at h
  split at h
  · obtain ⟨_, _, h⟩ := bind_eq_ok.mp h
    exact backref_numbered h
  · obtain ⟨_, _, h⟩ := bind_eq_ok.mp h
    exact backref_numbered h
  · split at h
    · obtain ⟨_, _, h⟩ := bind_eq_ok.mp h
      exact backref_numbered h
    · obtain ⟨⟨escape, rest⟩, hescape, h⟩ := bind_eq_ok.mp h
      cases escape with
      | literal c fold => cases h; exact Expr.numbered_of_groups rfl
      | set text fold => cases h; exact Expr.numbered_of_groups rfl
      | other e => cases h; exact readEscape_numbered hescape
  · cases h

/-! ## Groups -/

theorem readBody_numbered (hsub : sub.Numbers) {build : Expr → Expr} (h : readBody sub r build = .ok (e, r'))
    (hbuild : ∀ e, e.Numbered → (build e).Numbered) : e.Numbered := by
  obtain ⟨⟨body, r₁⟩, hbody, h⟩ := bind_eq_ok.mp h
  obtain ⟨_, _, h⟩ := bind_eq_ok.mp h
  cases h
  exact hbuild body (hsub hbody)

/-- The number of a group is one more than the number of groups before it. -/
theorem readBody_group (hsub : sub.Numbers) {n : Nat} (h : readBody sub r (.group (n + 1)) = .ok (e, r')) :
    e.Numbered :=
  readBody_numbered hsub h fun _ hbody => Expr.numbered_group.mpr ⟨Nat.succ_ne_zero n, hbody⟩

/-- The two branches of what stands after a test. -/
theorem readConditional_branches {body : Expr} (h : body.Numbered) :
    ∀ yes no, (match body with
      | .alt [yes, no] => (yes, no)
      | .alt (yes :: rest) => (yes, .alt rest)
      | e => (e, .empty)) = (yes, no) → yes.Numbered ∧ no.Numbered := by
  intro yes no hsplit
  split at hsplit
  · cases hsplit
    simpa using Expr.numbered_alt.mp h
  · cases hsplit
    obtain ⟨hyes, hrest⟩ := List.forall_mem_cons.mp (Expr.numbered_alt.mp h)
    exact ⟨hyes, Expr.numbered_alt.mpr hrest⟩
  · cases hsplit
    exact ⟨h, Expr.numbered_of_groups rfl⟩

/-- What stands after a test, whatever test it is. -/
theorem readConditional_rest (hsub : sub.Numbers) {group : Option Nat} {cond : Expr} (hcond : cond.Numbered)
    (h : (do
      let r ← r.close
      let start := r.rest.length
      let (body, r) ← sub.read r
      if r.rest.length = start then
        if group.isNone then throw Fault.missingOperand
        return (cond, ← r.close)
      let (yes, no) := match body with
        | .alt [yes, no] => (yes, no)
        | .alt (yes :: rest) => (yes, .alt rest)
        | e => (e, .empty)
      let r ← r.close
      if yes.isEmpty ∧ no.isEmpty then return (cond, r)
      return (.conditional cond yes no, r)) = .ok (e, r')) : e.Numbered := by
  obtain ⟨r₁, _, h⟩ := bind_eq_ok.mp h
  obtain ⟨⟨body, r₂⟩, hbody, h⟩ := bind_eq_ok.mp h
  obtain ⟨hyes, hno⟩ := readConditional_branches (hsub hbody) _ _ rfl
  simp only at h
  generalize (match body with
    | .alt [yes, no] => (yes, no)
    | .alt (yes :: rest) => (yes, Expr.alt rest)
    | e => (e, Expr.empty)) = branches at h hyes hno
  split at h
  · split at h
    · cases h
    · obtain ⟨_, _, h⟩ := bind_eq_ok.mp h
      cases h
      exact hcond
  · obtain ⟨r₃, _, h⟩ := bind_eq_ok.mp h
    split at h
    · cases h
      exact hcond
    · cases h
      exact Expr.numbered_conditional.mpr ⟨hcond, hyes, hno⟩

theorem readConditional_numbered (hsub : sub.Numbers) (h : readConditional sub r = .ok (e, r')) : e.Numbered := by
  have hgroup {found : Nat × Reader} {test : Option Nat × Expr × Reader}
      (ht : (if found.1 ≤ found.2.groups then .ok (some found.1, .matched found.1, found.2)
        else .error .backReference : Except Fault (Option Nat × Expr × Reader)) = .ok test) : test.2.1.Numbered := by
    split at ht
    · cases ht; exact Expr.numbered_of_groups rfl
    · cases ht
  unfold readConditional at h
  simp only at h
  split at h
  · obtain ⟨_, _, h⟩ := bind_eq_ok.mp h
    obtain ⟨_, ht, h⟩ := bind_eq_ok.mp h
    exact readConditional_rest hsub (hgroup ht) h
  · obtain ⟨_, _, h⟩ := bind_eq_ok.mp h
    obtain ⟨_, ht, h⟩ := bind_eq_ok.mp h
    exact readConditional_rest hsub (hgroup ht) h
  · split at h
    · obtain ⟨_, _, h⟩ := bind_eq_ok.mp h
      obtain ⟨_, ht, h⟩ := bind_eq_ok.mp h
      exact readConditional_rest hsub (hgroup ht) h
    · obtain ⟨test, hcond, h⟩ := bind_eq_ok.mp h
      split at h
      · refine readConditional_rest hsub ?_ h
        exact Expr.numbered_of_groups rfl
      · refine readConditional_rest hsub ?_ h
        exact hsub hcond
  · cases h

theorem readFlags_numbered (hsub : sub.Numbers) {before : Flags} {fuel count : Nat} {negated : Bool}
    (h : readFlags sub before fuel count negated r = .ok (e, r')) : e.Numbered := by
  induction fuel generalizing r count negated with
  | zero => cases h
  | succ fuel ih =>
      unfold readFlags at h
      obtain ⟨skipped, _, h⟩ := bind_eq_ok.mp h
      simp only at h
      split at h
      · cases h
      · exact ih h
      · exact ih h
      · exact ih h
      · exact ih h
      · exact ih h
      · split at h
        · cases h
        · exact ih h
      · split at h
        · cases h
        · exact ih h
      · split at h
        · cases h
        · cases h; exact Expr.numbered_of_groups rfl
      · split at h
        · cases h
        · obtain ⟨⟨body, r₁⟩, hbody, h⟩ := bind_eq_ok.mp h
          simp only at h
          split at h
          · cases h; exact hsub hbody
          · cases h
      · cases h

theorem readNamed_numbered (hsub : sub.Numbers)
    (h : (match readName? "<" ">" r.rest with
      | some (name, rest) =>
        readBody sub { r.openGroup (some name) with rest } (.group (r.openGroup (some name)).groups)
      | none => .error .badName) = .ok (e, r')) : e.Numbered := by
  split at h
  · exact readBody_group hsub h
  · cases h

theorem readGroup_numbered (hsub : sub.Numbers) (h : readGroup sub r = .ok (e, r')) : e.Numbered := by
  unfold readGroup at h
  rcases ite_eq_iff.mp h with ⟨_, h⟩ | ⟨_, h⟩
  · cases h
  obtain ⟨r, _, h⟩ := bind_eq_ok.mp h
  extract_lets named at h
  rcases ite_eq_iff.mp h with ⟨_, h⟩ | ⟨_, h⟩
  · exact readBody_numbered hsub h fun _ he => he
  rcases ite_eq_iff.mp h with ⟨_, h⟩ | ⟨_, h⟩
  · exact readBody_numbered hsub h fun _ he => he
  rcases ite_eq_iff.mp h with ⟨_, h⟩ | ⟨_, h⟩
  · exact readBody_numbered hsub h fun _ he => he
  rcases ite_eq_iff.mp h with ⟨_, h⟩ | ⟨_, h⟩
  · exact readBody_numbered hsub h fun _ he => he
  rcases ite_eq_iff.mp h with ⟨_, h⟩ | ⟨_, h⟩
  · exact readNamed_numbered hsub h
  rcases ite_eq_iff.mp h with ⟨_, h⟩ | ⟨_, h⟩
  · exact readNamed_numbered hsub h
  rcases ite_eq_iff.mp h with ⟨_, h⟩ | ⟨_, h⟩
  · obtain ⟨_, _, h⟩ := bind_eq_ok.mp h
    exact backref_numbered h
  rcases ite_eq_iff.mp h with ⟨_, h⟩ | ⟨_, h⟩
  · exact readBody_numbered hsub h fun _ he => he
  rcases ite_eq_iff.mp h with ⟨_, h⟩ | ⟨_, h⟩
  · exact readConditional_numbered hsub h
  rcases ite_eq_iff.mp h with ⟨_, h⟩ | ⟨_, h⟩
  · exact readFlags_numbered hsub h
  · exact readBody_group hsub h

/-! ## Sequences and alternatives -/

theorem readAtom_numbered (hsub : sub.Numbers) (h : readAtom sub r = .ok (e, r')) : e.Numbered := by
  unfold readAtom at h
  obtain ⟨r, _, h⟩ := bind_eq_ok.mp h
  split at h
  · cases h; exact Expr.numbered_of_groups rfl
  simp only at h
  split at h
  · cases h; exact Expr.numbered_of_groups rfl
  · cases h; exact Expr.numbered_of_groups rfl
  · cases h; exact Expr.numbered_of_groups rfl
  · exact readGroup_numbered hsub h
  · exact readAtomEscape_numbered h
  · obtain ⟨⟨e, rest⟩, hclass, h⟩ := bind_eq_ok.mp h
    cases h
    exact readClass_numbered hclass
  · cases h; exact Expr.numbered_of_groups rfl
  · cases h; exact Expr.numbered_of_groups rfl
  · cases h; exact Expr.numbered_of_groups rfl
  · cases h; exact Expr.numbered_of_groups rfl
  · cases h; exact Expr.numbered_of_groups rfl
  · cases h; exact Expr.numbered_of_groups rfl

theorem readRepetition_numbered {body : Expr} (hbody : body.Numbered) {lo : Nat} {hi : Option Nat}
    (h : readRepetition body lo hi r = .ok (e, r')) : e.Numbered := by
  unfold readRepetition at h
  split at h
  · cases h
  obtain ⟨_, _, h⟩ := bind_eq_ok.mp h
  simp only at h
  split at h
  · cases h; exact hbody
  · cases h; exact hbody

theorem readPiece_numbered (hsub : sub.Numbers) (h : readPiece sub r = .ok (e, r')) : e.Numbered := by
  unfold readPiece at h
  obtain ⟨⟨atom, r₁⟩, hatom, h⟩ := bind_eq_ok.mp h
  have hatom := readAtom_numbered hsub hatom
  obtain ⟨r₂, _, h⟩ := bind_eq_ok.mp h
  split at h
  · exact readRepetition_numbered hatom h
  · exact readRepetition_numbered hatom h
  · exact readRepetition_numbered hatom h
  · split at h
    · exact readRepetition_numbered hatom h
    · cases h; exact hatom
  · cases h; exact hatom

theorem readPieces_numbered (hsub : sub.Numbers) {fuel : Nat} {done es : List Expr} (hdone : ∀ e ∈ done, e.Numbered)
    (h : readPieces sub fuel done r = .ok (es, r')) : ∀ e ∈ es, e.Numbered := by
  induction fuel generalizing done r with
  | zero => cases h; exact hdone
  | succ fuel ih =>
      unfold readPieces at h
      split at h
      · cases h; exact hdone
      · obtain ⟨⟨piece, next⟩, hpiece, h⟩ := bind_eq_ok.mp h
        have hpiece := readPiece_numbered hsub hpiece
        simp only at h
        split at h
        · cases h; exact hdone
        · split at h
          · exact ih hdone h
          · exact ih (List.forall_mem_cons.mpr ⟨hpiece, hdone⟩) h

theorem readBranch_numbered (hsub : sub.Numbers) (h : readBranch sub r = .ok (e, r')) : e.Numbered := by
  unfold readBranch at h
  obtain ⟨⟨es, r₁⟩, hpieces, h⟩ := bind_eq_ok.mp h
  have hes := readPieces_numbered hsub (by simp) hpieces
  split at h
  next heq => cases heq; cases h; exact Expr.numbered_of_groups rfl
  next heq => cases heq; cases h; exact hes _ (List.mem_singleton_self _)
  next heq => cases heq; cases h; exact Expr.numbered_seq.mpr (by simpa using hes)

theorem readBranches_numbered (hsub : sub.Numbers) {fuel : Nat} {done es : List Expr}
    (hdone : ∀ e ∈ done, e.Numbered) (h : readBranches sub fuel done r = .ok (es, r')) : ∀ e ∈ es, e.Numbered := by
  induction fuel generalizing done r with
  | zero => cases h; exact hdone
  | succ fuel ih =>
      unfold readBranches at h
      split at h
      · obtain ⟨⟨branch, r₁⟩, hbranch, h⟩ := bind_eq_ok.mp h
        obtain ⟨_, _, h⟩ := bind_eq_ok.mp h
        exact ih (List.forall_mem_cons.mpr ⟨readBranch_numbered hsub hbranch, hdone⟩) h
      · cases h; exact hdone

theorem readAlternatives_numbered (hsub : sub.Numbers) (h : readAlternatives sub r = .ok (e, r')) : e.Numbered := by
  unfold readAlternatives at h
  obtain ⟨⟨first, r₁⟩, hfirst, h⟩ := bind_eq_ok.mp h
  obtain ⟨r₂, _, h⟩ := bind_eq_ok.mp h
  obtain ⟨⟨es, r₃⟩, hbranches, h⟩ := bind_eq_ok.mp h
  have hes := readBranches_numbered hsub (List.forall_mem_singleton.mpr (readBranch_numbered hsub hfirst)) hbranches
  split at h
  next heq =>
    cases heq
    split at h
    · cases h
    · cases h; exact hes _ (List.mem_singleton_self _)
  next heq => cases heq; cases h; exact Expr.numbered_alt.mpr (by simpa using hes)

theorem readNested_numbered {depth : Nat} (h : readNested depth r = .ok (e, r')) : e.Numbered := by
  induction depth generalizing r r' e with
  | zero =>
      have hsub : SubReader.Numbers none := fun h => by cases h
      exact readAlternatives_numbered hsub h
  | succ depth ih =>
      have hsub : SubReader.Numbers (some (readNested depth)) := fun h => ih h
      exact readAlternatives_numbered hsub h

/-- A pattern's own groups are numbered from one on. -/
theorem parse_expr_numbered {pattern : String} {p : Parsed} (h : parse pattern = .ok p) : p.expr.Numbered := by
  obtain ⟨⟨e, r⟩, hread, h⟩ := bind_eq_ok.mp h
  simp only at h
  split at h
  · cases h
  · cases h; exact readNested_numbered hread

end ModalLexer.Pattern.Backtracking
