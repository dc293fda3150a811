import ModalLexer.Pattern.Backtracking.Marks
import ModalLexer.Proofs.Pattern.Groups
import ModalLexer.Proofs.Pattern.Restart

/-!
Patterns whose searches agree with their matches. In the regular dialect all do. In the backtracking dialect two
features stand in the way: one moves the start of the match to where no match that is asked for starts, the other holds
at the start of the search only. Patterns without them compile to plain steps.
-/

namespace ModalLexer.Pattern

open Text

namespace Backtracking

/-! ## Marks -/

namespace Expr

theorem mem_marksAll {mark : Mark} {es : List Expr} : mark ∈ marksAll es ↔ ∃ e ∈ es, mark ∈ e.marks := by
  induction es with
  | nil => simp [marksAll]
  | cons e es ih => simp [marksAll, ih]

/-- It does not ask where the search began, no group in it is group zero, and it leaves the start of the match where it
is unless that may be moved. -/
structure Plain (moved : Bool) (e : Expr) : Prop where
  marks : ∀ mark ∈ e.marks, mark = .keepOut ∧ moved = true
  numbered : e.Numbered

variable {moved : Bool}

theorem plain_seq {es : List Expr} (h : (seq es).Plain moved) : ∀ e ∈ es, e.Plain moved :=
  fun e he => ⟨fun mark hm => h.marks mark (mem_marksAll.mpr ⟨e, he, hm⟩), numbered_seq.mp h.numbered e he⟩

theorem plain_alt {es : List Expr} (h : (alt es).Plain moved) : ∀ e ∈ es, e.Plain moved :=
  fun e he => ⟨fun mark hm => h.marks mark (mem_marksAll.mpr ⟨e, he, hm⟩), numbered_alt.mp h.numbered e he⟩

theorem plain_conditional {c y n : Expr} (h : (conditional c y n).Plain moved) :
    c.Plain moved ∧ y.Plain moved ∧ n.Plain moved := by
  obtain ⟨hc, hy, hn⟩ := numbered_conditional.mp h.numbered
  have hmarks := h.marks
  simp only [Expr.marks, List.forall_mem_append] at hmarks
  exact ⟨⟨hmarks.1.1, hc⟩, ⟨hmarks.1.2, hy⟩, ⟨hmarks.2, hn⟩⟩

end Expr

/-! ## Plain steps of plain expressions -/

variable {moved : Bool}

theorem delegate_plain {es : List Expr} {n : Node} (hes : ∀ e ∈ es, e.Numbered) (h : delegate es = .ok n) :
    n.Plain moved := by
  unfold delegate at h
  split at h
  · cases h
    split
    · exact .seq (by simp)
    · exact .text _
  · obtain ⟨r, hr, h⟩ := bind_eq_ok.mp h
    split at h
    · cases h; exact .set _
    · cases h
      refine .delegate (Regular.parse_numbered hr) fun h0 => ?_
      obtain ⟨e, he, h0⟩ := Expr.mem_groupsAll.mp h0
      exact hes e he h0

/-- The parts of an expression and their steps, which are plain where there are some. -/
def PlainParts (moved : Bool) (parts : List (Expr × Except Fault Node)) : Prop :=
  ∀ part ∈ parts, part.1.Numbered ∧ ∀ n, part.2 = .ok n → n.Plain moved

theorem PlainParts.subset {parts parts' : List (Expr × Except Fault Node)} (h : PlainParts moved parts)
    (hsub : parts' ⊆ parts) : PlainParts moved parts' :=
  fun part hp => h part (hsub hp)

theorem PlainParts.numbered {parts : List (Expr × Except Fault Node)} (h : PlainParts moved parts) :
    ∀ e ∈ parts.map (·.1), e.Numbered := by
  intro e he
  obtain ⟨part, hp, rfl⟩ := List.mem_map.mp he
  exact (h part hp).1

theorem collect_plain {parts : List (Expr × Except Fault Node)} {ns : List Node} (hparts : PlainParts moved parts)
    (h : collect parts = .ok ns) : ∀ n ∈ ns, n.Plain moved := by
  induction parts generalizing ns with
  | nil => cases h; simp
  | cons part parts ih =>
      obtain ⟨hpart, hparts⟩ := List.forall_mem_cons.mp hparts
      obtain ⟨n, hn, h⟩ := bind_eq_ok.mp h
      obtain ⟨ns, hns, h⟩ := bind_eq_ok.mp h
      cases h
      exact List.forall_mem_cons.mpr ⟨hpart.2 n hn, ih hparts hns⟩

theorem alternatives_plain {parts : List (Expr × Except Fault Node)} {n : Node} (hparts : PlainParts moved parts)
    (h : alternatives parts = .ok n) : n.Plain moved := by
  obtain ⟨ns, hns, h⟩ := bind_eq_ok.mp h
  cases h
  exact .alt (collect_plain hparts hns)

theorem sequence_plain {refs : List Nat} {hard : Bool} {parts : List (Expr × Except Fault Node)} {n : Node}
    (hparts : PlainParts moved parts) (h : sequence refs hard parts = .ok n) : n.Plain moved := by
  unfold sequence at h
  extract_lets fixed easy rest tail at h
  have hrest : rest ⊆ parts := (List.dropWhile_sublist _).subset
  have htail : tail ⊆ rest := fun part hp =>
    List.mem_reverse.mp ((List.takeWhile_sublist _).subset (List.mem_reverse.mp hp))
  obtain ⟨first, hfirst, h⟩ := bind_eq_ok.mp h
  obtain ⟨middle, hmiddle, h⟩ := bind_eq_ok.mp h
  obtain ⟨last, hlast, h⟩ := bind_eq_ok.mp h
  cases h
  have hf : first.Plain moved := delegate_plain (hparts.subset (List.takeWhile_sublist _).subset).numbered hfirst
  have hm := collect_plain (hparts.subset (List.Subset.trans (List.take_subset _ _) hrest)) hmiddle
  have hl : last.Plain moved := delegate_plain (hparts.subset (List.Subset.trans htail hrest)).numbered hlast
  exact .seq (List.forall_mem_cons.mpr ⟨hf, List.forall_mem_append.mpr ⟨hm, List.forall_mem_singleton.mpr hl⟩⟩)

theorem behindNode_plain {negated : Bool} {e : Expr} {body : Except Fault Node} {n : Node}
    (hbody : ∀ n, body = .ok n → n.Plain moved) (h : behindNode negated e body = .ok n) : n.Plain moved := by
  unfold behindNode at h
  split at h
  · cases h
  · obtain ⟨n, hn, h⟩ := bind_eq_ok.mp h
    cases h
    exact .around (hbody n hn)

/-- An easy expression is left to an automaton. -/
theorem ite_plain {c : Prop} [Decidable c] {e : Expr} {x : Except Fault Node} {n : Node} (he : e.Plain moved)
    (h : (if c then delegate [e] else x) = .ok n) (hx : x = .ok n → n.Plain moved) : n.Plain moved := by
  split at h
  · exact delegate_plain (List.forall_mem_singleton.mpr he.numbered) h
  · exact hx h

mutual

theorem node_plain {refs : List Nat} : (hard : Bool) → (e : Expr) → e.Plain moved → (n : Node) →
    node refs hard e = .ok n → n.Plain moved
  | _, .empty, he, n, h => by
      simp only [node] at h
      refine ite_plain he h fun h => ?_
      cases h
      exact .seq (by simp)
  | _, .any newline, he, n, h => by
      simp only [node] at h
      refine ite_plain he h fun h => ?_
      cases h
      exact .any newline
  | _, .literal c ignoreCase, he, n, h => by
      simp only [node] at h
      exact ite_plain he h fun h => delegate_plain (List.forall_mem_singleton.mpr he.numbered) h
  | _, .written text ignoreCase, he, n, h => by
      simp only [node] at h
      exact ite_plain he h fun h => delegate_plain (List.forall_mem_singleton.mpr he.numbered) h
  | _, .look l, he, n, h => by
      simp only [node] at h
      refine ite_plain he h fun h => ?_
      cases h
      exact .check l
  | hard, .seq es, he, n, h => by
      simp only [node] at h
      exact ite_plain he h fun h => sequence_plain (nodes_plain true es (Expr.plain_seq he)) h
  | hard, .alt es, he, n, h => by
      simp only [node] at h
      exact ite_plain he h fun h => alternatives_plain (nodes_plain hard es (Expr.plain_alt he)) h
  | hard, .group i e, he, n, h => by
      simp only [node] at h
      refine ite_plain he h fun h => ?_
      obtain ⟨body, hbody, h⟩ := bind_eq_ok.mp h
      cases h
      obtain ⟨own, hnumbered⟩ := Expr.numbered_group.mp he.numbered
      exact .group own (node_plain hard e ⟨he.marks, hnumbered⟩ body hbody)
  | hard, .loop lo hi greedy e, he, n, h => by
      simp only [node] at h
      refine ite_plain he h fun h => ?_
      obtain ⟨body, hbody, h⟩ := bind_eq_ok.mp h
      cases h
      exact .loop (node_plain _ e ⟨he.marks, he.numbered⟩ body hbody)
  | hard, .ahead negated e, he, n, h => by
      simp only [node] at h
      refine ite_plain he h fun h => ?_
      obtain ⟨body, hbody, h⟩ := bind_eq_ok.mp h
      cases h
      exact .around (node_plain false e ⟨he.marks, he.numbered⟩ body hbody)
  | hard, .behind negated e, he, n, h => by
      have he' : e.Plain moved := ⟨he.marks, he.numbered⟩
      have hbody : ∀ n, node refs false e = .ok n → n.Plain moved := node_plain false e he'
      cases e with
      | alt es =>
          have hes := Expr.plain_alt he'
          simp only [node] at h
          refine ite_plain he h fun h => ?_
          split at h
          · refine behindNode_plain (fun n hn => ?_) h
            split at hn
            · exact alternatives_plain (nodes_plain false es hes) hn
            · exact delegate_plain (List.forall_mem_singleton.mpr he'.numbered) hn
          · obtain ⟨each, heach, h⟩ := bind_eq_ok.mp h
            cases h
            have heach := collect_plain (behindNodes_plain es hes) heach
            split
            · exact .seq heach
            · exact .alt heach
      | _ =>
          unfold node at h
          exact ite_plain he h fun h => behindNode_plain hbody h
  | _, .backref i, he, n, h => by
      simp only [node] at h
      refine ite_plain he h fun h => ?_
      cases h
      exact .backref i
  | _, .matched i, he, n, h => by
      simp only [node] at h
      refine ite_plain he h fun h => ?_
      cases h
      exact .matched i
  | hard, .atomic e, he, n, h => by
      simp only [node] at h
      refine ite_plain he h fun h => ?_
      obtain ⟨body, hbody, h⟩ := bind_eq_ok.mp h
      cases h
      exact .atomic (node_plain false e ⟨he.marks, he.numbered⟩ body hbody)
  | hard, .conditional c y n, he, m, h => by
      simp only [node] at h
      refine ite_plain he h fun h => ?_
      obtain ⟨hc, hy, hn⟩ := Expr.plain_conditional he
      obtain ⟨cond, hcond, h⟩ := bind_eq_ok.mp h
      obtain ⟨yes, hyes, h⟩ := bind_eq_ok.mp h
      obtain ⟨no, hno, h⟩ := bind_eq_ok.mp h
      cases h
      exact .conditional (node_plain hard c hc cond hcond) (node_plain hard y hy yes hyes)
        (node_plain hard n hn no hno)
  | _, .keepOut, he, n, h => by
      simp only [node] at h
      refine ite_plain he h fun h => ?_
      cases h
      exact .keepOut (he.marks .keepOut (by simp [Expr.marks])).2
  | _, .searchStart, he, n, h => by cases (he.marks .searchStart (by simp [Expr.marks])).1

theorem nodes_plain {refs : List Nat} : (hard : Bool) → (es : List Expr) → (∀ e ∈ es, e.Plain moved) →
    PlainParts moved (nodes refs hard es)
  | _, [], _ => by simp [PlainParts, nodes]
  | hard, e :: es, hes => by
      obtain ⟨he, hes⟩ := List.forall_mem_cons.mp hes
      simp only [nodes]
      exact List.forall_mem_cons.mpr ⟨⟨he.numbered, node_plain hard e he⟩, nodes_plain hard es hes⟩

theorem behindNodes_plain {refs : List Nat} {negated : Bool} : (es : List Expr) → (∀ e ∈ es, e.Plain moved) →
    PlainParts moved (behindNodes refs negated es)
  | [], _ => by simp [PlainParts, behindNodes]
  | e :: es, hes => by
      obtain ⟨he, hes⟩ := List.forall_mem_cons.mp hes
      simp only [behindNodes]
      exact List.forall_mem_cons.mpr ⟨⟨he.numbered, fun n => behindNode_plain (node_plain false e he)⟩,
        behindNodes_plain es hes⟩

end

end Backtracking

/-! ## Patterns -/

theorem compileRegular_leftmost {source : String} {m : Matcher} (h : compileRegular source = .ok m) (text : String) :
    m.Leftmost text := by
  obtain ⟨r, hr, h⟩ := bind_eq_ok.mp h
  cases h
  exact regularMatcher_leftmost (Regular.parse_numbered hr) text

theorem compileBacktracking_dialect {source : String} {m : Matcher} (h : compileBacktracking source = .ok m) :
    m.dialect = .backtracking := by
  obtain ⟨p, _, h⟩ := bind_eq_ok.mp h
  simp only at h
  split at h
  · cases h
  split at h
  · obtain ⟨body, _, h⟩ := bind_eq_ok.mp h
    cases h
    rfl
  · obtain ⟨r, _, h⟩ := bind_eq_ok.mp h
    cases h
    rfl

/-- The search of a pattern that does not ask where it began. -/
theorem compileBacktracking_resumes {p : Pattern} {multiLine : Bool} {m : Matcher} (moved : Bool)
    (h : compileBacktracking (p.source multiLine) = .ok m) (unasked : .searchStart ∉ p.marks multiLine)
    (unmoved : moved = false → .keepOut ∉ p.marks multiLine) :
    ∃ groupCount groups search, m = searchingMatcher groupCount groups search ∧
      ∀ text, Resumes moved text (search text) := by
  obtain ⟨q, hq, h⟩ := bind_eq_ok.mp h
  have hmarks : p.marks multiLine = q.expr.marks := by simp only [marks, hq]
  have hplain : q.expr.Plain moved := by
    refine ⟨fun mark hm => ?_, Backtracking.parse_expr_numbered hq⟩
    rw [← hmarks] at hm
    cases mark with
    | searchStart => exact absurd hm unasked
    | keepOut =>
        cases moved with
        | false => exact absurd hm (unmoved rfl)
        | true => exact ⟨rfl, rfl⟩
  simp only at h
  split at h
  · cases h
  split at h
  · obtain ⟨body, hbody, h⟩ := bind_eq_ok.mp h
    cases h
    have hbody := Backtracking.node_plain true q.expr hplain body hbody
    exact ⟨_, _, _, rfl, Backtracking.Program.search_resumes hbody (Nat.succ_pos _)⟩
  · obtain ⟨r, hr, h⟩ := bind_eq_ok.mp h
    cases h
    exact ⟨_, _, _, rfl, fun text => (Automaton.search_resumes (Regular.parse_numbered hr) text).weaken moved⟩

theorem compile_eq_ok {p : Pattern} {multiLine : Bool} {m : Matcher} (h : p.compile multiLine = .ok m) :
    compileRegular (p.source multiLine) = .ok m ∨ compileBacktracking (p.source multiLine) = .ok m := by
  unfold compile at h
  simp only at h
  split at h
  · exact .inl (mapError_eq_ok.mp h)
  · exact .inr (mapError_eq_ok.mp h)
  · split at h
    next hm => cases h; exact .inl hm
    · exact .inr (mapError_eq_ok.mp h)

theorem compile_leftmost_of_unmarked {p : Pattern} {multiLine : Bool} {m : Matcher} (h : p.compile multiLine = .ok m)
    (unmarked : p.marks multiLine = []) (text : String) : m.Leftmost text := by
  rcases compile_eq_ok h with h | h
  · exact compileRegular_leftmost h text
  · obtain ⟨_, _, _, rfl, hresumes⟩ := compileBacktracking_resumes false h (by simp [unmarked]) (by simp [unmarked])
    exact searchingMatcher_leftmost (hresumes text)

/-- Whatever compiles finds nothing in a text only where there is no match, and searches it as it matches. But a
pattern that is matched by backtracking must not ask where the search began, nor, for the second, move the start of the
match. -/
theorem compile_leftmost {p : Pattern} {multiLine : Bool} {m : Matcher} (h : p.compile multiLine = .ok m)
    (unasked : m.dialect = .backtracking → .searchStart ∉ p.marks multiLine) (text : String) :
    m.Conclusive text ∧ ((m.dialect = .backtracking → .keepOut ∉ p.marks multiLine) → m.Leftmost text) := by
  rcases compile_eq_ok h with h | h
  · have hm := compileRegular_leftmost h text
    exact ⟨hm.nothing, fun _ => hm⟩
  · have hdialect := compileBacktracking_dialect h
    constructor
    · obtain ⟨_, _, _, rfl, hresumes⟩ := compileBacktracking_resumes true h (unasked hdialect) (by simp)
      exact searchingMatcher_conclusive (hresumes text)
    · intro unmoved
      obtain ⟨_, _, _, rfl, hresumes⟩ :=
        compileBacktracking_resumes false h (unasked hdialect) fun _ => unmoved hdialect
      exact searchingMatcher_leftmost (hresumes text)

/-- A word in quotes of either kind, after a colon: the pattern looks behind and refers back. -/
theorem compile_leftmost_quoted : ∃ m, compile { text := "(?<=:)('|\")[a-z]*\\1" } true = .ok m ∧
    m.dialect = .backtracking ∧ m.Leftmost "'x':'né'\"y':\"z\"" := by
  have dialect : ((compile { text := "(?<=:)('|\")[a-z]*\\1" } true).toOption.map (·.dialect)) =
      some .backtracking := by decide +kernel
  obtain ⟨m, h, hdialect⟩ := Option.map_eq_some_iff.mp dialect
  have h := toOption_eq_some.mp h
  have hleftmost := (compile_leftmost h (fun _ => by decide +kernel) "'x':'né'\"y':\"z\"").2
  exact ⟨m, h, hdialect, hleftmost fun _ => by decide +kernel⟩

/-- What is found at one is not there when it is asked for, since its match begins at zero; and what is not found from
zero on is there at one, where it begins a search of its own. -/
theorem marked_not_leftmost :
    (∃ m, compile { text := "a\\Kb" } true = .ok m ∧ m.next "ab" 0 = .ok (some 1) ∧ m.find "ab" 1 = .ok none ∧
      ¬ m.Leftmost "ab") ∧
    ∃ m, compile { text := "\\Ga" } true = .ok m ∧ m.next "ba" 0 = .ok none ∧ m.find "ba" 1 = .ok (some ⟨1, 2⟩) ∧
      ¬ m.Leftmost "ba" := by
  constructor
  · have h : ((compile { text := "a\\Kb" } true).toOption.map fun m =>
        ((m.next "ab" 0).toOption, (m.find "ab" 1).toOption)) = some (some (some 1), some none) := by decide +kernel
    obtain ⟨m, h, hm⟩ := Option.map_eq_some_iff.mp h
    obtain ⟨hnext, hfind⟩ := Prod.mk.inj hm
    have hnext := toOption_eq_some.mp hnext
    have hfind := toOption_eq_some.mp hfind
    refine ⟨m, toOption_eq_some.mp h, hnext, hfind, fun hl => ?_⟩
    obtain ⟨_, ⟨span, hspan, _⟩, _⟩ := hl.found (isBoundary_zero "ab") hnext
    cases hfind.symm.trans hspan
  · have h : ((compile { text := "\\Ga" } true).toOption.map fun m =>
        ((m.next "ba" 0).toOption, (m.find "ba" 1).toOption)) = some (some none, some (some ⟨1, 2⟩)) := by
      decide +kernel
    obtain ⟨m, h, hm⟩ := Option.map_eq_some_iff.mp h
    obtain ⟨hnext, hfind⟩ := Prod.mk.inj hm
    have hnext := toOption_eq_some.mp hnext
    have hfind := toOption_eq_some.mp hfind
    refine ⟨m, toOption_eq_some.mp h, hnext, hfind, fun hl => ?_⟩
    have hnone := hl.nothing 0 (isBoundary_zero "ba") hnext 1 (by decide) (by decide +kernel)
    cases hfind.symm.trans hnone

end ModalLexer.Pattern
