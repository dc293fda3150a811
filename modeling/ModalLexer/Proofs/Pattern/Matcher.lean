import ModalLexer.Pattern.Basic
import ModalLexer.Proofs.Pattern.Machine

/-!
What can be relied on of a compiled pattern, whichever dialect it was written in: a match that is asked for at
an offset starts there and ends no earlier, the match and all its groups lie between boundaries, and the match is the
same whether or not its groups are asked for.
-/

namespace ModalLexer

open Text (Span isBoundary)

/-- A matcher whose matches are places of the text. -/
structure Matcher.Sound (m : Matcher) : Prop where
  find {text pos span} : isBoundary text pos = true → m.find text pos = .ok (some span) →
    span.start = pos ∧ pos ≤ span.stop ∧ isBoundary text span.stop = true
  whole {text pos groups span} : isBoundary text pos = true → m.captures text pos = .ok (some groups) →
    groups.head? = some (some span) → span.start = pos ∧ pos ≤ span.stop
  groups {text pos groups} : isBoundary text pos = true → m.captures text pos = .ok (some groups) →
    ∀ span, some span ∈ groups → isBoundary text span.start = true ∧ isBoundary text span.stop = true

namespace Pattern

theorem spanOf_eq_some {slots : Slots} {i : Nat} {span : Span} (h : spanOf slots i = some span) :
    slots[2 * i]? = some (some span.start) ∧ slots[2 * i + 1]? = some (some span.stop) := by
  unfold spanOf at h
  obtain ⟨start, hstart, h⟩ := Option.bind_eq_some_iff.mp h
  obtain ⟨stop, hstop, h⟩ := Option.bind_eq_some_iff.mp h
  cases h
  exact ⟨Option.join_eq_some_iff.mp hstart, Option.join_eq_some_iff.mp hstop⟩

theorem OnBoundaries.span {text : String} {slots : Slots} {i : Nat} {span : Span} (h : OnBoundaries text slots)
    (hs : spanOf slots i = some span) : isBoundary text span.start = true ∧ isBoundary text span.stop = true :=
  ⟨h _ _ (spanOf_eq_some hs).1, h _ _ (spanOf_eq_some hs).2⟩

theorem OnBoundaries.groups {text : String} {slots : Slots} {count : Nat} (h : OnBoundaries text slots) :
    ∀ span, some span ∈ groupsOf count slots →
      isBoundary text span.start = true ∧ isBoundary text span.stop = true := by
  intro span hs
  obtain ⟨i, _, hi⟩ := List.mem_map.mp hs
  exact h.span hi

theorem groupsOf_head {slots : Slots} {count : Nat} {span : Span}
    (h : (groupsOf count slots).head? = some (some span)) : spanOf slots 0 = some span := by
  cases count with
  | zero => cases h
  | succ n => simpa [groupsOf, List.range_succ_eq_map] using h

theorem regularMatcher_sound {r : Regular} (hr : r.Numbered) : (regularMatcher r).Sound where
  find {text pos span} hpos h := by
    have h : ((Automaton.ofRegular r).matchAt text pos).bind (spanOf · 0) = some span := Except.ok.inj h
    obtain ⟨slots, hm, hs⟩ := Option.bind_eq_some_iff.mp h
    have hst := Automaton.matchAt_starting hr hpos hm
    obtain ⟨h₀, h₁⟩ := spanOf_eq_some hs
    exact ⟨hst.start _ h₀, hst.later _ _ h₁, ((Automaton.matchAt_onBoundaries hpos hm).span hs).2⟩
  whole {text pos groups span} hpos h hg := by
    have h : ((Automaton.ofRegular r).matchAt text pos).map (groupsOf (Automaton.ofRegular r).groups) = some groups :=
      Except.ok.inj h
    obtain ⟨slots, hm, rfl⟩ := Option.map_eq_some_iff.mp h
    have hst := Automaton.matchAt_starting hr hpos hm
    obtain ⟨h₀, h₁⟩ := spanOf_eq_some (groupsOf_head hg)
    exact ⟨hst.start _ h₀, hst.later _ _ h₁⟩
  groups {text pos groups} hpos h := by
    have h : ((Automaton.ofRegular r).matchAt text pos).map (groupsOf (Automaton.ofRegular r).groups) = some groups :=
      Except.ok.inj h
    obtain ⟨slots, hm, rfl⟩ := Option.map_eq_some_iff.mp h
    exact (Automaton.matchAt_onBoundaries hpos hm).groups

theorem searchingMatcher_sound {groupCount groups : Nat} {search : String → Nat → Option (Option Slots)}
    (hs : ∀ {text pos slots}, isBoundary text pos = true → search text pos = some (some slots) →
      Ordered text slots) : (searchingMatcher groupCount groups search).Sound := by
  have hcap : ∀ {text pos gs}, (searchingMatcher groupCount groups search).captures text pos = .ok (some gs) →
      ∃ slots, search text pos = some (some slots) ∧ (spanOf slots 0).map (·.start) = some pos ∧
        groupsOf groups slots = gs := by
    intro text pos gs h
    simp only [searchingMatcher] at h
    split at h
    · cases h
    · rename_i found hf
      obtain ⟨slots, rfl, hg⟩ := Option.bind_eq_some_iff.mp (Except.ok.inj h)
      split at hg
      · rename_i hstart; cases hg; exact ⟨slots, hf, hstart, rfl⟩
      · cases hg
  refine ⟨?_, ?_, ?_⟩
  · intro text pos span hpos h
    simp only [searchingMatcher] at h
    split at h
    · cases h
    · rename_i found hf
      obtain ⟨h, hstart⟩ := Option.filter_eq_some_iff.mp (Except.ok.inj h)
      obtain ⟨slots, rfl, h⟩ := Option.bind_eq_some_iff.mp h
      have ho := hs hpos hf
      obtain ⟨h₀, h₁⟩ := spanOf_eq_some h
      have hstart : span.start = pos := by simpa using hstart
      exact ⟨hstart, hstart ▸ ho.le _ _ h₀ h₁, (ho.on.span h).2⟩
  · intro text pos gs span hpos h hg
    obtain ⟨slots, hf, hstart, rfl⟩ := hcap h
    have hsp := groupsOf_head hg
    rw [hsp] at hstart
    have hstart : span.start = pos := by simpa using hstart
    obtain ⟨h₀, h₁⟩ := spanOf_eq_some hsp
    exact ⟨hstart, hstart ▸ (hs hpos hf).le _ _ h₀ h₁⟩
  · intro text pos gs hpos h
    obtain ⟨slots, hf, _, rfl⟩ := hcap h
    exact (hs hpos hf).on.groups

theorem compileRegular_sound {source : String} {m : Matcher} (h : compileRegular source = .ok m) : m.Sound := by
  obtain ⟨r, hr, h⟩ := bind_eq_ok.mp h
  cases h
  exact regularMatcher_sound (Regular.parse_numbered hr)

theorem compileBacktracking_sound {source : String} {m : Matcher} (h : compileBacktracking source = .ok m) :
    m.Sound := by
  obtain ⟨p, _, h⟩ := bind_eq_ok.mp h
  simp only at h
  split at h
  · cases h
  split at h
  · obtain ⟨body, _, h⟩ := bind_eq_ok.mp h
    cases h
    exact searchingMatcher_sound fun hpos hf => Backtracking.Program.search_ordered hpos hf
  · obtain ⟨r, hr, h⟩ := bind_eq_ok.mp h
    cases h
    refine searchingMatcher_sound fun hpos hf => ?_
    exact Automaton.search_ordered (Regular.parse_numbered hr) hpos (Option.some.inj hf)

/-- Whatever compiles is a matcher that can be relied on. -/
theorem compile_sound {p : Pattern} {multiLine : Bool} {m : Matcher} (h : p.compile multiLine = .ok m) :
    m.Sound := by
  unfold compile at h
  simp only at h
  split at h
  · exact compileRegular_sound (mapError_eq_ok.mp h)
  · exact compileBacktracking_sound (mapError_eq_ok.mp h)
  · split at h
    · rename_i hm; cases h; exact compileRegular_sound hm
    · exact compileBacktracking_sound (mapError_eq_ok.mp h)

end Pattern

/-! ## The whole match -/

/-- Groups that are asked for do not change the match: the first of them is the match without them. -/
def Matcher.Agrees (m : Matcher) : Prop :=
  ∀ text pos, (m.captures text pos).map (·.bind fun groups => groups.head?.join) = m.find text pos

namespace Pattern

mutual

theorem Regular.groupCount_pos : (r : Regular) → 0 < r.groupCount
  | .empty => Nat.one_pos
  | .text _ => Nat.one_pos
  | .oneOf _ _ => Nat.one_pos
  | .look _ => Nat.one_pos
  | .seq rs => Regular.groupCounts_pos rs
  | .alt rs => Regular.groupCounts_pos rs
  | .group i _ => Nat.lt_of_lt_of_le i.succ_pos (Nat.le_max_left ..)
  | .loop _ _ _ r => r.groupCount_pos

theorem Regular.groupCounts_pos : (rs : List Regular) → 0 < Regular.groupCounts rs
  | [] => Nat.one_pos
  | _ :: rs => Nat.lt_of_lt_of_le (Regular.groupCounts_pos rs) (Nat.le_max_right ..)

end

theorem head?_groupsOf {count : Nat} (h : 0 < count) (slots : Slots) :
    (groupsOf count slots).head?.join = spanOf slots 0 := by
  cases count with
  | zero => omega
  | succ n => simp [groupsOf, List.range_succ_eq_map]

theorem regularMatcher_agrees (r : Regular) : (regularMatcher r).Agrees := by
  intro text pos
  simp only [regularMatcher, Except.map]
  cases (Automaton.ofRegular r).matchAt text pos with
  | none => rfl
  | some slots =>
      have hpos : 0 < (Automaton.ofRegular r).groups := r.groupCount_pos
      simp [head?_groupsOf hpos]

theorem searchingMatcher_agrees {groupCount groups : Nat} (hg : 0 < groups)
    (search : String → Nat → Option (Option Slots)) : (searchingMatcher groupCount groups search).Agrees := by
  intro text pos
  simp only [searchingMatcher]
  rcases search text pos with _ | _ | slots
  · rfl
  · rfl
  · simp only [Except.map, Option.bind_some]
    cases hspan : spanOf slots 0 with
    | none => simp
    | some span =>
        by_cases hstart : span.start = pos
        · simp [Option.filter, hstart, head?_groupsOf hg, hspan]
        · simp [Option.filter, hstart]

theorem compileBacktracking_agrees {source : String} {m : Matcher} (h : compileBacktracking source = .ok m) :
    m.Agrees := by
  obtain ⟨p, _, h⟩ := bind_eq_ok.mp h
  simp only at h
  split at h
  · cases h
  split at h
  · obtain ⟨body, _, h⟩ := bind_eq_ok.mp h
    cases h
    exact searchingMatcher_agrees (Nat.succ_pos _) _
  · obtain ⟨r, _, h⟩ := bind_eq_ok.mp h
    cases h
    exact searchingMatcher_agrees r.groupCount_pos _

theorem compileRegular_agrees {source : String} {m : Matcher} (h : compileRegular source = .ok m) : m.Agrees := by
  obtain ⟨r, _, h⟩ := bind_eq_ok.mp h
  cases h
  exact regularMatcher_agrees r

theorem compile_agrees {p : Pattern} {multiLine : Bool} {m : Matcher} (h : p.compile multiLine = .ok m) :
    m.Agrees := by
  unfold compile at h
  simp only at h
  split at h
  · exact compileRegular_agrees (mapError_eq_ok.mp h)
  · exact compileBacktracking_agrees (mapError_eq_ok.mp h)
  · split at h
    next hm => cases h; exact compileRegular_agrees hm
    · exact compileBacktracking_agrees (mapError_eq_ok.mp h)

end Pattern

end ModalLexer
