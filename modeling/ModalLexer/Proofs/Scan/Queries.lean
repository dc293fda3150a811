import ModalLexer.Proofs.Scan.Ending
import ModalLexer.Proofs.Scan.Plain
import ModalLexer.Scan.Places

/-!
Questions to a memory of searches, one after the other. Where searches find the first match, the answer to a question
does not depend on the questions before it. For questions about one rule whose offsets do not go back, no more searches
are run than there are matches of the rule to pass, and one; the questions of a scan are such questions.
-/

namespace ModalLexer

open Text

/-! ## Searches -/

namespace CompiledRule

/-- The rule matches at a place of the text. -/
def matchesAt (r : CompiledRule) (text : String) (pos : Nat) : Bool :=
  isBoundary text pos && (r.matchAt text pos).toOption.join.isSome

/-- The number of places before an offset at which the rule matches. -/
def matchesBefore (r : CompiledRule) (text : String) (pos : Nat) : Nat :=
  (List.range pos).countP (r.matchesAt text)

variable {r : CompiledRule} {text : String} {pos pos' : Nat}

theorem matchesAt_eq_false (h : r.matchAt text pos = .ok none) : r.matchesAt text pos = false := by
  simp [matchesAt, h, Except.toOption]

theorem matchesBefore_mono (h : pos ≤ pos') : r.matchesBefore text pos ≤ r.matchesBefore text pos' :=
  (List.range_sublist.mpr h).countP_le

theorem matchesBefore_lt (hm : r.matchesAt text pos = true) (h : pos < pos') :
    r.matchesBefore text pos < r.matchesBefore text pos' := by
  have hnext : r.matchesBefore text (pos + 1) = r.matchesBefore text pos + 1 := by
    simp [matchesBefore, List.range_succ, hm]
  have hle : r.matchesBefore text (pos + 1) ≤ r.matchesBefore text pos' := matchesBefore_mono h
  omega

end CompiledRule

/-- What a search said is so: where the rule matches first from its origin on, at a place of the text, if anywhere. -/
structure NextMatch.Exact (r : CompiledRule) (text : String) (n : NextMatch) : Prop where
  isNext : r.IsNext text n.origin n.start
  boundary : ∀ s ∈ n.start, isBoundary text s = true

/-- The search for the rule from the offset succeeds, and finds the first place from there on at which it matches. -/
def CompiledRule.FindsFirst (r : CompiledRule) (text : String) (pos : Nat) : Prop :=
  ∃ start, r.nextStart text pos = .ok start ∧ NextMatch.Exact r text ⟨pos, start⟩

/-- Wherever in the text the search for the rule begins, it finds the first place from there on. -/
def CompiledRule.FindsAll (r : CompiledRule) (text : String) : Prop :=
  ∀ pos, isBoundary text pos = true → r.FindsFirst text pos

instance (r : CompiledRule) (text : String) (n : NextMatch) : Decidable (n.Exact r text) :=
  decidable_of_iff (r.IsNext text n.origin n.start ∧ ∀ s ∈ n.start, isBoundary text s = true)
    ⟨fun h => ⟨h.1, h.2⟩, fun h => ⟨h.isNext, h.boundary⟩⟩

instance (r : CompiledRule) (text : String) (pos : Nat) : Decidable (r.FindsFirst text pos) :=
  decidable_of_iff (∃ start ∈ (r.nextStart text pos).toOption, NextMatch.Exact r text ⟨pos, start⟩)
    (by simp only [Option.mem_def, toOption_eq_some]; rfl)

instance (r : CompiledRule) (text : String) : Decidable (r.FindsAll text) :=
  decidable_of_iff (∀ pos < text.utf8ByteSize + 1, isBoundary text pos = true → r.FindsFirst text pos)
    ⟨fun h pos hpos => h pos (Nat.lt_succ_of_le (isBoundary_le hpos)) hpos, fun h pos _ => h pos⟩

namespace NextMatch

variable {r : CompiledRule} {text : String} {n : NextMatch} {pos : Nat} {start : Option Nat}

theorem answer?_eq_some_iff {answer : Bool} : n.answer? pos = some answer ↔
    n.origin ≤ pos ∧ (∀ s ∈ n.start, pos ≤ s) ∧ answer = (n.start == some pos) := by
  obtain ⟨origin, start⟩ := n
  unfold answer?
  simp only
  split
  next hle =>
    cases start with
    | none => simp [hle, eq_comm]
    | some s =>
        have hswap : (s == pos) = (pos == s) := BEq.comm
        by_cases hs : pos ≤ s
        · simp [hle, hs, hswap, eq_comm]
        · simp [hs]
  next hlt => simp [hlt]

theorem answer?_eq_none_iff : n.answer? pos = none ↔ pos < n.origin ∨ ∃ s ∈ n.start, s < pos := by
  obtain ⟨origin, start⟩ := n
  unfold answer?
  simp only
  split
  next hle =>
    cases start with
    | none => simp [hle]
    | some s => simp [hle]
  next hlt => simp [Nat.lt_of_not_le hlt]

theorem Exact.matchesAt (h : n.Exact r text) {s : Nat} (hs : n.start = some s) :
    n.origin ≤ s ∧ r.matchesAt text s = true := by
  have hnext := h.isNext
  rw [hs] at hnext
  obtain ⟨hle, ⟨m, hm⟩, _⟩ := hnext
  refine ⟨hle, ?_⟩
  simp [CompiledRule.matchesAt, h.boundary s hs, hm, Except.toOption]

theorem Exact.matchesAt_eq_false (h : n.Exact r text) (hle : n.origin ≤ pos) (hlt : ∀ s ∈ n.start, pos < s) :
    r.matchesAt text pos = false := by
  have hnext := h.isNext
  cases hpos : isBoundary text pos with
  | false => simp [CompiledRule.matchesAt, hpos]
  | true =>
      refine CompiledRule.matchesAt_eq_false ?_
      cases hs : n.start with
      | none => rw [hs] at hnext; exact hnext pos hle hpos
      | some s => rw [hs] at hnext; exact hnext.2.2 pos hle (hlt s hs) hpos

theorem Exact.eq_some {s : Nat} (h : Exact r text ⟨pos, some s⟩) (h' : Exact r text ⟨pos, start⟩) :
    start = some s := by
  obtain ⟨hle, hs⟩ := h.matchesAt rfl
  cases start with
  | none =>
      have hfalse := h'.matchesAt_eq_false hle (by simp)
      rw [hs] at hfalse
      cases hfalse
  | some s' =>
      obtain ⟨hle', hs'⟩ := h'.matchesAt rfl
      rcases Nat.lt_trichotomy s s' with hlt | rfl | hlt
      · have hfalse := h'.matchesAt_eq_false hle (by simpa using hlt)
        rw [hs] at hfalse
        cases hfalse
      · rfl
      · have hfalse := h.matchesAt_eq_false hle' (by simpa using hlt)
        rw [hs'] at hfalse
        cases hfalse

/-- From an offset on there is one first match, or none. -/
theorem Exact.unique {start' : Option Nat} (h : Exact r text ⟨pos, start⟩) (h' : Exact r text ⟨pos, start'⟩) :
    start = start' := by
  cases start with
  | some s => exact (h.eq_some h').symm
  | none =>
      cases start' with
      | none => rfl
      | some s => exact h'.eq_some h

/-- What a search found is the first match for later offsets too, up to its start. -/
theorem Exact.later (h : n.Exact r text) (hle : n.origin ≤ pos) (hs : ∀ s ∈ n.start, pos ≤ s) :
    Exact r text ⟨pos, n.start⟩ := by
  have hnext := h.isNext
  refine ⟨?_, h.boundary⟩
  cases hstart : n.start with
  | none =>
      rw [hstart] at hnext
      exact fun p hp => hnext p (Nat.le_trans hle hp)
  | some s =>
      rw [hstart] at hnext
      exact ⟨hs s hstart, hnext.2.1, fun p hp => hnext.2.2 p (Nat.le_trans hle hp)⟩

end NextMatch

/-! ## Questions -/

namespace Memo

/-- What a question can lead to. -/
inductive Asked (m : Memo) (text : String) (q : Query) : Except Error Bool × Memo → Prop
  | basic (unsearched : q.rule.needsSearch = false) : Asked m text q (.ok true, m)
  | known {n : NextMatch} (searchable : q.rule.needsSearch = true) (entry : lookup q.rule.slot m.known = some n)
      (from_origin : n.origin ≤ q.pos) (not_passed : ∀ s ∈ n.start, q.pos ≤ s) :
      Asked m text q (.ok (n.start == some q.pos), m)
  | found {start : Option Nat} (searchable : q.rule.needsSearch = true)
      (unknown : ∀ n, lookup q.rule.slot m.known = some n → q.pos < n.origin ∨ ∃ s ∈ n.start, s < q.pos)
      (search : q.rule.nextStart text q.pos = .ok start) :
      Asked m text q (.ok (start == some q.pos), ⟨insert q.rule.slot ⟨q.pos, start⟩ m.known, m.searches + 1⟩)
  | failed {e : Error} (searchable : q.rule.needsSearch = true) (search : q.rule.nextStart text q.pos = .error e) :
      Asked m text q (.error e, { m with searches := m.searches + 1 })

variable {t : Table} {text : String} {m : Memo} {q : Query} {qs : List Query} {r : CompiledRule} {id : StateId}

theorem ask_asked (m : Memo) (text : String) (q : Query) : m.Asked text q (m.ask text q) := by
  unfold ask mayMatch
  split
  next hs =>
    cases hk : (lookup q.rule.slot m.known).bind (·.answer? q.pos) with
    | some answer =>
        obtain ⟨n, hn, ha⟩ := Option.bind_eq_some_iff.mp hk
        obtain ⟨horigin, hstart, rfl⟩ := NextMatch.answer?_eq_some_iff.mp ha
        exact .known hs hn horigin hstart
    | none =>
        simp only
        split
        next hsearch =>
          refine .found hs (fun n hn => ?_) hsearch
          exact NextMatch.answer?_eq_none_iff.mp (Option.bind_eq_none_iff.mp hk n hn)
        next hsearch => exact .failed hs hsearch
  next hs => exact .basic (Bool.eq_false_iff.mpr hs)

theorem ask_empty (text : String) (q : Query) : (ask {} text q).1 = q.answer text := by
  have hasked := ask_asked {} text q
  generalize ask {} text q = out at hasked ⊢
  cases hasked with
  | basic unsearched => simp [Query.answer, unsearched]
  | known _ entry => cases entry
  | found searchable _ search => simp [Query.answer, searchable, search, Except.map]
  | failed searchable search => simp [Query.answer, searchable, search, Except.map]

/-! ## Answers -/

/-- All that is remembered is exact for the rules of the table. -/
def Exact (t : Table) (text : String) (m : Memo) : Prop :=
  ∀ id, ∀ r ∈ t.rulesOf id, ∀ n, lookup r.slot m.known = some n → n.Exact r text

theorem ask_exact (hm : m.Exact t text) (hslots : t.SlotsIdentify) (hr : q.rule ∈ t.rulesOf id)
    (hfirst : q.rule.needsSearch = true → q.rule.FindsFirst text q.pos) :
    (m.ask text q).1 = q.answer text ∧ (m.ask text q).2.Exact t text := by
  have hasked := ask_asked m text q
  generalize m.ask text q = out at hasked ⊢
  cases hasked with
  | basic unsearched => exact ⟨by simp [Query.answer, unsearched], hm⟩
  | known searchable entry from_origin not_passed =>
      obtain ⟨start, hstart, hexact⟩ := hfirst searchable
      have hentry := (hm id _ hr _ entry).later from_origin not_passed
      refine ⟨?_, hm⟩
      simp [Query.answer, searchable, hstart, Except.map, hentry.unique hexact]
  | found searchable unknown search =>
      obtain ⟨start, hstart, hexact⟩ := hfirst searchable
      cases search.symm.trans hstart
      refine ⟨?_, forall_lookup_insert (P := fun r n => n.Exact r text) hslots hm hr hexact⟩
      simp [Query.answer, searchable, search, Except.map]
  | failed searchable search =>
      obtain ⟨start, hstart, _⟩ := hfirst searchable
      cases search.symm.trans hstart

theorem answers_eq_map (hslots : t.SlotsIdentify) (hm : m.Exact t text)
    (hrules : ∀ q ∈ qs, ∃ id, q.rule ∈ t.rulesOf id)
    (hfirst : ∀ q ∈ qs, q.rule.needsSearch = true → q.rule.FindsFirst text q.pos) :
    answers text m qs = qs.map (Query.answer text) := by
  induction qs generalizing m with
  | nil => rfl
  | cons q qs ih =>
      obtain ⟨⟨id, hr⟩, hrules⟩ := List.forall_mem_cons.mp hrules
      obtain ⟨hq, hfirst⟩ := List.forall_mem_cons.mp hfirst
      obtain ⟨hanswer, hm'⟩ := ask_exact hm hslots hr hq
      rw [answers, hanswer, ih hm' hrules hfirst, List.map_cons]

/-- Whatever was asked before, of whatever rules and at whatever offsets, an answer is the one of an empty memory: that
a rule may match if it need not be searched for, and else whether the search from the offset finds it there. -/
theorem answers_eq_empty {d : Declaration} (built : d.build = .ok t) (text : String) (qs : List Query)
    (rules : ∀ q ∈ qs, ∃ id, q.rule ∈ t.rulesOf id)
    (first : ∀ q ∈ qs, q.rule.needsSearch = true → q.rule.FindsFirst text q.pos) :
    answers text {} qs = qs.map (fun q => (ask {} text q).1) ∧
      ∀ q ∈ qs, (ask {} text q).1 =
        if q.rule.needsSearch then (q.rule.nextStart text q.pos).map (· == some q.pos) else .ok true := by
  have hempty : Exact t text {} := fun _ _ _ _ h => by cases h
  refine ⟨?_, fun q _ => ask_empty text q⟩
  rw [answers_eq_map (d.build_slotsIdentify built) hempty rules first]
  exact List.map_congr_left fun q _ => (ask_empty text q).symm

/-- Questions about two rules, with offsets that go on and then back. -/
def questions (z x : CompiledRule) : List Query :=
  [⟨x, 0⟩, ⟨x, 2⟩, ⟨z, 2⟩, ⟨x, 4⟩, ⟨x, 5⟩, ⟨x, 1⟩, ⟨x, 0⟩]

theorem answers_eq_empty_lookahead : ∃ t z x, Stream.lookahead.build = .ok t ∧
    (t.rulesOf t.root)[0]? = some z ∧ (t.rulesOf t.root)[1]? = some x ∧
    answers "xyzxxy" {} (questions z x) = (questions z x).map (fun q => (ask {} "xyzxxy" q).1) ∧
    (answers "xyzxxy" {} (questions z x)).map (·.toOption) =
      [some true, some false, some true, some true, some false, some false, some true] := by
  have h : (Stream.lookahead.build.toOption.bind fun t => (t.rulesOf t.root)[0]?.bind fun z =>
      (t.rulesOf t.root)[1]?.map fun x =>
        (decide (∀ q ∈ questions z x, q.rule.needsSearch = true → q.rule.FindsFirst "xyzxxy" q.pos),
          (answers "xyzxxy" {} (questions z x)).map (·.toOption))) =
      some (true, [some true, some false, some true, some true, some false, some false, some true]) := by
    decide +kernel
  obtain ⟨t, hb, h⟩ := Option.bind_eq_some_iff.mp h
  obtain ⟨z, hz, h⟩ := Option.bind_eq_some_iff.mp h
  obtain ⟨x, hx, h⟩ := Option.map_eq_some_iff.mp h
  obtain ⟨hfirst, hanswers⟩ := Prod.mk.inj h
  have hb := toOption_eq_some.mp hb
  have hmem : ∀ q ∈ questions z x, q.rule ∈ t.rulesOf t.root := by
    simp [questions, List.mem_of_getElem? hz, List.mem_of_getElem? hx]
  have hempty := answers_eq_empty hb "xyzxxy" (questions z x) (fun q hq => ⟨t.root, hmem q hq⟩)
    (of_decide_eq_true hfirst)
  exact ⟨t, z, x, hb, hz, hx, hempty.1, hanswers⟩

/-! ## Searches -/

/-- The searches that the entry of a rule accounts for: the one that made it, and one for each match that was passed
before. -/
def accounted (r : CompiledRule) (text : String) (m : Memo) : Nat :=
  match lookup r.slot m.known with
  | none => 0
  | some n => 1 + r.matchesBefore text n.origin

/-- The entry of a rule is exact, and was made no later than at an offset. -/
def Tracks (r : CompiledRule) (text : String) (m : Memo) (pos : Nat) : Prop :=
  ∀ n, lookup r.slot m.known = some n → n.Exact r text ∧ n.origin ≤ pos

theorem Tracks.mono {pos pos' : Nat} (h : m.Tracks r text pos) (hle : pos ≤ pos') : m.Tracks r text pos' :=
  fun n hn => ⟨(h n hn).1, Nat.le_trans (h n hn).2 hle⟩

theorem Tracks.accounted_le {pos : Nat} (h : m.Tracks r text pos) :
    m.accounted r text ≤ 1 + r.matchesBefore text pos := by
  unfold accounted
  split
  · exact Nat.zero_le _
  next n hn => exact Nat.add_le_add_left (CompiledRule.matchesBefore_mono (h n hn).2) 1

theorem ask_other (h : q.rule.slot ≠ r.slot) : lookup r.slot (m.ask text q).2.known = lookup r.slot m.known := by
  have hasked := ask_asked m text q
  generalize m.ask text q = out at hasked ⊢
  cases hasked with
  | basic => rfl
  | known => rfl
  | found => rw [lookup_insert, if_neg (Ne.symm h)]
  | failed => rfl

/-- A search for the rule is run only where its entry was passed, and the new entry accounts for it. -/
theorem ask_accounted (hrule : q.rule = r) (hm : m.Tracks r text q.pos) (hfirst : r.FindsFirst text q.pos) :
    (if m.searches < (m.ask text q).2.searches then 1 else 0) + m.accounted r text ≤
        (m.ask text q).2.accounted r text ∧ (m.ask text q).2.Tracks r text q.pos := by
  subst hrule
  have hasked := ask_asked m text q
  generalize m.ask text q = out at hasked ⊢
  cases hasked with
  | basic => exact ⟨by simp, hm⟩
  | known => exact ⟨by simp, hm⟩
  | @found start _ unknown search =>
      obtain ⟨_, hstart, hexact⟩ := hfirst
      cases search.symm.trans hstart
      have hentry : lookup q.rule.slot (insert q.rule.slot ⟨q.pos, start⟩ m.known) = some ⟨q.pos, start⟩ := by
        rw [lookup_insert, if_pos rfl]
      refine ⟨?_, fun n hn => ?_⟩
      · simp only [accounted, hentry, Nat.lt_succ_self, ↓reduceIte]
        split
        · omega
        next n hn =>
          obtain ⟨hn', horigin⟩ := hm n hn
          rcases unknown n hn with hlt | ⟨s, hs, hlt⟩
          · omega
          · obtain ⟨hle, hmatch⟩ := hn'.matchesAt hs
            have hbefore : q.rule.matchesBefore text n.origin ≤ q.rule.matchesBefore text s :=
              CompiledRule.matchesBefore_mono hle
            have hpassed := CompiledRule.matchesBefore_lt hmatch hlt
            omega
      · cases hentry.symm.trans hn
        exact ⟨hexact, Nat.le_refl _⟩
  | failed _ search =>
      obtain ⟨_, hstart, _⟩ := hfirst
      cases search.symm.trans hstart

theorem positions_cons (r : CompiledRule) (q : Query) (qs : List Query) :
    positions r (q :: qs) = (if q.rule.slot = r.slot then [q.pos] else []) ++ positions r qs := by
  by_cases h : q.rule.slot = r.slot
  · simp [positions, h]
  · simp [positions, h]

theorem positions_append (r : CompiledRule) (qs qs' : List Query) :
    positions r (qs ++ qs') = positions r qs ++ positions r qs' := by
  simp [positions]

theorem searchesFor_cons : searchesFor r text m (q :: qs) =
    (if q.rule.slot = r.slot then if m.searches < (m.ask text q).2.searches then 1 else 0 else 0) +
      searchesFor r text (m.ask text q).2 qs := by
  rw [searchesFor, searched, List.countP_append]
  by_cases hcost : m.searches < (m.ask text q).2.searches
  · by_cases hslot : q.rule.slot = r.slot
    · simp [searchesFor, hcost, hslot]
    · simp [searchesFor, hcost, hslot]
  · simp [searchesFor, hcost]

/-- What is accounted for grows with each search for the rule, and at the end it is bounded. -/
theorem searchesFor_le {last : Nat} (hsame : ∀ q ∈ qs, q.rule.slot = r.slot → q.rule = r)
    (hforward : (positions r qs ++ [last]).Pairwise (· ≤ ·))
    (hfirst : ∀ pos ∈ positions r qs, r.FindsFirst text pos)
    (hm : ∀ pos ∈ positions r qs ++ [last], m.Tracks r text pos) :
    searchesFor r text m qs + m.accounted r text ≤ 1 + r.matchesBefore text last := by
  induction qs generalizing m with
  | nil =>
      have hlast := hm last (by simp)
      simpa [searchesFor, searched] using hlast.accounted_le
  | cons q qs ih =>
      obtain ⟨hq, hsame⟩ := List.forall_mem_cons.mp hsame
      rw [searchesFor_cons]
      rw [positions_cons] at hforward hfirst hm
      split at hforward
      next hslot =>
        rw [if_pos hslot] at hfirst hm ⊢
        obtain ⟨hlater, hforward⟩ := List.pairwise_cons.mp hforward
        obtain ⟨hfirst, hrest⟩ := List.forall_mem_cons.mp hfirst
        obtain ⟨hcost, htracks⟩ := ask_accounted (hq hslot) (hm q.pos (by simp)) hfirst
        have hle := ih hsame hforward hrest fun pos hpos => htracks.mono (hlater pos hpos)
        omega
      next hslot =>
        rw [if_neg hslot] at hfirst hm ⊢
        have hentry : lookup r.slot (m.ask text q).2.known = lookup r.slot m.known := ask_other hslot
        have hle := ih (m := (m.ask text q).2) hsame hforward hfirst fun pos hpos n hn =>
          hm pos hpos n (hentry ▸ hn)
        have haccounted : (m.ask text q).2.accounted r text = m.accounted r text := by
          rw [accounted, accounted, hentry]
        omega

theorem searchesFor_empty_le {last : Nat} (hsame : ∀ q ∈ qs, q.rule.slot = r.slot → q.rule = r)
    (hsorted : (positions r qs).Pairwise (· ≤ ·)) (hlast : ∀ pos ∈ positions r qs, pos ≤ last)
    (hfirst : ∀ pos ∈ positions r qs, r.FindsFirst text pos) :
    searchesFor r text {} qs ≤ 1 + r.matchesBefore text last := by
  have hforward : (positions r qs ++ [last]).Pairwise (· ≤ ·) :=
    List.pairwise_append.mpr ⟨hsorted, List.pairwise_singleton _ _, by simpa using hlast⟩
  have hempty (pos : Nat) : Tracks r text {} pos := fun _ hn => by cases hn
  exact Nat.le_trans (Nat.le_add_right _ _) (searchesFor_le hsame hforward hfirst fun pos _ => hempty pos)

theorem ask_searches (m : Memo) (text : String) (q : Query) :
    (m.ask text q).2.searches = m.searches ∨ (m.ask text q).2.searches = m.searches + 1 := by
  have hasked := ask_asked m text q
  generalize m.ask text q = out at hasked ⊢
  cases hasked with
  | basic => exact .inl rfl
  | known => exact .inl rfl
  | found => exact .inr rfl
  | failed => exact .inr rfl

theorem after_searches (text : String) (m : Memo) (qs : List Query) :
    (m.after text qs).searches = m.searches + (searched text m qs).length := by
  induction qs generalizing m with
  | nil => rfl
  | cons q qs ih =>
      rw [after, ih, searched, List.length_append]
      rcases ask_searches m text q with h | h
      · simp [h]
      · simp [h, Nat.add_assoc]

theorem after_append (text : String) (m : Memo) (qs qs' : List Query) :
    m.after text (qs ++ qs') = (m.after text qs).after text qs' := by
  induction qs generalizing m with
  | nil => rfl
  | cons q qs ih => exact ih _

end Memo

/-! ## Questions of a scan -/

namespace Table

variable {t : Table} {text part : String} {stack : StateStack} {depth levels : Nat} {history : List Scan} {s : Scan}

theorem asked_cons (t : Table) (text : String) (s : Scan) (history : List Scan) : t.asked text (s :: history) =
    t.asked text history ++ choiceQueries text s.cursor (t.rulesOf s.stack.top) s.memo := by
  simp [asked]

theorem mem_choiceQueries {pos : Nat} {rs : List CompiledRule} {memo : Memo} {q : Query}
    (h : q ∈ choiceQueries text pos rs memo) : q.rule ∈ rs ∧ q.pos = pos := by
  induction rs generalizing memo with
  | nil => cases h
  | cons r rs ih =>
      unfold choiceQueries at h
      rcases List.mem_cons.mp h with rfl | h
      · exact ⟨List.mem_cons_self, rfl⟩
      · have hrest : ∃ memo, q ∈ choiceQueries text pos rs memo := by
          split at h
          · cases h
          · exact ⟨_, h⟩
          · split at h
            · exact ⟨_, h⟩
            · cases h
        obtain ⟨_, hrest⟩ := hrest
        exact ⟨List.mem_cons_of_mem _ (ih hrest).1, (ih hrest).2⟩

theorem choose_memo (text : String) (pos : Nat) (rs : List CompiledRule) (memo : Memo) :
    (choose text pos rs memo).2 = memo.after text (choiceQueries text pos rs memo) := by
  fun_induction choose text pos rs memo with
  | case1 => rfl
  | case2 r rs memo e memo' hm => simp [choiceQueries, hm, Memo.after, Memo.ask]
  | case3 r rs memo memo' hm ih => simp [choiceQueries, hm, Memo.after, Memo.ask, ih]
  | case4 r rs memo memo' hm e hmatch => simp [choiceQueries, hm, hmatch, Memo.after, Memo.ask]
  | case5 r rs memo memo' hm m hmatch => simp [choiceQueries, hm, hmatch, Memo.after, Memo.ask]
  | case6 r rs memo memo' hm hmatch ih => simp [choiceQueries, hm, hmatch, Memo.after, Memo.ask, ih]

/-- What a scan remembers is what its questions left. -/
theorem Visits.memo_eq (h : t.Visits text stack depth levels part history s) :
    s.memo = Memo.after part {} (t.asked part history) := by
  induction h with
  | start => rfl
  | step _ _ taken ih =>
      have hmemo := congrArg (fun out => out.scan.memo) taken
      rw [step_memo, choose_memo] at hmemo
      rw [← hmemo, asked_cons, Memo.after_append, ← ih]
  | group => rfl

theorem asked_rules (t : Table) (text : String) (places : List Scan) :
    ∀ q ∈ t.asked text places, ∃ id, q.rule ∈ t.rulesOf id := by
  intro q hq
  obtain ⟨s, _, hq⟩ := List.mem_flatMap.mp hq
  exact ⟨_, (mem_choiceQueries hq).1⟩

/-- The offsets of the questions about a rule do not go back; they are places of the text up to an offset. -/
structure Forward (r : CompiledRule) (text : String) (qs : List Query) (pos : Nat) : Prop where
  sorted : (Memo.positions r qs).Pairwise (· ≤ ·)
  le : ∀ p ∈ Memo.positions r qs, p ≤ pos
  boundary : ∀ p ∈ Memo.positions r qs, isBoundary text p = true

theorem Forward.mono {r : CompiledRule} {qs : List Query} {pos pos' : Nat} (h : Forward r text qs pos)
    (hle : pos ≤ pos') : Forward r text qs pos' :=
  ⟨h.sorted, fun p hp => Nat.le_trans (h.le p hp) hle, h.boundary⟩

theorem Forward.choice {r : CompiledRule} {qs : List Query} {pos : Nat} (h : Forward r text qs pos)
    (hpos : isBoundary text pos = true) (rs : List CompiledRule) (memo : Memo) :
    Forward r text (qs ++ choiceQueries text pos rs memo) pos := by
  have hhere : ∀ p ∈ Memo.positions r (choiceQueries text pos rs memo), p = pos := by
    intro p hp
    obtain ⟨q, hq, rfl⟩ := List.mem_map.mp hp
    exact (mem_choiceQueries (List.mem_of_mem_filter hq)).2
  refine ⟨?_, ?_, ?_⟩
  · rw [Memo.positions_append, List.pairwise_append]
    refine ⟨h.sorted, ?_, fun p hp p' hp' => hhere p' hp' ▸ h.le p hp⟩
    rw [List.eq_replicate_of_mem hhere]
    exact List.pairwise_replicate.mpr (.inr (Nat.le_refl _))
  · rw [Memo.positions_append]
    intro p hp
    rcases List.mem_append.mp hp with hp | hp
    · exact h.le p hp
    · exact Nat.le_of_eq (hhere p hp)
  · rw [Memo.positions_append]
    intro p hp
    rcases List.mem_append.mp hp with hp | hp
    · exact h.boundary p hp
    · exact hhere p hp ▸ hpos

theorem Visits.forward (ht : t.Sound) (h : t.Visits text stack depth levels part history s) (r : CompiledRule) :
    Forward r part (t.asked part history) s.cursor := by
  induction h with
  | start => exact ⟨.nil, by simp [asked, Memo.positions], by simp [asked, Memo.positions]⟩
  | step before more taken ih =>
      have hboundary := (before.inBounds ht).boundary
      have hmoved := (step_progress ht (lexGroup_tiles ht _) hboundary more taken).tiles.le
      rw [asked_cons]
      exact (ih.choice hboundary _ _).mono hmoved
  | group => exact ⟨.nil, by simp [asked, Memo.positions], by simp [asked, Memo.positions]⟩

end Table

namespace Memo

variable {t : Table}

/-- No more searches are run for a rule than it has matches that were passed, and one: for questions about rules of the
table in any order, if the offsets of those about this rule do not go back, and for the questions of a scan, in scans of
groups too. So for a rule that never matches there is one search at most, whatever states have it. -/
theorem searches_le {d : Declaration} (built : d.build = .ok t) {id : StateId} {r : CompiledRule}
    (hr : r ∈ t.rulesOf id) :
    (∀ text qs, (∀ q ∈ qs, ∃ id, q.rule ∈ t.rulesOf id) → (positions r qs).Pairwise (· ≤ ·) →
      (∀ pos ∈ positions r qs, r.FindsFirst text pos) →
      (after text {} qs).searches = (searched text {} qs).length ∧
      searchesFor r text {} qs ≤ 1 + r.matchesBefore text ((positions r qs).getLastD 0)) ∧
    (∀ text stack depth levels part history s, t.Visits text stack depth levels part history s →
      r.FindsAll part →
      s.memo = after part {} (t.asked part history) ∧
      searchesFor r part {} (t.asked part (s :: history)) ≤ 1 + r.matchesBefore part s.cursor ∧
      ((∀ pos, r.matchesAt part pos = false) → searchesFor r part {} (t.asked part (s :: history)) ≤ 1)) := by
  have ht := d.build_sound built
  have hslots := d.build_slotsIdentify built
  have hsame (qs : List Query) (h : ∀ q ∈ qs, ∃ id, q.rule ∈ t.rulesOf id) :
      ∀ q ∈ qs, q.rule.slot = r.slot → q.rule = r := by
    intro q hq hslot
    obtain ⟨id', hq⟩ := h q hq
    exact hslots id' id q.rule hq r hr hslot
  refine ⟨fun text qs hrules hsorted hfirst => ⟨?_, ?_⟩, fun text stack depth levels part history s hv hfirst => ?_⟩
  · rw [after_searches, Nat.zero_add]
  · refine searchesFor_empty_le (hsame qs hrules) hsorted (fun pos hpos => ?_) hfirst
    rw [List.getLastD_eq_getLast?, List.getLast?_eq_getLast_of_ne_nil (List.ne_nil_of_mem hpos)]
    exact hsorted.rel_getLast hpos
  · have hrules := t.asked_rules part (s :: history)
    have hforward : Table.Forward r part (t.asked part (s :: history)) s.cursor := by
      rw [Table.asked_cons]
      exact (hv.forward ht r).choice (hv.inBounds ht).boundary _ _
    have hle := searchesFor_empty_le (hsame _ hrules) hforward.sorted hforward.le fun pos hpos =>
      hfirst pos (hforward.boundary pos hpos)
    refine ⟨hv.memo_eq, hle, fun hnever => ?_⟩
    have hnone : r.matchesBefore part s.cursor = 0 := by simp [CompiledRule.matchesBefore, hnever]
    omega

/-- Questions about two rules, with offsets that do not go back. -/
def forwardQuestions (z x : CompiledRule) : List Query :=
  [⟨x, 0⟩, ⟨x, 2⟩, ⟨z, 2⟩, ⟨x, 4⟩, ⟨x, 5⟩]

theorem searches_le_lookahead : ∃ t z x, Stream.lookahead.build = .ok t ∧
    (t.rulesOf t.root)[0]? = some z ∧ (t.rulesOf t.root)[1]? = some x ∧
    x.FindsAll "xyzxxy" ∧ positions x (forwardQuestions z x) = [0, 2, 4, 5] ∧
    searchesFor x "xyzxxy" {} (forwardQuestions z x) = 3 ∧ x.matchesBefore "xyzxxy" 5 = 2 ∧
    searchesFor x "xyzxxy" {} (forwardQuestions z x) ≤ 1 + x.matchesBefore "xyzxxy" 5 ∧
    ∃ history s, t.Visits "xyzxxy" ⟨t.root, []⟩ 0 t.options.maxNesting "xyzxxy" history s ∧ s.cursor = 6 ∧
      searchesFor x "xyzxxy" {} (t.asked "xyzxxy" (s :: history)) ≤ 1 + x.matchesBefore "xyzxxy" 6 := by
  have h : (Stream.lookahead.build.toOption.bind fun t => (t.rulesOf t.root)[0]?.bind fun z =>
      (t.rulesOf t.root)[1]?.map fun x =>
        (decide (x.FindsAll "xyzxxy"), positions x (forwardQuestions z x),
          searchesFor x "xyzxxy" {} (forwardQuestions z x), x.matchesBefore "xyzxxy" 5,
          (Calls.after (Stream.next t "xyzxxy") (Stream.start ⟨t.root, []⟩) 9).scan.cursor)) =
      some (true, [0, 2, 4, 5], 3, 2, 6) := by decide +kernel
  obtain ⟨t, hb, h⟩ := Option.bind_eq_some_iff.mp h
  obtain ⟨z, hz, h⟩ := Option.bind_eq_some_iff.mp h
  obtain ⟨x, hx, h⟩ := Option.map_eq_some_iff.mp h
  simp only [Prod.mk.injEq, decide_eq_true_eq] at h
  obtain ⟨hfirst, hpositions, hsearches, hmatches, hcursor⟩ := h
  have hb := toOption_eq_some.mp hb
  have hmem : ∀ q ∈ forwardQuestions z x, q.rule ∈ t.rulesOf t.root := by
    simp [forwardQuestions, List.mem_of_getElem? hz, List.mem_of_getElem? hx]
  obtain ⟨hqueries, hscans⟩ := searches_le hb (List.mem_of_getElem? hx)
  have hle := (hqueries "xyzxxy" (forwardQuestions z x) (fun q hq => ⟨t.root, hmem q hq⟩)
    (by rw [hpositions]; decide) fun pos hpos => by
      rw [hpositions] at hpos
      exact hfirst pos (by revert pos; decide)).2
  rw [hpositions] at hle
  obtain ⟨history, s, hv, hstands⟩ := Stream.after_standsAt t "xyzxxy" ⟨t.root, []⟩ 9
  have hplace := hstands.same.1.symm.trans hcursor
  have hscan := (hscans _ _ _ _ _ _ _ hv hfirst).2.1
  rw [hplace] at hscan
  exact ⟨t, z, x, hb, hz, hx, hfirst, hpositions, hsearches, hmatches, hle, history, s, hv, hplace, hscan⟩

end Memo

end ModalLexer
