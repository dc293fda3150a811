import ModalLexer.Proofs.Table.Rules
import ModalLexer.Proofs.Text.Boundary
import ModalLexer.Scan.Plain

/-!
What is remembered of searches. Where the searches for a rule find the leftmost match, an answer from memory says
no only where the rule does not match. One entry serves a rule in all states that have it, since no other rule has
its slot; so the choice of a rule is the one that trying them all would make.
-/

namespace ModalLexer

open Text

/-! ## Leftmost searches -/

namespace CompiledRule

/-- A start of a match, or none, is the first one from an offset on. -/
def IsNext (r : CompiledRule) (text : String) (pos : Nat) : Option Nat → Prop
  | none => ∀ p, pos ≤ p → isBoundary text p = true → r.matchAt text p = .ok none
  | some start => pos ≤ start ∧ (∃ m, r.matchAt text start = .ok (some m)) ∧
    ∀ p, pos ≤ p → p < start → isBoundary text p = true → r.matchAt text p = .ok none

/-- Searches for the rule in the text succeed, and find the leftmost match. -/
def Leftmost (r : CompiledRule) (text : String) : Prop :=
  ∀ pos, isBoundary text pos = true → ∃ start, r.nextStart text pos = .ok start ∧ r.IsNext text pos start

end CompiledRule

/-- A text stands somewhere in another. -/
def Text.IsPart (text part : String) : Prop :=
  ∃ a b, slice? text a b = some part

/-- Wherever the table searches in the text or in a part of it, it finds the leftmost match. -/
def Table.Leftmost (t : Table) (text : String) : Prop :=
  ∀ id, ∀ r ∈ t.rulesOf id, r.needsSearch = true → ∀ part, IsPart text part → r.Leftmost part

theorem Text.isPart_self (text : String) : IsPart text text :=
  ⟨_, _, slice?_all text⟩

theorem Text.isPart_slice (text : String) (r : Span) : IsPart text (slice text r) := by
  cases h : slice? text r.start r.stop with
  | none =>
      rw [slice, h]
      exact ⟨0, 0, slice?_self (isBoundary_zero text)⟩
  | some part =>
      rw [slice, h]
      exact ⟨_, _, h⟩

theorem Text.IsPart.trans {text part inner : String} (h : IsPart text part) (h' : IsPart part inner) :
    IsPart text inner := by
  obtain ⟨a, b, h⟩ := h
  obtain ⟨i, j, h'⟩ := h'
  exact ⟨_, _, slice?_trans h h'⟩

theorem Table.Leftmost.part {t : Table} {text part : String} (h : t.Leftmost text) (hp : IsPart text part) :
    t.Leftmost part :=
  fun id r hr hs inner hin => h id r hr hs inner (hp.trans hin)

/-! Whether searches are leftmost can be computed: only offsets up to the end of the text count. -/

namespace CompiledRule

variable {r : CompiledRule} {text : String} {pos start : Nat}

theorem isNext_none_iff : r.IsNext text pos none ↔
    ∀ p < text.utf8ByteSize + 1, pos ≤ p → isBoundary text p = true → r.matchAt text p = .ok none :=
  ⟨fun h p _ => h p, fun h p hle hp => h p (Nat.lt_succ_of_le (isBoundary_le hp)) hle hp⟩

theorem isNext_some_iff : r.IsNext text pos (some start) ↔
    pos ≤ start ∧ (r.matchAt text start).toOption.join.isSome = true ∧
      ∀ p < start, pos ≤ p → isBoundary text p = true → r.matchAt text p = .ok none := by
  refine and_congr_right fun _ => and_congr ?_ ⟨fun h p hlt hle => h p hle hlt, fun h p hle hlt => h p hlt hle⟩
  cases r.matchAt text start with
  | error e => simp [Except.toOption]
  | ok found =>
      cases found with
      | none => simp [Except.toOption]
      | some m => simp [Except.toOption]

instance (r : CompiledRule) (text : String) (pos : Nat) :
    (start : Option Nat) → Decidable (r.IsNext text pos start)
  | none => decidable_of_iff _ isNext_none_iff.symm
  | some _ => decidable_of_iff _ isNext_some_iff.symm

theorem leftmost_iff : r.Leftmost text ↔ ∀ pos < text.utf8ByteSize + 1, isBoundary text pos = true →
    ∃ start ∈ (r.nextStart text pos).toOption, r.IsNext text pos start := by
  simp only [Option.mem_def, toOption_eq_some]
  exact ⟨fun h pos _ => h pos, fun h pos hpos => h pos (Nat.lt_succ_of_le (isBoundary_le hpos)) hpos⟩

instance (r : CompiledRule) (text : String) : Decidable (r.Leftmost text) :=
  decidable_of_iff _ leftmost_iff.symm

end CompiledRule

theorem Table.leftmost_iff {t : Table} {text : String} : t.Leftmost text ↔
    ∀ r ∈ t.rules.toList.flatten, r.needsSearch = true →
      ∀ a < text.utf8ByteSize + 1, ∀ b < text.utf8ByteSize + 1, ∀ part ∈ slice? text a b, r.Leftmost part := by
  constructor
  · intro h r hr hs a _ b _ part hpart
    obtain ⟨rules, hrules, hr⟩ := List.mem_flatten.mp hr
    obtain ⟨i, hi⟩ := List.mem_iff_getElem?.mp hrules
    refine h ⟨i⟩ r ?_ hs part ⟨a, b, hpart⟩
    simpa [rulesOf, rules?, ← Array.getElem?_toList, hi] using hr
  · intro h id r hr hs part hpart
    obtain ⟨a, b, hpart⟩ := hpart
    have ha := isBoundary_le (slice?_left hpart)
    have hb := isBoundary_le (slice?_right hpart)
    refine h r ?_ hs a (by omega) b (by omega) part hpart
    cases hi : t.rules[id.index]? with
    | none => simp [rulesOf, rules?, hi] at hr
    | some rules =>
        have hmem := Array.mem_toList_iff.mpr (Array.mem_of_getElem? hi)
        exact List.mem_flatten.mpr ⟨rules, hmem, by simpa [rulesOf, rules?, hi] using hr⟩

instance (t : Table) (text : String) : Decidable (t.Leftmost text) :=
  decidable_of_iff _ Table.leftmost_iff.symm

/-! ## Answers from memory -/

/-- Where the search says no, the rule does not match. -/
def NextMatch.Right (r : CompiledRule) (text : String) (n : NextMatch) : Prop :=
  ∀ p, isBoundary text p = true → n.answer? p = some false → r.matchAt text p = .ok none

theorem NextMatch.right_of_isNext {r : CompiledRule} {text : String} {pos : Nat} {start : Option Nat}
    (h : r.IsNext text pos start) : (NextMatch.mk pos start).Right r text := by
  intro p hp ha
  unfold answer? at ha
  split at ha
  · rename_i hle
    cases start with
    | none => exact h p hle hp
    | some start =>
        simp only at ha
        split at ha
        · rename_i hps
          have hne : p ≠ start := by simpa using ha
          exact h.2.2 p hle (by omega) hp
        · cases ha
  · cases ha

namespace Memo

theorem lookup_insert (slot slot' : Nat) (n : NextMatch) (known : List (Nat × NextMatch)) :
    lookup slot' (insert slot n known) = if slot' = slot then some n else lookup slot' known := by
  induction known with
  | nil =>
      by_cases h : slot' = slot
      · simp [insert, lookup, h]
      · simp [insert, lookup, h, Ne.symm h]
  | cons entry known ih =>
      obtain ⟨s, m⟩ := entry
      simp only [insert]
      split
      · rename_i hs
        subst hs
        by_cases h : slot' = s
        · simp [lookup, h]
        · simp [lookup, h, Ne.symm h]
      · rename_i hs
        simp only [lookup, ih]
        by_cases h : s = slot'
        · subst h; simp [hs]
        · simp [h]

/-- All that is remembered is right for the rules of the table. -/
def Right (t : Table) (text : String) (m : Memo) : Prop :=
  ∀ id, ∀ r ∈ t.rulesOf id, ∀ n, lookup r.slot m.known = some n → n.Right r text

theorem right_empty (t : Table) (text : String) : Right t text {} := by
  intro id r _ n h
  cases h

variable {t : Table} {text : String} {m : Memo} {r : CompiledRule} {id : StateId} {pos : Nat}

/-- What holds of every rule of the table and the entry under its slot still holds when an entry is made for one of
these rules. -/
theorem forall_lookup_insert {P : CompiledRule → NextMatch → Prop} (hslots : t.SlotsIdentify)
    {known : List (Nat × NextMatch)} (hknown : ∀ id, ∀ r ∈ t.rulesOf id, ∀ n, lookup r.slot known = some n → P r n)
    (hr : r ∈ t.rulesOf id) {n : NextMatch} (hn : P r n) :
    ∀ id, ∀ r' ∈ t.rulesOf id, ∀ n', lookup r'.slot (insert r.slot n known) = some n' → P r' n' := by
  intro id' r' hr' n' h
  rw [lookup_insert] at h
  split at h
  · rename_i hs
    cases h
    -- The entry is found under the slot of another state's rule only if that is the same rule.
    rw [hslots id' id r' hr' r hr hs]
    exact hn
  · exact hknown id' r' hr' n' h

theorem Right.insert (hm : m.Right t text) (hslots : t.SlotsIdentify) (hr : r ∈ t.rulesOf id) {n : NextMatch}
    (hn : n.Right r text) (searches : Nat) : Right t text ⟨Memo.insert r.slot n m.known, searches⟩ :=
  forall_lookup_insert (P := fun r n => n.Right r text) hslots hm hr hn

/-- Memory answers, says no only where the rule does not match, and stays right. -/
theorem mayMatch_right (hm : m.Right t text) (hslots : t.SlotsIdentify) (hr : r ∈ t.rulesOf id)
    (hleft : r.needsSearch = true → r.Leftmost text) (hpos : isBoundary text pos = true) :
    ∃ answer m', m.mayMatch r text pos = (.ok answer, m') ∧ m'.Right t text ∧
      (answer = false → r.matchAt text pos = .ok none) := by
  unfold mayMatch
  split
  · rename_i hs
    cases hk : (lookup r.slot m.known).bind (·.answer? pos) with
    | some answer =>
        obtain ⟨n, hn, ha⟩ := Option.bind_eq_some_iff.mp hk
        exact ⟨answer, m, rfl, hm, fun hfalse => hm id r hr n hn pos hpos (hfalse ▸ ha)⟩
    | none =>
        obtain ⟨start, hstart, hnext⟩ := hleft hs pos hpos
        have hright := NextMatch.right_of_isNext hnext
        simp only [hstart]
        refine ⟨_, _, rfl, hm.insert hslots hr hright _, fun hfalse => hright pos hpos ?_⟩
        cases start with
        | none => simp [NextMatch.answer?]
        | some start =>
            have hne : start ≠ pos := by simpa using hfalse
            have hle := hnext.1
            simp [NextMatch.answer?, hle, Ne.symm hne]
  · exact ⟨true, m, rfl, hm, fun h => by cases h⟩

end Memo

/-! ## Choosing a rule -/

namespace Table

variable {t : Table} {text : String} {id : StateId} {pos : Nat}

theorem choose_eq_firstMatch (hslots : t.SlotsIdentify) (hleft : t.Leftmost text)
    (hpos : isBoundary text pos = true) {rs : List CompiledRule} (hrs : ∀ r ∈ rs, r ∈ t.rulesOf id) {memo : Memo}
    (hm : memo.Right t text) : ∃ memo', choose text pos rs memo = (firstMatch text pos rs, memo') ∧
      memo'.Right t text := by
  induction rs generalizing memo with
  | nil => exact ⟨memo, rfl, hm⟩
  | cons r rs ih =>
      obtain ⟨hr, hrs⟩ := List.forall_mem_cons.mp hrs
      have hsearch : r.needsSearch = true → r.Leftmost text := fun hs => hleft id r hr hs text (isPart_self text)
      obtain ⟨answer, memo', hmay, hm', hno⟩ := Memo.mayMatch_right hm hslots hr hsearch hpos
      rw [choose, hmay, firstMatch]
      cases answer with
      | false => rw [hno rfl]; exact ih hrs hm'
      | true =>
          simp only
          cases hmatch : r.matchAt text pos with
          | error e => exact ⟨memo', rfl, hm'⟩
          | ok found =>
              cases found with
              | none => exact ih hrs hm'
              | some m => exact ⟨memo', rfl, hm'⟩

end Table

end ModalLexer
