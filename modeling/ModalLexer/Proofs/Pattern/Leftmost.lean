import ModalLexer.Proofs.Pattern.Matcher
import ModalLexer.Proofs.Pattern.Paths

/-!
Searches that agree with matches. Where a search finds a match, the match that is asked for at its start is there,
and none is at the offsets before; where it finds none, there is none. An automaton that searches finds what starts
first, and it records where that starts and ends.
-/

namespace ModalLexer

open Text

/-- Where a search finds nothing, there is no match to ask for. -/
def Matcher.Conclusive (m : Matcher) (text : String) : Prop :=
  ∀ pos, isBoundary text pos = true → m.next text pos = .ok none →
    ∀ p, pos ≤ p → isBoundary text p = true → m.find text p = .ok none

/-- What a search says is what the matches say that can be asked for. -/
structure Matcher.Leftmost (m : Matcher) (text : String) : Prop where
  found {pos start} : isBoundary text pos = true → m.next text pos = .ok (some start) →
    pos ≤ start ∧ (∃ span, m.find text start = .ok (some span) ∧ span.start = start) ∧
      ∀ p, pos ≤ p → p < start → isBoundary text p = true → m.find text p = .ok none
  nothing : m.Conclusive text

namespace Pattern

/-! ## Code -/

/-- The instruction leads to state zero only by recording in slot one, or never, and it does not accept. -/
def Instr.RecordsEnd : Instr → Prop
  | .char _ next => next ≠ 0
  | .chars s next => next = 0 → s = .empty
  | .split x y => x ≠ 0 ∧ y ≠ 0
  | .save slot next => next = 0 → slot = 1
  | .check _ next => next ≠ 0
  | .accept => False

namespace Automaton

theorem choice_recordsEnd (greedy : Bool) {x y : Nat} (hx : x ≠ 0) (hy : y ≠ 0) :
    (choice greedy x y).RecordsEnd := by
  cases greedy
  · exact ⟨hy, hx⟩
  · exact ⟨hx, hy⟩

/-- Code that has grown by such instructions, with a state other than state zero in front of it. -/
structure Extended (code : Array Instr) (out : Nat × Array Instr) : Prop where
  start : out.1 ≠ 0
  size : code.size ≤ out.2.size
  fresh : ∀ (n : Nat) i, out.2[n]? = some i → code[n]? = some i ∨ i.RecordsEnd

theorem Extended.refl {code : Array Instr} {next : Nat} (hn : next ≠ 0) : Extended code (next, code) :=
  ⟨hn, Nat.le_refl _, fun _ _ => .inl⟩

theorem Extended.trans {code : Array Instr} {mid out : Nat × Array Instr} (h : Extended code mid)
    (h' : Extended mid.2 out) : Extended code out := by
  refine ⟨h'.start, Nat.le_trans h.size h'.size, fun n i hi => ?_⟩
  rcases h'.fresh n i hi with hi | hi
  · exact h.fresh n i hi
  · exact .inr hi

theorem Extended.push {code : Array Instr} {mid : Nat × Array Instr} {i : Instr} (h : Extended code mid)
    (hc : code.size ≠ 0) (hi : i.RecordsEnd) : Extended code (mid.2.size, mid.2.push i) := by
  have hsize := h.size
  refine ⟨by simp only; omega, by simp; omega, fun n j hj => ?_⟩
  rw [Array.getElem?_push] at hj
  split at hj
  · cases hj; exact .inr hi
  · exact h.fresh n j hj

/-- Code that is not empty is extended in front of any state but state zero. -/
def Extends (emit : Nat → Array Instr → Nat × Array Instr) : Prop :=
  ∀ next code, next ≠ 0 → code.size ≠ 0 → Extended code (emit next code)

theorem emitText_extends (cs : List Char) : Extends (emitText cs) := by
  intro next code hn hc
  induction cs with
  | nil => exact .refl hn
  | cons c cs ih => exact ih.push hc ih.start

theorem emitCopies_extends {emit : Nat → Array Instr → Nat × Array Instr} (h : Extends emit) (n : Nat) :
    Extends (emitCopies emit n) := by
  intro next code hn hc
  induction n generalizing next code with
  | zero => exact .refl hn
  | succ n ih =>
      have hfirst := h next code hn hc
      have hsize := hfirst.size
      exact hfirst.trans (ih _ _ hfirst.start (by omega))

theorem emitLoop_extends {emit : Nat → Array Instr → Nat × Array Instr} (h : Extends emit) (lo : Nat)
    (hi : Option Nat) (greedy consumes : Bool) : Extends (emitLoop lo hi greedy consumes emit) := by
  intro next code hn hc
  cases hi with
  | some hi =>
      have hopt : Extends fun t code =>
          ((emit t code).2.size, (emit t code).2.push (choice greedy (emit t code).1 next)) := by
        intro t code ht hc
        have hbody := h t code ht hc
        exact hbody.push hc (choice_recordsEnd greedy hbody.start hn)
      have hrest := emitCopies_extends hopt (hi - lo) next code hn hc
      have hsize := hrest.size
      exact hrest.trans (emitCopies_extends h lo _ _ hrest.start (by omega))
  | none =>
      have hbody := h code.size (code.push .accept) hc (by simp)
      have hsize := hbody.size
      rw [Array.size_push] at hsize
      have hchoice := choice_recordsEnd greedy hbody.start hn
      -- The hub was reserved with an accepting state, which the choice takes the place of.
      have hset : Extended code ((emit code.size (code.push .accept)).1, ((emit code.size (code.push .accept)).2.set!
          code.size (choice greedy (emit code.size (code.push .accept)).1 next))) := by
        refine ⟨hbody.start, by simp; omega, fun n i hi => ?_⟩
        rw [Array.set!_eq_setIfInBounds, Array.getElem?_setIfInBounds] at hi
        split at hi
        · split at hi
          · cases hi; exact .inr hchoice
          · cases hi
        next hne =>
          rcases hbody.fresh n i hi with hi | hi
          · rw [Array.getElem?_push, if_neg (Ne.symm hne)] at hi
            exact .inl hi
          · exact .inr hi
      simp only [emitLoop]
      split
      · have hgrown := Nat.lt_of_lt_of_le (Nat.pos_of_ne_zero hc) hset.size
        exact hset.trans (emitCopies_extends h (lo - 1) _ _ hbody.start (Nat.ne_of_gt hgrown))
      · split
        · exact ⟨hc, hset.size, hset.fresh⟩
        · exact hset.push hc hchoice

theorem emitSeq_extends {rs : List Regular} (h : ∀ r ∈ rs, Extends (emit r)) : Extends (emitSeq rs) := by
  intro next code hn hc
  induction rs with
  | nil => simp only [emitSeq]; exact .refl hn
  | cons r rs ih =>
      have hrest := ih fun r hr => h r (List.mem_cons_of_mem _ hr)
      have hsize := hrest.size
      simp only [emitSeq]
      exact hrest.trans (h r List.mem_cons_self _ _ hrest.start (by omega))

theorem emitAlt_extends {rs : List Regular} (h : ∀ r ∈ rs, Extends (emit r)) : Extends (emitAlt rs) := by
  intro next code hn hc
  match rs, h with
  | [], _ =>
      simp only [emitAlt]
      exact (Extended.refl hn).push hc fun _ => rfl
  | [r], h => simp only [emitAlt]; exact h r List.mem_cons_self next code hn hc
  | r :: r' :: rs, h =>
      have hy := emitAlt_extends (fun r hr => h r (List.mem_cons_of_mem _ hr)) next code hn hc
      have hsize := hy.size
      have hx := h r List.mem_cons_self next (emitAlt (r' :: rs) next code).2 hn (by omega)
      simp only [emitAlt]
      exact (hy.trans hx).push hc ⟨hx.start, hy.start⟩

theorem emit_extends {r : Regular} (h : r.Numbered) : Extends (emit r) := by
  induction h with
  | empty => intro next code hn hc; simp only [emit]; exact .refl hn
  | text cs => intro next code hn hc; simp only [emit]; exact emitText_extends cs next code hn hc
  | oneOf b s =>
      intro next code hn hc
      simp only [emit]
      exact (Extended.refl hn).push hc fun h0 => absurd h0 hn
  | look l => intro next code hn hc; simp only [emit]; exact (Extended.refl hn).push hc hn
  | seq _ ih => intro next code hn hc; simp only [emit]; exact emitSeq_extends ih next code hn hc
  | alt _ ih => intro next code hn hc; simp only [emit]; exact emitAlt_extends ih next code hn hc
  | @group i r hi _ ih =>
      intro next code hn hc
      simp only [emit]
      have hstop : Extended code (code.size, code.push (.save (2 * i + 1) next)) :=
        (Extended.refl hn).push hc fun h0 => absurd h0 hn
      have hbody := hstop.trans (ih _ _ hc (by simp))
      exact hbody.push hc fun h0 => absurd h0 hbody.start
  | loop lo hi greedy _ ih =>
      intro next code hn hc
      simp only [emit]
      exact emitLoop_extends ih lo hi greedy _ next code hn hc

/-- In the automaton of an expression only state zero accepts, and no way leads there but past the record of the
end. -/
theorem ofRegular_ends {r : Regular} (h : r.Numbered) {n : Nat} {i : Instr} (hi : (ofRegular r).code[n]? = some i) :
    n = 0 ∧ i = .accept ∨ i.RecordsEnd := by
  have hbody := emit_extends h 1 #[.accept, .save 1 0] (by omega) (by simp)
  have hcode : (ofRegular r).code =
      (emit r 1 #[.accept, .save 1 0]).2.push (.save 0 (emit r 1 #[.accept, .save 1 0]).1) := by
    simp [ofRegular, emit]
  rw [hcode] at hi
  have hfirst : (Instr.save 0 (emit r 1 #[.accept, .save 1 0]).1).RecordsEnd := fun h0 => absurd h0 hbody.start
  rcases (hbody.push (by simp) hfirst).fresh n i hi with hi | hi
  · rcases n with _ | _ | n
    · cases hi; exact .inl ⟨rfl, rfl⟩
    · cases hi; exact .inr fun _ => rfl
    · simp at hi
  · exact .inr hi

/-! ## What is recorded of the whole match -/

/-- A thread that started at `start` has recorded that once it has left its first state, and a thread that accepts has
recorded where it ends. -/
structure Thread.Records (a : Automaton) (start pos : Nat) (t : Thread) : Prop where
  size : 2 ≤ t.slots.size
  first : t.state = a.start → pos = start
  start : t.state ≠ a.start → t.slots[0]? = some (some start)
  stop : t.state = 0 → ∃ v, t.slots[1]? = some (some v)

section

variable {r : Regular} {text : String} {start pos : Nat} {t : Thread} {slots : Slots}

theorem ofRegular_start_pos (hr : r.Numbered) : 0 < (ofRegular r).start := by
  obtain ⟨⟨_, _, hlt⟩, _⟩ := ofRegular_code hr
  omega

/-- A step that leaves the slots as they are, to a state below the first one. -/
theorem Thread.Records.move {next pos' : Nat} (h : t.Records (ofRegular r) start pos)
    (hfirst : t.state ≠ (ofRegular r).start) (hnext : next < (ofRegular r).start) (hstop : next = 0 → t.state = 0) :
    Thread.Records (ofRegular r) start pos' ⟨next, t.slots⟩ :=
  ⟨h.size, fun he => absurd he (Nat.ne_of_lt hnext), fun _ => h.start hfirst, fun h0 => h.stop (hstop h0)⟩

theorem records_keeps (hr : r.Numbered) (text : String) (start : Nat) :
    Keeps (ofRegular r) text (Thread.Records (ofRegular r) start) := by
  obtain ⟨⟨body, hcode, hbody⟩, hinside⟩ := ofRegular_code hr
  have hends := fun n i (hi : (ofRegular r).code[n]? = some i) => ofRegular_ends hr hi
  -- Any instruction but the first one leads below the first state.
  have hne {n : Nat} {i : Instr} (hi : (ofRegular r).code[n]? = some i) (hsave : ∀ b, i ≠ .save 0 b) :
      n ≠ (ofRegular r).start ∧ i.Inside (ofRegular r).start := by
    have hn : n ≠ (ofRegular r).start := by
      rintro rfl
      exact hsave body (Option.some.inj (hi.symm.trans hcode))
    exact ⟨hn, hinside _ _ hn hi⟩
  constructor
  · intro pos t x y h hi
    obtain ⟨hfirst, hx, hy⟩ := hne hi (by simp)
    rcases hends _ _ hi with ⟨_, h0⟩ | ⟨hx0, hy0⟩
    · cases h0
    · exact ⟨h.move hfirst hx fun h0 => absurd h0 hx0, h.move hfirst hy fun h0 => absurd h0 hy0⟩
  · intro pos t slot n h hi
    have hsize : 2 ≤ (t.slots.set! slot (some pos)).size := by simpa using h.size
    have hstop : n = 0 → ∃ v, (t.slots.set! slot (some pos))[1]? = some (some v) := by
      intro h0
      rcases hends _ _ hi with ⟨_, h1⟩ | hslot
      · cases h1
      · obtain rfl := hslot h0
        exact ⟨pos, by simp [Array.set!_eq_setIfInBounds, Array.getElem?_setIfInBounds]; exact h.size⟩
    by_cases hfirst : t.state = (ofRegular r).start
    · rw [hfirst, hcode] at hi
      cases hi
      refine ⟨hsize, fun he => absurd he (Nat.ne_of_lt hbody), fun _ => ?_, hstop⟩
      rw [h.first hfirst, Array.set!_eq_setIfInBounds, Array.getElem?_setIfInBounds_self_of_lt]
      have := h.size
      omega
    · obtain ⟨hslot, hn⟩ := hinside _ _ hfirst hi
      exact ⟨hsize, fun he => absurd he (Nat.ne_of_lt hn), fun _ => by rw [set_ne hslot]; exact h.start hfirst, hstop⟩
  · intro pos t l n h hi _
    obtain ⟨hfirst, hn⟩ := hne hi (by simp)
    rcases hends _ _ hi with ⟨_, h0⟩ | hn0
    · cases h0
    · exact h.move hfirst hn fun h0 => absurd h0 hn0
  · intro pos t c n h _ hi
    obtain ⟨hfirst, hn⟩ := hne hi (by simp)
    rcases hends _ _ hi with ⟨_, h0⟩ | hn0
    · cases h0
    · exact h.move hfirst hn fun h0 => absurd h0 hn0
  · intro pos t c s n h _ hi hs
    obtain ⟨hfirst, hn⟩ := hne hi (by simp)
    rcases hends _ _ hi with ⟨_, h0⟩ | hempty
    · cases h0
    · refine h.move hfirst hn fun h0 => ?_
      rw [hempty h0] at hs
      cases hs

theorem first_records (hr : r.Numbered) (pos : Nat) : (ofRegular r).first.Records (ofRegular r) pos pos := by
  have hgroups : 0 < (ofRegular r).groups := r.groupCount_pos
  have hstart := ofRegular_start_pos hr
  refine ⟨by simp [first]; omega, fun _ => rfl, fun h => absurd rfl h, fun h0 => ?_⟩
  simp only [first] at h0
  omega

theorem Thread.Records.spanOf (hr : r.Numbered) (h : t.Records (ofRegular r) start pos)
    (hacc : (ofRegular r).code[t.state]? = some .accept) : ∃ stop, spanOf t.slots 0 = some ⟨start, stop⟩ := by
  have hstart := ofRegular_start_pos hr
  rcases ofRegular_ends hr hacc with ⟨h0, _⟩ | hends
  · obtain ⟨stop, hstop⟩ := h.stop h0
    have hfirst := h.start (by omega)
    exact ⟨stop, by simp [Pattern.spanOf, hfirst, hstop]⟩
  · cases hends

/-- An automaton matches where a path starts, and records that. -/
theorem matchAt_spec (hr : r.Numbered) (hpos : isBoundary text pos = true) :
    (Live (ofRegular r) text pos (ofRegular r).start →
      ∃ slots stop, (ofRegular r).matchAt text pos = some slots ∧ spanOf slots 0 = some ⟨pos, stop⟩) ∧
    (¬ Live (ofRegular r) text pos (ofRegular r).start → (ofRegular r).matchAt text pos = none) := by
  refine ⟨fun hlive => ?_, matchAt_eq_none⟩
  obtain ⟨p, t, hm, ht, hacc⟩ := matchAt_live (records_keeps hr text pos) hpos (first_records hr pos) hlive
  obtain ⟨stop, hspan⟩ := ht.spanOf hr hacc
  exact ⟨t.slots, stop, hm, hspan⟩

/-- An automaton that searches finds what starts first, and records where. -/
theorem search_spec (hr : r.Numbered) (hpos : isBoundary text pos = true) :
    (∃ start slots stop, Earliest (ofRegular r) text pos start ∧ (ofRegular r).search text pos = some slots ∧
      spanOf slots 0 = some ⟨start, stop⟩) ∨
    (ofRegular r).search text pos = none ∧
      ∀ p, pos ≤ p → isBoundary text p = true → ¬ Live (ofRegular r) text p (ofRegular r).start := by
  have hle := isBoundary_le hpos
  have hfuel : text.utf8ByteSize < pos + (text.utf8ByteSize + 1 - pos) := by omega
  rcases run_search (records_keeps hr text) (first_records hr) hpos hfuel
    (emptyFront_spent (ofRegular r) text pos) with ⟨start, p, t, hearliest, hrun, ht, hacc⟩ | hnone
  · obtain ⟨stop, hspan⟩ := ht.spanOf hr hacc
    exact .inl ⟨start, t.slots, stop, hearliest, hrun, hspan⟩
  · exact .inr hnone

end

end Automaton

/-! ## Matchers -/

theorem regularMatcher_leftmost {r : Regular} (hr : r.Numbered) (text : String) :
    (regularMatcher r).Leftmost text where
  found {pos start} hpos h := by
    have h : (((Automaton.ofRegular r).search text pos).bind (spanOf · 0)).map (·.start) = some start :=
      Except.ok.inj h
    rcases Automaton.search_spec hr hpos with ⟨start', slots, stop, hearliest, hs, hspan⟩ | ⟨hs, _⟩
    · obtain rfl : start' = start := by simpa [hs, hspan] using h
      obtain ⟨slots', stop', hm, hspan'⟩ := (Automaton.matchAt_spec hr hearliest.boundary).1 hearliest.live
      refine ⟨hearliest.le, ⟨⟨start', stop'⟩, by simp [regularMatcher, hm, hspan'], rfl⟩, fun p hle hlt hp => ?_⟩
      simp [regularMatcher, (Automaton.matchAt_spec hr hp).2 (hearliest.earlier p hle hlt hp)]
    · simp [hs] at h
  nothing pos hpos h p hle hp := by
    have h : (((Automaton.ofRegular r).search text pos).bind (spanOf · 0)).map (·.start) = none := Except.ok.inj h
    rcases Automaton.search_spec hr hpos with ⟨start, slots, stop, _, hs, hspan⟩ | ⟨_, hdead⟩
    · simp [hs, hspan] at h
    · simp [regularMatcher, (Automaton.matchAt_spec hr hp).2 (hdead p hle hp)]

/-- Where a match that has been found starts. -/
def startOf (found : Option Slots) : Option Nat :=
  (found.bind (spanOf · 0)).map (·.start)

/-- A search that begins later starts its match where an earlier search did, if that is not before it and cannot have
been moved; and it finds nothing where the earlier one found nothing. -/
structure Resumes (moved : Bool) (text : String) (search : Nat → Option (Option Slots)) : Prop where
  starts {pos found} : moved = false → isBoundary text pos = true → search pos = some found →
    ∀ start, startOf found = some start → pos ≤ start ∧ isBoundary text start = true
  again {pos found} : isBoundary text pos = true → search pos = some found →
    ∀ p, pos ≤ p → isBoundary text p = true → (∀ start, startOf found = some start → moved = false ∧ p ≤ start) →
      ∃ found', search p = some found' ∧ startOf found' = startOf found

theorem Resumes.weaken {text : String} {search : Nat → Option (Option Slots)} (h : Resumes false text search)
    (moved : Bool) : Resumes moved text search where
  starts _ := h.starts rfl
  again hpos hf p hle hp hlater := h.again hpos hf p hle hp fun start hs => ⟨rfl, (hlater start hs).2⟩

section

variable {groupCount groups pos : Nat} {search : String → Nat → Option (Option Slots)} {text : String}

theorem searchingMatcher_next {o : Option Nat}
    (h : (searchingMatcher groupCount groups search).next text pos = .ok o) :
    ∃ found, search text pos = some found ∧ startOf found = o := by
  simp only [searchingMatcher] at h
  split at h
  · cases h
  next found hf => exact ⟨found, hf, Except.ok.inj h⟩

theorem searchingMatcher_find {found : Option Slots} (h : search text pos = some found)
    (hne : startOf found ≠ some pos) : (searchingMatcher groupCount groups search).find text pos = .ok none := by
  simp only [searchingMatcher, h]
  cases hspan : found.bind (spanOf · 0) with
  | none => rfl
  | some span =>
      have hstart : span.start ≠ pos := by simpa [startOf, hspan] using hne
      simp [Option.filter, hstart]

theorem searchingMatcher_conclusive {moved : Bool} (h : Resumes moved text (search text)) :
    (searchingMatcher groupCount groups search).Conclusive text := by
  intro pos hpos hn p hle hp
  obtain ⟨found, hf, hnone⟩ := searchingMatcher_next hn
  obtain ⟨found', hs, hsame⟩ := h.again hpos hf p hle hp (by simp [hnone])
  exact searchingMatcher_find hs (by simp [hsame, hnone])

theorem searchingMatcher_leftmost (h : Resumes false text (search text)) :
    (searchingMatcher groupCount groups search).Leftmost text := by
  refine ⟨fun {pos start} hpos hn => ?_, searchingMatcher_conclusive h⟩
  obtain ⟨found, hf, hstart⟩ := searchingMatcher_next hn
  obtain ⟨hle, hb⟩ := h.starts rfl hpos hf start hstart
  have hagain (p : Nat) (hle : pos ≤ p) (hp : isBoundary text p = true) (hlt : p ≤ start) :
      ∃ found', search text p = some found' ∧ startOf found' = some start := by
    rw [← hstart]
    exact h.again hpos hf p hle hp fun s hs => ⟨rfl, by cases hs.symm.trans hstart; exact hlt⟩
  refine ⟨hle, ?_, fun p hle hlt hp => ?_⟩
  · obtain ⟨found', hs, hsame⟩ := hagain start hle hb (Nat.le_refl _)
    obtain ⟨span, hspan, hstart⟩ := Option.map_eq_some_iff.mp hsame
    exact ⟨span, by simp [searchingMatcher, hs, hspan, Option.filter, hstart], hstart⟩
  · obtain ⟨found', hs, hsame⟩ := hagain p hle hp (Nat.le_of_lt hlt)
    exact searchingMatcher_find hs (by rw [hsame]; simp; omega)

end

theorem Automaton.search_resumes {r : Regular} (hr : r.Numbered) (text : String) :
    Resumes false text fun pos => some ((ofRegular r).search text pos) where
  starts {pos found} _ hpos hf start hs := by
    cases hf
    rcases search_spec hr hpos with ⟨start', slots, stop, hearliest, hsearch, hspan⟩ | ⟨hsearch, _⟩
    · obtain rfl : start' = start := by simpa [startOf, hsearch, hspan] using hs
      exact ⟨hearliest.le, hearliest.boundary⟩
    · simp [startOf, hsearch] at hs
  again {pos found} hpos hf p hle hp hlater := by
    cases hf
    refine ⟨_, rfl, ?_⟩
    rcases search_spec hr hpos with ⟨start, slots, stop, hearliest, hs, hspan⟩ | ⟨hs, hdead⟩
    · have hstart : startOf ((ofRegular r).search text pos) = some start := by simp [startOf, hs, hspan]
      have hlt : p ≤ start := (hlater start hstart).2
      rw [hstart]
      -- What starts first from `pos` on starts first from `p` on.
      rcases search_spec hr hp with ⟨start', slots', stop', hearliest', hs', hspan'⟩ | ⟨_, hdead⟩
      · obtain rfl : start' = start := by
          rcases Nat.lt_trichotomy start' start with hlt' | heq | hlt'
          · have hle' := hearliest'.le
            exact absurd hearliest'.live (hearliest.earlier start' (by omega) hlt' hearliest'.boundary)
          · exact heq
          · exact absurd hearliest.live (hearliest'.earlier start hlt hlt' hearliest.boundary)
        simp [startOf, hs', hspan']
      · exact absurd hearliest.live (hdead start hlt hearliest.boundary)
    · rw [hs]
      rcases search_spec hr hp with ⟨start', _, _, hearliest', _, _⟩ | ⟨hs', _⟩
      · have hle' := hearliest'.le
        exact absurd hearliest'.live (hdead start' (by omega) hearliest'.boundary)
      · rw [hs']

end Pattern

end ModalLexer
