import ModalLexer.Pattern.Regular.Automaton
import ModalLexer.Proofs.Pattern.Numbering
import ModalLexer.Proofs.Text.Boundary

/-!
What an automaton records. All its positions are boundaries of the text, and in the automaton of an
expression the whole match starts where its thread did and ends no earlier.
-/

namespace ModalLexer.Pattern

open Text (charAt? isBoundary isBoundary_charAt?)

/-! ## Code -/

/-- The states that an instruction leads to are below a bound, and it does not record where a match starts. -/
def Instr.Inside (n : Nat) : Instr → Prop
  | .char _ next => next < n
  | .chars _ next => next < n
  | .split x y => x < n ∧ y < n
  | .save slot next => slot ≠ 0 ∧ next < n
  | .check _ next => next < n
  | .accept => True

theorem Instr.Inside.mono {n m : Nat} (hnm : n ≤ m) : {i : Instr} → i.Inside n → i.Inside m
  | .char _ _, h => Nat.lt_of_lt_of_le h hnm
  | .chars _ _, h => Nat.lt_of_lt_of_le h hnm
  | .split _ _, h => ⟨Nat.lt_of_lt_of_le h.1 hnm, Nat.lt_of_lt_of_le h.2 hnm⟩
  | .save _ _, h => ⟨h.1, Nat.lt_of_lt_of_le h.2 hnm⟩
  | .check _ _, h => Nat.lt_of_lt_of_le h hnm
  | .accept, _ => trivial

/-- Everything that is recorded is a boundary of the text. -/
def OnBoundaries (text : String) (slots : Slots) : Prop :=
  ∀ (i v : Nat), slots[i]? = some (some v) → isBoundary text v = true

/-- The slots of a match: boundaries, the start of the whole match not after its end. -/
structure Ordered (text : String) (slots : Slots) : Prop where
  on : OnBoundaries text slots
  le : ∀ (a b : Nat), slots[0]? = some (some a) → slots[1]? = some (some b) → a ≤ b

theorem set_cases {slots : Slots} {n i v : Nat} {o : Option Nat}
    (h : (slots.set! n o)[i]? = some (some v)) : o = some v ∨ slots[i]? = some (some v) := by
  rw [Array.set!_eq_setIfInBounds, Array.getElem?_setIfInBounds] at h
  split at h
  · split at h
    · exact Or.inl (Option.some.inj h)
    · cases h
  · exact Or.inr h

theorem set_self {slots : Slots} {n v : Nat} {o : Option Nat} (h : (slots.set! n o)[n]? = some (some v)) :
    o = some v := by
  rw [Array.set!_eq_setIfInBounds, Array.getElem?_setIfInBounds_self] at h
  split at h
  · exact Option.some.inj h
  · cases h

theorem set_ne {slots : Slots} {n i : Nat} {o : Option Nat} (h : n ≠ i) : (slots.set! n o)[i]? = slots[i]? := by
  rw [Array.set!_eq_setIfInBounds, Array.getElem?_setIfInBounds_ne h]

theorem OnBoundaries.set {text : String} {slots : Slots} {n : Nat} {o : Option Nat} (h : OnBoundaries text slots)
    (ho : ∀ v, o = some v → isBoundary text v = true) : OnBoundaries text (slots.set! n o) := by
  intro i v hv
  rcases set_cases hv with hv | hv
  · exact ho v hv
  · exact h i v hv

theorem OnBoundaries.save {text : String} {slots : Slots} {n pos : Nat} (h : OnBoundaries text slots)
    (hpos : isBoundary text pos = true) : OnBoundaries text (slots.set! n (some pos)) :=
  h.set fun v hv => by cases hv; exact hpos

namespace Automaton

/-- No instruction leads out of the code. -/
def Closed (code : Array Instr) : Prop :=
  ∀ i ∈ code, i.Inside code.size

theorem Closed.push {code : Array Instr} {i : Instr} (h : Closed code) (hi : i.Inside (code.size + 1)) :
    Closed (code.push i) := by
  intro j hj
  rw [Array.size_push]
  rcases Array.mem_push.mp hj with hj | rfl
  · exact (h j hj).mono (Nat.le_succ _)
  · exact hi

theorem Closed.set {code : Array Instr} {i : Instr} (n : Nat) (h : Closed code) (hi : i.Inside code.size) :
    Closed (code.set! n i) := by
  intro j hj
  rw [Array.set!_eq_setIfInBounds] at hj ⊢
  rw [Array.size_setIfInBounds]
  rcases Array.mem_or_eq_of_mem_setIfInBounds hj with hj | rfl
  · exact h j hj
  · exact hi

theorem choice_inside {n : Nat} (greedy : Bool) {x y : Nat} (hx : x < n) (hy : y < n) :
    (choice greedy x y).Inside n := by
  cases greedy
  · exact ⟨hy, hx⟩
  · exact ⟨hx, hy⟩

/-- Code that has grown: it is still closed, and the state in front of it is one of its own. -/
structure Grown (code : Array Instr) (out : Nat × Array Instr) : Prop where
  closed : Closed out.2
  start : out.1 < out.2.size
  size : code.size ≤ out.2.size

theorem Grown.trans {code : Array Instr} {mid out : Nat × Array Instr} (h : Grown code mid)
    (h' : Grown mid.2 out) : Grown code out :=
  ⟨h'.closed, h'.start, Nat.le_trans h.size h'.size⟩

theorem Grown.refl {code : Array Instr} {next : Nat} (hc : Closed code) (hn : next < code.size) :
    Grown code (next, code) :=
  ⟨hc, hn, Nat.le_refl _⟩

theorem Grown.push {code : Array Instr} {mid : Nat × Array Instr} {i : Instr} (h : Grown code mid)
    (hi : i.Inside (mid.2.size + 1)) : Grown code (mid.2.size, mid.2.push i) :=
  ⟨h.closed.push hi, by simp, by simpa using Nat.le_succ_of_le h.size⟩

/-- Code of at least this size grows when it is extended in front of one of its states. -/
def Emits (least : Nat) (emit : Nat → Array Instr → Nat × Array Instr) : Prop :=
  ∀ next code, least ≤ code.size → Closed code → next < code.size → Grown code (emit next code)

theorem emits_push {least : Nat} {f : Nat → Instr} (hf : ∀ next n, next < n → (f next).Inside n) :
    Emits least fun next code => (code.size, code.push (f next)) := by
  intro next code _ hc hn
  exact (Grown.refl hc hn).push (hf next _ (Nat.lt_succ_of_lt hn))

theorem emitText_emits (cs : List Char) : Emits 0 (emitText cs) := by
  intro next code _ hc hn
  induction cs with
  | nil => exact .refl hc hn
  | cons c cs ih => exact ih.push (Nat.lt_succ_of_lt ih.start)

theorem emitCopies_emits {least : Nat} {emit : Nat → Array Instr → Nat × Array Instr} (h : Emits least emit)
    (n : Nat) : Emits least (emitCopies emit n) := by
  intro next code hl hc hn
  induction n generalizing next code with
  | zero => exact ⟨hc, hn, Nat.le_refl _⟩
  | succ n ih =>
      have hg := h next code hl hc hn
      exact hg.trans (ih _ _ (Nat.le_trans hl hg.size) hg.closed hg.start)

theorem emitLoop_emits {emit : Nat → Array Instr → Nat × Array Instr} (h : ∀ least, Emits least emit)
    (lo : Nat) (hi : Option Nat) (greedy consumes : Bool) : Emits 0 (emitLoop lo hi greedy consumes emit) := by
  intro next code _ hc hn
  cases hi with
  | some hi =>
      have hopt : Emits (next + 1) fun t code =>
          ((emit t code).2.size, (emit t code).2.push (choice greedy (emit t code).1 next)) := by
        intro t code hl hc ht
        have hg := h (next + 1) t code hl hc ht
        have := hg.size
        have := hg.start
        exact hg.push (choice_inside greedy (by omega) (by omega))
      have hrest := emitCopies_emits hopt (hi - lo) next code hn hc hn
      exact hrest.trans (emitCopies_emits (h 0) lo _ _ (Nat.zero_le _) hrest.closed hrest.start)
  | none =>
      have hhub := h 0 code.size (code.push .accept) (Nat.zero_le _) (hc.push trivial) (by simp)
      have hsize := hhub.size
      rw [Array.size_push] at hsize
      have hsplit : (choice greedy (emit code.size (code.push .accept)).1 next).Inside
          (emit code.size (code.push .accept)).2.size := choice_inside greedy hhub.start (by omega)
      -- the hub was reserved before the body, and is set once the body is known
      have hset : Grown code ((emit code.size (code.push .accept)).1, ((emit code.size (code.push .accept)).2.set!
          code.size (choice greedy (emit code.size (code.push .accept)).1 next))) :=
        ⟨hhub.closed.set _ hsplit, by simpa using hhub.start, by simp; omega⟩
      simp only [emitLoop]
      split
      · exact hset.trans (emitCopies_emits (h 0) (lo - 1) _ _ (Nat.zero_le _) hset.closed hset.start)
      · split
        · exact ⟨hset.closed, by simp; omega, hset.size⟩
        · exact hset.push (hsplit.mono (by simp))

theorem emits_mono {least : Nat} {emit : Nat → Array Instr → Nat × Array Instr} (h : Emits 0 emit) :
    Emits least emit :=
  fun next code _ hc hn => h next code (Nat.zero_le _) hc hn

theorem emitSeq_emits {rs : List Regular} (h : ∀ r ∈ rs, Emits 0 (emit r)) : Emits 0 (emitSeq rs) := by
  intro next code _ hc hn
  induction rs with
  | nil => simp only [emitSeq]; exact ⟨hc, hn, Nat.le_refl _⟩
  | cons r rs ih =>
      have hg := ih fun r hr => h r (List.mem_cons_of_mem _ hr)
      simp only [emitSeq]
      exact hg.trans (h r List.mem_cons_self _ _ (Nat.zero_le _) hg.closed hg.start)

theorem emitAlt_emits {rs : List Regular} (h : ∀ r ∈ rs, Emits 0 (emit r)) : Emits 0 (emitAlt rs) := by
  intro next code hl hc hn
  match rs, h with
  | [], _ =>
      simp only [emitAlt]
      exact emits_push (f := fun _ => .chars .empty 0) (fun _ _ h => Nat.zero_lt_of_lt h) next code hl hc hn
  | [r], h => simp only [emitAlt]; exact h r List.mem_cons_self next code hl hc hn
  | r :: r' :: rs, h =>
      have hy := emitAlt_emits (fun r hr => h r (List.mem_cons_of_mem _ hr)) next code hl hc hn
      have hx := h r List.mem_cons_self next _ (Nat.zero_le _) hy.closed (Nat.lt_of_lt_of_le hn hy.size)
      simp only [emitAlt]
      exact (hy.trans hx).push ⟨Nat.lt_succ_of_lt hx.start,
        Nat.lt_succ_of_lt (Nat.lt_of_lt_of_le hy.start hx.size)⟩

theorem emit_emits {r : Regular} (h : r.Numbered) : Emits 0 (emit r) := by
  induction h with
  | empty => intro next code _ hc hn; simp only [emit]; exact ⟨hc, hn, Nat.le_refl _⟩
  | text cs => intro next code hl hc hn; simp only [emit]; exact emitText_emits cs next code hl hc hn
  | oneOf b s =>
      intro next code hl hc hn
      simp only [emit]
      exact emits_push (f := .chars s) (fun _ _ h => h) next code hl hc hn
  | look l =>
      intro next code hl hc hn
      simp only [emit]
      exact emits_push (f := .check l) (fun _ _ h => h) next code hl hc hn
  | seq _ ih => intro next code hl hc hn; simp only [emit]; exact emitSeq_emits ih next code hl hc hn
  | alt _ ih => intro next code hl hc hn; simp only [emit]; exact emitAlt_emits ih next code hl hc hn
  | @group i r hi _ ih =>
      intro next code _ hc hn
      simp only [emit]
      have hstop : Grown code (code.size, code.push (.save (2 * i + 1) next)) :=
        (Grown.refl hc hn).push ⟨by omega, Nat.lt_succ_of_lt hn⟩
      have hbody := hstop.trans (ih _ _ (Nat.zero_le _) hstop.closed hstop.start)
      exact hbody.push ⟨by omega, Nat.lt_succ_of_lt hbody.start⟩
  | loop lo hi greedy _ ih =>
      intro next code hl hc hn
      simp only [emit]
      exact emitLoop_emits (fun _ => emits_mono ih) lo hi greedy _ next code hl hc hn

/-- The automaton of an expression starts by recording where the match starts, and never does so again. -/
theorem ofRegular_code {r : Regular} (h : r.Numbered) :
    (∃ body, (ofRegular r).code[(ofRegular r).start]? = some (.save 0 body) ∧ body < (ofRegular r).start) ∧
      ∀ (n : Nat) i, n ≠ (ofRegular r).start → (ofRegular r).code[n]? = some i → i.Inside (ofRegular r).start := by
  have hstop : Closed #[.accept, .save 1 0] := by
    intro i hi
    simp only [List.mem_toArray, List.mem_cons, List.not_mem_nil, or_false] at hi
    rcases hi with rfl | rfl
    · trivial
    · exact ⟨by omega, by simp⟩
  have hbody := emit_emits h 1 _ (Nat.zero_le _) hstop (by simp)
  have hcode : ofRegular r = ⟨(emit r 1 #[.accept, .save 1 0]).2.push (.save 0 (emit r 1 #[.accept, .save 1 0]).1),
      (emit r 1 #[.accept, .save 1 0]).2.size, r.groupCount⟩ := by
    simp [ofRegular, emit]
  rw [hcode]
  refine ⟨⟨_, by simp, hbody.start⟩, ?_⟩
  intro n i hn hi
  rw [Array.getElem?_push, if_neg hn] at hi
  exact hbody.closed i (Array.mem_of_getElem? hi)

/-! ## Threads -/

/-- A property of threads at a position that no step of the automaton breaks. -/
structure Keeps (a : Automaton) (text : String) (inv : Nat → Thread → Prop) : Prop where
  split {pos t x y} : inv pos t → a.code[t.state]? = some (.split x y) → inv pos ⟨x, t.slots⟩ ∧ inv pos ⟨y, t.slots⟩
  save {pos t slot n} : inv pos t → a.code[t.state]? = some (.save slot n) →
    inv pos ⟨n, t.slots.set! slot (some pos)⟩
  check {pos t l n} : inv pos t → a.code[t.state]? = some (.check l n) → l.holds text pos = true →
    inv pos ⟨n, t.slots⟩
  char {pos t c n} : inv pos t → charAt? text pos = some c → a.code[t.state]? = some (.char c n) →
    inv (pos + c.utf8Size) ⟨n, t.slots⟩
  chars {pos t c s n} : inv pos t → charAt? text pos = some c → a.code[t.state]? = some (.chars s n) →
    s.contains c = true → inv (pos + c.utf8Size) ⟨n, t.slots⟩

variable {a : Automaton} {text : String} {inv : Nat → Thread → Prop}

/-- A thread in this state waits for a character, or accepts. -/
structure Settled (a : Automaton) (state : Nat) : Prop where
  split : ∀ x y, a.code[state]? ≠ some (.split x y)
  save : ∀ slot n, a.code[state]? ≠ some (.save slot n)
  check : ∀ l n, a.code[state]? ≠ some (.check l n)

/-- Following threads adds settled threads behind those that are there. -/
theorem Keeps.close_appends (h : Keeps a text inv) {pos fuel : Nat} {ts : List Thread} {f : Front}
    (hts : ∀ t ∈ ts, inv pos t) :
    ∃ new, (close a text pos fuel ts f).threads.toList = f.threads.toList ++ new ∧
      ∀ t ∈ new, inv pos t ∧ Settled a t.state := by
  fun_induction Automaton.close a text pos fuel ts f with
  | case1 => exact ⟨[], by simp⟩
  | case2 => exact ⟨[], by simp⟩
  | case3 fuel t ts f _ ih => exact ih fun t ht => hts t (List.mem_cons_of_mem _ ht)
  | case4 fuel t ts f _ f' x y hi ih =>
      obtain ⟨ht, hts⟩ := List.forall_mem_cons.mp hts
      obtain ⟨hx, hy⟩ := h.split ht hi
      exact ih (List.forall_mem_cons.mpr ⟨hx, List.forall_mem_cons.mpr ⟨hy, hts⟩⟩)
  | case5 fuel t ts f _ f' slot n hi ih =>
      obtain ⟨ht, hts⟩ := List.forall_mem_cons.mp hts
      exact ih (List.forall_mem_cons.mpr ⟨h.save ht hi, hts⟩)
  | case6 fuel t ts f _ f' l n hi hl ih =>
      obtain ⟨ht, hts⟩ := List.forall_mem_cons.mp hts
      exact ih (List.forall_mem_cons.mpr ⟨h.check ht hi hl, hts⟩)
  | case7 fuel t ts f _ f' l n _ _ ih => exact ih fun t ht => hts t (List.mem_cons_of_mem _ ht)
  | case8 fuel t ts f _ f' hsplit hsave hcheck ih =>
      obtain ⟨ht, hts⟩ := List.forall_mem_cons.mp hts
      obtain ⟨new, hnew, hinv⟩ := ih hts
      refine ⟨t :: new, by simpa [f'] using hnew, List.forall_mem_cons.mpr ⟨⟨ht, ?_⟩, hinv⟩⟩
      exact ⟨hsplit, hsave, hcheck⟩

theorem Keeps.close (h : Keeps a text inv) {pos fuel : Nat} {ts : List Thread} {f : Front}
    (hts : ∀ t ∈ ts, inv pos t) (hf : ∀ t ∈ f.threads, inv pos t) :
    ∀ t ∈ (close a text pos fuel ts f).threads, inv pos t := by
  obtain ⟨new, hnew, hinv⟩ := h.close_appends hts
  intro t ht
  rw [← Array.mem_toList_iff, hnew] at ht
  rcases List.mem_append.mp ht with ht | ht
  · exact hf t (Array.mem_toList_iff.mp ht)
  · exact (hinv t ht).1

theorem Keeps.enter (h : Keeps a text inv) {pos : Nat} {t : Thread} {f : Front} (ht : inv pos t)
    (hf : ∀ t ∈ f.threads, inv pos t) : ∀ u ∈ (enter a text pos t f).threads, inv pos u := by
  have hts : ∀ u ∈ [t], inv pos u := by simpa using ht
  exact h.close hts hf

/-- The width of what stands at a position, if anything does. -/
private abbrev widthOf (c : Option Char) : Nat :=
  (c.map Char.utf8Size).getD 0

theorem Keeps.advance (h : Keeps a text inv) {pos : Nat} {ts : List Thread} {f : Front}
    (hts : ∀ t ∈ ts, inv pos t) (hf : ∀ t ∈ f.threads, inv (pos + widthOf (charAt? text pos)) t) :
    (∀ t ∈ (advance a text (pos + widthOf (charAt? text pos)) (charAt? text pos) ts f).1.threads,
      inv (pos + widthOf (charAt? text pos)) t) ∧
    ∀ slots, (advance a text (pos + widthOf (charAt? text pos)) (charAt? text pos) ts f).2 = some slots →
      ∃ t, inv pos t ∧ a.code[t.state]? = some .accept ∧ t.slots = slots := by
  generalize hc : charAt? text pos = c at *
  generalize hn : pos + widthOf c = next at *
  fun_induction Automaton.advance a text next c ts f with
  | case1 => exact ⟨hf, by simp⟩
  | case2 f t ts c hi =>
      refine ⟨hf, fun slots hs => ?_⟩
      cases hs
      exact ⟨t, hts t List.mem_cons_self, hi, rfl⟩
  | case3 t ts f n c hi ih =>
      obtain ⟨ht, hts⟩ := List.forall_mem_cons.mp hts
      subst hn
      exact ih hts hc rfl (h.enter (h.char ht hc hi) hf)
  | case4 t ts f d n c hi _ ih => exact ih (fun t ht => hts t (List.mem_cons_of_mem _ ht)) hc hn hf
  | case5 t ts f s n c hi hs ih =>
      obtain ⟨ht, hts⟩ := List.forall_mem_cons.mp hts
      subst hn
      exact ih hts hc rfl (h.enter (h.chars ht hc hi hs) hf)
  | case6 t ts f s n c hi _ ih => exact ih (fun t ht => hts t (List.mem_cons_of_mem _ ht)) hc hn hf
  | case7 c t ts f _ _ _ ih => exact ih (fun t ht => hts t (List.mem_cons_of_mem _ ht)) hc hn hf

/-- What a run finds are the slots of a thread that accepts. -/
theorem Keeps.run (h : Keeps a text inv) {searching : Bool} {fuel pos : Nat} {f : Front} {best : Option Slots}
    (hfirst : searching = true → ∀ p, isBoundary text p = true → inv p a.first)
    (hpos : isBoundary text pos = true) (hf : ∀ t ∈ f.threads, inv pos t)
    (hbest : ∀ slots, best = some slots → ∃ p t, inv p t ∧ a.code[t.state]? = some .accept ∧ t.slots = slots)
    {slots : Slots} (hr : run a text searching fuel pos f best = some slots) :
    ∃ p t, inv p t ∧ a.code[t.state]? = some .accept ∧ t.slots = slots := by
  induction fuel generalizing pos f best with
  | zero => exact hbest slots hr
  | succ fuel ih =>
      simp only [Automaton.run] at hr
      generalize hg : (if (searching && best.isNone) = true then Automaton.enter a text pos a.first f else f) = g at hr
      have hgt : ∀ t ∈ g.threads, inv pos t := by
        subst hg
        split
        · rename_i hs
          simp only [Bool.and_eq_true] at hs
          exact h.enter (hfirst hs.1 pos hpos) hf
        · exact hf
      split at hr
      · exact hbest slots hr
      · have hts : ∀ t ∈ g.threads.toList, inv pos t := by simpa using hgt
        obtain ⟨hnext, hfound⟩ := h.advance (f := ⟨g.stamps, #[]⟩) hts (by simp)
        have hbest' : ∀ slots, ((Automaton.advance a text (pos + widthOf (charAt? text pos)) (charAt? text pos)
            g.threads.toList ⟨g.stamps, #[]⟩).2 <|> best) = some slots →
            ∃ p t, inv p t ∧ a.code[t.state]? = some .accept ∧ t.slots = slots := by
          intro slots hs
          cases hadv : (Automaton.advance a text (pos + widthOf (charAt? text pos)) (charAt? text pos)
            g.threads.toList ⟨g.stamps, #[]⟩).2 with
          | none => rw [hadv] at hs; exact hbest slots hs
          | some found => rw [hadv] at hs; cases hs; exact ⟨pos, hfound _ hadv⟩
        split at hr
        · exact hbest' slots hr
        · rename_i hc
          obtain ⟨c, hc⟩ := Option.ne_none_iff_exists'.mp (by simpa using hc)
          have hwidth : widthOf (charAt? text pos) = c.utf8Size := by rw [hc]; rfl
          refine ih ?_ hnext hbest' hr
          rw [hwidth]
          exact isBoundary_charAt? hc

/-! ## Positions -/

theorem onBoundaries_keeps (a : Automaton) (text : String) :
    Keeps a text fun pos t => isBoundary text pos = true ∧ OnBoundaries text t.slots where
  split h _ := ⟨h, h⟩
  save h _ := ⟨h.1, h.2.save h.1⟩
  check h _ _ := h
  char h hc _ := ⟨isBoundary_charAt? hc, h.2⟩
  chars h hc _ _ := ⟨isBoundary_charAt? hc, h.2⟩

theorem first_onBoundaries (a : Automaton) (text : String) : OnBoundaries text a.first.slots := by
  intro i v h
  simp [first, Array.getElem?_replicate] at h

theorem matchAt_onBoundaries {a : Automaton} {text : String} {pos : Nat} {slots : Slots}
    (hpos : isBoundary text pos = true) (h : a.matchAt text pos = some slots) : OnBoundaries text slots := by
  have hk := onBoundaries_keeps a text
  obtain ⟨_, _, ht, _, rfl⟩ := hk.run (by simp) hpos
    (hk.enter ⟨hpos, a.first_onBoundaries text⟩ (by simp [emptyFront])) (by simp) h
  exact ht.2

theorem search_onBoundaries {a : Automaton} {text : String} {pos : Nat} {slots : Slots}
    (hpos : isBoundary text pos = true) (h : a.search text pos = some slots) : OnBoundaries text slots := by
  have hk := onBoundaries_keeps a text
  obtain ⟨_, _, ht, _, rfl⟩ := hk.run (fun _ p hp => ⟨hp, a.first_onBoundaries text⟩) hpos
    (by simp [emptyFront]) (by simp) h
  exact ht.2

/-! ## Where a match starts -/

/-- A thread that started at `origin`: it has recorded nothing before, and once it has left the first state, the
start of the match is where it started. -/
structure Thread.From (a : Automaton) (origin pos : Nat) (t : Thread) : Prop where
  reached : origin ≤ pos
  later : ∀ (i v : Nat), t.slots[i]? = some (some v) → origin ≤ v
  first : t.state = a.start → pos = origin
  start : t.state ≠ a.start → ∀ v, t.slots[0]? = some (some v) → v = origin

theorem Thread.From.later_set {a : Automaton} {origin pos : Nat} {t : Thread} (h : t.From a origin pos) (n : Nat) :
    ∀ (i v : Nat), (t.slots.set! n (some pos))[i]? = some (some v) → origin ≤ v := by
  intro i v hv
  rcases set_cases hv with hv | hv
  · cases hv; exact h.reached
  · exact h.later i v hv

theorem Thread.From.ofFirst (a : Automaton) (pos : Nat) : a.first.From a pos pos := by
  refine ⟨Nat.le_refl _, ?_, fun _ => rfl, fun hs => absurd rfl hs⟩
  intro i v hv
  simp [Automaton.first, Array.getElem?_replicate] at hv

theorem from_keeps {r : Regular} (hr : r.Numbered) (text : String) (origin : Nat) :
    Keeps (ofRegular r) text (Thread.From (ofRegular r) origin) := by
  obtain ⟨⟨body, hstart, hbody⟩, hinside⟩ := ofRegular_code hr
  -- only the first state records the start, so any other instruction leads on with the start unchanged
  have hne : ∀ {t : Thread} {i : Instr}, (ofRegular r).code[t.state]? = some i → (∀ b, i ≠ .save 0 b) →
      t.state ≠ (ofRegular r).start ∧ i.Inside (ofRegular r).start := by
    intro t i hi hsave
    have hs : t.state ≠ (ofRegular r).start := by
      intro hs
      rw [hs, hstart] at hi
      exact hsave body (Option.some.inj hi).symm
    exact ⟨hs, hinside _ _ hs hi⟩
  have hmove : ∀ {t : Thread} {pos pos' n : Nat}, Thread.From (ofRegular r) origin pos t →
      t.state ≠ (ofRegular r).start → pos ≤ pos' → n < (ofRegular r).start →
      Thread.From (ofRegular r) origin pos' ⟨n, t.slots⟩ := by
    intro t pos pos' n h hs hp hn
    exact ⟨Nat.le_trans h.reached hp, h.later, fun he => absurd he (Nat.ne_of_lt hn), fun _ => h.start hs⟩
  refine ⟨?_, ?_, ?_, ?_, ?_⟩
  · intro pos t x y h hi
    obtain ⟨hs, hin⟩ := hne hi (by simp)
    exact ⟨hmove h hs (Nat.le_refl _) hin.1, hmove h hs (Nat.le_refl _) hin.2⟩
  · intro pos t slot n h hi
    by_cases hs : t.state = (ofRegular r).start
    · rw [hs, hstart] at hi
      cases hi
      refine ⟨h.reached, h.later_set 0, fun he => absurd he (Nat.ne_of_lt hbody), fun _ v hv => ?_⟩
      cases set_self hv
      exact h.first hs
    · obtain ⟨hslot, hn⟩ := hinside _ _ hs hi
      refine ⟨h.reached, h.later_set slot, fun he => absurd he (Nat.ne_of_lt hn), fun _ v hv => ?_⟩
      rw [set_ne hslot] at hv
      exact h.start hs v hv
  · intro pos t l n h hi _
    obtain ⟨hs, hin⟩ := hne hi (by simp)
    exact hmove h hs (Nat.le_refl _) hin
  · intro pos t c n h _ hi
    obtain ⟨hs, hin⟩ := hne hi (by simp)
    exact hmove h hs (Nat.le_add_right _ _) hin
  · intro pos t c s n h _ hi _
    obtain ⟨hs, hin⟩ := hne hi (by simp)
    exact hmove h hs (Nat.le_add_right _ _) hin

/-- The slots of a match that starts at an offset: nothing is recorded before it. -/
structure StartingAt (origin : Nat) (slots : Slots) : Prop where
  start : ∀ v, slots[0]? = some (some v) → v = origin
  later : ∀ (i v : Nat), slots[i]? = some (some v) → origin ≤ v

theorem Thread.From.starting {r : Regular} (hr : r.Numbered) {origin pos : Nat} {t : Thread}
    (h : t.From (ofRegular r) origin pos) (ht : (ofRegular r).code[t.state]? = some .accept) :
    StartingAt origin t.slots := by
  obtain ⟨⟨body, hstart, _⟩, _⟩ := ofRegular_code hr
  refine ⟨h.start ?_, h.later⟩
  intro hs
  rw [hs, hstart] at ht
  cases ht

theorem matchAt_starting {r : Regular} (hr : r.Numbered) {text : String} {pos : Nat} {slots : Slots}
    (hpos : isBoundary text pos = true) (h : (ofRegular r).matchAt text pos = some slots) :
    StartingAt pos slots := by
  have hk := from_keeps hr text pos
  obtain ⟨_, _, ht, hacc, rfl⟩ := hk.run (by simp) hpos
    (hk.enter (.ofFirst _ pos) (by simp [emptyFront])) (by simp) h
  exact ht.starting hr hacc

/-- A match that is searched for ends no earlier than it starts. -/
theorem search_ordered {r : Regular} (hr : r.Numbered) {text : String} {pos : Nat} {slots : Slots}
    (hpos : isBoundary text pos = true) (h : (ofRegular r).search text pos = some slots) :
    Ordered text slots := by
  have hk : Keeps (ofRegular r) text fun pos t => ∃ origin, t.From (ofRegular r) origin pos := by
    have hfrom := from_keeps hr text
    refine ⟨?_, ?_, ?_, ?_, ?_⟩
    · rintro pos t x y ⟨o, h⟩ hi
      exact ⟨⟨o, ((hfrom o).split h hi).1⟩, ⟨o, ((hfrom o).split h hi).2⟩⟩
    · rintro pos t slot n ⟨o, h⟩ hi
      exact ⟨o, (hfrom o).save h hi⟩
    · rintro pos t l n ⟨o, h⟩ hi hl
      exact ⟨o, (hfrom o).check h hi hl⟩
    · rintro pos t c n ⟨o, h⟩ hc hi
      exact ⟨o, (hfrom o).char h hc hi⟩
    · rintro pos t c s n ⟨o, h⟩ hc hi hs
      exact ⟨o, (hfrom o).chars h hc hi hs⟩
  refine ⟨search_onBoundaries hpos h, fun a b ha hb => ?_⟩
  obtain ⟨_, _, ⟨o, ht⟩, hacc, rfl⟩ := hk.run (fun _ p _ => ⟨p, .ofFirst _ p⟩) hpos (by simp [emptyFront])
    (by simp) h
  have hs := ht.starting hr hacc
  rw [hs.start a ha]
  exact hs.later 1 b hb

end Automaton

end ModalLexer.Pattern
