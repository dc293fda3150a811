import ModalLexer.Proofs.Pattern.Automaton

/-!
What an automaton finds. At a position it enters no state twice, and it drops what is less preferred than a match;
still it matches wherever a path leads to the accepting state. The invariant is that states which have been entered
lead nowhere, up to the first thread that leads to the accepting state: that thread goes on, and it decides the match.
-/

namespace ModalLexer.Pattern.Automaton

open Text

variable {a : Automaton} {text : String} {pos : Nat}

/-! ## Paths -/

/-- A path of so many steps leads from a state at a position to the accepting state. -/
inductive Path (a : Automaton) (text : String) : (steps pos state : Nat) → Prop
  | accept {pos q : Nat} (code : a.code[q]? = some .accept) : Path a text 0 pos q
  | first {n pos q x y : Nat} (code : a.code[q]? = some (.split x y)) (rest : Path a text n pos x) :
    Path a text (n + 1) pos q
  | second {n pos q x y : Nat} (code : a.code[q]? = some (.split x y)) (rest : Path a text n pos y) :
    Path a text (n + 1) pos q
  | save {n pos q slot next : Nat} (code : a.code[q]? = some (.save slot next)) (rest : Path a text n pos next) :
    Path a text (n + 1) pos q
  | check {n pos q next : Nat} {l : Look} (code : a.code[q]? = some (.check l next)) (holds : l.holds text pos = true)
    (rest : Path a text n pos next) : Path a text (n + 1) pos q
  | char {n pos q next : Nat} {c : Char} (code : a.code[q]? = some (.char c next)) (here : charAt? text pos = some c)
    (rest : Path a text n (pos + c.utf8Size) next) : Path a text (n + 1) pos q
  | chars {n pos q next : Nat} {c : Char} {s : CharSet} (code : a.code[q]? = some (.chars s next))
    (here : charAt? text pos = some c) (mem : s.contains c = true) (rest : Path a text n (pos + c.utf8Size) next) :
    Path a text (n + 1) pos q

/-- A path leads from the state at the position to the accepting state. -/
def Live (a : Automaton) (text : String) (pos state : Nat) : Prop :=
  ∃ n, Path a text n pos state

/-- A step that takes no character, read backwards: a live thread goes on in one of the threads that follow it. -/
def Follow (a : Automaton) (text : String) (pos state : Nat) (ts : List Thread) : Prop :=
  ∀ n, Path a text n pos state → ∃ t ∈ ts, ∃ m < n, Path a text m pos t.state

variable {q : Nat}

theorem follow_split {x y : Nat} {slots slots' : Slots} (hi : a.code[q]? = some (.split x y)) :
    Follow a text pos q [⟨x, slots⟩, ⟨y, slots'⟩] := by
  intro n h
  cases h with
  | first code rest => cases hi.symm.trans code; exact ⟨_, List.mem_cons_self, _, Nat.lt_succ_self _, rest⟩
  | second code rest =>
      cases hi.symm.trans code
      exact ⟨_, List.mem_cons_of_mem _ List.mem_cons_self, _, Nat.lt_succ_self _, rest⟩
  | _ => simp_all

theorem follow_save {slot next : Nat} {slots : Slots} (hi : a.code[q]? = some (.save slot next)) :
    Follow a text pos q [⟨next, slots⟩] := by
  intro n h
  cases h with
  | save code rest => cases hi.symm.trans code; exact ⟨_, List.mem_cons_self, _, Nat.lt_succ_self _, rest⟩
  | _ => simp_all

theorem follow_check {l : Look} {next : Nat} {slots : Slots} (hi : a.code[q]? = some (.check l next)) :
    Follow a text pos q [⟨next, slots⟩] := by
  intro n h
  cases h with
  | check code _ rest => cases hi.symm.trans code; exact ⟨_, List.mem_cons_self, _, Nat.lt_succ_self _, rest⟩
  | _ => simp_all

theorem not_live_check {l : Look} {next : Nat} (hi : a.code[q]? = some (.check l next))
    (hl : l.holds text pos = false) : ¬ Live a text pos q := by
  rintro ⟨n, h⟩
  cases h with
  | check code holds rest => cases hi.symm.trans code; simp [hl] at holds
  | _ => simp_all

theorem follow_of_not_live (h : ¬ Live a text pos q) : Follow a text pos q [] :=
  fun n hn => absurd ⟨n, hn⟩ h

theorem Follow.mono {ts us : List Thread} (h : Follow a text pos q ts) (hsub : ∀ t ∈ ts, t ∈ us) :
    Follow a text pos q us := by
  intro n hn
  obtain ⟨t, ht, m, hm, hp⟩ := h n hn
  exact ⟨t, hsub t ht, m, hm, hp⟩

theorem Follow.replace {t : Thread} {ts us : List Thread} (h : Follow a text pos q (t :: ts))
    (ht : Follow a text pos t.state us) : Follow a text pos q (us ++ ts) := by
  intro n hn
  obtain ⟨u, hu, m, hm, hp⟩ := h n hn
  rcases List.mem_cons.mp hu with rfl | hu
  · obtain ⟨v, hv, k, hk, hp⟩ := ht m hp
    exact ⟨v, List.mem_append_left _ hv, k, by omega, hp⟩
  · exact ⟨u, List.mem_append_right _ hu, m, hm, hp⟩

/-- A state need not go on in itself: the path gets shorter. -/
theorem Follow.drop_self {t : Thread} {ts : List Thread} (h : Follow a text pos t.state (t :: ts)) :
    Follow a text pos t.state ts := by
  intro n
  induction n using Nat.strongRecOn with
  | _ n ih =>
      intro hn
      obtain ⟨u, hu, m, hm, hp⟩ := h n hn
      rcases List.mem_cons.mp hu with rfl | hu
      · obtain ⟨v, hv, k, hk, hp⟩ := ih m hm hp
        exact ⟨v, hv, k, by omega, hp⟩
      · exact ⟨u, hu, m, hm, hp⟩

theorem live_lt (h : Live a text pos q) : q < a.code.size := by
  obtain ⟨n, h⟩ := h
  have hsome : ∃ i, a.code[q]? = some i := by cases h <;> exact ⟨_, ‹_›⟩
  obtain ⟨i, hi⟩ := hsome
  exact (Array.getElem?_eq_some_iff.mp hi).1

/-- No step of a thread that is not live leads to one that is. -/
theorem not_live_keeps (a : Automaton) (text : String) : Keeps a text fun pos t => ¬ Live a text pos t.state where
  split h hi := ⟨fun ⟨_, hp⟩ => h ⟨_, .first hi hp⟩, fun ⟨_, hp⟩ => h ⟨_, .second hi hp⟩⟩
  save h hi := fun ⟨_, hp⟩ => h ⟨_, .save hi hp⟩
  check h hi hl := fun ⟨_, hp⟩ => h ⟨_, .check hi hl hp⟩
  char h hc hi := fun ⟨_, hp⟩ => h ⟨_, .char hi hc hp⟩
  chars h hc hi hs := fun ⟨_, hp⟩ => h ⟨_, .chars hi hc hs hp⟩

/-! ## States that have been entered -/

/-- The stamps of a front at a position: one for each state, none of a later position. -/
structure Front.Stamped (a : Automaton) (pos : Nat) (f : Front) : Prop where
  size : f.stamps.size = a.code.size
  le : ∀ (q v : Nat), f.stamps[q]? = some v → v ≤ pos + 1

/-- The state has been entered at the position. -/
def Front.Entered (f : Front) (pos q : Nat) : Prop :=
  f.stamps[q]? = some (pos + 1)

/-- The front after a state has been entered. -/
def Front.enter (f : Front) (pos q : Nat) : Front :=
  { f with stamps := f.stamps.set! q (pos + 1) }

/-- The number of states that have not been entered at the position. -/
def Front.unentered (f : Front) (pos : Nat) : Nat :=
  f.stamps.countP (· != pos + 1)

section

variable {f : Front}

theorem Front.entered_enter {q' : Nat} (h : (f.enter pos q).Entered pos q') : q' = q ∨ f.Entered pos q' := by
  unfold Entered enter at h
  rw [Array.set!_eq_setIfInBounds, Array.getElem?_setIfInBounds] at h
  split at h
  · exact .inl (Eq.symm ‹_›)
  · exact .inr h

theorem Front.Stamped.enter (h : f.Stamped a pos) (q : Nat) : (f.enter pos q).Stamped a pos := by
  refine ⟨by simpa [Front.enter] using h.size, fun q' v hv => ?_⟩
  unfold Front.enter at hv
  rw [Array.set!_eq_setIfInBounds, Array.getElem?_setIfInBounds] at hv
  split at hv
  · split at hv
    · cases hv; exact Nat.le_refl _
    · cases hv
  · exact h.le q' v hv

theorem Front.Stamped.mono {pos' : Nat} (h : f.Stamped a pos) (hle : pos ≤ pos') : f.Stamped a pos' :=
  ⟨h.size, fun q v hv => Nat.le_trans (h.le q v hv) (Nat.succ_le_succ hle)⟩

/-- The test whether a state has been entered says yes of the states that there are not, too. -/
theorem Front.Stamped.getD_eq (h : f.Stamped a pos) (hi : f.stamps.getD q (pos + 1) = pos + 1) :
    f.Entered pos q ∨ ¬ Live a text pos q := by
  by_cases hq : q < f.stamps.size
  · left
    rw [Array.getD_eq_getD_getElem?, Array.getElem?_eq_getElem hq, Option.getD_some] at hi
    rw [Front.Entered, Array.getElem?_eq_getElem hq, hi]
  · right
    intro hlive
    have hlt := live_lt hlive
    rw [← h.size] at hlt
    exact hq hlt

theorem Front.unentered_enter (hi : ¬ f.stamps.getD q (pos + 1) = pos + 1) :
    (f.enter pos q).unentered pos + 1 = f.unentered pos := by
  have hq : q < f.stamps.size := by
    rcases Nat.lt_or_ge q f.stamps.size with hq | hq
    · exact hq
    · exact absurd (by simp [Array.getD_eq_getD_getElem?, Array.getElem?_eq_none hq]) hi
  rw [Array.getD_eq_getD_getElem?, Array.getElem?_eq_getElem hq, Option.getD_some] at hi
  have hpos : 0 < f.stamps.countP (· != pos + 1) :=
    Array.countP_pos_iff.mpr ⟨f.stamps[q], Array.getElem_mem hq, by simpa using hi⟩
  have hset : (f.enter pos q).unentered pos = f.stamps.countP (· != pos + 1) - 1 := by
    simp [Front.unentered, Front.enter, Array.set!_eq_setIfInBounds, Array.setIfInBounds, hq, Array.countP_set, hi]
  rw [hset, Front.unentered]
  omega

end

/-! ## Following threads -/

/-- Every state that has been entered goes on in the threads that are still to be followed. -/
def Pending (a : Automaton) (text : String) (pos : Nat) (ts : List Thread) (f : Front) : Prop :=
  ∀ q, f.Entered pos q → Follow a text pos q ts

/-- Some thread leads to the accepting state. -/
def AnyLive (a : Automaton) (text : String) (pos : Nat) (ts : List Thread) : Prop :=
  ∃ t ∈ ts, Live a text pos t.state

section

variable {f : Front} {t : Thread} {ts us : List Thread}

theorem AnyLive.follow (h : AnyLive a text pos (t :: ts)) (ht : Follow a text pos t.state us) :
    AnyLive a text pos (us ++ ts) := by
  obtain ⟨u, hu, hlive⟩ := h
  rcases List.mem_cons.mp hu with rfl | hu
  · obtain ⟨n, hn⟩ := hlive
    obtain ⟨v, hv, m, _, hp⟩ := ht n hn
    exact ⟨v, List.mem_append_left _ hv, m, hp⟩
  · exact ⟨u, List.mem_append_right _ hu, hlive⟩

theorem Pending.enter (h : Pending a text pos (t :: ts) f) (ht : Follow a text pos t.state us) :
    Pending a text pos (us ++ ts) (f.enter pos t.state) := by
  intro q hq
  rcases Front.entered_enter hq with rfl | hq
  · exact ht.mono fun u hu => List.mem_append_left _ hu
  · exact (h q hq).replace ht

theorem Pending.skip (h : Pending a text pos (t :: ts) f) (ht : Follow a text pos t.state []) :
    Pending a text pos ts f :=
  fun q hq => (h q hq).replace ht

/-- The front has a live thread, or what is left to follow has one and makes up for the states that were entered. -/
def Owed (a : Automaton) (text : String) (pos : Nat) (ts : List Thread) (f : Front) : Prop :=
  AnyLive a text pos f.threads.toList ∨ Pending a text pos ts f ∧ AnyLive a text pos ts

theorem Owed.settled (h : Owed a text pos [] f) : AnyLive a text pos f.threads.toList := by
  rcases h with h | ⟨_, _, ht, _⟩
  · exact h
  · cases ht

theorem Owed.enter (h : Owed a text pos (t :: ts) f) (ht : Follow a text pos t.state us) :
    Owed a text pos (us ++ ts) (f.enter pos t.state) :=
  h.imp_right fun h => ⟨h.1.enter ht, h.2.follow ht⟩

/-- A state is entered once only: what it leads to is among the other threads, or it leads nowhere. -/
theorem Owed.skip (h : Owed a text pos (t :: ts) f) (ht : f.Entered pos t.state ∨ ¬ Live a text pos t.state) :
    Owed a text pos ts f := by
  refine h.imp_right fun h => ?_
  obtain ⟨hpending, hlive⟩ := h
  rcases ht with hentered | hdead
  · have hself := (hpending _ hentered).drop_self
    have hsub : ∀ u ∈ ts ++ ts, u ∈ ts := by simp
    obtain ⟨u, hu, hlive⟩ := hlive.follow hself
    exact ⟨fun q hq => ((hpending q hq).replace hself).mono hsub, u, hsub u hu, hlive⟩
  · exact ⟨hpending.skip (follow_of_not_live hdead), hlive.follow (follow_of_not_live hdead)⟩

/-- Following threads of which one is live leaves a live thread. Each step takes a thread off the list or enters a
state, and that puts at most two threads on it. -/
theorem close_live {fuel : Nat} (hst : f.Stamped a pos) (hfuel : ts.length + 2 * f.unentered pos ≤ fuel)
    (h : Owed a text pos ts f) : AnyLive a text pos (close a text pos fuel ts f).threads.toList := by
  fun_induction Automaton.close a text pos fuel ts f with
  | case1 ts f =>
      obtain rfl : ts = [] := List.length_eq_zero_iff.mp (by omega)
      exact h.settled
  | case2 => exact h.settled
  | case3 fuel t ts f hi ih => exact ih hst (by simp at hfuel; omega) (h.skip (hst.getD_eq hi))
  | case4 fuel t ts f hi f' x y hcode ih =>
      have hcount : f'.unentered pos + 1 = f.unentered pos := Front.unentered_enter hi
      exact ih (hst.enter t.state) (by simp only [List.length_cons] at hfuel ⊢; omega) (h.enter (follow_split hcode))
  | case5 fuel t ts f hi f' slot next hcode ih =>
      have hcount : f'.unentered pos + 1 = f.unentered pos := Front.unentered_enter hi
      exact ih (hst.enter t.state) (by simp only [List.length_cons] at hfuel ⊢; omega) (h.enter (follow_save hcode))
  | case6 fuel t ts f hi f' l next hcode _ ih =>
      have hcount : f'.unentered pos + 1 = f.unentered pos := Front.unentered_enter hi
      exact ih (hst.enter t.state) (by simp only [List.length_cons] at hfuel ⊢; omega) (h.enter (follow_check hcode))
  | case7 fuel t ts f hi f' l next hcode hl ih =>
      have hcount : f'.unentered pos + 1 = f.unentered pos := Front.unentered_enter hi
      have hdead : ¬ Live a text pos t.state := not_live_check hcode (by simpa using hl)
      exact ih (hst.enter t.state) (by simp only [List.length_cons] at hfuel ⊢; omega)
        (h.enter (follow_of_not_live hdead))
  | case8 fuel t ts f hi f' _ _ _ ih =>
      have hcount : f'.unentered pos + 1 = f.unentered pos := Front.unentered_enter hi
      have hpushed : Front.unentered ⟨f'.stamps, f'.threads.push t⟩ pos = f'.unentered pos := rfl
      have hst' : f'.Stamped a pos := hst.enter t.state
      refine ih ⟨hst'.size, hst'.le⟩ (by simp only [List.length_cons] at hfuel ⊢; omega) ?_
      by_cases hlive : Live a text pos t.state
      · exact .inl ⟨t, by simp, hlive⟩
      · refine (h.enter (follow_of_not_live hlive)).imp_left fun h => ?_
        obtain ⟨u, hu, hlive⟩ := h
        rw [Array.toList_push]
        exact ⟨u, List.mem_append_left _ hu, hlive⟩

end

/-! ## Spent fronts -/

/-- What every step of following threads keeps of the stamps. -/
theorem Keeps.close_stamps {inv : Nat → Thread → Prop} (h : Keeps a text inv) {R : Array Nat → Prop} {fuel : Nat}
    {ts : List Thread} {f : Front} (hR : ∀ t stamps, inv pos t → R stamps → R (stamps.set! t.state (pos + 1)))
    (hts : ∀ t ∈ ts, inv pos t) (hf : R f.stamps) : R (Automaton.close a text pos fuel ts f).stamps := by
  fun_induction Automaton.close a text pos fuel ts f with
  | case1 => exact hf
  | case2 => exact hf
  | case3 fuel t ts f _ ih => exact ih (fun t ht => hts t (List.mem_cons_of_mem _ ht)) hf
  | case4 fuel t ts f _ f' x y hi ih =>
      obtain ⟨ht, hts⟩ := List.forall_mem_cons.mp hts
      obtain ⟨hx, hy⟩ := h.split ht hi
      exact ih (List.forall_mem_cons.mpr ⟨hx, List.forall_mem_cons.mpr ⟨hy, hts⟩⟩) (hR t _ ht hf)
  | case5 fuel t ts f _ f' slot n hi ih =>
      obtain ⟨ht, hts⟩ := List.forall_mem_cons.mp hts
      exact ih (List.forall_mem_cons.mpr ⟨h.save ht hi, hts⟩) (hR t _ ht hf)
  | case6 fuel t ts f _ f' l n hi hl ih =>
      obtain ⟨ht, hts⟩ := List.forall_mem_cons.mp hts
      exact ih (List.forall_mem_cons.mpr ⟨h.check ht hi hl, hts⟩) (hR t _ ht hf)
  | case7 fuel t ts f _ f' l n _ _ ih =>
      obtain ⟨ht, hts⟩ := List.forall_mem_cons.mp hts
      exact ih hts (hR t _ ht hf)
  | case8 fuel t ts f _ f' _ _ _ ih =>
      obtain ⟨ht, hts⟩ := List.forall_mem_cons.mp hts
      exact ih hts (hR t _ ht hf)

theorem Keeps.enter_stamps {inv : Nat → Thread → Prop} (h : Keeps a text inv) {R : Array Nat → Prop} {t : Thread}
    {f : Front} (hR : ∀ t stamps, inv pos t → R stamps → R (stamps.set! t.state (pos + 1))) (ht : inv pos t)
    (hf : R f.stamps) : R (Automaton.enter a text pos t f).stamps := by
  have hts : ∀ u ∈ [t], inv pos u := by simpa using ht
  exact h.close_stamps hR hts hf

theorem true_keeps (a : Automaton) (text : String) : Keeps a text fun _ _ => True where
  split _ _ := ⟨trivial, trivial⟩
  save _ _ := trivial
  check _ _ _ := trivial
  char _ _ _ := trivial
  chars _ _ _ _ := trivial

theorem enter_stamped {f : Front} (h : f.Stamped a pos) (t : Thread) : (enter a text pos t f).Stamped a pos := by
  have hR : ∀ (t : Thread) (stamps : Array Nat), True → Front.Stamped a pos ⟨stamps, #[]⟩ →
      Front.Stamped a pos ⟨stamps.set! t.state (pos + 1), #[]⟩ := fun t _ _ hs => hs.enter t.state
  have hall := (true_keeps a text).enter_stamps (t := t) hR trivial ⟨h.size, h.le⟩
  exact ⟨hall.size, hall.le⟩

theorem Keeps.enter_appends {inv : Nat → Thread → Prop} (h : Keeps a text inv) {t : Thread} (f : Front)
    (ht : inv pos t) : ∃ new, (Automaton.enter a text pos t f).threads.toList = f.threads.toList ++ new ∧
      ∀ u ∈ new, inv pos u ∧ Settled a u.state := by
  have hts : ∀ u ∈ [t], inv pos u := by simpa using ht
  exact h.close_appends hts

/-- What a thread enters stands behind the threads that are there. -/
theorem enter_appends (a : Automaton) (text : String) (pos : Nat) (t : Thread) (f : Front) :
    ∃ new, (enter a text pos t f).threads.toList = f.threads.toList ++ new := by
  obtain ⟨new, hnew, _⟩ := (true_keeps a text).enter_appends (t := t) f trivial
  exact ⟨new, hnew⟩

/-- A front that finds nothing: neither its threads nor the states that have been entered are live. -/
structure Spent (a : Automaton) (text : String) (pos : Nat) (f : Front) : Prop where
  stamped : f.Stamped a pos
  entered : ∀ q, f.Entered pos q → ¬ Live a text pos q
  threads : ∀ t ∈ f.threads, ¬ Live a text pos t.state

section

variable {f : Front} {t : Thread} {inv : Nat → Thread → Prop}

theorem Spent.enter (h : Spent a text pos f) (ht : ¬ Live a text pos t.state) :
    Spent a text pos (enter a text pos t f) where
  stamped := enter_stamped h.stamped t
  threads := (not_live_keeps a text).enter ht h.threads
  entered := by
    have hR : ∀ (t : Thread) (stamps : Array Nat), ¬ Live a text pos t.state →
        (∀ q, Front.Entered ⟨stamps, #[]⟩ pos q → ¬ Live a text pos q) →
        ∀ q, Front.Entered ⟨stamps.set! t.state (pos + 1), #[]⟩ pos q → ¬ Live a text pos q := by
      intro t stamps ht hs q hq
      have hcases : q = t.state ∨ Front.Entered ⟨stamps, #[]⟩ pos q := Front.entered_enter hq
      rcases hcases with rfl | hq
      · exact ht
      · exact hs q hq
    exact (not_live_keeps a text).enter_stamps hR ht h.entered

/-- Nothing has been entered yet at a later position. -/
theorem Front.Stamped.spent {pos' : Nat} (h : f.Stamped a pos) (hlt : pos < pos') :
    Spent a text pos' ⟨f.stamps, #[]⟩ where
  stamped := ⟨h.size, (h.mono (Nat.le_of_lt hlt)).le⟩
  entered q hq := by
    have hle := h.le q _ hq
    omega
  threads := by simp

/-- The first live thread has the property, and it waits for a character or accepts. -/
def Leads (a : Automaton) (text : String) (inv : Nat → Thread → Prop) (pos : Nat) (ts : List Thread) : Prop :=
  ∃ front t back, ts = front ++ t :: back ∧ (∀ u ∈ front, ¬ Live a text pos u.state) ∧ Live a text pos t.state ∧
    inv pos t ∧ Settled a t.state

theorem Leads.append {ts : List Thread} (h : Leads a text inv pos ts) (more : List Thread) :
    Leads a text inv pos (ts ++ more) := by
  obtain ⟨front, t, back, rfl, hfront, ht⟩ := h
  exact ⟨front, t, back ++ more, by simp, hfront, ht⟩

theorem Leads.of_new {old new : List Thread} (hold : ∀ t ∈ old, ¬ Live a text pos t.state)
    (hnew : ∀ t ∈ new, inv pos t ∧ Settled a t.state) (hlive : AnyLive a text pos new) :
    Leads a text inv pos (old ++ new) := by
  induction new generalizing old with
  | nil => obtain ⟨_, ht, _⟩ := hlive; cases ht
  | cons t new ih =>
      obtain ⟨ht, hnew⟩ := List.forall_mem_cons.mp hnew
      by_cases hfirst : Live a text pos t.state
      · exact ⟨old, t, new, rfl, hold, hfirst, ht.1, ht.2⟩
      · obtain ⟨u, hu, hlive⟩ := hlive
        rcases List.mem_cons.mp hu with rfl | hu
        · exact absurd hlive hfirst
        · have hold' : ∀ u ∈ old ++ [t], ¬ Live a text pos u.state :=
            List.forall_mem_append.mpr ⟨hold, List.forall_mem_singleton.mpr hfirst⟩
          simpa using ih hold' hnew ⟨u, hu, hlive⟩

theorem Spent.enter_leads (h : Spent a text pos f) (hk : Keeps a text inv) (ht : inv pos t)
    (hlive : Live a text pos t.state) : Leads a text inv pos (Automaton.enter a text pos t f).threads.toList := by
  have hold : ∀ u ∈ f.threads.toList, ¬ Live a text pos u.state := by simpa using h.threads
  have hfuel : [t].length + 2 * f.unentered pos ≤ 2 * a.code.size + 2 := by
    have hcount : f.unentered pos ≤ f.stamps.size := Array.countP_le_size
    have hsize := h.stamped.size
    simp only [List.length_singleton]
    omega
  have hpending : Pending a text pos [t] f := fun q hq => follow_of_not_live (h.entered q hq) |>.mono (by simp)
  obtain ⟨new, hnew, hinv⟩ := hk.enter_appends f ht
  have hany : AnyLive a text pos (Automaton.enter a text pos t f).threads.toList :=
    close_live h.stamped hfuel (.inr ⟨hpending, t, List.mem_singleton_self t, hlive⟩)
  rw [hnew] at hany ⊢
  obtain ⟨u, hu, hu'⟩ := hany
  rcases List.mem_append.mp hu with hu | hu
  · exact absurd hu' (hold u hu)
  · exact .of_new hold hinv ⟨u, hu, hu'⟩

end

/-! ## Moving over a character -/

section

variable {inv : Nat → Thread → Prop} {c : Option Char} {next : Nat} {f : Front} {ts us : List Thread}

theorem advance_append (h : (advance a text next c ts f).2 = none) :
    advance a text next c (ts ++ us) f = advance a text next c us (advance a text next c ts f).1 := by
  induction ts generalizing f with
  | nil => rfl
  | cons t ts ih =>
      simp only [List.cons_append, Automaton.advance] at h ⊢
      split at h
      · cases h
      · split at h
        next hc => simp only [if_pos hc]; exact ih h
        next hc => simp only [if_neg hc]; exact ih h
      · split at h
        next hc => simp only [if_pos hc]; exact ih h
        next hc => simp only [if_neg hc]; exact ih h
      · exact ih h

theorem advance_appends (a : Automaton) (text : String) (next : Nat) (c : Option Char) (ts : List Thread) (f : Front) :
    ∃ new, (advance a text next c ts f).1.threads.toList = f.threads.toList ++ new := by
  fun_induction Automaton.advance a text next c ts f with
  | case1 => exact ⟨[], by simp⟩
  | case2 => exact ⟨[], by simp⟩
  | case3 t ts f n c _ ih =>
      obtain ⟨new, hnew⟩ := enter_appends a text next ⟨n, t.slots⟩ f
      obtain ⟨more, hmore⟩ := ih
      exact ⟨new ++ more, by rw [hmore, hnew, List.append_assoc]⟩
  | case4 _ _ _ _ _ _ _ _ ih => exact ih
  | case5 t ts f s n c _ _ ih =>
      obtain ⟨new, hnew⟩ := enter_appends a text next ⟨n, t.slots⟩ f
      obtain ⟨more, hmore⟩ := ih
      exact ⟨new ++ more, by rw [hmore, hnew, List.append_assoc]⟩
  | case6 _ _ _ _ _ _ _ _ ih => exact ih
  | case7 _ _ _ _ _ _ _ ih => exact ih

theorem advance_stamped (h : f.Stamped a next) : (advance a text next c ts f).1.Stamped a next := by
  fun_induction Automaton.advance a text next c ts f with
  | case1 => exact h
  | case2 => exact h
  | case3 t ts f n c _ ih => exact ih (enter_stamped h _)
  | case4 _ _ _ _ _ _ _ _ ih => exact ih h
  | case5 t ts f s n c _ _ ih => exact ih (enter_stamped h _)
  | case6 _ _ _ _ _ _ _ _ ih => exact ih h
  | case7 _ _ _ _ _ _ _ ih => exact ih h

/-- The front that is filled while the threads move: the one after a character, with nothing in it that finds a match.
Where the text ends there is none. -/
def Ahead (a : Automaton) (text : String) (pos : Nat) (c : Option Char) (next : Nat) (f : Front) : Prop :=
  ∀ d, c = some d → next = pos + d.utf8Size ∧ Spent a text next f

theorem advance_spent (hc : charAt? text pos = c) (hts : ∀ t ∈ ts, ¬ Live a text pos t.state)
    (hf : Ahead a text pos c next f) :
    (advance a text next c ts f).2 = none ∧ Ahead a text pos c next (advance a text next c ts f).1 := by
  fun_induction Automaton.advance a text next c ts f with
  | case1 => exact ⟨rfl, hf⟩
  | case2 f t ts c hi => exact absurd ⟨0, .accept hi⟩ (hts t List.mem_cons_self)
  | case3 t ts f n c hi ih =>
      obtain ⟨ht, hts⟩ := List.forall_mem_cons.mp hts
      obtain ⟨hnext, hspent⟩ := hf c rfl
      have hdead := (not_live_keeps a text).char ht hc hi
      rw [← hnext] at hdead
      refine ih hc hts fun d hd => ⟨(hf d hd).1, hspent.enter hdead⟩
  | case4 t ts f d n c _ _ ih => exact ih hc (fun t ht => hts t (List.mem_cons_of_mem _ ht)) hf
  | case5 t ts f s n c hi hs ih =>
      obtain ⟨ht, hts⟩ := List.forall_mem_cons.mp hts
      obtain ⟨hnext, hspent⟩ := hf c rfl
      have hdead := (not_live_keeps a text).chars ht hc hi hs
      rw [← hnext] at hdead
      refine ih hc hts fun d hd => ⟨(hf d hd).1, hspent.enter hdead⟩
  | case6 t ts f s n c _ _ ih => exact ih hc (fun t ht => hts t (List.mem_cons_of_mem _ ht)) hf
  | case7 c t ts f _ _ _ ih => exact ih hc (fun t ht => hts t (List.mem_cons_of_mem _ ht)) hf

/-- The first live thread accepts, or it goes on and is the first again. -/
theorem Leads.advance (hk : Keeps a text inv) (hc : charAt? text pos = c) (h : Leads a text inv pos ts)
    (hf : Ahead a text pos c next f) :
    (∃ t, (Automaton.advance a text next c ts f).2 = some t.slots ∧ inv pos t ∧ a.code[t.state]? = some .accept ∧
      Ahead a text pos c next (Automaton.advance a text next c ts f).1) ∨
    ∃ d, c = some d ∧ next = pos + d.utf8Size ∧
      Leads a text inv next (Automaton.advance a text next c ts f).1.threads.toList ∧
      (Automaton.advance a text next c ts f).1.Stamped a next := by
  obtain ⟨front, t, back, rfl, hfront, ⟨n, hpath⟩, ht, hsettled⟩ := h
  obtain ⟨hnone, hfront⟩ := advance_spent hc hfront hf
  rw [advance_append hnone]
  generalize (Automaton.advance a text next c front f).1 = g at hfront
  -- Where the thread goes on, what follows it only adds to the front.
  have hgoes {d : Char} {n' : Nat} (hd : c = some d) (hkept : inv next ⟨n', t.slots⟩) (hlive : Live a text next n') :
      ∃ e, c = some e ∧ next = pos + e.utf8Size ∧
        Leads a text inv next
          (Automaton.advance a text next c back (enter a text next ⟨n', t.slots⟩ g)).1.threads.toList ∧
        (Automaton.advance a text next c back (enter a text next ⟨n', t.slots⟩ g)).1.Stamped a next := by
    obtain ⟨hnext, hspent⟩ := hfront d hd
    obtain ⟨new, hnew⟩ := advance_appends a text next c back (enter a text next ⟨n', t.slots⟩ g)
    refine ⟨d, hd, hnext, ?_, advance_stamped (enter_stamped hspent.stamped _)⟩
    rw [hnew]
    exact (hspent.enter_leads hk hkept hlive).append new
  cases hpath with
  | accept code =>
      left
      simp only [Automaton.advance, code]
      exact ⟨t, rfl, ht, code, hfront⟩
  | first code => exact absurd code (hsettled.split _ _)
  | second code => exact absurd code (hsettled.split _ _)
  | save code => exact absurd code (hsettled.save _ _)
  | check code => exact absurd code (hsettled.check _ _)
  | char code here rest =>
      right
      cases hc.symm.trans here
      have hkept := hk.char ht here code
      rw [← (hfront _ rfl).1] at hkept rest
      simp only [Automaton.advance, code, if_true]
      exact hgoes rfl hkept ⟨_, rest⟩
  | chars code here mem rest =>
      right
      cases hc.symm.trans here
      have hkept := hk.chars ht here code mem
      rw [← (hfront _ rfl).1] at hkept rest
      simp only [Automaton.advance, code, if_pos mem]
      exact hgoes rfl hkept ⟨_, rest⟩

end

/-! ## Runs -/

theorem Front.Stamped.ahead {f : Front} (h : f.Stamped a pos) (c : Option Char) :
    Ahead a text pos c (pos + (c.map Char.utf8Size).getD 0) ⟨f.stamps, #[]⟩ := by
  rintro d rfl
  exact ⟨rfl, h.spent (Nat.lt_add_of_pos_right d.utf8Size_pos)⟩

/-- The front that a run goes on with: as long as a search has found nothing, another thread starts. -/
def started (a : Automaton) (text : String) (searching : Bool) (pos : Nat) (f : Front) (best : Option Slots) : Front :=
  if searching && best.isNone then enter a text pos a.first f else f

section

variable {inv : Nat → Thread → Prop} {searching : Bool} {fuel : Nat} {f : Front} {best : Option Slots}

theorem run_spent (hno : (searching && best.isNone) = false) (hf : Spent a text pos f) :
    run a text searching fuel pos f best = best := by
  induction fuel generalizing pos f with
  | zero => rfl
  | succ fuel ih =>
      have hdead : ∀ t ∈ f.threads.toList, ¬ Live a text pos t.state := by simpa using hf.threads
      obtain ⟨hnone, hahead⟩ := advance_spent rfl hdead (hf.stamped.ahead (charAt? text pos))
      simp only [run, hno, Bool.false_eq_true, if_false, hnone]
      split
      · rfl
      · split
        · rfl
        next hc =>
          obtain ⟨d, hd⟩ := Option.ne_none_iff_exists'.mp (by simpa using hc)
          exact ih (hahead d hd).2

theorem started_leads (hst : f.Stamped a pos) (h : Leads a text inv pos f.threads.toList) :
    (started a text searching pos f best).Stamped a pos ∧
      Leads a text inv pos (started a text searching pos f best).threads.toList := by
  unfold started
  split
  · obtain ⟨new, hnew⟩ := enter_appends a text pos a.first f
    rw [hnew]
    exact ⟨enter_stamped hst _, h.append new⟩
  · exact ⟨hst, h⟩

/-- A run ends in the first live thread. -/
theorem run_leads (hk : Keeps a text inv) (hpos : isBoundary text pos = true)
    (hfuel : text.utf8ByteSize < pos + fuel) (hst : (started a text searching pos f best).Stamped a pos)
    (h : Leads a text inv pos (started a text searching pos f best).threads.toList) :
    ∃ p t, run a text searching fuel pos f best = some t.slots ∧ inv p t ∧ a.code[t.state]? = some .accept := by
  induction fuel generalizing pos f best with
  | zero =>
      have hle := isBoundary_le hpos
      omega
  | succ fuel ih =>
      have hsome : (started a text searching pos f best).threads.isEmpty = false := by
        obtain ⟨front, t, back, hts, _⟩ := h
        rw [← Array.isEmpty_toList, hts]
        simp
      have hstep := h.advance hk rfl (hst.ahead (charAt? text pos))
      simp only [run]
      rw [← started, hsome]
      simp only [Bool.false_and, Bool.false_eq_true, if_false]
      rcases hstep with ⟨t, hfound, ht, hacc, hahead⟩ | ⟨d, hd, hnext, hleads, hst'⟩
      · rw [hfound]
        refine ⟨pos, t, ?_, ht, hacc⟩
        split
        · rfl
        next hc =>
          obtain ⟨d, hd⟩ := Option.ne_none_iff_exists'.mp (by simpa using hc)
          exact run_spent (by simp) (hahead d hd).2
      · rw [if_neg (by simp [hd])]
        rw [hnext] at hleads hst' ⊢
        obtain ⟨hst', hleads⟩ := started_leads hst' hleads
        have hwidth := d.utf8Size_pos
        exact ih (isBoundary_charAt? hd) (by omega) hst' hleads

theorem emptyFront_spent (a : Automaton) (text : String) (pos : Nat) : Spent a text pos a.emptyFront where
  stamped := ⟨by simp [emptyFront], fun q v hv => by simp [emptyFront, Array.getElem?_replicate] at hv; omega⟩
  entered q hq := by
    unfold Front.Entered emptyFront at hq
    rw [Array.getElem?_replicate] at hq
    split at hq <;> simp at hq
  threads := by simp [emptyFront]

theorem matchAt_live (hk : Keeps a text inv) (hpos : isBoundary text pos = true) (hfirst : inv pos a.first)
    (hlive : Live a text pos a.start) :
    ∃ p t, a.matchAt text pos = some t.slots ∧ inv p t ∧ a.code[t.state]? = some .accept := by
  have hspent := emptyFront_spent a text pos
  exact run_leads hk hpos (by omega) (enter_stamped hspent.stamped _) (hspent.enter_leads hk hfirst hlive)

theorem matchAt_eq_none (hdead : ¬ Live a text pos a.start) : a.matchAt text pos = none :=
  run_spent rfl ((emptyFront_spent a text pos).enter hdead)

/-- The first offset from a position on at which a path starts. -/
structure Earliest (a : Automaton) (text : String) (pos start : Nat) : Prop where
  le : pos ≤ start
  boundary : isBoundary text start = true
  live : Live a text start a.start
  earlier : ∀ p, pos ≤ p → p < start → isBoundary text p = true → ¬ Live a text p a.start

/-- A search ends in a thread that has started first, if there is one. -/
theorem run_search {inv : Nat → Nat → Thread → Prop} (hk : ∀ start, Keeps a text (inv start))
    (hfirst : ∀ p, inv p p a.first) (hpos : isBoundary text pos = true) (hfuel : text.utf8ByteSize < pos + fuel)
    (hf : Spent a text pos f) :
    (∃ start p t, Earliest a text pos start ∧ run a text true fuel pos f none = some t.slots ∧ inv start p t ∧
      a.code[t.state]? = some .accept) ∨
    run a text true fuel pos f none = none ∧ ∀ p, pos ≤ p → isBoundary text p = true → ¬ Live a text p a.start := by
  induction fuel generalizing pos f with
  | zero =>
      have hle := isBoundary_le hpos
      omega
  | succ fuel ih =>
      by_cases hlive : Live a text pos a.start
      · have hst : (started a text true pos f none).Stamped a pos := enter_stamped hf.stamped _
        have hleads := hf.enter_leads (hk pos) (hfirst pos) hlive
        obtain ⟨p, t, hrun, ht⟩ := run_leads (hk pos) hpos hfuel hst hleads
        exact .inl ⟨pos, p, t, ⟨Nat.le_refl _, hpos, hlive, by omega⟩, hrun, ht⟩
      · have hspent := hf.enter (t := a.first) hlive
        have hdead : ∀ t ∈ (enter a text pos a.first f).threads.toList, ¬ Live a text pos t.state := by
          simpa using hspent.threads
        obtain ⟨hnone, hahead⟩ := advance_spent rfl hdead (hspent.stamped.ahead (charAt? text pos))
        simp only [run, Option.isNone_none, Bool.and_self, if_true, Bool.not_true, Bool.and_false,
          Bool.false_eq_true, if_false, hnone]
        cases hc : charAt? text pos with
        | none =>
            refine .inr ⟨rfl, fun p hle hp => ?_⟩
            have hend : ¬ pos < text.utf8ByteSize := fun hlt => by
              obtain ⟨c, hc'⟩ := charAt?_exists hpos hlt
              rw [hc] at hc'
              cases hc'
            obtain rfl : p = pos := by have := isBoundary_le hp; omega
            exact hlive
        | some c =>
            obtain ⟨_, hspent⟩ := hahead c hc
            rw [hc] at hspent
            have hwidth := c.utf8Size_pos
            -- Between the character's ends there is no boundary to start at.
            have hnext (p : Nat) (hle : pos ≤ p) (hp : isBoundary text p = true) :
                p = pos ∨ pos + c.utf8Size ≤ p := by
              rcases Nat.eq_or_lt_of_le hle with rfl | hlt
              · exact .inl rfl
              · exact .inr (charAt?_le hc hp hlt)
            have hfuel' : text.utf8ByteSize < pos + c.utf8Size + fuel := by omega
            rcases ih (isBoundary_charAt? hc) hfuel' hspent with ⟨start, p, t, hearliest, hrun, ht⟩ | ⟨hrun, hdead⟩
            · have hle := hearliest.le
              refine .inl ⟨start, p, t, ⟨by omega, hearliest.boundary, hearliest.live, ?_⟩, hrun, ht⟩
              intro p hle hlt hp
              rcases hnext p hle hp with rfl | hle
              · exact hlive
              · exact hearliest.earlier p hle hlt hp
            · refine .inr ⟨hrun, fun p hle hp => ?_⟩
              rcases hnext p hle hp with rfl | hle
              · exact hlive
              · exact hdead p hle hp

end

end ModalLexer.Pattern.Automaton
