import ModalLexer.Proofs.Pattern.Leftmost

/-!
Searches that begin again. A machine whose steps do not ask where the search began does at a position what it does
there in any other search, as long as it has not been given up. So a search that fails fails later on, too; and if no
step moves the start of the match either, a search that begins no later than the match that another one finds finds it,
too.
-/

namespace ModalLexer.Pattern.Backtracking

open Text

variable {text : String} {start : Nat} {moved : Bool}

/-! ## Plain steps -/

/-- The step and its parts do not depend on the start of the search, and they leave the start of the match where it is
unless it may be moved. -/
inductive Node.Plain (moved : Bool) : Node → Prop
  | any (newline : Bool) : Plain moved (.any newline)
  | text (t : String) : Plain moved (.text t)
  | set (s : CharSet) : Plain moved (.set s)
  | check (l : Look) : Plain moved (.check l)
  | delegate {r : Regular} {groups : List Nat} (numbered : r.Numbered) (own : 0 ∉ groups) :
    Plain moved (.delegate (.ofRegular r) groups)
  | seq {ns : List Node} (items : ∀ n ∈ ns, Plain moved n) : Plain moved (.seq ns)
  | alt {ns : List Node} (branches : ∀ n ∈ ns, Plain moved n) : Plain moved (.alt ns)
  | group {i : Nat} {n : Node} (own : i ≠ 0) (body : Plain moved n) : Plain moved (.group i n)
  | loop {lo : Nat} {hi : Option Nat} {greedy guarded : Bool} {n : Node} (body : Plain moved n) :
    Plain moved (.loop lo hi greedy guarded n)
  | around {negated : Bool} {back : Nat} {n : Node} (body : Plain moved n) : Plain moved (.around negated back n)
  | backref (i : Nat) : Plain moved (.backref i)
  | matched (i : Nat) : Plain moved (.matched i)
  | atomic {n : Node} (body : Plain moved n) : Plain moved (.atomic n)
  | conditional {c y n : Node} (cond : Plain moved c) (yes : Plain moved y) (no : Plain moved n) :
    Plain moved (.conditional c y n)
  | keepOut (may : moved = true) : Plain moved .keepOut

def Task.Plain (moved : Bool) : Task → Prop
  | .node n => n.Plain moved
  | .round _ _ _ _ n _ _ => n.Plain moved
  | .save slot => slot ≠ 0
  | .restore _ => True
  | .commit => True
  | .refuse _ => True

/-- Once the tasks are done, the position is not before the start: where it is now, or where the last look around that
is still open returns to. -/
def Lands (start : Nat) : (pos : Nat) → List Task → Prop
  | pos, [] => start ≤ pos
  | pos, .node _ :: ts => Lands start pos ts
  | pos, .round .. :: ts => Lands start pos ts
  | pos, .save _ :: ts => Lands start pos ts
  | _, .restore p :: ts => Lands start p ts
  | pos, .commit :: ts => Lands start pos ts
  | _, .refuse _ :: _ => True

theorem Lands.mono {pos pos' : Nat} {ts : List Task} (h : Lands start pos ts) (hle : pos ≤ pos') :
    Lands start pos' ts := by
  induction ts with
  | nil => exact Nat.le_trans h hle
  | cons t ts ih =>
      cases t with
      | node => exact ih h
      | round => exact ih h
      | save => exact ih h
      | restore => exact h
      | commit => exact ih h
      | refuse => trivial

theorem Lands.nodes {pos : Nat} {ts : List Task} (h : Lands start pos ts) (ns : List Node) :
    Lands start pos (ns.map .node ++ ts) := by
  induction ns with
  | nil => exact h
  | cons n ns ih => exact ih

/-- The configuration of an attempt at `start`: unless the start of the match may be moved, slot zero holds that, and
the position will not be before it. -/
structure Config.Plain (moved : Bool) (start : Nat) (c : Config) : Prop where
  tasks : ∀ t ∈ c.tasks, t.Plain moved
  size : 2 ≤ c.slots.size
  slot : moved = false → c.slots[0]? = some (some start)
  lands : moved = false → Lands start c.pos c.tasks

def Effect.Plain (moved : Bool) (start : Nat) : Effect → Prop
  | .next c => c.Plain moved start
  | .choose c frame => c.Plain moved start ∧ frame.Plain moved start
  | .fail => True
  | .cut _ c => c.Plain moved start
  | .cutFail _ => True

namespace Config.Plain

variable {c : Config}

theorem moveTo (h : c.Plain moved start) {pos : Nat} (hle : c.pos ≤ pos) :
    Config.Plain moved start { c with pos } :=
  ⟨h.tasks, h.size, h.slot, fun hm => (h.lands hm).mono hle⟩

theorem set (h : c.Plain moved start) {n : Nat} (hn : n ≠ 0) (o : Option Nat) :
    Config.Plain moved start { c with slots := c.slots.set! n o } :=
  ⟨h.tasks, by simpa using h.size, by rw [set_ne hn]; exact h.slot, h.lands⟩

theorem mark (h : c.Plain moved start) (marks : List Nat) : Config.Plain moved start { c with marks } :=
  ⟨h.tasks, h.size, h.slot, h.lands⟩

/-- Another task first, after which the position is as it would be without it. -/
theorem push (h : c.Plain moved start) {t : Task} (ht : t.Plain moved)
    (hlands : moved = false → Lands start c.pos (t :: c.tasks)) :
    Config.Plain moved start { c with tasks := t :: c.tasks } :=
  ⟨List.forall_mem_cons.mpr ⟨ht, h.tasks⟩, h.size, h.slot, hlands⟩

theorem node (h : c.Plain moved start) {n : Node} (hn : n.Plain moved) :
    Config.Plain moved start { c with tasks := .node n :: c.tasks } :=
  h.push hn h.lands

end Config.Plain

theorem copyGroups_plain {gs : List Nat} (hg : 0 ∉ gs) (found : Slots) (i : Nat) (slots : Slots) :
    (copyGroups found i gs slots).size = slots.size ∧ (copyGroups found i gs slots)[0]? = slots[0]? := by
  induction gs generalizing i slots with
  | nil => exact ⟨rfl, rfl⟩
  | cons g gs ih =>
      obtain ⟨hne, hgs⟩ : 0 ≠ g ∧ 0 ∉ gs := by simpa using hg
      obtain ⟨hsize, hslot⟩ := ih hgs (i + 1)
        ((slots.set! (2 * g) (found[2 * i]?).join).set! (2 * g + 1) (found[2 * i + 1]?).join)
      refine ⟨?_, ?_⟩
      · rw [copyGroups, hsize]; simp
      · rw [copyGroups, hslot, set_ne (by omega), set_ne (by omega)]

theorem next_of_slice_plain {c : Config} (h : c.Plain moved start) (t : String) :
    (if slice? text c.pos (c.pos + t.utf8ByteSize) = some t then
      Effect.next { c with pos := c.pos + t.utf8ByteSize } else .fail).Plain moved start := by
  split
  · exact h.moveTo (Nat.le_add_right _ _)
  · trivial

theorem next_of_charAt_plain {c : Config} (h : c.Plain moved start) (p : Char → Bool) :
    (match charAt? text c.pos with
      | some ch => if p ch then Effect.next { c with pos := c.pos + ch.utf8Size } else .fail
      | none => .fail).Plain moved start := by
  split
  · split
    · exact h.moveTo (Nat.le_add_right _ _)
    · trivial
  · trivial

theorem Node.effect_plain {c : Config} (h : c.Plain moved start) (hpos : isBoundary text c.pos = true)
    (origin height : Nat) {n : Node} (hn : n.Plain moved) : (n.effect text origin height c).Plain moved start := by
  cases hn with
  | any newline => exact next_of_charAt_plain h fun ch => newline || ch != '\n'
  | text t => exact next_of_slice_plain h t
  | set s => exact next_of_charAt_plain h s.contains
  | check l =>
      simp only [Node.effect]
      split
      · exact h
      · trivial
  | @delegate r groups numbered own =>
      simp only [Node.effect]
      split
      next found hf =>
        have hstart := Automaton.matchAt_starting numbered hpos hf
        obtain ⟨hsize, hslot⟩ := copyGroups_plain own found 1 c.slots
        have hle : c.pos ≤ (found[1]?).join.getD c.pos := by
          cases hv : (found[1]?).join with
          | none => exact Nat.le_refl _
          | some v => exact hstart.later 1 v (Option.join_eq_some_iff.mp hv)
        exact ⟨h.tasks, by rw [hsize]; exact h.size, fun hm => hslot.trans (h.slot hm), fun hm => (h.lands hm).mono hle⟩
      · trivial
  | seq items =>
      refine ⟨fun t ht => ?_, h.size, h.slot, fun hm => (h.lands hm).nodes _⟩
      rcases List.mem_append.mp ht with ht | ht
      · obtain ⟨n, hn, rfl⟩ := List.mem_map.mp ht
        exact items n hn
      · exact h.tasks t ht
  | @alt ns branches =>
      cases ns with
      | nil => trivial
      | cons n ns =>
          obtain ⟨hn, hns⟩ := List.forall_mem_cons.mp branches
          cases ns with
          | nil => exact h.node hn
          | cons n' ns => exact ⟨h.node hn, h.node (.alt hns)⟩
  | @group i n own body =>
      have hs : Task.Plain moved (.save (2 * i + 1)) := by simp [Task.Plain]
      exact ((h.push hs h.lands).node body).set (by omega) (some c.pos)
  | loop body => exact h.push (t := .round _ _ _ _ _ 0 none) body h.lands
  | @around negated back n body =>
      cases negated with
      | false =>
          simp only [Node.effect]
          split
          next pos _ =>
            exact ⟨List.forall_mem_cons.mpr ⟨body, List.forall_mem_cons.mpr ⟨trivial, h.tasks⟩⟩, h.size, h.slot,
              h.lands⟩
          · trivial
      | true =>
          simp only [Node.effect]
          split
          next pos _ =>
            exact ⟨⟨List.forall_mem_cons.mpr ⟨body, List.forall_mem_cons.mpr ⟨trivial, h.tasks⟩⟩, h.size, h.slot,
              fun _ => trivial⟩, h⟩
          · exact h
  | backref i =>
      simp only [Node.effect]
      split
      · exact next_of_slice_plain h _
      · trivial
  | matched i =>
      simp only [Node.effect]
      split
      · exact h
      · trivial
  | atomic body => exact ((h.push (t := .commit) trivial h.lands).node body).mark _
  | conditional cond yes no =>
      exact ⟨(((h.node yes).push (t := .commit) trivial h.lands).node cond).mark _, (h.node no).mark _⟩
  | keepOut may => exact ⟨h.tasks, by simpa using h.size, by simp [may], by simp [may]⟩

/-- The effect of a plain task that has been taken off the list. -/
theorem Task.effect_plain {c : Config} {t : Task} (h : Config.Plain moved start { c with tasks := t :: c.tasks })
    (hpos : isBoundary text c.pos = true) (origin height : Nat) :
    (t.effect text origin height c).Plain moved start := by
  obtain ⟨ht, htasks⟩ := List.forall_mem_cons.mp h.tasks
  have hc (hlands : moved = false → Lands start c.pos c.tasks) : c.Plain moved start := ⟨htasks, h.size, h.slot, hlands⟩
  cases t with
  | node n => exact Node.effect_plain (hc h.lands) hpos origin height ht
  | round lo hi greedy guarded n count last =>
      have hc := hc h.lands
      have hagain (last' : Option Nat) : Config.Plain moved start
          { c with tasks := .node n :: .round lo hi greedy guarded n (count + 1) last' :: c.tasks } :=
        (hc.push (t := .round lo hi greedy guarded n (count + 1) last') ht h.lands).node ht
      simp only [Task.effect]
      split
      · trivial
      · split
        · exact hc
        · split
          · exact hagain last
          · split
            · exact ⟨hagain _, hc⟩
            · exact ⟨hc, hagain _⟩
  | save slot => exact (hc h.lands).set ht _
  | restore p => exact ⟨htasks, h.size, h.slot, h.lands⟩
  | commit =>
      simp only [Task.effect]
      split
      · exact hc h.lands
      · exact (hc h.lands).mark _
  | refuse => trivial

theorem Node.effect_origin {n : Node} (hn : n.Plain moved) (origin origin' height : Nat) (c : Config) :
    n.effect text origin height c = n.effect text origin' height c := by
  cases hn with
  | @alt ns _ =>
      match ns with
      | [] => rfl
      | [_] => rfl
      | _ :: _ :: _ => rfl
  | @around negated _ _ _ => cases negated <;> rfl
  | _ => rfl

theorem Task.effect_origin {t : Task} (ht : t.Plain moved) (origin origin' height : Nat) (c : Config) :
    t.effect text origin height c = t.effect text origin' height c := by
  cases t with
  | node n => exact Node.effect_origin ht origin origin' height c
  | _ => rfl

/-! ## Outcomes -/

/-- A verdict is the same after fewer returns, and a match starts where the attempt did unless it may be moved. Nothing
is said of an attempt that was given up. -/
def Outcome.Recurs (moved : Bool) (start : Nat) : Outcome → Outcome → Prop
  | .matched slots, out =>
    out = .matched slots ∧ ∃ span, spanOf slots 0 = some span ∧ (moved = false → span.start = start)
  | .failed returns, out => ∃ fewer ≤ returns, out = .failed fewer
  | .exhausted, _ => True

theorem Config.Plain.finish {c : Config} (h : c.Plain moved start) (hdone : c.tasks = []) :
    ∃ span, spanOf ((c.slots.set! 0 (some (min ((c.slots[0]?).join.getD c.pos) c.pos))).set! 1 (some c.pos)) 0 =
      some span ∧ (moved = false → span.start = start) := by
  have hsize := h.size
  have h₀ : ((c.slots.set! 0 (some (min ((c.slots[0]?).join.getD c.pos) c.pos))).set! 1 (some c.pos))[0]? =
      some (some (min ((c.slots[0]?).join.getD c.pos) c.pos)) := by
    rw [set_ne (by omega), Array.set!_eq_setIfInBounds, Array.getElem?_setIfInBounds_self_of_lt (by omega)]
  have h₁ : ((c.slots.set! 0 (some (min ((c.slots[0]?).join.getD c.pos) c.pos))).set! 1 (some c.pos))[1]? =
      some (some c.pos) := by
    rw [Array.set!_eq_setIfInBounds, Array.getElem?_setIfInBounds_self_of_lt (by simp; omega)]
  refine ⟨⟨min ((c.slots[0]?).join.getD c.pos) c.pos, c.pos⟩, ?_, fun hm => ?_⟩
  · simp only [spanOf, Nat.mul_zero, Nat.zero_add, h₀, h₁]
    rfl
  · have hle : start ≤ c.pos := by
      have hlands := h.lands hm
      rwa [hdone] at hlands
    have hslot : (c.slots[0]?).join = some start := by rw [h.slot hm]; rfl
    rw [hslot, Option.getD_some]
    exact Nat.min_eq_left hle

/-- What holds of the configurations of an attempt at `start`. -/
structure Config.Attempt (text : String) (moved : Bool) (start : Nat) (c : Config) : Prop where
  on : c.OnBoundaries text
  plain : c.Plain moved start

theorem Task.effect_attempt {c : Config} {t : Task} {tasks : List Task} (h : c.Attempt text moved start)
    (ht : c.tasks = t :: tasks) (origin height : Nat) :
    (t.effect text origin height { c with tasks }).OnBoundaries text ∧
      (t.effect text origin height { c with tasks }).Plain moved start := by
  obtain ⟨⟨hpos, hslots, hon⟩, hplain⟩ := h
  rw [ht] at hon
  obtain ⟨hto, hon⟩ := List.forall_mem_cons.mp hon
  have hon' : Config.OnBoundaries text { c with tasks } := ⟨hpos, hslots, hon⟩
  have hplain' : Config.Plain moved start { c with tasks := t :: tasks } := by rw [← ht]; exact hplain
  refine ⟨Task.effect_onBoundaries hon' origin height hto, ?_⟩
  exact Task.effect_plain (c := { c with tasks }) hplain' hpos origin height

section

variable {origin origin' fuel height returns fewer : Nat} {c : Config} {frames : List Config}

/-- What a failure goes on with: the newest frame that is left. -/
def resume (text : String) (origin fuel : Nat) (frames : List Config) (height returns : Nat) : Outcome :=
  match frames with
  | [] => .failed returns
  | f :: frames =>
    if maxReturns ≤ returns then .exhausted
    else run text origin fuel f frames (height - 1) (returns + 1)

theorem resume_recurs (hle : fewer ≤ returns)
    (hrun : ∀ f frames height, f.Attempt text moved start → (∀ f ∈ frames, f.Attempt text moved start) →
      (run text origin fuel f frames height (returns + 1)).Recurs moved start
        (run text origin' fuel f frames height (fewer + 1)))
    (hf : ∀ f ∈ frames, f.Attempt text moved start) :
    (resume text origin fuel frames height returns).Recurs moved start
      (resume text origin' fuel frames height fewer) := by
  cases frames with
  | nil => exact ⟨fewer, hle, rfl⟩
  | cons f frames =>
      obtain ⟨hf, hfs⟩ := List.forall_mem_cons.mp hf
      simp only [resume]
      split
      · trivial
      · rw [if_neg (by omega)]
        exact hrun f frames _ hf hfs

theorem run_recurs (hle : fewer ≤ returns) (hc : c.Attempt text moved start)
    (hf : ∀ f ∈ frames, f.Attempt text moved start) :
    (run text origin fuel c frames height returns).Recurs moved start
      (run text origin' fuel c frames height fewer) := by
  induction fuel generalizing c frames height returns fewer with
  | zero => trivial
  | succ fuel ih =>
      have hdrop (n : Nat) : ∀ f ∈ frames.drop n, f.Attempt text moved start :=
        fun f hm => hf f (List.mem_of_mem_drop hm)
      have hagain (f : Config) (frames : List Config) (height : Nat) (h : f.Attempt text moved start)
          (hfs : ∀ f ∈ frames, f.Attempt text moved start) :
          (run text origin fuel f frames height (returns + 1)).Recurs moved start
            (run text origin' fuel f frames height (fewer + 1)) := ih (Nat.succ_le_succ hle) h hfs
      simp only [run]
      cases ht : c.tasks with
      | nil => exact ⟨rfl, hc.plain.finish ht⟩
      | cons t tasks =>
          have hplain : t.Plain moved := hc.plain.tasks t (by simp [ht])
          have heff := Task.effect_attempt hc ht origin height
          simp only [Task.effect_origin hplain origin' origin]
          cases he : t.effect text origin height { c with tasks } with
          | next c' => rw [he] at heff; exact ih hle ⟨heff.1, heff.2⟩ hf
          | choose c' frame =>
              rw [he] at heff
              simp only
              split
              · exact ih hle ⟨heff.1.1, heff.2.1⟩ (List.forall_mem_cons.mpr ⟨⟨heff.1.2, heff.2.2⟩, hf⟩)
              · trivial
          | fail => exact resume_recurs hle hagain hf
          | cut n c' => rw [he] at heff; exact ih hle ⟨heff.1, heff.2⟩ (hdrop _)
          | cutFail n => exact resume_recurs hle hagain (hdrop _)

end

/-! ## Searches -/

namespace Program

variable {p : Program} {origin origin' fuel fuel' pos returns fewer : Nat} {found : Option Slots}

theorem attempt_recurs (origin origin' : Nat) (hp : p.body.Plain moved) (hg : 0 < p.groups)
    (hpos : isBoundary text pos = true) (hle : fewer ≤ returns) :
    (p.attempt text origin pos returns).Recurs moved pos (p.attempt text origin' pos fewer) := by
  have hsize : 2 ≤ (Array.replicate (2 * p.groups) (none : Option Nat)).size := by simp; omega
  refine run_recurs hle ⟨⟨hpos, ?_, ?_⟩, ⟨?_, by simpa using hsize, fun _ => ?_, fun _ => Nat.le_refl pos⟩⟩ (by simp)
  · refine Pattern.OnBoundaries.save (fun i v hv => ?_) hpos
    simp [Array.getElem?_replicate] at hv
  · intro t ht
    rw [List.mem_singleton.mp ht]
    trivial
  · intro t ht
    rw [List.mem_singleton.mp ht]
    exact hp
  · rw [Array.set!_eq_setIfInBounds, Array.getElem?_setIfInBounds_self_of_lt (by omega)]

/-- From the same position on a search with fewer returns finds the same. -/
theorem searchFrom_fewer (hp : p.body.Plain moved) (hg : 0 < p.groups) (hpos : isBoundary text pos = true)
    (hle : fewer ≤ returns) (hfuel : text.utf8ByteSize < pos + fuel) (hfuel' : text.utf8ByteSize < pos + fuel')
    (h : p.searchFrom text origin fuel pos returns = some found) :
    p.searchFrom text origin' fuel' pos fewer = some found := by
  induction fuel generalizing fuel' pos returns fewer with
  | zero =>
      have hend := isBoundary_le hpos
      omega
  | succ fuel ih =>
      obtain ⟨fuel', rfl⟩ : ∃ n, fuel' = n + 1 := ⟨fuel' - 1, by have := isBoundary_le hpos; omega⟩
      have hrecurs := attempt_recurs origin origin' hp hg hpos hle
      simp only [searchFrom] at h ⊢
      cases ha : p.attempt text origin pos returns with
      | matched slots =>
          rw [ha] at h hrecurs
          rw [hrecurs.1]
          exact h
      | exhausted => rw [ha] at h; cases h
      | failed n =>
          rw [ha] at h hrecurs
          obtain ⟨m, hmn, hm⟩ := hrecurs
          simp only [hm] at h ⊢
          split at h
          · cases h
          · rw [if_neg (by omega)]
            cases hc : charAt? text pos with
            | none => rw [hc] at h; exact h
            | some c =>
                rw [hc] at h
                have hwidth := c.utf8Size_pos
                exact ih (isBoundary_charAt? hc) (by omega) (by omega) (by omega) h

/-- A match that is searched for starts where an attempt was made, if no step moves its start. -/
theorem searchFrom_start (hp : p.body.Plain false) (hg : 0 < p.groups) (hpos : isBoundary text pos = true)
    (h : p.searchFrom text origin fuel pos returns = some found) {start : Nat} (hs : startOf found = some start) :
    pos ≤ start ∧ isBoundary text start = true := by
  induction fuel generalizing pos returns with
  | zero => cases h; cases hs
  | succ fuel ih =>
      have hrecurs := attempt_recurs origin origin hp hg hpos (Nat.le_refl returns)
      simp only [searchFrom] at h
      cases ha : p.attempt text origin pos returns with
      | matched slots =>
          rw [ha] at h hrecurs
          cases h
          obtain ⟨_, span, hspan, hstart⟩ := hrecurs
          obtain rfl : pos = start := by simpa [startOf, hspan, hstart] using hs
          exact ⟨Nat.le_refl _, hpos⟩
      | exhausted => rw [ha] at h; cases h
      | failed n =>
          rw [ha] at h
          simp only at h
          split at h
          · cases h
          · cases hc : charAt? text pos with
            | none => rw [hc] at h; cases h; cases hs
            | some c =>
                rw [hc] at h
                obtain ⟨hle, hb⟩ := ih (isBoundary_charAt? hc) h
                exact ⟨by omega, hb⟩

/-- A search that begins later finds the same, unless that is a match that starts before or may have been moved. -/
theorem searchFrom_later (hp : p.body.Plain moved) (hg : 0 < p.groups) (hpos : isBoundary text pos = true)
    (hfuel : text.utf8ByteSize < pos + fuel) {later : Nat} (hle : pos ≤ later) (hlater : isBoundary text later = true)
    (hfuel' : text.utf8ByteSize < later + fuel')
    (h : p.searchFrom text origin fuel pos returns = some found)
    (hs : ∀ start, startOf found = some start → moved = false ∧ later ≤ start) :
    p.searchFrom text origin' fuel' later 0 = some found := by
  induction fuel generalizing pos returns with
  | zero =>
      have hend := isBoundary_le hpos
      omega
  | succ fuel ih =>
      rcases Nat.eq_or_lt_of_le hle with rfl | hlt
      · exact searchFrom_fewer hp hg hpos (Nat.zero_le _) hfuel hfuel' h
      · have hrecurs := attempt_recurs origin origin hp hg hpos (Nat.le_refl returns)
        simp only [searchFrom] at h
        cases ha : p.attempt text origin pos returns with
        | matched slots =>
            rw [ha] at h hrecurs
            cases h
            obtain ⟨_, span, hspan, hstart⟩ := hrecurs
            obtain ⟨hm, hbefore⟩ := hs span.start (by simp [startOf, hspan])
            have hstart := hstart hm
            omega
        | exhausted => rw [ha] at h; cases h
        | failed n =>
            rw [ha] at h
            simp only at h
            split at h
            · cases h
            · have hend := isBoundary_le hlater
              obtain ⟨c, hc⟩ := charAt?_exists hpos (by omega)
              rw [hc] at h
              have hwidth := c.utf8Size_pos
              exact ih (isBoundary_charAt? hc) (by omega) (charAt?_le hc hlater hlt) h

theorem search_resumes (hp : p.body.Plain moved) (hg : 0 < p.groups) (text : String) :
    Resumes moved text (p.search text) where
  starts {pos found} hm hpos h start hs := by
    subst hm
    exact searchFrom_start hp hg hpos h hs
  again {pos found} hpos h later hle hlater hs :=
    ⟨found, searchFrom_later hp hg hpos (by omega) hle hlater (by omega) h hs, rfl⟩

end Program

end ModalLexer.Pattern.Backtracking
