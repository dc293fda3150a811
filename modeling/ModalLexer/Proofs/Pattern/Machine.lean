import ModalLexer.Pattern.Backtracking.Machine
import ModalLexer.Proofs.Pattern.Automaton

/-!
What the backtracking machine records. Wherever it goes and to whatever frame it returns, it stands at a
boundary of the text, so all positions of a match are boundaries; and a match ends no earlier than it starts.
-/

namespace ModalLexer.Pattern.Backtracking

open Text

variable {text : String}

/-- A task that returns to a position returns to a boundary. -/
def Task.OnBoundaries (text : String) : Task → Prop
  | .restore pos => isBoundary text pos = true
  | _ => True

/-- Everything that a configuration holds is a boundary. -/
structure Config.OnBoundaries (text : String) (c : Config) : Prop where
  pos : isBoundary text c.pos = true
  slots : Pattern.OnBoundaries text c.slots
  tasks : ∀ t ∈ c.tasks, t.OnBoundaries text

/-- An effect goes on with, and comes back to, such configurations only. -/
def Effect.OnBoundaries (text : String) : Effect → Prop
  | .next c => c.OnBoundaries text
  | .choose c frame => c.OnBoundaries text ∧ frame.OnBoundaries text
  | .fail => True
  | .cut _ c => c.OnBoundaries text
  | .cutFail _ => True

namespace Config.OnBoundaries

variable {c : Config}

theorem moveTo (h : c.OnBoundaries text) {pos : Nat} (hpos : isBoundary text pos = true) :
    Config.OnBoundaries text { c with pos } :=
  ⟨hpos, h.slots, h.tasks⟩

theorem save (h : c.OnBoundaries text) (slot : Nat) :
    Config.OnBoundaries text { c with slots := c.slots.set! slot (some c.pos) } :=
  ⟨h.pos, h.slots.save h.pos, h.tasks⟩

theorem mark (h : c.OnBoundaries text) (marks : List Nat) : Config.OnBoundaries text { c with marks } :=
  ⟨h.pos, h.slots, h.tasks⟩

theorem push (h : c.OnBoundaries text) {t : Task} (ht : t.OnBoundaries text) :
    Config.OnBoundaries text { c with tasks := t :: c.tasks } :=
  ⟨h.pos, h.slots, List.forall_mem_cons.mpr ⟨ht, h.tasks⟩⟩

end Config.OnBoundaries

theorem stepBack_boundary {n pos p : Nat} (hpos : isBoundary text pos = true)
    (h : stepBack text n pos = some p) : isBoundary text p = true := by
  induction n generalizing pos with
  | zero => cases h; exact hpos
  | succ n ih =>
      simp only [stepBack] at h
      split at h
      · cases h
      · exact ih (isBoundary_previous hpos) h

theorem copyGroups_onBoundaries {found slots : Slots} {i : Nat} {gs : List Nat}
    (hf : Pattern.OnBoundaries text found) (h : Pattern.OnBoundaries text slots) :
    Pattern.OnBoundaries text (copyGroups found i gs slots) := by
  induction gs generalizing i slots with
  | nil => exact h
  | cons g gs ih =>
      have hjoin : ∀ (n v : Nat), (found[n]?).join = some v → isBoundary text v = true :=
        fun n v hv => hf n v (Option.join_eq_some_iff.mp hv)
      exact ih ((h.set (hjoin _)).set (hjoin _))

theorem next_of_slice {c : Config} (h : c.OnBoundaries text) (t : String) :
    (if slice? text c.pos (c.pos + t.utf8ByteSize) = some t then
      Effect.next { c with pos := c.pos + t.utf8ByteSize } else .fail).OnBoundaries text := by
  split
  · rename_i ht; exact h.moveTo (slice?_right ht)
  · trivial

theorem next_of_charAt {c : Config} (h : c.OnBoundaries text) (p : Char → Bool) :
    (match charAt? text c.pos with
      | some ch => if p ch then Effect.next { c with pos := c.pos + ch.utf8Size } else .fail
      | none => .fail).OnBoundaries text := by
  split
  · rename_i ch hch
    split
    · exact h.moveTo (isBoundary_charAt? hch)
    · trivial
  · trivial

theorem Node.effect_onBoundaries {c : Config} (h : c.OnBoundaries text) (origin height : Nat) (n : Node) :
    (n.effect text origin height c).OnBoundaries text := by
  cases n with
  | any newline => exact next_of_charAt h fun ch => newline || ch != '\n'
  | text t => exact next_of_slice h t
  | set s => exact next_of_charAt h s.contains
  | check l =>
      simp only [Node.effect]
      split
      · exact h
      · trivial
  | delegate a groups =>
      simp only [Node.effect]
      split
      · rename_i found hf
        have hon := Automaton.matchAt_onBoundaries h.pos hf
        refine ⟨?_, copyGroups_onBoundaries hon h.slots, h.tasks⟩
        cases hv : (found[1]?).join with
        | none => exact h.pos
        | some v => exact hon 1 v (Option.join_eq_some_iff.mp hv)
      · trivial
  | seq ns =>
      refine ⟨h.pos, h.slots, fun t ht => ?_⟩
      rcases List.mem_append.mp ht with ht | ht
      · obtain ⟨_, _, rfl⟩ := List.mem_map.mp ht; trivial
      · exact h.tasks t ht
  | alt ns =>
      cases ns with
      | nil => trivial
      | cons n ns =>
          have hn := h.push (t := .node n) trivial
          cases ns with
          | nil => exact hn
          | cons n' ns => exact ⟨hn, h.push (t := .node (.alt (n' :: ns))) trivial⟩
  | group i n =>
      have hs := (h.push (t := .save (2 * i + 1)) trivial).push (t := .node n) trivial
      exact hs.save (2 * i)
  | loop lo hi greedy guarded n => exact h.push (t := .round lo hi greedy guarded n 0 none) trivial
  | around negated back n =>
      cases negated with
      | false =>
          simp only [Node.effect]
          split
          · rename_i pos hp
            have hr : Task.OnBoundaries text (.restore c.pos) := h.pos
            exact ((h.push hr).push (t := .node n) trivial).moveTo (stepBack_boundary h.pos hp)
          · trivial
      | true =>
          simp only [Node.effect]
          split
          · rename_i pos hp
            have hr := (h.push (t := .refuse height) trivial).push (t := .node n) trivial
            exact ⟨hr.moveTo (stepBack_boundary h.pos hp), h⟩
          · exact h
  | backref i =>
      simp only [Node.effect]
      split
      · exact next_of_slice h _
      · trivial
  | matched i =>
      simp only [Node.effect]
      split
      · exact h
      · trivial
  | atomic n => exact ((h.push (t := .commit) trivial).push (t := .node n) trivial).mark (height :: c.marks)
  | conditional cond yes no =>
      have hyes := ((h.push (t := .node yes) trivial).push (t := .commit) trivial).push (t := .node cond) trivial
      have hno := h.push (t := .node no) trivial
      exact ⟨hyes.mark (height :: c.marks), hno.mark (height :: c.marks)⟩
  | keepOut => exact h.save 0
  | searchStart =>
      simp only [Node.effect]
      split
      · trivial
      · exact h

theorem Task.effect_onBoundaries {c : Config} (h : c.OnBoundaries text) (origin height : Nat) {t : Task}
    (ht : t.OnBoundaries text) : (t.effect text origin height c).OnBoundaries text := by
  cases t with
  | node n => exact n.effect_onBoundaries h origin height
  | round lo hi greedy guarded n count last =>
      have hagain : ∀ last', Config.OnBoundaries text
          { c with tasks := .node n :: .round lo hi greedy guarded n (count + 1) last' :: c.tasks } :=
        fun last' => (h.push (t := .round lo hi greedy guarded n (count + 1) last') trivial).push
          (t := .node n) trivial
      simp only [Task.effect]
      split
      · trivial
      · split
        · exact h
        · split
          · exact hagain last
          · split
            · exact ⟨hagain _, h⟩
            · exact ⟨h, hagain _⟩
  | save slot => exact h.save slot
  | restore pos => exact h.moveTo ht
  | commit =>
      simp only [Task.effect]
      split
      · exact h
      · exact h.mark _
  | refuse height' => trivial

theorem Config.OnBoundaries.finish {c : Config} (h : c.OnBoundaries text) : Ordered text
    ((c.slots.set! 0 (some (min ((c.slots[0]?).join.getD c.pos) c.pos))).set! 1 (some c.pos)) := by
  have hstart : isBoundary text ((c.slots[0]?).join.getD c.pos) = true := by
    cases hv : (c.slots[0]?).join with
    | none => exact h.pos
    | some v => exact h.slots 0 v (Option.join_eq_some_iff.mp hv)
  have hmin : isBoundary text (min ((c.slots[0]?).join.getD c.pos) c.pos) = true := by
    rcases Nat.le_total ((c.slots[0]?).join.getD c.pos) c.pos with hle | hle
    · rw [Nat.min_eq_left hle]; exact hstart
    · rw [Nat.min_eq_right hle]; exact h.pos
  refine ⟨(h.slots.save hmin).save h.pos, fun a b ha hb => ?_⟩
  cases set_self hb
  rw [set_ne (by omega)] at ha
  cases set_self ha
  exact Nat.min_le_right _ _

/-- A failure goes on with the newest frame that is left. -/
theorem resume_ordered {origin fuel height returns : Nat} {frames : List Config} {slots : Slots}
    (hrun : ∀ f frames height returns, f.OnBoundaries text → (∀ f ∈ frames, f.OnBoundaries text) →
      run text origin fuel f frames height returns = .matched slots → Ordered text slots)
    (hf : ∀ f ∈ frames, f.OnBoundaries text)
    (h : (match frames with
      | [] => Outcome.failed returns
      | f :: frames =>
        if maxReturns ≤ returns then .exhausted
        else run text origin fuel f frames (height - 1) (returns + 1)) = .matched slots) :
    Ordered text slots := by
  split at h
  · cases h
  · obtain ⟨hf, hfs⟩ := List.forall_mem_cons.mp hf
    split at h
    · cases h
    · exact hrun _ _ _ _ hf hfs h

theorem run_ordered {origin fuel height returns : Nat} {c : Config} {frames : List Config} {slots : Slots}
    (hc : c.OnBoundaries text) (hf : ∀ f ∈ frames, f.OnBoundaries text)
    (h : run text origin fuel c frames height returns = .matched slots) : Ordered text slots := by
  induction fuel generalizing c frames height returns with
  | zero => cases h
  | succ fuel ih =>
      have hrun := fun f frames height returns hf hfs h => @ih height returns f frames hf hfs h
      have hdrop : ∀ n, ∀ f ∈ frames.drop n, f.OnBoundaries text := fun n f hm => hf f (List.mem_of_mem_drop hm)
      simp only [run] at h
      split at h
      · cases h; exact hc.finish
      · rename_i t tasks ht
        have htasks := hc.tasks
        rw [ht] at htasks
        obtain ⟨hto, htasks⟩ := List.forall_mem_cons.mp htasks
        have heff := Task.effect_onBoundaries (c := { c with tasks }) ⟨hc.pos, hc.slots, htasks⟩ origin height hto
        split at h
        · rename_i c' he; rw [he] at heff; exact ih heff hf h
        · rename_i c' frame he
          rw [he] at heff
          split at h
          · exact ih heff.1 (List.forall_mem_cons.mpr ⟨heff.2, hf⟩) h
          · cases h
        · exact resume_ordered hrun hf h
        · rename_i n c' he; rw [he] at heff; exact ih heff (hdrop _) h
        · exact resume_ordered hrun (hdrop _) h

theorem Program.attempt_ordered {p : Program} {origin pos returns : Nat} {slots : Slots}
    (hpos : isBoundary text pos = true) (h : p.attempt text origin pos returns = .matched slots) :
    Ordered text slots := by
  refine run_ordered ⟨hpos, ?_, ?_⟩ (by simp) h
  · refine Pattern.OnBoundaries.save (fun i v hv => ?_) hpos
    simp [Array.getElem?_replicate] at hv
  · intro t ht
    rw [List.mem_singleton.mp ht]
    trivial

theorem Program.searchFrom_ordered {p : Program} {origin fuel pos returns : Nat} {slots : Slots}
    (hpos : isBoundary text pos = true)
    (h : p.searchFrom text origin fuel pos returns = some (some slots)) : Ordered text slots := by
  induction fuel generalizing pos returns with
  | zero => cases h
  | succ fuel ih =>
      simp only [Program.searchFrom] at h
      split at h
      · rename_i ha; cases h; exact Program.attempt_ordered hpos ha
      · cases h
      · split at h
        · cases h
        · split at h
          · rename_i c hc; exact ih (isBoundary_charAt? hc) h
          · cases h

/-- The positions of a match that is searched for are boundaries, and it ends no earlier than it starts. -/
theorem Program.search_ordered {p : Program} {pos : Nat} {slots : Slots} (hpos : isBoundary text pos = true)
    (h : p.search text pos = some (some slots)) : Ordered text slots :=
  Program.searchFrom_ordered hpos h

end ModalLexer.Pattern.Backtracking
