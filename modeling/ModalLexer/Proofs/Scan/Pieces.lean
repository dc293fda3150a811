import Mathlib.Data.List.Chain
import ModalLexer.Proofs.Text.Boundary
import ModalLexer.Scan.Pieces

/-!
How a match is divided. Its pieces lie one after the other from its start to its end, none of them empty, whatever
the groups are; and a group that could be a piece is one, unless an earlier group took some of its text.
-/

namespace ModalLexer.Piece

open Text (Span isBoundary)

/-! ## Order -/

/-- The pieces lie one after the other, from one offset to another. -/
def Consecutive : (start : Nat) → List Piece → (stop : Nat) → Prop
  | start, [], stop => start = stop
  | start, p :: ps, stop => p.span.start = start ∧ start < p.span.stop ∧ Consecutive p.span.stop ps stop

theorem gapUpTo_append {a b c : Nat} {ps : List Piece} (hab : a ≤ b) (h : Consecutive b ps c) :
    Consecutive a (gapUpTo a b ++ ps) c := by
  unfold gapUpTo
  split
  · rename_i hlt; exact ⟨rfl, hlt, h⟩
  · rw [Nat.le_antisymm hab (by omega)]; exact h

theorem planFrom_consecutive {stop index pos : Nat} {emits : Nat → Bool} {groups : List (Option Span)}
    (hpos : pos ≤ stop) : Consecutive pos (planFrom stop emits index pos groups) stop := by
  fun_induction planFrom stop emits index pos groups with
  | case1 index pos =>
      have hend : Consecutive stop [] stop := rfl
      simpa using gapUpTo_append hpos hend
  | case2 index pos gs ih => exact ih hpos
  | case3 index pos g gs hg ih =>
      simp only [Bool.and_eq_true, Bool.not_eq_true', decide_eq_true_eq, Span.isEmpty,
        decide_eq_false_iff_not, Nat.not_le] at hg
      obtain ⟨⟨⟨_, hlt⟩, hstart⟩, hstop⟩ := hg
      exact gapUpTo_append hstart ⟨rfl, hlt, ih hstop⟩
  | case4 index pos g gs _ ih => exact ih hpos

theorem Consecutive.mem_lt {start stop : Nat} {ps : List Piece} (h : Consecutive start ps stop) :
    ∀ p ∈ ps, p.span.start < p.span.stop := by
  induction ps generalizing start with
  | nil => simp
  | cons q ps ih =>
      obtain ⟨rfl, hlt, h⟩ := h
      exact List.forall_mem_cons.mpr ⟨hlt, ih h⟩

theorem Consecutive.split {start stop : Nat} {ps qs : List Piece} (h : Consecutive start (ps ++ qs) stop) :
    ∃ mid, Consecutive start ps mid ∧ Consecutive mid qs stop := by
  induction ps generalizing start with
  | nil => exact ⟨start, rfl, h⟩
  | cons p ps ih =>
      obtain ⟨hstart, hlt, h⟩ := h
      obtain ⟨mid, hps, hqs⟩ := ih h
      exact ⟨mid, ⟨hstart, hlt, hps⟩, hqs⟩

/-- The number of bytes of a piece. -/
def width (p : Piece) : Nat :=
  p.span.stop - p.span.start

theorem Consecutive.le {start stop : Nat} {ps : List Piece} (h : Consecutive start ps stop) : start ≤ stop := by
  induction ps generalizing start with
  | nil => exact Nat.le_of_eq h
  | cons p ps ih => exact Nat.le_trans (Nat.le_of_lt h.2.1) (ih h.2.2)

theorem Consecutive.eq_nil {pos : Nat} {ps : List Piece} (h : Consecutive pos ps pos) : ps = [] := by
  cases ps with
  | nil => rfl
  | cons p ps =>
      obtain ⟨_, hlt, h⟩ := h
      exact absurd h.le (Nat.not_le.mpr hlt)

/-- The number of bytes of all the pieces. -/
def totalWidth : List Piece → Nat
  | [] => 0
  | p :: ps => p.width + totalWidth ps

theorem Consecutive.totalWidth_eq {start stop : Nat} {ps : List Piece} (h : Consecutive start ps stop) :
    totalWidth ps = stop - start := by
  induction ps generalizing start with
  | nil => cases h; simp [totalWidth]
  | cons p ps ih =>
      obtain ⟨rfl, hlt, h⟩ := h
      have hle := h.le
      rw [totalWidth, ih h, width]
      omega

/-! ## Groups -/

section

variable {stop index pos i : Nat} {emits : Nat → Bool} {groups : List (Option Span)} {g : Span}

theorem group_notMem_gapUpTo (i : Nat) (g : Span) (a b : Nat) : group i g ∉ gapUpTo a b := by
  unfold gapUpTo
  split
  · simp
  · simp

/-- What stands before a group is a gap. -/
theorem group_mem_taken {j a b : Nat} {h : Span} {ps : List Piece} :
    group i g ∈ gapUpTo a b ++ group j h :: ps ↔ i = j ∧ g = h ∨ group i g ∈ ps := by
  simp [group_notMem_gapUpTo]

/-- A group is a piece only if it took part in the match, with that span, and its action becomes tokens. -/
theorem planFrom_captured (h : group i g ∈ planFrom stop emits index pos groups) :
    emits i = true ∧ ∃ k, i = index + k ∧ groups[k]? = some (some g) := by
  fun_induction planFrom stop emits index pos groups with
  | case1 index pos => exact absurd h (group_notMem_gapUpTo i g _ _)
  | case2 index pos gs ih =>
      obtain ⟨he, k, hk, hg⟩ := ih h
      exact ⟨he, k + 1, by omega, hg⟩
  | case3 index pos g' gs taken ih =>
      simp only [Bool.and_eq_true] at taken
      rcases group_mem_taken.mp h with ⟨rfl, rfl⟩ | h
      · exact ⟨taken.1.1.1, 0, rfl, rfl⟩
      · obtain ⟨he, k, hk, hg⟩ := ih h
        exact ⟨he, k + 1, by omega, hg⟩
  | case4 index pos g' gs _ ih =>
      obtain ⟨he, k, hk, hg⟩ := ih h
      exact ⟨he, k + 1, by omega, hg⟩

theorem planFrom_emits (h : group i g ∈ planFrom stop emits index pos groups) : emits i = true :=
  (planFrom_captured h).1

/-- A group that could be a piece and is none starts before the end of an earlier one. -/
theorem planFrom_maximal {k : Nat} (hi : i = index + k) (hg : groups[k]? = some (some g)) (he : emits i = true)
    (hlt : g.start < g.stop) (hle : g.stop ≤ stop) (hout : group i g ∉ planFrom stop emits index pos groups) :
    g.start < pos ∨ ∃ j h, j < i ∧ group j h ∈ planFrom stop emits index pos groups ∧ g.start < h.stop := by
  fun_induction planFrom stop emits index pos groups generalizing k with
  | case1 index pos => cases hg
  | case2 index pos gs ih =>
      cases k with
      | zero => cases hg
      | succ k => exact ih (by omega) hg hout
  | case3 index pos g' gs taken ih =>
      obtain ⟨hne, hout⟩ := not_or.mp (mt group_mem_taken.mpr hout)
      right
      cases k with
      | zero => cases hg; exact absurd ⟨hi, rfl⟩ hne
      | succ k =>
          rcases ih (by omega) hg hout with hlt | ⟨j, h, hj, hmem, hlt⟩
          · exact ⟨index, g', by omega, group_mem_taken.mpr (.inl ⟨rfl, rfl⟩), hlt⟩
          · exact ⟨j, h, hj, group_mem_taken.mpr (.inr hmem), hlt⟩
  | case4 index pos g' gs left ih =>
      cases k with
      | zero =>
          -- Of the four conditions on a piece only the one on its start can fail here.
          cases hg
          obtain rfl : i = index := hi
          refine .inl (Nat.lt_of_not_le fun hstart => left ?_)
          simp [he, Span.isEmpty, hlt, hstart, hle]
      | succ k => exact ih (by omega) hg hout

/-- The place of the group that a piece is, if it is one. -/
def index? : Piece → Option Nat
  | gap _ => none
  | group i _ => some i

theorem mem_filterMap_index? {ps : List Piece} : i ∈ ps.filterMap index? ↔ ∃ g, group i g ∈ ps := by
  simp only [List.mem_filterMap]
  constructor
  · rintro ⟨p, hp, hi⟩
    cases p with
    | gap g => cases hi
    | group j g => cases hi; exact ⟨g, hp⟩
  · rintro ⟨g, hg⟩
    exact ⟨_, hg, rfl⟩

theorem filterMap_index?_gapUpTo (a b : Nat) : (gapUpTo a b).filterMap index? = [] := by
  unfold gapUpTo
  split
  · rfl
  · rfl

theorem planFrom_increasing :
    ((planFrom stop emits index pos groups).filterMap index?).Pairwise (· < ·) := by
  fun_induction planFrom stop emits index pos groups with
  | case1 index pos => rw [filterMap_index?_gapUpTo]; exact .nil
  | case2 index pos gs ih => exact ih
  | case3 index pos g gs _ ih =>
      rw [List.filterMap_append, filterMap_index?_gapUpTo, List.nil_append]
      refine List.pairwise_cons.mpr ⟨fun j hj => ?_, ih⟩
      obtain ⟨h, hmem⟩ := mem_filterMap_index?.mp hj
      obtain ⟨_, k, hk, _⟩ := planFrom_captured hmem
      omega
  | case4 index pos g gs _ ih => exact ih

def isGap : Piece → Bool
  | gap _ => true
  | group _ _ => false

/-- No gap stands next to a gap. -/
def GapsApart (ps : List Piece) : Prop :=
  ps.IsChain fun p q => ¬(p.isGap = true ∧ q.isGap = true)

theorem GapsApart.taken {ps : List Piece} (h : GapsApart ps) (a b : Nat) (i : Nat) (g : Span) :
    GapsApart (gapUpTo a b ++ group i g :: ps) := by
  have hgroup : GapsApart (group i g :: ps) := by
    cases ps with
    | nil => exact .singleton _
    | cons p ps => exact .cons_cons (fun h => by cases h.1) h
  unfold gapUpTo
  split
  · exact .cons_cons (fun h => by cases h.2) hgroup
  · exact hgroup

theorem planFrom_gapsApart : GapsApart (planFrom stop emits index pos groups) := by
  fun_induction planFrom stop emits index pos groups with
  | case1 index pos =>
      unfold gapUpTo
      split
      · exact .singleton _
      · exact .nil
  | case2 index pos gs ih => exact ih
  | case3 index pos g gs _ ih => exact ih.taken pos g.start index g
  | case4 index pos g gs _ ih => exact ih

end

/-! ## Boundaries -/

/-- A piece starts and ends at a boundary of the text. -/
def OnBoundaries (text : String) (p : Piece) : Prop :=
  isBoundary text p.span.start = true ∧ isBoundary text p.span.stop = true

theorem gapUpTo_onBoundaries {text : String} {a b : Nat} (ha : isBoundary text a = true)
    (hb : isBoundary text b = true) : ∀ p ∈ gapUpTo a b, p.OnBoundaries text := by
  intro p hp
  unfold gapUpTo at hp
  split at hp
  · rw [List.mem_singleton.mp hp]; exact ⟨ha, hb⟩
  · cases hp

theorem planFrom_onBoundaries {text : String} {stop index pos : Nat} {emits : Nat → Bool}
    {groups : List (Option Span)} (hpos : isBoundary text pos = true) (hstop : isBoundary text stop = true)
    (hg : ∀ g, some g ∈ groups → isBoundary text g.start = true ∧ isBoundary text g.stop = true) :
    ∀ p ∈ planFrom stop emits index pos groups, p.OnBoundaries text := by
  fun_induction planFrom stop emits index pos groups with
  | case1 index pos => exact gapUpTo_onBoundaries hpos hstop
  | case2 index pos gs ih => exact ih hpos fun g hm => hg g (List.mem_cons_of_mem _ hm)
  | case3 index pos g gs _ ih =>
      obtain ⟨hstart, hend⟩ := hg g List.mem_cons_self
      intro p hp
      rcases List.mem_append.mp hp with hp | hp
      · exact gapUpTo_onBoundaries hpos hstart p hp
      · rcases List.mem_cons.mp hp with rfl | hp
        · exact ⟨hstart, hend⟩
        · exact ih hend (fun g hm => hg g (List.mem_cons_of_mem _ hm)) p hp
  | case4 index pos g gs _ ih => exact ih hpos fun g hm => hg g (List.mem_cons_of_mem _ hm)

/-! ## Whole matches -/

/-- Pieces that divide a match. The first of the groups is the whole match; group `i + 1` is for action `i`. -/
structure Divides (span : Span) (groups : List (Option Span)) (emits : Nat → Bool) (ps : List Piece) : Prop where
  consecutive : Consecutive span.start ps span.stop
  totalWidth : totalWidth ps = span.stop - span.start
  gapsApart : GapsApart ps
  captured : ∀ i g, group i g ∈ ps → groups[i + 1]? = some (some g) ∧ emits i = true
  increasing : (ps.filterMap index?).Pairwise (· < ·)
  maximal : ∀ i g, groups[i + 1]? = some (some g) → emits i = true → g.start < g.stop → span.start ≤ g.start →
    g.stop ≤ span.stop → group i g ∉ ps → ∃ j h, j < i ∧ group j h ∈ ps ∧ g.start < h.stop

/-- Whatever the groups are, the pieces of a match divide it: they tile it, gaps are as wide as they can be, the
groups among them stand in order with the spans that they had in the match, and each group is kept that lies inside
the match and does not start before the end of an earlier piece. -/
theorem plan_divides {span : Span} (ordered : span.start ≤ span.stop) (groups : List (Option Span))
    (emits : Nat → Bool) : Divides span groups emits (plan span groups emits) := by
  have hgroup (i : Nat) : (groups.drop 1)[i]? = groups[i + 1]? := by rw [List.getElem?_drop, Nat.add_comm]
  have hconsecutive : Consecutive span.start (plan span groups emits) span.stop := planFrom_consecutive ordered
  refine ⟨hconsecutive, hconsecutive.totalWidth_eq, planFrom_gapsApart, ?_, planFrom_increasing, ?_⟩
  · intro i g hmem
    obtain ⟨he, k, hk, hg⟩ := planFrom_captured hmem
    obtain rfl : i = k := hk.trans (Nat.zero_add k)
    exact ⟨(hgroup i).symm.trans hg, he⟩
  · intro i g hg he hlt hstart hstop hout
    have hearlier := planFrom_maximal (Nat.zero_add i).symm ((hgroup i).trans hg) he hlt hstop hout
    exact hearlier.resolve_left (Nat.not_lt.mpr hstart)

/-- A match at `2..10`, with groups that overlap, one without a span, an empty one, and one that ends after the
match. -/
def overlapping : List (Option Span) :=
  [some ⟨2, 10⟩, some ⟨2, 4⟩, none, some ⟨4, 4⟩, some ⟨3, 6⟩, some ⟨6, 8⟩, some ⟨7, 11⟩]

theorem plan_divides_overlapping : plan ⟨2, 10⟩ overlapping (fun _ => true) =
      [group 0 ⟨2, 4⟩, gap ⟨4, 6⟩, group 4 ⟨6, 8⟩, gap ⟨8, 10⟩] ∧
    (⟨2, 10⟩ : Span).start ≤ (⟨2, 10⟩ : Span).stop ∧
    Divides ⟨2, 10⟩ overlapping (fun _ => true) (plan ⟨2, 10⟩ overlapping fun _ => true) := by
  have ordered : (⟨2, 10⟩ : Span).start ≤ (⟨2, 10⟩ : Span).stop := by decide
  exact ⟨by decide, ordered, plan_divides ordered overlapping fun _ => true⟩

end ModalLexer.Piece
