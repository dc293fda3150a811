import Mathlib.Data.List.Forall2
import ModalLexer.Proofs.Outcome
import ModalLexer.Proofs.Session.Merge

/-!
Merging, whatever is given: insertions in any order and anywhere, and tokens with gaps, overlaps or empty texts. What a
merge returns holds every literal once and every token in pieces, both in order, and reads like the source where it
stands. It breaks off only where a piece does not stand in the source, a cut falls inside a character, or a sum of
offsets does not fit.
-/

namespace ModalLexer

open Text

namespace Session

/-! ## Parts of the output -/

/-- A part of what a merge puts out: a piece of a token of the buffer, or the literals of an insertion. -/
inductive Part
  | piece (t : Token)
  | literals (i : Insertion)
deriving DecidableEq, Repr, Inhabited

namespace Part

def tokens : Part → List Token
  | piece t => [t]
  | literals i => i.tokens

def piece? : Part → Option Token
  | piece t => some t
  | literals _ => none

def insertion? : Part → Option Insertion
  | piece _ => none
  | literals i => some i

end Part

def tokensOf (parts : List Part) : List Token :=
  parts.flatMap Part.tokens

def piecesOf (parts : List Part) : List Token :=
  parts.filterMap Part.piece?

def insertionsOf (parts : List Part) : List Insertion :=
  parts.filterMap Part.insertion?

section

variable (parts parts' : List Part) (ts : List Token) (is : List Insertion) (i : Insertion)

@[simp] theorem tokensOf_append : tokensOf (parts ++ parts') = tokensOf parts ++ tokensOf parts' := by
  simp [tokensOf]

@[simp] theorem piecesOf_append : piecesOf (parts ++ parts') = piecesOf parts ++ piecesOf parts' := by
  simp [piecesOf]

@[simp] theorem insertionsOf_append : insertionsOf (parts ++ parts') = insertionsOf parts ++ insertionsOf parts' := by
  simp [insertionsOf]

@[simp] theorem tokensOf_literals : tokensOf (.literals i :: parts) = i.tokens ++ tokensOf parts := rfl

@[simp] theorem piecesOf_literals : piecesOf (.literals i :: parts) = piecesOf parts := rfl

@[simp] theorem insertionsOf_literals : insertionsOf (.literals i :: parts) = i :: insertionsOf parts := rfl

@[simp] theorem tokensOf_pieces : tokensOf (ts.map .piece) = ts := by
  simp [tokensOf, List.flatMap_map, Part.tokens]

@[simp] theorem piecesOf_pieces : piecesOf (ts.map .piece) = ts := by
  simp [piecesOf, List.filterMap_map, Function.comp_def, Part.piece?]

@[simp] theorem insertionsOf_pieces : insertionsOf (ts.map .piece) = [] := by
  simp [insertionsOf, List.filterMap_map, Function.comp_def, Part.insertion?]

@[simp] theorem tokensOf_insertions : tokensOf (is.map .literals) = is.flatMap (·.tokens) := by
  simp [tokensOf, List.flatMap_map, Part.tokens]

@[simp] theorem piecesOf_insertions : piecesOf (is.map .literals) = [] := by
  simp [piecesOf, List.filterMap_map, Function.comp_def, Part.piece?]

@[simp] theorem insertionsOf_insertions : insertionsOf (is.map .literals) = is := by
  simp [insertionsOf, List.filterMap_map, Function.comp_def, Part.insertion?]

end

end Session

/-- Pieces of a token: none is empty, they have its kind, and their texts make up its text. -/
structure Token.BrokenInto (t : Token) (pieces : List Token) : Prop where
  text : texts pieces = t.text
  kind : ∀ p ∈ pieces, p.kind = t.kind
  nonempty : ∀ p ∈ pieces, p.text ≠ ""

namespace Session

/-- The move puts out a token. -/
def Move.IsPiece (m : Move) : Prop :=
  ∃ t, m = Move.ofToken t

theorem Move.not_isPiece_brokenCut : ¬ Move.IsPiece .brokenCut := by
  rintro ⟨t, h⟩
  cases h

theorem Move.not_isPiece_overflow : ¬ Move.IsPiece .overflow := by
  rintro ⟨t, h⟩
  cases h

theorem map_literalMoves (i : Insertion) : literalMoves i = i.tokens.map Move.ofToken := rfl

/-- A part of a token is put out as one piece, or as none where it is empty. -/
theorem tokenPart_pieces {t : Token} {start stop : Nat} (h : ∀ m ∈ tokenPart t start stop, m.IsPiece) :
    ∃ pieces, tokenPart t start stop = pieces.map Move.ofToken ∧ slice? t.text start stop = some (texts pieces) ∧
      ∀ p ∈ pieces, p.kind = t.kind ∧ p.text ≠ "" := by
  unfold tokenPart at h ⊢
  cases hs : slice? t.text start stop with
  | none =>
      rw [hs] at h
      exact absurd (h .brokenCut (List.mem_singleton_self _)) Move.not_isPiece_brokenCut
  | some u =>
      simp only
      by_cases hu : u = ""
      · exact ⟨[], by simp [hu], by simp [hu], by simp⟩
      · exact ⟨[⟨t.offset + start, t.kind, u⟩], by simp [hu, Move.ofToken], by simp [texts], by simp [hu]⟩

/-- Cutting a token puts out the rest of its text in pieces, with the insertions that are taken off the list. -/
theorem cutToken_parts {t : Token} {split : Nat} {is : List Insertion}
    (h : ∀ m ∈ (cutToken t split is).1, m.IsPiece) :
    ∃ parts, (cutToken t split is).1 = (tokensOf parts).map Move.ofToken ∧
      insertionsOf parts ++ (cutToken t split is).2 = is ∧
      slice? t.text split t.length = some (texts (piecesOf parts)) ∧
      ∀ p ∈ piecesOf parts, p.kind = t.kind ∧ p.text ≠ "" := by
  -- What is left of the text when no insertion cuts it any more.
  have hlast {split : Nat} (h : ∀ m ∈ tokenPart t split t.length, m.IsPiece) :
      ∃ parts, tokenPart t split t.length = (tokensOf parts).map Move.ofToken ∧ insertionsOf parts = [] ∧
        slice? t.text split t.length = some (texts (piecesOf parts)) ∧
        ∀ p ∈ piecesOf parts, p.kind = t.kind ∧ p.text ≠ "" := by
    obtain ⟨pieces, hmoves, hs, hp⟩ := tokenPart_pieces h
    exact ⟨pieces.map .piece, by simpa using hmoves, by simp, by simpa using hs, by simpa using hp⟩
  induction is generalizing split with
  | nil =>
      obtain ⟨parts, hmoves, hins, hs, hp⟩ := hlast h
      exact ⟨parts, hmoves, by simp [hins, cutToken], hs, hp⟩
  | cons i is ih =>
      simp only [cutToken] at h ⊢
      cases hstop : t.stop? with
      | none =>
          rw [hstop] at h
          exact absurd (h .overflow (List.mem_singleton_self _)) Move.not_isPiece_overflow
      | some stop =>
          simp only [hstop] at h ⊢
          split
          next hin =>
            rw [if_pos hin] at h
            obtain ⟨hfront, hback⟩ := List.forall_mem_append.mp h
            obtain ⟨hhead, _⟩ := List.forall_mem_append.mp hfront
            obtain ⟨pieces, hpm, hps, hpp⟩ := tokenPart_pieces hhead
            obtain ⟨parts, hmoves, hins, hs, hp⟩ := ih hback
            refine ⟨pieces.map .piece ++ .literals i :: parts, ?_, ?_, ?_, ?_⟩
            · simp [hpm, hmoves, map_literalMoves]
            · simpa using hins
            · simpa [texts_append] using slice?_append hps hs
            · simpa [or_imp, forall_and] using ⟨⟨fun p hm => (hpp p hm).1, fun p hm => (hp p hm).1⟩,
                fun p hm => (hpp p hm).2, fun p hm => (hp p hm).2⟩
          next hin =>
            rw [if_neg hin] at h
            obtain ⟨parts, hmoves, hins, hs, hp⟩ := hlast h
            exact ⟨parts, hmoves, by simp [hins], hs, hp⟩

/-- A merge puts out every insertion once and every token in pieces, in order. -/
theorem mergeMoves_parts {ts : List Token} {is : List Insertion} (h : ∀ m ∈ mergeMoves ts is, m.IsPiece) :
    ∃ parts groups, mergeMoves ts is = (tokensOf parts).map Move.ofToken ∧ insertionsOf parts = is ∧
      piecesOf parts = groups.flatten ∧ List.Forall₂ Token.BrokenInto ts groups := by
  induction ts generalizing is with
  | nil =>
      refine ⟨is.map .literals, [], ?_, by simp, by simp, .nil⟩
      rw [mergeMoves, tokensOf_insertions, List.map_flatMap]
      rfl
  | cons t ts ih =>
      obtain ⟨hfirst, hrest⟩ := List.forall_mem_append.mp h
      obtain ⟨parts, hmoves, hins, hs, hp⟩ := cutToken_parts hfirst
      obtain ⟨parts', groups, hmoves', hins', hpieces, hgroups⟩ := ih hrest
      have hwhole : texts (piecesOf parts) = t.text := Option.some.inj (hs.symm.trans (slice?_all t.text))
      refine ⟨parts ++ parts', piecesOf parts :: groups, ?_, ?_, ?_, .cons ?_ hgroups⟩
      · simp only [mergeMoves, hmoves, hmoves', tokensOf_append, List.map_append]
      · rw [insertionsOf_append, hins', hins]
      · rw [piecesOf_append, hpieces, List.flatten_cons]
      · exact ⟨hwhole, fun p hm => (hp p hm).1, fun p hm => (hp p hm).2⟩

theorem overflow_mem_cutToken {t : Token} {split : Nat} {is : List Insertion}
    (h : .overflow ∈ (cutToken t split is).1) : offsetLimit ≤ t.offset + t.length := by
  have hpart (start stop : Nat) : .overflow ∉ tokenPart t start stop := by
    unfold tokenPart
    split
    · simp
    · split <;> simp
  have hliterals (i : Insertion) : .overflow ∉ literalMoves i := by simp [literalMoves]
  induction is generalizing split with
  | nil => exact absurd h (hpart _ _)
  | cons i is ih =>
      simp only [cutToken] at h
      cases hstop : t.stop? with
      | none =>
          rw [Token.stop?, addOffset?] at hstop
          split at hstop
          · cases hstop
          · omega
      | some stop =>
          simp only [hstop] at h
          split at h
          · rcases List.mem_append.mp h with h | h
            · rcases List.mem_append.mp h with h | h
              · exact absurd h (hpart _ _)
              · exact absurd h (hliterals i)
            · exact ih h
          · exact absurd h (hpart _ _)

theorem overflow_mem_mergeMoves {ts : List Token} {is : List Insertion} (h : .overflow ∈ mergeMoves ts is) :
    ∃ t ∈ ts, offsetLimit ≤ t.offset + t.length := by
  induction ts generalizing is with
  | nil => simp [mergeMoves, literalMoves] at h
  | cons t ts ih =>
      rcases List.mem_append.mp h with h | h
      · exact ⟨t, List.mem_cons_self, overflow_mem_cutToken h⟩
      · obtain ⟨u, hu, hover⟩ := ih h
        exact ⟨u, List.mem_cons_of_mem _ hu, hover⟩

/-! ## Places in the source -/

/-- Tokens that follow one another from an offset on, each with the text that the source has at its place. -/
def Abut (source : String) : (pos : Nat) → List Token → Prop
  | _, [] => True
  | pos, t :: ts => t.offset = pos ∧ slice? source pos (pos + t.length) = some t.text ∧ Abut source (pos + t.length) ts

variable {source : String} {pos : Nat}

theorem place_eq_ok {moves : List Move} {out : List Token} (h : place source pos moves = .ok out) :
    moves = out.map Move.ofToken ∧ Abut source pos out := by
  induction moves generalizing pos out with
  | nil => cases h; exact ⟨rfl, trivial⟩
  | cons move moves ih =>
      cases move with
      | brokenCut => cases h
      | overflow => cases h
      | piece kind text =>
          simp only [place] at h
          cases hstop : addOffset? pos text.utf8ByteSize with
          | none => rw [hstop] at h; cases h
          | some stop =>
              simp only [hstop] at h
              obtain ⟨rfl, _⟩ := addOffset?_eq_some_iff.mp hstop
              split at h
              next hs =>
                obtain ⟨rest, hrest, h⟩ := bind_eq_ok.mp h
                cases h
                obtain ⟨hmoves, habut⟩ := ih hrest
                exact ⟨by rw [hmoves]; rfl, rfl, hs, habut⟩
              · cases h

/-- Places follow from texts. -/
theorem Abut.eq_relocate {out ts : List Token} (h : Abut source pos out)
    (hmoves : out.map Move.ofToken = ts.map Move.ofToken) : out = relocate pos ts := by
  induction out generalizing pos ts with
  | nil => rw [List.map_eq_nil_iff.mp hmoves.symm]; rfl
  | cons t out ih =>
      obtain ⟨u, us, rfl, hu, hus⟩ := List.map_eq_cons_iff.mp hmoves.symm
      obtain ⟨rfl, _, h⟩ := h
      obtain ⟨offset, kind, text⟩ := t
      obtain ⟨offset', kind', text'⟩ := u
      cases hu
      exact congrArg (⟨offset, kind, text⟩ :: ·) (ih h hus.symm)

/-- Why a merge breaks off at a move for which it stands at an offset. -/
def Stops (source : String) (pos : Nat) : Move → Error → Prop
  | .piece _ text, e =>
    e = .offsetOverflow ∧ offsetLimit ≤ pos + text.utf8ByteSize ∨
      e = .misaligned pos ∧ slice? source pos (pos + text.utf8ByteSize) ≠ some text
  | .brokenCut, e => e = .misaligned pos
  | .overflow, e => e = .offsetOverflow

/-- Up to the move that a merge breaks off at, every piece stands in the source. -/
theorem place_eq_error {moves : List Move} {e : Error} (h : place source pos moves = .error e) :
    ∃ front move back, moves = front.map Move.ofToken ++ move :: back ∧ Abut source pos (relocate pos front) ∧
      Stops source (pos + (texts front).utf8ByteSize) move e := by
  induction moves generalizing pos with
  | nil => cases h
  | cons move moves ih =>
      cases move with
      | brokenCut => cases h; exact ⟨[], .brokenCut, moves, rfl, trivial, rfl⟩
      | overflow => cases h; exact ⟨[], .overflow, moves, rfl, trivial, rfl⟩
      | piece kind text =>
          simp only [place] at h
          cases hstop : addOffset? pos text.utf8ByteSize with
          | none =>
              rw [hstop] at h
              cases h
              refine ⟨[], .piece kind text, moves, rfl, trivial, .inl ⟨rfl, ?_⟩⟩
              rw [addOffset?] at hstop
              split at hstop
              · cases hstop
              · simpa using Nat.le_of_not_lt ‹_›
          | some stop =>
              simp only [hstop] at h
              obtain ⟨rfl, _⟩ := addOffset?_eq_some_iff.mp hstop
              split at h
              next hs =>
                rcases bind_eq_error.mp h with h | ⟨_, _, h⟩
                · obtain ⟨front, move, back, rfl, habut, hstops⟩ := ih h
                  refine ⟨⟨pos, kind, text⟩ :: front, move, back, rfl, ⟨rfl, hs, habut⟩, ?_⟩
                  rwa [texts_cons, String.utf8ByteSize_append, ← Nat.add_assoc]
                · cases h
              next hs =>
                cases h
                exact ⟨[], .piece kind text, moves, rfl, trivial, .inr ⟨rfl, by simpa using hs⟩⟩

/-! ## Cuts in range -/

theorem cutToken?_eq {t : Token} {split : Nat} (hsplit : split ≤ t.length) (is : List Insertion) :
    cutToken? t split is = some (cutToken t split is) := by
  induction is generalizing split with
  | nil => rfl
  | cons i is ih =>
      simp only [cutToken?, cutToken]
      cases t.stop? with
      | none => rfl
      | some stop =>
          simp only
          split
          · -- The new cut is at most the length again.
            have hcut := ih (Nat.min_le_right (max (i.index - t.offset) split) t.length)
            simp [clamp?, hsplit, hcut]
          · rfl

theorem mergeMoves?_eq (ts : List Token) (is : List Insertion) : mergeMoves? ts is = some (mergeMoves ts is) := by
  induction ts generalizing is with
  | nil => rfl
  | cons t ts ih => simp [mergeMoves?, mergeMoves, cutToken?_eq, ih]

/-! ## Merges -/

/-- Merging loses, repeats and makes up nothing. It never moves a cut into a range with swapped ends, and it breaks off
with an overflow only where a sum of offsets does not fit. What it returns are tokens that abut from the start on and
read like the source: the literals of all insertions, in order, between the pieces of the tokens, in order. -/
theorem merge_lossless (source : String) (start : Nat) (is : List Insertion) (nested : List Token) :
    merge? source start is nested = some (merge source start is nested) ∧
      (∀ e, merge source start is nested = .error e → (∃ pos, e = .misaligned pos) ∨
        e = .offsetOverflow ∧ ((∃ t ∈ nested, offsetLimit ≤ t.offset + t.length) ∨
          ∃ front t, (front ++ [t]).map Move.ofToken <+: mergeMoves nested is ∧
            Abut source start (relocate start front) ∧
            offsetLimit ≤ start + (texts front).utf8ByteSize + t.length)) ∧
      ∀ out, merge source start is nested = .ok out → Abut source start out ∧
        ∃ parts groups, out = relocate start (tokensOf parts) ∧ insertionsOf parts = is ∧
          piecesOf parts = groups.flatten ∧ List.Forall₂ Token.BrokenInto nested groups := by
  refine ⟨by rw [merge?, mergeMoves?_eq]; rfl, fun e h => ?_, fun out h => ?_⟩
  · obtain ⟨front, move, back, hmoves, habut, hstops⟩ := place_eq_error h
    cases move with
    | brokenCut => exact .inl ⟨_, hstops⟩
    | overflow =>
        have hmem : .overflow ∈ mergeMoves nested is := by simp [hmoves]
        exact .inr ⟨hstops, .inl (overflow_mem_mergeMoves hmem)⟩
    | piece kind text =>
        rcases hstops with ⟨he, hlimit⟩ | ⟨he, _⟩
        · refine .inr ⟨he, .inr ⟨front, ⟨0, kind, text⟩, ⟨back, ?_⟩, habut, hlimit⟩⟩
          rw [hmoves]
          simp [Move.ofToken]
        · exact .inl ⟨_, he⟩
  · obtain ⟨hmoves, habut⟩ := place_eq_ok h
    have hpieces : ∀ m ∈ mergeMoves nested is, m.IsPiece := by
      intro m hm
      rw [hmoves] at hm
      obtain ⟨t, _, rfl⟩ := List.mem_map.mp hm
      exact ⟨t, rfl⟩
    obtain ⟨parts, groups, hparts, hins, hp, hgroups⟩ := mergeMoves_parts hpieces
    exact ⟨habut, parts, groups, habut.eq_relocate (hmoves.symm.trans hparts), hins, hp, hgroups⟩

/-- Insertions out of order, the last one beyond all tokens. -/
def unordered : List Insertion :=
  [⟨1, [⟨0, .prompt, ">"⟩, ⟨0, .prompt, ""⟩]⟩, ⟨0, [⟨9, .output, "<"⟩]⟩, ⟨99, [⟨0, .prompt, "$"⟩]⟩]

/-- Tokens with a gap between them, an empty one, and one that lies over the first. -/
def scattered : List Token :=
  [⟨0, .text, "aé"⟩, ⟨7, .error, ""⟩, ⟨2, .error, "b!"⟩]

theorem merge_lossless_unordered :
    merge "_a><éb!$" 1 unordered scattered = .ok [⟨1, .text, "a"⟩, ⟨2, .prompt, ">"⟩, ⟨3, .prompt, ""⟩,
      ⟨3, .output, "<"⟩, ⟨4, .text, "é"⟩, ⟨6, .error, "b!"⟩, ⟨8, .prompt, "$"⟩] ∧
    ∃ parts groups, insertionsOf parts = unordered ∧ piecesOf parts = groups.flatten ∧
      List.Forall₂ Token.BrokenInto scattered groups := by
  have hok : merge "_a><éb!$" 1 unordered scattered = .ok [⟨1, .text, "a"⟩, ⟨2, .prompt, ">"⟩, ⟨3, .prompt, ""⟩,
      ⟨3, .output, "<"⟩, ⟨4, .text, "é"⟩, ⟨6, .error, "b!"⟩, ⟨8, .prompt, "$"⟩] := by decide +kernel
  obtain ⟨_, parts, groups, _, hins, hp, hgroups⟩ := (merge_lossless "_a><éb!$" 1 unordered scattered).2.2 _ hok
  exact ⟨hok, parts, groups, hins, hp, hgroups⟩

end Session

end ModalLexer
