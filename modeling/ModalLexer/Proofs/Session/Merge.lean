import ModalLexer.Proofs.Session.Cut
import ModalLexer.Session.Merge

/-!
Merging. Insertions with places in order cut the tokens of the buffer, and the merge puts out the parts and the
literals between them, unless an offset gets too large. Where the source reads like the buffer with the literals
put in, every part stands at its place, so the result tiles that piece of the source. Of a literal only its kind and
its text matter, and kinds are handed on as they are.
-/

namespace ModalLexer

open Text

namespace Session

/-! ## The parts and the literals in order -/

/-- The insertions have boundaries of the buffer as their places, in order and from an offset on. -/
def Fit (code : String) : (start : Nat) → List Insertion → Prop
  | _, [] => True
  | start, i :: is => start ≤ i.index ∧ isBoundary code i.index = true ∧ Fit code i.index is

theorem Fit.mono {code : String} {a b : Nat} {is : List Insertion} (hab : a ≤ b) (h : Fit code b is) :
    Fit code a is := by
  cases is with
  | nil => trivial
  | cons i is => exact ⟨Nat.le_trans hab h.1, h.2⟩

theorem Fit.ordered {code : String} {a : Nat} {is : List Insertion} (h : Fit code a is) :
    (is.map (·.index)).Pairwise (· ≤ ·) ∧ ∀ i ∈ is, a ≤ i.index ∧ isBoundary code i.index = true := by
  induction is generalizing a with
  | nil => simp
  | cons i is ih =>
      obtain ⟨hle, hb, hfit⟩ := h
      obtain ⟨hord, hall⟩ := ih hfit
      refine ⟨List.pairwise_cons.mpr ⟨fun n hn => ?_, hord⟩, List.forall_mem_cons.mpr ⟨⟨hle, hb⟩, fun j hj => ?_⟩⟩
      · obtain ⟨j, hj, rfl⟩ := List.mem_map.mp hn
        exact (hall j hj).1
      · exact ⟨Nat.le_trans hle (hall j hj).1, (hall j hj).2⟩

/-- The tokens cut at the places of the insertions, with the literals put in there. -/
def sections (ts : List Token) : List Insertion → List Token
  | [] => ts
  | i :: is => (cutAt i.index ts).1 ++ i.tokens ++ sections (cutAt i.index ts).2 is

/-- The buffer from an offset on, with the texts of the literals put in at their places. -/
def weaveFrom (code : String) (pos : Nat) : List Insertion → String
  | [] => slice code ⟨pos, code.utf8ByteSize⟩
  | i :: is => slice code ⟨pos, i.index⟩ ++ texts i.tokens ++ weaveFrom code i.index is

/-- The buffer with the texts of the literals put in at their places. -/
def weave (code : String) (is : List Insertion) : String :=
  weaveFrom code 0 is

variable {code : String} {a : Nat} {ts : List Token} {is : List Insertion}

theorem texts_sections (ha : isBoundary code a = true) (h : Tiles code a ts code.utf8ByteSize)
    (hfit : Fit code a is) : texts (sections ts is) = weaveFrom code a is := by
  induction is generalizing a ts with
  | nil => exact (slice_eq (h.slice? ha)).symm
  | cons i is ih =>
      obtain ⟨hle, hb, hfit⟩ := hfit
      obtain ⟨hfront, hback, _⟩ := cutAt_spec h hb hle (isBoundary_le hb)
      rw [sections, weaveFrom, texts_append, texts_append, ih hb hback hfit, slice_eq (hfront.slice? ha)]

theorem sections_ne_empty (h : Tiles code a ts code.utf8ByteSize) (hfit : Fit code a is)
    (hlit : ∀ i ∈ is, ∀ t ∈ i.tokens, t.text ≠ "") : ∀ t ∈ sections ts is, t.text ≠ "" := by
  induction is generalizing a ts with
  | nil => exact fun t ht => h.ne_empty t ht
  | cons i is ih =>
      obtain ⟨hle, hb, hfit⟩ := hfit
      obtain ⟨hfront, hback, _⟩ := cutAt_spec h hb hle (isBoundary_le hb)
      obtain ⟨hi, his⟩ := List.forall_mem_cons.mp hlit
      intro t ht
      rcases List.mem_append.mp ht with ht | ht
      · rcases List.mem_append.mp ht with ht | ht
        · exact hfront.ne_empty t ht
        · exact hi t ht
      · exact ih hback hfit his t ht

/-! ## What a merge puts out -/

/-- The move that puts out a token. -/
def Move.ofToken (t : Token) : Move :=
  .piece t.kind t.text

/-- The moves put out the tokens, or break off where an offset gets too large. -/
inductive Puts : List Move → List Token → Prop
  | done : Puts [] []
  | token (t : Token) {moves : List Move} {ts : List Token} (rest : Puts moves ts) :
    Puts (Move.ofToken t :: moves) (t :: ts)
  | overflow (moves : List Move) (ts : List Token) : Puts (.overflow :: moves) ts

theorem Puts.tokens (front : List Token) {moves : List Move} (h : Puts moves ts) :
    Puts (front.map Move.ofToken ++ moves) (front ++ ts) := by
  induction front with
  | nil => exact h
  | cons t front ih => exact .token t ih

theorem Puts.all (ts : List Token) : Puts (ts.map Move.ofToken) ts := by
  simpa using Puts.tokens ts .done

theorem tokenPart_eq {t : Token} {i j : Nat} (hi : isBoundary t.text i = true) (hj : isBoundary t.text j = true)
    (hij : i ≤ j) : tokenPart t i j = (t.between i j).map Move.ofToken := by
  obtain ⟨u, hu⟩ := slice?_exists hi hj hij
  have hsize := slice?_size hu
  simp only [tokenPart, hu, Token.between]
  by_cases hlt : i < j
  · have hne : u ≠ "" := by rintro rfl; simp at hsize; omega
    simp [hlt, hne, Move.ofToken, Token.part, slice_eq hu]
  · have he : u = "" := String.utf8ByteSize_eq_zero_iff.mp (by omega)
    simp [hlt, he]

theorem cutToken_puts {t : Token} {split e : Nat} (hs : slice? code t.offset (t.offset + t.length) = some t.text)
    (hts : Tiles code (t.offset + t.length) ts e)
    (hmerge : ∀ is, Fit code (t.offset + t.length) is → Puts (mergeMoves ts is) (sections ts is))
    (hsplit : isBoundary t.text split = true) (hfit : Fit code (t.offset + split) is) :
    Puts ((cutToken t split is).1 ++ mergeMoves ts (cutToken t split is).2)
      (sections (t.between split t.length ++ ts) is) := by
  have hend : isBoundary t.text t.length = true := isBoundary_size t.text
  -- The split moves on to the place of each insertion inside the token; the first one beyond it is left to the
  -- tokens that follow.
  induction is generalizing split with
  | nil =>
      simp only [cutToken, sections, tokenPart_eq hsplit hend (isBoundary_le hsplit)]
      exact .tokens _ (hmerge [] trivial)
  | cons i is ih =>
      obtain ⟨hle, hb, hfit⟩ := hfit
      simp only [cutToken]
      cases hstop : t.stop? with
      | none => exact .overflow _ _
      | some stop =>
          obtain ⟨rfl, _⟩ := addOffset?_eq_some_iff.mp hstop
          simp only
          split
          · rename_i hin
            have hcut := isBoundary_in_slice? hs hb (by omega) hin
            have hcutle : i.index - t.offset ≤ t.length := isBoundary_le hcut
            have hmin : min (max (i.index - t.offset) split) t.length = i.index - t.offset := by omega
            have hplace : t.offset + (i.index - t.offset) = i.index := by omega
            have hparts := cutAt_between hts hsplit hcut (by omega)
            rw [hplace] at hparts
            rw [hmin, sections, hparts, tokenPart_eq hsplit hcut (by omega)]
            simp only [List.append_assoc]
            refine .tokens _ (.tokens i.tokens (ih hcut ?_))
            rw [hplace]
            exact hfit
          · rename_i hout
            rw [sections, cutAt_beyond hsplit (by omega), tokenPart_eq hsplit hend (isBoundary_le hsplit)]
            simp only [List.append_assoc]
            refine .tokens _ ?_
            have hrest := hmerge (i :: is) ⟨by omega, hb, hfit⟩
            rw [sections] at hrest
            simpa only [List.append_assoc] using hrest

/-- A merge puts out the parts of the tokens and the literals in order. -/
theorem mergeMoves_puts (h : Tiles code a ts code.utf8ByteSize) (hfit : Fit code a is) :
    Puts (mergeMoves ts is) (sections ts is) := by
  induction ts generalizing a is with
  | nil =>
      have hlit : ∀ is : List Insertion, sections [] is = is.flatMap (·.tokens) := by
        intro is
        induction is with
        | nil => rfl
        | cons i is ih => simp [sections, cutAt, ih]
      have hmoves : mergeMoves [] is = (is.flatMap (·.tokens)).map Move.ofToken := by
        rw [mergeMoves, List.map_flatMap]
        rfl
      rw [hmoves, hlit]
      exact .all _
  | cons t ts ih =>
      obtain ⟨rfl, hne, hs, hts⟩ := h
      have hpos : 0 < t.length := Nat.pos_of_ne_zero (by simpa [Token.length] using hne)
      have hwhole : t.between 0 t.length = [t] := by
        have hall : slice t.text ⟨0, t.length⟩ = t.text := slice_eq (slice?_all t.text)
        simp [Token.between, hpos, Token.part, hall]
      have hput := cutToken_puts hs hts (fun is hfit => ih hts hfit) (isBoundary_zero t.text) hfit
      rw [hwhole] at hput
      exact hput

/-! ## Places in the source -/

/-- The tokens moved so that they follow one another from an offset on. -/
def relocate (pos : Nat) : List Token → List Token
  | [] => []
  | t :: ts => ⟨pos, t.kind, t.text⟩ :: relocate (pos + t.length) ts

variable {source : String} {pos stop : Nat}

theorem relocate_tiles (hs : slice? source pos stop = some (texts ts)) (hne : ∀ t ∈ ts, t.text ≠ "") :
    Tiles source pos (relocate pos ts) stop := by
  induction ts generalizing pos with
  | nil => have := slice?_size hs; simp at this; exact this.symm
  | cons t ts ih =>
      obtain ⟨ht, hts⟩ := List.forall_mem_cons.mp hne
      rw [texts_cons] at hs
      obtain ⟨hfirst, hrest⟩ := slice?_split hs
      exact ⟨rfl, ht, hfirst, ih hrest hts⟩

theorem place_eq {moves : List Move} (hs : slice? source pos stop = some (texts ts)) (h : Puts moves ts) :
    place source pos moves = .ok (relocate pos ts) ∨ place source pos moves = .error .offsetOverflow := by
  induction h generalizing pos with
  | done => exact Or.inl rfl
  | token t _ ih =>
      rw [texts_cons] at hs
      obtain ⟨hfirst, hrest⟩ := slice?_split hs
      simp only [Move.ofToken, place]
      split
      · exact Or.inr rfl
      · rename_i stop' hstop
        obtain ⟨rfl, _⟩ := addOffset?_eq_some_iff.mp hstop
        rw [if_pos hfirst]
        rcases ih hrest with hok | herr
        · rw [hok]; exact Or.inl rfl
        · rw [herr]; exact Or.inr rfl
  | overflow moves ts => exact Or.inr rfl

/-- A merge into a source that reads like the buffer with the literals put in: it fails only where an offset gets
too large. -/
theorem merge_eq {nested : List Token} (hn : Tiles code 0 nested code.utf8ByteSize) (hfit : Fit code 0 is)
    (hs : slice? source pos stop = some (weave code is)) :
    merge source pos is nested = .ok (relocate pos (sections nested is)) ∨
      merge source pos is nested = .error .offsetOverflow := by
  rw [weave, ← texts_sections (isBoundary_zero code) hn hfit] at hs
  exact place_eq hs (mergeMoves_puts hn hfit)

theorem merged_tiles {nested : List Token} (hn : Tiles code 0 nested code.utf8ByteSize) (hfit : Fit code 0 is)
    (hlit : ∀ i ∈ is, ∀ t ∈ i.tokens, t.text ≠ "") (hs : slice? source pos stop = some (weave code is)) :
    Tiles source pos (relocate pos (sections nested is)) stop := by
  rw [weave, ← texts_sections (isBoundary_zero code) hn hfit] at hs
  exact relocate_tiles hs (sections_ne_empty hn hfit hlit)

end Session

/-! ## Other tokens in the place of tokens -/

/-- The insertion with other literals. -/
def Insertion.map (g : Token → Token) (i : Insertion) : Insertion :=
  { i with tokens := i.tokens.map g }

namespace Session

/-- The move that puts out another kind. -/
def Move.mapKind (f : Kind → Kind) : Move → Move
  | .piece kind text => .piece (f kind) text
  | .brokenCut => .brokenCut
  | .overflow => .overflow

theorem Move.mapKind_id (moves : List Move) : moves.map (mapKind id) = moves := by
  have hid : mapKind id = id := by
    funext move
    cases move <;> rfl
  rw [hid, List.map_id]

section

variable {f : Kind → Kind} {g : Token → Token}

theorem literalMoves_map (hg : ∀ t, (g t).kind = f t.kind ∧ (g t).text = t.text) (i : Insertion) :
    literalMoves (i.map g) = (literalMoves i).map (Move.mapKind f) := by
  simp only [literalMoves, Insertion.map, List.map_map]
  refine List.map_congr_left fun t _ => ?_
  simp only [Function.comp_apply, Move.mapKind, hg t]

theorem tokenPart_mapKind (f : Kind → Kind) (t : Token) (start stop : Nat) :
    tokenPart (t.mapKind f) start stop = (tokenPart t start stop).map (Move.mapKind f) := by
  unfold tokenPart
  simp only [Token.mapKind]
  split
  · rfl
  · split
    · rfl
    · rfl

theorem cutToken_map (hg : ∀ t, (g t).kind = f t.kind ∧ (g t).text = t.text) (t : Token) (split : Nat)
    (is : List Insertion) :
    cutToken (t.mapKind f) split (is.map (·.map g)) =
      ((cutToken t split is).1.map (Move.mapKind f), (cutToken t split is).2.map (·.map g)) := by
  induction is generalizing split with
  | nil =>
      simp only [List.map_nil, cutToken, tokenPart_mapKind]
      rfl
  | cons i is ih =>
      -- The place of the insertion and the ends of the token are what they were.
      have hindex : (i.map g).index = i.index := rfl
      have hoffset : (t.mapKind f).offset = t.offset := rfl
      have hlength : (t.mapKind f).length = t.length := rfl
      have hstop : (t.mapKind f).stop? = t.stop? := rfl
      simp only [List.map_cons, cutToken, tokenPart_mapKind, literalMoves_map hg, hindex, hoffset, hlength, hstop]
      cases t.stop? with
      | none => rfl
      | some stop =>
          simp only [ih]
          split
          · simp only [List.map_append]
          · rfl

/-- A merge puts out the other literals in the place of the literals, and other kinds in the place of kinds. -/
theorem mergeMoves_map (hg : ∀ t, (g t).kind = f t.kind ∧ (g t).text = t.text) (ts : List Token)
    (is : List Insertion) :
    mergeMoves (ts.map (·.mapKind f)) (is.map (·.map g)) = (mergeMoves ts is).map (Move.mapKind f) := by
  induction ts generalizing is with
  | nil =>
      simp only [List.map_nil, mergeMoves, List.flatMap_map, List.map_flatMap, literalMoves_map hg]
  | cons t ts ih =>
      simp only [List.map_cons, mergeMoves, cutToken_map hg, ih, List.map_append]

end

theorem place_mapKind (f : Kind → Kind) (source : String) (pos : Nat) (moves : List Move) :
    place source pos (moves.map (Move.mapKind f)) = (place source pos moves).map (List.map (Token.mapKind f)) := by
  induction moves generalizing pos with
  | nil => rfl
  | cons move moves ih =>
      cases move with
      | brokenCut => rfl
      | overflow => rfl
      | piece kind text =>
          simp only [List.map_cons, Move.mapKind, place, ih]
          cases addOffset? pos text.utf8ByteSize with
          | none => rfl
          | some stop =>
              simp only
              split
              · cases place source stop moves <;> rfl
              · rfl

end Session

end ModalLexer
