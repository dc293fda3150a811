import ModalLexer.Proofs.Session.Interleaving

/-!
Where the literals go. With places in order and at boundaries of the buffer, the literals of an insertion stand behind
as much text of the buffer as its place says, and the tokens around them are cut there and nowhere else. The merge
succeeds exactly where the source goes on with the buffer and the literals put into it, and else it tells where the
first piece would have to stand that the source does not have there.
-/

namespace ModalLexer

open Text

namespace Session

/-! ## The buffer in parts -/

/-- The literals of each insertion stand behind as many bytes of the buffer as its place says, of which some have come
before. -/
def InPlace : (before : Nat) → List Part → Prop
  | _, [] => True
  | n, .piece t :: parts => InPlace (n + t.length) parts
  | n, .literals i :: parts => i.index = n ∧ InPlace n parts

theorem InPlace.pieces {n : Nat} {parts : List Part} (ts : List Token)
    (h : InPlace (n + (texts ts).utf8ByteSize) parts) : InPlace n (ts.map .piece ++ parts) := by
  induction ts generalizing n with
  | nil => simpa using h
  | cons t ts ih =>
      rw [texts_cons, String.utf8ByteSize_append, ← Nat.add_assoc] at h
      exact ih h

theorem InPlace.index {n : Nat} {before after : List Part} {i : Insertion}
    (h : InPlace n (before ++ .literals i :: after)) : i.index = n + (texts (piecesOf before)).utf8ByteSize := by
  induction before generalizing n with
  | nil => simpa [piecesOf] using h.1
  | cons part before ih =>
      cases part with
      | literals j => exact ih h.2
      | piece t =>
          have hrest := ih h
          rw [Nat.add_assoc] at hrest
          simpa [piecesOf, Part.piece?, Token.length] using hrest

/-- The parts of a merge: the tokens cut at the places of the insertions, and the literals. -/
def partsOf (ts : List Token) : List Insertion → List Part
  | [] => ts.map .piece
  | i :: is => (cutAt i.index ts).1.map .piece ++ .literals i :: partsOf (cutAt i.index ts).2 is

theorem tokensOf_partsOf (ts : List Token) (is : List Insertion) : tokensOf (partsOf ts is) = sections ts is := by
  induction is generalizing ts with
  | nil => simp [partsOf, sections]
  | cons i is ih => simp [partsOf, sections, ih]

/-- The parts hold the insertions in order, each behind as much of the buffer as its place says. In between stands
the buffer, of which every byte keeps its kind, cut where it was and at those places. -/
structure Placement (code : String) (nested : List Token) (is : List Insertion) (parts : List Part) : Prop where
  insertions : insertionsOf parts = is
  code : texts (piecesOf parts) = code
  kinds : byteKinds (piecesOf parts) = byteKinds nested
  cuts : ∀ b, b ∈ joints 0 ((piecesOf parts).map (·.text)) ↔
    b ∈ joints 0 (nested.map (·.text)) ∨ ∃ i ∈ is, b = i.index
  places : ∀ before i after, parts = before ++ .literals i :: after →
    (texts (piecesOf before)).utf8ByteSize = i.index

variable {code : String} {a : Nat} {ts : List Token} {is : List Insertion}

theorem insertionsOf_partsOf (ts : List Token) (is : List Insertion) : insertionsOf (partsOf ts is) = is := by
  induction is generalizing ts with
  | nil => simp [partsOf]
  | cons i is ih => simp [partsOf, ih]

theorem texts_partsOf (ha : isBoundary code a = true) (h : Tiles code a ts code.utf8ByteSize) (hfit : Fit code a is) :
    texts (piecesOf (partsOf ts is)) = texts ts := by
  induction is generalizing a ts with
  | nil => simp [partsOf]
  | cons i is ih =>
      obtain ⟨hle, hb, hfit⟩ := hfit
      obtain ⟨hfront, hback, _⟩ := cutAt_spec h hb hle (isBoundary_le hb)
      have hjoined := (hfront.append hback).slice? ha
      rw [h.slice? ha, texts_append] at hjoined
      simpa [partsOf, texts_append, ih hb hback hfit] using (Option.some.inj hjoined).symm

theorem byteKinds_partsOf (h : Tiles code a ts code.utf8ByteSize) (hfit : Fit code a is) :
    byteKinds (piecesOf (partsOf ts is)) = byteKinds ts := by
  induction is generalizing a ts with
  | nil => simp [partsOf]
  | cons i is ih =>
      obtain ⟨hle, hb, hfit⟩ := hfit
      obtain ⟨_, hback, hcut⟩ := cutAt_spec h hb hle (isBoundary_le hb)
      simpa [partsOf, byteKinds_append, ih hback hfit] using hcut.byteKinds

theorem mem_joints_partsOf (h : Tiles code a ts code.utf8ByteSize) (hfit : Fit code a is) {b : Nat} :
    b ∈ joints a ((piecesOf (partsOf ts is)).map (·.text)) ↔
      b ∈ joints a (ts.map (·.text)) ∨ ∃ i ∈ is, b = i.index := by
  induction is generalizing a ts with
  | nil => simp [partsOf]
  | cons i is ih =>
      obtain ⟨hle, hb, hfit⟩ := hfit
      obtain ⟨hfront, hback, hcut⟩ := cutAt_spec h hb hle (isBoundary_le hb)
      have hsize : a + (String.join ((cutAt i.index ts).1.map (·.text))).utf8ByteSize = i.index := hfront.stop_eq.symm
      have hjoints := hcut.mem_joints a b
      rw [← hfront.stop_eq, List.map_append, mem_joints_append, hsize] at hjoints
      simp only [partsOf, piecesOf_append, piecesOf_pieces, piecesOf_literals, List.map_append, mem_joints_append,
        hsize, ih hback hfit, ← or_assoc, hjoints]
      simp [or_assoc]

theorem inPlace_partsOf (h : Tiles code a ts code.utf8ByteSize) (hfit : Fit code a is) :
    InPlace a (partsOf ts is) := by
  induction is generalizing a ts with
  | nil =>
      have hpieces : InPlace a (ts.map .piece ++ []) := .pieces ts trivial
      rwa [List.append_nil] at hpieces
  | cons i is ih =>
      obtain ⟨hle, hb, hfit⟩ := hfit
      obtain ⟨hfront, hback, _⟩ := cutAt_spec h hb hle (isBoundary_le hb)
      refine InPlace.pieces _ ?_
      rw [← hfront.stop_eq]
      exact ⟨rfl, ih hback hfit⟩

theorem partsOf_placement (h : Tiles code 0 ts code.utf8ByteSize) (hfit : Fit code 0 is) :
    Placement code ts is (partsOf ts is) where
  insertions := insertionsOf_partsOf ts is
  code := by
    have hall := h.slice? (isBoundary_zero code)
    rw [slice?_all] at hall
    rw [texts_partsOf (isBoundary_zero code) h hfit, ← Option.some.inj hall]
  kinds := byteKinds_partsOf h hfit
  cuts b := mem_joints_partsOf h hfit
  places before i after hparts := by
    have hplaces := inPlace_partsOf h hfit
    rw [hparts] at hplaces
    simpa using hplaces.index.symm

/-! ## Merges of a buffer -/

theorem Fit.of_ordered (hord : (is.map (·.index)).Pairwise (· ≤ ·))
    (hb : ∀ i ∈ is, a ≤ i.index ∧ isBoundary code i.index = true) : Fit code a is := by
  induction is generalizing a with
  | nil => trivial
  | cons i is ih =>
      obtain ⟨hfirst, hord⟩ := List.pairwise_cons.mp hord
      obtain ⟨hi, his⟩ := List.forall_mem_cons.mp hb
      refine ⟨hi.1, hi.2, ih hord fun j hj => ⟨hfirst _ (List.mem_map_of_mem hj), (his j hj).2⟩⟩

theorem Puts.eq_map {moves : List Move} (h : Puts moves ts) (hfits : .overflow ∉ moves) :
    moves = ts.map Move.ofToken := by
  induction h with
  | done => rfl
  | token t _ ih => rw [ih fun hmem => hfits (List.mem_cons_of_mem _ hmem)]; rfl
  | overflow => exact absurd List.mem_cons_self hfits

/-- Where no token of the buffer ends beyond the last offset, a merge puts out just the parts and the literals. -/
theorem mergeMoves_eq (h : Tiles code 0 ts code.utf8ByteSize) (hfit : Fit code 0 is)
    (hsize : code.utf8ByteSize < offsetLimit) : mergeMoves ts is = (tokensOf (partsOf ts is)).map Move.ofToken := by
  rw [tokensOf_partsOf]
  refine (mergeMoves_puts h hfit).eq_map fun hover => ?_
  obtain ⟨t, ht, hlimit⟩ := overflow_mem_mergeMoves hover
  have hstop := isBoundary_le (slice?_right (h.mem_slice? t ht))
  omega

theorem map_relocate (pos : Nat) (ts : List Token) :
    (relocate pos ts).map Move.ofToken = ts.map Move.ofToken := by
  induction ts generalizing pos with
  | nil => rfl
  | cons t ts ih => exact congrArg (Move.ofToken t :: ·) (ih _)

theorem texts_relocate (pos : Nat) (ts : List Token) : texts (relocate pos ts) = texts ts := by
  induction ts generalizing pos with
  | nil => rfl
  | cons t ts ih => rw [relocate, texts_cons, texts_cons, ih]

theorem Abut.slice? {source : String} {pos : Nat} (hpos : isBoundary source pos = true) (h : Abut source pos ts) :
    Text.slice? source pos (pos + (texts ts).utf8ByteSize) = some (texts ts) := by
  induction ts generalizing pos with
  | nil => simpa using slice?_self hpos
  | cons t ts ih =>
      obtain ⟨_, hs, h⟩ := h
      have hrest := ih (slice?_right hs) h
      rw [Nat.add_assoc] at hrest
      rw [texts_cons, String.utf8ByteSize_append]
      exact slice?_append hs hrest

theorem length_le_texts {t : Token} (ht : t ∈ ts) : t.length ≤ (texts ts).utf8ByteSize := by
  obtain ⟨before, after, rfl⟩ := List.append_of_mem ht
  simp only [texts_append, texts_cons, String.utf8ByteSize_append, Token.length]
  omega

theorem mem_tokensOf {t : Token} {parts : List Part} (ht : t ∈ tokensOf parts) :
    t ∈ piecesOf parts ∨ ∃ i ∈ insertionsOf parts, t ∈ i.tokens := by
  obtain ⟨part, hpart, ht⟩ := List.mem_flatMap.mp ht
  cases part with
  | piece u =>
      obtain rfl := List.mem_singleton.mp ht
      exact .inl (List.mem_filterMap.mpr ⟨_, hpart, rfl⟩)
  | literals i => exact .inr ⟨i, List.mem_filterMap.mpr ⟨_, hpart, rfl⟩, ht⟩

variable {source : String} {start : Nat} {nested : List Token}

/-- Where a merge of a buffer breaks off: at the first piece that the source does not have at its place. -/
theorem merge_eq_error (hstart : isBoundary source start = true) (hn : Tiles code 0 nested code.utf8ByteSize)
    (hfit : Fit code 0 is)
    (hsize : ∀ text ∈ source :: code :: is.flatMap (·.tokens.map (·.text)), 2 * text.utf8ByteSize < offsetLimit)
    {e : Error} (h : merge source start is nested = .error e) :
    ∃ before t after, tokensOf (partsOf nested is) = before ++ t :: after ∧
      slice? source start (start + (texts before).utf8ByteSize) = some (texts before) ∧
      slice? source (start + (texts before).utf8ByteSize) (start + (texts before).utf8ByteSize + t.length) ≠
        some t.text ∧
      e = .misaligned (start + (texts before).utf8ByteSize) := by
  have hsource := hsize source (by simp)
  have hcode := hsize code (by simp)
  obtain ⟨front, move, back, hmoves, habut, hstops⟩ := place_eq_error h
  rw [mergeMoves_eq hn hfit (by omega)] at hmoves
  obtain ⟨before, rest, hparts, hbefore, hrest⟩ := List.map_eq_append_iff.mp hmoves
  obtain ⟨t, after, rfl, rfl, _⟩ := List.map_eq_cons_iff.mp hrest
  have htexts : texts front = texts before := by
    have hsame := habut.eq_relocate ((map_relocate start front).trans hbefore.symm)
    rw [← texts_relocate start front, hsame, texts_relocate]
  have hread := habut.slice? hstart
  rw [texts_relocate, htexts] at hread
  rw [htexts] at hstops
  refine ⟨before, t, after, hparts, hread, ?_⟩
  rcases hstops with ⟨_, hover⟩ | ⟨he, hdiffers⟩
  · -- The piece is a part of the buffer or a literal, and neither is so long.
    have hpos := isBoundary_le (slice?_right hread)
    have hplacement := partsOf_placement hn hfit
    have hlength : 2 * t.length < offsetLimit := by
      have hmem : t ∈ tokensOf (partsOf nested is) := by simp [hparts]
      rcases mem_tokensOf hmem with hpiece | ⟨i, hi, ht⟩
      · have hle := length_le_texts hpiece
        rw [hplacement.code] at hle
        omega
      · rw [hplacement.insertions] at hi
        exact hsize t.text (by simp only [List.mem_cons, List.mem_flatMap, List.mem_map]; grind)
    simp only [Token.length] at hlength
    omega
  · exact ⟨hdiffers, he⟩

/-- A merge of a buffer in places. The texts have sizes that texts in memory can have: below half of the offsets. -/
theorem merge_placed (hstart : isBoundary source start = true) (covers : uncovered? code nested = none)
    (ordered : (is.map (·.index)).Pairwise (· ≤ ·)) (boundaries : ∀ i ∈ is, isBoundary code i.index = true)
    (hsize : ∀ text ∈ source :: code :: is.flatMap (·.tokens.map (·.text)), 2 * text.utf8ByteSize < offsetLimit) :
    ∃ parts, Placement code nested is parts ∧ texts (tokensOf parts) = weave code is ∧
      ((∃ out, merge source start is nested = .ok out) ↔
        ∃ rest, slice? source start source.utf8ByteSize = some (weave code is ++ rest)) ∧
      (∀ out, merge source start is nested = .ok out →
        out = relocate start (tokensOf parts) ∧ texts out = weave code is ∧ Abut source start out) ∧
      ∀ e, merge source start is nested = .error e → ∃ before t after, tokensOf parts = before ++ t :: after ∧
        slice? source start (start + (texts before).utf8ByteSize) = some (texts before) ∧
        slice? source (start + (texts before).utf8ByteSize) (start + (texts before).utf8ByteSize + t.length) ≠
          some t.text ∧
        e = .misaligned (start + (texts before).utf8ByteSize) := by
  have hn := uncovered?_eq_none_iff.mp covers
  have hfit : Fit code 0 is := .of_ordered ordered fun i hi => ⟨Nat.zero_le _, boundaries i hi⟩
  have hcode := hsize code (by simp)
  have hwoven : texts (tokensOf (partsOf nested is)) = weave code is := by
    rw [tokensOf_partsOf, texts_sections (isBoundary_zero code) hn hfit, weave]
  have hok {out : List Token} (h : merge source start is nested = .ok out) :
      out = relocate start (tokensOf (partsOf nested is)) ∧ texts out = weave code is ∧ Abut source start out := by
    obtain ⟨hmoves, habut⟩ := place_eq_ok h
    rw [mergeMoves_eq hn hfit (by omega)] at hmoves
    have hout := habut.eq_relocate hmoves.symm
    exact ⟨hout, by rw [hout, texts_relocate, hwoven], habut⟩
  refine ⟨partsOf nested is, partsOf_placement hn hfit, hwoven, ⟨?_, ?_⟩, fun out => hok, fun e =>
    merge_eq_error hstart hn hfit hsize⟩
  · rintro ⟨out, h⟩
    obtain ⟨_, htexts, habut⟩ := hok h
    have hread := habut.slice? hstart
    have hstop := slice?_right hread
    obtain ⟨rest, hrest⟩ := slice?_exists hstop (isBoundary_size source) (isBoundary_le hstop)
    exact ⟨rest, htexts ▸ slice?_append hread hrest⟩
  · rintro ⟨rest, hrest⟩
    cases h : merge source start is nested with
    | ok out => exact ⟨out, rfl⟩
    | error e =>
        obtain ⟨before, t, after, hparts, _, hdiffers, _⟩ := merge_eq_error hstart hn hfit hsize h
        rw [← hwoven, hparts, texts_append, texts_cons, String.append_assoc, String.append_assoc] at hrest
        exact absurd (slice?_split (slice?_split hrest).2).1 hdiffers

/-- Insertions at both ends of a buffer, and two inside one of its tokens. -/
def prompts : List Insertion :=
  [⟨0, [⟨0, .prompt, ">"⟩]⟩, ⟨3, [⟨0, .prompt, "+"⟩]⟩, ⟨3, [⟨0, .output, "-"⟩]⟩, ⟨5, [⟨0, .prompt, "$"⟩]⟩]

theorem merge_placed_prompts :
    (∃ out parts, merge "_>né+-=1$!" 1 prompts [⟨0, .text, "né="⟩, ⟨4, .error, "1"⟩] = .ok out ∧
      Placement "né=1" [⟨0, .text, "né="⟩, ⟨4, .error, "1"⟩] prompts parts ∧ out = relocate 1 (tokensOf parts) ∧
      texts out = weave "né=1" prompts) ∧
    ∃ parts before t after, Placement "né=1" [⟨0, .text, "né="⟩, ⟨4, .error, "1"⟩] prompts parts ∧
      tokensOf parts = before ++ t :: after ∧ (texts before).utf8ByteSize = 6 ∧
      merge "_>né+-2" 1 prompts [⟨0, .text, "né="⟩, ⟨4, .error, "1"⟩] = .error (.misaligned 7) := by
  have covers : uncovered? "né=1" [⟨0, .text, "né="⟩, ⟨4, .error, "1"⟩] = none := by decide +kernel
  have ordered : (prompts.map (·.index)).Pairwise (· ≤ ·) := by decide
  have boundaries : ∀ i ∈ prompts, isBoundary "né=1" i.index = true := by decide +kernel
  constructor
  · have hstart : isBoundary "_>né+-=1$!" 1 = true := by decide +kernel
    obtain ⟨parts, hplacement, _, hiff, hok, _⟩ :=
      merge_placed hstart covers ordered boundaries (by decide +kernel)
    obtain ⟨out, h⟩ := hiff.mpr ⟨"!", by decide +kernel⟩
    exact ⟨out, parts, h, hplacement, (hok out h).1, (hok out h).2.1⟩
  · have hstart : isBoundary "_>né+-2" 1 = true := by decide +kernel
    obtain ⟨parts, hplacement, _, _, _, herror⟩ :=
      merge_placed hstart covers ordered boundaries (by decide +kernel)
    have h : merge "_>né+-2" 1 prompts [⟨0, .text, "né="⟩, ⟨4, .error, "1"⟩] = .error (.misaligned 7) := by
      decide +kernel
    obtain ⟨before, t, after, hparts, _, _, he⟩ := herror _ h
    have hpos := Error.misaligned.inj he
    exact ⟨parts, before, t, after, hplacement, hparts, by omega, h⟩

end Session

end ModalLexer
