import ModalLexer.Proofs.Session.Cut

/-!
The test for a cover is exact. It passes just those tokens of which none is empty, each starts at the total length of
those before it, and the texts make up the source. All others fail it where the longest front of them ends that covers
a start of the source. The ends of tokens that it computes are offsets, wherever the tokens claim to be.
-/

namespace ModalLexer

open Text

/-! ## Covers -/

/-- The length of the tokens together. -/
def totalLength : List Token → Nat
  | [] => 0
  | t :: ts => t.length + totalLength ts

/-- Tokens that follow one another from an offset on, by their own lengths. -/
def Placed (start : Nat) (ts : List Token) : Prop :=
  ∀ front t back, ts = front ++ t :: back → t.offset = start + totalLength front

/-- The tokens cover the source: none is empty, each starts at the total length of those before it, and their texts
make up the source. -/
structure Covers (source : String) (ts : List Token) : Prop where
  nonempty : ∀ t ∈ ts, t.text ≠ ""
  placed : Placed 0 ts
  joined : texts ts = source

/-- The tokens cover the start of the source, as far as they reach. -/
def CoversStart (source : String) (ts : List Token) : Prop :=
  ∃ head, slice? source 0 (totalLength ts) = some head ∧ Covers head ts

variable {source : String} {a b pos : Nat} {t : Token} {ts : List Token}

theorem totalLength_append (ts us : List Token) : totalLength (ts ++ us) = totalLength ts + totalLength us := by
  induction ts with
  | nil => simp [totalLength]
  | cons t ts ih => simp [totalLength, ih, Nat.add_assoc]

theorem utf8ByteSize_texts (ts : List Token) : (texts ts).utf8ByteSize = totalLength ts := by
  induction ts with
  | nil => rfl
  | cons t ts ih => simp [totalLength, ih, Token.length]

theorem placed_cons : Placed a (t :: ts) ↔ t.offset = a ∧ Placed (a + t.length) ts := by
  constructor
  · intro h
    refine ⟨by simpa [totalLength] using h [] t ts rfl, fun front u back hsplit => ?_⟩
    have hu := h (t :: front) u back (by rw [hsplit, List.cons_append])
    simpa [totalLength, Nat.add_assoc] using hu
  · rintro ⟨ht, hts⟩ front u back hsplit
    cases front with
    | nil => cases hsplit; simpa [totalLength] using ht
    | cons t' front =>
        obtain ⟨rfl, rfl⟩ := List.cons.inj hsplit
        simpa [totalLength, Nat.add_assoc] using hts front u back rfl

/-- Tokens that tile a part of a text are in their places, and their texts make up the part. -/
theorem tiles_iff (ha : isBoundary source a = true) : Tiles source a ts b ↔
    (∀ t ∈ ts, t.text ≠ "") ∧ Placed a ts ∧ slice? source a b = some (texts ts) := by
  induction ts generalizing a with
  | nil =>
      constructor
      · rintro rfl; exact ⟨by simp, by simp [Placed], by simpa using slice?_self ha⟩
      · rintro ⟨_, _, hs⟩
        have hsize := slice?_size hs
        rw [texts_nil, String.utf8ByteSize_empty, Nat.add_zero] at hsize
        exact hsize.symm
  | cons t ts ih =>
      rw [placed_cons, texts_cons, List.forall_mem_cons]
      constructor
      · rintro ⟨ho, hne, hs, hts⟩
        obtain ⟨hnes, hplaced, hrest⟩ := (ih (slice?_right hs)).mp hts
        exact ⟨⟨hne, hnes⟩, ⟨ho, hplaced⟩, slice?_append hs hrest⟩
      · rintro ⟨⟨hne, hnes⟩, ⟨ho, hplaced⟩, hjoin⟩
        obtain ⟨hs, hrest⟩ := slice?_split hjoin
        exact ⟨ho, hne, hs, (ih (slice?_right hs)).mpr ⟨hnes, hplaced, hrest⟩⟩

theorem covers_iff_tiles : Covers source ts ↔ Tiles source 0 ts source.utf8ByteSize := by
  rw [tiles_iff (isBoundary_zero source), slice?_all, Option.some.injEq]
  exact ⟨fun h => ⟨h.nonempty, h.placed, h.joined.symm⟩, fun ⟨hne, hplaced, hjoin⟩ => ⟨hne, hplaced, hjoin.symm⟩⟩

theorem coversStart_iff_tiles : CoversStart source ts ↔ Tiles source 0 ts (totalLength ts) := by
  rw [tiles_iff (isBoundary_zero source)]
  constructor
  · rintro ⟨head, hs, hc⟩; exact ⟨hc.nonempty, hc.placed, by rw [hc.joined]; exact hs⟩
  · rintro ⟨hne, hplaced, hs⟩; exact ⟨texts ts, hs, hne, hplaced, rfl⟩

/-! ## Where the test fails -/

theorem Token.fits_of_tiles {stop : Nat} (h : Tiles source pos (t :: ts) stop) : t.fits source pos = true :=
  Token.fits_iff.mpr ⟨h.1, h.2.1, h.2.2.1⟩

/-- The test passes over a front of the tokens that tiles the source, and fails at its end: no token is left, or the
next one does not fit there. -/
theorem uncoveredFrom_eq_some {p : Nat} (h : uncoveredFrom source pos ts = some p) :
    ∃ front back, ts = front ++ back ∧ Tiles source pos front p ∧ ∀ t ∈ back.head?, t.fits source p = false := by
  induction ts generalizing pos with
  | nil =>
      unfold uncoveredFrom at h
      split at h
      · cases h
      · cases h; exact ⟨[], [], rfl, rfl, by simp⟩
  | cons t ts ih =>
      unfold uncoveredFrom at h
      split at h
      next hfits =>
        obtain ⟨ho, hne, hs⟩ := Token.fits_iff.mp hfits
        obtain ⟨front, back, rfl, hfront, hback⟩ := ih h
        exact ⟨t :: front, back, rfl, ⟨ho, hne, hs, hfront⟩, hback⟩
      next hfits =>
        cases h
        exact ⟨[], t :: ts, rfl, rfl, by simpa using hfits⟩

/-- Where the next token does not fit, no longer front of the tokens tiles the source. -/
theorem length_le_of_not_fits {front back other : List Token} {p q : Nat} (hfront : Tiles source pos front p)
    (hback : ∀ t ∈ back.head?, t.fits source p = false) (hfirst : other <+: front ++ back)
    (hother : Tiles source pos other q) : other.length ≤ front.length := by
  refine Nat.le_of_not_lt fun hlonger => ?_
  obtain ⟨more, rfl⟩ : front <+: other :=
    List.prefix_of_prefix_length_le (List.prefix_append front back) hfirst (Nat.le_of_lt hlonger)
  obtain ⟨p', hfront', hmore⟩ := Tiles.append_iff.mp hother
  obtain rfl : p = p' := hfront.stop_eq.trans hfront'.stop_eq.symm
  have hfirst := (List.prefix_append_right_inj front).mp hfirst
  cases more with
  | nil => simp at hlonger
  | cons t more =>
      obtain ⟨rest, rfl⟩ := hfirst
      have hfits := Token.fits_of_tiles hmore
      rw [hback t rfl] at hfits
      cases hfits

/-! ## Ends of tokens -/

/-- The greatest length of a text in bytes: lengths are signed numbers of 64 bits. -/
def longestText : Nat := 0x7FFFFFFFFFFFFFFF

/-- At an offset of the source the end of a token is an offset, so the test always has a result. -/
theorem uncoveredFrom?_eq (hsource : source.utf8ByteSize ≤ longestText) (hts : ∀ t ∈ ts, t.length ≤ longestText)
    (hpos : pos ≤ source.utf8ByteSize) : uncoveredFrom? source pos ts = some (uncoveredFrom source pos ts) := by
  induction ts generalizing pos with
  | nil => rfl
  | cons t ts ih =>
      obtain ⟨ht, hts⟩ := List.forall_mem_cons.mp hts
      have hempty : t.isEmpty = false ↔ t.text ≠ "" := by
        simp [Token.isEmpty, Token.length, String.utf8ByteSize_eq_zero_iff]
      have hstop (ho : t.offset = pos) : t.stop? = some (pos + t.length) := by
        refine addOffset?_eq_some_iff.mpr ⟨by rw [ho], ?_⟩
        unfold longestText at hsource ht
        unfold offsetLimit
        omega
      rw [uncoveredFrom?, uncoveredFrom]
      by_cases hfits : t.fits source pos = true
      · obtain ⟨ho, hne, hs⟩ := Token.fits_iff.mp hfits
        rw [if_pos hfits, if_pos ⟨ho, hempty.mpr hne⟩, hstop ho, Option.bind_eq_bind, Option.bind_some, ho,
          if_pos hs]
        exact ih hts (isBoundary_le (slice?_right hs))
      · rw [if_neg hfits]
        split
        next hplace =>
          obtain ⟨ho, hne⟩ := hplace
          have hs : slice? source t.offset (pos + t.length) ≠ some t.text := fun hs =>
            hfits (Token.fits_iff.mpr ⟨ho, hempty.mp hne, ho ▸ hs⟩)
          rw [hstop ho, Option.bind_eq_bind, Option.bind_some, if_neg hs]
          rfl
        · rfl

/-! ## The test -/

/-- The test for a cover passes exactly the tokens that cover the source. All others fail it at the end of the longest
front of them that covers the start of the source. As texts have no more bytes than the longest text, no end of a
token that is computed is too large, whatever offsets the tokens have. -/
theorem uncovered?_exact (source : String) (tokens : List Token) :
    (uncovered? source tokens = none ↔ Covers source tokens) ∧
    (¬ Covers source tokens → ∃ front, front <+: tokens ∧ CoversStart source front ∧
      (∀ other, other <+: tokens → CoversStart source other → other.length ≤ front.length) ∧
      uncovered? source tokens = some (totalLength front)) ∧
    (source.utf8ByteSize ≤ longestText → (∀ t ∈ tokens, t.length ≤ longestText) →
      uncoveredFrom? source 0 tokens = some (uncovered? source tokens)) := by
  have hnone : uncovered? source tokens = none ↔ Covers source tokens :=
    uncovered?_eq_none_iff.trans covers_iff_tiles.symm
  refine ⟨hnone, fun hopen => ?_, fun hsource hts => uncoveredFrom?_eq hsource hts (Nat.zero_le _)⟩
  obtain ⟨p, hp⟩ := Option.ne_none_iff_exists'.mp (mt hnone.mp hopen)
  obtain ⟨front, back, rfl, hfront, hback⟩ := uncoveredFrom_eq_some hp
  obtain rfl : p = totalLength front := by
    rw [hfront.stop_eq, Nat.zero_add, utf8ByteSize_texts]
  refine ⟨front, List.prefix_append front back, coversStart_iff_tiles.mpr hfront, fun other hfirst hother => ?_, hp⟩
  exact length_le_of_not_fits hfront hback hfirst (coversStart_iff_tiles.mp hother)

/-- A token at its place, and one that claims the last offset of all. -/
def distant : List Token :=
  [⟨0, .text, "aé"⟩, ⟨0xFFFFFFFFFFFFFFFF, .text, "b"⟩]

theorem uncovered?_exact_distant : uncoveredFrom? "aéb" 0 distant = some (some 3) ∧
    ∃ front, front <+: distant ∧ CoversStart "aéb" front ∧ totalLength front = 3 ∧
      ∀ other, other <+: distant → CoversStart "aéb" other → other.length ≤ front.length := by
  have hfails : uncovered? "aéb" distant = some 3 := by decide +kernel
  obtain ⟨hnone, hlongest, hchecked⟩ := uncovered?_exact "aéb" distant
  have hopen : ¬ Covers "aéb" distant := by
    rw [← hnone, hfails]
    simp
  obtain ⟨front, hfirst, hstart, hmax, htotal⟩ := hlongest hopen
  rw [hfails, Option.some.injEq] at htotal
  refine ⟨?_, front, hfirst, hstart, htotal.symm, hmax⟩
  rw [← hfails]
  exact hchecked (by decide +kernel) (by decide +kernel)

end ModalLexer
