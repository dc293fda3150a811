import ModalLexer.Proofs.Text.Boundary
import ModalLexer.Token

/-!
Tokens that tile a part of a text: each starts where the one before it ended, none is empty, and each holds the
text at its place. Tilings join, move with the text that they tile, and are what the test for a cover accepts.
Kinds have no part in it.
-/

namespace ModalLexer

open Text

/-- The tokens tile the text from one offset to another. -/
def Tiles (source : String) : (start : Nat) → List Token → (stop : Nat) → Prop
  | start, [], stop => start = stop
  | start, t :: ts, stop =>
    t.offset = start ∧ t.text ≠ "" ∧ slice? source start (start + t.length) = some t.text ∧
      Tiles source (start + t.length) ts stop

namespace Tiles

variable {source : String} {a b c : Nat} {ts us : List Token}

theorem append_iff : Tiles source a (ts ++ us) c ↔ ∃ b, Tiles source a ts b ∧ Tiles source b us c := by
  induction ts generalizing a with
  | nil => simp [Tiles]
  | cons t ts ih =>
      simp only [List.cons_append, Tiles, ih]
      constructor
      · rintro ⟨ho, hne, hs, b, hts, hus⟩; exact ⟨b, ⟨ho, hne, hs, hts⟩, hus⟩
      · rintro ⟨b, ⟨ho, hne, hs, hts⟩, hus⟩; exact ⟨ho, hne, hs, b, hts, hus⟩

theorem append (h : Tiles source a ts b) (h' : Tiles source b us c) : Tiles source a (ts ++ us) c :=
  append_iff.mpr ⟨b, h, h'⟩

theorem le (h : Tiles source a ts b) : a ≤ b := by
  induction ts generalizing a with
  | nil => exact Nat.le_of_eq h
  | cons t ts ih => exact Nat.le_trans (Nat.le_add_right _ _) (ih h.2.2.2)

theorem ne_empty (h : Tiles source a ts b) : ∀ t ∈ ts, t.text ≠ "" := by
  induction ts generalizing a with
  | nil => intro t ht; cases ht
  | cons t ts ih => exact List.forall_mem_cons.mpr ⟨h.2.1, ih h.2.2.2⟩

theorem mem_slice? (h : Tiles source a ts b) :
    ∀ t ∈ ts, slice? source t.offset (t.offset + t.length) = some t.text := by
  induction ts generalizing a with
  | nil => intro t ht; cases ht
  | cons t ts ih =>
      obtain ⟨rfl, _, hs, h⟩ := h
      exact List.forall_mem_cons.mpr ⟨hs, ih h⟩

theorem eq_nil (h : Tiles source a ts a) : ts = [] := by
  cases ts with
  | nil => rfl
  | cons t ts =>
      have hle := le h.2.2.2
      have hzero : t.text.utf8ByteSize = 0 := by simp only [Token.length] at hle; omega
      exact absurd (String.utf8ByteSize_eq_zero_iff.mp hzero) h.2.1

theorem single {text : String} (k : Kind) (h : slice? source a b = some text) (hlt : a < b) :
    Tiles source a [⟨a, k, text⟩] b := by
  have hb := slice?_size h
  refine ⟨rfl, ?_, ?_, hb.symm⟩
  · rintro rfl
    simp at hb
    omega
  · rw [Token.length, ← hb]
    exact h

theorem shift {part : String} {i j : Nat} (hp : slice? source a b = some part) (h : Tiles part i ts j) :
    Tiles source (a + i) (ts.map (·.shift a)) (a + j) := by
  induction ts generalizing i with
  | nil => exact congrArg (a + ·) h
  | cons t ts ih =>
      obtain ⟨ho, hne, hs, hts⟩ := h
      refine ⟨congrArg (a + ·) ho, hne, ?_, ?_⟩
      · exact (Nat.add_assoc a i t.length) ▸ slice?_trans hp hs
      · exact (Nat.add_assoc a i t.length) ▸ ih hts

end Tiles

theorem Token.map_shift_zero (tokens : List Token) : tokens.map (·.shift 0) = tokens := by
  simp [Token.shift]

theorem Token.map_shift_shift (tokens : List Token) (base inner : Nat) :
    (tokens.map (·.shift inner)).map (·.shift base) = tokens.map (·.shift (base + inner)) := by
  simp [Token.shift, Function.comp_def, Nat.add_assoc]

theorem Token.fits_iff {source : String} {pos : Nat} {t : Token} : t.fits source pos = true ↔
    t.offset = pos ∧ t.text ≠ "" ∧ slice? source pos (pos + t.length) = some t.text := by
  simp [Token.fits, Token.isEmpty, Token.length, String.utf8ByteSize_eq_zero_iff, and_assoc]

theorem uncoveredFrom_eq_none_iff {source : String} {pos : Nat} {ts : List Token} :
    uncoveredFrom source pos ts = none ↔ Tiles source pos ts source.utf8ByteSize := by
  induction ts generalizing pos with
  | nil => simp [uncoveredFrom, Tiles]
  | cons t ts ih =>
      simp only [uncoveredFrom, Tiles]
      split
      · rename_i hf
        obtain ⟨ho, hne, hs⟩ := Token.fits_iff.mp hf
        simp [ih, ho, hne, hs]
      · rename_i hf
        constructor
        · intro h; cases h
        · rintro ⟨ho, hne, hs, _⟩; exact absurd (Token.fits_iff.mpr ⟨ho, hne, hs⟩) hf

/-- The test for a cover accepts the tilings of the whole text. -/
theorem uncovered?_eq_none_iff {source : String} {ts : List Token} :
    uncovered? source ts = none ↔ Tiles source 0 ts source.utf8ByteSize :=
  uncoveredFrom_eq_none_iff

/-! ## Kinds -/

/-- The token with another kind. -/
def Token.mapKind (f : Kind → Kind) (t : Token) : Token :=
  { t with kind := f t.kind }

theorem map_mapKind_id (ts : List Token) : ts.map (Token.mapKind id) = ts :=
  List.map_id ts

end ModalLexer
