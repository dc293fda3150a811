/-!
Offsets into a text are byte offsets into its UTF-8 encoding. An offset is a boundary when a prefix of
the text has that many bytes; a slice exists exactly between two boundaries in order.
-/

namespace ModalLexer.Text

/-- A range of byte offsets, the end excluded. -/
structure Span where
  start : Nat
  stop : Nat
deriving DecidableEq, Repr, Inhabited

/-- A span that holds no byte; one whose ends are swapped holds none either. -/
def Span.isEmpty (r : Span) : Bool :=
  r.stop ≤ r.start

/-- The span moved to the right. -/
def Span.shift (r : Span) (base : Nat) : Span :=
  ⟨base + r.start, base + r.stop⟩

/-- The offset falls between two characters, or at an end of the text. -/
def isBoundary (s : String) (n : Nat) : Bool :=
  String.Pos.Raw.isValid s ⟨n⟩

/-- The text between two offsets, if both are boundaries and they are in order. -/
def slice? (s : String) (start stop : Nat) : Option String :=
  if h : start ≤ stop ∧ String.Pos.Raw.IsValid s ⟨start⟩ ∧ String.Pos.Raw.IsValid s ⟨stop⟩ then
    some (s.extract (s.pos ⟨start⟩ h.2.1) (s.pos ⟨stop⟩ h.2.2))
  else
    none

/-- The text between two offsets; empty when there is no such slice. -/
def slice (s : String) (r : Span) : String :=
  (slice? s r.start r.stop).getD ""

/-- The character that starts at the offset. -/
def charAt? (s : String) (n : Nat) : Option Char :=
  String.Pos.Raw.get? s ⟨n⟩

/-- The offset where the character that ends at `n` starts. -/
def previous (s : String) (n : Nat) : Nat :=
  (String.Pos.Raw.prev s ⟨n⟩).byteIdx

/-- The character that ends at the offset. -/
def charBefore? (s : String) (n : Nat) : Option Char :=
  if n = 0 then none else charAt? s (previous s n)

/-- The width in bytes of the first character, zero for the empty text. -/
def firstWidth (s : String) : Nat :=
  match charAt? s 0 with
  | some c => c.utf8Size
  | none => 0

private theorem extract_all (s : String) : s.toByteArray.extract 0 s.utf8ByteSize = s.toByteArray := by
  rw [← String.size_toByteArray, ByteArray.extract_zero_size]

theorem isBoundary_iff {s : String} {n : Nat} :
    isBoundary s n = true ↔ ∃ p q, s = p ++ q ∧ p.utf8ByteSize = n := by
  rw [isBoundary, String.Pos.Raw.isValid_eq_true_iff, String.Pos.Raw.isValid_iff_exists_append]
  constructor
  · rintro ⟨p, q, hs, hn⟩
    exact ⟨p, q, hs, by have := congrArg String.Pos.Raw.byteIdx hn; simpa using this.symm⟩
  · rintro ⟨p, q, hs, hn⟩
    exact ⟨p, q, hs, by rw [← hn]; rfl⟩

/-- A slice is what stands between a prefix and a suffix of the text. -/
theorem slice?_eq_some_iff {s t : String} {a b : Nat} :
    slice? s a b = some t ↔
      ∃ p q, s = p ++ t ++ q ∧ p.utf8ByteSize = a ∧ b = a + t.utf8ByteSize := by
  constructor
  · intro h
    rw [slice?] at h
    split at h
    · rename_i hv
      obtain ⟨hab, ha, hb⟩ := hv
      obtain ⟨p, r, hp, hpa⟩ := isBoundary_iff.1 (String.Pos.Raw.isValid_eq_true_iff.2 ha)
      obtain ⟨u, q, hu, hub⟩ := isBoundary_iff.1 (String.Pos.Raw.isValid_eq_true_iff.2 hb)
      cases h
      have hpb : p.toByteArray = s.toByteArray.extract 0 a := by
        rw [hp, String.toByteArray_append, ByteArray.extract_append, ← hpa]
        simp [extract_all]
      have hub' : u.toByteArray = s.toByteArray.extract 0 b := by
        rw [hu, String.toByteArray_append, ByteArray.extract_append, ← hub]
        simp [extract_all]
      have hcut : u = p ++ s.extract (s.pos ⟨a⟩ ha) (s.pos ⟨b⟩ hb) := by
        rw [← String.toByteArray_inj, String.toByteArray_append, hpb, hub', String.extract]
        simp [hab]
      refine ⟨p, q, by rw [← hcut]; exact hu, hpa, ?_⟩
      have := congrArg String.utf8ByteSize hcut
      rw [String.utf8ByteSize_append] at this
      omega
    · cases h
  · rintro ⟨p, q, rfl, rfl, rfl⟩
    have ha : String.Pos.Raw.IsValid (p ++ t ++ q) ⟨p.utf8ByteSize⟩ :=
      String.Pos.Raw.isValid_eq_true_iff.1 (isBoundary_iff.2 ⟨p, t ++ q, by simp [String.append_assoc], rfl⟩)
    have hb : String.Pos.Raw.IsValid (p ++ t ++ q) ⟨p.utf8ByteSize + t.utf8ByteSize⟩ :=
      String.Pos.Raw.isValid_eq_true_iff.1 (isBoundary_iff.2 ⟨p ++ t, q, rfl, by simp⟩)
    rw [slice?, dif_pos ⟨by omega, ha, hb⟩, Option.some.injEq, ← String.toByteArray_inj, String.extract]
    have hp : p.toByteArray.extract p.utf8ByteSize (p.utf8ByteSize + t.utf8ByteSize) = ByteArray.empty := by
      rw [ByteArray.extract_eq_empty_iff, String.size_toByteArray]
      omega
    simp [String.toByteArray_append, ByteArray.extract_append, extract_all, hp]

end ModalLexer.Text
