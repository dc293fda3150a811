import ModalLexer.Text.Slice

/-!
Boundaries and slices. Two decompositions of a text at one offset are the same; from this, slices that follow
one another join, and a slice of a slice is a slice of the whole.
-/

namespace ModalLexer.Text

/-! ## Decompositions -/

/-- A text falls into two parts in one way at most, once the size of the first is given. -/
theorem append_inj_of_size {p q p' q' : String} (h : p ++ q = p' ++ q')
    (hs : p.utf8ByteSize = p'.utf8ByteSize) : p = p' ∧ q = q' := by
  have hb : p.toByteArray ++ q.toByteArray = p'.toByteArray ++ q'.toByteArray := by
    rw [← String.toByteArray_append, ← String.toByteArray_append, h]
  obtain ⟨h₁, h₂⟩ := (ByteArray.append_eq_append_iff_of_size_eq_left hs).mp hb
  exact ⟨String.toByteArray_inj.mp h₁, String.toByteArray_inj.mp h₂⟩

/-! ## Boundaries -/

@[simp] theorem isBoundary_zero (s : String) : isBoundary s 0 = true :=
  isBoundary_iff.mpr ⟨"", s, by simp, by simp⟩

@[simp] theorem isBoundary_size (s : String) : isBoundary s s.utf8ByteSize = true :=
  isBoundary_iff.mpr ⟨s, "", by simp, rfl⟩

theorem isBoundary_le {s : String} {n : Nat} (h : isBoundary s n = true) : n ≤ s.utf8ByteSize := by
  obtain ⟨p, q, rfl, rfl⟩ := isBoundary_iff.mp h
  simp

/-! ## Slices -/

theorem slice?_exists {s : String} {a b : Nat} (ha : isBoundary s a = true) (hb : isBoundary s b = true)
    (hab : a ≤ b) : ∃ t, slice? s a b = some t := by
  rw [isBoundary, String.Pos.Raw.isValid_eq_true_iff] at ha hb
  exact ⟨_, dif_pos ⟨hab, ha, hb⟩⟩

theorem slice?_size {s t : String} {a b : Nat} (h : slice? s a b = some t) : b = a + t.utf8ByteSize := by
  obtain ⟨_, _, _, _, hb⟩ := slice?_eq_some_iff.mp h
  exact hb

theorem slice?_left {s t : String} {a b : Nat} (h : slice? s a b = some t) : isBoundary s a = true := by
  obtain ⟨p, q, rfl, rfl, _⟩ := slice?_eq_some_iff.mp h
  exact isBoundary_iff.mpr ⟨p, t ++ q, by rw [String.append_assoc], rfl⟩

theorem slice?_right {s t : String} {a b : Nat} (h : slice? s a b = some t) : isBoundary s b = true := by
  obtain ⟨p, q, rfl, rfl, rfl⟩ := slice?_eq_some_iff.mp h
  exact isBoundary_iff.mpr ⟨p ++ t, q, rfl, by simp⟩

theorem slice?_all (s : String) : slice? s 0 s.utf8ByteSize = some s :=
  slice?_eq_some_iff.mpr ⟨"", "", by simp, by simp, by simp⟩

theorem slice?_self {s : String} {a : Nat} (h : isBoundary s a = true) : slice? s a a = some "" := by
  obtain ⟨p, q, rfl, rfl⟩ := isBoundary_iff.mp h
  exact slice?_eq_some_iff.mpr ⟨p, q, by simp, rfl, by simp⟩

theorem slice?_append {s t u : String} {a b c : Nat} (ht : slice? s a b = some t)
    (hu : slice? s b c = some u) : slice? s a c = some (t ++ u) := by
  obtain ⟨p, q, hs, ha, hb⟩ := slice?_eq_some_iff.mp ht
  obtain ⟨p', q', hs', hb', hc⟩ := slice?_eq_some_iff.mp hu
  have hjoin : (p ++ t) ++ q = p' ++ (u ++ q') := by rw [← hs, hs', String.append_assoc]
  have hp : p ++ t = p' := by
    refine (append_inj_of_size hjoin ?_).1
    rw [String.utf8ByteSize_append, ha, hb', hb]
  refine slice?_eq_some_iff.mpr ⟨p, q', ?_, ha, ?_⟩
  · rw [hs', ← hp]; simp only [String.append_assoc]
  · rw [hc, hb, String.utf8ByteSize_append]; omega

theorem slice?_split {s t u : String} {a c : Nat} (h : slice? s a c = some (t ++ u)) :
    slice? s a (a + t.utf8ByteSize) = some t ∧ slice? s (a + t.utf8ByteSize) c = some u := by
  obtain ⟨p, q, rfl, rfl, rfl⟩ := slice?_eq_some_iff.mp h
  constructor
  · exact slice?_eq_some_iff.mpr ⟨p, u ++ q, by simp only [String.append_assoc], rfl, rfl⟩
  · refine slice?_eq_some_iff.mpr ⟨p ++ t, q, by simp only [String.append_assoc], by simp, ?_⟩
    rw [String.utf8ByteSize_append]; omega

/-- A slice of a slice is a slice of the whole text. -/
theorem slice?_trans {s t u : String} {a b i j : Nat} (ht : slice? s a b = some t)
    (hu : slice? t i j = some u) : slice? s (a + i) (a + j) = some u := by
  obtain ⟨p, q, rfl, rfl, _⟩ := slice?_eq_some_iff.mp ht
  obtain ⟨p', q', rfl, rfl, rfl⟩ := slice?_eq_some_iff.mp hu
  refine slice?_eq_some_iff.mpr ⟨p ++ p', q' ++ q, ?_, ?_, ?_⟩
  · simp only [String.append_assoc]
  · rw [String.utf8ByteSize_append]
  · omega

/-- Between the ends of a slice, a boundary of the text is one of the slice. -/
theorem isBoundary_in_slice? {s t : String} {a b n : Nat} (ht : slice? s a b = some t)
    (hn : isBoundary s n = true) (ha : a ≤ n) (hb : n ≤ b) : isBoundary t (n - a) = true := by
  obtain ⟨u, hu⟩ := slice?_exists (slice?_left ht) hn ha
  obtain ⟨v, hv⟩ := slice?_exists hn (slice?_right ht) hb
  have huv : t = u ++ v := Option.some.inj (ht.symm.trans (slice?_append hu hv))
  refine isBoundary_iff.mpr ⟨u, v, huv, ?_⟩
  have := slice?_size hu
  omega

theorem slice_eq {s t : String} {a b : Nat} (h : slice? s a b = some t) : slice s ⟨a, b⟩ = t := by
  simp [slice, h]

theorem slice?_slice {s : String} {r : Span} (ha : isBoundary s r.start = true)
    (hb : isBoundary s r.stop = true) (h : r.start ≤ r.stop) :
    slice? s r.start r.stop = some (slice s r) := by
  obtain ⟨t, ht⟩ := slice?_exists ha hb h
  rw [slice, ht, Option.getD_some]

/-! ## Characters -/

private theorem size_ofList_cons (c : Char) (cs : List Char) :
    (String.ofList (c :: cs)).utf8ByteSize = c.utf8Size + (String.ofList cs).utf8ByteSize := by
  rw [show c :: cs = [c] ++ cs from rfl, String.ofList_append, String.utf8ByteSize_append]
  simp

private theorem getAux?_eq_some_iff {cs : List Char} {i n : Nat} {c : Char} :
    String.Pos.Raw.utf8GetAux? cs ⟨i⟩ ⟨n⟩ = some c ↔
      ∃ p q, cs = p ++ c :: q ∧ i + (String.ofList p).utf8ByteSize = n := by
  induction cs generalizing i with
  | nil =>
      have hnil : String.Pos.Raw.utf8GetAux? [] ⟨i⟩ ⟨n⟩ = none := rfl
      simp [hnil]
  | cons d ds ih =>
      have hcons : String.Pos.Raw.utf8GetAux? (d :: ds) ⟨i⟩ ⟨n⟩ =
          if (⟨i⟩ : String.Pos.Raw) = ⟨n⟩ then some d
          else String.Pos.Raw.utf8GetAux? ds ⟨i + d.utf8Size⟩ ⟨n⟩ := rfl
      have hpos := d.utf8Size_pos
      simp only [hcons, String.Pos.Raw.mk.injEq]
      split
      · rename_i hin
        constructor
        · intro h; cases h; exact ⟨[], ds, rfl, by simpa using hin⟩
        · rintro ⟨p, q, hp, hn⟩
          cases p with
          | nil => cases hp; rfl
          | cons e p => cases hp; rw [size_ofList_cons] at hn; omega
      · rename_i hin
        rw [ih]
        constructor
        · rintro ⟨p, q, rfl, hn⟩
          exact ⟨d :: p, q, rfl, by rw [size_ofList_cons]; omega⟩
        · rintro ⟨p, q, hp, hn⟩
          cases p with
          | nil => exact absurd (by simpa using hn) hin
          | cons e p => cases hp; exact ⟨p, q, rfl, by rw [size_ofList_cons] at hn; omega⟩

theorem charAt?_eq_some_iff {s : String} {n : Nat} {c : Char} :
    charAt? s n = some c ↔ slice? s n (n + c.utf8Size) = some (String.singleton c) := by
  have hget : charAt? s n = String.Pos.Raw.utf8GetAux? s.toList ⟨0⟩ ⟨n⟩ := rfl
  rw [hget, slice?_eq_some_iff, getAux?_eq_some_iff]
  constructor
  · rintro ⟨p, q, hs, hn⟩
    refine ⟨String.ofList p, String.ofList q, ?_, by omega, by simp⟩
    rw [← String.toList_inj, hs]
    simp
  · rintro ⟨p, q, rfl, rfl, _⟩
    exact ⟨p.toList, q.toList, by simp, by simp⟩

theorem charAt?_exists {s : String} {n : Nat} (h : isBoundary s n = true) (hn : n < s.utf8ByteSize) :
    ∃ c, charAt? s n = some c := by
  obtain ⟨p, q, rfl, rfl⟩ := isBoundary_iff.mp h
  cases hq : q.toList with
  | nil =>
      have : q = "" := by rw [← String.toList_inj, hq]; rfl
      subst this
      simp at hn
  | cons c cs =>
      refine ⟨c, charAt?_eq_some_iff.mpr (slice?_eq_some_iff.mpr ⟨p, String.ofList cs, ?_, rfl, by simp⟩)⟩
      rw [← String.toList_inj]
      simp [hq]

theorem isBoundary_charAt? {s : String} {n : Nat} {c : Char} (h : charAt? s n = some c) :
    isBoundary s (n + c.utf8Size) = true :=
  slice?_right (charAt?_eq_some_iff.mp h)

/-- A character of a slice is one of the whole text. -/
theorem charAt?_slice? {s t : String} {a b n : Nat} {c : Char} (ht : slice? s a b = some t)
    (hc : charAt? t n = some c) : charAt? s (a + n) = some c := by
  have hslice := slice?_trans ht (charAt?_eq_some_iff.mp hc)
  rw [← Nat.add_assoc] at hslice
  exact charAt?_eq_some_iff.mpr hslice

/-- A character of the whole text that starts between the ends of a slice is one of the slice. -/
theorem charAt?_in_slice? {s t : String} {a b n : Nat} {c : Char} (ht : slice? s a b = some t)
    (hc : charAt? s n = some c) (ha : a ≤ n) (hb : n < b) : charAt? t (n - a) = some c := by
  have hn : isBoundary s n = true := slice?_left (charAt?_eq_some_iff.mp hc)
  have hsize := slice?_size ht
  obtain ⟨d, hd⟩ := charAt?_exists (isBoundary_in_slice? ht hn ha (Nat.le_of_lt hb)) (by omega)
  have hsame := charAt?_slice? ht hd
  rw [Nat.add_sub_cancel' ha, hc] at hsame
  rw [hd, hsame]

/-- No boundary falls inside a character. -/
theorem charAt?_le {s : String} {n p : Nat} {c : Char} (h : charAt? s n = some c) (hp : isBoundary s p = true)
    (hlt : n < p) : n + c.utf8Size ≤ p := by
  refine Nat.le_of_not_lt fun hin => ?_
  have hb := isBoundary_in_slice? (charAt?_eq_some_iff.mp h) hp (by omega) (by omega)
  obtain ⟨u, v, huv, hu⟩ := isBoundary_iff.mp hb
  have hlist : u.toList ++ v.toList = [c] := by rw [← String.toList_append, ← huv]; simp
  rcases List.append_eq_singleton_iff.mp hlist with ⟨hu', _⟩ | ⟨hu', _⟩
  · obtain rfl : u = "" := by rw [← String.toList_inj, hu']; rfl
    simp at hu
    omega
  · obtain rfl : u = String.singleton c := by rw [← String.toList_inj, hu']; simp
    simp at hu
    omega

private theorem prevAux_boundary {cs : List Char} {i n : Nat} (hi : i < n)
    (hn : n ≤ i + (String.ofList cs).utf8ByteSize) :
    ∃ p q, cs = p ++ q ∧
      (String.Pos.Raw.utf8PrevAux cs ⟨i⟩ ⟨n⟩).byteIdx = i + (String.ofList p).utf8ByteSize := by
  induction cs generalizing i with
  | nil => simp at hn; omega
  | cons c cs ih =>
      have hc : (⟨i⟩ : String.Pos.Raw) + c = ⟨i + c.utf8Size⟩ := rfl
      simp only [String.Pos.Raw.utf8PrevAux, hc, String.Pos.Raw.le_iff]
      split
      · exact ⟨[], c :: cs, rfl, by simp⟩
      · rename_i hlt
        rw [size_ofList_cons] at hn
        obtain ⟨p, q, rfl, hp⟩ := ih (i := i + c.utf8Size) (by omega) (by omega)
        exact ⟨c :: p, q, rfl, by rw [hp, size_ofList_cons]; omega⟩

theorem isBoundary_previous {s : String} {n : Nat} (h : isBoundary s n = true) :
    isBoundary s (previous s n) = true := by
  cases n with
  | zero => simp [previous, show (⟨0⟩ : String.Pos.Raw) = 0 from rfl]
  | succ n =>
      have hle := isBoundary_le h
      have hsize : n + 1 ≤ 0 + (String.ofList s.toList).utf8ByteSize := by simpa using hle
      obtain ⟨p, q, hs, hp⟩ := prevAux_boundary (Nat.succ_pos n) hsize
      refine isBoundary_iff.mpr ⟨String.ofList p, String.ofList q, ?_, ?_⟩
      · rw [← String.toList_inj, hs]; simp
      · rw [previous, String.Pos.Raw.prev]
        exact ((Nat.zero_add _).symm.trans hp.symm)

end ModalLexer.Text
