import ModalLexer.Proofs.Tiling

/-!
Cutting tokens at an offset of the text that they tile. A token around the offset is cut in two, so that every
byte keeps its kind and the only new place where tokens meet is the cut.
-/

namespace ModalLexer

open Text

/-! ## Kinds and joints -/

/-- The kind of each byte. -/
def byteKinds (ts : List Token) : List Kind :=
  ts.flatMap fun t => List.replicate t.length t.kind

/-- Where texts that follow one another from an offset on meet, with both ends. -/
def joints (pos : Nat) : List String → List Nat
  | [] => [pos]
  | s :: ss => pos :: joints (pos + s.utf8ByteSize) ss

/-- The texts of the tokens, joined. -/
def texts (ts : List Token) : String :=
  String.join (ts.map (·.text))

theorem byteKinds_append (ts us : List Token) : byteKinds (ts ++ us) = byteKinds ts ++ byteKinds us := by
  simp [byteKinds]

@[simp] theorem texts_nil : texts [] = "" := by
  simp [texts]

@[simp] theorem texts_cons (t : Token) (ts : List Token) : texts (t :: ts) = t.text ++ texts ts := by
  simp [texts]

theorem texts_append (ts us : List Token) : texts (ts ++ us) = texts ts ++ texts us := by
  simp [texts]

theorem start_mem_joints (pos : Nat) (ss : List String) : pos ∈ joints pos ss := by
  cases ss with
  | nil => simp [joints]
  | cons s ss => simp [joints]

theorem end_mem_joints (pos : Nat) (ss : List String) : pos + (String.join ss).utf8ByteSize ∈ joints pos ss := by
  induction ss generalizing pos with
  | nil => simp [joints]
  | cons s ss ih => simpa [joints, Nat.add_assoc] using Or.inr (ih (pos + s.utf8ByteSize))

theorem mem_joints_append {b pos : Nat} {ss us : List String} :
    b ∈ joints pos (ss ++ us) ↔ b ∈ joints pos ss ∨ b ∈ joints (pos + (String.join ss).utf8ByteSize) us := by
  induction ss generalizing pos with
  | nil =>
      have hstart := start_mem_joints pos us
      simp only [List.nil_append, joints, List.mem_singleton, String.join_nil, String.utf8ByteSize_empty,
        Nat.add_zero]
      grind
  | cons s ss ih => simp [joints, ih, Nat.add_assoc, or_assoc]

theorem Tiles.stop_eq {source : String} {a b : Nat} {ts : List Token} (h : Tiles source a ts b) :
    b = a + (texts ts).utf8ByteSize := by
  induction ts generalizing a with
  | nil => simpa using h.symm
  | cons t ts ih => rw [ih h.2.2.2, texts_cons, String.utf8ByteSize_append, Nat.add_assoc]; rfl

theorem Tiles.slice? {source : String} {a b : Nat} {ts : List Token} (ha : isBoundary source a = true)
    (h : Tiles source a ts b) : Text.slice? source a b = some (texts ts) := by
  induction ts generalizing a with
  | nil => obtain rfl : a = b := h; simpa using slice?_self ha
  | cons t ts ih =>
      obtain ⟨_, _, hs, hts⟩ := h
      rw [texts_cons]
      exact slice?_append hs (ih (slice?_right hs) hts)

/-! ## Cuts -/

/-- The part of a token between two offsets of its text. -/
def Token.part (t : Token) (start stop : Nat) : Token :=
  ⟨t.offset + start, t.kind, slice t.text ⟨start, stop⟩⟩

/-- That part as tokens: none where there is nothing between the offsets. -/
def Token.between (t : Token) (start stop : Nat) : List Token :=
  if start < stop then [t.part start stop] else []

/-- Cuts tokens in two at an offset of the text that they tile. -/
def cutAt (b : Nat) : List Token → List Token × List Token
  | [] => ([], [])
  | t :: ts =>
    if b ≤ t.offset then ([], t :: ts)
    else if t.offset + t.length ≤ b then (t :: (cutAt b ts).1, (cutAt b ts).2)
    else ([t.part 0 (b - t.offset)], t.part (b - t.offset) t.length :: ts)

/-- Two lists of tokens that make up a third, once the token between them, if there is one, is put together. -/
inductive Cut : (whole front back : List Token) → Prop
  | joint (front back : List Token) : Cut (front ++ back) front back
  | inside (front back : List Token) (t : Token) (u v : String) (halves : t.text = u ++ v) :
    Cut (front ++ t :: back) (front ++ [⟨t.offset, t.kind, u⟩]) (⟨t.offset + u.utf8ByteSize, t.kind, v⟩ :: back)

namespace Cut

variable {whole front back : List Token}

theorem cons (t : Token) (h : Cut whole front back) : Cut (t :: whole) (t :: front) back := by
  cases h with
  | joint => exact joint (t :: front) back
  | inside front back t' u v halves => exact inside (t :: front) back t' u v halves

theorem byteKinds (h : Cut whole front back) : byteKinds (front ++ back) = byteKinds whole := by
  cases h with
  | joint => rfl
  | inside front back t u v halves =>
      simp [ModalLexer.byteKinds, Token.length, halves, ← List.replicate_append_replicate]

theorem mem_joints (h : Cut whole front back) (pos b : Nat) :
    b ∈ joints pos ((front ++ back).map (·.text)) ↔
      b ∈ joints pos (whole.map (·.text)) ∨ b = pos + (texts front).utf8ByteSize := by
  cases h with
  | joint =>
      constructor
      · exact Or.inl
      · rintro (h | rfl)
        · exact h
        · rw [List.map_append]
          exact mem_joints_append.mpr (Or.inl (end_mem_joints _ _))
  | inside front back t u v halves =>
      have hend : texts (front ++ [⟨t.offset, t.kind, u⟩]) = texts front ++ u := by simp [texts]
      rw [hend, String.utf8ByteSize_append]
      simp only [List.append_assoc, List.map_append, List.map_cons, List.singleton_append,
        mem_joints_append, joints, List.mem_cons, halves, String.utf8ByteSize_append, texts, Nat.add_assoc]
      grind

end Cut

variable {code : String} {a b e : Nat} {ts : List Token}

theorem cutAt_of_le (h : Tiles code a ts e) (hb : b ≤ a) : cutAt b ts = ([], ts) := by
  cases ts with
  | nil => rfl
  | cons t ts => simp [cutAt, h.1, hb]

theorem cutAt_of_ge (h : Tiles code a ts e) (hb : e ≤ b) : cutAt b ts = (ts, []) := by
  induction ts generalizing a with
  | nil => rfl
  | cons t ts ih =>
      obtain ⟨ho, hne, _, hts⟩ := h
      have hle := hts.le
      have hpos : 0 < t.length := Nat.pos_of_ne_zero (by simpa [Token.length] using hne)
      simp only [cutAt, ho, ih hts]
      rw [if_neg (by omega), if_pos (by omega)]

/-- At a boundary inside a token its text falls into two parts, neither of them empty. -/
theorem Token.halves {t : Token} (ht : slice? code t.offset (t.offset + t.length) = some t.text)
    (hb : isBoundary code b = true) (hlo : t.offset < b) (hhi : b < t.offset + t.length) :
    ∃ u v, t.text = u ++ v ∧ slice? t.text 0 (b - t.offset) = some u ∧
      slice? t.text (b - t.offset) t.length = some v ∧ slice? code t.offset b = some u ∧
      slice? code b (t.offset + t.length) = some v := by
  have hin := isBoundary_in_slice? ht hb (Nat.le_of_lt hlo) (Nat.le_of_lt hhi)
  obtain ⟨u, hu⟩ := slice?_exists (isBoundary_zero t.text) hin (Nat.zero_le _)
  obtain ⟨v, hv⟩ := slice?_exists hin (isBoundary_size t.text) (isBoundary_le hin)
  have hall := slice?_append hu hv
  rw [slice?_all] at hall
  have hcu := slice?_trans ht hu
  have hcv := slice?_trans ht hv
  rw [show t.offset + (b - t.offset) = b by omega] at hcu hcv
  exact ⟨u, v, Option.some.inj hall, hu, hv, hcu, hcv⟩

/-- A cut at a boundary tiles the text on both sides of it. -/
theorem cutAt_spec (h : Tiles code a ts e) (hb : isBoundary code b = true) (hab : a ≤ b) (hbe : b ≤ e) :
    Tiles code a (cutAt b ts).1 b ∧ Tiles code b (cutAt b ts).2 e ∧ Cut ts (cutAt b ts).1 (cutAt b ts).2 := by
  induction ts generalizing a with
  | nil =>
      obtain rfl : a = e := h
      obtain rfl : a = b := Nat.le_antisymm hab hbe
      exact ⟨rfl, rfl, .joint [] []⟩
  | cons t ts ih =>
      obtain ⟨rfl, hne, hs, hts⟩ := h
      simp only [cutAt]
      split
      · rename_i hle
        obtain rfl := Nat.le_antisymm hab hle
        exact ⟨rfl, ⟨rfl, hne, hs, hts⟩, .joint [] (t :: ts)⟩
      · split
        · rename_i hle
          obtain ⟨hfront, hback, hcut⟩ := ih hts hle
          exact ⟨⟨rfl, hne, hs, hfront⟩, hback, hcut.cons t⟩
        · obtain ⟨u, v, huv, hu, hv, hcu, hcv⟩ := Token.halves hs hb (by omega) (by omega)
          have hfirst : t.part 0 (b - t.offset) = ⟨t.offset, t.kind, u⟩ := by
            rw [Token.part, slice_eq hu, Nat.add_zero]
          have hsecond : t.part (b - t.offset) t.length = ⟨b, t.kind, v⟩ := by
            rw [Token.part, slice_eq hv, show t.offset + (b - t.offset) = b by omega]
          have hcut : b = t.offset + u.utf8ByteSize := slice?_size hcu
          rw [hfirst, hsecond]
          refine ⟨.single _ hcu (by omega), (Tiles.single _ hcv (by omega)).append hts, ?_⟩
          rw [hcut]
          exact .inside [] ts t u v huv

/-! ## Cuts of the rest of a token -/

namespace Token

variable {t : Token} {i j x y : Nat}

theorem part_length (hi : isBoundary t.text i = true) (hj : isBoundary t.text j = true) (hij : i ≤ j) :
    (t.part i j).length = j - i := by
  obtain ⟨u, hu⟩ := slice?_exists hi hj hij
  have hsize := slice?_size hu
  simp only [length, part, slice_eq hu]
  omega

theorem part_part (hi : isBoundary t.text i = true) (hj : isBoundary t.text j = true)
    (hx : isBoundary t.text x = true) (hy : isBoundary t.text y = true) (hix : i ≤ x) (hxy : x ≤ y)
    (hyj : y ≤ j) : (t.part i j).part (x - i) (y - i) = t.part x y := by
  obtain ⟨u, hu⟩ := slice?_exists hi hj (by omega)
  have hx' := isBoundary_in_slice? hu hx hix (by omega)
  have hy' := isBoundary_in_slice? hu hy (by omega) hyj
  obtain ⟨v, hv⟩ := slice?_exists hx' hy' (by omega)
  have hv' := slice?_trans hu hv
  rw [show i + (x - i) = x by omega, show i + (y - i) = y by omega] at hv'
  simp only [part, slice_eq hu, slice_eq hv, slice_eq hv', mk.injEq, and_self, and_true]
  omega

end Token

theorem cutAt_between {t : Token} {split cut : Nat} (hts : Tiles code (t.offset + t.length) ts e)
    (hsplit : isBoundary t.text split = true) (hcut : isBoundary t.text cut = true) (hle : split ≤ cut) :
    cutAt (t.offset + cut) (t.between split t.length ++ ts) =
      (t.between split cut, t.between cut t.length ++ ts) := by
  have hend : isBoundary t.text t.length = true := isBoundary_size t.text
  have hcutle : cut ≤ t.length := isBoundary_le hcut
  by_cases hrest : split < t.length
  · have hlen : (t.part split t.length).length = t.length - split := Token.part_length hsplit hend (by omega)
    have hoff : (t.part split t.length).offset = t.offset + split := rfl
    simp only [Token.between, hrest, ↓reduceIte, List.singleton_append, cutAt, hlen, hoff]
    split
    · -- The cut is where the rest of the token begins.
      obtain rfl : split = cut := by omega
      simp [hrest]
    · split
      · obtain rfl : cut = t.length := by omega
        simp [hrest, cutAt_of_le hts (Nat.le_refl _)]
      · have hshift : t.offset + cut - (t.offset + split) = cut - split := by omega
        have hfirst := Token.part_part hsplit hend hsplit hcut (Nat.le_refl _) hle hcutle
        have hsecond := Token.part_part hsplit hend hcut hend hle hcutle (Nat.le_refl _)
        rw [Nat.sub_self] at hfirst
        rw [hshift, hfirst, hsecond]
        simp [show split < cut by omega, show cut < t.length by omega]
  · obtain rfl : split = cut := by omega
    obtain rfl : split = t.length := by omega
    simp [Token.between, cutAt_of_le hts (Nat.le_refl _)]

theorem cutAt_beyond {t : Token} {split : Nat} (hsplit : isBoundary t.text split = true)
    (hb : t.offset + t.length < b) : cutAt b (t.between split t.length ++ ts) =
      (t.between split t.length ++ (cutAt b ts).1, (cutAt b ts).2) := by
  by_cases hrest : split < t.length
  · have hlen : (t.part split t.length).length = t.length - split :=
      Token.part_length hsplit (isBoundary_size t.text) (by omega)
    have hoff : (t.part split t.length).offset = t.offset + split := rfl
    simp only [Token.between, hrest, ↓reduceIte, List.singleton_append, cutAt, hlen, hoff]
    rw [if_neg (by omega), if_pos (by omega)]
  · simp [Token.between, hrest]

end ModalLexer
