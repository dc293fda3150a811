import ModalLexer.Text.Quoted

/-!
Quoted text can be read back, and stands on one line: whatever the text is, no line feed and no tab is left between the
quotes, and every escape tells which character it stands for.
-/

namespace ModalLexer.Text

open Pattern (CharSet)

/-! ## Reading back -/

theorem hexValue?_digitChar :
    ∀ d < 16, CharSet.hexValue? (Nat.digitChar d) = some d ∧ Nat.digitChar d ≠ '}' := by
  decide

theorem readQuoted_digit {d : Nat} (hd : d < 16) (n : Nat) (rest : List Char) :
    readQuoted (.code n) (Nat.digitChar d :: rest) = readQuoted (.code (16 * n + d)) rest := by
  obtain ⟨hvalue, hbrace⟩ := hexValue?_digitChar d hd
  rw [readQuoted, if_neg hbrace, hvalue]
  rfl

theorem readQuoted_toDigits (n : Nat) (rest : List Char) :
    readQuoted (.code 0) (Nat.toDigits 16 n ++ rest) = readQuoted (.code n) rest := by
  induction n using Nat.strongRecOn generalizing rest with
  | ind n ih =>
      rw [Nat.toDigits_eq_if (by omega)]
      split
      next hlt =>
        rw [List.singleton_append, readQuoted_digit hlt, Nat.mul_zero, Nat.zero_add]
      next hge =>
        rw [List.append_assoc, ih (n / 16) (by omega), List.singleton_append, readQuoted_digit (by omega)]
        congr 2
        omega

/-- Each character is read back, whether or not it is escaped. -/
theorem readQuoted_escapeChar (c : Char) (rest : List Char) :
    readQuoted .plain (escapeChar c ++ rest) = (readQuoted .plain rest).map (c :: ·) := by
  unfold escapeChar
  split
  next hc => rw [hc]; rfl
  next hquote =>
    split
    next hc => rw [hc]; rfl
    next hslash =>
      split
      next hc => rw [hc]; rfl
      split
      next hc => rw [hc]; rfl
      split
      next hc => rw [hc]; rfl
      split
      next hc => rw [hc]; rfl
      split
      · rw [List.singleton_append, readQuoted, if_neg hquote, if_neg hslash]
      · show readQuoted (.code 0) (Nat.toDigits 16 c.toNat ++ ['}'] ++ rest) = _
        rw [List.append_assoc, readQuoted_toDigits, List.singleton_append, readQuoted, if_pos rfl, Char.ofNat_toNat]

theorem unquote_quote (s : String) : unquote (quote s).toList = some s := by
  have hread (cs : List Char) : readQuoted .plain (cs.flatMap escapeChar ++ ['"']) = some cs := by
    induction cs with
    | nil => rfl
    | cons c cs ih => rw [List.flatMap_cons, List.append_assoc, readQuoted_escapeChar, ih]; rfl
  rw [quote, String.toList_ofList, List.cons_append, unquote, hread, Option.map_some, String.ofList_toList]

/-! ## One line -/

/-- The character neither ends a line nor divides its parts. -/
def InPart (c : Char) : Prop :=
  c ≠ '\t' ∧ c ≠ '\n'

instance : DecidablePred InPart :=
  fun c => inferInstanceAs (Decidable (c ≠ '\t' ∧ c ≠ '\n'))

theorem toDigits_inPart {base : Nat} (hone : 1 < base) (hle : base ≤ 16) (n : Nat) :
    ∀ c ∈ Nat.toDigits base n, InPart c := by
  have hdigit : ∀ d < 16, InPart (Nat.digitChar d) := by decide
  induction n using Nat.strongRecOn with
  | ind n ih =>
      rw [Nat.toDigits_eq_if hone]
      split
      next hlt => simpa using hdigit n (by omega)
      next hge =>
        intro c hc
        rcases List.mem_append.mp hc with hc | hc
        · exact ih (n / base) (Nat.div_lt_self (by omega) hone) c hc
        · rw [List.mem_singleton.mp hc]
          exact hdigit _ (Nat.lt_of_lt_of_le (Nat.mod_lt n (by omega)) hle)

theorem escapeChar_inPart (c : Char) : ∀ d ∈ escapeChar c, InPart d := by
  have hcode : ∀ d ∈ escapeCode c, InPart d := by
    unfold escapeCode
    intro d hd
    simp only [List.cons_append, List.mem_cons, List.mem_append, List.not_mem_nil, or_false] at hd
    rcases hd with rfl | rfl | rfl | hd | rfl
    · decide
    · decide
    · decide
    · exact toDigits_inPart (by decide) (by decide) c.toNat d hd
    · decide
  unfold escapeChar
  split
  · simp [InPart]
  split
  · simp [InPart]
  split
  · simp [InPart]
  next hfeed =>
    split
    · simp [InPart]
    split
    · simp [InPart]
    next htab =>
      split
      · simp [InPart]
      split
      · exact List.forall_mem_singleton.mpr ⟨htab, hfeed⟩
      · exact hcode

theorem quote_inPart (s : String) : ∀ c ∈ (quote s).toList, InPart c := by
  intro c hc
  rw [quote, String.toList_ofList] at hc
  simp only [List.cons_append, List.mem_cons, List.mem_append, List.mem_flatMap, List.not_mem_nil, or_false] at hc
  rcases hc with rfl | ⟨d, _, hd⟩ | rfl
  · decide
  · exact escapeChar_inPart d c hd
  · decide

end ModalLexer.Text
