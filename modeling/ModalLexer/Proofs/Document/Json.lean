import ModalLexer.Document.Json
import ModalLexer.Proofs.Outcome

/-!
Reading back what was written in the compact form. A reader that is given a written value, and after it a text at
which a value may end, returns the value and that text. Leaves come first; containers are read back where their
parts are.
-/

namespace ModalLexer.Json

/-- A value may end here: the text does, or a comma or a closing bracket comes next. -/
def Ends (rest : List Char) : Prop :=
  ∀ c ∈ rest.head?, c = ',' ∨ c = ']' ∨ c = '}'

theorem ends_close {c : Char} (hc : c = ']' ∨ c = '}') (rest : List Char) : Ends (c :: rest) := by
  intro d hd
  cases hd
  exact .inr hc

theorem skipBlank_cons {c : Char} (hc : isBlank c = false) (cs : List Char) : skipBlank (c :: cs) = c :: cs := by
  simp [skipBlank, hc]

/-! ## Strings -/

theorem readUnit_append {digits : List Char} (hlen : digits.length = 4) (cs : List Char) :
    readUnit (digits ++ cs) = readUnit digits := by
  have htake : (digits ++ cs).take 4 = digits.take 4 := by
    rw [List.take_append_of_le_length (Nat.le_of_eq hlen.symm)]
  simp only [readUnit, htake]

/-- The four digits of a control character that has no name of its own. -/
def unitDigits (n : Nat) : List Char :=
  if n < 0x10 then '0' :: '0' :: '0' :: Nat.toDigits 16 n else '0' :: '0' :: Nat.toDigits 16 n

theorem readUnit_unitDigits :
    ∀ n < 0x20, (unitDigits n).length = 4 ∧ (readUnit (unitDigits n)).toOption = some n := by
  decide +kernel

theorem readEscape_unitDigits {c : Char} (hc : c.toNat < 0x20) (cs : List Char) :
    readEscape ('u' :: unitDigits c.toNat ++ cs) = .ok (c, ('u' :: unitDigits c.toNat).length) := by
  obtain ⟨hlen, hunit⟩ := readUnit_unitDigits c.toNat hc
  have hunit := toOption_eq_some.mp hunit
  have htrail : isTrailingSurrogate c.toNat = false := by simp [isTrailingSurrogate]; omega
  have hlead : isLeadingSurrogate c.toNat = false := by simp [isLeadingSurrogate]; omega
  simp [readEscape, readUnit_append hlen, hunit, htrail, hlead, hlen, bind, Except.bind, pure, Except.pure]

/-- A character is written as it is, or as an escape that stands for it. -/
theorem writeChar_cases (c : Char) :
    (writeChar c = [c] ∧ c ≠ '"' ∧ c ≠ '\\' ∧ ¬ c.toNat < 0x20) ∨
      ∃ esc, writeChar c = '\\' :: esc ∧ ∀ cs, readEscape (esc ++ cs) = .ok (c, esc.length) := by
  unfold writeChar
  split
  · rename_i hc; exact .inr ⟨_, rfl, fun cs => by rw [hc]; rfl⟩
  split
  · rename_i hc; exact .inr ⟨_, rfl, fun cs => by rw [hc]; rfl⟩
  split
  · rename_i hc; exact .inr ⟨_, rfl, fun cs => by rw [hc]; rfl⟩
  split
  · rename_i hc; exact .inr ⟨_, rfl, fun cs => by rw [hc]; rfl⟩
  split
  · rename_i hc; exact .inr ⟨_, rfl, fun cs => by rw [hc]; rfl⟩
  split
  · rename_i hc; exact .inr ⟨_, rfl, fun cs => by rw [hc]; rfl⟩
  split
  · rename_i hc; exact .inr ⟨_, rfl, fun cs => by rw [hc]; rfl⟩
  split
  · rename_i hc
    exact .inr ⟨'u' :: unitDigits c.toNat, by rw [unitDigits, if_pos hc], readEscape_unitDigits (by omega)⟩
  split
  · rename_i hlow hc
    exact .inr ⟨'u' :: unitDigits c.toNat, by rw [unitDigits, if_neg hlow], readEscape_unitDigits hc⟩
  · rename_i hquote hslash _ _ _ _ _ _ hc
    exact .inl ⟨rfl, hquote, hslash, hc⟩

theorem readChars_skip (skipped cs : List Char) :
    readChars skipped.length (skipped ++ cs) = readChars 0 cs := by
  induction skipped with
  | nil => rfl
  | cons c skipped ih => simpa [readChars] using ih

theorem readChars_writeChar {c : Char} {cs ds rest : List Char} (h : readChars 0 cs = .ok (ds, rest)) :
    readChars 0 (writeChar c ++ cs) = .ok (c :: ds, rest) := by
  rcases writeChar_cases c with ⟨hw, hquote, hslash, hlow⟩ | ⟨esc, hw, hesc⟩
  · rw [hw]
    simp [readChars, hquote, hslash, hlow, h, bind, Except.bind, pure, Except.pure]
  · rw [hw]
    simp [readChars, hesc, readChars_skip, h, bind, Except.bind, pure, Except.pure]

/-- A string is read back from behind its opening quote. -/
theorem readString_flatMap (s : String) (rest : List Char) :
    readString (s.toList.flatMap writeChar ++ '"' :: rest) = .ok (s, rest) := by
  have hchars : ∀ cs : List Char, readChars 0 (cs.flatMap writeChar ++ '"' :: rest) = .ok (cs, rest) := by
    intro cs
    induction cs with
    | nil => simp [readChars]
    | cons c cs ih => rw [List.flatMap_cons, List.append_assoc]; exact readChars_writeChar ih
  simp [readString, hchars, bind, Except.bind, pure, Except.pure]

theorem writeString_append (s : String) (rest : List Char) :
    writeString s ++ rest = '"' :: (s.toList.flatMap writeChar ++ '"' :: rest) := by
  simp [writeString]

/-! ## Numbers -/

theorem le_ofDigitChars (n : Nat) (digits : List Char) : n ≤ Nat.ofDigitChars 10 digits n := by
  induction digits generalizing n with
  | nil => exact Nat.le_of_eq Nat.ofDigitChars_nil.symm
  | cons c digits ih =>
      rw [Nat.ofDigitChars_cons]
      have := ih (10 * n + (c.toNat - '0'.toNat))
      omega

/-- There is room for all the digits of a number of 64 bits. -/
theorem Scaled.ofWhole_eq {n : Nat} {digits : List Char}
    (h : Nat.ofDigitChars 10 digits n < 0x10000000000000000) :
    Scaled.ofWhole n digits = ⟨Nat.ofDigitChars 10 digits n, 0⟩ := by
  induction digits generalizing n with
  | nil => rw [Nat.ofDigitChars_nil]; rfl
  | cons c digits ih =>
      rw [Nat.ofDigitChars_cons] at h ⊢
      have hfits : 10 * n + digitValue c < 0x10000000000000000 :=
        Nat.lt_of_le_of_lt (le_ofDigitChars _ digits) h
      rw [Scaled.ofWhole, if_pos hfits]
      exact ih h

theorem nearest53_le (n : Nat) : nearest53 n ≤ 2 * n := by
  rcases Nat.eq_zero_or_pos n with rfl | hn
  · decide
  have hunit : Nat.pow 2 (n.log2 - 52) ≤ n :=
    Nat.le_trans (Nat.pow_le_pow_right (by omega) (Nat.sub_le _ _)) (Nat.log2_self_le (by omega))
  unfold nearest53
  generalize Nat.pow 2 (n.log2 - 52) = unit at hunit
  have hdiv : n / unit * unit ≤ n := Nat.div_mul_le_self n unit
  simp only
  split
  · omega
  · rw [Nat.add_mul, Nat.one_mul]; omega

theorem isHuge_of_lt {n : Nat} (h : n < 0x10000000000000000) : Scaled.isHuge ⟨n, 0⟩ = false := by
  have hone : nearest53 (Nat.pow 10 (Int.toNat 0)) = 1 := by decide
  have hle := nearest53_le n
  have hbig : 2 * 0x10000000000000000 < Nat.pow 2 1024 - Nat.pow 2 970 := by decide +kernel
  unfold Scaled.isHuge
  simp only
  split
  · rfl
  · rw [if_neg (by decide), hone]
    simp only [decide_eq_false_iff_not]
    omega

theorem head?_toDigits {n : Nat} (hn : 0 < n) : (Nat.toDigits 10 n).head? ≠ some '0' := by
  induction n using Nat.strongRecOn with
  | ind n ih =>
      rw [Nat.toDigits_eq_if (by omega)]
      split
      · simp only [List.head?_cons, ne_eq, Option.some.injEq, Nat.digitChar_eq_zero]
        omega
      · have hrest := ih (n / 10) (by omega) (by omega)
        obtain ⟨c, cs, hcs⟩ := List.exists_cons_of_ne_nil (Nat.toDigits_ne_nil (b := 10) (n := n / 10))
        rw [hcs] at hrest ⊢
        exact hrest

theorem isDigit_of_mem_toDigits {n : Nat} : ∀ c ∈ Nat.toDigits 10 n, c.isDigit = true :=
  fun _ => Nat.isDigit_of_mem_toDigits (by omega) (by omega)

theorem takeWhile_digits {digits rest : List Char} (hd : ∀ c ∈ digits, c.isDigit = true) (hrest : Ends rest) :
    (digits ++ rest).takeWhile Char.isDigit = digits ∧ (digits ++ rest).dropWhile Char.isDigit = rest := by
  have hhead : rest.takeWhile Char.isDigit = [] ∧ rest.dropWhile Char.isDigit = rest := by
    cases rest with
    | nil => exact ⟨rfl, rfl⟩
    | cons c rest =>
        rcases hrest c rfl with rfl | rfl | rfl
        · exact ⟨rfl, rfl⟩
        · exact ⟨rfl, rfl⟩
        · exact ⟨rfl, rfl⟩
  rw [List.takeWhile_append_of_pos hd, List.dropWhile_append_of_pos hd, hhead.1, hhead.2, List.append_nil]
  exact ⟨rfl, rfl⟩

theorem readFraction_whole {digits rest : List Char} (hrest : Ends rest)
    (hfits : Nat.ofDigitChars 10 digits 0 < 0x10000000000000000) :
    readFraction digits rest = .ok (true, rest) := by
  have hhuge : (Scaled.ofWhole 0 digits).isHuge = false := by
    rw [Scaled.ofWhole_eq hfits]; exact isHuge_of_lt hfits
  have hopen : readFraction digits rest =
      if (Scaled.ofWhole 0 digits).isHuge then .error .malformed else .ok (true, rest) := by
    cases rest with
    | nil => rfl
    | cons c rest =>
        rcases hrest c rfl with rfl | rfl | rfl
        · rfl
        · rfl
        · rfl
  rw [hopen, hhuge]
  rfl

theorem readUnsigned_toDigits {n : Nat} (hn : n < 0x10000000000000000) {rest : List Char} (hrest : Ends rest) :
    readUnsigned false (Nat.toDigits 10 n ++ rest) = .ok (.natural n, rest) := by
  obtain ⟨htake, hdrop⟩ := takeWhile_digits (isDigit_of_mem_toDigits (n := n)) hrest
  have hvalue : Nat.ofDigitChars 10 (Nat.toDigits 10 n) 0 = n := Nat.ofDigitChars_toDigits (by omega) (by omega)
  have hfraction : readFraction (Nat.toDigits 10 n) rest = .ok (true, rest) :=
    readFraction_whole hrest (by rw [hvalue]; exact hn)
  unfold readUnsigned
  simp only [htake, hdrop]
  split
  · rename_i h; exact absurd h Nat.toDigits_ne_nil
  · rename_i c cs h
    rcases Nat.eq_zero_or_pos n with rfl | hpos
    · cases h
    · exact absurd (by rw [h]; rfl) (head?_toDigits hpos)
  · rw [hfraction]
    have hfold : (Nat.toDigits 10 n).foldl (fun n c => 10 * n + digitValue c) 0 = n := hvalue
    simp [hfold, hn, bind, Except.bind, pure, Except.pure]

/-! ## Items and members -/

theorem length_le_flatMap (f : α → List Char) (as : List α) : as.length ≤ (as.flatMap (',' :: f ·)).length := by
  induction as with
  | nil => exact Nat.zero_le _
  | cons a as ih => simp at ih ⊢; omega

theorem ends_flatMap (f : α → List Char) (as : List α) {rest : List Char} (h : Ends rest) :
    Ends (as.flatMap (',' :: f ·) ++ rest) := by
  cases as with
  | nil => exact h
  | cons a as => intro d hd; cases hd; exact .inl rfl

theorem isBlank_of_isDigit {c : Char} (hc : c.isDigit = true) : isBlank c = false := by
  simp only [isBlank, Bool.or_eq_false_iff, decide_eq_false_iff_not]
  refine ⟨⟨⟨?_, ?_⟩, ?_⟩, ?_⟩ <;> (rintro rfl; cases hc)

/-- A value starts with a character that is no blank and closes no array. -/
theorem write_head (v : Json) : ∃ c cs, v.write = c :: cs ∧ isBlank c = false ∧ c ≠ ']' := by
  cases v with
  | natural n =>
      obtain ⟨c, cs, hcs⟩ := List.exists_cons_of_ne_nil (Nat.toDigits_ne_nil (b := 10) (n := n))
      have hc : c.isDigit = true := isDigit_of_mem_toDigits (n := n) c (by simp [hcs])
      exact ⟨c, cs, hcs, isBlank_of_isDigit hc, by rintro rfl; cases hc⟩
  | bool b => cases b <;> exact ⟨_, _, rfl, rfl, by decide⟩
  | null | otherNumber | string s | array items | object members => exact ⟨_, _, rfl, rfl, by decide⟩

theorem nextItem_first (v : Json) (rest : List Char) :
    nextItem true (v.write ++ rest) = .ok (.item (v.write ++ rest)) := by
  obtain ⟨c, cs, hv, hblank, hc⟩ := write_head v
  rw [hv]
  simp [nextItem, skipBlank_cons hblank]

theorem nextItem_more (v : Json) (rest : List Char) :
    nextItem false (',' :: v.write ++ rest) = .ok (.item (v.write ++ rest)) := by
  obtain ⟨c, cs, hv, hblank, hc⟩ := write_head v
  have hcomma : isBlank ',' = false := rfl
  rw [hv]
  simp [nextItem, skipBlank_cons hblank, skipBlank_cons hcomma, hc]

theorem writeItems_cons (v : Json) (vs : List Json) :
    writeItems (v :: vs) = v.write ++ vs.flatMap (',' :: ·.write) := by
  induction vs generalizing v with
  | nil => simp [writeItems]
  | cons w vs ih => rw [writeItems, ih, List.flatMap_cons, List.cons_append]

section

variable {α : Type} {toJson : α → Json} {item : List Char → Except ReadFault (α × List Char)} {as : List α}

theorem readItems_item {fuel : Nat} {first : Bool} {a : α} {cs cs' cs'' rest : List Char}
    (hnext : nextItem first cs = .ok (.item cs')) (hitem : item cs' = .ok (a, cs''))
    (hmore : readItems item fuel false cs'' = .ok (as, rest)) :
    readItems item (fuel + 1) first cs = .ok (a :: as, rest) := by
  simp [readItems, hnext, hitem, hmore, bind, Except.bind, pure, Except.pure]

theorem readItems_more (hitem : ∀ a ∈ as, ∀ rest, Ends rest → item ((toJson a).write ++ rest) = .ok (a, rest))
    {fuel : Nat} (hfuel : as.length < fuel) (rest : List Char) :
    readItems item fuel false ((as.map toJson).flatMap (',' :: ·.write) ++ ']' :: rest) = .ok (as, rest) := by
  induction as generalizing fuel with
  | nil =>
      obtain ⟨fuel, rfl⟩ := Nat.exists_eq_add_of_lt hfuel
      rfl
  | cons a as ih =>
      obtain ⟨ha, has⟩ := List.forall_mem_cons.mp hitem
      obtain ⟨fuel, rfl⟩ := Nat.exists_eq_add_of_lt hfuel
      have hend := ends_flatMap write (as.map toJson) (ends_close (.inl rfl) rest)
      rw [List.map_cons, List.flatMap_cons, List.append_assoc]
      exact readItems_item (nextItem_more _ _) (ha _ hend) (ih has (by simp; omega))

/-- Items are read back where each of them is. -/
theorem readItems_write (toJson : α → Json)
    (hitem : ∀ a ∈ as, ∀ rest, Ends rest → item ((toJson a).write ++ rest) = .ok (a, rest)) (rest : List Char) :
    readItems item ((writeItems (as.map toJson) ++ ']' :: rest).length + 1) true
      (writeItems (as.map toJson) ++ ']' :: rest) = .ok (as, rest) := by
  cases as with
  | nil => rfl
  | cons a as =>
      obtain ⟨ha, has⟩ := List.forall_mem_cons.mp hitem
      have hend := ends_flatMap write (as.map toJson) (ends_close (.inl rfl) rest)
      have hlen := length_le_flatMap write (as.map toJson)
      rw [List.length_map] at hlen
      rw [List.map_cons, writeItems_cons, List.append_assoc]
      refine readItems_item (nextItem_first _ _) (ha _ hend) (readItems_more has ?_ rest)
      simp only [List.length_append, List.length_cons]
      omega

end

/-- A member of an object. -/
def writeMember (m : String × Json) : List Char :=
  writeString m.1 ++ ':' :: m.2.write

theorem writeMembers_cons (m : String × Json) (ms : List (String × Json)) :
    writeMembers (m :: ms) = writeMember m ++ ms.flatMap (',' :: writeMember ·) := by
  induction ms generalizing m with
  | nil => simp [writeMembers, writeMember]
  | cons n ms ih => rw [writeMembers, ih, List.flatMap_cons]; simp [writeMember]

theorem readColon_cons (rest : List Char) : readColon (':' :: rest) = .ok rest := rfl

section

variable {σ : Type} {member : String → σ → List Char → Except ReadFault (σ × List Char)} {acc acc' acc'' : σ}
  {ms ms' : List (String × Json)}

/-- Members take what has been collected from one state to another, each read from behind its name. -/
inductive Gathers (member : String → σ → List Char → Except ReadFault (σ × List Char)) :
    σ → List (String × Json) → σ → Prop
  | nil {acc : σ} : Gathers member acc [] acc
  | cons {acc acc' acc'' : σ} {name : String} {v : Json} {ms : List (String × Json)} :
      (∀ rest, Ends rest → member name acc (':' :: v.write ++ rest) = .ok (acc', rest)) →
      Gathers member acc' ms acc'' → Gathers member acc ((name, v) :: ms) acc''

theorem Gathers.append (h : Gathers member acc ms acc') (h' : Gathers member acc' ms' acc'') :
    Gathers member acc (ms ++ ms') acc'' := by
  induction h with
  | nil => exact h'
  | cons hv _ ih => exact .cons hv (ih h')

/-- Adds a member whose value is read after the colon to those before it, the newest first. -/
def collect (value : List Char → Except ReadFault (α × List Char)) (name : String) (acc : List (String × α))
    (cs : List Char) : Except ReadFault (List (String × α) × List Char) := do
  let (a, rest) ← value (← readColon cs)
  return ((name, a) :: acc, rest)

theorem gathers_collect {α : Type} (toJson : α → Json) {value : List Char → Except ReadFault (α × List Char)}
    {members : List (String × α)}
    (hvalue : ∀ m ∈ members, ∀ rest, Ends rest → value ((toJson m.2).write ++ rest) = .ok (m.2, rest))
    (acc : List (String × α)) :
    Gathers (collect value) acc (members.map fun m => (m.1, toJson m.2)) (members.reverse ++ acc) := by
  induction members generalizing acc with
  | nil => exact .nil
  | cons m members ih =>
      obtain ⟨hm, hmembers⟩ := List.forall_mem_cons.mp hvalue
      rw [List.reverse_cons, List.append_assoc]
      refine .cons (fun rest hrest => ?_) (ih hmembers _)
      simp [collect, readColon_cons, hm rest hrest, bind, Except.bind, pure, Except.pure]

theorem readMembers_member {fuel : Nat} {first : Bool} {name : String} {v : Json} {cs cs' rest : List Char}
    (hnext : nextName first cs = .ok (.item (name.toList.flatMap writeChar ++ '"' :: (':' :: v.write ++ cs'))))
    (hmember : member name acc (':' :: v.write ++ cs') = .ok (acc', cs'))
    (hmore : readMembers member fuel false acc' cs' = .ok (acc'', rest)) :
    readMembers member (fuel + 1) first acc cs = .ok (acc'', rest) := by
  rw [readMembers, hnext]
  simp only [bind, Except.bind, readString_flatMap, hmember]
  exact hmore

theorem writeMember_append (name : String) (v : Json) (rest : List Char) :
    writeMember (name, v) ++ rest = '"' :: (name.toList.flatMap writeChar ++ '"' :: (':' :: v.write ++ rest)) := by
  simp [writeMember, writeString]

theorem readMembers_more (h : Gathers member acc ms acc') {fuel : Nat} (hfuel : ms.length < fuel)
    (rest : List Char) :
    readMembers member fuel false acc (ms.flatMap (',' :: writeMember ·) ++ '}' :: rest) = .ok (acc', rest) := by
  induction h generalizing fuel with
  | nil =>
      obtain ⟨fuel, rfl⟩ := Nat.exists_eq_add_of_lt hfuel
      rfl
  | cons hv _ ih =>
      obtain ⟨fuel, rfl⟩ := Nat.exists_eq_add_of_lt hfuel
      rename_i name v ms _
      have hend := ends_flatMap writeMember ms (ends_close (.inr rfl) rest)
      rw [List.flatMap_cons, List.append_assoc, List.cons_append, writeMember_append]
      exact readMembers_member rfl (hv _ hend) (ih (by simp; omega))

/-- Members are read back where each of them is. -/
theorem readMembers_write (h : Gathers member acc ms acc') (rest : List Char) :
    readMembers member ((writeMembers ms ++ '}' :: rest).length + 1) true acc (writeMembers ms ++ '}' :: rest) =
      .ok (acc', rest) := by
  cases h with
  | nil => rfl
  | cons hv hmore =>
      rename_i name v ms
      have hend := ends_flatMap writeMember ms (ends_close (.inr rfl) rest)
      have hlen := length_le_flatMap writeMember ms
      rw [writeMembers_cons, List.append_assoc, writeMember_append]
      refine readMembers_member rfl (hv _ hend) (readMembers_more hmore ?_ rest)
      simp only [List.length_append, List.length_cons]
      omega

end

/-! ## Values -/

/-- A value that can be written: its numbers have 64 bits, and so many levels of brackets are enough for it. -/
def Fits : (levels : Nat) → Json → Prop
  | _, natural n => n < 0x10000000000000000
  | _, otherNumber => False
  | levels + 1, array items => ∀ v ∈ items, Fits levels v
  | levels + 1, object members => ∀ m ∈ members, Fits levels m.2
  | 0, array _ => False
  | 0, object _ => False
  | _, _ => True

section

variable {levels : Nat}

theorem readValue_string (s : String) (rest : List Char) :
    readValue levels ((string s).write ++ rest) = .ok (string s, rest) := by
  have hquote : isBlank '"' = false := rfl
  rw [write, writeString_append, readValue.eq_def]
  simp only [skipBlank_cons hquote, readString_flatMap, bind, Except.bind, pure, Except.pure]

theorem readValue_natural {n : Nat} (hn : n < 0x10000000000000000) {rest : List Char} (hrest : Ends rest) :
    readValue levels ((natural n).write ++ rest) = .ok (natural n, rest) := by
  have hread := readUnsigned_toDigits hn hrest
  obtain ⟨c, cs, hcs⟩ := List.exists_cons_of_ne_nil (Nat.toDigits_ne_nil (b := 10) (n := n))
  have hc : c.isDigit = true := isDigit_of_mem_toDigits (n := n) c (by simp [hcs])
  rw [hcs] at hread
  rw [write, hcs, List.cons_append, readValue.eq_def]
  simp only [skipBlank_cons (isBlank_of_isDigit hc)]
  split
  all_goals first | cases hc | skip
  rw [if_pos hc]
  exact hread

theorem readValue_array {items : List Json} (hitems : ∀ v ∈ items, ∀ rest, Ends rest →
    readValue levels (v.write ++ rest) = .ok (v, rest)) (rest : List Char) :
    readValue (levels + 1) ((array items).write ++ rest) = .ok (array items, rest) := by
  have hbracket : isBlank '[' = false := rfl
  have hread := readItems_write id hitems rest
  rw [List.map_id] at hread
  rw [write, List.cons_append, List.cons_append, List.append_assoc, List.singleton_append, readValue.eq_def]
  simp only [skipBlank_cons hbracket, hread, bind, Except.bind, pure, Except.pure]

theorem readValue_object {members : List (String × Json)} (hmembers : ∀ m ∈ members, ∀ rest, Ends rest →
    readValue levels (m.2.write ++ rest) = .ok (m.2, rest)) (rest : List Char) :
    readValue (levels + 1) ((object members).write ++ rest) = .ok (object members, rest) := by
  have hbrace : isBlank '{' = false := rfl
  have hread := readMembers_write (gathers_collect id hmembers []) rest
  have hmap : (members.map fun m => (m.1, id m.2)) = members := List.map_id members
  rw [hmap] at hread
  rw [write, List.cons_append, List.cons_append, List.append_assoc, List.singleton_append, readValue.eq_def]
  simp only [skipBlank_cons hbrace]
  refine bind_eq_ok.mpr ⟨_, hread, ?_⟩
  simp [pure, Except.pure]

end

/-- A value is read back from its compact form. -/
theorem readValue_write {levels : Nat} {v : Json} (hv : v.Fits levels) {rest : List Char} (hrest : Ends rest) :
    readValue levels (v.write ++ rest) = .ok (v, rest) := by
  cases v with
  | null => rw [readValue.eq_def]; rfl
  | bool b =>
      cases b with
      | false => rw [readValue.eq_def]; rfl
      | true => rw [readValue.eq_def]; rfl
  | natural n => cases levels <;> exact readValue_natural hv hrest
  | otherNumber => cases levels <;> exact hv.elim
  | string s => exact readValue_string s rest
  | array items =>
      cases levels with
      | zero => exact hv.elim
      | succ levels => exact readValue_array (fun w hw _ hend => readValue_write (hv w hw) hend) rest
  | object members =>
      cases levels with
      | zero => exact hv.elim
      | succ levels => exact readValue_object (fun m hm _ hend => readValue_write (hv m hm) hend) rest
termination_by levels

end ModalLexer.Json
