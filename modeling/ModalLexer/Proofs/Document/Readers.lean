import Mathlib.Data.List.DropRight
import Mathlib.Logic.Basic
import ModalLexer.Proofs.Document.Json

/-!
The readers of the format, from what they return: the text of which a value is read, the items and members that a
container has, and that what is left is shorter. Reading the parts of something as they come is compared with reading
a value first and taking it for that thing.
-/

namespace ModalLexer.Json

/-! ## Containers -/

theorem nextItem_eq_close_iff {first : Bool} {cs rest : List Char} :
    nextItem first cs = .ok (.close rest) ↔ skipBlank cs = ']' :: rest := by
  unfold nextItem
  split
  next hcs => simp [hcs]
  next hcs => simp [hcs]
  next hc hcs =>
    have hclose : skipBlank cs ≠ ']' :: rest := fun h => hc (List.cons.inj (hcs.symm.trans h)).1
    simp only [hclose, iff_false]
    split
    · simp
    · split
      · split <;> simp
      · simp

theorem readItems_succ_iff {α : Type} {item : List Char → Except ReadFault (α × List Char)} {fuel : Nat}
    {first : Bool} {cs rest : List Char} {as : List α} : readItems item (fuel + 1) first cs = .ok (as, rest) ↔
      as = [] ∧ nextItem first cs = .ok (.close rest) ∨
      ∃ a as' start stop, as = a :: as' ∧ nextItem first cs = .ok (.item start) ∧ item start = .ok (a, stop) ∧
        readItems item fuel false stop = .ok (as', rest) := by
  constructor
  · intro h
    obtain ⟨next, hnext, h⟩ := bind_eq_ok.mp h
    cases next with
    | close rest' => cases h; exact .inl ⟨rfl, hnext⟩
    | item start =>
        obtain ⟨⟨a, stop⟩, ha, h⟩ := bind_eq_ok.mp h
        obtain ⟨⟨as', _⟩, has, h⟩ := bind_eq_ok.mp h
        cases h
        exact .inr ⟨a, as', start, stop, rfl, hnext, ha, has⟩
  · rintro (⟨rfl, hnext⟩ | ⟨a, as', start, stop, rfl, hnext, ha, has⟩)
    · exact bind_eq_ok.mpr ⟨_, hnext, rfl⟩
    · exact bind_eq_ok.mpr ⟨_, hnext, bind_eq_ok.mpr ⟨_, ha, bind_eq_ok.mpr ⟨_, has, rfl⟩⟩⟩

/-- The members of an object up to its closing brace, with the text that they are read from. -/
inductive Members (value : List Char → Except ReadFault (Json × List Char)) :
    Nat → Bool → List Char → List (String × Json) → List Char → Prop
  | close {fuel : Nat} {first : Bool} {cs rest : List Char} (next : nextName first cs = .ok (.close rest)) :
      Members value (fuel + 1) first cs [] rest
  | member {fuel : Nat} {first : Bool} {cs quoted colon start stop rest : List Char} {name : String} {v : Json}
      {ms : List (String × Json)} (next : nextName first cs = .ok (.item quoted))
      (named : readString quoted = .ok (name, colon)) (divided : readColon colon = .ok start)
      (read : value start = .ok (v, stop)) (more : Members value fuel false stop ms rest) :
      Members value (fuel + 1) first cs ((name, v) :: ms) rest

/-- A member is read by reading its value and putting it, with its name, to what has been collected. -/
def Puts {σ : Type} (member : String → σ → List Char → Except ReadFault (σ × List Char))
    (value : List Char → Except ReadFault (Json × List Char)) (put : σ → String × Json → Option σ) : Prop :=
  ∀ name acc cs acc' rest, member name acc cs = .ok (acc', rest) ↔
    ∃ start v, readColon cs = .ok start ∧ value start = .ok (v, rest) ∧ put acc (name, v) = some acc'

theorem Puts.members {σ : Type} {member : String → σ → List Char → Except ReadFault (σ × List Char)}
    {value : List Char → Except ReadFault (Json × List Char)} {put : σ → String × Json → Option σ}
    (hput : Puts member value put) {fuel : Nat} {first : Bool} {acc acc' : σ} {cs rest : List Char} :
    readMembers member fuel first acc cs = .ok (acc', rest) ↔
      ∃ ms, Members value fuel first cs ms rest ∧ ms.foldlM put acc = some acc' := by
  induction fuel generalizing first acc cs with
  | zero =>
      constructor
      · intro h; cases h
      · rintro ⟨ms, hms, _⟩; cases hms
  | succ fuel ih =>
      constructor
      · intro h
        obtain ⟨next, hnext, h⟩ := bind_eq_ok.mp h
        cases next with
        | close rest' => cases h; exact ⟨[], .close hnext, rfl⟩
        | item quoted =>
            obtain ⟨⟨name, colon⟩, hname, h⟩ := bind_eq_ok.mp h
            obtain ⟨⟨acc'', stop⟩, hmember, hmore⟩ := bind_eq_ok.mp h
            obtain ⟨start, v, hcolon, hv, hacc⟩ := (hput _ _ _ _ _).mp hmember
            obtain ⟨ms, hms, hfold⟩ := ih.mp hmore
            exact ⟨(name, v) :: ms, .member hnext hname hcolon hv hms, by simp [hacc, hfold]⟩
      · rintro ⟨ms, hms, hfold⟩
        cases hms with
        | close hnext =>
            cases hfold
            exact bind_eq_ok.mpr ⟨_, hnext, rfl⟩
        | member hnext hname hcolon hv hms =>
            rw [List.foldlM_cons] at hfold
            obtain ⟨acc'', hacc, hfold⟩ := Option.bind_eq_some_iff.mp hfold
            exact bind_eq_ok.mpr ⟨_, hnext, bind_eq_ok.mpr ⟨_, hname, bind_eq_ok.mpr
              ⟨_, (hput _ _ _ _ _).mpr ⟨_, _, hcolon, hv, hacc⟩, ih.mpr ⟨_, hms, hfold⟩⟩⟩⟩

/-- Reading is as if a value were read and then taken for what it stands for. -/
def Takes {α : Type} (read : List Char → Except ReadFault (α × List Char)) (levels : Nat) (take : Json → Option α) :
    Prop :=
  ∀ cs a rest, read cs = .ok (a, rest) ↔ ∃ v, readValue levels cs = .ok (v, rest) ∧ take v = some a

theorem Takes.collect {α : Type} {read : List Char → Except ReadFault (α × List Char)} {levels : Nat}
    {take : Json → Option α} (htakes : Takes read levels take) :
    Puts (collect read) (readValue levels) fun acc m => ((take m.2).map (m.1, ·)).map (· :: acc) := by
  intro name acc cs acc' rest
  constructor
  · intro h
    obtain ⟨start, hcolon, h⟩ := bind_eq_ok.mp h
    obtain ⟨⟨a, _⟩, ha, h⟩ := bind_eq_ok.mp h
    cases h
    obtain ⟨v, hv, htake⟩ := (htakes _ _ _).mp ha
    exact ⟨start, v, hcolon, hv, by simp [htake]⟩
  · rintro ⟨start, v, hcolon, hv, hacc⟩
    obtain ⟨_, hm, rfl⟩ := Option.map_eq_some_iff.mp hacc
    obtain ⟨a, htake, rfl⟩ := Option.map_eq_some_iff.mp hm
    exact bind_eq_ok.mpr ⟨_, hcolon, bind_eq_ok.mpr ⟨_, (htakes _ _ _).mpr ⟨v, hv, htake⟩, rfl⟩⟩

/-- Lists that grow at the front are built in the order opposite to that of their parts. -/
theorem foldlM_cons_eq {α β : Type} (f : α → Option β) (as : List α) (acc : List β) :
    as.foldlM (fun acc a => (f a).map (· :: acc)) acc = (as.mapM f).map (·.reverse ++ acc) := by
  induction as generalizing acc with
  | nil => rfl
  | cons a as ih =>
      rw [List.foldlM_cons, List.mapM_cons]
      cases f a with
      | none => rfl
      | some b => cases hmap : as.mapM f <;> simp [ih, hmap]

theorem Takes.members {α : Type} {read : List Char → Except ReadFault (α × List Char)} {levels : Nat}
    {take : Json → Option α} (htakes : Takes read levels take) {fuel : Nat} {first : Bool} {cs rest : List Char}
    {as : List (String × α)} : readMembers (Json.collect read) fuel first [] cs = .ok (as.reverse, rest) ↔
      ∃ ms, Members (readValue levels) fuel first cs ms rest ∧
        ms.mapM (fun m => (take m.2).map (m.1, ·)) = some as := by
  rw [htakes.collect.members]
  simp only [foldlM_cons_eq, Option.map_eq_some_iff, List.append_nil, List.reverse_inj, exists_eq_right]

theorem readMembers_collect_iff {levels fuel : Nat} {first : Bool} {members : List (String × Json)}
    {cs rest : List Char} : readMembers (collect (readValue levels)) fuel first [] cs = .ok (members.reverse, rest) ↔
      Members (readValue levels) fuel first cs members rest := by
  have htakes : Takes (readValue levels) levels some := fun cs v rest => by simp
  have hmap (ms : List (String × Json)) : ms.mapM (fun m => (some m.2).map (m.1, ·)) = some ms :=
    List.mapM_pure.trans (congrArg some (List.map_id ms))
  rw [htakes.members]
  simp only [hmap, Option.some.injEq, exists_eq_right]

theorem Takes.items {α : Type} {item : List Char → Except ReadFault (α × List Char)} {levels : Nat}
    {take : Json → Option α} (htakes : Takes item levels take) {fuel : Nat} {first : Bool} {cs rest : List Char}
    {as : List α} : readItems item fuel first cs = .ok (as, rest) ↔
      ∃ vs, readItems (readValue levels) fuel first cs = .ok (vs, rest) ∧ vs.mapM take = some as := by
  induction fuel generalizing first cs as with
  | zero => simp [readItems]
  | succ fuel ih =>
      simp only [readItems_succ_iff]
      constructor
      · rintro (⟨rfl, hnext⟩ | ⟨a, as', start, stop, rfl, hnext, ha, has⟩)
        · exact ⟨[], .inl ⟨rfl, hnext⟩, rfl⟩
        · obtain ⟨v, hv, htake⟩ := (htakes _ _ _).mp ha
          obtain ⟨vs, hvs, hmap⟩ := ih.mp has
          exact ⟨v :: vs, .inr ⟨v, vs, start, stop, rfl, hnext, hv, hvs⟩, by simp [List.mapM_cons, htake, hmap]⟩
      · rintro ⟨vs, ⟨rfl, hnext⟩ | ⟨v, vs', start, stop, rfl, hnext, hv, hvs⟩, hmap⟩
        · cases hmap
          exact .inl ⟨rfl, hnext⟩
        · rw [List.mapM_cons] at hmap
          obtain ⟨a, htake, hmore⟩ := Option.bind_eq_some_iff.mp hmap
          obtain ⟨as', htakes', has⟩ := Option.bind_eq_some_iff.mp hmore
          cases has
          exact .inr
            ⟨a, as', start, stop, rfl, hnext, (htakes _ _ _).mpr ⟨v, hv, htake⟩, ih.mpr ⟨vs', hvs, htakes'⟩⟩

/-! ## Values -/

/-- A value with the text that it is read from, which ends where the rest begins. -/
def WrittenAt (levels : Nat) (cs rest : List Char) : Json → Prop
  | null => ∃ after, skipBlank cs = 'n' :: after ∧ readWord ['u', 'l', 'l'] after = .ok rest
  | bool true => ∃ after, skipBlank cs = 't' :: after ∧ readWord ['r', 'u', 'e'] after = .ok rest
  | bool false => ∃ after, skipBlank cs = 'f' :: after ∧ readWord ['a', 'l', 's', 'e'] after = .ok rest
  | natural n => readValue 0 cs = .ok (natural n, rest)
  | otherNumber => readValue 0 cs = .ok (otherNumber, rest)
  | string s => ∃ after, skipBlank cs = '"' :: after ∧ readString after = .ok (s, rest)
  | array items => ∃ inner after, levels = inner + 1 ∧ skipBlank cs = '[' :: after ∧
      readItems (readValue inner) (after.length + 1) true after = .ok (items, rest)
  | object members => ∃ inner after, levels = inner + 1 ∧ skipBlank cs = '{' :: after ∧
      Members (readValue inner) (after.length + 1) true after members rest

theorem readUnsigned_number {negative : Bool} {cs rest : List Char} {v : Json}
    (h : readUnsigned negative cs = .ok (v, rest)) : (∃ n, v = .natural n) ∨ v = .otherNumber := by
  simp only [readUnsigned] at h
  split at h
  · cases h
  · cases h
  · obtain ⟨⟨whole, rest'⟩, _, hv⟩ := bind_eq_ok.mp h
    obtain rfl := congrArg Prod.fst (Except.ok.inj hv)
    dsimp only
    split
    · exact .inl ⟨_, rfl⟩
    · exact .inr rfl

/-- Where no bracket opens, it does not matter how many may. -/
theorem readValue_flat (levels : Nat) {cs : List Char} (harray : ∀ after, skipBlank cs ≠ '[' :: after)
    (hobject : ∀ after, skipBlank cs ≠ '{' :: after) : readValue levels cs = readValue 0 cs := by
  rw [readValue.eq_def, readValue.eq_def]
  dsimp only
  split
  · rfl
  next c after hcs =>
    split
    all_goals first | rfl | exact absurd hcs (harray after) | exact absurd hcs (hobject after)

theorem readValue_skipBlank (levels : Nat) (cs : List Char) :
    readValue levels (skipBlank cs) = readValue levels cs := by
  rw [readValue.eq_def, readValue.eq_def levels cs]
  simp only [skipBlank, List.dropWhile_idempotent]

theorem eq_null_of_readValue {levels : Nat} {cs after rest : List Char} {v : Json} (hcs : skipBlank cs = 'n' :: after)
    (h : readValue levels cs = .ok (v, rest)) : v = .null := by
  rw [readValue.eq_def] at h
  simp only [hcs] at h
  obtain ⟨_, _, hv⟩ := bind_eq_ok.mp h
  cases hv
  rfl

theorem readValue_of_zero {levels : Nat} {cs rest : List Char} {v : Json} (h : readValue 0 cs = .ok (v, rest)) :
    readValue levels cs = .ok (v, rest) := by
  rw [readValue_flat levels, h]
  · intro after hcs
    rw [readValue.eq_def] at h
    simp only [hcs] at h
    cases h
  · intro after hcs
    rw [readValue.eq_def] at h
    simp only [hcs] at h
    cases h

theorem readValue_eq_ok_iff {levels : Nat} {cs rest : List Char} {v : Json} :
    readValue levels cs = .ok (v, rest) ↔ v.WrittenAt levels cs rest := by
  constructor
  · intro h
    have hread := h
    rw [readValue.eq_def] at h
    dsimp only at h
    split at h
    · cases h
    next c after hcs =>
      have hnumber {negative : Bool} {digits : List Char} (hc : c ≠ '[' ∧ c ≠ '{')
          (h : readUnsigned negative digits = .ok (v, rest)) : v.WrittenAt levels cs rest := by
        have hflat : readValue levels cs = readValue 0 cs :=
          readValue_flat levels (fun _ h => hc.1 (List.cons.inj (hcs.symm.trans h)).1)
            (fun _ h => hc.2 (List.cons.inj (hcs.symm.trans h)).1)
        rw [hflat] at hread
        obtain ⟨n, rfl⟩ | rfl := readUnsigned_number h
        · exact hread
        · exact hread
      split at h
      · obtain ⟨_, hword, hv⟩ := bind_eq_ok.mp h
        cases hv
        exact ⟨after, hcs, hword⟩
      · obtain ⟨_, hword, hv⟩ := bind_eq_ok.mp h
        cases hv
        exact ⟨after, hcs, hword⟩
      · obtain ⟨_, hword, hv⟩ := bind_eq_ok.mp h
        cases hv
        exact ⟨after, hcs, hword⟩
      · obtain ⟨⟨s, _⟩, hstring, hv⟩ := bind_eq_ok.mp h
        cases hv
        exact ⟨after, hcs, hstring⟩
      · exact hnumber (by decide) h
      · cases levels with
        | zero => cases h
        | succ inner =>
            obtain ⟨⟨items, _⟩, hitems, hv⟩ := bind_eq_ok.mp h
            cases hv
            exact ⟨inner, after, rfl, hcs, hitems⟩
      · cases levels with
        | zero => cases h
        | succ inner =>
            obtain ⟨⟨members, _⟩, hmembers, hv⟩ := bind_eq_ok.mp h
            cases hv
            refine ⟨inner, after, rfl, hcs, readMembers_collect_iff.mp ?_⟩
            rw [List.reverse_reverse]
            exact hmembers
      next harray hobject =>
        split at h
        · exact hnumber ⟨harray, hobject⟩ h
        · cases h
  · intro h
    cases v with
    | null =>
        obtain ⟨after, hcs, hword⟩ := h
        rw [readValue.eq_def]
        simp only [hcs, hword]
        rfl
    | bool b =>
        cases b with
        | true =>
            obtain ⟨after, hcs, hword⟩ := h
            rw [readValue.eq_def]
            simp only [hcs, hword]
            rfl
        | false =>
            obtain ⟨after, hcs, hword⟩ := h
            rw [readValue.eq_def]
            simp only [hcs, hword]
            rfl
    | natural n => exact readValue_of_zero h
    | otherNumber => exact readValue_of_zero h
    | string s =>
        obtain ⟨after, hcs, hstring⟩ := h
        rw [readValue.eq_def]
        simp only [hcs, hstring]
        rfl
    | array items =>
        obtain ⟨inner, after, rfl, hcs, hitems⟩ := h
        rw [readValue.eq_def]
        simp only [hcs, hitems]
        rfl
    | object members =>
        obtain ⟨inner, after, rfl, hcs, hmembers⟩ := h
        rw [readValue.eq_def]
        simp only [hcs]
        refine bind_eq_ok.mpr ⟨_, readMembers_collect_iff.mpr hmembers, ?_⟩
        rw [List.reverse_reverse]
        rfl

theorem readValue_array_iff {levels : Nat} {cs rest : List Char} {items : List Json} :
    readValue levels cs = .ok (.array items, rest) ↔ ∃ inner after, levels = inner + 1 ∧ skipBlank cs = '[' :: after ∧
      readItems (readValue inner) (after.length + 1) true after = .ok (items, rest) :=
  readValue_eq_ok_iff

theorem readValue_object_iff {levels : Nat} {cs rest : List Char} {members : List (String × Json)} :
    readValue levels cs = .ok (.object members, rest) ↔ ∃ inner after, levels = inner + 1 ∧
      skipBlank cs = '{' :: after ∧ Members (readValue inner) (after.length + 1) true after members rest :=
  readValue_eq_ok_iff

/-! ## What is left -/

theorem length_dropWhile_le (p : Char → Bool) (cs : List Char) : (cs.dropWhile p).length ≤ cs.length :=
  (List.dropWhile_sublist p).length_le

theorem skipBlank_length_le (cs : List Char) : (skipBlank cs).length ≤ cs.length :=
  length_dropWhile_le _ _

theorem length_lt_of_skipBlank {cs rest : List Char} {c : Char} (h : skipBlank cs = c :: rest) :
    rest.length < cs.length := by
  have hle := skipBlank_length_le cs
  rwa [h] at hle

theorem readWord_length_le {word cs rest : List Char} (h : readWord word cs = .ok rest) : rest.length ≤ cs.length := by
  induction word generalizing cs with
  | nil => cases h; exact Nat.le_refl _
  | cons w word ih =>
      cases cs with
      | nil => cases h
      | cons c cs =>
          rw [readWord] at h
          split at h
          · exact Nat.le_succ_of_le (ih h)
          · cases h

theorem readChars_length_le {skip : Nat} {cs ds rest : List Char} (h : readChars skip cs = .ok (ds, rest)) :
    rest.length ≤ cs.length := by
  induction cs generalizing skip ds with
  | nil => cases skip <;> cases h
  | cons c cs ih =>
      cases skip with
      | succ skip => exact Nat.le_succ_of_le (ih h)
      | zero =>
          rw [readChars] at h
          split at h
          · cases h; exact Nat.le_succ _
          · split at h
            · obtain ⟨⟨d, n⟩, _, h⟩ := bind_eq_ok.mp h
              obtain ⟨⟨ds, rest⟩, h, hrest⟩ := bind_eq_ok.mp h
              cases hrest
              exact Nat.le_succ_of_le (ih h)
            · split at h
              · cases h
              · obtain ⟨⟨ds, rest⟩, h, hrest⟩ := bind_eq_ok.mp h
                cases hrest
                exact Nat.le_succ_of_le (ih h)

theorem readString_length_le {cs rest : List Char} {s : String} (h : readString cs = .ok (s, rest)) :
    rest.length ≤ cs.length := by
  obtain ⟨⟨ds, rest⟩, h, hrest⟩ := bind_eq_ok.mp h
  cases hrest
  exact readChars_length_le h

theorem readExponent_length_le {s : Scaled} {cs rest : List Char} (h : readExponent s cs = .ok rest) :
    rest.length ≤ cs.length := by
  simp only [readExponent] at h
  split at h
  next => cases h
  next c digits hsign =>
    have hsigned : (c :: digits).length ≤ cs.length := by
      rw [← hsign]
      split <;> simp
    have hrest : rest = (c :: digits).dropWhile Char.isDigit := by
      rw [hsign] at h
      obtain ⟨_, h⟩ | ⟨_, h⟩ := ite_eq_iff.mp h
      · obtain ⟨_, h⟩ | ⟨_, h⟩ := ite_eq_iff.mp h
        · cases h
        · exact (Except.ok.inj h).symm
      · cases h
    exact hrest ▸ Nat.le_trans (length_dropWhile_le _ _) hsigned

theorem readFraction_length_le {digits cs rest : List Char} {whole : Bool}
    (h : readFraction digits cs = .ok (whole, rest)) : rest.length ≤ cs.length := by
  have hexponent {s : Scaled} {cs : List Char}
      (h : (do return (false, ← readExponent s cs)) = Except.ok (whole, rest)) : rest.length ≤ cs.length := by
    obtain ⟨rest, h, hrest⟩ := bind_eq_ok.mp h
    cases hrest
    exact readExponent_length_le h
  simp only [readFraction] at h
  split at h
  next cs =>
    have hplaces := length_dropWhile_le Char.isDigit cs
    split at h
    · cases h
    · split at h
      next hrest => rw [hrest] at hplaces; have h := hexponent h; simp at hplaces; simp; omega
      next hrest => rw [hrest] at hplaces; have h := hexponent h; simp at hplaces; simp; omega
      next =>
        split at h
        · cases h
        · cases h; exact Nat.le_succ_of_le hplaces
  next => exact Nat.le_succ_of_le (hexponent h)
  next => exact Nat.le_succ_of_le (hexponent h)
  next =>
    split at h
    · cases h
    · cases h; exact Nat.le_refl _

/-- A number takes a digit at least. -/
theorem readUnsigned_length_lt {negative : Bool} {cs rest : List Char} {v : Json}
    (h : readUnsigned negative cs = .ok (v, rest)) : rest.length < cs.length := by
  have hsplit := congrArg List.length (List.takeWhile_append_dropWhile (p := Char.isDigit) (l := cs))
  rw [List.length_append] at hsplit
  simp only [readUnsigned] at h
  split at h
  · cases h
  · cases h
  · next hdigits _ =>
    obtain ⟨⟨whole, rest'⟩, hfraction, hrest⟩ := bind_eq_ok.mp h
    obtain rfl : rest' = rest := congrArg Prod.snd (Except.ok.inj hrest)
    have hle := readFraction_length_le hfraction
    have hpos := List.length_pos_iff.mpr hdigits
    omega

theorem nextItem_length_le {first : Bool} {cs rest : List Char} (h : nextItem first cs = .ok (.item rest)) :
    rest.length ≤ cs.length ∧ (first = false → rest.length < cs.length) := by
  unfold nextItem at h
  split at h
  · cases h
  · cases h
  next c after _ hcs =>
    have hlt := length_lt_of_skipBlank hcs
    cases first with
    | true => cases h; exact ⟨hlt, nofun⟩
    | false =>
        have hle := skipBlank_length_le after
        simp only [Bool.false_eq_true, if_false] at h
        split at h
        · split at h
          · cases h
          · cases h
          · cases h; exact ⟨by omega, fun _ => by omega⟩
        · cases h

theorem nextName_length_lt {first : Bool} {cs rest : List Char}
    (h : nextName first cs = .ok (.item rest) ∨ nextName first cs = .ok (.close rest)) : rest.length < cs.length := by
  unfold nextName at h
  split at h
  · rcases h with h | h <;> cases h
  next hcs => rcases h with h | h <;> cases h; exact length_lt_of_skipBlank hcs
  next c after _ hcs =>
    have hlt := length_lt_of_skipBlank hcs
    cases first with
    | true =>
        simp only [if_true] at h
        split at h
        · rcases h with h | h <;> cases h; exact hlt
        · rcases h with h | h <;> cases h
    | false =>
        simp only [Bool.false_eq_true, if_false] at h
        split at h
        · split at h
          · rcases h with h | h <;> cases h
          next hafter =>
            rcases h with h | h <;> cases h
            exact Nat.lt_trans (length_lt_of_skipBlank hafter) hlt
          · rcases h with h | h <;> cases h
        · rcases h with h | h <;> cases h

theorem readColon_length_lt {cs rest : List Char} (h : readColon cs = .ok rest) : rest.length < cs.length := by
  unfold readColon at h
  split at h
  · cases h
  next hcs => cases h; exact length_lt_of_skipBlank hcs
  · cases h

theorem readItems_length_le {α : Type} {item : List Char → Except ReadFault (α × List Char)}
    (hitem : ∀ cs a rest, item cs = .ok (a, rest) → rest.length ≤ cs.length) {fuel : Nat} {first : Bool}
    {cs rest : List Char} {as : List α} (h : readItems item fuel first cs = .ok (as, rest)) :
    rest.length ≤ cs.length := by
  induction fuel generalizing first cs as with
  | zero => cases h
  | succ fuel ih =>
      obtain ⟨_, hnext⟩ | ⟨a, as', start, stop, _, hnext, ha, has⟩ := readItems_succ_iff.mp h
      · exact Nat.le_of_lt (length_lt_of_skipBlank (nextItem_eq_close_iff.mp hnext))
      · exact Nat.le_trans (ih has) (Nat.le_trans (hitem _ _ _ ha) (nextItem_length_le hnext).1)

theorem readMembers_length_le {σ : Type} {member : String → σ → List Char → Except ReadFault (σ × List Char)}
    (hmember : ∀ name acc cs acc' rest, member name acc cs = .ok (acc', rest) → rest.length ≤ cs.length)
    {fuel : Nat} {first : Bool} {acc acc' : σ} {cs rest : List Char}
    (h : readMembers member fuel first acc cs = .ok (acc', rest)) : rest.length ≤ cs.length := by
  induction fuel generalizing first acc cs with
  | zero => cases h
  | succ fuel ih =>
      obtain ⟨next, hnext, h⟩ := bind_eq_ok.mp h
      cases next with
      | close rest' => cases h; exact Nat.le_of_lt (nextName_length_lt (.inr hnext))
      | item rest' =>
          obtain ⟨⟨name, rest''⟩, hname, h⟩ := bind_eq_ok.mp h
          obtain ⟨⟨acc'', _⟩, hacc, h⟩ := bind_eq_ok.mp h
          exact Nat.le_trans (ih h) (Nat.le_trans (hmember _ _ _ _ _ hacc)
            (Nat.le_trans (readString_length_le hname) (Nat.le_of_lt (nextName_length_lt (.inl hnext)))))

/-- A value takes a character at least. -/
theorem readValue_length_lt {levels : Nat} {cs rest : List Char} {v : Json}
    (h : readValue levels cs = .ok (v, rest)) : rest.length < cs.length := by
  rw [readValue.eq_def] at h
  dsimp only at h
  split at h
  · cases h
  next c after hcs =>
    have hlt := length_lt_of_skipBlank hcs
    have hword {word : List Char} {w : Json} (h : (do return (w, ← readWord word after)) = Except.ok (v, rest)) :
        rest.length < cs.length := by
      obtain ⟨rest, h, hrest⟩ := bind_eq_ok.mp h
      cases hrest
      exact Nat.lt_of_le_of_lt (readWord_length_le h) hlt
    split at h
    · exact hword h
    · exact hword h
    · exact hword h
    · obtain ⟨⟨s, _⟩, hstring, hrest⟩ := bind_eq_ok.mp h
      cases hrest
      exact Nat.lt_of_le_of_lt (readString_length_le hstring) hlt
    · exact Nat.lt_trans (readUnsigned_length_lt h) hlt
    · cases levels with
      | zero => cases h
      | succ levels =>
          obtain ⟨⟨items, _⟩, hitems, hrest⟩ := bind_eq_ok.mp h
          cases hrest
          exact Nat.lt_of_le_of_lt
            (readItems_length_le (fun _ _ _ hitem => Nat.le_of_lt (readValue_length_lt hitem)) hitems) hlt
    · cases levels with
      | zero => cases h
      | succ levels =>
          obtain ⟨⟨members, _⟩, hmembers, hrest⟩ := bind_eq_ok.mp h
          cases hrest
          refine Nat.lt_of_le_of_lt (readMembers_length_le (fun name acc cs acc' rest hmember => ?_) hmembers) hlt
          obtain ⟨after, hcolon, hmember⟩ := bind_eq_ok.mp hmember
          obtain ⟨⟨w, _⟩, hvalue, hrest⟩ := bind_eq_ok.mp hmember
          cases hrest
          exact Nat.le_of_lt (Nat.lt_trans (readValue_length_lt hvalue) (readColon_length_lt hcolon))
    · split at h
      · have hlt' := readUnsigned_length_lt h
        simp only [List.length_cons] at hlt'
        omega
      · cases h

end ModalLexer.Json
