import ModalLexer.Document.Build
import ModalLexer.Document.Value
import ModalLexer.Proofs.Document.Forms
import ModalLexer.Proofs.Document.Readers

/-!
The value of a text and its document. The reader of documents takes each part as it comes to it; here it is shown to
agree with reading the whole text as a value first and taking that value for a document.
-/

namespace ModalLexer

namespace Document

open Json (skipBlank readWord readValue readItems nextItem Takes Puts WrittenAt readValue_eq_ok_iff
  readValue_array_iff readValue_object_iff readValue_skipBlank eq_null_of_readValue readItems_succ_iff
  nextItem_eq_close_iff nextItem_length_le readValue_length_lt)

variable {levels : Nat}

/-! ## Parts -/

theorem bool?_eq_some_iff {v : Json} {b : Bool} : bool? v = some b ↔ v = .bool b := by
  cases v <;> simp [bool?]

theorem takes_readText : Takes readText levels text? := by
  intro cs s rest
  simp only [text?_eq_some_iff, exists_eq_right]
  rw [readValue_eq_ok_iff, WrittenAt, readText]
  split
  next after hcs => simp [hcs]
  next hcs => simpa using fun after h => absurd h (hcs after)

theorem takes_readBool : Takes readBool levels bool? := by
  intro cs b rest
  simp only [bool?_eq_some_iff, exists_eq_right]
  rw [readValue_eq_ok_iff, readBool]
  split
  next after hcs => cases b <;> simp [hcs, WrittenAt, bind_eq_ok, pure, Except.pure]
  next after hcs => cases b <;> simp [hcs, WrittenAt, bind_eq_ok, pure, Except.pure]
  next htrue hfalse =>
    cases b with
    | true => simpa [WrittenAt] using fun after h => absurd h (htrue after)
    | false => simpa [WrittenAt] using fun after h => absurd h (hfalse after)

theorem takes_readLimit : Takes readLimit levels limit? := by
  intro cs n rest
  have hlimit {v : Json} : limit? v = some n ↔ n = none ∧ v = .null ∨ ∃ m, n = some m ∧ v = .natural m := by
    cases v <;> simp [limit?, optional?, natural?, eq_comm]
  have hnull : readValue levels cs = .ok (.null, rest) ↔
      ∃ after, skipBlank cs = 'n' :: after ∧ readWord ['u', 'l', 'l'] after = .ok rest := readValue_eq_ok_iff
  have hnatural {m : Nat} : readValue levels cs = .ok (.natural m, rest) ↔ readValue 0 cs = .ok (.natural m, rest) :=
    readValue_eq_ok_iff
  rw [readLimit]
  split
  next after hcs =>
    constructor
    · intro h
      obtain ⟨_, hword, hn⟩ := bind_eq_ok.mp h
      cases hn
      exact ⟨.null, hnull.mpr ⟨after, hcs, hword⟩, hlimit.mpr (.inl ⟨rfl, rfl⟩)⟩
    · rintro ⟨v, hv, hn⟩
      obtain ⟨rfl, rfl⟩ | ⟨m, rfl, rfl⟩ := hlimit.mp hn
      · obtain ⟨after', hcs', hword⟩ := hnull.mp hv
        obtain rfl := (List.cons.inj (hcs.symm.trans hcs')).2
        exact bind_eq_ok.mpr ⟨_, hword, rfl⟩
      · cases eq_null_of_readValue hcs hv
  next hcs =>
    rw [readValue_skipBlank]
    constructor
    · intro h
      obtain ⟨⟨v, rest'⟩, hv, hn⟩ := bind_eq_ok.mp h
      have hv := mapError_eq_ok.mp hv
      cases v with
      | natural m => cases hn; exact ⟨.natural m, hnatural.mpr hv, rfl⟩
      | null | bool | otherNumber | string | array | object => cases hn
    · rintro ⟨v, hv, hn⟩
      obtain ⟨rfl, rfl⟩ | ⟨m, rfl, rfl⟩ := hlimit.mp hn
      · obtain ⟨after, hcs', _⟩ := hnull.mp hv
        exact absurd hcs' (hcs after)
      · exact bind_eq_ok.mpr ⟨_, mapError_eq_ok.mpr (hnatural.mp hv), rfl⟩

theorem takes_readEntry : Takes (readEntry levels) levels Entry.ofJson? := by
  intro cs e rest
  constructor
  · intro h
    obtain ⟨⟨v, rest'⟩, hv, hentry⟩ := bind_eq_ok.mp h
    cases he : Entry.ofJson? v with
    | none => simp [he] at hentry
    | some e' =>
        simp only [he] at hentry
        cases hentry
        exact ⟨v, hv, he⟩
  · rintro ⟨v, hv, he⟩
    exact bind_eq_ok.mpr ⟨_, hv, by simp only [he]; rfl⟩

theorem takes_readEntries : Takes (readEntries levels) levels entries? := by
  intro cs es rest
  have hentries {v : Json} : entries? v = some es ↔ ∃ items, v = .array items ∧ items.mapM Entry.ofJson? = some es := by
    cases v <;> simp [entries?]
  constructor
  · intro h
    rw [readEntries] at h
    split at h
    next after hcs =>
      cases levels with
      | zero => cases h
      | succ inner =>
          obtain ⟨items, hitems, hes⟩ := takes_readEntry.items.mp h
          exact ⟨_, readValue_array_iff.mpr ⟨inner, after, rfl, hcs, hitems⟩, hentries.mpr ⟨items, rfl, hes⟩⟩
    next => cases h
  · rintro ⟨v, hv, hes⟩
    obtain ⟨items, rfl, hes⟩ := hentries.mp hes
    obtain ⟨inner, after, rfl, hcs, hitems⟩ := readValue_array_iff.mp hv
    rw [readEntries, hcs]
    exact takes_readEntry.items.mpr ⟨items, hitems, hes⟩

theorem takes_readStates : Takes (readStates levels) levels states? := by
  intro cs states rest
  have hstates {v : Json} : states? v = some states ↔
      ∃ members, v = .object members ∧ members.mapM state? = some states := by
    cases v <;> simp [states?]
  constructor
  · intro h
    rw [readStates] at h
    split at h
    next after hcs =>
      cases levels with
      | zero => cases h
      | succ inner =>
          obtain ⟨⟨acc, _⟩, hacc, hresult⟩ := bind_eq_ok.mp h
          cases hresult
          obtain ⟨members, hmembers, hmap⟩ := takes_readEntries.members.mp (List.reverse_reverse acc ▸ hacc)
          exact ⟨_, readValue_object_iff.mpr ⟨inner, after, rfl, hcs, hmembers⟩, hstates.mpr ⟨members, rfl, hmap⟩⟩
    next => cases h
  · rintro ⟨v, hv, hmap⟩
    obtain ⟨members, rfl, hmap⟩ := hstates.mp hmap
    obtain ⟨inner, after, rfl, hcs, hmembers⟩ := readValue_object_iff.mp hv
    rw [readStates, hcs]
    refine bind_eq_ok.mpr ⟨_, takes_readEntries.members.mpr ⟨members, hmembers, hmap⟩, ?_⟩
    dsimp only
    rw [List.reverse_reverse]
    rfl

/-! ## Documents -/

theorem takes_readField (f : Field) (d : Draft) : Takes (readField f d) (Json.maxLevels - 1) (d.set? f) := by
  have hput {α : Type} {read : List Char → Except ReadFault (α × List Char)} {take : Json → Option α}
      (htakes : Takes read (Json.maxLevels - 1) take) (put : α → Document) :
      Takes (fun cs => do let p ← read cs; return (⟨f :: d.seen, put p.1⟩, p.2)) (Json.maxLevels - 1)
        fun v => (take v).map fun a => (⟨f :: d.seen, put a⟩ : Draft) := by
    intro cs d' rest
    constructor
    · intro h
      obtain ⟨⟨a, _⟩, ha, h⟩ := bind_eq_ok.mp h
      cases h
      obtain ⟨v, hv, htake⟩ := (htakes _ _ _).mp ha
      exact ⟨v, hv, by simp [htake]⟩
    · rintro ⟨v, hv, hmap⟩
      obtain ⟨a, htake, rfl⟩ := Option.map_eq_some_iff.mp hmap
      exact bind_eq_ok.mpr ⟨_, (htakes _ _ _).mpr ⟨v, hv, htake⟩, rfl⟩
  cases f with
  | root => exact hput takes_readText fun root => { d.document with root }
  | multiLine => exact hput takes_readBool fun multiLine => { d.document with multiLine }
  | resetOnNewline => exact hput takes_readBool fun resetOnNewline => { d.document with resetOnNewline }
  | maxZeroWidth => exact hput takes_readLimit fun maxZeroWidth => { d.document with maxZeroWidth }
  | maxNesting => exact hput takes_readLimit fun maxNesting => { d.document with maxNesting }
  | states => exact hput takes_readStates fun states => { d.document with states }

theorem puts_readMember : Puts readMember (readValue (Json.maxLevels - 1)) Draft.setMember? := by
  intro name d cs d' rest
  simp only [readMember, Draft.setMember?]
  cases hname : Field.ofName? name with
  | none => simp
  | some f =>
      dsimp only [Option.bind_some]
      split
      next => simp
      next =>
        constructor
        · intro h
          obtain ⟨start, hcolon, h⟩ := bind_eq_ok.mp h
          obtain ⟨v, hv, hset⟩ := (takes_readField f d _ _ _).mp h
          exact ⟨start, v, hcolon, hv, hset⟩
        · rintro ⟨start, v, hcolon, hv, hset⟩
          exact bind_eq_ok.mpr ⟨start, hcolon, (takes_readField f d _ _ _).mpr ⟨v, hv, hset⟩⟩

/-- The closing bracket is the same for one that reads fields and for one that reads items. -/
theorem readClosing_eq_ok_iff (first : Bool) {cs rest : List Char} :
    readClosing cs = .ok rest ↔ nextItem first cs = .ok (.close rest) := by
  rw [nextItem_eq_close_iff]
  unfold readClosing
  split
  next hcs => simp [hcs]
  next hcs => simp [hcs]
  next hcs => simpa using hcs rest

/-- Fields that are read in order, up to the closing bracket. -/
def readOrdered (fs : List Field) (first : Bool) (d : Draft) (cs : List Char) :
    Except ReadFault (Draft × List Char) := do
  let (d, rest) ← readInOrder fs first d cs
  return (d, ← readClosing rest)

theorem readOrdered_iff {fs : List Field} {first : Bool} {d d' : Draft} {cs rest : List Char} {fuel : Nat}
    (hfuel : cs.length < fuel) : readOrdered fs first d cs = .ok (d', rest) ↔
      ∃ vs, readItems (readValue (Json.maxLevels - 1)) fuel first cs = .ok (vs, rest) ∧
        d.setInOrder? fs vs = some d' := by
  induction fs generalizing first d cs fuel with
  | nil =>
      have hnone : readOrdered [] first d cs = (do return (d, ← readClosing cs)) := rfl
      rw [hnone]
      obtain ⟨fuel, rfl⟩ := Nat.exists_eq_succ_of_ne_zero (Nat.ne_zero_of_lt hfuel)
      constructor
      · intro h
        obtain ⟨_, hclosing, hd⟩ := bind_eq_ok.mp h
        cases hd
        exact ⟨[], readItems_succ_iff.mpr (.inl ⟨rfl, (readClosing_eq_ok_iff first).mp hclosing⟩), rfl⟩
      · rintro ⟨vs, hvs, hset⟩
        cases vs with
        | nil =>
            cases hset
            obtain ⟨_, hnext⟩ | ⟨_, _, _, _, hcons, _⟩ := readItems_succ_iff.mp hvs
            · exact bind_eq_ok.mpr ⟨_, (readClosing_eq_ok_iff first).mpr hnext, rfl⟩
            · cases hcons
        | cons v vs => cases hset
  | cons f fs ih =>
      obtain ⟨fuel, rfl⟩ := Nat.exists_eq_succ_of_ne_zero (Nat.ne_zero_of_lt hfuel)
      have hless {start stop : List Char} {v : Json} (hnext : nextItem first cs = .ok (.item start))
          (hv : readValue (Json.maxLevels - 1) start = .ok (v, stop)) : stop.length < fuel := by
        have hstart := (nextItem_length_le hnext).1
        have hstop := readValue_length_lt hv
        omega
      constructor
      · intro h
        obtain ⟨⟨d'', stop⟩, horder, hclosing⟩ := bind_eq_ok.mp h
        obtain ⟨next, hnext, horder⟩ := bind_eq_ok.mp horder
        cases next with
        | close _ =>
            cases horder
            obtain ⟨_, hclosing, hd⟩ := bind_eq_ok.mp hclosing
            cases hd
            exact ⟨[], readItems_succ_iff.mpr (.inl ⟨rfl, (readClosing_eq_ok_iff first).mp hclosing⟩), rfl⟩
        | item start =>
            obtain ⟨⟨d₁, stop₁⟩, hfield, horder⟩ := bind_eq_ok.mp horder
            obtain ⟨v, hv, hset⟩ := (takes_readField f d _ _ _).mp hfield
            obtain ⟨vs, hvs, hmore⟩ := (ih (hless hnext hv)).mp (bind_eq_ok.mpr ⟨_, horder, hclosing⟩)
            exact ⟨v :: vs, readItems_succ_iff.mpr (.inr ⟨v, vs, start, stop₁, rfl, hnext, hv, hvs⟩),
              Option.bind_eq_some_iff.mpr ⟨_, hset, hmore⟩⟩
      · rintro ⟨vs, hvs, hset⟩
        obtain ⟨rfl, hnext⟩ | ⟨v, vs', start, stop, rfl, hnext, hv, hvs⟩ := readItems_succ_iff.mp hvs
        · cases hset
          exact bind_eq_ok.mpr ⟨(_, cs), bind_eq_ok.mpr ⟨_, hnext, rfl⟩,
            bind_eq_ok.mpr ⟨_, (readClosing_eq_ok_iff first).mpr hnext, rfl⟩⟩
        · obtain ⟨d₁, hset, hmore⟩ := Option.bind_eq_some_iff.mp hset
          have hrest := (ih (hless hnext hv)).mpr ⟨vs', hvs, hmore⟩
          obtain ⟨p, horder, hclosing⟩ := bind_eq_ok.mp hrest
          exact bind_eq_ok.mpr ⟨p, bind_eq_ok.mpr ⟨_, hnext,
            bind_eq_ok.mpr ⟨_, (takes_readField f d _ _ _).mpr ⟨v, hv, hset⟩, horder⟩⟩, hclosing⟩

theorem takes_readDocument : Takes readDocument Json.maxLevels ofJson? := by
  intro cs document rest
  have hfinish {o : Option Draft} : (o.bind fun d => d.finish.toOption) = some document ↔
      ∃ d, o = some d ∧ d.finish = .ok document := by
    simp only [Option.bind_eq_some_iff, toOption_eq_some]
  constructor
  · intro h
    rw [readDocument] at h
    split at h
    next after hcs =>
      obtain ⟨⟨d, _⟩, hmembers, h⟩ := bind_eq_ok.mp h
      obtain ⟨_, hd, hresult⟩ := bind_eq_ok.mp h
      cases hresult
      obtain ⟨members, hmembers, hfold⟩ := puts_readMember.members.mp hmembers
      exact ⟨_, readValue_object_iff.mpr ⟨_, after, rfl, hcs, hmembers⟩, hfinish.mpr ⟨d, hfold, hd⟩⟩
    next after hcs =>
      obtain ⟨⟨d, stop⟩, horder, h⟩ := bind_eq_ok.mp h
      obtain ⟨_, hd, h⟩ := bind_eq_ok.mp h
      obtain ⟨_, hclosing, hresult⟩ := bind_eq_ok.mp h
      cases hresult
      have hordered : readOrdered Field.all true {} after = .ok (d, rest) :=
        bind_eq_ok.mpr ⟨_, horder, bind_eq_ok.mpr ⟨_, hclosing, rfl⟩⟩
      obtain ⟨items, hitems, hset⟩ := (readOrdered_iff (Nat.lt_succ_self _)).mp hordered
      exact ⟨_, readValue_array_iff.mpr ⟨_, after, rfl, hcs, hitems⟩, hfinish.mpr ⟨d, hset, hd⟩⟩
    next => cases h
  · rintro ⟨v, hv, hdocument⟩
    cases v with
    | object members =>
        obtain ⟨inner, after, hinner, hcs, hmembers⟩ := readValue_object_iff.mp hv
        cases hinner
        obtain ⟨d, hfold, hd⟩ := hfinish.mp hdocument
        rw [readDocument, hcs]
        exact bind_eq_ok.mpr ⟨_, puts_readMember.members.mpr ⟨members, hmembers, hfold⟩,
          bind_eq_ok.mpr ⟨_, hd, rfl⟩⟩
    | array items =>
        obtain ⟨inner, after, hinner, hcs, hitems⟩ := readValue_array_iff.mp hv
        cases hinner
        obtain ⟨d, hset, hd⟩ := hfinish.mp hdocument
        have hordered := (readOrdered_iff (Nat.lt_succ_self _)).mpr ⟨items, hitems, hset⟩
        obtain ⟨p, horder, hclosing⟩ := bind_eq_ok.mp hordered
        obtain ⟨_, hclosing, hresult⟩ := bind_eq_ok.mp hclosing
        cases hresult
        rw [readDocument, hcs]
        exact bind_eq_ok.mpr ⟨_, horder, bind_eq_ok.mpr ⟨_, hd, bind_eq_ok.mpr ⟨_, hclosing, rfl⟩⟩⟩
    | null | bool | natural | otherNumber | string => cases hdocument

theorem readWhole_eq_ok_iff {α : Type} {read : List Char → Except ReadFault (α × List Char)} {text : String} {a : α} :
    readWhole read text = .ok a ↔ ∃ rest, read text.toList = .ok (a, rest) ∧ (skipBlank rest).isEmpty = true := by
  constructor
  · intro h
    obtain ⟨⟨a', rest⟩, ha, h⟩ := bind_eq_ok.mp h
    dsimp only at h
    split at h
    next hblank => cases h; exact ⟨rest, ha, hblank⟩
    next => cases h
  · rintro ⟨rest, ha, hblank⟩
    exact bind_eq_ok.mpr ⟨_, ha, if_pos hblank⟩

theorem readWhole_render {v : Json} (hv : v.Fits levels) : readWhole (readValue levels) v.render = .ok v := by
  have hends : Json.Ends [] := by simp [Json.Ends]
  have hread := Json.readValue_write hv hends
  rw [List.append_nil] at hread
  exact readWhole_eq_ok_iff.mpr ⟨[], by rwa [Json.render, String.toList_ofList], rfl⟩

/-- A text is read as a document exactly when the value of the text stands for that document. -/
theorem load_eq_ok_iff {text : String} {d : Document} :
    load text = .ok d ↔ ∃ v, readWhole (readValue Json.maxLevels) text = .ok v ∧ ofJson? v = some d := by
  rw [load, mapError_eq_ok, parse, readWhole_eq_ok_iff]
  simp only [takes_readDocument _ _ _, readWhole_eq_ok_iff]
  constructor
  · rintro ⟨rest, ⟨v, hv, hd⟩, hblank⟩
    exact ⟨v, ⟨rest, hv, hblank⟩, hd⟩
  · rintro ⟨v, ⟨rest, hv, hblank⟩, hd⟩
    exact ⟨rest, ⟨v, hv, hd⟩, hblank⟩

end Document

end ModalLexer
