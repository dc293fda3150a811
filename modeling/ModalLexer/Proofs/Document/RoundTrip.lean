import Mathlib.Data.List.Nodup
import ModalLexer.Document.Build
import ModalLexer.Proofs.Document.Json
import ModalLexer.Text.Offset

/-!
A document survives being written: its text is read back to the same document. Every part is first shown to be
what its own value stands for, and no other form of the part; the readers that check a document as they go then
find these values one after the other.
-/

namespace ModalLexer.Document

open Json (Ends Fits Gathers)

/-! ## Named fields -/

/-- The fields that are set, as members of an object. -/
def setFields (fields : List (String × Option Json)) : List (String × Json) :=
  fields.flatMap fun f => (f.2.map (Prod.mk f.1)).toList

theorem mem_setFields {fields : List (String × Option Json)} {m : String × Json} :
    m ∈ setFields fields ↔ (m.1, some m.2) ∈ fields := by
  simp only [setFields, List.mem_flatMap, Option.mem_toList, Option.map_eq_some_iff]
  constructor
  · rintro ⟨⟨_, _⟩, hf, v, rfl, rfl⟩; exact hf
  · intro h; exact ⟨_, h, m.2, rfl, rfl⟩

theorem filter_setFields {fields : List (String × Option Json)} (hn : (fields.map (·.1)).Nodup)
    {name : String} {value : Option Json} (hf : (name, value) ∈ fields) :
    (setFields fields).filter (·.1 == name) = (value.map (Prod.mk name)).toList := by
  induction fields with
  | nil => cases hf
  | cons f fields ih =>
      obtain ⟨hfresh, hn⟩ := List.nodup_cons.mp hn
      rw [setFields, List.flatMap_cons, List.filter_append]
      rcases List.mem_cons.mp hf with rfl | hf
      · have hrest : (setFields fields).filter (·.1 == name) = [] := by
          rw [List.filter_eq_nil_iff]
          intro m hm hname
          obtain rfl := eq_of_beq hname
          exact hfresh (List.mem_map_of_mem (f := (·.1)) (mem_setFields.mp hm))
        rw [← setFields, hrest, List.append_nil]
        cases value <;> simp
      · have hne : f.1 ≠ name := by
          rintro rfl
          exact hfresh (List.mem_map_of_mem (f := (·.1)) hf)
        have hhead : ((f.2.map (Prod.mk f.1)).toList).filter (·.1 == name) = [] := by
          cases f.2 <;> simp [hne]
        rw [hhead, List.nil_append]
        exact ih hn hf

theorem mapM_map_eq_some {α β γ : Type} {f : β → Option γ} {g : α → β} {k : α → γ} {as : List α}
    (h : ∀ a ∈ as, f (g a) = some (k a)) : (as.map g).mapM f = some (as.map k) := by
  induction as with
  | nil => rfl
  | cons a as ih =>
      obtain ⟨ha, has⟩ := List.forall_mem_cons.mp h
      rw [List.map_cons, List.mapM_cons, ha, ih has]
      rfl

/-- The values of fields are found again, those that are not set as well. -/
theorem fields?_setFields {fields : List (String × Option Json)} (hn : (fields.map (·.1)).Nodup) :
    fields? (fields.map (·.1)) (.object (setFields fields)) = some (fields.map (·.2)) := by
  have hall : ((setFields fields).all fun m => (fields.map (·.1)).contains m.1) = true := by
    rw [List.all_eq_true]
    intro m hm
    exact List.contains_iff_mem.mpr (List.mem_map_of_mem (f := (·.1)) (mem_setFields.mp hm))
  rw [fields?, if_pos hall]
  refine mapM_map_eq_some fun f hf => ?_
  rw [onlyMember?, filter_setFields hn hf]
  cases f.2 <;> rfl

theorem optional?_map {read : Json → Option α} {toJson : α → Json}
    (h : ∀ a, optional? read (some (toJson a)) = some (some a)) (o : Option α) :
    optional? read (o.map toJson) = some o := by
  cases o with
  | none => rfl
  | some a => exact h a

/-! ## Parts -/

theorem Push.ofJson?_toJson (p : Push) : Push.ofJson? p.toJson = some p := by
  cases p with
  | one s => rfl
  | many ss =>
      have hread : (ss.map Json.string).mapM text? = some (ss.map id) := mapM_map_eq_some fun _ _ => rfl
      rw [List.map_id] at hread
      simp [Push.toJson, Push.ofJson?, hread]

theorem Push.optional?_toJson (p : Push) : optional? Push.ofJson? (some p.toJson) = some (some p) := by
  cases p with
  | one s => rfl
  | many ss =>
      have hread := Push.ofJson?_toJson (.many ss)
      simp only [Push.toJson] at hread
      simp [Push.toJson, optional?, hread]

/-- The fields of a move. -/
def Move.fields (m : Move) : List (String × Option Json) :=
  [("push", m.push.map Push.toJson), ("pop", m.pop.map .natural), ("goto", m.goto.map .string)]

theorem Move.members_eq (m : Move) : m.members = setFields m.fields := by
  simp [Move.members, Move.fields, setFields, Function.comp_def]

theorem Move.ofFields?_fields (m : Move) : Move.ofFields? (m.fields.map (·.2)) = some m := by
  have hpop : optional? natural? (m.pop.map .natural) = some m.pop := optional?_map (fun _ => rfl) _
  have hgoto : optional? text? (m.goto.map .string) = some m.goto := optional?_map (fun _ => rfl) _
  simp [Move.fields, Move.ofFields?, optional?_map Push.optional?_toJson, hpop, hgoto]

theorem Move.ofJson?_members (m : Move) : Move.ofJson? (.object m.members) = some m := by
  have hdistinct : (m.fields.map (·.1)).Nodup := by simp [Move.fields]
  rw [Move.members_eq]
  exact Option.bind_eq_some_iff.mpr ⟨_, fields?_setFields hdistinct, m.ofFields?_fields⟩

theorem Rule.groups?_toJson (gs : List (Option Group)) : Rule.groups? (Rule.groupsToJson gs) = some gs := by
  have hread : (gs.map fun g => (g.map Group.toJson).getD .null).mapM
      (fun v => optional? Group.ofJson? (some v)) = some (gs.map id) := by
    refine mapM_map_eq_some fun g _ => ?_
    cases g with
    | none => rfl
    | some g => cases g <;> rfl
  rw [List.map_id] at hread
  exact hread

/-- The fields of a rule. -/
def Rule.fields (r : Rule) : List (String × Option Json) :=
  ("pattern", some (.string r.pattern)) :: ("token", r.token.map fun k => .string k.path) ::
    ("groups", r.groups.map Rule.groupsToJson) :: r.move.fields

theorem Rule.toJson_eq (r : Rule) : r.toJson = .object (setFields r.fields) := by
  simp [Rule.toJson, Rule.fields, setFields, Move.members_eq, Function.comp_def]

theorem Rule.ofJson?_toJson (r : Rule) : Rule.ofJson? r.toJson = some r := by
  have hdistinct : (r.fields.map (·.1)).Nodup := by simp [Rule.fields, Move.fields]
  have hgroups : optional? Rule.groups? (r.groups.map Rule.groupsToJson) = some r.groups :=
    optional?_map (fun gs => by
      have := Rule.groups?_toJson gs
      simp only [Rule.groupsToJson] at this ⊢
      simp [optional?, this]) _
  have htoken : optional? Rule.kind? (r.token.map fun k => .string k.path) = some r.token :=
    optional?_map (fun _ => rfl) _
  rw [Rule.toJson_eq]
  refine Option.bind_eq_some_iff.mpr ⟨_, fields?_setFields hdistinct, ?_⟩
  have hmove := r.move.ofFields?_fields
  simp [Rule.fields, htoken, hgroups, hmove, text?]

theorem Entry.ofJson?_toJson (e : Entry) : Entry.ofJson? e.toJson = some e := by
  cases e with
  | «include» s => rfl
  | default m =>
      have hmove := m.ofJson?_members
      have hinclude : Entry.include? (Entry.default m).toJson = none := rfl
      have hdefault : Entry.default? (Entry.default m).toJson = some (.default m) := by
        simp [Entry.default?, Entry.toJson, fields?, onlyMember?, hmove]
      simp [Entry.ofJson?, hinclude, hdefault]
  | rule r =>
      have hinclude : Entry.include? (Entry.rule r).toJson = none := rfl
      have hdefault : Entry.default? (Entry.rule r).toJson = none := rfl
      have hrule : Rule.ofJson? (Entry.rule r).toJson = some r := r.ofJson?_toJson
      simp [Entry.ofJson?, hinclude, hdefault, hrule]

/-! ## Numbers and levels -/

/-- The numbers that an entry holds. -/
def Entry.numbers : Entry → List Nat
  | .include _ => []
  | .default m => m.pop.toList
  | .rule r => r.move.pop.toList

/-- The numbers that a document holds. -/
def numbers (d : Document) : List Nat :=
  d.maxZeroWidth.toList ++ d.maxNesting.toList ++ d.states.flatMap fun s => s.2.flatMap Entry.numbers

section

variable {levels : Nat}

theorem fits_setFields {fields : List (String × Option Json)} (h : ∀ f ∈ fields, ∀ v ∈ f.2, v.Fits levels) :
    (Json.object (setFields fields)).Fits (levels + 1) := by
  intro m hm
  exact h _ (mem_setFields.mp hm) m.2 rfl

theorem fits_string (s : String) : (Json.string s).Fits levels := by
  cases levels <;> trivial

theorem Push.toJson_fits (p : Push) : p.toJson.Fits (levels + 1) := by
  cases p with
  | one s => exact fits_string s
  | many ss =>
      intro v hv
      obtain ⟨s, _, rfl⟩ := List.mem_map.mp hv
      exact fits_string s

theorem Move.fields_fit {m : Move} (hn : ∀ n ∈ m.pop, n < Text.offsetLimit) :
    ∀ f ∈ m.fields, ∀ v ∈ f.2, v.Fits (levels + 1) := by
  simp only [Move.fields, List.forall_mem_cons, Option.mem_def, Option.map_eq_some_iff]
  refine ⟨?_, ?_, ?_, by simp⟩
  · rintro v ⟨p, _, rfl⟩; exact p.toJson_fits
  · rintro v ⟨n, hpop, rfl⟩; exact hn n hpop
  · rintro v ⟨s, _, rfl⟩; exact fits_string s

theorem Rule.groupsToJson_fits (gs : List (Option Group)) : (Rule.groupsToJson gs).Fits (levels + 2) := by
  intro v hv
  obtain ⟨g, _, rfl⟩ := List.mem_map.mp hv
  cases g with
  | none => trivial
  | some g =>
      cases g with
      | kind k => trivial
      | lex s =>
          intro m hm
          cases List.mem_singleton.mp hm
          exact fits_string s

/-- Three levels are enough for an entry: an object, a list of groups and a group. -/
theorem Entry.toJson_fits {e : Entry} (hn : ∀ n ∈ e.numbers, n < Text.offsetLimit) :
    e.toJson.Fits (levels + 3) := by
  cases e with
  | «include» s =>
      intro m hm
      cases List.mem_singleton.mp hm
      exact fits_string s
  | default m =>
      intro member hm
      cases List.mem_singleton.mp hm
      simp only [m.members_eq]
      exact fits_setFields (Move.fields_fit fun n h => hn n (Option.mem_toList.mpr h))
  | rule r =>
      rw [Entry.toJson, Rule.toJson_eq]
      refine fits_setFields ?_
      simp only [Rule.fields, List.forall_mem_cons, Option.mem_def, Option.map_eq_some_iff]
      refine ⟨?_, ?_, ?_, Move.fields_fit fun n h => hn n (Option.mem_toList.mpr h)⟩
      · rintro v ⟨⟩; exact fits_string _
      · rintro v ⟨k, _, rfl⟩; exact fits_string _
      · rintro v ⟨gs, _, rfl⟩; exact Rule.groupsToJson_fits gs

end

/-! ## States -/

section

variable {levels : Nat}

theorem readEntry_write {e : Entry} (hn : ∀ n ∈ e.numbers, n < Text.offsetLimit) {rest : List Char}
    (hrest : Ends rest) : readEntry (levels + 3) (e.toJson.write ++ rest) = .ok (e, rest) := by
  simp [readEntry, Json.readValue_write (Entry.toJson_fits hn) hrest, e.ofJson?_toJson, bind, Except.bind, pure,
    Except.pure]

theorem readEntries_write {es : List Entry} (hn : ∀ e ∈ es, ∀ n ∈ e.numbers, n < Text.offsetLimit)
    (rest : List Char) : readEntries (levels + 4) ((entriesToJson es).write ++ rest) = .ok (es, rest) := by
  have hitem : ∀ e ∈ es, ∀ rest, Ends rest → readEntry (levels + 3) (e.toJson.write ++ rest) = .ok (e, rest) :=
    fun e he _ hend => readEntry_write (hn e he) hend
  have hread := Json.readItems_write Entry.toJson hitem rest
  have hbracket : Json.isBlank '[' = false := rfl
  simp only [entriesToJson, Json.write, List.cons_append, List.append_assoc, List.nil_append, readEntries,
    Json.skipBlank_cons hbracket]
  exact hread

theorem readStates_write {states : List (String × List Entry)}
    (hn : ∀ s ∈ states, ∀ e ∈ s.2, ∀ n ∈ e.numbers, n < Text.offsetLimit) (rest : List Char) :
    readStates (levels + 5) ((statesToJson states).write ++ rest) = .ok (states, rest) := by
  have hvalue : ∀ s ∈ states, ∀ rest, Ends rest →
      readEntries (levels + 4) ((entriesToJson s.2).write ++ rest) = .ok (s.2, rest) :=
    fun s hs rest _ => readEntries_write (hn s hs) rest
  have hread := Json.readMembers_write (Json.gathers_collect entriesToJson hvalue []) rest
  have hbrace : Json.isBlank '{' = false := rfl
  simp only [statesToJson, Json.write, List.cons_append, List.append_assoc, List.nil_append, readStates,
    Json.skipBlank_cons hbrace]
  refine bind_eq_ok.mpr ⟨_, hread, ?_⟩
  simp [pure, Except.pure]

end

/-! ## Fields -/

theorem readText_write (s : String) (rest : List Char) : readText ((Json.string s).write ++ rest) = .ok (s, rest) := by
  have hquote : Json.isBlank '"' = false := rfl
  rw [Json.write, Json.writeString_append, readText]
  simp only [Json.skipBlank_cons hquote]
  exact Json.readString_flatMap s rest

theorem readBool_write (b : Bool) (rest : List Char) : readBool ((Json.bool b).write ++ rest) = .ok (b, rest) := by
  cases b with
  | false => rfl
  | true => rfl

theorem readLimit_write {n : Nat} (hn : n < Text.offsetLimit) {rest : List Char} (hrest : Ends rest) :
    readLimit ((Json.natural n).write ++ rest) = .ok (some n, rest) := by
  have hread : Json.readValue 0 ((Json.natural n).write ++ rest) = .ok (.natural n, rest) :=
    Json.readValue_natural hn hrest
  obtain ⟨c, cs, hcs⟩ := List.exists_cons_of_ne_nil (Nat.toDigits_ne_nil (b := 10) (n := n))
  have hc : c.isDigit = true := Json.isDigit_of_mem_toDigits (n := n) c (by simp [hcs])
  rw [Json.write, hcs, List.cons_append] at hread ⊢
  rw [readLimit, Json.skipBlank_cons (Json.isBlank_of_isDigit hc)]
  split
  · rename_i heq; cases heq; cases hc
  · rw [hread]; rfl

theorem Field.ofName?_name (f : Field) : Field.ofName? f.name = some f := by
  cases f with
  | root | multiLine | resetOnNewline | maxZeroWidth | maxNesting | states => rfl

/-- A member whose name is that of a field is read as the field, unless it was read before. -/
theorem gathers_field {f : Field} {v : Json} {d d' : Draft} (hfresh : f ∉ d.seen)
    (hread : ∀ rest, Ends rest → readField f d (v.write ++ rest) = .ok (d', rest)) :
    Gathers readMember d [(f.name, v)] d' := by
  refine .cons (fun rest hrest => ?_) .nil
  have hseen : d.seen.contains f = false := by simpa using hfresh
  simp only [readMember, f.ofName?_name, hseen, Bool.false_eq_true, ↓reduceIte, List.cons_append,
    Json.readColon_cons]
  exact hread rest hrest

section

variable (d : Draft)

theorem gathers_root (root : String) (hfresh : .root ∉ d.seen) :
    Gathers readMember d [("root", .string root)] ⟨.root :: d.seen, { d.document with root }⟩ :=
  gathers_field (f := .root) hfresh fun rest _ => by simp only [readField, readText_write]; rfl

theorem gathers_multiLine (multiLine : Bool) (hfresh : .multiLine ∉ d.seen) :
    Gathers readMember d [("multi_line", .bool multiLine)] ⟨.multiLine :: d.seen, { d.document with multiLine }⟩ :=
  gathers_field (f := .multiLine) hfresh fun rest _ => by simp only [readField, readBool_write]; rfl

theorem gathers_resetOnNewline (resetOnNewline : Bool) (hfresh : .resetOnNewline ∉ d.seen) :
    Gathers readMember d [("reset_on_newline", .bool resetOnNewline)]
      ⟨.resetOnNewline :: d.seen, { d.document with resetOnNewline }⟩ :=
  gathers_field (f := .resetOnNewline) hfresh fun rest _ => by simp only [readField, readBool_write]; rfl

/-- A limit that is left out stays unset. -/
theorem gathers_maxZeroWidth {maxZeroWidth : Option Nat} (hn : ∀ n ∈ maxZeroWidth, n < Text.offsetLimit)
    (hfresh : .maxZeroWidth ∉ d.seen) (hunset : d.document.maxZeroWidth = none) :
    Gathers readMember d (maxZeroWidth.map fun n => ("max_zero_width_steps", .natural n)).toList
      ⟨(maxZeroWidth.map fun _ => .maxZeroWidth).toList ++ d.seen, { d.document with maxZeroWidth }⟩ := by
  cases maxZeroWidth with
  | none =>
      obtain ⟨seen, document⟩ := d
      cases document
      cases hunset
      exact .nil
  | some n =>
      refine gathers_field (f := .maxZeroWidth) hfresh fun rest hrest => ?_
      simp only [readField, readLimit_write (hn n rfl) hrest]
      rfl

theorem gathers_maxNesting {maxNesting : Option Nat} (hn : ∀ n ∈ maxNesting, n < Text.offsetLimit)
    (hfresh : .maxNesting ∉ d.seen) (hunset : d.document.maxNesting = none) :
    Gathers readMember d (maxNesting.map fun n => ("max_nesting", .natural n)).toList
      ⟨(maxNesting.map fun _ => .maxNesting).toList ++ d.seen, { d.document with maxNesting }⟩ := by
  cases maxNesting with
  | none =>
      obtain ⟨seen, document⟩ := d
      cases document
      cases hunset
      exact .nil
  | some n =>
      refine gathers_field (f := .maxNesting) hfresh fun rest hrest => ?_
      simp only [readField, readLimit_write (hn n rfl) hrest]
      rfl

theorem gathers_states {states : List (String × List Entry)}
    (hn : ∀ s ∈ states, ∀ e ∈ s.2, ∀ n ∈ e.numbers, n < Text.offsetLimit) (hfresh : .states ∉ d.seen) :
    Gathers readMember d [("states", statesToJson states)] ⟨.states :: d.seen, { d.document with states }⟩ :=
  gathers_field (f := .states) hfresh fun rest _ => by
    have hread : readStates 126 ((statesToJson states).write ++ rest) = .ok (states, rest) := readStates_write hn rest
    simp only [readField, Json.maxLevels, hread]
    rfl

end

/-! ## Documents -/

/-- The members of a document fill a draft of it, one field after the other. -/
theorem gathers_document {d : Document} (hn : ∀ n ∈ d.numbers, n < Text.offsetLimit) :
    ∃ members draft, d.toJson = .object members ∧ Gathers readMember {} members draft ∧ draft.finish = .ok d := by
  have hzeroWidth : ∀ n ∈ d.maxZeroWidth, n < Text.offsetLimit :=
    fun n h => hn n (by simp [numbers, Option.mem_def.mp h])
  have hnesting : ∀ n ∈ d.maxNesting, n < Text.offsetLimit :=
    fun n h => hn n (by simp [numbers, Option.mem_def.mp h])
  have hentries : ∀ s ∈ d.states, ∀ e ∈ s.2, ∀ n ∈ e.numbers, n < Text.offsetLimit := fun s hs e he n hmem =>
    hn n (List.mem_append_right _ (List.mem_flatMap.mpr ⟨s, hs, List.mem_flatMap.mpr ⟨e, he, hmem⟩⟩))
  have hflags := ((gathers_root {} d.root (by simp)).append (gathers_multiLine _ d.multiLine (by simp))).append
    (gathers_resetOnNewline _ d.resetOnNewline (by simp))
  have hall := ((hflags.append (gathers_maxZeroWidth _ hzeroWidth (by simp) rfl)).append
    (gathers_maxNesting _ hnesting (by simp) rfl)).append (gathers_states _ hentries (by simp))
  exact ⟨_, _, rfl, hall, by simp [Draft.finish]⟩

/-- The text of a document is read back to that document: nothing is lost or put elsewhere, and no part is taken
for another form of it. This is so for all documents whose numbers have 64 bits. -/
theorem load_render (d : Document) (hn : ∀ n ∈ d.numbers, n < Text.offsetLimit) : load d.render = .ok d := by
  obtain ⟨members, draft, hjson, hgathers, hfinish⟩ := gathers_document hn
  have hbrace : Json.isBlank '{' = false := rfl
  have hwrite : d.toJson.write = '{' :: (Json.writeMembers members ++ ['}']) := by
    rw [hjson, Json.write, List.cons_append]
  have hread : readDocument d.toJson.write = .ok (d, []) := by
    rw [hwrite, readDocument, Json.skipBlank_cons hbrace]
    simp only [Json.readMembers_write hgathers [], hfinish, bind, Except.bind, pure, Except.pure]
  have hparse : parse d.render = .ok d := by
    rw [parse, readWhole, render, Json.render, String.toList_ofList, hread]
    rfl
  rw [load, hparse]
  rfl

/-- All forms of entries, groups and pushes, a name that is declared twice, characters that have to be escaped, and
the greatest number. -/
def motley : Document where
  root := "ré\"\\\n\x01\x1f/😀"
  resetOnNewline := false
  maxZeroWidth := some 0
  maxNesting := some 0xFFFFFFFFFFFFFFFF
  states := [
    ("twice", [
      .include "", .default {}, .default { push := some (.many []), pop := some 0xFFFFFFFFFFFFFFFF },
      .rule { pattern := "", groups := some [] }]),
    ("twice", [
      .rule {
        pattern := "(\\d)", token := some ⟨"Text"⟩, groups := some [none, some (.kind ⟨"null"⟩), some (.lex "lex")]
        move := { push := some (.one "#push"), pop := some 0, goto := some "twice" } },
      .default { push := some (.many ["a", "b"]) }]),
    ("", [])]

theorem load_render_motley : (∀ n ∈ motley.numbers, n < Text.offsetLimit) ∧ load motley.render = .ok motley :=
  have hn : ∀ n ∈ motley.numbers, n < Text.offsetLimit := by decide
  ⟨hn, load_render motley hn⟩

end ModalLexer.Document
