import ModalLexer.Proofs.Scan.Choices
import ModalLexer.Proofs.Table.Expansion

/-!
An include is its rules written out. A declaration in which every include is replaced by the rules that it stands for
builds a table that scans alike, though a rule that was shared is now one rule for each state, with a memory of its
own, and errors name another place for it.
-/

namespace ModalLexer

/-- The error without the rule at fault. -/
def Error.unattributed (e : Error) : Error :=
  e.mapSite fun _ => ("", 0)

theorem exists_forall₂ {α β : Type} {r : α → β → Prop} {as : List α} (h : ∀ a ∈ as, ∃ b, r a b) :
    ∃ bs, List.Forall₂ r as bs := by
  induction as with
  | nil => exact ⟨[], .nil⟩
  | cons a as ih =>
      obtain ⟨hfirst, hrest⟩ := List.forall_mem_cons.mp h
      obtain ⟨b, hb⟩ := hfirst
      obtain ⟨bs, hbs⟩ := ih hrest
      exact ⟨b :: bs, .cons hb hbs⟩

namespace Declaration

/-- The same options and names, and in the place of the entries of each state the rules that they stand for. -/
structure Inlines (d d' : Declaration) : Prop where
  options : d'.options = d.options
  states : List.Forall₂ (fun s s' => s'.1 = s.1 ∧
    ∃ rs, d.Lists s.1 0 s.2 rs ∧ s'.2 = rs.map fun r => .rule r.rule) d.states d'.states

variable {d d' : Declaration} {t t' : Table}

theorem exists_inlines (h : d.build = .ok t) : ∃ d', d.Inlines d' := by
  have hlists : ∀ s ∈ d.states, ∃ s' : String × List Entry, s'.1 = s.1 ∧
      ∃ rs, d.Lists s.1 0 s.2 rs ∧ s'.2 = rs.map fun r => .rule r.rule := by
    intro s hs
    obtain ⟨i, hi⟩ := List.getElem?_of_mem hs
    obtain ⟨rs, hrs, _⟩ := build_stands h hi
    exact ⟨(s.1, rs.map fun r => .rule r.rule), rfl, rs, hrs, rfl⟩
  obtain ⟨states, hstates⟩ := exists_forall₂ hlists
  exact ⟨⟨d.options, states⟩, rfl, hstates⟩

/-- Entries that are rules stand for these rules. -/
theorem Lists.of_rules {state : String} {index : Nat} {rs rs' : List DeclaredRule}
    (h : d.Lists state index (rs.map fun r => .rule r.rule) rs') :
    List.Forall₂ (fun r r' => r'.rule = r.rule) rs rs' := by
  induction rs generalizing index rs' with
  | nil => cases h; exact .nil
  | cons r rs ih =>
      cases h with
      | rule hrest => exact .cons rfl (ih hrest)

namespace Inlines

theorem names_eq (h : d.Inlines d') : d'.names = d.names :=
  (map_eq_of_forall₂ h.states fun _ _ hs => hs.1.symm).symm

theorem lists (h : d.Inlines d') {state : String} {entries' : List Entry} (hs : (state, entries') ∈ d'.states) :
    ∃ entries rs, (state, entries) ∈ d.states ∧ d.Lists state 0 entries rs ∧
      entries' = rs.map fun r => .rule r.rule := by
  obtain ⟨i, hi⟩ := List.getElem?_of_mem hs
  obtain ⟨⟨_, entries⟩, hmem, rfl, rs, hrs, heq⟩ := forall₂_right h.states hi
  exact ⟨entries, rs, List.mem_of_getElem? hmem, hrs, heq⟩

theorem entryAt (h : d.Inlines d') {state : String} {index : Nat} {entry : Entry}
    (he : d'.EntryAt state index entry) :
    ∃ r : DeclaredRule, entry = .rule r.rule ∧ d.EntryAt r.state r.index (.rule r.rule) := by
  obtain ⟨entries', hs, he⟩ := he
  obtain ⟨entries, rs, hmem, hrs, rfl⟩ := h.lists hs
  obtain ⟨r, hr, rfl⟩ := List.mem_map.mp (List.mem_of_getElem? he)
  exact ⟨r, rfl, hrs.entryAt (fun i e hi => ⟨entries, hmem, by rwa [Nat.zero_add]⟩) r hr⟩

theorem wellFormed (h : d.Inlines d') (hd : d.WellFormed) : d'.WellFormed where
  distinct := by rw [h.names_eq]; exact hd.distinct
  root := by rw [h.names_eq, h.options]; exact hd.root
  references he name hname := by
    obtain ⟨r, rfl, hr⟩ := h.entryAt he
    rw [h.names_eq]
    exact hd.references hr name hname
  patterns he := by
    obtain ⟨r, heq, hr⟩ := h.entryAt he
    cases heq
    rw [h.options]
    exact hd.patterns hr
  faultless he fault := by
    obtain ⟨r, heq, hr⟩ := h.entryAt he
    cases heq
    rw [h.options]
    exact hd.faultless hr fault
  acyclic name hname := by
    obtain ⟨_, ⟨index, he⟩, _⟩ := Relation.TransGen.head'_iff.mp hname
    obtain ⟨_, heq, _⟩ := h.entryAt he
    cases heq

theorem counterpart (h : d.Inlines d') (hd : d.names.Nodup) : d.Counterpart { site := fun _ => ("", 0) } d' where
  names name := by rw [h.names_eq]
  rules hmem hmem' hlists hlists' := by
    obtain ⟨entries, rs, hmem'', hrs, rfl⟩ := h.lists hmem'
    cases entries_unique hd hmem hmem''
    cases hlists.unique hd hrs
    refine hlists'.of_rules.imp fun r r' heq => ⟨?_, ?_, ?_, rfl⟩
    · rw [heq]
    · rw [heq]; exact r.rule.emission.like_self
    · rw [heq]
  root := by rw [h.options]
  multiLine := by rw [h.options]
  resetOnNewline := by rw [h.options]
  textKind := by rw [h.options]; rfl
  errorKind := by rw [h.options]; rfl
  maxZeroWidth := by rw [h.options]
  maxNesting := by rw [h.options]

end Inlines

end Declaration

/-- What is searched for by the second table is searched for by the first one too. -/
theorem Table.Counterpart.leftmost {v : View} {t t' : Table} (h : t.Counterpart v t') (ht' : t'.Closed) {text : String}
    (hleft : t.Leftmost text) : t'.Leftmost text := by
  intro id' r' hr' hsearch part hpart
  have hlt := ht'.lt_of_mem hr'
  have hmem := Array.mem_of_getElem? (name?_eq hlt)
  obtain ⟨id, hid⟩ := stateId?_exists ((h.names _).mp hmem)
  have hrules := h.rules ⟨t'.name id', name?_of_stateId? hid, name?_eq hlt⟩
  obtain ⟨i, hi⟩ := List.getElem?_of_mem hr'
  obtain ⟨r, hr, hlike⟩ := forall₂_right hrules hi
  exact hlike.leftmost (hleft id r (List.mem_of_getElem? hr) (hlike.needsSearch ▸ hsearch) part hpart)

namespace Stream

/-- Includes are pure inlining: the declaration with the rules written out exists and can be built, and where searches
find the leftmost match, both tables hand out the same items from the same initial stack, but for the rule that an
error names, and stand at the same place with the same names on their stacks after every call. -/
theorem calls_inlined {d : Declaration} {t : Table} (built : d.build = .ok t) :
    (∃ d', d.Inlines d') ∧ ∀ d', d.Inlines d' → ∃ t', d'.build = .ok t' ∧
      ∀ names, t'.initialStack names = t.initialStack names ∧
        ∀ text stack, t.Leftmost text → t.initialStack names = .ok stack → ∀ n,
          (Calls.item (next t' text) (start stack) n).map (·.mapError Error.unattributed) =
            (Calls.item (next t text) (start stack) n).map (·.mapError Error.unattributed) ∧
          (Calls.after (next t' text) (start stack) n).scan.cursor =
            (Calls.after (next t text) (start stack) n).scan.cursor ∧
          (Calls.after (next t' text) (start stack) n).scan.stack.toList.map t'.name =
            (Calls.after (next t text) (start stack) n).scan.stack.toList.map t.name := by
  have hw := d.wellFormed_of_build built
  refine ⟨d.exists_inlines built, fun d' hd => ?_⟩
  obtain ⟨t', built'⟩ := d'.exists_build_of_wellFormed (hd.wellFormed hw)
  have hc := (hd.counterpart hw.distinct).build built built'
  have hoptions : t'.options = t.options := by rw [d.build_options built, d'.build_options built', hd.options]
  have hlimits : t.SameLimits t' := ⟨by rw [hoptions], by rw [hoptions]⟩
  have hstacks := Table.initialStack_eq built built' hd.names_eq (by rw [hd.options])
  refine ⟨t', built', fun names => ⟨hstacks names, fun text stack hleft hstack n => ?_⟩⟩
  have hleft' := hc.leftmost (d'.build_closed built') hleft
  have hchoose : ∀ part, Text.IsPart text part → ∃ memos, Table.ChoosesLike _ t t' memos part := fun part hpart =>
    ⟨_, Table.choosesLike_of_leftmost hc (d.build_slotsIdentify built) (d'.build_slotsIdentify built')
      (hleft.part hpart) (hleft'.part hpart)⟩
  obtain ⟨stack', hstack', hcalls⟩ := calls_like hc hlimits hchoose hstack
  cases hstack.symm.trans ((hstacks names).symm.trans hstack')
  obtain ⟨hitem, hplace⟩ := hcalls n
  simp only [map_token_plain] at hitem
  exact ⟨hitem, hplace⟩

/-- A rule that is searched for, and one that may not match. -/
def words : List Entry := [
  .rule { pattern := { text := "x(?=y)" }, emission := .token ⟨"Name"⟩ },
  .rule { pattern := { text := "z" }, emission := .nothing, transition := .pop 1 }]

/-- Two states that begin with some entries. -/
def borrowing (entries : List Entry) : Declaration where
  states := [
    ("root", entries ++ [.rule {
      pattern := { text := "<(x*y)>" }, emission := .byGroups [.lex "inner"], transition := .push ["inner"] }]),
    ("inner", entries), ("words", words)]

theorem borrowing_inlines : (borrowing [.include "words"]).Inlines (borrowing words) := by
  refine ⟨rfl, .cons ⟨rfl, ?_⟩ (.cons ⟨rfl, ?_⟩ (.cons ⟨rfl, ?_⟩ .nil))⟩
  · exact ⟨_, .include (by decide) (.rule (.rule .nil)) (.rule .nil), rfl⟩
  · exact ⟨_, .include (by decide) (.rule (.rule .nil)) .nil, rfl⟩
  · exact ⟨_, .rule (.rule .nil), rfl⟩

theorem calls_inlined_borrowing : ∃ t t' stack, (borrowing [.include "words"]).build = .ok t ∧
    (borrowing [.include "words"]).Inlines (borrowing words) ∧ (borrowing words).build = .ok t' ∧
    t.Leftmost "x<xy>z" ∧ t.initialStack [] = .ok stack ∧
    (t.scanFrom "x<xy>z" stack).error = some (.droppedText "words" 1 5) ∧
    (t'.scanFrom "x<xy>z" stack).error = some (.droppedText "inner" 1 5) ∧
    ∀ n, (Calls.item (next t' "x<xy>z") (start stack) n).map (·.mapError Error.unattributed) =
      (Calls.item (next t "x<xy>z") (start stack) n).map (·.mapError Error.unattributed) := by
  have h : ((borrowing [.include "words"]).build.toOption.bind fun t => (t.initialStack []).toOption.map fun stack =>
      (decide (t.Leftmost "x<xy>z"), (t.scanFrom "x<xy>z" stack).error)) =
      some (true, some (.droppedText "words" 1 5)) := by decide +kernel
  have h' : ((borrowing words).build.toOption.bind fun t => (t.initialStack []).toOption.map fun stack =>
      (t.scanFrom "x<xy>z" stack).error) = some (some (.droppedText "inner" 1 5)) := by decide +kernel
  obtain ⟨t, stack, hb, hstack, h⟩ := exists_of_toOption_bind h
  obtain ⟨hleft, herror⟩ := Prod.mk.inj h
  obtain ⟨t', stack', hb', hstack', herror'⟩ := exists_of_toOption_bind h'
  have hleft := of_decide_eq_true hleft
  obtain ⟨_, hb'', hscans⟩ := (calls_inlined hb).2 _ borrowing_inlines
  cases hb'.symm.trans hb''
  obtain ⟨hstacks, hscans⟩ := hscans []
  cases hstack'.symm.trans (hstacks.trans hstack)
  exact ⟨t, t', stack, hb, borrowing_inlines, hb'', hleft, hstack, herror, herror',
    fun n => (hscans "x<xy>z" stack hleft hstack n).1⟩

end Stream

end ModalLexer
