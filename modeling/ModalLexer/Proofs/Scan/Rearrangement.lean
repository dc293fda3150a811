import ModalLexer.Proofs.Scan.Choices
import ModalLexer.Proofs.Table.Expansion

/-!
The order in which states are declared does not matter. Another order gives other identifiers and slots, but the
same names, and rules that are declared at the same place.
-/

namespace ModalLexer

/-- The same options, but for limits that are no lower. -/
structure Options.Raised (o o' : Options) : Prop where
  root : o'.root = o.root
  multiLine : o'.multiLine = o.multiLine
  resetOnNewline : o'.resetOnNewline = o.resetOnNewline
  textKind : o'.textKind = o.textKind
  errorKind : o'.errorKind = o.errorKind
  maxZeroWidth : o.maxZeroWidth ≤ o'.maxZeroWidth
  maxNesting : o.maxNesting ≤ o'.maxNesting

namespace Declaration

/-- The same states in some order, and limits that are no lower. -/
structure Rearranged (d d' : Declaration) : Prop where
  options : d.options.Raised d'.options
  states : d.states.Perm d'.states

variable {d d' : Declaration}

namespace Rearranged

theorem of_perm (options : d'.options = d.options) (perm : d.states.Perm d'.states) : d.Rearranged d' := by
  refine ⟨?_, perm⟩
  rw [options]
  exact ⟨rfl, rfl, rfl, rfl, rfl, Nat.le_refl _, Nat.le_refl _⟩

theorem names_perm (h : d.Rearranged d') : d.names.Perm d'.names :=
  h.states.map _

theorem entryAt (h : d.Rearranged d') {state : String} {index : Nat} {entry : Entry}
    (he : d'.EntryAt state index entry) : d.EntryAt state index entry := by
  obtain ⟨entries, hmem, hentry⟩ := he
  exact ⟨entries, h.states.mem_iff.mpr hmem, hentry⟩

theorem wellFormed (h : d.Rearranged d') (hd : d.WellFormed) : d'.WellFormed where
  distinct := h.names_perm.nodup_iff.mp hd.distinct
  root := by
    rw [h.options.root]
    exact h.names_perm.mem_iff.mp hd.root
  references he name hname := h.names_perm.mem_iff.mp (hd.references (h.entryAt he) name hname)
  patterns he := by
    rw [h.options.multiLine]
    exact hd.patterns (h.entryAt he)
  faultless he fault := by
    rw [h.options.multiLine]
    exact hd.faultless (h.entryAt he) fault
  acyclic name hname := by
    have hincludes : d'.Includes ≤ d.Includes := fun _ _ ⟨index, he⟩ => ⟨index, h.entryAt he⟩
    exact hd.acyclic name (Relation.TransGen.mono hincludes name name hname)

theorem counterpart (h : d.Rearranged d') (hd : d.names.Nodup) : d.Counterpart {} d' where
  names _ := h.names_perm.mem_iff.symm
  rules hmem hmem' hlists hlists' := by
    cases entries_unique hd hmem (h.states.mem_iff.mpr hmem')
    cases hlists.unique hd (hlists'.of_states fun _ hs => h.states.mem_iff.mpr hs)
    exact List.forall₂_same.mpr fun r _ => ⟨rfl, r.rule.emission.like_self, rfl, rfl⟩
  root := h.options.root
  multiLine := h.options.multiLine
  resetOnNewline := h.options.resetOnNewline
  textKind := h.options.textKind
  errorKind := h.options.errorKind
  maxZeroWidth := h.options.maxZeroWidth
  maxNesting := h.options.maxNesting

end Rearranged

theorem build_distinct {t : Table} (h : d.build = .ok t) : t.Distinct :=
  ⟨build_slotsIdentify h, build_sitesIdentify h⟩

/-- A declaration that is rearranged builds a table that corresponds and makes the same choices. -/
theorem Rearranged.build (h : d.Rearranged d') {t : Table} (hb : d.build = .ok t) :
    ∃ t', d'.build = .ok t' ∧ t.Counterpart {} t' ∧
      ∀ text, Table.ChoosesLike {} t t' (t.Remember t') text := by
  have hw := wellFormed_of_build hb
  obtain ⟨t', hb'⟩ := exists_build_of_wellFormed (h.wellFormed hw)
  have hc := (h.counterpart hw.distinct).build hb hb'
  exact ⟨t', hb', hc, Table.choosesLike_of_distinct hc (build_distinct hb) (build_distinct hb') fun _ _ => id⟩

end Declaration

/-! ## Scans -/

namespace Stream

open Text

/-- Where nothing is looked at but tokens and errors as they are, the items are the same. -/
theorem calls_eq {t t' : Table} {text : String} (h : t.Counterpart {} t') (hlimits : t.SameLimits t')
    (hchoose : ∀ part, IsPart text part → ∃ memos, Table.ChoosesLike {} t t' memos part) {names : List String}
    {stack : StateStack} (hstack : t.initialStack names = .ok stack) :
    ∃ stack', t'.initialStack names = .ok stack' ∧ ∀ n,
      Calls.item (next t' text) (start stack') n = Calls.item (next t text) (start stack) n ∧
        (Calls.after (next t' text) (start stack') n).scan.cursor =
          (Calls.after (next t text) (start stack) n).scan.cursor ∧
        (Calls.after (next t' text) (start stack') n).scan.stack.toList.map t'.name =
          (Calls.after (next t text) (start stack) n).scan.stack.toList.map t.name := by
  obtain ⟨stack', hstack', hcalls⟩ := calls_like h hlimits hchoose hstack
  refine ⟨stack', hstack', fun n => ?_⟩
  obtain ⟨hitem, hplace⟩ := hcalls n
  simp only [map_token_plain, mapError_mapSite_id, Option.map_id_fun'] at hitem
  exact ⟨hitem, hplace⟩

/-- The order of the states does not matter: a declaration can be built if it can be built with its states in another
order, and then both tables refuse the same initial stacks, and from all others hand out the same items and stand at
the same place with the same names on their stacks after every call. -/
theorem calls_perm {d d' : Declaration} (options : d'.options = d.options) (perm : d.states.Perm d'.states) :
    ((∃ t, d.build = .ok t) ↔ ∃ t', d'.build = .ok t') ∧
      ∀ t t', d.build = .ok t → d'.build = .ok t' → ∀ text names,
        (∀ e, t.initialStack names = .error e → t'.initialStack names = .error e) ∧
        ∀ stack, t.initialStack names = .ok stack → ∃ stack', t'.initialStack names = .ok stack' ∧ ∀ n,
          Calls.item (next t' text) (start stack') n = Calls.item (next t text) (start stack) n ∧
          (Calls.after (next t' text) (start stack') n).scan.cursor =
            (Calls.after (next t text) (start stack) n).scan.cursor ∧
          (Calls.after (next t' text) (start stack') n).scan.stack.toList.map t'.name =
            (Calls.after (next t text) (start stack) n).scan.stack.toList.map t.name := by
  have h : d.Rearranged d' := .of_perm options perm
  have h' : d'.Rearranged d := .of_perm options.symm perm.symm
  refine ⟨⟨fun ⟨_, hb⟩ => ?_, fun ⟨_, hb⟩ => ?_⟩, fun t t' hb hb' text names => ?_⟩
  · obtain ⟨t', hb', _⟩ := h.build hb
    exact ⟨t', hb'⟩
  · obtain ⟨t, hb, _⟩ := h'.build hb
    exact ⟨t, hb⟩
  · obtain ⟨_, hb'', hc, hchoose⟩ := h.build hb
    cases hb'.symm.trans hb''
    have hoptions : t'.options = t.options := by rw [d.build_options hb, d'.build_options hb', options]
    have hlimits : t.SameLimits t' := ⟨by rw [hoptions], by rw [hoptions]⟩
    exact ⟨fun e he => hc.initialStack_error hlimits he, fun stack hstack =>
      calls_eq hc hlimits (fun part _ => ⟨_, hchoose part⟩) hstack⟩

/-- Two states share the words of a third one, among them one that is searched for. -/
def sharing : List (String × List Entry) := [
  ("root", [
    .include "words",
    .rule { pattern := { text := "<(x*y)>" }, emission := .byGroups [.lex "words"], transition := .push ["inner"] }]),
  ("inner", [
    .rule { pattern := { text := "z" }, emission := .nothing, transition := .pop 1 },
    .include "words"]),
  ("words", [
    .rule { pattern := { text := "x(?=y)" }, emission := .token ⟨"Name"⟩ },
    .rule { pattern := { text := "y" }, emission := .token ⟨"Number"⟩ }])]

theorem calls_perm_sharing : ∃ t t' stack stack',
    Declaration.build { states := sharing } = .ok t ∧ Declaration.build { states := sharing.reverse } = .ok t' ∧
    t.initialStack ["root"] = .ok stack ∧ t'.initialStack ["root"] = .ok stack' ∧ stack ≠ stack' ∧
    (t.scanFrom "xy<xxy>yz" stack).error = some (.droppedText "inner" 0 8) ∧
    ∀ n, Calls.item (next t' "xy<xxy>yz") (start stack') n = Calls.item (next t "xy<xxy>yz") (start stack) n := by
  have h : ((Declaration.build { states := sharing }).toOption.bind fun t =>
      (t.initialStack ["root"]).toOption.map fun stack => (stack.root.index, (t.scanFrom "xy<xxy>yz" stack).error)) =
      some (0, some (.droppedText "inner" 0 8)) := by decide +kernel
  have h' : ((Declaration.build { states := sharing.reverse }).toOption.bind fun t =>
      (t.initialStack ["root"]).toOption.map fun stack => stack.root.index) = some 2 := by decide +kernel
  obtain ⟨t, stack, hb, hstack, h⟩ := exists_of_toOption_bind h
  obtain ⟨hroot, herror⟩ := Prod.mk.inj h
  obtain ⟨t', stack', hb', hstack', hroot'⟩ := exists_of_toOption_bind h'
  have hperm := (List.reverse_perm sharing).symm
  obtain ⟨_, hscans⟩ := @calls_perm { states := sharing } { states := sharing.reverse } rfl hperm
  obtain ⟨_, hsame⟩ := hscans t t' hb hb' "xy<xxy>yz" ["root"]
  obtain ⟨_, hstack'', hcalls⟩ := hsame stack hstack
  cases hstack'.symm.trans hstack''
  refine ⟨t, t', stack, stack', hb, hb', hstack, hstack', ?_, herror, fun n => (hcalls n).1⟩
  rintro rfl
  omega

end Stream

end ModalLexer
