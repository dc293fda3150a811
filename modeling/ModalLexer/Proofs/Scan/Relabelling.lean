import ModalLexer.Proofs.Scan.Rearrangement
import ModalLexer.Proofs.Table.Revision

/-!
Kinds are handed on and never looked at. A declaration with other kinds in the place of its kinds builds if the first
one does, and its table scans alike: the tokens have the other kinds, and nothing else is different.
-/

namespace ModalLexer

/-! ## Other kinds in a declaration -/

def GroupAction.mapKinds (f : Kind → Kind) : GroupAction σ → GroupAction σ
  | .kind k => .kind (f k)
  | .text => .text
  | .skip => .skip
  | .lex s => .lex s

def Emission.mapKinds (f : Kind → Kind) : Emission σ → Emission σ
  | .token k => .token (f k)
  | .byGroups as => .byGroups (as.map (·.mapKinds f))
  | .nothing => .nothing

def Rule.mapKinds (f : Kind → Kind) (r : Rule) : Rule :=
  { r with emission := r.emission.mapKinds f }

def Entry.mapKinds (f : Kind → Kind) : Entry → Entry
  | .rule r => .rule (r.mapKinds f)
  | .include state => .include state

def Options.mapKinds (f : Kind → Kind) (o : Options) : Options :=
  { o with textKind := f o.textKind, errorKind := f o.errorKind }

/-- The declaration with another kind in the place of every kind. -/
def Declaration.mapKinds (f : Kind → Kind) (d : Declaration) : Declaration where
  options := d.options.mapKinds f
  states := d.states.map fun s => (s.1, s.2.map (·.mapKinds f))

section

variable {f : Kind → Kind}

theorem GroupAction.mapKinds_like (a : GroupAction σ) : a.Like f Eq (a.mapKinds f) := by
  cases a with
  | kind k => exact .kind k
  | text => exact .text
  | skip => exact .skip
  | lex s => exact .lex rfl

theorem Emission.mapKinds_like (m : Emission σ) : m.Like f Eq (m.mapKinds f) := by
  cases m with
  | token k => exact .token k
  | byGroups as =>
      refine .byGroups (List.forall₂_map_right_iff.mpr (List.forall₂_same.mpr fun a _ => a.mapKinds_like))
  | nothing => exact .nothing

theorem GroupAction.references_mapKinds (a : GroupAction σ) : (a.mapKinds f).references = a.references := by
  cases a <;> rfl

theorem Emission.references_mapKinds (m : Emission σ) : (m.mapKinds f).references = m.references := by
  cases m with
  | token k => rfl
  | byGroups as => simp only [mapKinds, references, List.flatMap_map, GroupAction.references_mapKinds]
  | nothing => rfl

theorem Rule.references_mapKinds (r : Rule) : (r.mapKinds f).references = r.references := by
  unfold references
  rw [mapKinds, Emission.references_mapKinds]

theorem Rule.hasFault_mapKinds {r : Rule} {multiLine : Bool} {fault : RuleFault} :
    (r.mapKinds f).HasFault multiLine fault ↔ r.HasFault multiLine fault := by
  obtain ⟨pattern, emission, transition⟩ := r
  constructor
  · intro h
    cases h with
    | emptyPush ht => exact .emptyPush ht
    | emptyPop ht => exact .emptyPop ht
    | inert he ht =>
        cases emission with
        | nothing => exact .inert rfl ht
        | _ => cases he
    | tooManyActions hm he hlt =>
        cases emission with
        | byGroups as =>
            cases he
            rw [List.length_map] at hlt ⊢
            exact .tooManyActions hm rfl hlt
        | _ => cases he
  · intro h
    cases h with
    | emptyPush ht => exact .emptyPush ht
    | emptyPop ht => exact .emptyPop ht
    | inert he ht => cases he; exact .inert rfl ht
    | @tooManyActions _ actions hm he hlt =>
        cases he
        have hlength := actions.length_map (·.mapKinds f)
        rw [← hlength] at hlt ⊢
        exact .tooManyActions hm rfl hlt

namespace Declaration

theorem revised_mapKinds (d : Declaration) (f : Kind → Kind) :
    d.Revised (fun r r' => r' = r.mapKinds f) (d.mapKinds f) := by
  refine List.forall₂_map_right_iff.mpr (List.forall₂_same.mpr fun s _ => ⟨rfl, ?_⟩)
  refine List.forall₂_map_right_iff.mpr (List.forall₂_same.mpr fun e _ => ?_)
  cases e with
  | rule r => exact .rule rfl
  | «include» state => exact .include state

theorem mapKinds_revised (d : Declaration) (f : Kind → Kind) :
    (d.mapKinds f).Revised (fun r' r => r' = r.mapKinds f) d := by
  refine List.forall₂_map_left_iff.mpr (List.forall₂_same.mpr fun s _ => ⟨rfl, ?_⟩)
  refine List.forall₂_map_left_iff.mpr (List.forall₂_same.mpr fun e _ => ?_)
  cases e with
  | rule r => exact .rule rfl
  | «include» state => exact .include state

theorem wellFormed_mapKinds {d : Declaration} : (d.mapKinds f).WellFormed ↔ d.WellFormed := by
  constructor
  · refine (d.mapKinds_revised f).wellFormed rfl rfl ?_
    rintro _ r rfl
    exact ⟨rfl, r.references_mapKinds.symm, fun _ _ => Rule.hasFault_mapKinds.mpr⟩
  · refine (d.revised_mapKinds f).wellFormed rfl rfl ?_
    rintro r _ rfl
    exact ⟨rfl, r.references_mapKinds, fun _ _ => Rule.hasFault_mapKinds.mp⟩

theorem counterpart_mapKinds {d : Declaration} (hd : d.names.Nodup) : d.Counterpart { kind := f } (d.mapKinds f) where
  names _ := by rw [(d.revised_mapKinds f).names_eq]
  rules hmem hmem' hlists hlists' := by
    obtain ⟨_, hmem₁, hentries⟩ := (d.revised_mapKinds f).entries hmem'
    cases entries_unique hd hmem hmem₁
    refine ((d.revised_mapKinds f).lists hd hentries hlists hlists').imp ?_
    rintro r r' ⟨hrule, hstate, hindex⟩
    refine ⟨?_, ?_, ?_, ?_⟩
    · rw [hrule]; rfl
    · rw [hrule]; exact r.rule.emission.mapKinds_like
    · rw [hrule]; rfl
    · rw [hstate, hindex]
  root := rfl
  multiLine := rfl
  resetOnNewline := rfl
  textKind := rfl
  errorKind := rfl
  maxZeroWidth := Nat.le_refl _
  maxNesting := Nat.le_refl _

theorem build_mapKinds_iff {d : Declaration} :
    (∃ t, d.build = .ok t) ↔ ∃ t', (d.mapKinds f).build = .ok t' := by
  rw [(build_iff_wellFormed d).1, (build_iff_wellFormed (d.mapKinds f)).1, wellFormed_mapKinds]

end Declaration

/-! ## Scans -/

namespace Table

variable {d : Declaration} {t t' : Table}

theorem Alike.eq_map {v : View} {g : α → β} {x : Except Error α} {x' : Except Error β}
    (h : Alike v t t' (fun a b => b = g a) x x') (hlimits : t.SameLimits t') (hsite : v.site = id) :
    x' = x.map g := by
  cases h with
  | ok heq => rw [heq]; rfl
  | @error e e' he =>
      rw [hsite, e.mapSite_id, e'.mapSite_id] at he
      rw [he]
      rfl
  | cut hcut => exact absurd hcut (hlimits.not_cuts _)

section

variable (hb : d.build = .ok t) (hb' : (d.mapKinds f).build = .ok t')

include hb hb'

theorem sameLimits_mapKinds : t.SameLimits t' := by
  constructor
  · rw [d.build_options hb, (d.mapKinds f).build_options hb']; rfl
  · rw [d.build_options hb, (d.mapKinds f).build_options hb']; rfl

theorem counterpart_mapKinds : t.Counterpart { kind := f } t' :=
  (Declaration.counterpart_mapKinds (d.build_nodup hb)).build hb hb'

theorem choosesLike_mapKinds (text : String) : ChoosesLike { kind := f } t t' (t.Remember t') text :=
  choosesLike_of_distinct (counterpart_mapKinds hb hb') (Declaration.build_distinct hb)
    (Declaration.build_distinct hb') (fun _ _ => id) text

theorem tokenize_mapKinds (text : String) :
    t'.tokenize text = (t.tokenize text).map (List.map (Token.mapKind f)) := by
  have hc := counterpart_mapKinds hb hb'
  have hstack : t.SameStack t' ⟨t.root, []⟩ ⟨t'.root, []⟩ := ⟨hc.root, .nil⟩
  have hscan := scanFrom_alike hc (fun part (_ : Text.IsPart text part) => ⟨_, choosesLike_mapKinds hb hb' part⟩) hstack
  exact hscan.result.eq_map (sameLimits_mapKinds hb hb') rfl

theorem initialStack_mapKinds (names : List String) : t'.initialStack names = t.initialStack names :=
  initialStack_eq hb hb' (d.revised_mapKinds f).names_eq rfl names

end

end Table

namespace Stream

/-- The calls hand out the same tokens but for their kinds, and leave the scan at the same place. -/
theorem calls_mapKinds {d : Declaration} {t t' : Table} (hb : d.build = .ok t) (hb' : (d.mapKinds f).build = .ok t')
    (text : String) {names : List String} {stack : StateStack} (hstack : t.initialStack names = .ok stack) (n : Nat) :
    Calls.item (next t' text) (start stack) n =
        (Calls.item (next t text) (start stack) n).map (·.map (Token.mapKind f)) ∧
      (Calls.after (next t' text) (start stack) n).scan.cursor =
        (Calls.after (next t text) (start stack) n).scan.cursor ∧
      (Calls.after (next t' text) (start stack) n).scan.stack.toList.map t'.name =
        (Calls.after (next t text) (start stack) n).scan.stack.toList.map t.name := by
  obtain ⟨stack', hstack', hcalls⟩ := calls_like (Table.counterpart_mapKinds hb hb')
    (Table.sameLimits_mapKinds hb hb')
    (fun part (_ : Text.IsPart text part) => ⟨_, Table.choosesLike_mapKinds hb hb' part⟩) hstack
  rw [Table.initialStack_mapKinds hb hb', hstack] at hstack'
  cases hstack'
  obtain ⟨hitem, hplace⟩ := hcalls n
  simp only [mapError_mapSite_id, Option.map_id_fun'] at hitem
  exact ⟨hitem, hplace⟩

end Stream

end

end ModalLexer
