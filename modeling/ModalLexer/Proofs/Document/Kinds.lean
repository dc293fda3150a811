import ModalLexer.Document.Build
import ModalLexer.Proofs.Session.Relabelling

/-!
Where the kinds of tokens come from. A function that leaves the kinds of a document alone changes nothing in its
tables, and so nothing in the tokens of a scan; so whatever is true of the kinds of a document, and of those that stand
in for text that no rule classifies, is true of the kinds of all tokens.
-/

namespace ModalLexer

/-! ## The kinds of a document -/

namespace Document

def Group.kinds : Group → List Kind
  | .kind k => [k]
  | .lex _ => []

def Rule.kinds (r : Rule) : List Kind :=
  r.token.toList ++ (r.groups.getD []).flatMap fun g => g.toList.flatMap Group.kinds

def Entry.kinds : Entry → List Kind
  | .rule r => r.kinds
  | _ => []

/-- The kinds that a document names. -/
def kinds (d : Document) : List Kind :=
  d.states.flatMap fun s => s.2.flatMap Entry.kinds

section

variable {f : Kind → Kind}

theorem actionOf_mapKinds {g : Option Group} (hg : ∀ k ∈ g.toList.flatMap Group.kinds, f k = k) :
    (actionOf g).mapKinds f = actionOf g := by
  rcases g with _ | k | s
  · rfl
  · have hk : f k = k := hg k (by simp [Group.kinds])
    unfold actionOf
    simp only
    split
    · rfl
    · rw [GroupAction.mapKinds, hk]
  · rfl

theorem Rule.toRule_mapKinds {r : Rule} {rule : ModalLexer.Rule} (h : r.toRule = .ok rule)
    (hr : ∀ k ∈ r.kinds, f k = k) : rule.mapKinds f = rule := by
  obtain ⟨pattern, token, groups, move⟩ := r
  obtain ⟨transition, _, h⟩ := bind_eq_ok.mp h
  cases token with
  | some k =>
      have hk : f k = k := hr k (by simp [Rule.kinds])
      cases groups with
      | some gs => cases h
      | none =>
          cases h
          rw [Rule.mapKinds, Emission.mapKinds, hk]
  | none =>
      cases groups with
      | none => cases h; rfl
      | some gs =>
          have hgs : (gs.map actionOf).map (·.mapKinds f) = gs.map actionOf := by
            rw [List.map_map]
            refine List.map_congr_left fun g hg => actionOf_mapKinds fun k hk => hr k ?_
            simp only [Rule.kinds, List.mem_append, List.mem_flatMap, Option.getD_some]
            exact .inr ⟨g, hg, List.mem_flatMap.mp hk⟩
          cases h
          rw [Rule.mapKinds, Emission.mapKinds, hgs]

theorem Entry.toEntry_mapKinds {e : Entry} {entry : ModalLexer.Entry} (h : e.toEntry = .ok entry)
    (he : ∀ k ∈ e.kinds, f k = k) : entry.mapKinds f = entry := by
  cases e with
  | «include» s => cases h; rfl
  | default m =>
      obtain ⟨transition, _, h⟩ := bind_eq_ok.mp h
      cases h
      rfl
  | rule r =>
      obtain ⟨rule, hr, h⟩ := bind_eq_ok.mp h
      cases h
      rw [Entry.mapKinds, r.toRule_mapKinds hr he]

theorem map_eq_self_of_mapM {α β ε : Type} {g : α → Except ε β} {k : β → β} {as : List α} {bs : List β}
    (h : as.mapM g = .ok bs) (hg : ∀ a ∈ as, ∀ b, g a = .ok b → k b = b) : bs.map k = bs := by
  have hall := mapM_eq_ok h
  clear h
  induction hall with
  | nil => rfl
  | cons hab _ ih =>
      obtain ⟨hfirst, hg⟩ := List.forall_mem_cons.mp hg
      rw [List.map_cons, hfirst _ hab, ih hg]

/-- A function that leaves the kinds of a document alone leaves its declaration alone. -/
theorem toDeclaration_mapKinds {d : Document} {e : Declaration} (h : d.toDeclaration = .ok e)
    (hd : ∀ k ∈ d.kinds, f k = k) (htext : f .text = .text) (herror : f .error = .error) : e.mapKinds f = e := by
  obtain ⟨states, hstates, h⟩ := bind_eq_ok.mp h
  cases h
  have hsame : states.map (fun s => (s.1, s.2.map (·.mapKinds f))) = states := by
    refine map_eq_self_of_mapM hstates fun s hs out hout => ?_
    obtain ⟨entries, hentries, hout⟩ := bind_eq_ok.mp hout
    cases hout
    have hentries := map_eq_self_of_mapM hentries fun e he entry hentry => e.toEntry_mapKinds hentry fun k hk =>
      hd k (List.mem_flatMap.mpr ⟨s, hs, List.mem_flatMap.mpr ⟨e, he, hk⟩⟩)
    rw [hentries]
  have hoptions : d.options.mapKinds f = d.options := by
    simp only [Options.mapKinds, options, htext, herror]
  rw [Declaration.mapKinds, hoptions, hsame]

end

end Document

/-! ## The kinds of tokens -/

/-- The kind itself if the property holds of it. -/
def Kind.keep (P : Kind → Prop) [DecidablePred P] (k : Kind) : Kind :=
  if P k then k else .text

section

variable {P : Kind → Prop} [DecidablePred P]

theorem Kind.keep_eq_self (htext : P .text) {k : Kind} : k.keep P = k ↔ P k := by
  unfold keep
  split
  next hk => exact ⟨fun _ => hk, fun _ => rfl⟩
  next hk =>
    refine ⟨fun heq => ?_, fun h => absurd h hk⟩
    rw [← heq]
    exact htext

theorem Document.keep_mapKinds {document : Document} {d : Declaration} (hd : document.toDeclaration = .ok d)
    (htext : P .text) (herror : P .error) (hkinds : ∀ k ∈ document.kinds, P k) : d.mapKinds (Kind.keep P) = d := by
  have hkeep {k : Kind} (hk : P k) : k.keep P = k := (Kind.keep_eq_self htext).mpr hk
  exact toDeclaration_mapKinds hd (fun k hk => hkeep (hkinds k hk)) (hkeep htext) (hkeep herror)

variable {d : Declaration} {t : Table} {text : String} {tokens : List Token}

theorem Table.tokenize_kinds (hb : d.build = .ok t) (hd : d.mapKinds (Kind.keep P) = d) (htext : P .text)
    (h : t.tokenize text = .ok tokens) : ∀ token ∈ tokens, P token.kind := by
  have hmap := tokenize_mapKinds (f := Kind.keep P) hb (hd.symm ▸ hb) text
  rw [h] at hmap
  have hsame : tokens.map id = tokens.map (Token.mapKind (Kind.keep P)) := by
    rw [List.map_id]
    exact Except.ok.inj hmap
  intro token hmem
  exact (Kind.keep_eq_self htext).mp (congrArg Token.kind (List.map_inj_left.mp hsame token hmem)).symm

theorem Session.tokenize_kinds (hb : d.build = .ok t) (hd : d.mapKinds (Kind.keep P) = d) (htext : P .text)
    {config : SessionConfig} {s : Session} (ho : ofTable t config = .ok s) (hprompt : P config.promptKind)
    (houtput : P config.outputKind) (htraceback : P config.tracebackKind) (h : s.tokenize text = .ok tokens) :
    ∀ token ∈ tokens, P token.kind := by
  have hkeep {k : Kind} (hk : P k) : k.keep P = k := (Kind.keep_eq_self htext).mpr hk
  have hconfig : config.mapKinds (Kind.keep P) = config := by
    rw [SessionConfig.mapKinds, hkeep hprompt, hkeep houtput, hkeep htraceback]
  have hlike : s.Relabelled (Kind.keep P) s := relabelled_of_build hb (hd.symm ▸ hb) ho (hconfig.symm ▸ ho)
  have hitems (n : Nat) : Calls.item (s.next text) (Reading.start text) n = (tokens[n]?).map .ok := by
    rw [item_eq_splice, tokenize_eq_ok.mp h, Calls.getElem?_outcomes_none]
  intro token hmem
  obtain ⟨n, hn⟩ := List.getElem?_of_mem hmem
  have hitem := (hlike.calls text n).2
  rw [hitems, hn] at hitem
  exact (Kind.keep_eq_self htext).mp (congrArg Token.kind (Except.ok.inj (Option.some.inj hitem))).symm

end

end ModalLexer
