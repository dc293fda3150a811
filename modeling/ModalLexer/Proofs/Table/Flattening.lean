import ModalLexer.Proofs.Table.Expansion

/-!
Flattening is expansion. The rules of a state are those that its entries stand for, each compiled once, with the slot
that its place in the declaration gives it; what a rule refers to has in the table the name that the declaration uses.
The walk over includes goes no deeper than there are states, whether or not they lead in a circle.
-/

namespace ModalLexer

/-! ## Names of what a rule refers to -/

theorem mapM_of_forall₂ {m : Type → Type} [Monad m] [LawfulMonad m] {f : α → m β} {as : List α} {bs : List β}
    (h : List.Forall₂ (fun a b => f a = pure b) as bs) : as.mapM f = pure bs := by
  induction h with
  | nil => rfl
  | cons hab _ ih => rw [List.mapM_cons, hab, pure_bind, ih, pure_bind]

section

variable {σ τ ε : Type} {f : σ → Except ε τ} {g : τ → Option σ}

/-- Resolved references, looked up again. -/
theorem mapM_lookup (hg : ∀ s t, f s = .ok t → g t = some s) {ss : List σ} {ts : List τ} (h : ss.mapM f = .ok ts) :
    ts.mapM g = some ss :=
  mapM_of_forall₂ ((mapM_eq_ok h).flip.imp fun t s => hg s t)

theorem Transition.mapM_lookup (hg : ∀ s t, f s = .ok t → g t = some s) {u : Transition σ} {u' : Transition τ}
    (h : u.mapM f = .ok u') : u'.mapM g = some u := by
  cases u with
  | push ss =>
      obtain ⟨ts, hts, h⟩ := bind_eq_ok.mp h
      cases h
      simp only [Transition.mapM, ModalLexer.mapM_lookup hg hts]
      rfl
  | goto s =>
      obtain ⟨t, ht, h⟩ := bind_eq_ok.mp h
      cases h
      simp only [Transition.mapM, hg s t ht]
      rfl
  | stay | pushCurrent | pop _ => cases h; rfl

theorem GroupAction.mapM_lookup (hg : ∀ s t, f s = .ok t → g t = some s) {a : GroupAction σ} {a' : GroupAction τ}
    (h : a.mapM f = .ok a') : a'.mapM g = some a := by
  cases a with
  | lex s =>
      obtain ⟨t, ht, h⟩ := bind_eq_ok.mp h
      cases h
      simp only [GroupAction.mapM, hg s t ht]
      rfl
  | kind _ | text | skip => cases h; rfl

theorem Emission.mapM_lookup (hg : ∀ s t, f s = .ok t → g t = some s) {e : Emission σ} {e' : Emission τ}
    (h : e.mapM f = .ok e') : e'.mapM g = some e := by
  cases e with
  | byGroups as =>
      obtain ⟨bs, hbs, h⟩ := bind_eq_ok.mp h
      cases h
      simp only [Emission.mapM, ModalLexer.mapM_lookup (fun _ _ => GroupAction.mapM_lookup hg) hbs]
      rfl
  | token _ | nothing => cases h; rfl

end

/-! ## Slots -/

/-- The number of rules that the states declare before an entry of one of them. -/
def rulesBefore (state : String) (index : Nat) : List (String × List Entry) → Nat
  | [] => 0
  | (name, entries) :: rest =>
    if name = state then (entries.take index).countP Entry.isRule
    else entries.countP Entry.isRule + rulesBefore state index rest

theorem compileEntries_slot {multiLine : Bool} {names : List String} {state : String} {index slot : Nat}
    {es : List Entry} {out : List CompiledEntry × Nat}
    (h : compileEntries multiLine names state index slot es = .ok out) :
    out.2 = slot + es.countP Entry.isRule ∧
      ∀ (i : Nat) c, out.1[i]? = some (.rule c) → c.slot = slot + (es.take i).countP Entry.isRule := by
  induction es generalizing index slot out with
  | nil => cases h; exact ⟨rfl, by simp⟩
  | cons e es ih =>
      cases e with
      | rule r =>
          obtain ⟨c, hc, h⟩ := bind_eq_ok.mp h
          obtain ⟨⟨rest, next⟩, hrest, h⟩ := bind_eq_ok.mp h
          cases h
          obtain ⟨hnext, hslots⟩ := ih hrest
          have hrule : Entry.isRule (.rule r) = true := rfl
          refine ⟨?_, fun i c' hi => ?_⟩
          · simp only [List.countP_cons, hrule, if_true] at hnext ⊢; omega
          · cases i with
            | zero => cases hi; exact (compileRule_eq_ok hc).2.2.2.2.2
            | succ i =>
                have hslot := hslots i c' hi
                simp only [List.take_succ_cons, List.countP_cons, hrule, if_true]
                omega
      | «include» target =>
          obtain ⟨id, _, h⟩ := bind_eq_ok.mp h
          obtain ⟨⟨rest, next⟩, hrest, h⟩ := bind_eq_ok.mp h
          cases h
          obtain ⟨hnext, hslots⟩ := ih hrest
          have hrule : Entry.isRule (.include target) = false := rfl
          refine ⟨by simpa [List.countP_cons, hrule] using hnext, fun i c' hi => ?_⟩
          cases i with
          | zero => cases hi
          | succ i => simpa [List.countP_cons, hrule] using hslots i c' hi

theorem compileStates_slot {multiLine : Bool} {names : List String} {slot : Nat}
    {states : List (String × List Entry)} {declared : List (List CompiledEntry)}
    (hn : (states.map (·.1)).Nodup) (h : compileStates multiLine names slot states = .ok declared) :
    ∀ c ∈ declaredRules declared, c.origin ∈ states.map (·.1) ∧
      c.slot = slot + rulesBefore c.origin c.index states := by
  induction states generalizing slot declared with
  | nil => cases h; simp [declaredRules]
  | cons s states ih =>
      obtain ⟨name, entries⟩ := s
      obtain ⟨⟨es, next⟩, hes, h⟩ := bind_eq_ok.mp h
      obtain ⟨rest, hrest, h⟩ := bind_eq_ok.mp h
      cases h
      obtain ⟨hname, hn⟩ := List.nodup_cons.mp hn
      obtain ⟨hnext, hslots⟩ := compileEntries_slot hes
      intro c hc
      rcases List.mem_append.mp (show c ∈ rulesAmong es ++ declaredRules rest from hc) with hc | hc
      · obtain ⟨i, hi⟩ := List.getElem?_of_mem (mem_rulesAmong.mp hc)
        obtain ⟨horigin, hindex⟩ := compileEntries_site hes hi
        rw [Nat.zero_add] at hindex
        refine ⟨by simp [horigin], ?_⟩
        simpa [rulesBefore, horigin, hindex] using hslots i c hi
      · obtain ⟨hmem, hslot⟩ := ih hn hrest c hc
        have hne : name ≠ c.origin := fun heq => hname (heq ▸ hmem)
        refine ⟨List.mem_cons_of_mem _ hmem, ?_⟩
        simp only at hnext
        rw [rulesBefore, if_neg hne, hslot, hnext, Nat.add_assoc]

namespace Declaration

variable {d : Declaration} {t : Table}

/-- Compiles a rule where it is declared. Slots count the rules of the whole declaration. -/
def compileDeclared (d : Declaration) (r : DeclaredRule) : Except Error CompiledRule :=
  compileRule d.options.multiLine d.names ⟨r.state, r.index, rulesBefore r.state r.index d.states⟩ r.rule

theorem build_slot (h : d.build = .ok t) {id : StateId} {c : CompiledRule} (hc : c ∈ t.rulesOf id) :
    c.slot = rulesBefore c.origin c.index d.states := by
  obtain ⟨_, declared, hr, hrules⟩ := d.build_rules h
  obtain ⟨hn, _, hcompiled⟩ := resolve_eq_ok hr
  rw [(compileStates_slot hn hcompiled c (hrules id c hc)).2, Nat.zero_add]

theorem CompilesTo.declared {r : DeclaredRule} {c : CompiledRule} (h : d.CompilesTo r c)
    (hslot : c.slot = rulesBefore c.origin c.index d.states) : d.compileDeclared r = .ok c := by
  obtain ⟨slot, hc⟩ := h
  obtain ⟨_, _, _, horigin, hindex, hs⟩ := compileRule_eq_ok hc
  have hplace : slot = rulesBefore r.state r.index d.states := by
    simpa only [hs, horigin, hindex] using hslot
  rw [compileDeclared, ← hplace]
  exact hc

/-! ## Rules of a state -/

theorem build_rules? (h : d.build = .ok t) {i : Nat} {s : String × List Entry} (hi : d.states[i]? = some s) :
    t.rules? ⟨i⟩ = some (t.rulesOf ⟨i⟩) := by
  refine (d.build_closed h).rules?_eq ?_
  have hlt := (List.getElem?_eq_some_iff.mp hi).1
  simpa [Table.stateCount, build_names h, names] using hlt

/-- The rules of a state are those that its entries stand for, compiled one by one. -/
theorem build_compiled (h : d.build = .ok t) {i : Nat} {state : String} {entries : List Entry}
    (hi : d.states[i]? = some (state, entries)) :
    ∃ rs, d.Lists state 0 entries rs ∧ rs.mapM d.compileDeclared = .ok (t.rulesOf ⟨i⟩) := by
  obtain ⟨rs, hlists, hcompiled⟩ := build_stands h hi
  refine ⟨rs, hlists, mapM_of_forall₂ ?_⟩
  have hmem : ∀ c ∈ t.rulesOf ⟨i⟩, c.slot = rulesBefore c.origin c.index d.states := fun c => build_slot h
  generalize t.rulesOf ⟨i⟩ = rules at hcompiled hmem
  clear hlists
  induction hcompiled with
  | nil => exact .nil
  | cons hrc _ ih =>
      obtain ⟨hc, hmem⟩ := List.forall_mem_cons.mp hmem
      exact .cons (hrc.declared hc) (ih hmem)

/-- Every rule of the table was compiled from an entry of the declaration. -/
theorem build_declared (h : d.build = .ok t) {id : StateId} {c : CompiledRule} (hc : c ∈ t.rulesOf id) :
    ∃ r, d.EntryAt r.state r.index (.rule r.rule) ∧ d.compileDeclared r = .ok c := by
  have hlt : id.index < d.states.length := by
    simpa [Table.stateCount, build_names h, names] using (d.build_closed h).lt_of_mem hc
  obtain ⟨⟨state, entries⟩, hi⟩ : ∃ s, d.states[id.index]? = some s := ⟨_, List.getElem?_eq_getElem hlt⟩
  obtain ⟨rs, hlists, hcompiled⟩ := build_compiled h hi
  obtain ⟨j, hj⟩ := List.getElem?_of_mem hc
  obtain ⟨r, hr, hrc⟩ := forall₂_right (mapM_eq_ok hcompiled) hj
  refine ⟨r, hlists.entryAt (fun k e he => ?_) r (List.mem_of_getElem? hr), hrc⟩
  exact ⟨entries, List.mem_of_getElem? hi, by rwa [Nat.zero_add]⟩

theorem compileDeclared_names (h : d.build = .ok t) {r : DeclaredRule} {c : CompiledRule}
    (hc : d.compileDeclared r = .ok c) : c.origin = r.state ∧ c.index = r.index ∧
      c.transition.mapM t.name? = some r.rule.transition ∧ c.emission.mapM t.name? = some r.rule.emission := by
  obtain ⟨_, ht, he, horigin, hindex, _⟩ := compileRule_eq_ok hc
  have hname (s : String) (id : StateId) (hid : resolveName d.names r.state s = .ok id) : t.name? id = some s := by
    rw [build_name? h]
    exact resolveName_eq_ok hid
  exact ⟨horigin, hindex, Transition.mapM_lookup hname (compileTransition_eq_ok ht).2.2,
    Emission.mapM_lookup hname (compileEmission_eq_ok he).2.2⟩

end Declaration

/-! ## Depth -/

mutual

/-- The walk that flattens a state, as it goes without a bound: what comes out of it, and how deep it goes.
`visiting` are the states whose entries are being walked, newest first. -/
inductive Flattens (declared : Array (List CompiledEntry)) :
    (visiting : List Nat) → Nat → Flattened → Except IncludeCycle Flattened → (depth : Nat) → Prop
  | known {visiting : List Nat} {id : Nat} {done : Flattened} :
      done.Has id → Flattens declared visiting id done (.ok done) 1
  | circle {visiting : List Nat} {id : Nat} {done : Flattened} :
      ¬ done.Has id → id ∈ visiting →
      Flattens declared visiting id done (.error ⟨id :: (visiting.takeWhile (· != id)).reverse ++ [id], done⟩) 1
  | walk {visiting : List Nat} {id depth : Nat} {done : Flattened}
      {out : Except IncludeCycle (List CompiledRule × Flattened)} :
      ¬ done.Has id → id ∉ visiting → FlattensEntries declared (id :: visiting) (declared.getD id []) done out depth →
      Flattens declared visiting id done (out.map fun (rules, done) => (id, rules) :: done) (depth + 1)

/-- The walk over some entries. It is as deep as the deepest of the walks that it starts. -/
inductive FlattensEntries (declared : Array (List CompiledEntry)) :
    (visiting : List Nat) → List CompiledEntry → Flattened →
    Except IncludeCycle (List CompiledRule × Flattened) → (depth : Nat) → Prop
  | nil {visiting : List Nat} {done : Flattened} : FlattensEntries declared visiting [] done (.ok ([], done)) 0
  | rule {visiting : List Nat} {done : Flattened} {r : CompiledRule} {es : List CompiledEntry} {depth : Nat}
      {out : Except IncludeCycle (List CompiledRule × Flattened)} :
      FlattensEntries declared visiting es done out depth →
      FlattensEntries declared visiting (.rule r :: es) done (out.map fun (rules, done) => (r :: rules, done)) depth
  | include {visiting : List Nat} {done done' : Flattened} {id : StateId} {es : List CompiledEntry}
      {depth depth' : Nat} {out : Except IncludeCycle (List CompiledRule × Flattened)} :
      Flattens declared visiting id.index done (.ok done') depth →
      FlattensEntries declared visiting es done' out depth' →
      FlattensEntries declared visiting (.include id :: es) done
        (out.map fun (rules, done'') => ((done'.rules? id.index).getD [] ++ rules, done'')) (max depth depth')
  | broken {visiting : List Nat} {done : Flattened} {id : StateId} {es : List CompiledEntry} {depth : Nat}
      {cycle : IncludeCycle} :
      Flattens declared visiting id.index done (.error cycle) depth →
      FlattensEntries declared visiting (.include id :: es) done (.error cycle) depth

end

section

variable {declared : Array (List CompiledEntry)}

theorem flattenEntries_flattens {visit : Nat → Flattened → Except IncludeCycle Flattened} {visiting : List Nat}
    {bound : Nat} {es : List CompiledEntry}
    (hv : ∀ id ∈ targets es, ∀ done, ∃ depth ≤ bound, Flattens declared visiting id done (visit id done) depth)
    (done : Flattened) :
    ∃ depth ≤ bound, FlattensEntries declared visiting es done (flattenEntries visit es done) depth := by
  induction es generalizing done with
  | nil => exact ⟨0, Nat.zero_le _, .nil⟩
  | cons e es ih =>
      cases e with
      | rule r =>
          obtain ⟨depth, hle, hrest⟩ := ih hv done
          refine ⟨depth, hle, ?_⟩
          have hmap := FlattensEntries.rule (r := r) hrest
          rw [flattenEntries]
          cases hout : flattenEntries visit es done with
          | error cycle => rw [hout] at hmap; exact hmap
          | ok out => rw [hout] at hmap; exact hmap
      | «include» id =>
          obtain ⟨hid, hv⟩ := List.forall_mem_cons.mp hv
          obtain ⟨depth, hle, hvisit⟩ := hid done
          rw [flattenEntries]
          cases hout : visit id.index done with
          | error cycle => rw [hout] at hvisit; exact ⟨depth, hle, .broken hvisit⟩
          | ok done' =>
              rw [hout] at hvisit
              obtain ⟨depth', hle', hrest⟩ := ih hv done'
              refine ⟨max depth depth', Nat.max_le.mpr ⟨hle, hle'⟩, ?_⟩
              have hmap := FlattensEntries.include hvisit hrest
              show FlattensEntries declared visiting (.include id :: es) done
                (flattenEntries visit es done' >>= _) _
              cases hout' : flattenEntries visit es done' with
              | error cycle => rw [hout'] at hmap; exact hmap
              | ok out => rw [hout'] at hmap; exact hmap

/-- With as much fuel as there are states that are not being walked, and one more, the walk is the one without a
bound. -/
theorem flattenState_flattens {fuel : Nat} {visiting : List Nat} {id : Nat} {done : Flattened}
    (hfuel : fuel + visiting.length = declared.size + 1) (hn : visiting.Nodup)
    (hc : (id :: visiting).IsChain fun j i => Arc declared i j) :
    ∃ depth ≤ fuel, Flattens declared visiting id done (flattenState declared fuel visiting id done) depth := by
  induction fuel generalizing visiting id done with
  | zero =>
      have hlen := length_le_of_visiting hn hc
      omega
  | succ fuel ih =>
      simp only [flattenState, List.contains_iff_mem]
      split
      next hid => exact ⟨1, Nat.le_add_left .., .known hid⟩
      next hid =>
        split
        next hmem => exact ⟨1, Nat.le_add_left .., .circle hid hmem⟩
        next hmem =>
          have hvisit : ∀ j ∈ targets (declared.getD id []), ∀ done, ∃ depth ≤ fuel,
              Flattens declared (id :: visiting) j done (flattenState declared fuel (id :: visiting) j done) depth :=
            fun j hj done => ih (by simp; omega) (List.nodup_cons.mpr ⟨hmem, hn⟩) (.cons_cons hj hc)
          obtain ⟨depth, hle, hwalk⟩ := flattenEntries_flattens hvisit done
          refine ⟨depth + 1, Nat.succ_le_succ hle, ?_⟩
          have hmap := Flattens.walk hid hmem hwalk
          cases hout : flattenEntries (flattenState declared fuel (id :: visiting)) (declared.getD id []) done with
          | error cycle => rw [hout] at hmap; exact hmap
          | ok out => rw [hout] at hmap; exact hmap

end

namespace Declaration

/-- The rules of a state are exactly the full expansion of its entries, each rule compiled once and the same wherever
it is included. A rule names the state and the entry that declare it, and what it refers to has the names that are
written there. Whether the declaration can be built or not, the walk over its includes ends, at a depth of at most one
more than it has states. -/
theorem rules_expanded (d : Declaration) :
    (∀ t, d.build = .ok t →
      (∀ (i : Nat) state entries, d.states[i]? = some (state, entries) → ∀ rules, t.rules? ⟨i⟩ = some rules ↔
        ∃ rs, d.Lists state 0 entries rs ∧ rs.mapM d.compileDeclared = .ok rules) ∧
      ∀ id rules, t.rules? id = some rules → ∀ c ∈ rules, ∃ r, d.EntryAt c.origin c.index (.rule r) ∧
        c.transition.mapM t.name? = some r.transition ∧ c.emission.mapM t.name? = some r.emission) ∧
    ∀ root declared, d.resolve = .ok (root, declared) → ∀ id done, ∃ depth ≤ d.states.length + 1,
      Flattens declared.toArray [] id done (flattenState declared.toArray (declared.length + 1) [] id done) depth := by
  refine ⟨fun t h => ⟨fun i state entries hi rules => ?_, fun id rules hrules c hc => ?_⟩,
    fun root declared hr id done => ?_⟩
  · obtain ⟨rs, hlists, hcompiled⟩ := build_compiled h hi
    rw [build_rules? h hi, Option.some.injEq]
    constructor
    · rintro rfl
      exact ⟨rs, hlists, hcompiled⟩
    · rintro ⟨rs', hlists', hcompiled'⟩
      rw [hlists'.unique (build_nodup h) hlists, hcompiled] at hcompiled'
      exact Except.ok.inj hcompiled'
  · have hof : t.rulesOf id = rules := by rw [Table.rulesOf, hrules]; rfl
    obtain ⟨r, hentry, hcompiled⟩ := build_declared h (hof ▸ hc)
    obtain ⟨horigin, hindex, hnames⟩ := compileDeclared_names h hcompiled
    exact ⟨r.rule, by rwa [horigin, hindex], hnames⟩
  · obtain ⟨_, _, hc⟩ := resolve_eq_ok hr
    have hlen := (compileStates_eq_ok hc).length_eq
    have hfuel : declared.length + 1 + ([] : List Nat).length = declared.toArray.size + 1 := by simp
    obtain ⟨depth, hle, hwalk⟩ := flattenState_flattens hfuel .nil (.singleton id)
    exact ⟨depth, by omega, hwalk⟩

/-- A state that is included on two ways and by name, and entries that may lead back. -/
def lattice (back : List Entry) : Declaration where
  states := [
    ("root", [.include "left", .include "right", .include "shared"]),
    ("left", [.rule { pattern := { text := "l" }, emission := .token ⟨"Name"⟩ }, .include "shared"]),
    ("right", [.include "shared"]),
    ("shared", .rule {
      pattern := { text := "<(x*)>" }, emission := .byGroups [.lex "right"], transition := .push ["left", "root"] }
      :: back)]

theorem rules_expanded_lattice :
    (∃ t rules rs, (lattice []).build = .ok t ∧ t.rules? ⟨0⟩ = some rules ∧
      rules.map (fun c => (c.origin, c.index, c.slot)) =
        [("left", 0, 0), ("shared", 0, 1), ("shared", 0, 1), ("shared", 0, 1)] ∧
      (lattice []).Lists "root" 0 [.include "left", .include "right", .include "shared"] rs ∧
      rs.mapM (lattice []).compileDeclared = .ok rules ∧
      ∀ c ∈ rules, ∃ r, (lattice []).EntryAt c.origin c.index (.rule r) ∧
        c.transition.mapM t.name? = some r.transition ∧ c.emission.mapM t.name? = some r.emission) ∧
    ∃ root declared cycle, (lattice [.include "root"]).resolve = .ok (root, declared) ∧
      flatten declared = .error cycle ∧ ∃ depth ≤ 5, Flattens declared.toArray [] 0 []
        (flattenState declared.toArray (declared.length + 1) [] 0 []) depth := by
  constructor
  · have h : ((lattice []).build.toOption.bind fun t => (t.rules? ⟨0⟩).map fun rules =>
        rules.map fun c => (c.origin, c.index, c.slot)) =
          some [("left", 0, 0), ("shared", 0, 1), ("shared", 0, 1), ("shared", 0, 1)] := by decide +kernel
    obtain ⟨t, ht, h⟩ := Option.bind_eq_some_iff.mp h
    obtain ⟨rules, hrules, hsites⟩ := Option.map_eq_some_iff.mp h
    have ht := toOption_eq_some.mp ht
    obtain ⟨hexpands, hnames⟩ := (rules_expanded (lattice [])).1 t ht
    obtain ⟨rs, hlists, hcompiled⟩ := (hexpands 0 _ _ rfl rules).mp hrules
    exact ⟨t, rules, rs, ht, hrules, hsites, hlists, hcompiled, hnames _ rules hrules⟩
  · have h : ((lattice [.include "root"]).resolve.map fun found => (flatten found.2).toOption.isSome) =
        .ok false := by decide +kernel
    obtain ⟨⟨root, declared⟩, hr, hflat⟩ := map_eq_ok.mp h
    have hwalk := (rules_expanded (lattice [.include "root"])).2 root declared hr 0 []
    cases hf : flatten declared with
    | ok done => rw [hf] at hflat; cases hflat
    | error cycle => exact ⟨root, declared, cycle, hr, hf, hwalk⟩

end Declaration

end ModalLexer
