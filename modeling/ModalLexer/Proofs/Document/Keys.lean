import ModalLexer.Proofs.Document.Values

/-!
The names of members. An object that stands for a document, an entry or a move in the text of a document that is read
has members of the names declared for it only, each at most once, so that a misspelled name is an error and not
without effect. Of an object that stands for a group this holds of one name only: others are passed over.
-/

namespace ModalLexer.Document

/-! ## Parts of documents -/

/-- What a value inside the value of a document stands for. -/
inductive Part
  | document
  | states
  | entries
  | entry
  | move
  | groups
  | group
deriving DecidableEq, Repr, Inhabited

def Entry.names : Entry → List String
  | .include _ => ["include"]
  | .default _ => ["default"]
  | .rule _ => Rule.names

namespace Part

/-- What a member of an object stands for. -/
def member? : Part → String → Option Part
  | document, "states" => some states
  | states, _ => some entries
  | entry, "default" => some move
  | entry, "groups" => some groups
  | _, _ => none

/-- What an item of an array stands for. The first item of an entry is the move of a default, or a text. -/
def item? : Part → Nat → Option Part
  | document, 5 => some states
  | entries, _ => some entry
  | entry, 0 => some move
  | entry, 2 => some groups
  | groups, _ => some group
  | _, _ => none

/-- The names declared for an object; those of an entry depend on its form. -/
def names? : Part → List (String × Json) → Option (List String)
  | document, _ => some (Field.all.map Field.name)
  | entry, members => (Entry.ofJson? (.object members)).map Entry.names
  | move, _ => some Move.names
  | group, _ => some ["lex"]
  | _, _ => none

/-- The second value stands for its part inside the first. -/
inductive Within : Part → Json → Part → Json → Prop
  | here {p : Part} {v : Json} : Within p v p v
  | member {p q r : Part} {members : List (String × Json)} {name : String} {w x : Json}
      (stands : p.member? name = some q) (mem : (name, w) ∈ members) (within : Within q w r x) :
      Within p (.object members) r x
  | item {p q r : Part} {items : List Json} {i : Nat} {w x : Json}
      (stands : p.item? i = some q) (mem : items[i]? = some w) (within : Within q w r x) :
      Within p (.array items) r x

/-- The value can be taken for the part. -/
def Accepts : Part → Json → Prop
  | document, v => (ofJson? v).isSome
  | states, v => (states? v).isSome
  | entries, v => (entries? v).isSome
  | entry, v => (Entry.ofJson? v).isSome
  | move, v => (Move.ofJson? v).isSome ∨ ∃ s, v = .string s
  | groups, v => v = .null ∨ (Rule.groups? v).isSome
  | group, v => (optional? Group.ofJson? (some v)).isSome

end Part

/-! ## Fields of a document -/

theorem Draft.seen_of_set? {d d' : Draft} {f : Field} {v : Json} (h : d.set? f v = some d') :
    d'.seen = f :: d.seen := by
  cases f <;> (obtain ⟨_, _, rfl⟩ := Option.map_eq_some_iff.mp h; rfl)

theorem Field.name_of_ofName? {name : String} {f : Field} (h : Field.ofName? name = some f) : f.name = name := by
  simpa using List.find?_some h

theorem Draft.setMember?_eq_some_iff {d d' : Draft} {m : String × Json} : d.setMember? m = some d' ↔
    ∃ f, Field.ofName? m.1 = some f ∧ f ∉ d.seen ∧ d.set? f m.2 = some d' := by
  simp only [setMember?, Option.bind_eq_some_iff]
  refine exists_congr fun f => and_congr_right fun _ => ?_
  split
  next hseen => simp [List.contains_iff_mem.mp hseen]
  next hseen =>
    have hseen : f ∉ d.seen := mt List.contains_iff_mem.mpr hseen
    simp [hseen]

/-- Each member sets a field of its own that was not set before. -/
theorem Draft.foldlM_setMember? {members : List (String × Json)} {d d' : Draft}
    (h : members.foldlM Draft.setMember? d = some d') :
    (∀ m ∈ members, ∃ f, Field.ofName? m.1 = some f ∧ f ∉ d.seen ∧ ∃ d₁ d₂ : Draft, d₁.set? f m.2 = some d₂) ∧
      (members.map (·.1)).Nodup := by
  induction members generalizing d with
  | nil => simp
  | cons m members ih =>
      rw [List.foldlM_cons] at h
      obtain ⟨d₁, hm, hmembers⟩ := Option.bind_eq_some_iff.mp h
      obtain ⟨f, hf, hfresh, hset⟩ := setMember?_eq_some_iff.mp hm
      obtain ⟨hall, hdistinct⟩ := ih hmembers
      have hseen := seen_of_set? hset
      constructor
      · intro m' hm'
        rcases List.mem_cons.mp hm' with rfl | hm'
        · exact ⟨f, hf, hfresh, d, d₁, hset⟩
        · obtain ⟨f', hf', hfresh', hset'⟩ := hall m' hm'
          exact ⟨f', hf', fun hmem => hfresh' (hseen ▸ List.mem_cons_of_mem f hmem), hset'⟩
      · refine List.nodup_cons.mpr ⟨fun hmem => ?_, hdistinct⟩
        obtain ⟨m', hm', hname⟩ := List.mem_map.mp hmem
        obtain ⟨f', hf', hfresh', _⟩ := hall m' hm'
        rw [hname, hf] at hf'
        cases hf'
        exact hfresh' (hseen ▸ List.mem_cons_self)

theorem Draft.setInOrder?_getElem {fs : List Field} {d d' : Draft} {vs : List Json}
    (h : d.setInOrder? fs vs = some d') {i : Nat} {w : Json} (hw : vs[i]? = some w) :
    ∃ f, fs[i]? = some f ∧ ∃ d₁ d₂ : Draft, d₁.set? f w = some d₂ := by
  induction fs generalizing d vs i with
  | nil =>
      cases vs with
      | nil => simp at hw
      | cons v vs => cases h
  | cons f fs ih =>
      cases vs with
      | nil => simp at hw
      | cons v vs =>
          obtain ⟨d₁, hset, hmore⟩ := Option.bind_eq_some_iff.mp h
          cases i with
          | zero =>
              obtain rfl : v = w := by simpa using hw
              exact ⟨f, rfl, d, d₁, hset⟩
          | succ i => exact ih hmore (by simpa using hw)

/-! ## Parts inside parts -/

/-- An item of an array is the value at its place, whatever is made of the values. -/
theorem exists_of_fields?_array {α : Type} {names : List String} {items : List Json}
    {take : List (Option Json) → Option α} {a : α} (h : (fields? names (.array items)).bind take = some a) {i : Nat}
    {w : Json} (hw : items[i]? = some w) : ∃ values, values[i]? = some (some w) ∧ take values = some a := by
  obtain ⟨values, hvalues, h⟩ := Option.bind_eq_some_iff.mp h
  refine ⟨values, ?_, h⟩
  simp only [fields?] at hvalues
  split at hvalues
  · cases hvalues
    have hi : i < items.length := (List.getElem?_eq_some_iff.mp hw).1
    rw [List.getElem?_append_left (by simpa using hi), List.getElem?_map, hw, Option.map_some]
  · cases hvalues

theorem Entry.form_of_ofJson? {v : Json} {e : Entry} (h : Entry.ofJson? v = some e) :
    include? v = some e ∨ default? v = some e ∨ ∃ r, Rule.ofJson? v = some r ∧ e = .rule r := by
  rw [ofJson?_eq_findSome?] at h
  obtain ⟨form, hform, h⟩ := List.exists_of_findSome?_eq_some h
  simp only [forms, List.mem_cons, List.not_mem_nil, or_false] at hform
  rcases hform with rfl | rfl | rfl
  · exact .inl h
  · exact .inr (.inl h)
  · obtain ⟨r, hr, rfl⟩ := Option.map_eq_some_iff.mp h
    exact .inr (.inr ⟨r, hr, rfl⟩)

section

variable {members : List (String × Json)} {items : List Json} {w : Json} {e : Entry}

theorem Entry.Stands.length_pos (h : Stands members e) : 0 < members.length := by
  cases h with
  | «include» => exact Nat.one_pos
  | default => exact Nat.one_pos
  | rule described => exact List.length_pos_of_mem described.pattern

/-- Only rules have several members. -/
theorem Entry.Stands.described (h : Stands members e) (hlen : 1 < members.length) :
    ∃ r : Rule, r.Described members := by
  cases h with
  | «include» => simp at hlen
  | default => simp at hlen
  | rule described => exact ⟨_, described⟩

theorem Entry.accepts_default (h : Entry.ofJson? (.object members) = some e) (hw : ("default", w) ∈ members) :
    Part.move.Accepts w := by
  cases ofJson?_object_iff.mp h with
  | «include» => simp at hw
  | default moves =>
      obtain rfl := (Prod.mk.inj (List.mem_singleton.mp hw)).2
      exact .inl (Option.isSome_of_eq_some (Move.ofJson?_eq_some_iff.mpr moves))
  | rule described => exact absurd (described.named.known _ hw) (by simp [Rule.names, Move.names])

theorem Entry.accepts_groups (h : Entry.ofJson? (.object members) = some e) (hw : ("groups", w) ∈ members) :
    Part.groups.Accepts w := by
  cases ofJson?_object_iff.mp h with
  | «include» => simp at hw
  | default => simp at hw
  | @rule _ r described =>
      have hgroups := described.groups
      cases hr : r.groups with
      | none => rw [hr] at hgroups; exact .inl (hgroups w hw)
      | some gs =>
          rw [hr] at hgroups
          obtain ⟨v, hv, hstand⟩ := hgroups
          have hlookup {w : Json} (hw : ("groups", w) ∈ members) : members.lookup "groups" = some w :=
            (lookup_eq_some_iff described.named.distinct).mpr hw
          obtain rfl := Option.some.inj ((hlookup hv).symm.trans (hlookup hw))
          exact .inr (Option.isSome_of_eq_some (Rule.groups?_eq_some_iff.mpr hstand))

/-- The first item of an entry that is an array is a state to include, the move of a default, or a pattern. -/
theorem Entry.accepts_first (h : Entry.ofJson? (.array items) = some e) (hw : items[0]? = some w) :
    Part.move.Accepts w := by
  obtain h | h | ⟨r, h, _⟩ := form_of_ofJson? h
  · obtain ⟨values, hget, h⟩ := exists_of_fields?_array h hw
    split at h
    next s =>
      obtain rfl : s = w := by simpa using hget
      obtain ⟨state, hs, _⟩ := Option.bind_eq_some_iff.mp h
      exact .inr ⟨state, text?_eq_some_iff.mp hs⟩
    next => cases h
  · obtain ⟨values, hget, h⟩ := exists_of_fields?_array h hw
    split at h
    next m =>
      obtain rfl : m = w := by simpa using hget
      obtain ⟨move, hm, _⟩ := Option.bind_eq_some_iff.mp h
      exact .inl (Option.isSome_of_eq_some hm)
    next => cases h
  · obtain ⟨values, hget, h⟩ := exists_of_fields?_array h hw
    split at h
    next pattern _ _ _ =>
      obtain rfl : pattern = w := by simpa using hget
      obtain ⟨text, htext, _⟩ := Option.bind_eq_some_iff.mp h
      exact .inr ⟨text, text?_eq_some_iff.mp htext⟩
    next => cases h

/-- Of entries that are arrays only rules have a third item. -/
theorem Entry.accepts_third (h : Entry.ofJson? (.array items) = some e) (hw : items[2]? = some w) :
    Part.groups.Accepts w := by
  obtain h | h | ⟨r, h, _⟩ := form_of_ofJson? h
  · obtain ⟨values, hget, h⟩ := exists_of_fields?_array h hw
    split at h
    next => simp at hget
    next => cases h
  · obtain ⟨values, hget, h⟩ := exists_of_fields?_array h hw
    split at h
    next => simp at hget
    next => cases h
  · obtain ⟨values, hget, h⟩ := exists_of_fields?_array h hw
    split at h
    next groups _ =>
      obtain rfl : groups = some w := by simpa using hget
      obtain ⟨_, _, h⟩ := Option.bind_eq_some_iff.mp h
      obtain ⟨_, _, h⟩ := Option.bind_eq_some_iff.mp h
      obtain ⟨groups, hgroups, _⟩ := Option.bind_eq_some_iff.mp h
      cases w with
      | null => exact .inl rfl
      | array items' =>
          obtain ⟨gs, hgs, _⟩ := Option.map_eq_some_iff.mp hgroups
          exact .inr (Option.isSome_of_eq_some hgs)
      | bool | natural | otherNumber | string | object => cases hgroups
    next => cases h

end

theorem states?_of_set? {d d' : Draft} {v : Json} (h : d.set? .states v = some d') : (states? v).isSome := by
  obtain ⟨states, hstates, _⟩ := Option.map_eq_some_iff.mp h
  exact Option.isSome_of_eq_some hstates

namespace Part

variable {p q r : Part} {members : List (String × Json)} {items : List Json} {v w x : Json} {name : String}

theorem Accepts.member (h : p.Accepts (.object members)) (hq : p.member? name = some q)
    (hw : (name, w) ∈ members) : q.Accepts w := by
  unfold member? at hq
  split at hq
  next =>
    cases hq
    obtain ⟨d, hd⟩ := Option.isSome_iff_exists.mp h
    obtain ⟨draft, hfold, _⟩ := Option.bind_eq_some_iff.mp hd
    obtain ⟨f, hf, _, d₁, d₂, hset⟩ := (Draft.foldlM_setMember? hfold).1 _ hw
    obtain rfl : Field.states = f := by simpa [Field.ofName?, Field.all, Field.name] using hf
    exact states?_of_set? hset
  next =>
    cases hq
    obtain ⟨states, hstates⟩ := Option.isSome_iff_exists.mp h
    obtain ⟨state, _, hstate⟩ := exists_of_mapM_eq_some hstates hw
    obtain ⟨entries, hentries, _⟩ := Option.map_eq_some_iff.mp hstate
    exact Option.isSome_of_eq_some hentries
  next =>
    cases hq
    obtain ⟨e, he⟩ := Option.isSome_iff_exists.mp h
    exact Entry.accepts_default he hw
  next =>
    cases hq
    obtain ⟨e, he⟩ := Option.isSome_iff_exists.mp h
    exact Entry.accepts_groups he hw
  next => cases hq

theorem Accepts.item (h : p.Accepts (.array items)) {i : Nat} (hq : p.item? i = some q) (hw : items[i]? = some w) :
    q.Accepts w := by
  unfold item? at hq
  split at hq
  next =>
    cases hq
    obtain ⟨d, hd⟩ := Option.isSome_iff_exists.mp h
    obtain ⟨draft, hset, _⟩ := Option.bind_eq_some_iff.mp hd
    obtain ⟨f, hf, d₁, d₂, hset⟩ := Draft.setInOrder?_getElem hset hw
    obtain rfl : Field.states = f := by simpa [Field.all] using hf
    exact states?_of_set? hset
  next =>
    cases hq
    obtain ⟨entries, hentries⟩ := Option.isSome_iff_exists.mp h
    obtain ⟨e, _, he⟩ := exists_of_mapM_eq_some hentries (List.mem_of_getElem? hw)
    exact Option.isSome_of_eq_some he
  next =>
    cases hq
    obtain ⟨e, he⟩ := Option.isSome_iff_exists.mp h
    exact Entry.accepts_first he hw
  next =>
    cases hq
    obtain ⟨e, he⟩ := Option.isSome_iff_exists.mp h
    exact Entry.accepts_third he hw
  next =>
    cases hq
    obtain ⟨gs, hgs⟩ := Option.isSome_iff_exists.mp (h.resolve_left nofun)
    obtain ⟨g, _, hg⟩ := exists_of_mapM_eq_some hgs (List.mem_of_getElem? hw)
    exact Option.isSome_of_eq_some hg
  next => cases hq

/-- What is inside a value that can be taken for a part can be taken for its own part. -/
theorem Accepts.within (h : p.Accepts v) (hwithin : Within p v r x) : r.Accepts x := by
  induction hwithin with
  | here => exact h
  | member stands mem _ ih => exact ih (h.member stands mem)
  | item stands mem _ ih => exact ih (h.item stands mem)

/-! ## Names -/

/-- The members of an object that can be taken for a document, an entry or a move are named as declared. -/
theorem Accepts.named (h : p.Accepts (.object members)) (hp : p = document ∨ p = entry ∨ p = move) :
    ∃ names, p.names? members = some names ∧ Named names members := by
  rcases hp with rfl | rfl | rfl
  · obtain ⟨d, hd⟩ := Option.isSome_iff_exists.mp h
    obtain ⟨draft, hfold, _⟩ := Option.bind_eq_some_iff.mp hd
    obtain ⟨hall, hdistinct⟩ := Draft.foldlM_setMember? hfold
    refine ⟨_, rfl, fun m hm => ?_, hdistinct⟩
    obtain ⟨f, hf, _⟩ := hall m hm
    exact List.mem_map.mpr ⟨f, List.mem_of_find?_eq_some hf, Field.name_of_ofName? hf⟩
  · obtain ⟨e, he⟩ := Option.isSome_iff_exists.mp h
    refine ⟨e.names, by simp only [names?, he, Option.map_some], ?_⟩
    cases Entry.ofJson?_object_iff.mp he with
    | «include» => exact ⟨by simp [Entry.names], by simp⟩
    | default => exact ⟨by simp [Entry.names], by simp⟩
    | rule described => exact described.named
  · obtain ⟨m, hm⟩ := Option.isSome_iff_exists.mp (h.resolve_right nofun)
    cases Move.ofJson?_eq_some_iff.mp hm with
    | object named => exact ⟨_, rfl, named⟩

/-- The state to scan a group from is given once; nothing is said of members of other names. -/
theorem Accepts.lex_once (h : group.Accepts (.object members)) : (members.map (·.1)).count "lex" = 1 := by
  obtain ⟨g, hg⟩ := Option.isSome_iff_exists.mp h
  cases Group.optional?_eq_some_iff.mp hg with
  | lex only => rw [count_map_fst, only]; rfl

/-- A further member of the name is one too many: it is unknown or it is there. Names unknown to a group are let
pass. -/
def Foreign (p : Part) (members : List (String × Json)) (name : String) : Prop :=
  (∃ names, p.names? members = some names ∧ (name ∉ names ∨ name ∈ members.map (·.1))) ∧
    (p = group → name = "lex")

/-- The second value is the first with a foreign member in an object inside it. -/
inductive Grows : Part → Json → Json → Prop
  | here {p : Part} {before after : List (String × Json)} {name : String} {w : Json}
      (foreign : Foreign p (before ++ after) name) :
      Grows p (.object (before ++ after)) (.object (before ++ (name, w) :: after))
  | member {p q : Part} {before after : List (String × Json)} {name : String} {w w' : Json}
      (stands : p.member? name = some q) (grows : Grows q w w') :
      Grows p (.object (before ++ (name, w) :: after)) (.object (before ++ (name, w') :: after))
  | item {p q : Part} {before after : List Json} {w w' : Json}
      (stands : p.item? before.length = some q) (grows : Grows q w w') :
      Grows p (.array (before ++ w :: after)) (.array (before ++ w' :: after))

theorem not_named_of_foreign {names : List String} {before after : List (String × Json)}
    (hforeign : name ∉ names ∨ name ∈ (before ++ after).map (·.1)) : ¬ Named names (before ++ (name, w) :: after) := by
  intro hnamed
  obtain ⟨hknown, hdistinct⟩ := hnamed.perm List.perm_middle
  rcases hforeign with hunknown | hused
  · exact hunknown (hknown _ List.mem_cons_self)
  · exact (List.nodup_cons.mp hdistinct).1 hused

theorem Foreign.not_accepts_entry {before after : List (String × Json)}
    (hforeign : Foreign entry (before ++ after) name) :
    ¬ entry.Accepts (.object (before ++ (name, w) :: after)) := by
  intro h
  obtain ⟨⟨names, hnames, hbad⟩, _⟩ := hforeign
  obtain ⟨e, he, rfl⟩ := Option.map_eq_some_iff.mp hnames
  obtain ⟨e', he'⟩ := Option.isSome_iff_exists.mp h
  have hold := Entry.ofJson?_object_iff.mp he
  have hkept {m : String × Json} (hm : m ∈ before ++ after) : m ∈ before ++ (name, w) :: after :=
    List.perm_middle.mem_iff.mpr (List.mem_cons_of_mem _ hm)
  have hlen : 1 < (before ++ (name, w) :: after).length := by
    have hpos := hold.length_pos
    simp only [List.length_append, List.length_cons] at hpos ⊢
    omega
  obtain ⟨r, hrule⟩ := (Entry.ofJson?_object_iff.mp he').described hlen
  -- the other forms have a member of a name that no rule has, which is still there
  generalize hmembers : before ++ after = members at hold hkept
  cases hold with
  | «include» =>
      have hname := hrule.named.known _ (hkept List.mem_cons_self)
      simp [Rule.names, Move.names] at hname
  | default =>
      have hname := hrule.named.known _ (hkept List.mem_cons_self)
      simp [Rule.names, Move.names] at hname
  | rule => exact not_named_of_foreign hbad hrule.named

theorem Foreign.not_accepts {before after : List (String × Json)} (hforeign : Foreign p (before ++ after) name)
    (h : p.Accepts (.object (before ++ after))) : ¬ p.Accepts (.object (before ++ (name, w) :: after)) := by
  intro h'
  have hnamed {names : List String} (hnames : ∀ members, p.names? members = some names)
      (hp : p = document ∨ p = entry ∨ p = move) : False := by
    obtain ⟨⟨names', hnames', hbad⟩, _⟩ := hforeign
    obtain ⟨names'', hnames'', hnamed⟩ := h'.named hp
    obtain rfl := Option.some.inj (hnames'.symm.trans (hnames _))
    obtain rfl := Option.some.inj (hnames''.symm.trans (hnames _))
    exact not_named_of_foreign hbad hnamed
  cases p with
  | document => exact hnamed (fun _ => rfl) (.inl rfl)
  | entry => exact hforeign.not_accepts_entry h'
  | move => exact hnamed (fun _ => rfl) (.inr (.inr rfl))
  | group =>
      obtain rfl := hforeign.2 rfl
      have hcount := h'.lex_once
      rw [(List.perm_middle.map _).count_eq, List.map_cons, List.count_cons_self, h.lex_once] at hcount
      cases hcount
  | states | entries | groups =>
      obtain ⟨⟨_, hnames, _⟩, _⟩ := hforeign
      cases hnames

theorem Grows.not_accepts (hgrows : Grows p v w) (h : p.Accepts v) : ¬ p.Accepts w := by
  induction hgrows with
  | here foreign => exact foreign.not_accepts h
  | member stands _ ih =>
      intro h'
      exact ih (h.member stands (by simp)) (h'.member stands (by simp))
  | item stands _ ih =>
      intro h'
      exact ih (h.item stands (by simp)) (h'.item stands (by simp))

end Part

open Document.Part (Within Grows)

/-- A document that is read has objects with the names declared for them only, each at most once: the document itself,
its entries, of whichever form, and its moves. An object for a group has one state to scan from. A document with one
more member in such an object, of a name that is unknown or already used, is not read; for groups this goes for the
name of the state. -/
theorem load_named {text : String} {d : Document} (h : load text = .ok d) :
    ∃ v, readWhole (Json.readValue Json.maxLevels) text = .ok v ∧
      (∀ p members, Within .document v p (.object members) → p = .document ∨ p = .entry ∨ p = .move →
        ∃ names, p.names? members = some names ∧ Named names members) ∧
      (∀ members, Within .document v .group (.object members) → (members.map (·.1)).count "lex" = 1) ∧
      ∀ grown text', Grows .document v grown → readWhole (Json.readValue Json.maxLevels) text' = .ok grown →
        ∃ e, load text' = .error e := by
  obtain ⟨v, hv, hd⟩ := load_eq_ok_iff.mp h
  have hdocument : Part.document.Accepts v := Option.isSome_of_eq_some hd
  refine ⟨v, hv, fun p members hwithin hp => (hdocument.within hwithin).named hp,
    fun members hwithin => (hdocument.within hwithin).lex_once, fun grown text' hgrows hgrown => ?_⟩
  cases hload : load text' with
  | error e => exact ⟨e, rfl⟩
  | ok d' =>
      obtain ⟨v', hv', hd'⟩ := load_eq_ok_iff.mp hload
      obtain rfl := Except.ok.inj (hgrown.symm.trans hv')
      exact absurd (Option.isSome_of_eq_some hd') (hgrows.not_accepts hdocument)

/-- A document with one rule, whose members are given. -/
def oneRule (members : List (String × Json)) : Json :=
  .object [("states", .object [("root", .array [.object members])])]

/-- A rule with a group that has more than the state to scan from. -/
def lax : List (String × Json) :=
  [("pattern", .string "(a)"), ("groups", .array [.object [("lex", .string "root"), ("more", .natural 1)]])]

theorem load_lax : ∃ d, readWhole (Json.readValue Json.maxLevels) (oneRule lax).render = .ok (oneRule lax) ∧
    load (oneRule lax).render = .ok d := by
  have hvalue : readWhole (Json.readValue Json.maxLevels) (oneRule lax).render = .ok (oneRule lax) :=
    readWhole_render (by simp [oneRule, lax, Json.maxLevels, Json.Fits])
  obtain ⟨d, hd⟩ : ∃ d, ofJson? (oneRule lax) = some d := Option.isSome_iff_exists.mp (by decide +kernel)
  exact ⟨d, hvalue, load_eq_ok_iff.mpr ⟨_, hvalue, hd⟩⟩

theorem load_named_lax : ∃ d, load (oneRule lax).render = .ok d ∧
    ∃ e, load (oneRule (lax ++ [("psuh", .string "root")])).render = .error e := by
  obtain ⟨d, hvalue, hload⟩ := load_lax
  obtain ⟨v, hv, _, _, hgrown⟩ := load_named hload
  obtain rfl := Except.ok.inj (hvalue.symm.trans hv)
  refine ⟨d, hload, hgrown (oneRule (lax ++ [("psuh", .string "root")])) _ ?_
    (readWhole_render (by simp [oneRule, lax, Json.maxLevels, Json.Fits]))⟩
  have hforeign : Part.entry.Foreign (lax ++ []) "psuh" :=
    ⟨⟨Rule.names, by decide +kernel, .inl (by simp [Rule.names, Move.names])⟩, by simp⟩
  have hrule := Grows.here (w := .string "root") hforeign
  have hentries : Grows .entries (.array [.object lax]) (.array [.object (lax ++ [("psuh", .string "root")])]) :=
    @Grows.item .entries .entry [] [] _ _ rfl hrule
  exact @Grows.member .document .states [] [] "states" _ _ rfl
    (@Grows.member .states .entries [] [] "root" _ _ rfl hentries)

/-- A document is read although an object of it has a name that is not declared for it: one for a group. -/
theorem lax_not_named : ¬ ∀ text d v, load text = .ok d → readWhole (Json.readValue Json.maxLevels) text = .ok v →
    ∀ p members names, Within .document v p (.object members) → p.names? members = some names →
      Named names members := by
  intro h
  obtain ⟨d, hvalue, hload⟩ := load_lax
  have hwithin : Within .document (oneRule lax) .group (.object [("lex", .string "root"), ("more", .natural 1)]) :=
    .member (by rfl) List.mem_cons_self <| .member (by rfl) List.mem_cons_self <|
      .item (i := 0) rfl rfl <| .member (by rfl) (List.mem_cons_of_mem _ List.mem_cons_self) <|
      .item (i := 0) rfl rfl .here
  have hnamed := h _ d _ hload hvalue _ _ _ hwithin rfl
  simpa using hnamed.known ("more", .natural 1) (by simp)

end ModalLexer.Document
