import Mathlib.Data.List.Forall2
import Mathlib.Data.List.Nodup
import ModalLexer.Document.Reader
import ModalLexer.Proofs.Document.Json
import ModalLexer.Proofs.Outcome

/-!
The forms of an entry. Of an object the names of the members and the values that they have decide which form it is and
what it says: no object has two forms, and neither the order in which the forms are tried nor that of the members
matters. An object of none of the forms is a mismatch.
-/

namespace ModalLexer.Document

/-! ## Members with names -/

theorem mapM_eq_some_iff {α β : Type} {f : α → Option β} {as : List α} {bs : List β} :
    as.mapM f = some bs ↔ List.Forall₂ (fun a b => f a = some b) as bs := by
  induction as generalizing bs with
  | nil => simp [eq_comm]
  | cons a as ih =>
      rw [List.mapM_cons, Option.bind_eq_bind, Option.bind_eq_some_iff, List.forall₂_cons_left_iff]
      constructor
      · rintro ⟨b, hb, h⟩
        obtain ⟨bs', hbs, h⟩ := Option.bind_eq_some_iff.mp h
        cases h
        exact ⟨b, bs', hb, ih.mp hbs, rfl⟩
      · rintro ⟨b, bs', hb, hbs, rfl⟩
        exact ⟨b, hb, Option.bind_eq_some_iff.mpr ⟨bs', ih.mpr hbs, rfl⟩⟩

theorem exists_of_mapM_eq_some {α β : Type} {f : α → Option β} {as : List α} {bs : List β}
    (h : as.mapM f = some bs) {a : α} (ha : a ∈ as) : ∃ b ∈ bs, f a = some b := by
  rw [mapM_eq_some_iff] at h
  induction h with
  | nil => cases ha
  | cons hab _ ih =>
      rcases List.mem_cons.mp ha with rfl | ha
      · exact ⟨_, List.mem_cons_self, hab⟩
      · obtain ⟨b, hb, hf⟩ := ih ha
        exact ⟨b, List.mem_cons_of_mem _ hb, hf⟩

/-- The members have no other names, and no two of them have the same. -/
structure Named (names : List String) (members : List (String × Json)) : Prop where
  known : ∀ m ∈ members, m.1 ∈ names
  distinct : (members.map (·.1)).Nodup

section

variable {names : List String} {members members' : List (String × Json)} {name : String} {v : Json}

theorem Named.perm (hperm : members.Perm members') (h : Named names members) : Named names members' where
  known m hm := h.known m (hperm.mem_iff.mpr hm)
  distinct := (hperm.map _).nodup_iff.mp h.distinct

theorem lookup_eq_some_iff (hdistinct : (members.map (·.1)).Nodup) :
    members.lookup name = some v ↔ (name, v) ∈ members := by
  induction members with
  | nil => simp
  | cons m members ih =>
      obtain ⟨n, w⟩ := m
      obtain ⟨hfresh, hdistinct⟩ := List.nodup_cons.mp hdistinct
      rw [List.lookup_cons, List.mem_cons, Prod.mk.injEq]
      by_cases hname : name = n
      · subst hname
        have hrest : (name, v) ∉ members := fun h => hfresh (List.mem_map_of_mem (f := (·.1)) h)
        simp [hrest, eq_comm]
      · rw [beq_eq_false_iff_ne.mpr hname]
        simpa [hname] using ih hdistinct

theorem lookup_eq_none_iff : members.lookup name = none ↔ ∀ v, (name, v) ∉ members := by
  rw [List.lookup_eq_none_iff]
  constructor
  · intro h v hv; simpa using h _ hv
  · rintro h ⟨n, v⟩ hv
    rw [bne_iff_ne, ne_eq]
    rintro rfl
    exact h v hv

theorem length_filter_le_of_onlyMember? {o : Option Json} (h : onlyMember? name members = some o) :
    (members.filter (·.1 == name)).length ≤ 1 := by
  unfold onlyMember? at h
  split at h
  next hnil => simp [hnil]
  next hone => simp [hone]
  · cases h

theorem count_map_fst : (members.map (·.1)).count name = (members.filter (·.1 == name)).length := by
  rw [List.count_eq_countP, List.countP_map, List.countP_eq_length_filter]
  rfl

theorem onlyMember?_eq (hdistinct : (members.map (·.1)).Nodup) (name : String) :
    onlyMember? name members = some (members.lookup name) := by
  have hmem {m : String × Json} : m ∈ members.filter (·.1 == name) ↔ m ∈ members ∧ m.1 = name := by
    simp [List.mem_filter]
  unfold onlyMember?
  split
  next hnil =>
    have habsent : ∀ v, (name, v) ∉ members := fun v hv => by
      have hv := hmem.mpr ⟨hv, rfl⟩
      rw [hnil] at hv
      cases hv
    rw [lookup_eq_none_iff.mpr habsent]
  next n v hone =>
    obtain ⟨hv, rfl⟩ := hmem.mp (hone ▸ List.mem_singleton_self (n, v))
    rw [(lookup_eq_some_iff hdistinct).mpr hv]
  next hnil hone =>
    have hcount := List.nodup_iff_count_le_one.mp hdistinct name
    rw [count_map_fst] at hcount
    match hfilter : members.filter (·.1 == name) with
    | [] => exact absurd hfilter hnil
    | [m] => exact absurd hfilter (hone m.1 m.2)
    | _ :: _ :: _ => rw [hfilter] at hcount; simp at hcount

/-- The values of named fields of an object: its members have these names only, each at most once. -/
theorem fields?_object_iff {values : List (Option Json)} : fields? names (.object members) = some values ↔
    Named names members ∧ names.map (fun n => members.lookup n) = values := by
  simp only [fields?]
  split
  next hall =>
    have hknown : ∀ m ∈ members, m.1 ∈ names := fun m hm =>
      List.contains_iff_mem.mp (List.all_eq_true.mp hall m hm)
    constructor
    · intro h
      have hdistinct : (members.map (·.1)).Nodup := by
        refine List.nodup_iff_count_le_one.mpr fun name => ?_
        by_cases hname : name ∈ members.map (·.1)
        · obtain ⟨m, hm, rfl⟩ := List.mem_map.mp hname
          obtain ⟨o, _, ho⟩ := exists_of_mapM_eq_some h (hknown m hm)
          rw [count_map_fst]
          exact length_filter_le_of_onlyMember? ho
        · rw [List.count_eq_zero_of_not_mem hname]; exact Nat.zero_le _
      simp only [onlyMember?_eq hdistinct] at h
      exact ⟨⟨hknown, hdistinct⟩, Option.some.inj (List.mapM_pure.symm.trans h)⟩
    · rintro ⟨⟨_, hdistinct⟩, rfl⟩
      simp only [onlyMember?_eq hdistinct]
      exact List.mapM_pure
  next hall =>
    constructor
    · intro h; cases h
    · rintro ⟨⟨hknown, _⟩, _⟩
      exact absurd (List.all_eq_true.mpr fun m hm => List.contains_iff_mem.mpr (hknown m hm)) hall

theorem map_some_append_replicate {items : List Json} (hnames : names.Nodup) (hle : items.length ≤ names.length) :
    items.map some ++ List.replicate (names.length - items.length) none =
      names.map fun n => (names.zip items).lookup n := by
  induction names generalizing items with
  | nil => simp [List.length_eq_zero_iff.mp (Nat.le_zero.mp hle)]
  | cons name names ih =>
      obtain ⟨hfresh, hnames⟩ := List.nodup_cons.mp hnames
      cases items with
      | nil => simp [List.replicate_succ]
      | cons v items =>
          have hrest : ∀ n ∈ names, ((name, v) :: names.zip items).lookup n = (names.zip items).lookup n := by
            intro n hn
            have hne : n ≠ name := fun h => hfresh (h ▸ hn)
            rw [List.lookup_cons, beq_eq_false_iff_ne.mpr hne]
          have hle : items.length ≤ names.length := by simpa using hle
          have htail := ih hnames hle
          simp only [List.map_cons, List.length_cons, List.cons_append, List.zip_cons_cons, Nat.add_sub_add_right,
            htail, List.lookup_cons_self, List.map_congr_left hrest]

/-- An array stands for the object in which its items have the names in order. -/
theorem fields?_array_iff {items : List Json} (hnames : names.Nodup) {values : List (Option Json)} :
    fields? names (.array items) = some values ↔
      items.length ≤ names.length ∧ names.map (fun n => (names.zip items).lookup n) = values := by
  simp only [fields?]
  split
  next hle => rw [map_some_append_replicate hnames hle, Option.some.injEq]; exact (and_iff_right hle).symm
  next hlong => simp [hlong]

end

/-! ## Values of fields -/

/-- What members say of a field that may be left out: where it is unset, a member of the name is null, and where it
is set, there is one whose value stands for what it is set to. -/
def Sets {α : Type} (stands : Json → α → Prop) (members : List (String × Json)) (name : String) : Option α → Prop
  | none => ∀ v, (name, v) ∈ members → v = .null
  | some a => ∃ v, (name, v) ∈ members ∧ stands v a

theorem Sets.perm {α : Type} {stands : Json → α → Prop} {members members' : List (String × Json)} {name : String}
    {o : Option α} (hperm : members.Perm members') (h : Sets stands members name o) : Sets stands members' name o := by
  cases o with
  | none => exact fun v hv => h v (hperm.mem_iff.mpr hv)
  | some a =>
      obtain ⟨v, hv, hstands⟩ := h
      exact ⟨v, hperm.mem_iff.mp hv, hstands⟩

theorem optional?_lookup_iff {α : Type} {read : Json → Option α} {stands : Json → α → Prop}
    (hread : ∀ v a, read v = some a ↔ stands v a) (hnull : read .null = none) {members : List (String × Json)}
    (hdistinct : (members.map (·.1)).Nodup) {name : String} {o : Option α} :
    optional? read (members.lookup name) = some o ↔ Sets stands members name o := by
  have hsome {v : Json} : members.lookup name = some v ↔ (name, v) ∈ members := lookup_eq_some_iff hdistinct
  have hunique {v w : Json} (hv : (name, v) ∈ members) (hw : (name, w) ∈ members) : v = w :=
    Option.some.inj ((hsome.mpr hv).symm.trans (hsome.mpr hw))
  cases hl : members.lookup name with
  | none =>
      have habsent := lookup_eq_none_iff.mp hl
      cases o with
      | none => simp [optional?, Sets, habsent]
      | some a => simp [optional?, Sets, habsent]
  | some v =>
      have hv := hsome.mp hl
      by_cases hvn : v = .null
      · subst hvn
        cases o with
        | none =>
            simp only [optional?, Sets, true_iff]
            exact fun w hw => hunique hw hv
        | some a =>
            have hnot : ¬ stands .null a := fun h => by rw [(hread _ _).mpr h] at hnull; cases hnull
            simp only [optional?, Sets, Option.some.injEq, reduceCtorEq, false_iff]
            rintro ⟨w, hw, hstands⟩
            exact hnot (hunique hw hv ▸ hstands)
      · have hopt : optional? read (some v) = (read v).map some := by
          cases v <;> first | rfl | exact absurd rfl hvn
        rw [hopt]
        cases o with
        | none =>
            simp only [Option.map_eq_some_iff, reduceCtorEq, and_false, exists_false, Sets, false_iff]
            exact fun h => hvn (h v hv)
        | some a =>
            simp only [Option.map_eq_some_iff, Option.some.injEq, exists_eq_right, hread, Sets]
            exact ⟨fun h => ⟨v, hv, h⟩, fun ⟨w, hw, h⟩ => hunique hw hv ▸ h⟩

/-- A null or a kind or an object with the state to scan from; other members of the object do not matter. -/
inductive Group.Stands : Json → Option Group → Prop
  | skip : Stands .null none
  | kind (path : String) : Stands (.string path) (some (.kind ⟨path⟩))
  | lex {members : List (String × Json)} {state : String}
      (only : members.filter (·.1 == "lex") = [("lex", .string state)]) : Stands (.object members) (some (.lex state))

/-- A list of groups. -/
def Rule.GroupsStand (v : Json) (gs : List (Option Group)) : Prop :=
  ∃ items, v = .array items ∧ List.Forall₂ Group.Stands items gs

theorem text?_eq_some_iff {v : Json} {s : String} : text? v = some s ↔ v = .string s := by
  cases v <;> simp [text?]

theorem natural?_eq_some_iff {v : Json} {n : Nat} : natural? v = some n ↔ v = .natural n := by
  cases v <;> simp [natural?]

theorem mapM_text?_eq_some_iff {items : List Json} {ss : List String} :
    items.mapM text? = some ss ↔ items = ss.map .string := by
  rw [mapM_eq_some_iff]
  simp only [text?_eq_some_iff]
  rw [← List.forall₂_eq_eq_eq, List.forall₂_map_right_iff]

theorem Push.ofJson?_eq_some_iff {v : Json} {p : Push} : Push.ofJson? v = some p ↔ v = p.toJson := by
  cases p with
  | one s => cases v <;> simp [Push.ofJson?, Push.toJson]
  | many ss => cases v <;> simp [Push.ofJson?, Push.toJson, mapM_text?_eq_some_iff]

theorem onlyMember?_eq_some_some_iff {members : List (String × Json)} {name : String} {v : Json} :
    onlyMember? name members = some (some v) ↔ members.filter (·.1 == name) = [(name, v)] := by
  unfold onlyMember?
  split
  next hnil => simp [hnil]
  next n w hone =>
    have hmem : (n, w) ∈ members.filter (·.1 == name) := by rw [hone]; exact List.mem_singleton_self _
    obtain rfl : n = name := by simpa using (List.mem_filter.mp hmem).2
    simp [hone]
  next hnil hone =>
    constructor
    · intro h; cases h
    · intro h; exact absurd h (hone name v)

theorem Group.optional?_eq_some_iff {v : Json} {g : Option Group} :
    optional? Group.ofJson? (some v) = some g ↔ Group.Stands v g := by
  constructor
  · intro h
    cases v with
    | null => cases h; exact .skip
    | string path => cases h; exact .kind path
    | object members =>
        obtain ⟨_, hgroup, rfl⟩ := Option.map_eq_some_iff.mp h
        obtain ⟨_, honly, hvalue⟩ := Option.bind_eq_some_iff.mp hgroup
        obtain ⟨w, rfl, htext⟩ := Option.bind_eq_some_iff.mp hvalue
        obtain ⟨state, hw, hlex⟩ := Option.bind_eq_some_iff.mp htext
        obtain rfl := text?_eq_some_iff.mp hw
        cases hlex
        exact .lex (onlyMember?_eq_some_some_iff.mp honly)
    | bool | natural | otherNumber | array => cases h
  · rintro (_ | path | only)
    · rfl
    · rfl
    · simp [optional?, Group.ofJson?, onlyMember?_eq_some_some_iff.mpr only, text?]

theorem Rule.groups?_eq_some_iff {v : Json} {gs : List (Option Group)} :
    Rule.groups? v = some gs ↔ Rule.GroupsStand v gs := by
  unfold GroupsStand
  cases v with
  | array items => simp [Rule.groups?, mapM_eq_some_iff, Group.optional?_eq_some_iff]
  | null | bool | natural | otherNumber | string | object => simp [Rule.groups?]

/-! ## Parts with named fields -/

def Move.names : List String := ["push", "pop", "goto"]

def Rule.names : List String := "pattern" :: "token" :: "groups" :: Move.names

/-- The members that say how the stack is moved. -/
structure Move.Described (members : List (String × Json)) (m : Move) : Prop where
  push : Sets (fun v p => v = p.toJson) members "push" m.push
  pop : Sets (fun v n => v = .natural n) members "pop" m.pop
  goto : Sets (fun v s => v = .string s) members "goto" m.goto

/-- The value stands for a move: an object with the fields of one, or an array of their values in order. -/
inductive Move.Stands : Json → Move → Prop
  | object {members : List (String × Json)} {m : Move} (named : Named Move.names members)
      (described : Move.Described members m) : Stands (.object members) m
  | array {items : List Json} {m : Move} (short : items.length ≤ Move.names.length)
      (described : Move.Described (Move.names.zip items) m) : Stands (.array items) m

/-- The members of an object that stands for a rule. -/
structure Rule.Described (members : List (String × Json)) (r : Rule) : Prop where
  named : Named Rule.names members
  pattern : ("pattern", .string r.pattern) ∈ members
  token : Sets (fun v k => v = .string k.path) members "token" r.token
  groups : Sets Rule.GroupsStand members "groups" r.groups
  move : Move.Described members r.move

theorem Rule.Described.perm {members members' : List (String × Json)} {r : Rule} (hperm : members.Perm members')
    (h : r.Described members) : r.Described members' where
  named := h.named.perm hperm
  pattern := hperm.mem_iff.mp h.pattern
  token := h.token.perm hperm
  groups := h.groups.perm hperm
  move := ⟨h.move.push.perm hperm, h.move.pop.perm hperm, h.move.goto.perm hperm⟩

/-- An object stands for an entry of one of the three forms. -/
inductive Entry.Stands : List (String × Json) → Entry → Prop
  | include (state : String) : Stands [("include", .string state)] (.include state)
  | default {v : Json} {m : Move} (moves : m.Stands v) : Stands [("default", v)] (.default m)
  | rule {members : List (String × Json)} {r : Rule} (described : r.Described members) : Stands members (.rule r)

theorem Move.ofFields?_lookup_iff {members : List (String × Json)} (hdistinct : (members.map (·.1)).Nodup)
    {m : Move} : Move.ofFields? (Move.names.map fun n => members.lookup n) = some m ↔ Move.Described members m := by
  have hpush {o : Option Push} : optional? Push.ofJson? (members.lookup "push") = some o ↔
      Sets (fun v p => v = p.toJson) members "push" o :=
    optional?_lookup_iff (fun _ _ => Push.ofJson?_eq_some_iff) rfl hdistinct
  have hpop {o : Option Nat} : optional? natural? (members.lookup "pop") = some o ↔
      Sets (fun v n => v = .natural n) members "pop" o :=
    optional?_lookup_iff (fun _ _ => natural?_eq_some_iff) rfl hdistinct
  have hgoto {o : Option String} : optional? text? (members.lookup "goto") = some o ↔
      Sets (fun v s => v = .string s) members "goto" o :=
    optional?_lookup_iff (fun _ _ => text?_eq_some_iff) rfl hdistinct
  simp only [Move.names, List.map_cons, List.map_nil, Move.ofFields?, Option.bind_eq_bind,
    Option.bind_eq_some_iff, hpush, hpop, hgoto]
  constructor
  · rintro ⟨push, hpush, pop, hpop, goto, hgoto, h⟩
    cases h
    exact ⟨hpush, hpop, hgoto⟩
  · rintro ⟨hpush, hpop, hgoto⟩
    exact ⟨_, hpush, _, hpop, _, hgoto, rfl⟩

theorem nodup_map_zip {names : List String} (hnames : names.Nodup) (items : List Json) :
    ((names.zip items).map (·.1)).Nodup := by
  rw [List.zip_eq_zip_take_min]
  have hlen : (names.take (min names.length items.length)).length ≤
      (items.take (min names.length items.length)).length := by
    simp
  exact (List.map_fst_zip hlen).symm ▸ hnames.sublist (List.take_sublist _ _)

theorem Move.ofJson?_eq_some_iff {v : Json} {m : Move} : Move.ofJson? v = some m ↔ m.Stands v := by
  have hnames : Move.names.Nodup := by simp [Move.names]
  constructor
  · intro h
    obtain ⟨values, hvalues, hmove⟩ := Option.bind_eq_some_iff.mp h
    cases v with
    | object members =>
        obtain ⟨hnamed, rfl⟩ := fields?_object_iff.mp hvalues
        exact .object hnamed ((ofFields?_lookup_iff hnamed.distinct).mp hmove)
    | array items =>
        obtain ⟨hle, rfl⟩ := (fields?_array_iff hnames).mp hvalues
        exact .array hle ((ofFields?_lookup_iff (nodup_map_zip hnames items)).mp hmove)
    | null | bool | natural | otherNumber | string => cases hvalues
  · intro h
    refine Option.bind_eq_some_iff.mpr ?_
    cases h with
    | object named described =>
        exact ⟨_, fields?_object_iff.mpr ⟨named, rfl⟩, (ofFields?_lookup_iff named.distinct).mpr described⟩
    | array short described =>
        exact ⟨_, (fields?_array_iff hnames).mpr ⟨short, rfl⟩,
          (ofFields?_lookup_iff (nodup_map_zip hnames _)).mpr described⟩

/-- A single member of a name, and no other. -/
theorem named_singleton_iff {members : List (String × Json)} {name : String} {v : Json} :
    Named [name] members ∧ members.lookup name = some v ↔ members = [(name, v)] := by
  constructor
  · rintro ⟨⟨hknown, hdistinct⟩, hv⟩
    match members with
    | [] => cases hv
    | [m] =>
        obtain ⟨n, w⟩ := m
        obtain rfl : n = name := List.mem_singleton.mp (hknown _ List.mem_cons_self)
        simp only [List.lookup_cons_self, Option.some.injEq] at hv
        rw [hv]
    | m :: m' :: rest =>
        have hsame : m.1 = m'.1 := (List.mem_singleton.mp (hknown m (by simp))).trans
          (List.mem_singleton.mp (hknown m' (by simp))).symm
        simp [hsame] at hdistinct
  · rintro rfl
    exact ⟨⟨by simp, by simp⟩, by simp⟩

namespace Entry

variable {members members' : List (String × Json)} {e e' : Entry}

/-! ## The forms of an object -/

theorem include?_object_iff :
    include? (.object members) = some e ↔ ∃ s, e = .include s ∧ members = [("include", .string s)] := by
  simp only [← named_singleton_iff]
  constructor
  · intro h
    obtain ⟨values, hvalues, h⟩ := Option.bind_eq_some_iff.mp h
    obtain ⟨hnamed, rfl⟩ := fields?_object_iff.mp hvalues
    cases hv : members.lookup "include" with
    | none => simp [hv] at h
    | some v =>
        simp only [List.map_cons, List.map_nil, hv] at h
        obtain ⟨s, hs, h⟩ := Option.bind_eq_some_iff.mp h
        obtain rfl := text?_eq_some_iff.mp hs
        cases h
        exact ⟨s, rfl, hnamed, rfl⟩
  · rintro ⟨s, rfl, hnamed, hv⟩
    refine Option.bind_eq_some_iff.mpr ⟨_, fields?_object_iff.mpr ⟨hnamed, rfl⟩, ?_⟩
    simp [hv, text?]

theorem default?_object_iff :
    default? (.object members) = some e ↔ ∃ v m, e = .default m ∧ members = [("default", v)] ∧ m.Stands v := by
  simp only [← named_singleton_iff]
  constructor
  · intro h
    obtain ⟨values, hvalues, h⟩ := Option.bind_eq_some_iff.mp h
    obtain ⟨hnamed, rfl⟩ := fields?_object_iff.mp hvalues
    cases hv : members.lookup "default" with
    | none => simp [hv] at h
    | some v =>
        simp only [List.map_cons, List.map_nil, hv] at h
        obtain ⟨m, hm, h⟩ := Option.bind_eq_some_iff.mp h
        cases h
        exact ⟨v, m, rfl, ⟨hnamed, rfl⟩, Move.ofJson?_eq_some_iff.mp hm⟩
  · rintro ⟨v, m, rfl, ⟨hnamed, hv⟩, hm⟩
    refine Option.bind_eq_some_iff.mpr ⟨_, fields?_object_iff.mpr ⟨hnamed, rfl⟩, ?_⟩
    simp [hv, Move.ofJson?_eq_some_iff.mpr hm]

theorem rule?_object_iff {r : Rule} : Rule.ofJson? (.object members) = some r ↔ r.Described members := by
  have hkind (v : Json) (k : Kind) : Rule.kind? v = some k ↔ v = .string k.path := by
    cases k
    cases v <;> simp [Rule.kind?, text?]
  have hfields {values : List (Option Json)} :
      fields? ["pattern", "token", "groups", "push", "pop", "goto"] (.object members) = some values ↔
        Named Rule.names members ∧ Rule.names.map (fun n => members.lookup n) = values := fields?_object_iff
  have hlookup : Rule.names.map (fun n => members.lookup n) = members.lookup "pattern" :: members.lookup "token" ::
      members.lookup "groups" :: Move.names.map fun n => members.lookup n := rfl
  constructor
  · intro h
    obtain ⟨values, hvalues, h⟩ := Option.bind_eq_some_iff.mp h
    obtain ⟨hnamed, rfl⟩ := hfields.mp hvalues
    have hdistinct := hnamed.distinct
    rw [hlookup] at h
    cases hpattern : members.lookup "pattern" with
    | none => simp [hpattern] at h
    | some v =>
        simp only [hpattern] at h
        obtain ⟨pattern, hp, hafter⟩ := Option.bind_eq_some_iff.mp h
        obtain ⟨token, htoken, hafter⟩ := Option.bind_eq_some_iff.mp hafter
        obtain ⟨groups, hgroups, hafter⟩ := Option.bind_eq_some_iff.mp hafter
        obtain ⟨move, hmove, hrule⟩ := Option.bind_eq_some_iff.mp hafter
        obtain rfl := text?_eq_some_iff.mp hp
        cases hrule
        exact ⟨hnamed, (lookup_eq_some_iff hdistinct).mp hpattern, (optional?_lookup_iff hkind rfl hdistinct).mp htoken,
          (optional?_lookup_iff (fun _ _ => Rule.groups?_eq_some_iff) rfl hdistinct).mp hgroups,
          (Move.ofFields?_lookup_iff hdistinct).mp hmove⟩
  · rintro ⟨hnamed, hpattern, htoken, hgroups, hmove⟩
    have hdistinct := hnamed.distinct
    have hpattern := (lookup_eq_some_iff hdistinct).mpr hpattern
    have htoken := (optional?_lookup_iff hkind rfl hdistinct).mpr htoken
    have hgroups :=
      (optional?_lookup_iff (fun _ _ => Rule.groups?_eq_some_iff) rfl hdistinct).mpr hgroups
    have hmove := (Move.ofFields?_lookup_iff hdistinct).mpr hmove
    refine Option.bind_eq_some_iff.mpr ⟨_, hfields.mpr ⟨hnamed, rfl⟩, ?_⟩
    rw [hlookup]
    simp [hpattern, text?, htoken, hgroups, hmove]

/-- The ways to take a value for an entry. -/
def forms : List (Json → Option Entry) :=
  [include?, default?, fun v => (Rule.ofJson? v).map .rule]

theorem ofJson?_eq_findSome? (v : Json) : ofJson? v = forms.findSome? (· v) := by
  simp only [ofJson?, forms, List.findSome?_cons, List.findSome?_nil]
  cases include? v with
  | some e => rfl
  | none =>
      cases default? v with
      | some e => rfl
      | none => cases Rule.ofJson? v <;> rfl

theorem stands_iff_form : Stands members e ↔ ∃ form ∈ forms, form (.object members) = some e := by
  simp only [forms, List.mem_cons, List.not_mem_nil, or_false, exists_eq_or_imp, exists_eq_left,
    include?_object_iff, default?_object_iff, Option.map_eq_some_iff, rule?_object_iff]
  constructor
  · intro h
    cases h with
    | «include» state => exact .inl ⟨state, rfl, rfl⟩
    | default moves => exact .inr (.inl ⟨_, _, rfl, rfl, moves⟩)
    | rule described => exact .inr (.inr ⟨_, described, rfl⟩)
  · rintro (⟨state, rfl, rfl⟩ | ⟨v, m, rfl, rfl, moves⟩ | ⟨r, described, rfl⟩)
    · exact .include state
    · exact .default moves
    · exact .rule described

/-- No object stands for two entries. -/
theorem Stands.unique (h : Stands members e) (h' : Stands members e') : e = e' := by
  have hrule {name : String} {v : Json} {r : Rule} (hname : name ≠ "pattern") (hr : r.Described [(name, v)]) :
      False := by
    have hpattern := List.mem_singleton.mp hr.pattern
    exact hname (congrArg Prod.fst hpattern).symm
  generalize hsame : members = members' at h'
  cases h with
  | «include» state =>
      cases h' with
      | «include» => simp at hsame; rw [hsame]
      | default => simp at hsame
      | rule described => exact (hrule (by decide) (hsame ▸ described)).elim
  | default moves =>
      cases h' with
      | «include» => simp at hsame
      | default moves' =>
          obtain rfl : _ = _ := by simpa using hsame
          have hsame := (Move.ofJson?_eq_some_iff.mpr moves).symm.trans (Move.ofJson?_eq_some_iff.mpr moves')
          rw [Option.some.inj hsame]
      | rule described => exact (hrule (by decide) (hsame ▸ described)).elim
  | rule described =>
      cases h' with
      | «include» => exact (hrule (by decide) (hsame ▸ described)).elim
      | default => exact (hrule (by decide) (hsame ▸ described)).elim
      | rule described' =>
          subst hsame
          have hsame := (rule?_object_iff.mpr described).symm.trans (rule?_object_iff.mpr described')
          rw [Option.some.inj hsame]

theorem findSome?_forms_iff {alternatives : List (Json → Option Entry)} (hperm : alternatives.Perm forms) :
    alternatives.findSome? (· (.object members)) = some e ↔ Stands members e := by
  have hstands {e : Entry} (h : alternatives.findSome? (· (.object members)) = some e) : Stands members e := by
    obtain ⟨form, hform, he⟩ := List.exists_of_findSome?_eq_some h
    exact stands_iff_form.mpr ⟨form, hperm.mem_iff.mp hform, he⟩
  refine ⟨hstands, fun h => ?_⟩
  obtain ⟨form, hform, he⟩ := stands_iff_form.mp h
  cases hfound : alternatives.findSome? (· (.object members)) with
  | none =>
      have hnone := List.findSome?_eq_none_iff.mp hfound form (hperm.mem_iff.mpr hform)
      rw [he] at hnone
      cases hnone
  | some e' => rw [(hstands hfound).unique h]

theorem ofJson?_object_iff : ofJson? (.object members) = some e ↔ Stands members e := by
  rw [ofJson?_eq_findSome?]
  exact findSome?_forms_iff (.refl _)

/-! ## The order of the members -/

theorem Stands.perm (hperm : members.Perm members') (h : Stands members e) : Stands members' e := by
  cases h with
  | «include» state => exact List.singleton_perm.mp hperm ▸ .include state
  | default moves => exact List.singleton_perm.mp hperm ▸ .default moves
  | rule described => exact .rule (described.perm hperm)

/-- An entry is what the value at its place stands for, and a mismatch if that is nothing. -/
theorem readEntry_eq {levels : Nat} {cs rest : List Char} {v : Json} (h : Json.readValue levels cs = .ok (v, rest)) :
    readEntry levels cs = (ofJson? v).elim (.error .mismatch) fun e => .ok (e, rest) := by
  simp only [readEntry, h, bind, Except.bind]
  cases ofJson? v <;> rfl

/-- An object stands for an entry exactly when it is one of the three forms, and it stands for no other; one of none of
the forms is a mismatch, in a value and in a text. The alternatives may be tried in any order, and the members may have
any order. -/
theorem ofJson?_exact (members : List (String × Json)) :
    (∀ e, ofJson? (.object members) = some e ↔ Stands members e) ∧
    (∀ e e', Stands members e → Stands members e' → e = e') ∧
    (∀ levels cs rest, Json.readValue levels cs = .ok (.object members, rest) →
      (∀ e, readEntry levels cs = .ok (e, rest) ↔ Stands members e) ∧
      (readEntry levels cs = .error .mismatch ↔ ¬ ∃ e, Stands members e)) ∧
    (∀ alternatives : List (Json → Option Entry), alternatives.Perm forms →
      alternatives.findSome? (· (.object members)) = ofJson? (.object members)) ∧
    (∀ members' : List (String × Json), members'.Perm members →
      ofJson? (.object members') = ofJson? (.object members)) := by
  refine ⟨fun e => ofJson?_object_iff, fun e e' => Stands.unique, ?_, ?_, ?_⟩
  · intro levels cs rest hread
    simp only [← ofJson?_object_iff, readEntry_eq hread]
    cases ofJson? (.object members) with
    | none => simp
    | some e => simp
  · intro alternatives hperm
    refine Option.ext fun e => ?_
    rw [findSome?_forms_iff hperm, ofJson?_object_iff]
  · intro members' hperm
    refine Option.ext fun e => ?_
    rw [ofJson?_object_iff, ofJson?_object_iff]
    exact ⟨Stands.perm hperm, Stands.perm hperm.symm⟩

/-- A rule whose members are out of order, with nulls and with more than the state in a group. -/
def scattered : List (String × Json) :=
  [("pop", .natural 1), ("groups", .array [.null, .string "A", .object [("x", .null), ("lex", .string "s")]]),
    ("token", .null), ("pattern", .string "(a)(b)(c)")]

theorem ofJson?_exact_scattered :
    (∃ r, Stands scattered (.rule r) ∧ readEntry 3 (Json.object scattered).write = .ok (.rule r, [])) ∧
    (∀ members : List (String × Json), members.Perm scattered →
      ofJson? (.object members) = ofJson? (.object scattered)) ∧
    readEntry 3 (Json.object (("pop", .null) :: scattered)).write = .error .mismatch := by
  have hread (members : List (String × Json)) (hfits : (Json.object members).Fits 3) :
      Json.readValue 3 (Json.object members).write = .ok (.object members, []) := by
    have hends : Json.Ends [] := by simp [Json.Ends]
    simpa using Json.readValue_write hfits hends
  have hrule : ofJson? (.object scattered) = some (.rule {
      pattern := "(a)(b)(c)", groups := some [none, some (.kind ⟨"A"⟩), some (.lex "s")]
      move := { pop := some 1 } }) := by
    decide +kernel
  have hrepeated : ofJson? (.object (("pop", .null) :: scattered)) = none := by decide +kernel
  obtain ⟨hstands, _, hentry, _, hperm⟩ := ofJson?_exact scattered
  obtain ⟨hstands', _, hentry', _⟩ := ofJson?_exact (("pop", .null) :: scattered)
  obtain ⟨hok, _⟩ := hentry 3 _ _ (hread scattered (by simp [scattered, Json.Fits]))
  obtain ⟨_, hfault⟩ := hentry' 3 _ _ (hread (("pop", .null) :: scattered) (by simp [scattered, Json.Fits]))
  have hrule := (hstands _).mp hrule
  refine ⟨⟨_, hrule, (hok _).mpr hrule⟩, hperm, hfault.mpr ?_⟩
  rintro ⟨e, he⟩
  rw [(hstands' e).mpr he] at hrepeated
  cases hrepeated

end Entry

end ModalLexer.Document
