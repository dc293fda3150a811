import ModalLexer.Proofs.Scan.Counterpart

/-!
When the choices of a rule come out alike with two tables: where both remember the same searches for the same rules,
whatever these searches find, and where searches find the leftmost match, whatever is remembered.
-/

namespace ModalLexer

open Text

namespace Table

variable {v : View} {t t' : Table} {text : String} {pos : Nat}

/-! ## The same searches -/

/-- The memories hold the same searches for rules that are declared at the same place. -/
def Remember (t t' : Table) (m m' : Memo) : Prop :=
  ∀ id id', ∀ r ∈ t.rulesOf id, ∀ r' ∈ t'.rulesOf id', r.origin = r'.origin → r.index = r'.index →
    Memo.lookup r.slot m.known = Memo.lookup r'.slot m'.known

/-- Rules can be told apart by their slots, and also by where they are declared. -/
structure Distinct (t : Table) : Prop where
  slots : t.SlotsIdentify
  sites : t.SitesIdentify

variable {m m' : Memo} {id id' : StateId} {r r' : CompiledRule}

theorem Remember.insert (hm : t.Remember t' m m') (ht : t.Distinct) (ht' : t'.Distinct) (hr : r ∈ t.rulesOf id)
    (hr' : r' ∈ t'.rulesOf id') (horigin : r.origin = r'.origin) (hindex : r.index = r'.index) (n : NextMatch)
    (searches searches' : Nat) :
    t.Remember t' ⟨Memo.insert r.slot n m.known, searches⟩ ⟨Memo.insert r'.slot n m'.known, searches'⟩ := by
  intro i i' q hq q' hq' hqo hqi
  -- One table finds the new entry for the rule if the other one does.
  have hslot : q.slot = r.slot ↔ q'.slot = r'.slot := by
    constructor
    · intro hs
      obtain rfl := ht.slots _ _ q hq r hr hs
      rw [ht'.sites _ _ q' hq' r' hr' (hqo.symm.trans horigin) (hqi.symm.trans hindex)]
    · intro hs
      obtain rfl := ht'.slots _ _ q' hq' r' hr' hs
      rw [ht.sites _ _ q hq r hr (hqo.trans horigin.symm) (hqi.trans hindex.symm)]
  rw [Memo.lookup_insert, Memo.lookup_insert]
  by_cases hs : q.slot = r.slot
  · rw [if_pos hs, if_pos (hslot.mp hs)]
  · rw [if_neg hs, if_neg (mt hslot.mpr hs)]
    exact hm i i' q hq q' hq' hqo hqi

theorem Remember.mayMatch (hm : t.Remember t' m m') (ht : t.Distinct) (ht' : t'.Distinct) (hr : r ∈ t.rulesOf id)
    (hr' : r' ∈ t'.rulesOf id') (hmatcher : r'.matcher = r.matcher) (horigin : r.origin = r'.origin)
    (hindex : r.index = r'.index) :
    Alike v t t' (fun out out' => out'.1 = out.1 ∧ t.Remember t' out.2 out'.2) (settled (m.mayMatch r text pos))
      (settled (m'.mayMatch r' text pos)) := by
  unfold Memo.mayMatch CompiledRule.needsSearch
  rw [hmatcher, ← hm id id' r hr r' hr' horigin hindex]
  split
  · split
    · exact .ok ⟨rfl, hm⟩
    · unfold CompiledRule.nextStart
      rw [hmatcher]
      cases r.matcher.next text pos with
      | error f => exact .error (by rw [CompiledRule.failure, CompiledRule.failure, horigin, hindex])
      | ok start => exact .ok ⟨rfl, hm.insert ht ht' hr hr' horigin hindex _ _ _⟩
  · exact .ok ⟨rfl, hm⟩

theorem settled_choose_cons (text : String) (pos : Nat) (r : CompiledRule) (rs : List CompiledRule) (m : Memo) :
    settled (choose text pos (r :: rs) m) = settled (m.mayMatch r text pos) >>= fun out =>
      match out with
      | (false, memo) => settled (choose text pos rs memo)
      | (true, memo) => r.matchAt text pos >>= fun found =>
        match found with
        | some found => .ok (some (r, found), memo)
        | none => settled (choose text pos rs memo) := by
  rw [choose]
  rcases m.mayMatch r text pos with ⟨e | answer, memo⟩
  · rfl
  · cases answer with
    | false => rfl
    | true =>
        simp only
        cases r.matchAt text pos with
        | error e => rfl
        | ok found =>
            cases found with
            | none => rfl
            | some found => rfl

theorem Remember.choose (ht : t.Distinct) (ht' : t'.Distinct) (hv : Function.Injective v.site)
    {rs rs' : List CompiledRule} (h : List.Forall₂ (CompiledRule.Like v t t') rs rs')
    (hrs : ∀ r ∈ rs, r ∈ t.rulesOf id) (hrs' : ∀ r' ∈ rs', r' ∈ t'.rulesOf id') (hm : t.Remember t' m m') :
    Alike v t t' (ChoiceLike v t t' (t.Remember t')) (settled (choose text pos rs m))
      (settled (choose text pos rs' m')) := by
  induction h generalizing m m' with
  | nil => exact .ok (.none hm)
  | cons hlike _ ih =>
      obtain ⟨hr, hrs⟩ := List.forall_mem_cons.mp hrs
      obtain ⟨hr', hrs'⟩ := List.forall_mem_cons.mp hrs'
      obtain ⟨horigin, hindex⟩ := hlike.origin_eq hv
      rw [settled_choose_cons, settled_choose_cons]
      refine (hm.mayMatch ht ht' hr hr' hlike.matcher horigin hindex).bind ?_
      rintro ⟨_, memo⟩ ⟨answer, memo'⟩ ⟨rfl, hmemo⟩
      cases answer with
      | false => exact ih hrs hrs' hmemo
      | true =>
          refine (hlike.matchAt text pos).bind ?_
          rintro found _ rfl
          cases found with
          | none => exact ih hrs hrs' hmemo
          | some found => exact .ok (.some hlike hmemo)

/-- Where rules are told apart by their sites, both tables make the same searches and choose alike. -/
theorem choosesLike_of_distinct (h : t.Counterpart v t') (ht : t.Distinct) (ht' : t'.Distinct)
    (hv : Function.Injective v.site) (text : String) : ChoosesLike v t t' (t.Remember t') text where
  empty _ _ _ _ _ _ _ _ := rfl
  choice hid _ _ _ _ hm := Remember.choose ht ht' hv (h.rules hid) (fun _ hr => hr) (fun _ hr => hr) hm

/-! ## Leftmost searches -/

theorem firstMatch_alike {memo memo' : Memo} {memos : Memo → Memo → Prop} (hmemo : memos memo memo')
    {rs rs' : List CompiledRule} (h : List.Forall₂ (CompiledRule.Like v t t') rs rs') :
    Alike v t t' (ChoiceLike v t t' memos) (settled (firstMatch text pos rs, memo))
      (settled (firstMatch text pos rs', memo')) := by
  induction h with
  | nil => exact .ok (.none hmemo)
  | @cons r r' rs rs' hlike _ ih =>
      have hmatch := hlike.matchAt text pos
      unfold firstMatch
      generalize r.matchAt text pos = found at hmatch ⊢
      generalize r'.matchAt text pos = found' at hmatch ⊢
      cases hmatch with
      | error he => exact .error he
      | cut hcut => exact .cut hcut
      | @ok found _ heq =>
          cases heq
          cases found with
          | none => exact ih
          | some found => exact .ok (.some hlike hmemo)

/-- Where searches are leftmost, both tables choose as if they tried every rule. -/
theorem choosesLike_of_leftmost (h : t.Counterpart v t') (ht : t.SlotsIdentify) (ht' : t'.SlotsIdentify)
    (hleft : t.Leftmost text) (hleft' : t'.Leftmost text) :
    ChoosesLike v t t' (fun m m' => m.Right t text ∧ m'.Right t' text) text where
  empty := ⟨Memo.right_empty t text, Memo.right_empty t' text⟩
  choice hid _ hpos _ _ hm := by
    obtain ⟨memo, hc, hmemo⟩ := choose_eq_firstMatch ht hleft hpos (fun _ hr => hr) hm.1
    obtain ⟨memo', hc', hmemo'⟩ := choose_eq_firstMatch ht' hleft' hpos (fun _ hr => hr) hm.2
    rw [hc, hc']
    exact firstMatch_alike ⟨hmemo, hmemo'⟩ (h.rules hid)

end Table

theorem CompiledRule.Like.leftmost {v : View} {t t' : Table} {r r' : CompiledRule} {text : String}
    (h : r.Like v t t' r') (hr : r.Leftmost text) : r'.Leftmost text := by
  have hnone {p : Nat} (hp : r.matchAt text p = .ok none) : r'.matchAt text p = .ok none := (h.matchAt text p).eq_ok hp
  intro pos hpos
  obtain ⟨start, hstart, hnext⟩ := hr pos hpos
  refine ⟨start, (h.nextStart text pos).eq_ok hstart, ?_⟩
  cases start with
  | none => exact fun p hle hp => hnone (hnext p hle hp)
  | some start =>
      obtain ⟨hle, ⟨m, hm⟩, hbefore⟩ := hnext
      exact ⟨hle, ⟨m, (h.matchAt text start).eq_ok hm⟩, fun p hpos hlt hp => hnone (hbefore p hpos hlt hp)⟩

end ModalLexer
