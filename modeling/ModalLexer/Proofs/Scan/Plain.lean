import ModalLexer.Proofs.Scan.Memo
import ModalLexer.Proofs.Scan.Stream
import ModalLexer.Scan.Plain

/-!
A scan with a memory takes the steps of the plain one, where searches find the leftmost match: forgetting what it
remembers gives the plain scan. So both hand out the same items and stand at the same place with the same stack after
every call.
-/

namespace ModalLexer

open Text

namespace Table

/-- Two ways to scan groups agree on the parts of a text. -/
def AgreeOn (text : String) (lexGroup plain : GroupLexer) : Prop :=
  ∀ part, IsPart text part → ∀ state, lexGroup part state = plain part state

variable {t : Table} {text : String} {lexGroup plain : GroupLexer}

theorem matchTokens_agree (h : AgreeOn text lexGroup plain) (r : CompiledRule) (m : RuleMatch) (cursor : Nat) :
    t.matchTokens text lexGroup r m cursor = t.matchTokens text plain r m cursor := by
  have hpiece : ∀ actions p, t.pieceTokens text lexGroup actions p = t.pieceTokens text plain actions p := by
    intro actions p
    cases p with
    | gap span => rfl
    | group i span =>
        simp only [pieceTokens]
        split
        · rfl
        · rw [h _ (isPart_slice text span)]
        · rfl
  have hpieces : ∀ actions ps, t.piecesTokens text lexGroup actions ps = t.piecesTokens text plain actions ps := by
    intro actions ps
    induction ps with
    | nil => rfl
    | cons p ps ih => simp only [piecesTokens, hpiece, ih]
  unfold matchTokens
  split
  · rfl
  · exact hpieces _ _
  · rfl

theorem accept_forget (h : AgreeOn text lexGroup plain) (s : Scan) (r : CompiledRule) (m : RuleMatch) :
    t.accept text plain s.forget r m = (t.accept text lexGroup s r m).forget := by
  refine accept_eq_iff.mpr ?_
  have haccepts : t.Accepts text lexGroup s r m (t.accept text lexGroup s r m) := accepts_accept
  generalize t.accept text lexGroup s r m = out at haccepts ⊢
  cases haccepts with
  | inert empty stays => exact .inert empty stays
  | loop empty moves full => exact .loop empty moves full
  | count empty moves room => exact .count empty moves room
  | fail filled failed => exact .fail filled ((matchTokens_agree h r m _).symm.trans failed)
  | put filled put => exact .put filled ((matchTokens_agree h r m _).symm.trans put)

theorem fallback_forget (s : Scan) : t.fallback text s.forget = (t.fallback text s).forget := by
  by_cases hn : charText text s.cursor = "\n"
  · by_cases hr : t.options.resetOnNewline = true
    · simp [fallback, Scan.forget, Stepped.forget, hn, hr]
    · simp [fallback, Scan.forget, Stepped.forget, hn, hr]
  · simp [fallback, Scan.forget, Stepped.forget, hn]

/-! ## Steps and runs -/

/-- A step without a memory is the step with one, and what is remembered then is right again. -/
theorem plainStep_forget (hslots : t.SlotsIdentify) (hleft : t.Leftmost text) (hlex : AgreeOn text lexGroup plain)
    {s : Scan} (hs : isBoundary text s.cursor = true) (hm : s.memo.Right t text) :
    t.plainStep text plain s.forget = (t.step text lexGroup s).forget ∧
      (t.step text lexGroup s).scan.memo.Right t text := by
  have hrules : ∀ r ∈ t.rulesOf s.stack.top, r ∈ t.rulesOf s.stack.top := fun _ h => h
  obtain ⟨memo, hchoose, hm'⟩ := choose_eq_firstMatch hslots hleft hs hrules hm
  rw [step_memo, hchoose]
  refine ⟨?_, hm'⟩
  have hfirst : firstMatch text s.forget.cursor (t.rulesOf s.forget.stack.top) =
      firstMatch text s.cursor (t.rulesOf s.stack.top) := rfl
  rw [plainStep, hfirst, step, hchoose]
  rcases firstMatch text s.cursor (t.rulesOf s.stack.top) with e | _ | ⟨r, m⟩
  · rfl
  · exact fallback_forget { s with memo }
  · exact accept_forget hlex { s with memo } r m

theorem plainRunFrom_forget (ht : t.Sound) (hslots : t.SlotsIdentify) (hleft : t.Leftmost text)
    (hlex : AgreeOn text lexGroup plain) (hgroups : TilesGroups lexGroup) {fuel : Nat} {s : Scan}
    {done : List Token} (hs : InBounds t text s) (hm : s.memo.Right t text) :
    (t.plainRunFrom text plain fuel s.forget done).emitted = (t.runFrom text lexGroup fuel s done).emitted := by
  induction fuel generalizing s done with
  | zero => rfl
  | succ fuel ih =>
      obtain ⟨hplain, hright⟩ := plainStep_forget hslots hleft hlex hs.boundary hm
      have hcursor : s.forget.cursor = s.cursor := rfl
      simp only [plainRunFrom, runFrom, hcursor, hplain]
      split
      · rfl
      · rcases hstep : t.step text lexGroup s with ⟨s', tokens, _ | e⟩
        · rw [hstep] at hright
          have hp := step_progress ht hgroups hs.boundary (by omega) hstep
          exact ih (hp.inBounds hs) hright
        · rfl

theorem plainLexGroup_eq (ht : t.Sound) (hslots : t.SlotsIdentify) (levels : Nat) {text : String}
    (hleft : t.Leftmost text) (state : StateId) :
    t.lexGroup levels text state = t.plainLexGroup levels text state := by
  induction levels generalizing text state with
  | zero => rfl
  | succ levels ih =>
      -- Inside the group only parts of its text are scanned, so the searches there are leftmost as well.
      have hlex : AgreeOn text (t.lexGroup levels) (t.plainLexGroup levels) :=
        fun part hpart state => ih (hleft.part hpart) state
      exact (plainRunFrom_forget ht hslots hleft hlex (lexGroup_tiles ht levels)
        (inBounds_start t text ⟨t.root, [state]⟩) (Memo.right_empty t text)).symm

theorem lexOuterGroup_agree (ht : t.Sound) (hslots : t.SlotsIdentify) (hleft : t.Leftmost text) :
    AgreeOn text t.lexOuterGroup (t.plainLexGroup t.options.maxNesting) :=
  fun _ hpart state => plainLexGroup_eq ht hslots _ (hleft.part hpart) state

end Table

/-! ## Streams -/

namespace Stream

variable {t : Table} {text : String}

/-- The scan of a stream is in bounds as long as it goes on, and what it remembers is right. -/
structure Remembers (t : Table) (text : String) (s : Stream) : Prop where
  inBounds : s.InBounds t text
  right : s.scan.memo.Right t text

theorem plainAdvance_forget (ht : t.Sound) (hslots : t.SlotsIdentify) (hleft : t.Leftmost text) {fuel : Nat}
    {s : Scan} (hs : t.InBounds text s) (hm : s.memo.Right t text) :
    plainAdvance t text fuel s.forget = ((advance t text fuel s).1, (advance t text fuel s).2.forget) ∧
      Remembers t text (advance t text fuel s).2 := by
  have hlex := Table.lexOuterGroup_agree ht hslots hleft
  induction fuel generalizing s with
  | zero => exact ⟨rfl, fun _ => hs, hm⟩
  | succ fuel ih =>
      obtain ⟨hplain, hright⟩ := Table.plainStep_forget hslots hleft hlex hs.boundary hm
      have hcursor : s.forget.cursor = s.cursor := rfl
      simp only [plainAdvance, advance, hcursor, hplain]
      split
      · exact ⟨rfl, fun _ => hs, hm⟩
      · rcases hstep : t.step text t.lexOuterGroup s with ⟨s', tokens, _ | e⟩
        · rw [hstep] at hright
          have hp := Table.step_progress ht (Table.lexOuterGroup_tiles ht) hs.boundary (by omega) hstep
          cases tokens with
          | nil => exact ih (hp.inBounds hs) hright
          | cons token tokens => exact ⟨rfl, fun _ => hp.inBounds hs, hright⟩
        · rw [hstep] at hright
          exact ⟨rfl, (fun h => by cases h), hright⟩

theorem plainNext_forget (ht : t.Sound) (hslots : t.SlotsIdentify) (hleft : t.Leftmost text) {s : Stream}
    (hs : Remembers t text s) :
    plainNext t text s.forget = ((next t text s).1, (next t text s).2.forget) ∧
      Remembers t text (next t text s).2 := by
  obtain ⟨scan, pending, finished⟩ := s
  cases pending with
  | cons token rest => exact ⟨rfl, hs.inBounds, hs.right⟩
  | nil =>
      cases finished with
      | true => exact ⟨rfl, hs⟩
      | false => exact plainAdvance_forget ht hslots hleft (hs.inBounds rfl) hs.right

theorem plainAfter_forget (ht : t.Sound) (hslots : t.SlotsIdentify) (hleft : t.Leftmost text) (stack : StateStack)
    (n : Nat) : Calls.after (plainNext t text) (start stack) n = (Calls.after (next t text) (start stack) n).forget ∧
      Remembers t text (Calls.after (next t text) (start stack) n) := by
  induction n with
  | zero => exact ⟨rfl, fun _ => Table.inBounds_start t text stack, Memo.right_empty t text⟩
  | succ n ih =>
      obtain ⟨hforget, hs⟩ := ih
      obtain ⟨hnext, hs'⟩ := plainNext_forget ht hslots hleft hs
      rw [Calls.after_succ, Calls.after_succ, hforget, hnext]
      exact ⟨rfl, hs'⟩

theorem plainCalls_forget (ht : t.Sound) (hslots : t.SlotsIdentify) (hleft : t.Leftmost text) (stack : StateStack)
    (n : Nat) : Calls.item (plainNext t text) (start stack) n = Calls.item (next t text) (start stack) n ∧
      Calls.after (plainNext t text) (start stack) n = (Calls.after (next t text) (start stack) n).forget := by
  obtain ⟨hforget, hs⟩ := plainAfter_forget ht hslots hleft stack n
  obtain ⟨hnext, _⟩ := plainNext_forget ht hslots hleft hs
  exact ⟨by rw [Calls.item, Calls.item, hforget, hnext], hforget⟩

/-- Where searches find the leftmost match, remembering them changes nothing: call by call the stream hands out
what the plain scan hands out, and stands at the same place with the same stack. -/
theorem item_eq_plain {d : Declaration} {t : Table} (built : d.build = .ok t) {text : String}
    (leftmost : t.Leftmost text) (stack : StateStack) (n : Nat) :
    Calls.item (next t text) (start stack) n = Calls.item (plainNext t text) (start stack) n ∧
      (Calls.after (next t text) (start stack) n).scan.cursor =
        (Calls.after (plainNext t text) (start stack) n).scan.cursor ∧
      (Calls.after (next t text) (start stack) n).scan.stack =
        (Calls.after (plainNext t text) (start stack) n).scan.stack := by
  obtain ⟨hitem, hforget⟩ := plainCalls_forget (d.build_sound built) (d.build_slotsIdentify built) leftmost stack n
  refine ⟨hitem.symm, ?_, ?_⟩
  · rw [hforget]; rfl
  · rw [hforget]; rfl

/-- A rule that is searched for, in the state that the scan begins in and in the one for groups. -/
def lookahead : Declaration where
  states := [
    ("root", [
      .rule { pattern := { text := "z(x*y)" }, emission := .byGroups [.lex "inner"] },
      .include "inner"]),
    ("inner", [
      .rule { pattern := { text := "x(?=y)" }, emission := .token ⟨"Name"⟩ }])]

theorem item_eq_plain_lookahead : ∃ t, lookahead.build = .ok t ∧ t.Leftmost "xzxxy" ∧ ∀ n,
    Calls.item (next t "xzxxy") (start ⟨t.root, []⟩) n =
      Calls.item (plainNext t "xzxxy") (start ⟨t.root, []⟩) n := by
  have h : (lookahead.build.toOption.map fun t => decide (t.Leftmost "xzxxy")) = some true := by decide +kernel
  obtain ⟨t, hb, h⟩ := Option.map_eq_some_iff.mp h
  have hb := toOption_eq_some.mp hb
  have hleft := of_decide_eq_true h
  exact ⟨t, hb, hleft, fun n => (item_eq_plain hb hleft ⟨t.root, []⟩ n).1⟩

end Stream

end ModalLexer
