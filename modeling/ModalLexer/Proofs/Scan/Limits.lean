import ModalLexer.Proofs.Scan.Rearrangement

/-!
Limits only cut scans off. A table with lower limits hands out the same items as one with higher limits, or tokens
that the other one begins with and then the error of a limit.
-/

namespace ModalLexer

/-- The error of a limit on empty matches or on nesting. -/
def Error.isLimit : Error → Bool
  | .zeroWidthLoop .. => true
  | .nestingTooDeep .. => true
  | _ => false

theorem Table.Cuts.isLimit {t t' : Table} {e : Error} (h : t.Cuts t' e) : e.isLimit = true := by
  cases e with
  | zeroWidthLoop name pos steps => rfl
  | nestingTooDeep depth => rfl
  | _ => cases h

/-- Where errors are looked at as they are, only an error of a limit makes a difference. -/
theorem Table.ScannedLike.plain {t t' : Table} {out out' : Scanned} (h : ScannedLike {} t t' out out') :
    out.tokens = out'.tokens ∧ out.error = out'.error ∨
      ∃ e, t.Cuts t' e ∧ out.error = some e ∧ out.tokens <+: out'.tokens := by
  cases h with
  | same htokens herror =>
      simp only [View.token_plain, List.map_id] at htokens
      simp only [Error.mapSite_id, Option.map_id_fun'] at herror
      exact .inl ⟨htokens.symm, herror⟩
  | cut herror hcut htokens =>
      rw [View.token_plain, List.map_id] at htokens
      exact .inr ⟨_, hcut, herror, htokens⟩

namespace Declaration

def withLimits (d : Declaration) (maxZeroWidth maxNesting : Nat) : Declaration :=
  { d with options := { d.options with maxZeroWidth, maxNesting } }

theorem rearranged_withLimits (d : Declaration) {z z' n n' : Nat} (hz : z ≤ z') (hn : n ≤ n') :
    (d.withLimits z n).Rearranged (d.withLimits z' n') :=
  ⟨⟨rfl, rfl, rfl, rfl, rfl, hz, hn⟩, .refl _⟩

end Declaration

namespace Stream

open Calls (outcomes)

/-- Raising the limits changes nothing but what comes after the error of a limit: the items are the same, or those
under the lower limits are tokens that the others begin with, and then such an error. -/
theorem limits_truncate {d : Declaration} {z z' n n' : Nat} (hz : z ≤ z') (hn : n ≤ n') {t : Table}
    (built : (d.withLimits z n).build = .ok t) :
    ∃ t', (d.withLimits z' n').build = .ok t' ∧ ∀ names, t'.initialStack names = t.initialStack names ∧
      ∀ text stack, t.initialStack names = .ok stack → ∃ tokens error tokens' error',
        (∀ i, Calls.item (next t text) (start stack) i = (outcomes tokens error)[i]?) ∧
        (∀ i, Calls.item (next t' text) (start stack) i = (outcomes tokens' error')[i]?) ∧
        (tokens = tokens' ∧ error = error' ∨ ∃ e, e.isLimit = true ∧ error = some e ∧ tokens <+: tokens') ∧
        ((∀ i e, Calls.item (next t text) (start stack) i = some (.error e) → e.isLimit = false) →
          ∀ i, Calls.item (next t text) (start stack) i = Calls.item (next t' text) (start stack) i) := by
  obtain ⟨t', built', hc, hchoose⟩ := (d.rearranged_withLimits hz hn).build built
  have hstacks := Table.initialStack_eq built built' rfl rfl
  refine ⟨t', built', fun names => ⟨hstacks names, fun text stack hstack => ?_⟩⟩
  obtain ⟨stack', hstack', hsame⟩ := hc.initialStack_ok hstack
  cases hstack.symm.trans ((hstacks names).symm.trans hstack')
  have hlike := Table.scanFrom_alike hc (fun part (_ : Text.IsPart text part) => ⟨_, hchoose part⟩) hsame
  refine ⟨_, _, _, _, item_eq_scanFrom hc.sound text stack, item_eq_scanFrom hc.sound' text stack, ?_⟩
  rcases hlike.plain with ⟨htokens, herror⟩ | ⟨e, hcut, herror, htokens⟩
  · refine ⟨.inl ⟨htokens, herror⟩, fun _ i => ?_⟩
    rw [item_eq_scanFrom hc.sound, item_eq_scanFrom hc.sound', htokens, herror]
  · refine ⟨.inr ⟨e, hcut.isLimit, herror, htokens⟩, fun hclean => ?_⟩
    -- The error of the limit is one of the items.
    obtain ⟨i, hi⟩ := Calls.exists_outcomes_error.mpr herror
    rw [← item_eq_scanFrom hc.sound] at hi
    exact absurd (hclean i e hi) (by rw [hcut.isLimit]; decide)

/-- Brackets inside brackets, each read as a group. -/
def nested : Declaration where
  states := [
    ("root", [
      .rule { pattern := { text := "x" }, emission := .token ⟨"Name"⟩ },
      .rule { pattern := { text := "<(x|<x>)>" }, emission := .byGroups [.lex "root"] }])]

theorem limits_truncate_nested : ∃ t t' stack, (nested.withLimits 2 1).build = .ok t ∧
    (nested.withLimits 2 3).build = .ok t' ∧ t.initialStack [] = .ok stack ∧ ∃ tokens tokens',
      (∀ i, Calls.item (next t "x<<x>>") (start stack) i = (outcomes tokens (some (.nestingTooDeep 1)))[i]?) ∧
      (∀ i, Calls.item (next t' "x<<x>>") (start stack) i = (outcomes tokens' none)[i]?) ∧ tokens <+: tokens' := by
  have h : ((nested.withLimits 2 1).build.toOption.bind fun t => (t.initialStack []).toOption.map fun stack =>
      (t.scanFrom "x<<x>>" stack).error) = some (some (.nestingTooDeep 1)) := by decide +kernel
  have h' : ((nested.withLimits 2 3).build.toOption.bind fun t => (t.initialStack []).toOption.map fun stack =>
      (t.scanFrom "x<<x>>" stack).error) = some none := by decide +kernel
  obtain ⟨t, stack, hb, hstack, hdeep⟩ := exists_of_toOption_bind h
  obtain ⟨t', stack', hb', hstack', hnone⟩ := exists_of_toOption_bind h'
  obtain ⟨_, hb'', hscans⟩ := limits_truncate (d := nested) (Nat.le_refl 2) (by decide : 1 ≤ 3) hb
  cases hb'.symm.trans hb''
  obtain ⟨hstacks, hscans⟩ := hscans []
  cases hstack'.symm.trans (hstacks.trans hstack)
  obtain ⟨tokens, error, tokens', error', hitems, hitems', hcase, _⟩ := hscans "x<<x>>" stack hstack
  obtain ⟨i, hi⟩ := Calls.exists_outcomes_error.mpr hdeep
  rw [← item_eq_scanFrom (Declaration.build_sound hb), hitems] at hi
  cases Calls.getElem?_outcomes_error hi
  have herror' : error' = none := Calls.error_eq_none fun i e => by
    rw [← hitems', item_eq_scanFrom (Declaration.build_sound hb'), hnone, Calls.getElem?_outcomes_none]
    simp
  cases herror'
  rcases hcase with ⟨_, herror⟩ | ⟨_, _, _, htokens⟩
  · cases herror
  · exact ⟨t, t', stack, hb, hb', hstack, tokens, tokens', hitems, hitems', htokens⟩

end Stream

end ModalLexer
