import ModalLexer.Proofs.Pattern.Agreement
import ModalLexer.Proofs.Scan.Emissions
import ModalLexer.Proofs.Scan.Plain
import ModalLexer.Proofs.Table.Flattening

/-!
When memory may be asked. The searches of a table find the leftmost match, wherever they are not given up, if no
pattern of the declaration moves the start of the match or asks where the search began. Then a scan with a memory is
the plain one.
-/

namespace ModalLexer

open Text

/-! ## Searches of a rule -/

namespace CompiledRule

variable {r : CompiledRule} {text : String} {pos : Nat}

theorem matchAt_of_find_none (ha : r.matcher.Agrees) (h : r.matcher.find text pos = .ok none) :
    r.matchAt text pos = .ok none := by
  have hspan := matchAt_span ha text pos
  rw [h] at hspan
  obtain ⟨found, hfound, hnone⟩ := map_eq_ok.mp hspan
  rw [hfound, Option.map_eq_none_iff.mp hnone]

theorem matchAt_of_find_some (ha : r.matcher.Agrees) {span : Span} (h : r.matcher.find text pos = .ok (some span)) :
    ∃ m, r.matchAt text pos = .ok (some m) := by
  have hspan := matchAt_span ha text pos
  rw [h] at hspan
  obtain ⟨found, hfound, hsome⟩ := map_eq_ok.mp hspan
  obtain ⟨m, rfl, _⟩ := Option.map_eq_some_iff.mp hsome
  exact ⟨m, hfound⟩

theorem isNext_of_leftmost (hm : r.matcher.Leftmost text) (ha : r.matcher.Agrees) (hpos : isBoundary text pos = true)
    {start : Option Nat} (h : r.nextStart text pos = .ok start) : r.IsNext text pos start := by
  have h := mapError_eq_ok.mp h
  cases start with
  | none => exact fun p hle hp => matchAt_of_find_none ha (hm.nothing pos hpos h p hle hp)
  | some start =>
      obtain ⟨hle, ⟨span, hspan, _⟩, hearlier⟩ := hm.found hpos h
      exact ⟨hle, matchAt_of_find_some ha hspan, fun p hle hlt hp => matchAt_of_find_none ha (hearlier p hle hlt hp)⟩

end CompiledRule

/-! ## Searches of a table -/

/-- No search in the text or in a part of it is given up. -/
def Table.Answers (t : Table) (text : String) : Prop :=
  ∀ id, ∀ r ∈ t.rulesOf id, r.needsSearch = true → ∀ part, IsPart text part → ∀ pos, isBoundary part pos = true →
    ∃ start, r.nextStart part pos = .ok start

/-- No pattern of the declaration moves the start of the match or asks where the search began. -/
def Declaration.Unmarked (d : Declaration) : Prop :=
  ∀ state r index, d.EntryAt state index (.rule r) → r.pattern.marks d.options.multiLine = []

theorem Declaration.build_leftmost {d : Declaration} {t : Table} (h : d.build = .ok t) (unmarked : d.Unmarked)
    {text : String} (answers : t.Answers text) : t.Leftmost text := by
  intro id r hr hs part hpart pos hpos
  obtain ⟨start, hstart⟩ := answers id r hr hs part hpart pos hpos
  obtain ⟨declared, hentry, hdeclared⟩ := build_declared h hr
  obtain ⟨hm, _⟩ := compileRule_eq_ok hdeclared
  have hmarks := unmarked _ _ _ hentry
  refine ⟨start, hstart, CompiledRule.isNext_of_leftmost ?_ (Pattern.compile_agrees hm) hpos hstart⟩
  exact Pattern.compile_leftmost_of_unmarked hm hmarks part

/-- Without such patterns nothing has to be known of the searches but that they come to an end: call by call the plain
scan hands out what the stream hands out, and is left as the stream is, but for what that remembers. -/
theorem Stream.plainCalls_of_unmarked {d : Declaration} {t : Table} (built : d.build = .ok t) (unmarked : d.Unmarked)
    {text : String} (answers : t.Answers text) (stack : StateStack) (n : Nat) :
    Calls.item (plainNext t text) (start stack) n = Calls.item (next t text) (start stack) n ∧
      Calls.after (plainNext t text) (start stack) n = (Calls.after (next t text) (start stack) n).forget :=
  plainCalls_forget (d.build_sound built) (d.build_slotsIdentify built) (d.build_leftmost built unmarked answers)
    stack n

end ModalLexer
