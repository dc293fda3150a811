/-!
Repeated calls of a function that hands out one item at a time and returns the state for the next call. Where
what is left to hand out is known of every state, the items of all calls are known.
-/

namespace ModalLexer.Calls

/-! ## Items -/

section

variable {σ α : Type} (next : σ → Option α × σ)

/-- The state after so many calls. -/
def after (s : σ) : (calls : Nat) → σ
  | 0 => s
  | n + 1 => after (next s).2 n

/-- What the call after so many others hands out. -/
def item (s : σ) (calls : Nat) : Option α :=
  (next (after next s calls)).1

/-- A call hands out the first item of what was left, the rest is left then, and an invariant is kept. -/
structure Hands (rest : σ → List α) (Inv : σ → Prop) (left : List α) (out : Option α × σ) : Prop where
  items : left = out.1.toList ++ rest out.2
  ended : out.1 = none → rest out.2 = []
  inv : Inv out.2

variable {next}

theorem after_succ (s : σ) (n : Nat) : after next s (n + 1) = (next (after next s n)).2 := by
  induction n generalizing s with
  | zero => rfl
  | succ n ih => exact ih (next s).2

theorem item_succ (s : σ) (n : Nat) : item next s (n + 1) = item next (next s).2 n :=
  rfl

theorem after_add (s : σ) (m n : Nat) : after next s (m + n) = after next (after next s m) n := by
  induction m generalizing s with
  | zero => rw [Nat.zero_add]; rfl
  | succ m ih => rw [Nat.succ_add]; exact ih (next s).2

/-- A state that a call does not change is never left. -/
theorem after_of_fixed {s : σ} (h : (next s).2 = s) (n : Nat) : after next s n = s := by
  induction n with
  | zero => rfl
  | succ n ih => rw [after_succ, ih, h]

theorem after_inv {motive : σ → Prop} (hnext : ∀ s, motive s → motive (next s).2) {s : σ} (hs : motive s)
    (n : Nat) : motive (after next s n) := by
  induction n with
  | zero => exact hs
  | succ n ih => rw [after_succ]; exact hnext _ ih

/-- A function that is carried over call by call is carried over to all calls. -/
theorem calls_map {τ β : Type} {next' : τ → Option β × τ} {φ : σ → τ} {g : α → β}
    (hnext : ∀ s, next' (φ s) = ((next s).1.map g, φ (next s).2)) (s : σ) (n : Nat) :
    after next' (φ s) n = φ (after next s n) ∧ item next' (φ s) n = (item next s n).map g := by
  have hafter : after next' (φ s) n = φ (after next s n) := by
    induction n with
    | zero => rfl
    | succ n ih => rw [after_succ, after_succ, ih, hnext]
  exact ⟨hafter, by rw [item, item, hafter, hnext]⟩

/-- The calls hand out one after the other what is left. -/
theorem item_eq {rest : σ → List α} {Inv : σ → Prop} (hnext : ∀ s, Inv s → Hands rest Inv (rest s) (next s))
    {s : σ} (hs : Inv s) (n : Nat) : item next s n = (rest s)[n]? := by
  induction n generalizing s with
  | zero =>
      have hn := hnext s hs
      simp only [item, after]
      cases hi : (next s).1 with
      | none => rw [hn.items, hn.ended hi, hi]; rfl
      | some x => rw [hn.items, hi]; rfl
  | succ n ih =>
      have hn := hnext s hs
      rw [item_succ, ih hn.inv]
      cases hi : (next s).1 with
      | none => rw [hn.items, hn.ended hi, hi]; simp
      | some x => rw [hn.items, hi]; simp

end

/-! ## Values and an error -/

variable {α ε : Type}

/-- Values in order, and then the error that came after them if one did. -/
def outcomes (values : List α) (error : Option ε) : List (Except ε α) :=
  values.map .ok ++ (error.map .error).toList

theorem getElem?_outcomes_none (values : List α) (n : Nat) :
    (outcomes values (none : Option ε))[n]? = (values[n]?).map .ok := by
  simp [outcomes]

theorem getElem?_outcomes_error {values : List α} {error : Option ε} {n : Nat} {e : ε}
    (h : (outcomes values error)[n]? = some (.error e)) : error = some e := by
  have hmem := List.mem_of_getElem? h
  rcases List.mem_append.mp hmem with hm | hm
  · obtain ⟨_, _, hv⟩ := List.mem_map.mp hm
    cases hv
  · cases error with
    | none => cases hm
    | some e' => cases List.mem_singleton.mp hm; rfl

/-- The error comes after all values. -/
theorem length_le_of_getElem?_outcomes {values : List α} {error : Option ε} {n : Nat} {e : ε}
    (h : (outcomes values error)[n]? = some (.error e)) : values.length ≤ n := by
  refine Nat.le_of_not_lt fun hlt => ?_
  rw [outcomes, List.getElem?_append_left (by simpa using hlt), List.getElem?_map] at h
  obtain ⟨_, _, hv⟩ := Option.map_eq_some_iff.mp h
  cases hv

/-- An error is handed out if it is the one that came after the values. -/
theorem exists_outcomes_error {values : List α} {error : Option ε} {e : ε} :
    (∃ n : Nat, (outcomes values error)[n]? = some (.error e)) ↔ error = some e := by
  constructor
  · rintro ⟨n, h⟩; exact getElem?_outcomes_error h
  · rintro rfl; exact ⟨values.length, by simp [outcomes]⟩

theorem error_eq_none {values : List α} {error : Option ε}
    (h : ∀ (n : Nat) e, (outcomes values error)[n]? ≠ some (.error e)) : error = none := by
  cases error with
  | none => rfl
  | some e => exact absurd (by simp [outcomes]) (h values.length e)

end ModalLexer.Calls
