/-!
Computations that may fail: what a result says about the parts of the computation.
-/

namespace ModalLexer

theorem bind_eq_ok {x : Except ε α} {f : α → Except ε β} {b : β} :
    (x >>= f) = .ok b ↔ ∃ a, x = .ok a ∧ f a = .ok b := by
  cases x with
  | error e => simp [bind, Except.bind]
  | ok a => simp [bind, Except.bind]

theorem bind_eq_error {x : Except ε α} {f : α → Except ε β} {e : ε} :
    (x >>= f) = .error e ↔ x = .error e ∨ ∃ a, x = .ok a ∧ f a = .error e := by
  cases x with
  | error e => simp [bind, Except.bind]
  | ok a => simp [bind, Except.bind]

theorem map_eq_ok {x : Except ε α} {f : α → β} {b : β} : x.map f = .ok b ↔ ∃ a, x = .ok a ∧ f a = b := by
  cases x with
  | error e => simp [Except.map]
  | ok a => simp [Except.map]

theorem mapError_eq_ok {x : Except ε α} {f : ε → δ} {a : α} : x.mapError f = .ok a ↔ x = .ok a := by
  cases x with
  | error e =>
      constructor
      · intro h; cases h
      · intro h; cases h
  | ok b =>
      constructor
      · intro h; cases h; rfl
      · intro h; cases h; rfl

theorem map_eq_error {x : Except ε α} {f : α → β} {e : ε} : x.map f = .error e ↔ x = .error e := by
  cases x with
  | error e => simp [Except.map]
  | ok a => simp [Except.map]

theorem mapError_eq_error {x : Except ε α} {f : ε → δ} {e : δ} :
    x.mapError f = .error e ↔ ∃ e', x = .error e' ∧ f e' = e := by
  cases x with
  | error e' =>
      constructor
      · intro h; cases h; exact ⟨e', rfl, rfl⟩
      · rintro ⟨_, h, rfl⟩; cases h; rfl
  | ok a =>
      constructor
      · intro h; cases h
      · rintro ⟨_, h, _⟩; cases h

theorem toOption_eq_some {x : Except ε α} {a : α} : x.toOption = some a ↔ x = .ok a := by
  cases x with
  | error e => simp [Except.toOption]
  | ok a => simp [Except.toOption]

/-- What a computation that can be evaluated says of the two values that it goes through. -/
theorem exists_of_toOption_bind {ε' β γ : Type} {x : Except ε α} {f : α → Except ε' β} {g : α → β → γ} {c : γ}
    (h : (x.toOption.bind fun a => (f a).toOption.map (g a)) = some c) :
    ∃ a b, x = .ok a ∧ f a = .ok b ∧ g a b = c := by
  obtain ⟨a, ha, h⟩ := Option.bind_eq_some_iff.mp h
  obtain ⟨b, hb, hc⟩ := Option.map_eq_some_iff.mp h
  exact ⟨a, b, toOption_eq_some.mp ha, toOption_eq_some.mp hb, hc⟩

end ModalLexer
