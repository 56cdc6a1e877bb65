import CacheAside.Word

namespace CacheAside

/-- A computation returns a value with the property `post`, or it faults, which only happens where
    `full` holds: where a counter that it needs has no room left. -/
def Yields {α : Type} (full : Prop) (post : α → Prop) : Except Fault α → Prop
  | .ok value => post value
  | .error _ => full

variable {α β : Type} {full full' : Prop} {post post' : α → Prop}

theorem Yields.pure {value : α} (holds : post value) : Yields full post (.ok value) := holds

theorem Yields.bind {mid : α → Prop} {post : β → Prop} {x : Except Fault α}
    {f : α → Except Fault β} (first : Yields full mid x)
    (rest : ∀ value, mid value → Yields full post (f value)) : Yields full post (x >>= f) := by
  cases x with
  | error fault => exact first
  | ok value => exact rest value first

theorem Yields.mono {x : Except Fault α} (yields : Yields full post x) (weaker : full → full')
    (implied : ∀ value, post value → post' value) : Yields full' post' x := by
  cases x with
  | error fault => exact weaker yields
  | ok value => exact implied value yields

theorem Yields.itself {x : Except Fault α} (yields : Yields full post x) :
    Yields full (fun value => x = .ok value ∧ post value) x := by
  cases x with
  | error fault => exact yields
  | ok value => exact ⟨rfl, yields⟩

theorem Yields.of_ok {x : Except Fault α} {value : α} (yields : Yields full post x)
    (returned : x = .ok value) : post value := by
  subst returned
  exact yields

theorem Yields.returns {x : Except Fault α} (yields : Yields full post x) (room : ¬ full) :
    ∃ value, x = .ok value ∧ post value := by
  cases x with
  | error fault => exact absurd yields room
  | ok value => exact ⟨value, rfl, yields⟩

theorem eq_ok_of_bind {ε : Type} {x : Except ε α} {f : α → Except ε β} {result : β}
    (returned : (x >>= f) = .ok result) : ∃ value, x = .ok value ∧ f value = .ok result := by
  cases x with
  | error fault => cases returned
  | ok value => exact ⟨value, rfl, returned⟩

theorem Word.add_yields (a b : Nat) :
    Yields (Word.bound ≤ a + b) (fun sum => sum = a + b) (Word.add a b) := by
  by_cases fits : a + b < Word.bound
  · rw [Word.add_of_lt fits]
    exact rfl
  · rw [Word.add_of_ge (Nat.not_lt.mp fits)]
    exact Nat.not_lt.mp fits

end CacheAside
