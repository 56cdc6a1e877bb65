import CacheAside.Outcome

namespace CacheAside

/-- A step that answers ends with `post`, and one that fails, by an error or a fault, with `failed`.
    Neither is left waiting. -/
def Ends {ε α σ : Type} (post : α → σ → Prop) (failed : σ → Prop) : Outcome ε α × σ → Prop
  | (.ok answer, s) => post answer s
  | (.error _, s) | (.fault _, s) => failed s
  | (.blocked, _) => False

variable {ε ε' α β σ : Type} {post post' : α → σ → Prop} {failed failed' : σ → Prop}
  {x : Outcome ε α × σ}

theorem Ends.mono (ends : Ends post failed x) (answered : ∀ a s, post a s → post' a s)
    (unanswered : ∀ s, failed s → failed' s) : Ends post' failed' x := by
  obtain ⟨outcome, s⟩ := x
  cases outcome with
  | ok answer => exact answered answer s ends
  | error e => exact unanswered s ends
  | fault f => exact unanswered s ends
  | blocked => exact ends

theorem Outcome.map_eq_error {o : Outcome ε α} {f : α → β} {e : ε}
    (failed : o.map f = .error e) : o = .error e := by
  cases o with
  | error _ =>
    cases failed
    rfl
  | ok _ | fault _ | blocked => cases failed

@[simp] theorem Outcome.mapError_id (o : Outcome ε α) : o.mapError id = o := by
  cases o <;> rfl

theorem Outcome.mapError_eq_error {o : Outcome ε α} {f : ε → ε'} {e' : ε'}
    (failed : o.mapError f = .error e') : ∃ e, o = .error e ∧ e' = f e := by
  cases o with
  | error e =>
    cases failed
    exact ⟨e, rfl, rfl⟩
  | ok _ | fault _ | blocked => cases failed

theorem Ends.of_ok {answer : α} {s : σ} (ends : Ends post failed x)
    (returned : x = (.ok answer, s)) : post answer s := by
  subst returned
  exact ends

theorem Ends.of_not_ok {s : σ} {o : Outcome ε α} (ends : Ends post failed x)
    (returned : x = (o, s)) (unanswered : ∀ a, o ≠ .ok a) : failed s := by
  subst returned
  cases o with
  | ok a => exact absurd rfl (unanswered a)
  | error _ | fault _ => exact ends
  | blocked => exact ends.elim

theorem Ends.returns (ends : Ends post failed x) (never : ∀ s, ¬ failed s) :
    ∃ answer s, x = (.ok answer, s) ∧ post answer s := by
  obtain ⟨outcome, s⟩ := x
  cases outcome with
  | ok answer => exact ⟨answer, s, rfl, ends⟩
  | error _ | fault _ => exact absurd ends (never s)
  | blocked => exact ends.elim

/-- A step that is sure to answer where `sure` holds fails only where it does not. -/
theorem Ends.unless {sure : Prop} (ends : Ends post failed x)
    (answers : sure → Ends post' (fun _ => False) x) :
    Ends (fun a s => post a s ∧ (sure → post' a s)) (fun s => failed s ∧ ¬ sure) x := by
  obtain ⟨outcome, s⟩ := x
  cases outcome with
  | ok answer => exact ⟨ends, answers⟩
  | error e => exact ⟨ends, answers⟩
  | fault f => exact ⟨ends, answers⟩
  | blocked => exact ends

end CacheAside
