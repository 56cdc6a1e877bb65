import Mathlib.Algebra.Order.Ring.Nat
import CacheAside.Proofs.Pool.Balance

namespace CacheAside

def Instant.Reaches (now : Instant) (span : Span) : Prop :=
  ∃ deadline, now.after span = .ok deadline

namespace Pool

variable {C W W' : Type} {p : Pool C}

def Spare (p : Pool C) : Prop := p.idle ≠ [] ∨ p.total < p.maxSize

theorem Spare.checkout (spare : p.Spare) :
    ∃ checkedOut p', p.checkout = some (checkedOut, p') := by
  cases taken : p.checkout with
  | some result => exact ⟨result.1, result.2, rfl⟩
  | none =>
    obtain ⟨nobody, full⟩ := checkout_eq_none.mp taken
    rcases spare with idle | room
    · exact absurd nobody idle
    · omega

theorem Balanced.spare (balanced : p.Balanced 0) (positive : 0 < p.maxSize) : p.Spare := by
  have total := balanced.total
  cases waiting : p.idle with
  | cons connection idle => exact .inl (by simp [waiting])
  | nil =>
    rw [waiting, List.length_nil] at total
    exact .inr (by omega)

end Pool

end CacheAside
