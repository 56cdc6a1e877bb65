import CacheAside.Pool.Basic

namespace CacheAside.Pool

variable {C : Type}

/-- The places of a pool are all accounted for while `out` of them are taken by connections in use
    or reserved for connections that are being opened. -/
structure Balanced (p : Pool C) (out : Nat) : Prop where
  total : p.idle.length + out = p.total
  fits : p.total ≤ p.maxSize

variable {p p' : Pool C} {out : Nat}

theorem create_eq_ok {maxSize : Nat} (created : create maxSize = .ok p) :
    p = ⟨[], 0, maxSize⟩ ∧ 0 < maxSize := by
  unfold create at created
  split at created
  · cases created
  · cases created
    exact ⟨rfl, by omega⟩

theorem create_balanced {maxSize : Nat} (created : create maxSize = .ok p) :
    p.Balanced 0 ∧ p.maxSize = maxSize ∧ 0 < maxSize := by
  obtain ⟨rfl, positive⟩ := create_eq_ok created
  exact ⟨⟨rfl, Nat.zero_le _⟩, rfl, positive⟩

theorem checkout_eq_idle {connection : C} (taken : p.checkout = some (.idle connection, p')) :
    p.idle = connection :: p'.idle ∧ p'.total = p.total ∧ p'.maxSize = p.maxSize := by
  unfold checkout at taken
  split at taken
  · rename_i waiting
    cases taken
    exact ⟨waiting, rfl, rfl⟩
  · split at taken <;> cases taken

theorem checkout_eq_opening (taken : p.checkout = some (.opening, p')) :
    p.idle = [] ∧ p.total < p.maxSize ∧ p' = { p with total := p.total + 1 } := by
  unfold checkout at taken
  split at taken
  · cases taken
  · rename_i nobody
    split at taken
    · rename_i room
      cases taken
      exact ⟨nobody, room, rfl⟩
    · cases taken

theorem checkout_eq_none : p.checkout = none ↔ p.idle = [] ∧ p.maxSize ≤ p.total := by
  unfold checkout
  split
  · rename_i waiting
    simp [waiting]
  · rename_i nobody
    by_cases room : p.total < p.maxSize
    · simp [room]
    · simp only [room, if_false, nobody, true_and, true_iff]
      omega

theorem forget_eq_ok (forgot : p.forget = .ok p') :
    0 < p.total ∧ p' = { p with total := p.total - 1 } := by
  by_cases taken : 0 < p.total
  · rw [forget, Word.sub_of_le taken] at forgot
    cases forgot
    exact ⟨taken, rfl⟩
  · rw [forget, Word.sub_of_lt (by omega)] at forgot
    cases forgot

theorem Balanced.checkout (b : p.Balanced out) {checkedOut : Checkout C}
    (taken : p.checkout = some (checkedOut, p')) :
    p'.Balanced (out + 1) ∧ p'.maxSize = p.maxSize := by
  have total := b.total
  have fits := b.fits
  cases checkedOut with
  | idle connection =>
    obtain ⟨waiting, sameTotal, sameSize⟩ := checkout_eq_idle taken
    rw [waiting, List.length_cons] at total
    exact ⟨⟨by omega, by omega⟩, sameSize⟩
  | opening =>
    obtain ⟨nobody, room, rfl⟩ := checkout_eq_opening taken
    exact ⟨⟨by simp only; omega, room⟩, rfl⟩

theorem Balanced.exhausted (b : p.Balanced out) (refused : p.checkout = none) :
    p.idle = [] ∧ p.total = p.maxSize ∧ out = p.maxSize := by
  have total := b.total
  have fits := b.fits
  obtain ⟨nobody, full⟩ := checkout_eq_none.mp refused
  rw [nobody, List.length_nil] at total
  exact ⟨nobody, by omega, by omega⟩

theorem Balanced.release (b : p.Balanced (out + 1)) (connection : C) :
    (p.release connection).Balanced out := by
  have total := b.total
  refine ⟨?_, b.fits⟩
  simp only [Pool.release, List.length_append, List.length_singleton]
  omega

theorem Balanced.forget (b : p.Balanced (out + 1)) :
    ∃ p', p.forget = .ok p' ∧ p'.Balanced out ∧ p'.maxSize = p.maxSize := by
  have total := b.total
  have fits := b.fits
  refine ⟨{ p with total := p.total - 1 }, ?_, ⟨by simp only; omega, by simp only; omega⟩, rfl⟩
  rw [Pool.forget, Word.sub_of_le (by omega)]
  rfl

theorem settle_snd {W : Type} (opened : Outcome ConnectionError C) (s : Pool C × W) :
    (settle opened s).2.2 = s.2 := by
  cases opened with
  | ok _ | blocked => rfl
  | error _ | fault _ =>
    simp only [settle]
    split <;> rfl

theorem Balanced.inUse (b : p.Balanced out) : p.stats.inUse = .ok out := by
  have total := b.total
  rw [PoolStats.inUse, stats, Word.sub_of_le (by simp only; omega)]
  exact congrArg Except.ok (by simp only; omega)

end CacheAside.Pool
