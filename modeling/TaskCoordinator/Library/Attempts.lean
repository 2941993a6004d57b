import Mathlib.Data.List.Basic

/-!
# Attempts until the first success

A loop that makes one attempt after the other and ends at the first that succeeds.  An
attempt changes the state whether it succeeds or not.
-/

namespace Attempts

variable {σ ι ρ : Type*}

/-- Make the attempts of a list in order until one of them has a result. -/
def firstSuccess (attempt : ι → σ → σ × Option ρ) : List ι → σ → σ × Option ρ
  | [], s => (s, none)
  | i :: rest, s =>
      match attempt i s with
      | (s', some result) => (s', some result)
      | (s', none) => firstSuccess attempt rest s'

variable {attempt : ι → σ → σ × Option ρ}

/-- What every attempt preserves, the loop preserves. -/
theorem firstSuccess_preserves {Inv : σ → Prop}
    (preserved : ∀ i s, Inv s → Inv (attempt i s).1) (indices : List ι) {s : σ} (holds : Inv s) :
    Inv (firstSuccess attempt indices s).1 := by
  induction indices generalizing s with
  | nil => exact holds
  | cons i rest ih =>
      have next := preserved i s holds
      rw [firstSuccess]
      split
      next s' result made =>
        rw [made] at next
        exact next
      next s' made =>
        rw [made] at next
        exact ih next

end Attempts
