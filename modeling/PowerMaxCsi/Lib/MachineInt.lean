import Mathlib.Algebra.Order.Group.Int

/-!
# Machine integers

A function that is written over `store : Int → m Int` has several readings: `wrapping` on 64 bits,
`checked`, and `pure`.  One that is the same under the last two does not overflow.
-/

namespace MachineInt

def InRange (x : Int) : Prop := -2 ^ 63 ≤ x ∧ x < 2 ^ 63

instance (x : Int) : Decidable (InRange x) := inferInstanceAs (Decidable (_ ∧ _))

def wrapping (x : Int) : Id Int := (x + 2 ^ 63) % 2 ^ 64 - 2 ^ 63

def checked (x : Int) : Option Int := if InRange x then some x else none

/-- Results that are in range are stored as they are. -/
def Faithful {m : Type → Type} [Monad m] (store : Int → m Int) : Prop :=
  ∀ x, InRange x → store x = pure x

theorem faithful_wrapping : Faithful wrapping := by
  rintro x ⟨hl, hh⟩
  show (x + 2 ^ 63) % 2 ^ 64 - 2 ^ 63 = x
  omega

theorem faithful_checked : Faithful checked := fun _ h => if_pos h

end MachineInt
