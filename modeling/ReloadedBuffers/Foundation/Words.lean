import Mathlib.Order.CompletePartialOrder
import Mathlib.Order.Interval.Set.Disjoint
import Mathlib.Tactic.Ring

/-! Unsigned machine words as naturals below a modulus, and half-open extents
of addresses. Wrapping is explicit: an operation that cannot wrap is rewritten
to plain arithmetic by one of the lemmas below.
-/

set_option autoImplicit false

namespace Words

/-- Wrapping addition. -/
def add (modulus a b : Nat) : Nat := (a + b) % modulus

/-- Wrapping subtraction. -/
def sub (modulus a b : Nat) : Nat := (a + modulus - b % modulus) % modulus

/-- Addition that stops at the largest word. -/
def satAdd (modulus a b : Nat) : Nat := min (a + b) (modulus - 1)

/-- Subtraction that stops at zero. -/
def satSub (a b : Nat) : Nat := a - b

theorem add_eq {modulus a b : Nat} (bound : a + b < modulus) : add modulus a b = a + b :=
  Nat.mod_eq_of_lt bound

theorem sub_eq {modulus a b : Nat} (bound : a < modulus) (le : b ≤ a) : sub modulus a b = a - b := by
  have small : b % modulus = b := Nat.mod_eq_of_lt (by omega)
  have shape : a + modulus - b = a - b + modulus := by omega
  rw [sub, small, shape, Nat.add_mod_right]
  exact Nat.mod_eq_of_lt (by omega)

/-- Wrapping up and back down again wraps the true value once. -/
theorem sub_add {modulus a b c : Nat} (small : c ≤ a + b) (less : c < modulus) :
    sub modulus (add modulus a b) c = (a + b - c) % modulus := by
  have reduced : c % modulus = c := Nat.mod_eq_of_lt less
  have parts : modulus * ((a + b) / modulus) + (a + b) % modulus = a + b := Nat.div_add_mod _ _
  rw [sub, add, reduced]
  cases quotient : (a + b) / modulus with
  | zero =>
      rw [quotient] at parts
      have shape : (a + b) % modulus + modulus - c = a + b - c + modulus := by omega
      rw [shape, Nat.add_mod_right]
  | succ wraps =>
      rw [quotient, Nat.mul_succ] at parts
      have shape : a + b - c = (a + b) % modulus + modulus - c + modulus * wraps := by omega
      rw [shape, Nat.add_mul_mod_self_left]

theorem satAdd_eq {modulus a b : Nat} (bound : a + b < modulus) : satAdd modulus a b = a + b := by
  have le : a + b ≤ modulus - 1 := by omega
  exact Nat.min_eq_left le

/-- The addresses of `length` bytes starting at `start`. -/
def extent (start length : Nat) : Set Nat := Set.Ico start (start + length)

@[simp] theorem mem_extent {start length address : Nat} :
    address ∈ extent start length ↔ start ≤ address ∧ address < start + length := Iff.rfl

theorem extent_subset {start length other size : Nat} (lower : other ≤ start)
    (upper : start + length ≤ other + size) : extent start length ⊆ extent other size :=
  Set.Ico_subset_Ico lower upper

theorem extent_disjoint_of_le {start length other size : Nat} (le : start + length ≤ other) :
    Disjoint (extent start length) (extent other size) := by
  apply Set.disjoint_left.mpr
  intro address first second
  rw [mem_extent] at first second
  omega

theorem extent_disjoint_iff {start length other size : Nat} :
    Disjoint (extent start length) (extent other size) ↔
      length = 0 ∨ size = 0 ∨ start + length ≤ other ∨ other + size ≤ start := by
  constructor
  · intro apart
    by_contra overlap
    -- The larger of the two starts lies in both.
    have first : max start other ∈ extent start length := by
      rw [mem_extent]
      omega
    have second : max start other ∈ extent other size := by
      rw [mem_extent]
      omega
    exact Set.disjoint_left.mp apart first second
  · intro apart
    apply Set.disjoint_left.mpr
    intro address first second
    rw [mem_extent] at first second
    omega

instance {start length other size : Nat} : Decidable (Disjoint (extent start length) (extent other size)) :=
  decidable_of_iff _ extent_disjoint_iff.symm

end Words
