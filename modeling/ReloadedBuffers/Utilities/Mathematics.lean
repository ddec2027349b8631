import ReloadedBuffers.Foundation.Words

/-! Rounding and capped arithmetic on `usize`, in the wrapping arithmetic of the
release profile.
-/

set_option autoImplicit false

namespace ReloadedBuffers

def roundUp (usize number multiple : Nat) : Nat :=
  if multiple = 0 then number
  else
    let remainder := number % multiple
    if remainder = 0 then number
    else Words.sub usize (Words.add usize number multiple) remainder

def roundDown (number multiple : Nat) : Nat :=
  if multiple = 0 then number
  else
    let remainder := number % multiple
    if remainder = 0 then number else number - remainder

def addWithOverflowCap (usize a b : Nat) : Nat := Words.satAdd usize a b

def subtractWithUnderflowCap (a b : Nat) : Nat := Words.satSub a b

/-- Distance from a number up to the next multiple, zero on a multiple. -/
def padding (number multiple : Nat) : Nat :=
  if multiple = 0 ∨ number % multiple = 0 then 0 else multiple - number % multiple

theorem padding_lt {number multiple : Nat} (positive : 0 < multiple) : padding number multiple < multiple := by
  unfold padding
  split <;> omega

theorem padding_zero {number : Nat} : padding number 0 = 0 := by simp [padding]

theorem dvd_add_padding {number multiple : Nat} (positive : 0 < multiple) :
    multiple ∣ number + padding number multiple := by
  unfold padding
  split
  · rename_i exact
    have aligned : number % multiple = 0 := by omega
    simpa using Nat.dvd_of_mod_eq_zero aligned
  · have parts : multiple * (number / multiple) + number % multiple = number := Nat.div_add_mod _ _
    have below : number % multiple < multiple := Nat.mod_lt _ positive
    refine ⟨number / multiple + 1, ?_⟩
    rw [Nat.mul_succ]
    omega

/-- No multiple lies between a number and the number with its padding. -/
theorem padding_least {number multiple other : Nat} (aligned : multiple ∣ other) (above : number ≤ other) :
    number + padding number multiple ≤ other := by
  unfold padding
  split
  · exact above
  · rename_i between
    rw [not_or] at between
    have below : number % multiple < multiple := Nat.mod_lt _ (Nat.pos_of_ne_zero between.1)
    have parts : multiple * (number / multiple) + number % multiple = number := Nat.div_add_mod _ _
    obtain ⟨count, rfl⟩ := aligned
    -- The other multiple is at least the one after the number's own.
    have more : number / multiple < count := by
      by_contra fewer
      have low : multiple * count ≤ multiple * (number / multiple) := Nat.mul_le_mul_left _ (by omega)
      omega
    have high : multiple * (number / multiple + 1) ≤ multiple * count := Nat.mul_le_mul_left _ more
    rw [Nat.mul_succ] at high
    omega

/-- Rounding up adds the padding and wraps once. -/
theorem roundUp_eq {usize number multiple : Nat} (word : number < usize) :
    roundUp usize number multiple = (number + padding number multiple) % usize := by
  unfold roundUp padding
  by_cases zero : multiple = 0
  · simp [zero, Nat.mod_eq_of_lt word]
  · by_cases aligned : number % multiple = 0
    · simp [zero, aligned, Nat.mod_eq_of_lt word]
    · have below : number % multiple < multiple := Nat.mod_lt _ (Nat.pos_of_ne_zero zero)
      have small : number % multiple ≤ number := Nat.mod_le _ _
      have shape : number + (multiple - number % multiple) = number + multiple - number % multiple := by omega
      simp only [zero, aligned, if_false, or_self]
      rw [shape, Words.sub_add (by omega) (by omega)]

theorem roundUp_exact {usize number multiple : Nat} (fits : number + padding number multiple < usize) :
    roundUp usize number multiple = number + padding number multiple := by
  rw [roundUp_eq (by omega), Nat.mod_eq_of_lt fits]

theorem roundDown_eq {number multiple : Nat} (positive : 0 < multiple) :
    roundDown number multiple = number - number % multiple := by
  unfold roundDown
  rw [if_neg (Nat.ne_of_gt positive)]
  dsimp only
  split
  · rename_i aligned
    rw [aligned, Nat.sub_zero]
  · rfl

theorem dvd_roundDown {number multiple : Nat} (positive : 0 < multiple) : multiple ∣ roundDown number multiple := by
  rw [roundDown_eq positive]
  exact Nat.dvd_sub_mod number

/-- No multiple lies between a number and what rounding down makes of it. -/
theorem le_roundDown {number multiple other : Nat} (positive : 0 < multiple) (aligned : multiple ∣ other)
    (below : other ≤ number) : other ≤ roundDown number multiple := by
  have parts : multiple * (number / multiple) + number % multiple = number := Nat.div_add_mod _ _
  obtain ⟨count, rfl⟩ := aligned
  have fewer : count ≤ number / multiple := (Nat.le_div_iff_mul_le positive).mpr (by rwa [Nat.mul_comm])
  have low : multiple * count ≤ multiple * (number / multiple) := Nat.mul_le_mul_left _ fewer
  rw [roundDown_eq positive]
  omega

theorem roundDown_le (number multiple : Nat) : roundDown number multiple ≤ number := by
  unfold roundDown
  split
  · exact Nat.le_refl _
  · dsimp only
    split
    · exact Nat.le_refl _
    · exact Nat.sub_le _ _

end ReloadedBuffers
