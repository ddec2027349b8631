import Mathlib.Order.Bounds.Basic
import ReloadedBuffers.Utilities.Cached
import ReloadedBuffers.Utilities.Mathematics

/-! Settings of the buffer search and of the operating system allocation. Sanitising
rounds a size up to the granularity, and cuts what comes of it to 32 bits.
-/

set_option autoImplicit false

namespace ReloadedBuffers

/-- Settings to pass to buffer search mechanisms. -/
structure BufferSearchSettings where
  minAddress : Nat
  maxAddress : Nat
  size : UInt32
  deriving DecidableEq, Repr

/-- Creates settings such that the returned buffer will be within `proximity` bytes of `target`. -/
def BufferSearchSettings.fromProximity (usize proximity target size : Nat) : BufferSearchSettings where
  maxAddress := addWithOverflowCap usize target proximity
  minAddress := subtractWithUnderflowCap target proximity
  size := UInt32.ofNat size

/-- Settings to pass to the buffer allocator. -/
structure BufferAllocatorSettings where
  minAddress : Nat
  maxAddress : Nat
  size : UInt32
  targetProcessId : UInt32
  retryCount : Int32
  bruteForce : Bool
  deriving DecidableEq, Repr

namespace BufferAllocatorSettings

def new (target : Target) : BufferAllocatorSettings where
  minAddress := 0
  maxAddress := target.sysInfo.maxAddress
  size := 4096
  targetProcessId := target.sysInfo.thisProcessId
  retryCount := 8
  bruteForce := true

def fromProximity (platform : Target) (proximity target size : Nat) : BufferAllocatorSettings :=
  { new platform with
    maxAddress := addWithOverflowCap platform.usize target proximity
    minAddress := subtractWithUnderflowCap target proximity
    size := UInt32.ofNat size }

def sanitize (target : Target) (settings : BufferAllocatorSettings) : BufferAllocatorSettings :=
  { settings with
    -- VirtualAlloc treats zero as "any address".
    minAddress :=
      if target.os = .windows ∧ settings.minAddress < target.granularity then target.granularity
      else settings.minAddress
    size := UInt32.ofNat (roundUp target.usize (max settings.size 1).toNat target.granularity) }

/-- The retry loop runs over `0..retry_count`, which is empty for a negative count. -/
def retries (settings : BufferAllocatorSettings) : Nat := settings.retryCount.toInt.toNat

variable (target : Target) (settings : BufferAllocatorSettings)

theorem minAddress_le_sanitize : settings.minAddress ≤ (settings.sanitize target).minAddress := by
  simp only [sanitize]
  split
  · rename_i low
    exact low.2.le
  · exact Nat.le_refl _

theorem sanitize_minAddress_lt {settings : BufferAllocatorSettings} (minimum : settings.minAddress < target.usize)
    (small : target.granularity < target.usize) : (settings.sanitize target).minAddress < target.usize := by
  simp only [sanitize]
  split
  · exact small
  · exact minimum

/-- Windows is never asked for the lowest pages. -/
theorem granularity_le_sanitize {target : Target} (windows : target.os = .windows) :
    target.granularity ≤ (settings.sanitize target).minAddress := by
  simp only [sanitize]
  split
  · exact Nat.le_refl _
  · rename_i high
    exact Nat.le_of_not_lt fun low => high ⟨windows, low⟩

@[simp] theorem sanitize_maxAddress : (settings.sanitize target).maxAddress = settings.maxAddress := rfl

/-- The request as the code means it: the least multiple that holds at least one byte. -/
def roundedSize (size : UInt32) (granularity : Nat) : Nat :=
  (max size 1).toNat + padding (max size 1).toNat granularity

theorem sanitize_size :
    (settings.sanitize target).size.toNat = roundedSize settings.size target.granularity % 2 ^ 32 := by
  have word : (max settings.size 1).toNat < target.usize :=
    Nat.lt_of_lt_of_le (max settings.size 1).toNat_lt target.u32_le_usize
  have truncated : ∀ value, value % target.usize % 2 ^ 32 = value % 2 ^ 32 := fun value =>
    Nat.mod_mod_of_dvd value target.width.u32_dvd_modulus
  simp only [sanitize, UInt32.toNat_ofNat', roundUp_eq word, roundedSize]
  exact truncated _

/-- Truncation keeps a multiple of a divisor of its modulus. -/
theorem sanitize_size_dvd (positive : 0 < target.granularity) (divides : target.granularity ∣ 2 ^ 32) :
    target.granularity ∣ (settings.sanitize target).size.toNat := by
  rw [sanitize_size]
  exact (Nat.dvd_mod_iff divides).mpr (dvd_add_padding positive)

theorem size_le_max (size : UInt32) : size.toNat ≤ (max size 1).toNat := by
  change _ ≤ (if size ≤ 1 then 1 else size).toNat
  split
  · rename_i low
    exact UInt32.le_iff_toNat_le.mp low
  · exact Nat.le_refl _

/-- Rounding up keeps the request: either the result is truncated to zero, which
no operating system serves, or it still holds the bytes asked for. -/
def Rounds (size : UInt32) (granularity : Nat) : Prop :=
  granularity ∣ 2 ^ 32 ∨ roundedSize size granularity < 2 ^ 32

theorem sanitize_size_ge (rounds : Rounds settings.size target.granularity)
    (positive : 0 < target.granularity) (served : 0 < (settings.sanitize target).size.toNat) :
    settings.size.toNat ≤ (settings.sanitize target).size.toNat := by
  have asked := size_le_max settings.size
  have small : (max settings.size 1).toNat < 2 ^ 32 := (max settings.size 1).toNat_lt
  have close : padding (max settings.size 1).toNat target.granularity < target.granularity := padding_lt positive
  rw [sanitize_size] at served ⊢
  rcases Nat.lt_or_ge (roundedSize settings.size target.granularity) (2 ^ 32) with fits | wraps
  · rw [Nat.mod_eq_of_lt fits]
    unfold roundedSize
    omega
  · -- A multiple of a divisor of 2 ^ 32 that reaches 2 ^ 32 within one step is 2 ^ 32 itself.
    obtain ⟨steps, total⟩ := rounds.resolve_right (Nat.not_lt.mpr wraps)
    obtain ⟨count, multiple⟩ : target.granularity ∣ roundedSize settings.size target.granularity :=
      dvd_add_padding positive
    have least : count ≤ steps := by
      by_contra more
      have above : target.granularity * (steps + 1) ≤ target.granularity * count :=
        Nat.mul_le_mul_left _ (by omega)
      rw [Nat.mul_succ, ← total, ← multiple, roundedSize] at above
      omega
    have most : target.granularity * count ≤ target.granularity * steps := Nat.mul_le_mul_left _ least
    have exact : roundedSize settings.size target.granularity = 2 ^ 32 := by omega
    rw [exact] at served
    simp at served

theorem max_one_toNat (size : UInt32) : (max size 1).toNat = max size.toNat 1 := by
  change (if size ≤ 1 then 1 else size).toNat = _
  split
  · rename_i low
    exact (max_eq_right (UInt32.le_iff_toNat_le.mp low)).symm
  · rename_i high
    exact (max_eq_left (Nat.le_of_lt (by simpa [UInt32.le_iff_toNat_le] using high))).symm

/-- The multiples of the granularity that hold a request and at least one byte. -/
def Holding (granularity size : Nat) : Set Nat := { total | granularity ∣ total ∧ max size 1 ≤ total }

theorem roundedSize_least (size : UInt32) {granularity : Nat} (positive : 0 < granularity) :
    IsLeast (Holding granularity size.toNat) (roundedSize size granularity) := by
  unfold roundedSize
  rw [max_one_toNat]
  constructor
  · exact ⟨dvd_add_padding positive, Nat.le_add_right _ _⟩
  · exact fun total holds => padding_least holds.1 holds.2

/-- What sanitising is meant to do: round the size up to the granularity, leave the upper
end of the window alone, never lower its lower end, and settle after one time. -/
structure Sanitised (target : Target) (settings sanitised : BufferAllocatorSettings) : Prop where
  least : IsLeast (Holding target.granularity settings.size.toNat) sanitised.size.toNat
  maxAddress : sanitised.maxAddress = settings.maxAddress
  minAddress : settings.minAddress ≤ sanitised.minAddress
  nonzero : sanitised.size ≠ 0
  size_le : settings.size ≤ sanitised.size
  settled : sanitised.sanitize target = sanitised

variable {target settings}

theorem sanitize_size_of_lt (fits : roundedSize settings.size target.granularity < 2 ^ 32) :
    (settings.sanitize target).size.toNat = roundedSize settings.size target.granularity := by
  rw [sanitize_size, Nat.mod_eq_of_lt fits]

/-- A size that is a multiple already stays. -/
theorem sanitize_size_of_dvd (positive : 0 < settings.size.toNat) (aligned : target.granularity ∣ settings.size.toNat) :
    (settings.sanitize target).size = settings.size := by
  have small := settings.size.toNat_lt
  have whole : max settings.size.toNat 1 = settings.size.toNat := max_eq_left positive
  have exact : roundedSize settings.size target.granularity = settings.size.toNat := by
    unfold roundedSize
    rw [max_one_toNat, whole]
    exact Nat.le_antisymm (padding_least aligned (Nat.le_refl _)) (Nat.le_add_right _ _)
  apply UInt32.toNat_inj.mp
  rw [sanitize_size_of_lt (exact ▸ small), exact]

theorem sanitize_minAddress_settled :
    ((settings.sanitize target).sanitize target).minAddress = (settings.sanitize target).minAddress := by
  simp only [sanitize]
  split
  · split <;> rfl
  · rfl

/-- Settings whose size came out as a multiple are left as they are. -/
theorem sanitize_settled (served : 0 < (settings.sanitize target).size.toNat)
    (aligned : target.granularity ∣ (settings.sanitize target).size.toNat) :
    (settings.sanitize target).sanitize target = settings.sanitize target := by
  have size := sanitize_size_of_dvd served aligned
  have floor : ((settings.sanitize target).sanitize target).minAddress = (settings.sanitize target).minAddress :=
    sanitize_minAddress_settled
  calc
    (settings.sanitize target).sanitize target = { settings.sanitize target with
        minAddress := ((settings.sanitize target).sanitize target).minAddress
        size := ((settings.sanitize target).sanitize target).size } := rfl
    _ = settings.sanitize target := by rw [floor, size]

/-- Below the last multiple that 32 bits hold, nothing is cut. -/
theorem roundedSize_lt_iff {size : UInt32} {granularity : Nat} (divides : granularity ∣ 2 ^ 32)
    (small : granularity < 2 ^ 32) : roundedSize size granularity < 2 ^ 32 ↔ size.toNat ≤ 2 ^ 32 - granularity := by
  have positive : 0 < granularity := Nat.pos_of_dvd_of_pos divides (by decide)
  have least := roundedSize_least size positive
  have last : granularity ∣ 2 ^ 32 - granularity := Nat.dvd_sub divides dvd_rfl
  constructor
  · intro fits
    -- A multiple below 2 ^ 32 is one granularity below it at least.
    obtain ⟨count, multiple⟩ := least.1.1
    obtain ⟨steps, total⟩ := divides
    have fewer : count < steps := by
      rw [multiple, total] at fits
      exact Nat.lt_of_mul_lt_mul_left fits
    have step : granularity * (count + 1) ≤ granularity * steps := Nat.mul_le_mul_left _ fewer
    rw [Nat.mul_succ, ← multiple, ← total] at step
    have asked := (le_max_left _ _).trans least.1.2
    omega
  · intro low
    have within := least.2 ⟨last, max_le low (by omega)⟩
    omega

/-- Sanitising does what it is meant to do exactly up to the last multiple of the
granularity below 2 ^ 32; the size of a larger request becomes zero. -/
theorem sanitize_sanitised_iff (power : ∃ exponent, target.granularity = 2 ^ exponent)
    (small : target.granularity < 2 ^ 32) :
    Sanitised target settings (settings.sanitize target) ↔ settings.size.toNat ≤ 2 ^ 32 - target.granularity := by
  obtain ⟨exponent, same⟩ := power
  have divides : target.granularity ∣ 2 ^ 32 := by
    rw [same] at small ⊢
    exact Nat.pow_dvd_pow 2 ((Nat.pow_lt_pow_iff_right (by decide)).mp small).le
  have positive : 0 < target.granularity := same ▸ Nat.two_pow_pos exponent
  have rounded := roundedSize_least settings.size positive
  rw [← roundedSize_lt_iff divides small]
  constructor
  · intro sanitised
    rw [rounded.unique sanitised.least]
    exact (settings.sanitize target).size.toNat_lt
  · intro fits
    have size := sanitize_size_of_lt fits
    have least : IsLeast (Holding target.granularity settings.size.toNat) (settings.sanitize target).size.toNat := by
      rw [size]
      exact rounded
    have served : 0 < (settings.sanitize target).size.toNat := (le_max_right _ _).trans least.1.2
    refine ⟨least, rfl, minAddress_le_sanitize target settings, ?_, ?_, ?_⟩
    · intro zero
      rw [zero] at served
      exact absurd served (by decide)
    · exact UInt32.le_iff_toNat_le.mpr ((le_max_left _ _).trans least.1.2)
    · exact sanitize_settled served least.1.1

/-- A request for one byte, on a system with granules of 4 KiB. -/
theorem sanitize_sanitised_byte :
    Sanitised smallTarget ⟨0, 0x7FFFFFFFFFFF, 1, 1, 8, true⟩
      (sanitize smallTarget ⟨0, 0x7FFFFFFFFFFF, 1, 1, 8, true⟩) :=
  (sanitize_sanitised_iff ⟨12, rfl⟩ (by decide)).mpr (by decide)

/-- A request for a byte less than 4 GiB is rounded up to 4 GiB, and cut to nothing. -/
theorem sanitize_cuts : (sanitize smallTarget ⟨0, 0x7FFFFFFFFFFF, 0xFFFFFFFF, 1, 8, true⟩).size = 0 ∧
    ¬ Sanitised smallTarget ⟨0, 0x7FFFFFFFFFFF, 0xFFFFFFFF, 1, 8, true⟩
      (sanitize smallTarget ⟨0, 0x7FFFFFFFFFFF, 0xFFFFFFFF, 1, 8, true⟩) :=
  ⟨by decide, fun sanitised => sanitised.nonzero (by decide)⟩

end BufferAllocatorSettings

end ReloadedBuffers
