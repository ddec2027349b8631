import Mathlib.Tactic.Ring

/-! The build target and the cached system information that every operation of
the crate reads. Pointers are naturals below the modulus of the pointer width.
-/

set_option autoImplicit false

namespace ReloadedBuffers

/-- Pointer widths the crate is built for. -/
inductive PointerWidth where
  | bits32
  | bits64
  deriving DecidableEq, Repr

/-- Number of `usize` values. -/
def PointerWidth.modulus : PointerWidth → Nat
  | .bits32 => 2 ^ 32
  | .bits64 => 2 ^ 64

def PointerWidth.bytes : PointerWidth → Nat
  | .bits32 => 4
  | .bits64 => 8

theorem PointerWidth.modulus_pos (width : PointerWidth) : 0 < width.modulus := by
  cases width <;> decide

theorem PointerWidth.u32_dvd_modulus (width : PointerWidth) : 2 ^ 32 ∣ width.modulus := by
  cases width <;> decide

theorem PointerWidth.u32_le_modulus (width : PointerWidth) : 2 ^ 32 ≤ width.modulus := by
  cases width <;> decide

theorem PointerWidth.modulus_le (width : PointerWidth) : width.modulus ≤ 2 ^ 64 := by
  cases width <;> decide

inductive TargetOs where
  | linux
  | windows
  | macos
  deriving DecidableEq, Repr

inductive TargetArch where
  | x86_64
  | aarch64
  deriving DecidableEq, Repr

/-- Values that `get_sys_info` caches for the life of the process. -/
structure Cached where
  maxAddress : Nat
  allocationGranularity : Nat
  pageSize : Nat
  thisProcessId : UInt32
  deriving DecidableEq, Repr

/-- What the platform reports when the cache is filled: `GetSystemInfo` on Windows,
the page size and granularity of the mapping crate elsewhere. -/
structure SystemReport where
  maximumApplicationAddress : Nat
  allocationGranularity : Nat
  pageSize : Nat
  processId : UInt32
  deriving DecidableEq, Repr

def Cached.new (os : TargetOs) (width : PointerWidth) (report : SystemReport) : Cached :=
  match os with
  | .windows =>
    ⟨report.maximumApplicationAddress, report.allocationGranularity, 4096, report.processId⟩
  | .linux | .macos =>
    let maxAddress :=
      match width with
      | .bits32 => 0xFFFFFFFF
      | .bits64 => 0x7FFFFFFFFFFF
    ⟨maxAddress, max report.allocationGranularity report.pageSize, 4096, report.processId⟩

/-- What the crate is compiled for, with the system information it finds there. -/
structure Target where
  width : PointerWidth
  os : TargetOs
  arch : TargetArch
  sysInfo : Cached
  deriving DecidableEq, Repr

namespace Target

variable (target : Target)

/-- Number of `usize` values on this target. -/
def usize : Nat := target.width.modulus

def granularity : Nat := target.sysInfo.allocationGranularity

/-- `cfg!(all(target_os = "macos", target_arch = "aarch64"))`, where W^X is enforced. -/
def appleSilicon : Bool := target.os == .macos && target.arch == .aarch64

/-- The cache holds what `Cached::new` makes of a report, with a granularity of at
least one page of 4 KiB that fits an `i32`. -/
structure Booted : Prop where
  cached : ∃ report, target.sysInfo = Cached.new target.os target.width report
  large : 4096 ≤ target.granularity
  small : target.granularity < 2 ^ 31

variable {target}

theorem Booted.granularity_dvd (booted : target.Booted) (power : ∃ exponent, target.granularity = 2 ^ exponent) :
    target.granularity ∣ 2 ^ 32 := by
  obtain ⟨exponent, same⟩ := power
  have small := booted.small
  rw [same] at small ⊢
  have below := (Nat.pow_lt_pow_iff_right (by decide)).mp small
  exact Nat.pow_dvd_pow 2 (by omega)

/-- Outside Windows the highest address of a 64-bit process is a constant. -/
theorem Booted.maxAddress_lt (booted : target.Booted) (wide : target.width = .bits64)
    (posix : target.os ≠ .windows) : target.sysInfo.maxAddress < target.usize - 1 := by
  obtain ⟨report, cached⟩ := booted.cached
  rw [cached, usize, wide]
  cases system : target.os with
  | windows => exact absurd system posix
  | linux => simp [Cached.new, PointerWidth.modulus]
  | macos => simp [Cached.new, PointerWidth.modulus]

theorem Booted.maxAddress_word (booted : target.Booted) (posix : target.os ≠ .windows) :
    target.sysInfo.maxAddress < target.usize := by
  cases wide : target.width with
  | bits32 =>
      obtain ⟨report, cached⟩ := booted.cached
      rw [cached, usize, wide]
      cases system : target.os with
      | windows => exact absurd system posix
      | linux => simp [Cached.new, PointerWidth.modulus]
      | macos => simp [Cached.new, PointerWidth.modulus]
  | bits64 => exact (booted.maxAddress_lt wide posix).trans_le (Nat.sub_le _ _)

variable (target)

theorem usize_pos : 0 < target.usize := target.width.modulus_pos

theorem u32_le_usize : 2 ^ 32 ≤ target.usize := target.width.u32_le_modulus

theorem usize_le : target.usize ≤ 2 ^ 64 := target.width.modulus_le

variable {target}

theorem Booted.granularity_lt (booted : target.Booted) : target.granularity < target.usize := by
  have small := booted.small
  have wide := target.u32_le_usize
  omega

end Target

/-- A Linux process with 4 KiB pages. -/
def smallTarget : Target := ⟨.bits64, .linux, .x86_64, ⟨0x7FFFFFFFFFFF, 4096, 4096, 1⟩⟩

theorem smallTarget_booted : smallTarget.Booted where
  cached := ⟨⟨0, 4096, 4096, 1⟩, rfl⟩
  large := by decide
  small := by decide

end ReloadedBuffers
