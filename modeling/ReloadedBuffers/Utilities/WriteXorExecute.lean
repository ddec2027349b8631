import ReloadedBuffers.Utilities.Cached

/-! The memory effects of writing into a buffer, in the order the code has them:
changes of page protection on targets that enforce W^X, copies of bytes, and
flushes of the instruction cache.
-/

set_option autoImplicit false

namespace ReloadedBuffers

inductive Protection where
  | readWrite
  | readExecute
  deriving DecidableEq, Repr

inductive Effect where
  /-- `mach_vm_protect` over every page that the range touches. -/
  | protect (address size : Nat) (protection : Protection)
  | copy (address : Nat) (data : List UInt8)
  | flush (first last : Nat)
  deriving DecidableEq, Repr

def disableWriteXorExecute (target : Target) (address size : Nat) : List Effect :=
  if target.appleSilicon then [.protect address size .readWrite] else []

def restoreWriteXorExecute (target : Target) (address size : Nat) : List Effect :=
  if target.appleSilicon then [.protect address size .readExecute] else []

/-- A no-op on x86, where the data and instruction caches are unified. -/
def clearInstructionCache (target : Target) (first last : Nat) : List Effect :=
  match target.arch with
  | .x86_64 => []
  | .aarch64 => [.flush first last]

end ReloadedBuffers
