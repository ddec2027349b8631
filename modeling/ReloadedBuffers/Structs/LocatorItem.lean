import ReloadedBuffers.Utilities.Mathematics
import ReloadedBuffers.Utilities.WriteXorExecute

/-! A registered buffer: a base address, a size, the position of the next byte to
hand out and a lock word. Addresses are `usize`; the other fields have the
fixed widths of the source.
-/

set_option autoImplicit false

namespace ReloadedBuffers

/-- Individual item in the locator. -/
structure LocatorItem where
  baseAddress : Nat
  size : UInt32
  position : UInt32
  isTaken : Int32
  deriving DecidableEq, Repr

namespace LocatorItem

def new (baseAddress : Nat) (size : UInt32) : LocatorItem := ⟨baseAddress, size, 0, 0⟩

def bytesLeft (item : LocatorItem) : UInt32 := item.size - item.position

def isAllocated (item : LocatorItem) : Bool := item.baseAddress != 0

/-- An atomic swap: the lock word is one afterwards, whatever it was before. -/
def tryLock (item : LocatorItem) : Bool × LocatorItem :=
  (item.isTaken == 0, { item with isTaken := 1 })

/-- Run alone, spinning on a word that is not zero leaves it one and never returns. -/
def lock (item : LocatorItem) : Option LocatorItem :=
  match item.tryLock with
  | (true, locked) => some locked
  | (false, _) => none

def unlock (item : LocatorItem) : LocatorItem := { item with isTaken := 0 }

def canUse (usize : Nat) (item : LocatorItem) (size : UInt32) (minAddress maxAddress : Nat) : Bool :=
  if !item.isAllocated || item.bytesLeft < size then false
  else
    let startAvailableAddress := Words.add usize item.baseAddress item.position.toNat
    let endAvailableAddress := addWithOverflowCap usize item.baseAddress item.size.toNat
    startAvailableAddress ≥ minAddress && endAvailableAddress ≤ maxAddress

/-- Where the next byte goes. -/
def cursor (usize : Nat) (item : LocatorItem) : Nat :=
  Words.add usize item.baseAddress item.position.toNat

/-- `self.position += count as u32`. -/
def advance (item : LocatorItem) (count : Nat) : LocatorItem :=
  { item with position := item.position + UInt32.ofNat count }

def appendBytes (target : Target) (item : LocatorItem) (data : List UInt8) :
    Nat × LocatorItem × List Effect :=
  let address := item.cursor target.usize
  (address, item.advance data.length,
    disableWriteXorExecute target item.baseAddress data.length ++ [.copy address data] ++
      restoreWriteXorExecute target item.baseAddress data.length)

/-- The value is given by its bytes, `size_of::<T>()` of them. -/
def appendCopy (target : Target) (item : LocatorItem) (data : List UInt8) :
    Nat × LocatorItem × List Effect :=
  let address := item.cursor target.usize
  (address, item.advance data.length,
    disableWriteXorExecute target item.baseAddress data.length ++ [.copy address data] ++
      restoreWriteXorExecute target item.baseAddress data.length)

def appendCode (target : Target) (item : LocatorItem) (data : List UInt8) :
    Nat × LocatorItem × List Effect :=
  let address := item.cursor target.usize
  (address, item.advance data.length,
    disableWriteXorExecute target item.baseAddress data.length ++ [.copy address data] ++
      restoreWriteXorExecute target item.baseAddress data.length ++
      clearInstructionCache target address (Words.add target.usize address data.length))

/-- The three ways to append to an item. -/
inductive Append where
  | bytes
  | copy
  | code
  deriving DecidableEq, Repr

def Append.run (target : Target) : Append → LocatorItem → List UInt8 → Nat × LocatorItem × List Effect
  | .bytes => appendBytes target
  | .copy => appendCopy target
  | .code => appendCode target

/-- All three append at the cursor and advance it. -/
theorem Append.run_eq (target : Target) (kind : Append) (item : LocatorItem) (data : List UInt8) :
    (kind.run target item data).1 = item.cursor target.usize ∧
      (kind.run target item data).2.1 = item.advance data.length := by
  cases kind with
  | bytes => exact ⟨rfl, rfl⟩
  | copy => exact ⟨rfl, rfl⟩
  | code => exact ⟨rfl, rfl⟩

/-- The position lies in the buffer and the end of the buffer is an address. -/
structure Sound (usize : Nat) (item : LocatorItem) : Prop where
  position_le : item.position ≤ item.size
  end_lt : item.baseAddress + item.size.toNat < usize

variable {usize : Nat} {item : LocatorItem}

@[simp] theorem bytesLeft_new (baseAddress : Nat) (size : UInt32) : (new baseAddress size).bytesLeft = size :=
  UInt32.sub_zero size

theorem Sound.position_le_toNat (sound : item.Sound usize) : item.position.toNat ≤ item.size.toNat :=
  UInt32.le_iff_toNat_le.mp sound.position_le

theorem Sound.bytesLeft_toNat (sound : item.Sound usize) :
    item.bytesLeft.toNat = item.size.toNat - item.position.toNat :=
  UInt32.toNat_sub_of_le _ _ sound.position_le

theorem Sound.cursor_eq (sound : item.Sound usize) :
    item.cursor usize = item.baseAddress + item.position.toNat := by
  have inside := sound.position_le_toNat
  have bound := sound.end_lt
  exact Words.add_eq (by omega)

/-- What makes an item usable, in exact arithmetic. -/
theorem Sound.canUse_iff (sound : item.Sound usize) {size : UInt32} {minAddress maxAddress : Nat} :
    item.canUse usize size minAddress maxAddress = true ↔
      item.baseAddress ≠ 0 ∧ item.position.toNat + size.toNat ≤ item.size.toNat ∧
        minAddress ≤ item.baseAddress + item.position.toNat ∧
        item.baseAddress + item.size.toNat ≤ maxAddress := by
  have inside := sound.position_le_toNat
  have left := sound.bytesLeft_toNat
  have start : Words.add usize item.baseAddress item.position.toNat = _ := sound.cursor_eq
  have last : addWithOverflowCap usize item.baseAddress item.size.toNat = _ := Words.satAdd_eq sound.end_lt
  have short : item.bytesLeft < size ↔ ¬ item.position.toNat + size.toNat ≤ item.size.toNat := by
    rw [UInt32.lt_iff_toNat_lt, left]
    omega
  simp only [canUse, start, last, short, isAllocated]
  split
  · rename_i rejected
    simp only [Bool.or_eq_true, Bool.not_eq_true', bne_eq_false_iff_eq, decide_eq_true_eq] at rejected
    constructor
    · intro wrong
      cases wrong
    · rintro ⟨allocated, room, _⟩
      exact absurd room (rejected.resolve_left allocated)
  · rename_i accepted
    simp only [Bool.or_eq_true, Bool.not_eq_true', bne_eq_false_iff_eq, decide_eq_true_eq, not_or, not_not] at accepted
    simp only [Bool.and_eq_true, decide_eq_true_eq]
    exact ⟨fun window => ⟨accepted.1, accepted.2, window⟩, fun usable => usable.2.2⟩

/-- Advancing within the space that is left is plain addition. -/
theorem advance_position {count : Nat}
    (room : item.position.toNat + count ≤ item.size.toNat) :
    (item.advance count).position.toNat = item.position.toNat + count := by
  have below : item.size.toNat < 2 ^ 32 := item.size.toNat_lt
  simp only [advance, UInt32.toNat_add, UInt32.toNat_ofNat']
  rw [Nat.mod_eq_of_lt (by omega : count < 2 ^ 32), Nat.mod_eq_of_lt (by omega)]

theorem Sound.advance (sound : item.Sound usize) {count : Nat}
    (room : item.position.toNat + count ≤ item.size.toNat) : (item.advance count).Sound usize where
  position_le := by
    have moved := advance_position room
    exact UInt32.le_iff_toNat_le.mpr (moved.trans_le room)
  end_lt := sound.end_lt

end LocatorItem

end ReloadedBuffers
