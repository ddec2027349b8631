import Mathlib.Logic.Function.Basic
import ReloadedBuffers.Foundation.PointerChain
import ReloadedBuffers.Structs.LocatorItem

/-! Locators: a header followed by slots for registered buffers. Headers live at
addresses and point to the next header of their chain.
-/

set_option autoImplicit false

namespace ReloadedBuffers

/-- Static length of a locator. -/
def locatorLength : Nat := 4096

/-- Length of buffers preallocated in a locator. -/
def lengthOfPreallocatedChunks : UInt32 := 16384

/-- `size_of::<LocatorHeader>()`: two pointers, the lock word and four bytes. -/
def PointerWidth.sizeOfHeader (width : PointerWidth) : Nat := 2 * width.bytes + 8

/-- `size_of::<LocatorItem>()`: a pointer and three words of four bytes. -/
def PointerWidth.sizeOfItem (width : PointerWidth) : Nat := width.bytes + 12

/-- Returns the maximum possible amount of items in a locator. -/
def PointerWidth.maxItemCount (width : PointerWidth) : Nat :=
  (locatorLength - width.sizeOfHeader) / width.sizeOfItem

theorem PointerWidth.maxItemCount_le (width : PointerWidth) : width.maxItemCount ≤ 255 := by
  cases width <;> decide

theorem PointerWidth.le_maxItemCount (width : PointerWidth) : 203 ≤ width.maxItemCount := by
  cases width <;> decide

example : PointerWidth.bits32.maxItemCount = 255 ∧ PointerWidth.bits64.maxItemCount = 203 := by decide

/-- Represents the header of an individual memory locator, with the slots behind it. -/
structure LocatorHeader where
  thisAddress : Nat
  nextLocatorPtr : Nat
  isLocked : Int32
  flags : UInt8
  numItems : UInt8
  items : Nat → LocatorItem

/-- The headers in memory, by address. -/
abbrev Locators := Nat → Option LocatorHeader

namespace LocatorHeader

def setDefaultValues (header : LocatorHeader) (address : Nat) : LocatorHeader :=
  { header with
    thisAddress := address
    nextLocatorPtr := 0
    isLocked := 0
    flags := 0
    numItems := 0 }

def setItem (header : LocatorHeader) (slot : Nat) (item : LocatorItem) : LocatorHeader :=
  { header with items := Function.update header.items slot item }

/-- The loop of `initialize_remaining_space_as_buffers`. The buffer address is
computed once, before the loop; the loop does not move it. -/
def carve (bufferAddress : Nat) :
    Nat → UInt32 → Nat → UInt8 → (Nat → LocatorItem) → UInt8 × (Nat → LocatorItem)
  | 0, _, _, numItems, items => (numItems, items)
  | fuel + 1, remaining, slot, numItems, items =>
    if remaining > 0 then
      let thisLength := min lengthOfPreallocatedChunks remaining
      carve bufferAddress fuel (remaining - thisLength) (slot + 1) (numItems + 1)
        (Function.update items slot (LocatorItem.new bufferAddress thisLength))
    else (numItems, items)

/-- Every round takes at least one byte, so `remaining` rounds are enough. -/
def initializeRemainingSpaceAsBuffers (usize : Nat) (header : LocatorHeader) (remaining : UInt32) :
    LocatorHeader :=
  let bufferAddress := Words.add usize header.thisAddress locatorLength
  let (numItems, items) := carve bufferAddress remaining.toNat remaining 0 0 header.items
  { header with items := items, numItems := numItems }

/-- `raw` is what a header-shaped read finds in memory that has not been written. -/
def initializeRemainingSpaceAsHeaders (usize : Nat) (raw : Nat → LocatorHeader) :
    Nat → Nat → UInt32 → Locators → Locators
  | 0, _, _, locators => locators
  | fuel + 1, current, remaining, locators =>
    if remaining ≥ UInt32.ofNat locatorLength then
      let next := Words.add usize current locatorLength
      let fresh := Function.update locators next (some ((raw next).setDefaultValues next))
      let linked := (fresh current).map fun header => { header with nextLocatorPtr := next }
      initializeRemainingSpaceAsHeaders usize raw fuel next (remaining - UInt32.ofNat locatorLength)
        (Function.update fresh current linked)
    else locators

/-- `initialize`: sets the locator header values at a specific address, `length` bytes
being available there. -/
def initializeHeader (target : Target) (raw : Nat → LocatorHeader) (address length : Nat)
    (locators : Locators) : Locators :=
  let header := (raw address).setDefaultValues address
  let remaining := UInt32.ofNat (Words.sub target.usize length locatorLength)
  if target.appleSilicon then
    initializeRemainingSpaceAsHeaders target.usize raw remaining.toNat address remaining
      (Function.update locators address (some header))
  else
    Function.update locators address (some (header.initializeRemainingSpaceAsBuffers target.usize remaining))

def hasNextLocator (header : LocatorHeader) : Bool := header.nextLocatorPtr != 0

def isFull (width : PointerWidth) (header : LocatorHeader) : Bool :=
  header.numItems.toNat ≥ width.maxItemCount

def tryLock (header : LocatorHeader) : Bool × LocatorHeader :=
  if header.isLocked = 0 then (true, { header with isLocked := 1 }) else (false, header)

/-- Run alone, a caller that finds the lock taken spins forever. -/
def lock (header : LocatorHeader) : Option LocatorHeader :=
  match header.tryLock with
  | (true, locked) => some locked
  | (false, _) => none

def unlock (header : LocatorHeader) : LocatorHeader := { header with isLocked := 0 }

/-- The loop over the items that the count read before it covers: the first
usable item whose lock is acquired. -/
def scanItems (usize : Nat) (size : UInt32) (minAddress maxAddress : Nat) :
    Nat → Nat → LocatorHeader → Option Nat × LocatorHeader
  | 0, _, header => (none, header)
  | count + 1, slot, header =>
    let item := header.items slot
    if item.canUse usize size minAddress maxAddress then
      match item.tryLock with
      | (true, locked) => (some slot, header.setItem slot locked)
      | (false, locked) => scanItems usize size minAddress maxAddress count (slot + 1) (header.setItem slot locked)
    else scanItems usize size minAddress maxAddress count (slot + 1) header

def getFirstAvailableItemLocked (usize : Nat) (header : LocatorHeader) (size : UInt32)
    (minAddress maxAddress : Nat) : Option Nat × LocatorHeader :=
  scanItems usize size minAddress maxAddress header.numItems.toNat 0 header

end LocatorHeader

/-- The successor of the header at an address, for chains of locators. -/
def Locators.next (locators : Locators) (address : Nat) : Option (Option Nat) :=
  (locators address).map fun header =>
    if header.hasNextLocator then some header.nextLocatorPtr else none

/-- The finite chain of locators that starts at an address. -/
abbrev Locators.Chain (locators : Locators) : Nat → List Nat → Prop := PointerChain.Chain locators.next

end ReloadedBuffers
