import ReloadedBuffers.Internal.ManagedOutcome
import ReloadedBuffers.Structs.Carving
import ReloadedBuffers.Structs.LocatorGrowth

/-! Locators in the C# library. They lie in memory as those of the Rust library do, but
the preallocated chunks are put one behind another, a lock that is taken is not written
again, and a failed allocation leaves through an exception.
-/

set_option autoImplicit false

namespace ReloadedBuffers

namespace LocatorItem.Managed

/-- `Interlocked.CompareExchange(ref _isTaken, 1, 0) == 0`. -/
def tryLock (item : LocatorItem) : Bool × LocatorItem :=
  if item.isTaken = 0 then (true, { item with isTaken := 1 }) else (false, item)

/-- Run alone, a caller that finds the lock taken spins forever. -/
def lock (item : LocatorItem) : Option LocatorItem :=
  match tryLock item with
  | (true, locked) => some locked
  | (false, _) => none

def canUse (usize : Nat) (item : LocatorItem) (size : UInt32) (minAddress maxAddress : Nat) : Bool :=
  if !item.isAllocated || item.bytesLeft < size then false
  else
    let startAvailableAddress := Words.add usize item.baseAddress item.position.toNat
    let endAvailableAddress := BufferAllocatorWindows.Managed.addWithOverflowCap usize item.baseAddress item.size.toNat
    startAvailableAddress ≥ minAddress && endAvailableAddress ≤ maxAddress

theorem canUse_eq {usize : Nat} {item : LocatorItem} (word : item.baseAddress < usize) (size : UInt32)
    (minAddress maxAddress : Nat) :
    canUse usize item size minAddress maxAddress = item.canUse usize size minAddress maxAddress := by
  simp only [canUse, LocatorItem.canUse, BufferAllocatorWindows.Managed.addWithOverflowCap_eq word]

theorem lock_eq_some {item locked : LocatorItem} (acquired : lock item = some locked) :
    item.isTaken = 0 ∧ locked = { item with isTaken := 1 } := by
  unfold lock tryLock at acquired
  by_cases free : item.isTaken = 0
  · simp only [free, if_true, Option.some.injEq] at acquired
    exact ⟨free, acquired.symm⟩
  · simp [free] at acquired

end LocatorItem.Managed

namespace LocatorHeader.Managed

/-- The loop of `Initialize`, which moves the address of the next buffer as it goes. -/
def carve (usize : Nat) :
    Nat → UInt32 → Nat → Nat → UInt8 → (Nat → LocatorItem) → UInt8 × (Nat → LocatorItem)
  | 0, _, _, _, numItems, items => (numItems, items)
  | fuel + 1, remainingBytes, bufferAddress, slot, numItems, items =>
    if remainingBytes > 0 then
      let thisLength := min lengthOfPreallocatedChunks remainingBytes
      carve usize fuel (remainingBytes - thisLength) (Words.add usize bufferAddress thisLength.toNat) (slot + 1)
        (numItems + 1) (Function.update items slot (LocatorItem.new bufferAddress thisLength))
    else (numItems, items)

/-- Every round takes at least one byte, so `remainingBytes` rounds are enough. -/
def initializeHeader (usize : Nat) (raw : Nat → LocatorHeader) (address : Nat) (length : Int32) (locators : Locators) :
    Locators :=
  let header := (raw address).setDefaultValues address
  let remainingBytes := (length - Int32.ofNat locatorLength).toUInt32
  let bufferAddress := Words.add usize address locatorLength
  let (numItems, items) := carve usize remainingBytes.toNat remainingBytes bufferAddress 0 0 header.items
  Function.update locators address (some { header with items := items, numItems := numItems })

def scanItems (usize : Nat) (size : UInt32) (minAddress maxAddress : Nat) :
    Nat → Nat → LocatorHeader → Option Nat × LocatorHeader
  | 0, _, header => (none, header)
  | count + 1, slot, header =>
    let item := header.items slot
    if LocatorItem.Managed.canUse usize item size minAddress maxAddress then
      match LocatorItem.Managed.tryLock item with
      | (true, locked) => (some slot, header.setItem slot locked)
      | (false, _) => scanItems usize size minAddress maxAddress count (slot + 1) header
    else scanItems usize size minAddress maxAddress count (slot + 1) header

def getFirstAvailableItemLocked (usize : Nat) (header : LocatorHeader) (size : UInt32) (minAddress maxAddress : Nat) :
    Option Nat × LocatorHeader :=
  scanItems usize size minAddress maxAddress header.numItems.toNat 0 header

variable {σ : Type} (target : Target) (os : ManagedOs σ)

/-- `TryAllocateItem`: an item, false where no slots are left, or what the allocation throws. -/
def tryAllocateItem (fuel locator : Nat) (size : UInt32) (minAddress maxAddress : Nat) (world : World σ) :
    Option (Except ManagedException (Option SafeLocatorItem) × World σ) := do
  let header ← world.locators locator
  if header.isFull target.width then
    return (.ok none, world)
  let header ← header.lock
  if header.isFull target.width then
    return (.ok none, { world with locators := world.locators.store locator header.unlock })
  let settings := { BufferAllocatorSettings.new target with
    minAddress := minAddress, maxAddress := maxAddress, size := size }
  let (result, system) ← BufferAllocator.Managed.allocate target os fuel settings world.os
  match result with
  | .ok result =>
    let item ← LocatorItem.Managed.lock result
    let slot := header.numItems.toNat
    let header := { header.setItem slot item with numItems := header.numItems + 1 }
    return (.ok (some ⟨locator, slot⟩), ⟨world.locators.store locator header.unlock, system⟩)
  -- The lock is released on the way out.
  | .error exception => return (.error exception, ⟨world.locators.store locator header.unlock, system⟩)

def getNextLocator (locator : Nat) (world : World σ) : Option (Except ManagedException Nat × World σ) := do
  let header ← world.locators locator
  if header.hasNextLocator then
    return (.ok header.nextLocatorPtr, world)
  let header ← header.lock
  if header.hasNextLocator then
    return (.ok header.nextLocatorPtr, { world with locators := world.locators.store locator header.unlock })
  let allocSize := BufferAllocatorWindows.Managed.getAllocationGranularity target
  match os.allocate (BufferAllocatorWindows.Managed.nuint target.usize allocSize) world.os with
  | (none, system) => return (.error .memoryAllocation, ⟨world.locators.store locator header.unlock, system⟩)
  | (some (address, length), system) =>
    let linked := world.locators.store locator { header with nextLocatorPtr := address }
    let locators := initializeHeader target.usize (os.os.raw system) address (Int32.ofNat length) linked
    let header ← locators locator
    return (.ok header.nextLocatorPtr, ⟨locators.store locator header.unlock, system⟩)

/-! ### What `Initialize` leaves -/

/-- The items once the chunks have been registered from `slot` on, one behind another. -/
def parts (bufferAddress slot remaining : Nat) (items : Nat → LocatorItem) : Nat → LocatorItem := fun index =>
  if slot ≤ index ∧ index < slot + chunkCount remaining then
    LocatorItem.new (bufferAddress + (index - slot) * 16384) (UInt32.ofNat (chunkSize remaining (index - slot)))
  else items index

@[simp] theorem parts_zero (bufferAddress slot : Nat) (items : Nat → LocatorItem) :
    parts bufferAddress slot 0 items = items := by
  funext index
  apply if_neg
  rw [chunkCount_zero]
  omega

/-- The first chunk, and those of the rest behind it. -/
theorem parts_more {bufferAddress slot remaining : Nat} {items : Nat → LocatorItem} (more : 0 < remaining) :
    parts bufferAddress slot remaining items =
      parts (bufferAddress + min 16384 remaining) (slot + 1) (remaining - min 16384 remaining)
        (Function.update items slot (LocatorItem.new bufferAddress (UInt32.ofNat (min 16384 remaining)))) := by
  have chunk : lengthOfPreallocatedChunks.toNat = 16384 := rfl
  have count := chunkCount_more more
  funext index
  unfold parts
  rcases Nat.lt_trichotomy index slot with before | rfl | after
  · rw [if_neg (by omega), if_neg (by omega), Function.update_of_ne (by omega)]
  · rw [if_pos (by omega), if_neg (by omega), Function.update_self, Nat.sub_self, chunkSize, chunk, Nat.zero_mul,
      Nat.sub_zero, Nat.add_zero]
  · rw [Function.update_of_ne (by omega)]
    obtain ⟨later, rfl⟩ := Nat.exists_eq_add_of_lt after
    have shift : chunkSize (remaining - min 16384 remaining) (slot + later + 1 - (slot + 1)) =
        chunkSize remaining (slot + later + 1 - slot) := by
      simp only [chunkSize, chunk]
      omega
    rw [shift]
    split
    · rename_i inside
      rw [if_pos (by omega)]
      -- Behind a short chunk there are no others.
      have whole : min 16384 remaining = 16384 := by
        have others : 0 < chunkCount (remaining - min 16384 remaining) := by omega
        simp only [chunkCount, chunk] at others
        omega
      congr 1
      omega
    · rw [if_neg (by omega)]

theorem carve_eq {usize fuel slot bufferAddress : Nat} {remaining : UInt32} {numItems : UInt8}
    {items : Nat → LocatorItem} (enough : remaining.toNat ≤ fuel) (word : bufferAddress + remaining.toNat < usize) :
    carve usize fuel remaining bufferAddress slot numItems items =
      (numItems + UInt8.ofNat (chunkCount remaining.toNat), parts bufferAddress slot remaining.toNat items) := by
  induction fuel generalizing remaining bufferAddress slot numItems items with
  | zero =>
      rw [Nat.le_zero.mp enough, parts_zero]
      exact Prod.ext (UInt8.add_zero numItems).symm rfl
  | succ fuel ih =>
      simp only [carve]
      split
      · rename_i more
        have positive : 0 < remaining.toNat := UInt32.lt_iff_toNat_lt.mp more
        have taken : (min lengthOfPreallocatedChunks remaining).toNat = min 16384 remaining.toNat := min_toNat _ _
        have first : min lengthOfPreallocatedChunks remaining = UInt32.ofNat (min 16384 remaining.toNat) := by
          rw [← taken, UInt32.ofNat_toNat]
        have left : (remaining - min lengthOfPreallocatedChunks remaining).toNat =
            remaining.toNat - min 16384 remaining.toNat := by
          rw [UInt32.toNat_sub_of_le _ _ (UInt32.le_iff_toNat_le.mpr (by omega)), taken]
        have moved : Words.add usize bufferAddress (min lengthOfPreallocatedChunks remaining).toNat =
            bufferAddress + min 16384 remaining.toNat := by
          rw [taken, Words.add_eq (by omega)]
        rw [moved, ih (by omega) (by omega), left, chunkCount_more positive, parts_more positive, first]
        refine Prod.ext ?_ rfl
        dsimp only
        rw [UInt8.add_assoc, Nat.add_comm _ 1, UInt8.ofNat_add]
        rfl
      · rename_i empty
        have zero : remaining.toNat = 0 := by
          rw [gt_iff_lt, UInt32.lt_iff_toNat_lt] at empty
          exact Nat.eq_zero_of_not_pos empty
        rw [zero, parts_zero]
        exact Prod.ext (UInt8.add_zero numItems).symm rfl

/-- As many items as there are chunks in the rest, unused and each at its own place. -/
structure Placed (header : LocatorHeader) (start rest : Nat) : Prop where
  count : header.numItems.toNat = chunkCount rest
  item : ∀ slot < chunkCount rest,
    header.items slot = LocatorItem.new (start + slot * 16384) (UInt32.ofNat (chunkSize rest slot))

theorem remainingBytes_eq {length : Nat} (large : 4096 ≤ length) (small : length < 2 ^ 31) :
    (Int32.ofNat length - Int32.ofNat locatorLength).toUInt32.toNat = length - 4096 := by
  have page : (UInt32.ofNat locatorLength).toNat = 4096 := rfl
  have whole : (UInt32.ofNat length).toNat = length := by
    rw [UInt32.toNat_ofNat']
    exact Nat.mod_eq_of_lt (by omega)
  have same : (Int32.ofNat length - Int32.ofNat locatorLength).toUInt32 =
      UInt32.ofNat length - UInt32.ofNat locatorLength := by
    rw [Int32.toUInt32_sub]
    rfl
  rw [same, UInt32.toNat_sub_of_le _ _ (UInt32.le_iff_toNat_le.mpr (by omega)), whole, page]

/-- Only the header at the address is written, and it ends its chain. -/
theorem initializeHeader_eq {usize address length : Nat} (raw : Nat → LocatorHeader) (locators : Locators)
    (large : 4096 ≤ length) (small : length < 2 ^ 31) (word : address + length < usize) :
    initializeHeader usize raw address (Int32.ofNat length) locators =
      locators.store address { (raw address).setDefaultValues address with
        numItems := UInt8.ofNat (chunkCount (length - 4096))
        items := parts (address + 4096) 0 (length - 4096) (raw address).items } := by
  have page : locatorLength = 4096 := rfl
  have rest := remainingBytes_eq large small
  have start : Words.add usize address locatorLength = address + 4096 := Words.add_eq (by omega)
  simp only [initializeHeader, start]
  rw [carve_eq (Nat.le_refl _) (by omega), rest, UInt8.zero_add]
  rfl

theorem initializeHeader_placed {width : PointerWidth} {usize address length : Nat} (raw : Nat → LocatorHeader)
    (locators : Locators) (large : 4096 ≤ length) (small : length ≤ 4096 + width.maxItemCount * 16384)
    (word : address + length < usize) : ∃ header,
      initializeHeader usize raw address (Int32.ofNat length) locators = locators.store address header ∧
      header.nextLocatorPtr = 0 ∧ Placed header (address + 4096) (length - 4096) := by
  have chunk : lengthOfPreallocatedChunks.toNat = 16384 := rfl
  have most := width.maxItemCount_le
  refine ⟨_, initializeHeader_eq raw locators large (by omega) word, rfl, ?_, ?_⟩
  · simp only [UInt8.toNat_ofNat']
    refine Nat.mod_eq_of_lt ?_
    simp only [chunkCount, chunk]
    omega
  · intro slot inside
    simp only [parts]
    rw [if_pos ⟨Nat.zero_le _, by omega⟩, Nat.sub_zero]

theorem Placed.size {header : LocatorHeader} {start rest slot : Nat} (placed : Placed header start rest)
    (inside : slot < chunkCount rest) : (header.items slot).size.toNat = chunkSize rest slot := by
  have chunk : lengthOfPreallocatedChunks.toNat = 16384 := rfl
  rw [placed.item slot inside]
  simp only [LocatorItem.new, UInt32.toNat_ofNat']
  refine Nat.mod_eq_of_lt (Nat.lt_of_le_of_lt (Nat.min_le_left _ _) ?_)
  omega

/-- Where a chunk lies, within the rest and in front of the next one. -/
theorem Placed.bounds {header : LocatorHeader} {start rest slot : Nat} (placed : Placed header start rest)
    (inside : slot < chunkCount rest) : (header.items slot).baseAddress = start + slot * 16384 ∧
      (header.items slot).position = 0 ∧ (header.items slot).size.toNat ≤ 16384 ∧
      slot * 16384 + (header.items slot).size.toNat ≤ rest := by
  have chunk : lengthOfPreallocatedChunks.toNat = 16384 := rfl
  have size := placed.size inside
  have most := (chunkSize_bounds inside).2
  have left : chunkSize rest slot ≤ rest - slot * 16384 := Nat.min_le_right _ _
  have begins : slot * 16384 < rest := by
    simp only [chunkCount, chunk] at inside
    omega
  rw [size, placed.item slot inside]
  exact ⟨rfl, rfl, most, by omega⟩

theorem Placed.partitions {header : LocatorHeader} {start rest : Nat} (placed : Placed header start rest) :
    header.Partitions start (start + rest) := by
  have chunk : lengthOfPreallocatedChunks.toNat = 16384 := rfl
  obtain ⟨covers, _⟩ := chunkCount_covers rest
  have used := sum_chunkSize rest (chunkCount rest)
  rw [Nat.min_eq_left covers] at used
  have same : start + rest - start = rest := Nat.add_sub_cancel_left _ _
  refine ⟨?_, ?_, ?_, ?_, ?_, ?_⟩ <;> simp only [placed.count, same]
  · intro some_chunk
    rw [placed.item 0 some_chunk, LocatorItem.new, Nat.zero_mul, Nat.add_zero]
  · intro slot inside
    -- A chunk with another behind it is a whole one.
    have whole : chunkSize rest slot = 16384 := by
      simp only [chunkCount, chunkSize, chunk] at inside ⊢
      omega
    rw [placed.size (by omega), whole, placed.item slot (by omega), placed.item (slot + 1) inside]
    simp only [LocatorItem.new]
    omega
  · intro slot inside
    rw [UInt32.le_iff_toNat_le, placed.size inside]
    exact chunkSize_bounds inside
  · refine (congrArg List.sum (List.map_congr_left fun slot member => ?_)).trans used
    exact placed.size (List.mem_range.mp member)
  · intro slot inside
    rw [placed.item slot inside]
    exact ⟨rfl, rfl⟩

/-- The buffers behind a header that C# initialises partition the rest of its memory, at
every length that a header has items for; those of the Rust library do up to one chunk. -/
theorem initialize_partitions {target : Target} {address length : Nat} (raw : Nat → LocatorHeader)
    (locators : Locators) (large : 4096 ≤ length) (small : length ≤ 4096 + target.width.maxItemCount * 16384)
    (word : address + length < target.usize) :
    ∃ header, initializeHeader target.usize raw address (Int32.ofNat length) locators address = some header ∧
      header.Partitions (address + 4096) (address + length) := by
  obtain ⟨header, stored, _, placed⟩ := initializeHeader_placed raw locators large small word
  have whole : address + 4096 + (length - 4096) = address + length := by omega
  refine ⟨header, ?_, whole ▸ placed.partitions⟩
  rw [stored, Locators.store_self]

/-- A block of the granularity of Windows, in which Rust puts four buffers at one address. -/
theorem initialize_partitions_granule : ∃ header,
    initializeHeader smallTarget.usize (fun _ => zeroedHeader) 0x10000 (Int32.ofNat 0x10000) (fun _ => none) 0x10000 =
        some header ∧ header.Partitions (0x10000 + 4096) (0x10000 + 0x10000) :=
  initialize_partitions _ _ (by decide) (by decide) (by decide)

/-- The scan leaves everything as it is but for the item that it locks. -/
theorem scanItems_cases (usize : Nat) (size : UInt32) (minAddress maxAddress count slot : Nat) (header : LocatorHeader) :
    scanItems usize size minAddress maxAddress count slot header = (none, header) ∨
      ∃ found, found < slot + count ∧ (header.items found).isTaken = 0 ∧
        LocatorItem.Managed.canUse usize (header.items found) size minAddress maxAddress = true ∧
        scanItems usize size minAddress maxAddress count slot header =
          (some found, header.setItem found { header.items found with isTaken := 1 }) := by
  induction count generalizing slot with
  | zero => exact .inl rfl
  | succ count ih =>
      have later := ih (slot + 1)
      rw [Nat.add_assoc, Nat.add_comm 1 count] at later
      simp only [scanItems]
      by_cases usable : LocatorItem.Managed.canUse usize (header.items slot) size minAddress maxAddress = true
      · rw [if_pos usable]
        by_cases free : (header.items slot).isTaken = 0
        · refine .inr ⟨slot, by omega, free, usable, ?_⟩
          simp only [LocatorItem.Managed.tryLock, if_pos free]
        · simp only [LocatorItem.Managed.tryLock, if_neg free]
          exact later
      · rw [if_neg usable]
        exact later

section

variable {σ : Type} {target : Target} {os : ManagedOs σ} {fuel locator : Nat} {held : σ → Set Nat}
  {settings : BufferSearchSettings} {world last : World σ}

/-- Either nothing has changed, or a usable free item has been locked. -/
theorem getFirstAvailableItemLocked_cases {header scanned : LocatorHeader} {slot : Option Nat}
    (words : ∀ pointer item, world.locators.registered pointer = some item → item.baseAddress < target.usize)
    (found : world.locators locator = some header)
    (run : getFirstAvailableItemLocked target.usize header settings.size settings.minAddress settings.maxAddress =
      (slot, scanned)) :
    slot = none ∧ scanned = header ∨ ∃ place, slot = some place ∧
      World.Taken target settings world ⟨locator, place⟩
        { world with locators := world.locators.store locator scanned } := by
  rcases scanItems_cases target.usize settings.size settings.minAddress settings.maxAddress header.numItems.toNat 0
    header with missed | ⟨place, below, free, usable, taken⟩
  · cases missed.symm.trans run
    exact .inl ⟨rfl, rfl⟩
  · cases taken.symm.trans run
    have inside : place < header.numItems.toNat := by omega
    have registered : world.locators.registered ⟨locator, place⟩ = some (header.items place) :=
      Locators.registered_eq_some.mpr ⟨header, found, inside, rfl⟩
    rw [LocatorItem.Managed.canUse_eq (words _ _ registered)] at usable
    refine .inr ⟨place, rfl, ⟨header.items place, registered, free, usable, ?_⟩, ?_, rfl⟩
    · exact Locators.registered_setItem found inside
    · exact Locators.next_store found rfl

/-- All that `TryAllocateItem` can do. -/
theorem tryAllocateItem_cases {result : Except ManagedException (Option SafeLocatorItem)}
    (run : tryAllocateItem target os fuel locator settings.size settings.minAddress settings.maxAddress world =
      some (result, last)) :
    (∃ pointer item, result = .ok (some pointer) ∧ pointer.locator = locator ∧
        BufferAllocator.Managed.allocate target os fuel (itemRequest target settings) world.os =
          some (.ok item, last.os) ∧ World.Pushed world pointer item last) ∨
      result = .ok none ∧ last = world ∨
      ∃ exception, result = .error exception ∧ last.locators = world.locators ∧
        BufferAllocator.Managed.allocate target os fuel (itemRequest target settings) world.os =
          some (.error exception, last.os) := by
  obtain ⟨header, found, run⟩ := Option.bind_eq_some_iff.mp run
  split at run
  · cases run
    exact .inr (.inl ⟨rfl, rfl⟩)
  · rename_i room
    obtain ⟨locked, acquired, run⟩ := Option.bind_eq_some_iff.mp run
    obtain ⟨free, rfl⟩ := LocatorHeader.lock_eq_some acquired
    split at run
    · rename_i full
      exact absurd full room
    · obtain ⟨⟨allocated, system⟩, answer, run⟩ := Option.bind_eq_some_iff.mp run
      cases allocated with
      | error exception =>
          cases run
          refine .inr (.inr ⟨exception, rfl, ?_, answer⟩)
          rw [LocatorHeader.unlock_locked free, Locators.store_eq_self found]
      | ok item =>
          obtain ⟨taken, locked, run⟩ := Option.bind_eq_some_iff.mp run
          have same := (LocatorItem.Managed.lock_eq_some locked).2
          cases run
          have below : header.numItems.toNat < 255 := by
            have most := target.width.maxItemCount_le
            simp only [LocatorHeader.isFull, ge_iff_le, decide_eq_true_eq] at room
            omega
          have pushed : world.locators.store locator (LocatorHeader.unlock
              { LocatorHeader.setItem { header with isLocked := 1 } header.numItems.toNat taken with
                numItems := header.numItems + 1 }) =
              world.locators.store locator
                { header.setItem header.numItems.toNat taken with numItems := header.numItems + 1 } :=
            congrArg _ (@LocatorHeader.unlock_locked
              { header.setItem header.numItems.toNat taken with numItems := header.numItems + 1 } free)
          refine .inl ⟨_, item, rfl, rfl, answer, ?_, ?_, ?_, ?_⟩
          · simp [Locators.registered, found]
          · simp only [pushed, ← same]
            exact Locators.registered_push found below
          · simp only [pushed]
            exact Locators.next_store found rfl
          · rw [Locators.next_isSome, found]
            rfl

/-- The locator that ended its chain has been given a successor in fresh memory, with its
chunks one behind another. -/
structure Joined (target : Target) (held : σ → Set Nat) (before : World σ) (locator address : Nat) (after : World σ) :
    Prop where
  word : address + target.granularity < target.usize
  separate : Disjoint (Words.extent address target.granularity) (held before.os)
  grows : held before.os ∪ Words.extent address target.granularity ⊆ held after.os
  fresh : before.locators address = none
  header : ∃ header, after.locators address = some header ∧ header.nextLocatorPtr = 0 ∧
    Placed header (address + 4096) (target.granularity - 4096)
  frame : ∀ other, other ≠ address → other ≠ locator → after.locators.next other = before.locators.next other
  ended : before.locators.next locator = some none
  next : after.locators.next locator = some (some address)
  kept : ∀ pointer, pointer.locator ≠ address →
    after.locators.registered pointer = before.locators.registered pointer

/-- All that `GetNextLocator` can do. -/
theorem getNextLocator_cases (sound : os.Sound target held) (booted : target.Booted)
    (fits : target.granularity ≤ 4096 + target.width.maxItemCount * 16384) (housed : World.Housed held world)
    {result : Except ManagedException Nat} (run : getNextLocator target os locator world = some (result, last)) :
    (∃ address, result = .ok address ∧ world.locators.next locator = some (some address) ∧ last = world) ∨
      (∃ address, result = .ok address ∧ Joined target held world locator address last) ∨
      ∃ exception, result = .error exception ∧ World.Quiet held world last := by
  have wide := target.u32_le_usize
  obtain ⟨header, found, run⟩ := Option.bind_eq_some_iff.mp run
  split at run
  · rename_i linked
    cases run
    simp only [LocatorHeader.hasNextLocator, bne_iff_ne] at linked
    exact .inl ⟨_, rfl, LocatorHeader.next_of_ne_zero found linked, rfl⟩
  · rename_i unlinked
    have ended : header.nextLocatorPtr = 0 := by
      simpa [LocatorHeader.hasNextLocator] using unlinked
    obtain ⟨locked, acquired, run⟩ := Option.bind_eq_some_iff.mp run
    obtain ⟨free, rfl⟩ := LocatorHeader.lock_eq_some acquired
    split at run
    · rename_i again
      exact absurd again unlinked
    · simp only [BufferAllocatorWindows.Managed.getAllocationGranularity,
        BufferAllocatorWindows.Managed.nuint_ofNat booted.small (Nat.le_of_lt (by omega : 2 ^ 31 < target.usize))] at run
      have threw := sound.threw target.granularity world.os
      have allocated := sound.allocated target.granularity world.os
      split at run
      · rename_i system answer
        cases run
        rw [answer] at threw
        refine .inr (.inr ⟨_, rfl, .of_locators ?_ (threw rfl)⟩)
        rw [LocatorHeader.unlock_locked free, Locators.store_eq_self found]
      · rename_i address length system answer
        rw [answer] at allocated
        obtain ⟨rfl, notNull, word, separate, grows⟩ := allocated address length rfl
        have large : 4096 ≤ target.granularity := booted.large
        have inside : address ∈ Words.extent address target.granularity := by
          rw [Words.mem_extent]
          omega
        -- Every locator lies in memory that was in use before.
        have fresh : world.locators address = none := by
          by_contra taken
          have there := housed address (by rw [Locators.next_isSome]; exact Option.isSome_iff_ne_none.mpr taken)
          exact Set.disjoint_left.mp separate inside there
        have apart : locator ≠ address := by
          rintro rfl
          rw [found] at fresh
          cases fresh
        obtain ⟨created, stored, last, placed⟩ := initializeHeader_placed (os.os.raw system)
          (world.locators.store locator { header with isLocked := 1, nextLocatorPtr := address }) large fits word
        simp only [stored] at run
        obtain ⟨again, refound, run⟩ := Option.bind_eq_some_iff.mp run
        rw [Locators.store_of_ne apart, Locators.store_self] at refound
        cases refound
        cases run
        refine .inr (.inl ⟨address, rfl, word, separate, grows, fresh, ⟨created, ?_, last, placed⟩, ?_,
          LocatorHeader.next_of_eq_zero found ended, ?_, ?_⟩)
        · simp only [Locators.store_of_ne apart.symm, Locators.store_self]
        · intro other away elsewhere
          simp only [Locators.next, Locators.store_of_ne elsewhere, Locators.store_of_ne away]
        · exact LocatorHeader.next_of_ne_zero Locators.store_self notNull
        · intro pointer away
          rcases eq_or_ne pointer.locator locator with same | elsewhere
          · simp [Locators.registered, same, found, LocatorHeader.unlock]
          · rw [Locators.registered_store_of_ne elsewhere, Locators.registered_store_of_ne away,
              Locators.registered_store_of_ne elsewhere]

end

end LocatorHeader.Managed

end ReloadedBuffers
