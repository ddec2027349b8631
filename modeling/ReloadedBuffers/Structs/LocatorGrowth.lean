import ReloadedBuffers.Internal.Allocate
import ReloadedBuffers.Structs.FirstFit
import ReloadedBuffers.Structs.Initialization
import ReloadedBuffers.Structs.SafeLocatorItem

/-! The operations on one locator, run alone: taking an available item, registering
a newly allocated one, and finding or creating the next locator. Each has one
inversion lemma, which says all that it can do.
-/

set_option autoImplicit false

namespace ReloadedBuffers

inductive ItemAllocationError where
  | noSpaceInHeader
  | cannotAllocateMemory
  deriving DecidableEq, Repr

def ItemAllocationError.asString : ItemAllocationError → String
  | .noSpaceInHeader => "No more space in locator header"
  | .cannotAllocateMemory => "Could not allocate memory"

variable {σ : Type} (target : Target) (os : Os σ) (fuel : Nat)

/-- `try_allocate_item`; there is no result where a call does not return. -/
def tryAllocateItem (locator : Nat) (size : UInt32) (minAddress maxAddress : Nat) (world : World σ) :
    Option (Except ItemAllocationError SafeLocatorItem × World σ) := do
  let header ← world.locators locator
  if header.isFull target.width then
    return (.error .noSpaceInHeader, world)
  let header ← header.lock
  -- Another thread may have filled the header while this one waited for the lock.
  if header.isFull target.width then
    return (.error .noSpaceInHeader, { world with locators := world.locators.store locator header.unlock })
  let settings := { BufferAllocatorSettings.new target with
    minAddress := minAddress, maxAddress := maxAddress, size := size }
  let (result, system) ← allocate target os fuel settings world.os
  match result with
  | .ok allocatedMemory =>
    let item ← allocatedMemory.lock
    let slot := header.numItems.toNat
    let header := { header.setItem slot item with numItems := header.numItems + 1 }
    return (.ok ⟨locator, slot⟩, ⟨world.locators.store locator header.unlock, system⟩)
  | .error _ =>
    return (.error .cannotAllocateMemory, ⟨world.locators.store locator header.unlock, system⟩)

def getNextLocator (locator : Nat) (world : World σ) : Option (Except String Nat × World σ) := do
  let header ← world.locators locator
  if header.hasNextLocator then
    return (.ok header.nextLocatorPtr, world)
  let header ← header.lock
  -- Another thread may have created it while this one waited for the lock.
  if header.hasNextLocator then
    return (.ok header.nextLocatorPtr, { world with locators := world.locators.store locator header.unlock })
  let allocSize := target.sysInfo.allocationGranularity
  let (addr, system) := os.alloc allocSize target.sysInfo.pageSize world.os
  if addr = 0 then
    return (.error "Failed to allocate memory for LocatorHeader. Is this process out of memory?",
      ⟨world.locators.store locator header.unlock, system⟩)
  let linked := world.locators.store locator { header with nextLocatorPtr := addr }
  let locators := LocatorHeader.initializeHeader target (os.raw system) addr allocSize linked
  let header ← locators locator
  return (.ok header.nextLocatorPtr, ⟨locators.store locator header.unlock, system⟩)

namespace LocatorHeader

/-- The items that a scan has passed were taken, if it could use them. -/
theorem sweep_marked {usize : Nat} {size : UInt32} {minAddress maxAddress start stop : Nat} {items : Nat → LocatorItem}
    (passed : ∀ place, start ≤ place → place < stop → ¬ (items place).Takeable usize size minAddress maxAddress)
    (place : Nat) : LocatorItem.Marked (items place) (sweep usize size minAddress maxAddress start stop items place) := by
  unfold sweep
  split
  · rename_i swept
    exact .inr ⟨fun free => passed place swept.1 swept.2.1 ⟨swept.2.2, free⟩, rfl⟩
  · exact .refl _

-- The scan marks taken items on its way and stops at the first one it locks.
theorem scanItems_cases (usize : Nat) (size : UInt32) (minAddress maxAddress count slot : Nat) (header : LocatorHeader) :
    ∃ items, (∀ place, LocatorItem.Marked (header.items place) (items place)) ∧
      (scanItems usize size minAddress maxAddress count slot header = (none, { header with items := items }) ∨
        ∃ found, found < slot + count ∧ (items found).isTaken = 0 ∧
          (items found).canUse usize size minAddress maxAddress = true ∧
          scanItems usize size minAddress maxAddress count slot header =
            (some found, { header with items := items }.setItem found { items found with isTaken := 1 })) := by
  rcases scanItems_exact usize size minAddress maxAddress count slot header with
    ⟨passed, scan⟩ | ⟨found, above, below, takeable, passed, scan⟩
  · exact ⟨_, sweep_marked passed, .inl scan⟩
  · have kept : sweep usize size minAddress maxAddress slot found header.items found = header.items found :=
      sweep_of_outside (.inr (Nat.le_refl _))
    refine ⟨_, sweep_marked passed, .inr ⟨found, below, ?_, ?_, ?_⟩⟩
    · exact kept ▸ takeable.2
    · exact kept ▸ takeable.1
    · rw [scan, sweep_succ above takeable.1, kept]
      rfl

/-- A scan that finds nothing has seen no usable item that was free. -/
theorem scanItems_missed {usize : Nat} {size : UInt32} {minAddress maxAddress count slot : Nat}
    {header scanned : LocatorHeader}
    (run : scanItems usize size minAddress maxAddress count slot header = (none, scanned)) {place : Nat}
    (above : slot ≤ place) (below : place < slot + count) (free : (header.items place).isTaken = 0) :
    (header.items place).canUse usize size minAddress maxAddress = false := by
  rcases scanItems_exact usize size minAddress maxAddress count slot header with
    ⟨passed, _⟩ | ⟨found, _, _, _, _, scan⟩
  · by_contra usable
    rw [Bool.not_eq_false] at usable
    exact passed place above below ⟨usable, free⟩
  · cases scan.symm.trans run

end LocatorHeader

/-- The settings of the allocation behind a registration. -/
def itemRequest (settings : BufferSearchSettings) : BufferAllocatorSettings :=
  { BufferAllocatorSettings.new target with
    minAddress := settings.minAddress, maxAddress := settings.maxAddress, size := settings.size }

variable {target os fuel}

namespace World

variable (target) (held : σ → Set Nat)

/-- A usable free item has been locked. -/
structure Taken (settings : BufferSearchSettings) (before : World σ) (pointer : SafeLocatorItem)
    (after : World σ) : Prop where
  item : ∃ item, before.locators.registered pointer = some item ∧ item.isTaken = 0 ∧
    item.canUse target.usize settings.size settings.minAddress settings.maxAddress = true ∧
    after.locators.registered =
      Function.update before.locators.registered pointer (some { item with isTaken := 1 })
  next : after.locators.next = before.locators.next
  os : after.os = before.os

/-- An item has been put behind the registered ones of a locator, locked from the start. -/
structure Pushed (before : World σ) (pointer : SafeLocatorItem) (item : LocatorItem) (after : World σ) : Prop where
  free : before.locators.registered pointer = none
  stored : after.locators.registered =
    Function.update before.locators.registered pointer (some { item with isTaken := 1 })
  next : after.locators.next = before.locators.next
  locator : (before.locators.next pointer.locator).isSome

/-- A new item, locked from the start, has been put behind the registered ones of a locator. -/
structure Registered (settings : BufferSearchSettings) (before : World σ) (pointer : SafeLocatorItem)
    (after : World σ) : Prop where
  item : ∃ item, Obtained target.usize ((itemRequest target settings).sanitize target) (held before.os)
      (held after.os) item ∧ before.locators.registered pointer = none ∧
    after.locators.registered =
      Function.update before.locators.registered pointer (some { item with isTaken := 1 })
  next : after.locators.next = before.locators.next
  locator : (before.locators.next pointer.locator).isSome

/-- What an allocation obtained has been registered when it has been pushed. -/
theorem Pushed.registered {target : Target} {held : σ → Set Nat} {settings : BufferSearchSettings}
    {before after : World σ} {pointer : SafeLocatorItem} {item : LocatorItem} (pushed : Pushed before pointer item after)
    (obtained : Obtained target.usize ((itemRequest target settings).sanitize target) (held before.os)
      (held after.os) item) : Registered target held settings before pointer after :=
  ⟨⟨item, obtained, pushed.free, pushed.stored⟩, pushed.next, pushed.locator⟩

/-- The locator that ended its chain has been given a successor in fresh memory. -/
structure Linked (before : World σ) (locator address : Nat) (after : World σ) : Prop where
  ended : before.locators.next locator = some none
  next : after.locators.next locator = some (some address)
  word : address + target.granularity < target.usize
  separate : Disjoint (Words.extent address target.granularity) (held before.os)
  grows : held before.os ∪ Words.extent address target.granularity ⊆ held after.os
  nodes : ∃ nodes, after.locators.Chain address nodes ∧
    (∀ node ∈ nodes, node ∈ Words.extent address target.granularity) ∧
    ∀ other, other ∉ nodes → other ≠ locator → after.locators.next other = before.locators.next other
  kept : ∀ pointer, pointer.locator ∉ Words.extent address target.granularity →
    after.locators.registered pointer = before.locators.registered pointer
  fresh : ∀ pointer item, pointer.locator ∈ Words.extent address target.granularity →
    after.locators.registered pointer = some item →
      pointer.locator = address ∧ (target.granularity ≤ singleChunk → pointer.slot = 0) ∧
      ∃ size, item = LocatorItem.new (address + locatorLength) size ∧
        size.toNat + locatorLength ≤ target.granularity

/-- Every locator lies in memory that is in use. -/
def Housed (world : World σ) : Prop :=
  ∀ locator, (world.locators.next locator).isSome → locator ∈ held world.os

end World

namespace LocatorHeader

theorem lock_eq_some {header locked : LocatorHeader} (acquired : header.lock = some locked) :
    header.isLocked = 0 ∧ locked = { header with isLocked := 1 } := by
  unfold lock tryLock at acquired
  by_cases free : header.isLocked = 0
  · simp only [free, if_true, Option.some.injEq] at acquired
    exact ⟨free, acquired.symm⟩
  · simp [free] at acquired

/-- Locking and unlocking a header that was free. -/
theorem unlock_locked {header : LocatorHeader} (free : header.isLocked = 0) :
    unlock { header with isLocked := 1 } = header := by
  cases header
  cases free
  rfl

end LocatorHeader

theorem LocatorItem.lock_eq_some {item locked : LocatorItem} (acquired : item.lock = some locked) :
    item.isTaken = 0 ∧ locked = { item with isTaken := 1 } := by
  unfold lock tryLock at acquired
  split at acquired
  · rename_i won
    obtain ⟨free, rfl⟩ := Prod.mk.inj won
    cases acquired
    exact ⟨beq_iff_eq.mp free, rfl⟩
  · cases acquired

section

variable {held : σ → Set Nat} {settings : BufferSearchSettings} {locator : Nat} {world last : World σ}

/-- All that `try_allocate_item` can do, whatever the allocation gives. -/
theorem tryAllocateItem_cases {result : Except ItemAllocationError SafeLocatorItem}
    (run : tryAllocateItem target os fuel locator settings.size settings.minAddress settings.maxAddress world =
      some (result, last)) :
    ∃ header, world.locators locator = some header ∧
      ((∃ pointer item, result = .ok pointer ∧ pointer.locator = locator ∧ header.isFull target.width = false ∧
          allocate target os fuel (itemRequest target settings) world.os = some (.ok item, last.os) ∧
          World.Pushed world pointer item last) ∨
        (result = .error .noSpaceInHeader ∧ header.isFull target.width = true ∧ last = world) ∨
        ∃ error, result = .error .cannotAllocateMemory ∧ last.locators = world.locators ∧
          allocate target os fuel (itemRequest target settings) world.os = some (.error error, last.os)) := by
  obtain ⟨header, found, run⟩ := Option.bind_eq_some_iff.mp run
  refine ⟨header, found, ?_⟩
  split at run
  · rename_i full
    cases run
    exact .inr (.inl ⟨rfl, full, rfl⟩)
  · rename_i room
    obtain ⟨locked, acquired, run⟩ := Option.bind_eq_some_iff.mp run
    obtain ⟨free, rfl⟩ := LocatorHeader.lock_eq_some acquired
    split at run
    · rename_i full
      exact absurd full room
    · obtain ⟨⟨allocated, system⟩, answer, run⟩ := Option.bind_eq_some_iff.mp run
      cases allocated with
      | error text =>
          cases run
          refine .inr (.inr ⟨text, rfl, ?_, answer⟩)
          rw [LocatorHeader.unlock_locked free, Locators.store_eq_self found]
      | ok item =>
          obtain ⟨taken, locked, run⟩ := Option.bind_eq_some_iff.mp run
          have same := (LocatorItem.lock_eq_some locked).2
          cases run
          have below : header.numItems.toNat < 255 := by
            have most := target.width.maxItemCount_le
            simp only [LocatorHeader.isFull, ge_iff_le, decide_eq_true_eq] at room
            omega
          have pushed : (world.locators.store locator (LocatorHeader.unlock
              { LocatorHeader.setItem { header with isLocked := 1 } header.numItems.toNat taken with
                numItems := header.numItems + 1 })) =
              world.locators.store locator
                { header.setItem header.numItems.toNat taken with numItems := header.numItems + 1 } :=
            congrArg _ (@LocatorHeader.unlock_locked
              { header.setItem header.numItems.toNat taken with numItems := header.numItems + 1 } free)
          refine .inl ⟨_, item, rfl, rfl, Bool.eq_false_iff.mpr room, answer, ?_, ?_, ?_, ?_⟩
          · simp [Locators.registered, found]
          · simp only [pushed, ← same]
            exact Locators.registered_push found below
          · simp only [pushed]
            exact Locators.next_store found rfl
          · rw [Locators.next_isSome, found]
            rfl

theorem tryAllocateItem_ok {pointer : SafeLocatorItem}
    (run : tryAllocateItem target os fuel locator settings.size settings.minAddress settings.maxAddress world =
      some (.ok pointer, last)) :
    ∃ header item, world.locators locator = some header ∧ header.isFull target.width = false ∧
      pointer.locator = locator ∧
      allocate target os fuel (itemRequest target settings) world.os = some (.ok item, last.os) ∧
      World.Pushed world pointer item last := by
  obtain ⟨header, found, ⟨_, item, same, here, room, answer, pushed⟩ | ⟨wrong, _⟩ | ⟨_, wrong, _⟩⟩ :=
    tryAllocateItem_cases run
  · cases same
    exact ⟨header, item, found, room, here, answer, pushed⟩
  · cases wrong
  · cases wrong

theorem tryAllocateItem_noSpaceInHeader
    (run : tryAllocateItem target os fuel locator settings.size settings.minAddress settings.maxAddress world =
      some (.error .noSpaceInHeader, last)) :
    last = world ∧ ∃ header, world.locators locator = some header ∧ header.isFull target.width = true := by
  obtain ⟨header, found, ⟨_, _, wrong, _⟩ | ⟨_, full, same⟩ | ⟨_, wrong, _⟩⟩ := tryAllocateItem_cases run
  · cases wrong
  · exact ⟨same, header, found, full⟩
  · cases wrong

theorem tryAllocateItem_cannotAllocateMemory
    (run : tryAllocateItem target os fuel locator settings.size settings.minAddress settings.maxAddress world =
      some (.error .cannotAllocateMemory, last)) :
    last.locators = world.locators ∧
      ∃ error, allocate target os fuel (itemRequest target settings) world.os = some (.error error, last.os) := by
  obtain ⟨_, _, ⟨_, _, wrong, _⟩ | ⟨wrong, _⟩ | ⟨error, _, same, answer⟩⟩ := tryAllocateItem_cases run
  · cases wrong
  · cases wrong
  · exact ⟨same, error, answer⟩

theorem getFirstAvailableItemLocked_cases {header scanned : LocatorHeader} {slot : Option Nat}
    (found : world.locators locator = some header)
    (run : header.getFirstAvailableItemLocked target.usize settings.size settings.minAddress settings.maxAddress =
      (slot, scanned)) :
    ∃ middle, World.Scanned world middle ∧
      (slot = none ∧ ⟨world.locators.store locator scanned, world.os⟩ = middle ∨
        ∃ place, slot = some place ∧ World.Taken target settings middle ⟨locator, place⟩
          ⟨world.locators.store locator scanned, world.os⟩) := by
  obtain ⟨items, marked, ends⟩ := LocatorHeader.scanItems_cases target.usize settings.size settings.minAddress
    settings.maxAddress header.numItems.toNat 0 header
  have scanned : World.Scanned world
      { world with locators := world.locators.store locator { header with items := items } } := by
    refine ⟨rfl, Locators.next_store found rfl, fun pointer => ?_⟩
    rcases eq_or_ne pointer.locator locator with rfl | apart
    · by_cases inside : pointer.slot < header.numItems.toNat
      · simp only [Locators.registered, found, Locators.store_self, Option.bind_some, inside, if_true]
        exact .some (marked pointer.slot)
      · simp only [Locators.registered, found, Locators.store_self, Option.bind_some, inside, if_false]
        exact .none
    · simp only [Locators.registered_store_of_ne apart]
      exact (World.Scanned.refl world).marked pointer
  refine ⟨_, scanned, ?_⟩
  rcases ends with missed | ⟨place, below, free, usable, taken⟩
  · cases missed.symm.trans run
    exact .inl ⟨rfl, rfl⟩
  · cases taken.symm.trans run
    have inside : place < ({ header with items := items } : LocatorHeader).numItems.toNat := by
      simpa using below
    refine .inr ⟨place, rfl, ⟨items place, ?_, free, usable, ?_⟩, ?_, rfl⟩
    · rw [Locators.registered_store_self, if_pos inside]
    · rw [← Locators.registered_setItem Locators.store_self inside, Locators.store_store]
    · have taking : (world.locators.store locator (LocatorHeader.setItem { header with items := items } place
          { items place with isTaken := 1 })).next = world.locators.next := Locators.next_store found rfl
      have scanning : (world.locators.store locator { header with items := items }).next = world.locators.next :=
        Locators.next_store found rfl
      exact taking.trans scanning.symm

theorem getFirstAvailableItemLocked_missed {header scanned : LocatorHeader}
    (found : world.locators locator = some header)
    (run : header.getFirstAvailableItemLocked target.usize settings.size settings.minAddress settings.maxAddress =
      (none, scanned)) : World.Scanned world { world with locators := world.locators.store locator scanned } := by
  obtain ⟨middle, marked, ⟨_, rfl⟩ | ⟨_, wrong, _⟩⟩ := getFirstAvailableItemLocked_cases found run
  · exact marked
  · cases wrong

theorem getFirstAvailableItemLocked_taken {header scanned : LocatorHeader} {slot : Nat}
    (found : world.locators locator = some header)
    (run : header.getFirstAvailableItemLocked target.usize settings.size settings.minAddress settings.maxAddress =
      (some slot, scanned)) :
    ∃ middle, World.Scanned world middle ∧ World.Taken target settings middle ⟨locator, slot⟩
      { world with locators := world.locators.store locator scanned } := by
  obtain ⟨middle, marked, ⟨wrong, _⟩ | ⟨_, same, taken⟩⟩ := getFirstAvailableItemLocked_cases found run
  · cases wrong
  · cases same
    exact ⟨middle, marked, taken⟩

theorem getFirstAvailableItemLocked_unusable {header scanned : LocatorHeader}
    (found : world.locators locator = some header)
    (run : header.getFirstAvailableItemLocked target.usize settings.size settings.minAddress settings.maxAddress =
      (none, scanned)) {slot : Nat} {item : LocatorItem}
    (registered : world.locators.registered ⟨locator, slot⟩ = some item) (free : item.isTaken = 0) :
    item.canUse target.usize settings.size settings.minAddress settings.maxAddress = false := by
  obtain ⟨known, reached, inside, rfl⟩ := Locators.registered_eq_some.mp registered
  cases reached.symm.trans found
  exact LocatorHeader.scanItems_missed run (Nat.zero_le _) (by omega) free

theorem World.Linked.of_formatted {header linked : LocatorHeader} {address : Nat} {system : σ}
    {locators : Locators} {nodes : List Nat} (housed : World.Housed held world)
    (found : world.locators locator = some header) (ended : header.nextLocatorPtr = 0) (notNull : address ≠ 0)
    (word : address + target.granularity < target.usize)
    (separate : Disjoint (Words.extent address target.granularity) (held world.os))
    (grows : held world.os ∪ Words.extent address target.granularity ⊆ held system)
    (formatted : Formatted address target.granularity (world.locators.store locator linked) locators nodes)
    (pointer : linked.nextLocatorPtr = address) (items : linked.items = header.items)
    (numItems : linked.numItems = header.numItems) :
    locators locator = some linked ∧
      World.Linked target held world locator address ⟨locators.store locator linked.unlock, system⟩ := by
  -- Locators lie in memory in use, so laying out the new block leaves this one alone.
  have outside : locator ∉ Words.extent address target.granularity := by
    intro inside
    have inUse := housed locator (by rw [Locators.next_isSome, found]; rfl)
    exact Set.disjoint_left.mp separate inside inUse
  have unformatted : locator ∉ nodes := fun member => outside (formatted.inside _ member)
  have here : locators locator = some linked := by
    rw [formatted.frame _ unformatted, Locators.store_self]
  have unlocked : (locators.store locator linked.unlock).next = locators.next :=
    Locators.next_store here rfl
  refine ⟨here, LocatorHeader.next_of_eq_zero found ended, ?_, word, separate, grows, ⟨nodes, ?_, formatted.inside, ?_⟩,
    ?_, ?_⟩
  · have goes := LocatorHeader.next_of_ne_zero here (pointer.symm ▸ notNull)
    rw [pointer] at goes
    exact (congrFun unlocked locator).trans goes
  · change PointerChain.Chain (locators.store locator linked.unlock).next address nodes
    rw [unlocked]
    exact formatted.chain
  · intro other away apart
    change (locators.store locator linked.unlock).next other = _
    rw [unlocked]
    simp [Locators.next, formatted.frame other away, apart]
  · intro place away
    rcases eq_or_ne place.locator locator with same | apart
    · simp [Locators.registered, same, found, LocatorHeader.unlock, items, numItems]
    · have unchanged : place.locator ∉ nodes := fun member => away (formatted.inside _ member)
      simp [Locators.registered, apart, formatted.frame _ unchanged]
  · intro place item inside registered
    have apart : place.locator ≠ locator := by
      rintro same
      exact outside (same ▸ inside)
    rw [Locators.registered_store_of_ne apart, Locators.registered_eq_some] at registered
    obtain ⟨reached, hit, counted, rfl⟩ := registered
    by_cases member : place.locator ∈ nodes
    · exact formatted.items _ member reached hit _ counted
    · -- A locator that has not just been formatted is housed elsewhere.
      rw [formatted.frame _ member, Locators.store_of_ne apart] at hit
      have inUse := housed place.locator (by rw [Locators.next_isSome, hit]; rfl)
      exact absurd inUse (Set.disjoint_left.mp separate inside)

/-- All that `get_next_locator` can do, whatever the global allocator gives. -/
theorem getNextLocator_steps {result : Except String Nat}
    (run : getNextLocator target os locator world = some (result, last)) :
    ∃ header, world.locators locator = some header ∧
      (header.nextLocatorPtr ≠ 0 ∧ result = .ok header.nextLocatorPtr ∧ last = world ∨
      header.nextLocatorPtr = 0 ∧ header.isLocked = 0 ∧ ∃ address,
        os.alloc target.granularity target.sysInfo.pageSize world.os = (address, last.os) ∧
        (address = 0 ∧ (∃ text, result = .error text) ∧ last.locators = world.locators ∨
        address ≠ 0 ∧ ∃ created again, created = LocatorHeader.initializeHeader target (os.raw last.os) address
            target.granularity (world.locators.store locator { header with isLocked := 1, nextLocatorPtr := address }) ∧
          created locator = some again ∧ result = .ok again.nextLocatorPtr ∧
          last.locators = created.store locator again.unlock)) := by
  obtain ⟨header, found, run⟩ := Option.bind_eq_some_iff.mp run
  refine ⟨header, found, ?_⟩
  split at run
  · rename_i linked
    cases run
    simp only [LocatorHeader.hasNextLocator, bne_iff_ne] at linked
    exact .inl ⟨linked, rfl, rfl⟩
  · rename_i unlinked
    have ended : header.nextLocatorPtr = 0 := by
      simpa [LocatorHeader.hasNextLocator] using unlinked
    obtain ⟨locked, acquired, run⟩ := Option.bind_eq_some_iff.mp run
    obtain ⟨free, rfl⟩ := LocatorHeader.lock_eq_some acquired
    split at run
    · rename_i again
      exact absurd again unlinked
    · dsimp only at run
      split at run
      · rename_i null
        cases run
        refine .inr ⟨ended, free, _, rfl, .inl ⟨null, ⟨_, rfl⟩, ?_⟩⟩
        rw [LocatorHeader.unlock_locked free, Locators.store_eq_self found]
      · rename_i notNull
        obtain ⟨again, refound, run⟩ := Option.bind_eq_some_iff.mp run
        cases run
        exact .inr ⟨ended, free, _, rfl, .inr ⟨notNull, _, again, rfl, refound, rfl, rfl⟩⟩

theorem getNextLocator_cases (heap : os.Heap target held) (booted : target.Booted)
    (housed : World.Housed held world) {result : Except String Nat}
    (run : getNextLocator target os locator world = some (result, last)) :
    (∃ address, result = .ok address ∧ world.locators.next locator = some (some address) ∧ last = world) ∨
    (∃ address, result = .ok address ∧ World.Linked target held world locator address last) ∨
    ∃ text, result = .error text ∧ World.Quiet held world last := by
  obtain ⟨header, found, ⟨linked, rfl, rfl⟩ | ⟨ended, free, address, answer, rest⟩⟩ := getNextLocator_steps run
  · exact .inl ⟨_, rfl, LocatorHeader.next_of_ne_zero found linked, rfl⟩
  · have refused := heap.refused target.granularity target.sysInfo.pageSize world.os
    have granted := heap.granted target.granularity target.sysInfo.pageSize world.os
    rw [answer] at refused granted
    rcases rest with ⟨null, ⟨text, rfl⟩, same⟩ | ⟨notNull, created, again, rfl, refound, rfl, stored⟩
    · exact .inr (.inr ⟨text, rfl, .of_locators same (refused null)⟩)
    · obtain ⟨word, separate, grows⟩ := granted notNull
      have small : target.granularity < 2 ^ 32 := booted.small.trans (by decide)
      obtain ⟨nodes, formatted⟩ := LocatorHeader.initializeHeader_formatted (os.raw last.os)
        (world.locators.store locator { header with isLocked := 1, nextLocatorPtr := address }) booted.large small word
      obtain ⟨here, linked⟩ := World.Linked.of_formatted housed found ended notNull word separate grows
        formatted rfl rfl rfl
      cases here.symm.trans refound
      have whole : last = ⟨_, last.os⟩ := congrArg (World.mk · last.os) stored
      rw [whole]
      exact .inr (.inl ⟨_, rfl, linked⟩)

theorem getNextLocator_ok (heap : os.Heap target held) (booted : target.Booted)
    (housed : World.Housed held world) {next : Nat}
    (run : getNextLocator target os locator world = some (.ok next, last)) :
    world.locators.next locator = some (some next) ∧ last = world ∨
      World.Linked target held world locator next last := by
  rcases getNextLocator_cases heap booted housed run with
    ⟨_, same, follows, unchanged⟩ | ⟨_, same, linked⟩ | ⟨_, wrong, _⟩
  · cases same
    exact .inl ⟨follows, unchanged⟩
  · cases same
    exact .inr linked
  · cases wrong

theorem getNextLocator_error (heap : os.Heap target held) (booted : target.Booted)
    (housed : World.Housed held world) {text : String}
    (run : getNextLocator target os locator world = some (.error text, last)) : World.Quiet held world last := by
  rcases getNextLocator_cases heap booted housed run with ⟨_, wrong, _⟩ | ⟨_, wrong, _⟩ | ⟨_, _, quiet⟩
  · cases wrong
  · cases wrong
  · exact quiet

theorem World.Housed.quiet {after : World σ} (housed : World.Housed held world)
    (quiet : World.Quiet held world after) : World.Housed held after := by
  intro locator found
  rw [quiet.next] at found
  exact quiet.held_le (housed locator found)

theorem World.Housed.link {address : Nat} {after : World σ} (housed : World.Housed held world)
    (linked : World.Linked target held world locator address after) : World.Housed held after := by
  obtain ⟨nodes, _, inside, frame⟩ := linked.nodes
  intro other found
  by_cases member : other ∈ nodes
  · exact linked.grows (Or.inr (inside other member))
  · rcases eq_or_ne other locator with rfl | apart
    · exact linked.grows (Or.inl (housed _ (by rw [linked.ended]; rfl)))
    · rw [frame other member apart] at found
      exact linked.grows (Or.inl (housed other found))

/-- What was registered before lies outside the memory of the new locator. -/
theorem World.Linked.registered {address : Nat} {after : World σ} {pointer : SafeLocatorItem} {item : LocatorItem}
    (linked : World.Linked target held world locator address after) (housed : World.Housed held world)
    (found : world.locators.registered pointer = some item) : after.locators.registered pointer = some item := by
  obtain ⟨header, reached, _⟩ := Locators.registered_eq_some.mp found
  have inUse := housed pointer.locator (by rw [Locators.next_isSome, reached]; rfl)
  rw [linked.kept pointer fun inside => Set.disjoint_left.mp linked.separate inside inUse, found]

/-- An item of a new locator is one of its preallocated chunks. -/
theorem World.Linked.fresh_sound {address : Nat} {after : World σ} {pointer : SafeLocatorItem} {item : LocatorItem}
    (linked : World.Linked target held world locator address after)
    (inside : pointer.locator ∈ Words.extent address target.granularity)
    (found : after.locators.registered pointer = some item) : item.Sound target.usize := by
  obtain ⟨_, _, size, rfl, fits⟩ := linked.fresh pointer item inside found
  have word := linked.word
  constructor
  · exact UInt32.zero_le
  · simp only [LocatorItem.new]
    omega

end

end ReloadedBuffers
