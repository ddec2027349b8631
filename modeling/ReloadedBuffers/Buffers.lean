import ReloadedBuffers.Structs.LocatorGrowth

/-! Buffer search: a walk along the chain of locators that takes an available item,
registers a new one, or moves on to the next locator, creating it when there is
none.
-/

set_option autoImplicit false

namespace ReloadedBuffers

structure BufferSearchError where
  settings : BufferSearchSettings
  text : String
  deriving DecidableEq, Repr

namespace Buffers

variable {σ : Type} (target : Target) (os : Os σ) (fuel : Nat)

/-- How `get_buffer_recursive` goes on after it has looked at one locator. -/
inductive Visit where
  | ended (result : Except BufferSearchError SafeLocatorItem)
  | moved (next : Nat)

/-- The body of `get_buffer_recursive`, up to the call of itself with the next locator. -/
def visit (settings : BufferSearchSettings) (locator : Nat) (world : World σ) : Option (Visit × World σ) :=
  match world.locators locator with
  | none => none
  | some header =>
    let (item, header) := header.getFirstAvailableItemLocked target.usize settings.size settings.minAddress
      settings.maxAddress
    let world : World σ := { world with locators := world.locators.store locator header }
    match item with
    | some slot => some (.ended (.ok ⟨locator, slot⟩), world)
    | none =>
      match tryAllocateItem target os fuel locator settings.size settings.minAddress settings.maxAddress world with
      | none => none
      | some (.ok newItem, world) => some (.ended (.ok newItem), world)
      | some (.error error, world) =>
        -- The other error says that the locator is full, and the search moves on.
        if error = .cannotAllocateMemory then some (.ended (.error ⟨settings, error.asString⟩), world)
        else
          match getNextLocator target os locator world with
          | none => none
          | some (.ok next, world) => some (.moved next, world)
          | some (.error text, world) => some (.ended (.error ⟨settings, text⟩), world)

/-- The recursion of `get_buffer_recursive`. A call that visits more than `depth` locators has no result. -/
def getBufferRecursive (settings : BufferSearchSettings) :
    Nat → Nat → World σ → Option (Except BufferSearchError SafeLocatorItem × World σ)
  | 0, _, _ => none
  | depth + 1, locator, world =>
    match visit target os fuel settings locator world with
    | none => none
    | some (.ended result, world) => some (result, world)
    | some (.moved next, world) => getBufferRecursive settings depth next world

/-- `get_buffer`, given the first locator that `LocatorHeaderFinder::find` returns. -/
def getBuffer (depth : Nat) (settings : BufferSearchSettings) (first : Nat) (world : World σ) :
    Option (Except BufferSearchError SafeLocatorItem × World σ) :=
  getBufferRecursive target os fuel settings depth first world

/-- `alignment.saturating_sub(1)`. -/
def maxMisalignment (alignment : UInt32) : UInt32 := if alignment = 0 then 0 else alignment - 1

/-- Moves the position of a granted item to the next multiple of the alignment. -/
def alignItem (alignment : UInt32) (pointer : SafeLocatorItem) (locators : Locators) : Option Locators := do
  let item ← locators.item pointer
  let address := item.cursor target.usize
  let alignedAddress := roundUp target.usize address alignment.toNat
  -- The item is moved by this distance whether or not it has as many bytes left.
  let delta := Words.sub target.usize alignedAddress address
  locators.setItem pointer (item.advance delta)

def getBufferAligned (depth : Nat) (settings : BufferSearchSettings) (alignment : UInt32) (first : Nat)
    (world : World σ) : Option (Except BufferSearchError SafeLocatorItem × World σ) := do
  let newSettings := { settings with size := settings.size + maxMisalignment alignment }
  let (result, world) ← getBuffer target os fuel depth newSettings first world
  match result with
  | .error error => return (.error error, world)
  | .ok pointer =>
    let locators ← alignItem target alignment pointer world.locators
    return (.ok pointer, { world with locators := locators })

/-- What a visit can come to. -/
inductive Visited (settings : BufferSearchSettings) (locator : Nat) (world : World σ) : Visit → World σ → Prop where
  | taken {slot : Nat} {header scanned : LocatorHeader} :
      world.locators locator = some header →
      header.getFirstAvailableItemLocked target.usize settings.size settings.minAddress settings.maxAddress =
        (some slot, scanned) →
      Visited settings locator world (.ended (.ok ⟨locator, slot⟩))
        { world with locators := world.locators.store locator scanned }
  | allocated {last : World σ} {header scanned : LocatorHeader} {pointer : SafeLocatorItem} :
      world.locators locator = some header →
      header.getFirstAvailableItemLocked target.usize settings.size settings.minAddress settings.maxAddress =
        (none, scanned) →
      tryAllocateItem target os fuel locator settings.size settings.minAddress settings.maxAddress
        { world with locators := world.locators.store locator scanned } = some (.ok pointer, last) →
      Visited settings locator world (.ended (.ok pointer)) last
  | refused {last : World σ} {header scanned : LocatorHeader} :
      world.locators locator = some header →
      header.getFirstAvailableItemLocked target.usize settings.size settings.minAddress settings.maxAddress =
        (none, scanned) →
      tryAllocateItem target os fuel locator settings.size settings.minAddress settings.maxAddress
        { world with locators := world.locators.store locator scanned } = some (.error .cannotAllocateMemory, last) →
      Visited settings locator world
        (.ended (.error ⟨settings, ItemAllocationError.cannotAllocateMemory.asString⟩)) last
  | passed {next : Nat} {middle last : World σ} {header scanned : LocatorHeader} :
      world.locators locator = some header →
      header.getFirstAvailableItemLocked target.usize settings.size settings.minAddress settings.maxAddress =
        (none, scanned) →
      tryAllocateItem target os fuel locator settings.size settings.minAddress settings.maxAddress
        { world with locators := world.locators.store locator scanned } = some (.error .noSpaceInHeader, middle) →
      getNextLocator target os locator middle = some (.ok next, last) →
      Visited settings locator world (.moved next) last
  | stuck {middle last : World σ} {header scanned : LocatorHeader} {text : String} :
      world.locators locator = some header →
      header.getFirstAvailableItemLocked target.usize settings.size settings.minAddress settings.maxAddress =
        (none, scanned) →
      tryAllocateItem target os fuel locator settings.size settings.minAddress settings.maxAddress
        { world with locators := world.locators.store locator scanned } = some (.error .noSpaceInHeader, middle) →
      getNextLocator target os locator middle = some (.error text, last) →
      Visited settings locator world (.ended (.error ⟨settings, text⟩)) last

/-- A search that ends, visit by visit. -/
inductive Search (settings : BufferSearchSettings) :
    Nat → World σ → Except BufferSearchError SafeLocatorItem → World σ → Prop where
  | ended {locator : Nat} {world last : World σ} {result : Except BufferSearchError SafeLocatorItem} :
      Visited target os fuel settings locator world (.ended result) last → Search settings locator world result last
  | moved {locator next : Nat} {world after last : World σ} {result : Except BufferSearchError SafeLocatorItem} :
      Visited target os fuel settings locator world (.moved next) after → Search settings next after result last →
      Search settings locator world result last

variable {target os fuel} {held : σ → Set Nat} {settings : BufferSearchSettings}

theorem visit_visited {locator : Nat} {world last : World σ} {outcome : Visit}
    (run : visit target os fuel settings locator world = some (outcome, last)) :
    Visited target os fuel settings locator world outcome last := by
  simp only [visit] at run
  split at run
  · cases run
  · rename_i header found
    generalize scan : header.getFirstAvailableItemLocked target.usize settings.size settings.minAddress
      settings.maxAddress = scanned at run
    obtain ⟨slot, scanned⟩ := scanned
    cases slot with
    | some slot =>
        cases run
        exact .taken found scan
    | none =>
        dsimp only at run
        split at run
        · cases run
        · rename_i pointer next tried
          cases run
          exact .allocated found scan tried
        · rename_i error middle tried
          cases error with
          | cannotAllocateMemory =>
              cases run
              exact .refused found scan tried
          | noSpaceInHeader =>
              split at run
              · rename_i wrong
                cases wrong
              · split at run
                · cases run
                · rename_i next after grown
                  cases run
                  exact .passed found scan tried grown
                · rename_i text after grown
                  cases run
                  exact .stuck found scan tried grown

theorem getBufferRecursive_search {depth locator : Nat} {world last : World σ}
    {result : Except BufferSearchError SafeLocatorItem}
    (run : getBufferRecursive target os fuel settings depth locator world = some (result, last)) :
    Search target os fuel settings locator world result last := by
  induction depth generalizing locator world with
  | zero => cases run
  | succ depth ih =>
      simp only [getBufferRecursive] at run
      split at run
      · cases run
      · rename_i result after ended
        cases run
        exact .ended (visit_visited ended)
      · rename_i next after moved
        exact .moved (visit_visited moved) (ih run)

/-- What it takes to follow a search: a property of the locator it has reached and
of the world, kept by everything that can happen on the way, with what it gives at
each of the ends. -/
structure SearchRule (target : Target) (held : σ → Set Nat) (settings : BufferSearchSettings)
    (Reached : Nat → World σ → Prop)
    (Ended : Except BufferSearchError SafeLocatorItem → World σ → Prop) : Prop where
  housed : ∀ locator world, Reached locator world → World.Housed held world
  quiet : ∀ locator before after, Reached locator before → World.Quiet held before after → Reached locator after
  follow : ∀ locator world next, Reached locator world → world.locators.next locator = some (some next) →
    Reached next world
  link : ∀ locator before address after, Reached locator before →
    World.Linked target held before locator address after → Reached address after
  taken : ∀ before pointer after, Reached pointer.locator before → World.Taken target settings before pointer after →
    Ended (.ok pointer) after
  registered : ∀ before pointer after, Reached pointer.locator before →
    World.Registered target held settings before pointer after → Ended (.ok pointer) after
  failed : ∀ locator world text, Reached locator world → Ended (.error ⟨settings, text⟩) world

theorem getBufferRecursive_rule {Reached : Nat → World σ → Prop}
    {Ended : Except BufferSearchError SafeLocatorItem → World σ → Prop} (sound : os.Sound target held)
    (booted : target.Booted) (tells : target.TellsFailure) (minimum : settings.minAddress < target.usize)
    (maximum : settings.maxAddress < target.usize) (rule : SearchRule target held settings Reached Ended)
    {depth locator : Nat} {world last : World σ} {result : Except BufferSearchError SafeLocatorItem}
    (run : getBufferRecursive target os fuel settings depth locator world = some (result, last))
    (start : Reached locator world) : Ended result last := by
  have search := getBufferRecursive_search run
  clear run
  induction search with
  | ended visited =>
      cases visited with
      | taken found scan =>
          obtain ⟨middle, scanned, taken⟩ := getFirstAvailableItemLocked_taken found scan
          exact rule.taken _ _ _ (rule.quiet _ _ _ start scanned.quiet) taken
      | allocated found scan tried =>
          have missed := rule.quiet _ _ _ start (getFirstAvailableItemLocked_missed found scan).quiet
          obtain ⟨_, _, _, _, rfl, answer, pushed⟩ := tryAllocateItem_ok tried
          have obtained := allocate_outcome sound booted tells minimum maximum answer
          exact rule.registered _ _ _ missed (pushed.registered obtained)
      | refused found scan tried =>
          have missed := rule.quiet _ _ _ start (getFirstAvailableItemLocked_missed found scan).quiet
          obtain ⟨same, _, answer⟩ := tryAllocateItem_cannotAllocateMemory tried
          have kept := allocate_outcome sound booted tells minimum maximum answer
          exact rule.failed _ _ _ (rule.quiet _ _ _ missed (.of_locators same kept))
      | stuck found scan tried grown =>
          have missed := rule.quiet _ _ _ start (getFirstAvailableItemLocked_missed found scan).quiet
          obtain ⟨rfl, _⟩ := tryAllocateItem_noSpaceInHeader tried
          have quiet := getNextLocator_error sound.heap booted (rule.housed _ _ missed) grown
          exact rule.failed _ _ _ (rule.quiet _ _ _ missed quiet)
  | moved visited _ ih =>
      cases visited with
      | passed found scan tried grown =>
          have missed := rule.quiet _ _ _ start (getFirstAvailableItemLocked_missed found scan).quiet
          obtain ⟨rfl, _⟩ := tryAllocateItem_noSpaceInHeader tried
          rcases getNextLocator_ok sound.heap booted (rule.housed _ _ missed) grown with ⟨follows, rfl⟩ | linked
          -- The next locator was there, or this search has created it.
          · exact ih (rule.follow _ _ _ missed follows)
          · exact ih (rule.link _ _ _ _ missed linked)

end Buffers

end ReloadedBuffers
