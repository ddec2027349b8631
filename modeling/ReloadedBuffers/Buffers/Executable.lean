import ReloadedBuffers.Buffers.Granted
import ReloadedBuffers.Buffers.Session

/-! Which of the registered buffers can be executed. The back ends ask for executable
memory; the view of the file that holds the first locator, and with it the chunks
carved behind that locator, is asked for without.
-/

set_option autoImplicit false

namespace ReloadedBuffers

def protRead : UInt32 := 1
def protWrite : UInt32 := 2
def protExec : UInt32 := 4
def pageExecuteReadwrite : UInt32 := 0x40
def fileMapAllAccess : UInt32 := 0xF001F
def fileMapExecute : UInt32 := 0x20

namespace TargetOs

/-- The last argument but one of `mmap` on the file, or the access that
`MapViewOfFile` is asked for. -/
def fileProtection : TargetOs → UInt32
  | .linux | .macos => protRead ||| protWrite
  | .windows => fileMapAllAccess

/-- What the back ends pass to `mmap`, `VirtualAlloc` and `mach_vm_protect`. -/
def bufferProtection : TargetOs → TargetArch → UInt32
  | .linux, _ => protRead ||| protWrite ||| protExec
  | .windows, _ => pageExecuteReadwrite
  | .macos, .x86_64 => protRead ||| protWrite ||| protExec
  | .macos, .aarch64 => protRead ||| protWrite

/-- A view of a file is executable when execute access is among what was asked for. On
Windows `FILE_MAP_ALL_ACCESS` is a read and write view. -/
def viewExecutes : TargetOs → UInt32 → Bool
  | .linux, flags | .macos, flags => flags &&& protExec != 0
  | .windows, access => access &&& fileMapExecute != 0

/-- The four page protections of Windows with execute access are `0x10` to `0x80`. -/
def pagesExecute : TargetOs → UInt32 → Bool
  | .linux, flags | .macos, flags => flags &&& protExec != 0
  | .windows, protection => protection &&& 0xF0 != 0

/-- No platform is asked for an executable view of the file. -/
theorem view_plain (os : TargetOs) : os.viewExecutes os.fileProtection = false := by
  cases os <;> rfl

theorem buffers_execute {os : TargetOs} (supported : os ≠ .macos) (arch : TargetArch) :
    os.pagesExecute (os.bufferProtection arch) = true := by
  cases os with
  | linux => cases arch <;> rfl
  | windows => cases arch <;> rfl
  | macos => exact absurd rfl supported

end TargetOs

variable {σ : Type}

/-- Memory is mapped with exactly the protection that is requested, and the global
allocator takes execute permission from nothing. `executable` is memory mapped with
execute permission. -/
structure Os.Protects (os : Os σ) (target : Target) (executable : σ → Set Nat) : Prop where
  buffers : target.os.pagesExecute (target.os.bufferProtection target.arch) = true → os.Platform target executable
  heap : ∀ size align world, executable world ⊆ executable (os.alloc size align world).2

/-- The view of the file at `address` has been mapped with the access requested. -/
def Target.Viewed (target : Target) (address : Nat) (executable : Set Nat) : Prop :=
  if target.os.viewExecutes target.os.fileProtection then Words.extent address target.granularity ⊆ executable
  else Disjoint (Words.extent address target.granularity) executable

/-- Every registered item lies in executable memory. -/
def World.Executes (executable : σ → Set Nat) (world : World σ) : Prop :=
  ∀ pointer item, world.locators.registered pointer = some item →
    Words.extent item.baseAddress item.size.toNat ⊆ executable world.os

variable {target : Target} {os : Os σ} {executable : σ → Set Nat} {before after : World σ}

namespace LocatorHeader

variable {raw : Nat → LocatorHeader} {address length : Nat} {locators : Locators} {header : LocatorHeader}

theorem registered_buffers (usize : Nat) (remaining : UInt32) (pointer : SafeLocatorItem) :
    (locators.store address (header.initializeRemainingSpaceAsBuffers usize remaining)).registered pointer =
      if pointer.locator = address then
        if pointer.slot < chunkCount remaining.toNat % 2 ^ 8 then
          some (LocatorItem.new (Words.add usize header.thisAddress locatorLength)
            (UInt32.ofNat (chunkSize remaining.toNat pointer.slot)))
        else none
      else locators.registered pointer := by
  split
  · rename_i here
    obtain ⟨locator, slot⟩ := pointer
    cases here
    rw [Locators.registered_store_self, numItems_carved]
    split
    · rename_i inside
      rw [item_carved (Nat.lt_of_lt_of_le inside (Nat.mod_le _ _))]
    · rfl
  · rename_i apart
    exact Locators.registered_store_of_ne apart

/-- The count of the chunks has eight bits. Where it wraps to zero nothing is registered. -/
theorem initializeHeader_registered (plain : target.appleSilicon = false) (large : locatorLength ≤ length)
    (small : length < 2 ^ 32) (word : length < target.usize) (pointer : SafeLocatorItem) :
    (initializeHeader target raw address length locators).registered pointer =
      if pointer.locator = address then
        if pointer.slot < chunkCount (length - locatorLength) % 2 ^ 8 then
          some (LocatorItem.new (Words.add target.usize address locatorLength)
            (UInt32.ofNat (chunkSize (length - locatorLength) pointer.slot)))
        else none
      else locators.registered pointer := by
  have remaining : (UInt32.ofNat (length - locatorLength)).toNat = length - locatorLength := by
    rw [UInt32.toNat_ofNat', Nat.mod_eq_of_lt (by omega)]
  rw [initializeHeader_buffers raw plain large word]
  refine (registered_buffers target.usize (UInt32.ofNat (length - locatorLength)) pointer).trans ?_
  rw [remaining]
  rfl

end LocatorHeader

namespace World.Executes

variable {pointer : SafeLocatorItem} {item : LocatorItem}

theorem quiet (executes : World.Executes executable before) (quiet : World.Quiet executable before after) :
    World.Executes executable after := by
  intro pointer item found
  obtain ⟨earlier, known, marked⟩ := quiet.registered found
  obtain ⟨base, size, _, _⟩ := marked.fields
  rw [base, size]
  exact (executes pointer earlier known).trans quiet.held_le

/-- Fewer items are registered and no less is executable. -/
theorem mono (executes : World.Executes executable before) (more : executable before.os ⊆ executable after.os)
    (fewer : ∀ pointer item, after.locators.registered pointer = some item →
      before.locators.registered pointer = some item) : World.Executes executable after :=
  fun pointer item found => (executes pointer item (fewer pointer item found)).trans more

theorem update (executes : World.Executes executable before) (more : executable before.os ⊆ executable after.os)
    (stored : after.locators.registered = Function.update before.locators.registered pointer (some item))
    (inside : Words.extent item.baseAddress item.size.toNat ⊆ executable after.os) :
    World.Executes executable after := by
  intro other known found
  rw [stored] at found
  rcases eq_or_ne other pointer with rfl | apart
  · rw [Function.update_self] at found
    cases found
    exact inside
  · rw [Function.update_of_ne apart] at found
    exact (executes other known found).trans more

/-- A write through a pointer that leaves the buffer where it is. -/
theorem setItem {earlier : LocatorItem} {locators : Locators} (executes : World.Executes executable before)
    (found : before.locators.item pointer = some earlier)
    (written : before.locators.setItem pointer item = some locators) (base : item.baseAddress = earlier.baseAddress)
    (size : item.size = earlier.size) :
    World.Executes executable { before with locators := locators } := by
  obtain ⟨header, reached, rfl⟩ := Option.map_eq_some_iff.mp written
  obtain ⟨_, again, rfl⟩ := Option.map_eq_some_iff.mp found
  cases reached.symm.trans again
  intro other known registered
  obtain ⟨locator, slot⟩ := other
  rcases eq_or_ne locator pointer.locator with rfl | apart
  · simp only [Locators.registered_store_self, LocatorHeader.setItem] at registered
    split at registered
    · rename_i inside
      have counted : before.locators.registered ⟨pointer.locator, slot⟩ = some (header.items slot) :=
        Locators.registered_eq_some.mpr ⟨header, reached, inside, rfl⟩
      -- Only the item at the pointer is written, and it stays where it is.
      rcases eq_or_ne slot pointer.slot with rfl | elsewhere
      · rw [Function.update_self] at registered
        cases registered
        rw [base, size]
        exact executes _ _ counted
      · rw [Function.update_of_ne elsewhere] at registered
        cases registered
        exact executes _ _ counted
    · cases registered
  · rw [Locators.registered_store_of_ne apart] at registered
    exact executes _ _ registered

end World.Executes

/-- Links and locks are no part of what is registered. -/
theorem Locators.registered_of_store {locators : Locators} {address : Nat} {header changed : LocatorHeader}
    {pointer : SafeLocatorItem} {item : LocatorItem} (found : locators address = some header)
    (registered : (locators.store address changed).registered pointer = some item)
    (items : changed.items = header.items) (numItems : changed.numItems = header.numItems) :
    locators.registered pointer = some item := by
  rcases eq_or_ne pointer.locator address with same | apart
  · simp only [Locators.registered, same, store_self, Option.bind_some, items, numItems] at registered
    simp only [Locators.registered, same, found, Option.bind_some, registered]
  · rwa [registered_store_of_ne apart] at registered

/-- A new locator that registers nothing. -/
theorem getNextLocator_registered {locator : Nat} {world last : World σ} {result : Except String Nat}
    (plain : target.appleSilicon = false) (booted : target.Booted)
    (uncarved : LocatorHeader.chunkCount (target.granularity - locatorLength) % 2 ^ 8 = 0)
    (run : getNextLocator target os locator world = some (result, last)) :
    (∀ pointer item, last.locators.registered pointer = some item → world.locators.registered pointer = some item) ∧
      (last.os = world.os ∨ last.os = (os.alloc target.granularity target.sysInfo.pageSize world.os).2) := by
  have small := booted.small
  have wide := target.u32_le_usize
  obtain ⟨header, found, run⟩ := Option.bind_eq_some_iff.mp run
  split at run
  · cases run
    exact ⟨fun _ _ registered => registered, .inl rfl⟩
  · rename_i unlinked
    obtain ⟨locked, acquired, run⟩ := Option.bind_eq_some_iff.mp run
    obtain ⟨free, rfl⟩ := LocatorHeader.lock_eq_some acquired
    split at run
    · rename_i again
      exact absurd again unlinked
    · dsimp only at run
      split at run
      · cases run
        refine ⟨fun pointer item registered => ?_, .inr rfl⟩
        exact Locators.registered_of_store found registered rfl rfl
      · obtain ⟨again, refound, run⟩ := Option.bind_eq_some_iff.mp run
        cases run
        refine ⟨fun pointer item registered => ?_, .inr rfl⟩
        have unlocked := Locators.registered_of_store refound registered rfl rfl
        -- The new locator is laid out under the lock of its predecessor.
        have laid := (LocatorHeader.initializeHeader_registered plain booted.large (by omega) (by omega) pointer).symm.trans
          unlocked
        rw [uncarved] at laid
        split at laid
        · rw [if_neg (Nat.not_lt_zero _)] at laid
          cases laid
        · exact Locators.registered_of_store found laid rfl rfl

theorem World.Pushed.executes {pointer : SafeLocatorItem} {item : LocatorItem} {settings : BufferAllocatorSettings}
    (executes : World.Executes executable before) (pushed : World.Pushed before pointer item after)
    (obtained : Obtained target.usize settings (executable before.os) (executable after.os) item) :
    World.Executes executable after := by
  have size : item.size = settings.size := congrArg LocatorItem.size obtained.fresh
  refine executes.update (Set.subset_union_left.trans obtained.grows) pushed.stored ?_
  dsimp only
  rw [size]
  exact Set.subset_union_right.trans obtained.grows

namespace Buffers

variable {fuel depth first locator : Nat} {settings : BufferSearchSettings} {world last : World σ}
  {result : Except BufferSearchError SafeLocatorItem}

theorem Search.executes (search : Search target os fuel settings locator world result last)
    (plain : target.appleSilicon = false) (booted : target.Booted) (tells : target.TellsFailure)
    (platform : os.Platform target executable)
    (heap : ∀ size align world, executable world ⊆ executable (os.alloc size align world).2)
    (uncarved : LocatorHeader.chunkCount (target.granularity - locatorLength) % 2 ^ 8 = 0)
    (minimum : settings.minAddress < target.usize) (maximum : settings.maxAddress < target.usize)
    (executes : World.Executes executable world) : World.Executes executable last := by
  have grows : ∀ {before after : World σ}, after.os = before.os ∨
      after.os = (os.alloc target.granularity target.sysInfo.pageSize before.os).2 →
      executable before.os ⊆ executable after.os := by
    rintro before after (same | allocated)
    · rw [same]
    · rw [allocated]
      exact heap _ _ _
  induction search with
  | ended visited =>
      cases visited with
      | taken found scan =>
          obtain ⟨middle, scanned, taken⟩ := getFirstAvailableItemLocked_taken found scan
          have between := executes.quiet scanned.quiet
          obtain ⟨item, registered, _, _, stored⟩ := taken.item
          have inside := between _ item registered
          exact between.update (taken.os ▸ subset_rfl) stored (taken.os ▸ inside)
      | allocated found scan tried =>
          have missed := executes.quiet (getFirstAvailableItemLocked_missed found scan).quiet
          obtain ⟨_, _, _, _, rfl, answer, pushed⟩ := tryAllocateItem_ok tried
          exact pushed.executes missed (platform.allocate_outcome booted tells minimum maximum answer)
      | refused found scan tried =>
          have missed := executes.quiet (getFirstAvailableItemLocked_missed found scan).quiet
          obtain ⟨same, _, answer⟩ := tryAllocateItem_cannotAllocateMemory tried
          have kept := platform.allocate_outcome booted tells minimum maximum answer
          exact missed.quiet (.of_locators same kept)
      | stuck found scan tried grown =>
          have missed := executes.quiet (getFirstAvailableItemLocked_missed found scan).quiet
          obtain ⟨rfl, _⟩ := tryAllocateItem_noSpaceInHeader tried
          obtain ⟨fewer, system⟩ := getNextLocator_registered plain booted uncarved grown
          exact missed.mono (grows system) fewer
  | moved visited _ ih =>
      cases visited with
      | passed found scan tried grown =>
          have missed := executes.quiet (getFirstAvailableItemLocked_missed found scan).quiet
          obtain ⟨rfl, _⟩ := tryAllocateItem_noSpaceInHeader tried
          obtain ⟨fewer, system⟩ := getNextLocator_registered plain booted uncarved grown
          exact ih (missed.mono (grows system) fewer)

/-- The addresses in the settings are words. -/
def Operation.Typed (target : Target) : Operation → Prop
  | .getBuffer _ settings | .getBufferAligned _ settings _ =>
    settings.minAddress < target.usize ∧ settings.maxAddress < target.usize
  | .append _ _ _ | .drop _ => True

theorem Operation.Typed.words {operation : Operation} {settings : BufferSearchSettings}
    (typed : operation.Typed target) (asked : operation.search = some settings) :
    settings.minAddress < target.usize ∧ settings.maxAddress < target.usize := by
  cases operation with
  | getBuffer handle settings =>
      cases asked
      exact typed
  | getBufferAligned handle settings alignment =>
      cases asked
      exact typed
  | append => cases asked
  | drop => cases asked

namespace Session

theorem step_executes {session next : Session σ} {operation : Operation} (plain : target.appleSilicon = false)
    (booted : target.Booted) (tells : target.TellsFailure) (platform : os.Platform target executable)
    (heap : ∀ size align world, executable world ⊆ executable (os.alloc size align world).2)
    (uncarved : LocatorHeader.chunkCount (target.granularity - locatorLength) % 2 ^ 8 = 0)
    (typed : operation.Typed target) (executes : session.world.Executes executable)
    (run : session.step target os fuel depth first operation = some next) : next.world.Executes executable := by
  obtain ⟨middle, searched, rewritten⟩ := step_world run
  have between : middle.Executes executable := by
    rcases searched with rfl | ⟨settings, _, asked, searched⟩
    · exact executes
    · obtain ⟨minimum, maximum⟩ := typed.words asked
      exact (getBufferRecursive_search searched).executes plain booted tells platform heap uncarved minimum maximum
        executes
  generalize next.world = last at rewritten ⊢
  cases rewritten with
  | same => exact between
  | item known written base size => exact between.setItem known written base size

/-- The first chunk starts behind the header, in the view of the file. -/
theorem initial_registered {system : σ} (plain : target.appleSilicon = false) (booted : target.Booted)
    (word : first + target.granularity < target.usize) (pointer : SafeLocatorItem) :
    (initial target os first system).world.locators.registered pointer =
      if pointer.locator = first ∧
        pointer.slot < LocatorHeader.chunkCount (target.granularity - locatorLength) % 2 ^ 8 then
        some (LocatorItem.new (first + locatorLength)
          (UInt32.ofNat (LocatorHeader.chunkSize (target.granularity - locatorLength) pointer.slot)))
      else none := by
  have small := booted.small
  have large : locatorLength ≤ target.granularity := booted.large
  have start : Words.add target.usize first locatorLength = first + locatorLength := Words.add_eq (by omega)
  refine (LocatorHeader.initializeHeader_registered plain large (by omega) (by omega) pointer).trans ?_
  rw [start]
  by_cases here : pointer.locator = first
  · simp only [here, if_true, true_and]
  · simp only [here, if_false, false_and]
    rfl

/-- On Linux and on Windows all registered buffers are executable in every run exactly
when initialising a block registers none, whichever operations the runs are limited to. -/
theorem items_executable_iff {system : σ} {allowed : Session σ → Operation → Prop}
    (typed : ∀ session operation, allowed session operation → operation.Typed target)
    (supported : target.os ≠ .macos) (booted : target.Booted) (tells : target.TellsFailure)
    (word : first + target.granularity < target.usize) (protects : os.Protects target executable)
    (viewed : target.Viewed first (executable system)) :
    (∀ operations session, Transition.Run (step target os fuel depth first) allowed
        (initial target os first system) operations session →
      ∀ pointer item, session.world.locators.registered pointer = some item →
        Words.extent item.baseAddress item.size.toNat ⊆ executable session.world.os) ↔
      LocatorHeader.chunkCount (target.granularity - locatorLength) % 2 ^ 8 = 0 := by
  have plain : target.appleSilicon = false := by
    simp [Target.appleSilicon, supported]
  have registered := fun pointer => @initial_registered _ _ os _ system plain booted word pointer
  constructor
  · intro all
    by_contra carved
    have some_chunk := Nat.pos_of_ne_zero carved
    have chunk : lengthOfPreallocatedChunks.toNat = 16384 := rfl
    have large : locatorLength ≤ target.granularity := booted.large
    have inside := all [] _ .nil ⟨first, 0⟩ _ ((registered ⟨first, 0⟩).trans (if_pos ⟨rfl, some_chunk⟩))
    have bounds : locatorLength < target.granularity ∧
        1 ≤ LocatorHeader.chunkSize (target.granularity - locatorLength) 0 ∧
        LocatorHeader.chunkSize (target.granularity - locatorLength) 0 ≤ 16384 := by
      have counted := Nat.lt_of_lt_of_le some_chunk (Nat.mod_le _ _)
      simp only [LocatorHeader.chunkCount, LocatorHeader.chunkSize, chunk] at counted ⊢
      omega
    -- The first byte behind the header is in the first chunk and in the view of the file.
    have separate : Disjoint (Words.extent first target.granularity) (executable system) := by
      simpa only [Target.Viewed, TargetOs.view_plain, Bool.false_eq_true, if_false] using viewed
    have behind : first + locatorLength ∈ Words.extent first target.granularity := by
      rw [Words.mem_extent]
      omega
    have carried : first + locatorLength ∈ executable system := by
      apply inside
      rw [Words.mem_extent]
      dsimp only [LocatorItem.new]
      rw [UInt32.toNat_ofNat', Nat.mod_eq_of_lt (by omega)]
      omega
    exact Set.disjoint_left.mp separate behind carried
  · intro uncarved operations session run
    have platform := protects.buffers (TargetOs.buffers_execute supported target.arch)
    refine run.invariant (fun session => session.world.Executes executable) ?_ ?_
    · exact fun session operation _ executes permitted taken =>
        step_executes plain booted tells platform protects.heap uncarved (typed session operation permitted) executes
          taken
    · intro pointer item found
      rw [registered, uncarved, if_neg (fun both => Nat.not_lt_zero _ both.2)] at found
      cases found

/-- A Linux system that maps executable memory upwards and has no heap. Its state is what
it has mapped, the latest block first. -/
def blocks (floor usize : Nat) : Os (List (Nat × Nat)) where
  linux :=
    { memoryMap := fun _ mapped => some ([⟨0, min (top floor mapped) (usize - 1)⟩], mapped)
      mmap := fun address size mapped =>
        if size = 0 ∨ address < top floor mapped ∨ usize ≤ address + size then (mapFailed usize, mapped)
        else (address, (address, size) :: mapped)
      munmap := fun _ _ mapped => mapped }
  windows := ⟨fun _ mapped => (false, mapped), fun _ mapped => (none, mapped), fun _ mapped => (none, mapped),
    fun _ _ mapped => (0, mapped), fun _ _ mapped => mapped⟩
  macos := ⟨fun _ mapped => (.failure, mapped), fun _ _ mapped => (none, mapped), fun _ _ mapped => (false, mapped),
    fun _ _ mapped => mapped⟩
  alloc _ _ mapped := (0, mapped)
  raw _ _ := emptyHeader
where
  top (floor : Nat) : List (Nat × Nat) → Nat
    | [] => floor
    | (address, size) :: _ => address + size

def mappedIn (floor : Nat) (mapped : List (Nat × Nat)) : Set Nat :=
  {byte | byte < blocks.top floor mapped ∧ ∃ block ∈ mapped, byte ∈ Words.extent block.1 block.2}

theorem blocks_protects (floor : Nat) (linux : target.os = .linux) :
    (blocks floor target.usize).Protects target (mappedIn floor) where
  buffers _ := by
    have positive := target.usize_pos
    simp only [Os.Platform, linux]
    refine ⟨?_, ?_, ⟨?_, ?_, ?_, ?_, fun _ _ => subset_rfl⟩⟩
    · intro _ mapped regions next read entry member
      cases read
      obtain rfl := List.mem_singleton.mp member
      simp only
      omega
    · intro _ mapped regions next read
      cases read
      exact subset_rfl
    · intro address mapped
      simp [blocks]
    · intro address size mapped granted
      simp only [blocks] at granted ⊢
      split at granted
      · exact absurd rfl granted
      · rename_i free
        rw [if_neg free]
        refine ⟨by omega, ?_, ?_⟩
        · apply Set.disjoint_left.mpr
          rintro byte inside ⟨below, _⟩
          rw [Words.mem_extent] at inside
          omega
        · rintro byte (⟨below, block, member, inside⟩ | inside)
          · exact ⟨by simp only [blocks.top]; omega, block, List.mem_cons_of_mem _ member, inside⟩
          · exact ⟨inside.2, _, List.mem_cons_self, inside⟩
    · intro address size mapped _
      simp only [blocks]
      split
      · exact subset_rfl
      · rintro byte ⟨below, block, member, inside⟩
        exact ⟨by simp only [blocks.top]; omega, block, List.mem_cons_of_mem _ member, inside⟩
    · intro address size mapped
      exact Set.sdiff_subset
  heap _ _ _ := subset_rfl

/-- With pages of 4 KiB a search is served by the back end. -/
theorem items_executable_pages : ∃ session : Session (List (Nat × Nat)), ∃ item,
    session.leases 0 = some ⟨⟨0x10000, 0⟩, 5000⟩ ∧ session.world.locators.registered ⟨0x10000, 0⟩ = some item ∧
      item.size = 8192 ∧
      Words.extent item.baseAddress item.size.toNat ⊆ mappedIn 0x11000 session.world.os := by
  have steps : ∃ session item,
      (initial smallTarget (blocks 0x11000 smallTarget.usize) 0x10000 []).step smallTarget
        (blocks 0x11000 smallTarget.usize) 0 1 0x10000 (.getBuffer 0 ⟨0x20000, 0x40000, 5000⟩) = some session ∧
      session.leases 0 = some ⟨⟨0x10000, 0⟩, 5000⟩ ∧ session.world.locators.registered ⟨0x10000, 0⟩ = some item ∧
      item.size = 8192 := ⟨_, _, rfl, rfl, rfl, rfl⟩
  obtain ⟨session, item, searched, lease, registered, size⟩ := steps
  have typed : (Operation.getBuffer 0 ⟨0x20000, 0x40000, 5000⟩).Typed smallTarget := by
    constructor <;> decide
  have viewed : smallTarget.Viewed 0x10000 (mappedIn 0x11000 []) := by
    rw [Target.Viewed, TargetOs.view_plain]
    exact Set.disjoint_left.mpr fun byte _ mapped => List.not_mem_nil mapped.2.choose_spec.1
  refine ⟨session, item, lease, registered, size, ?_⟩
  exact (items_executable_iff (fun _ _ => id) (by decide) smallTarget_booted (.inl rfl) (by decide)
    (blocks_protects 0x11000 rfl) viewed).mpr (by decide) _ _ (.single typed searched) _ _ registered

/-- A Linux process with pages of 64 KiB. -/
def largePages : Target := ⟨.bits64, .linux, .aarch64, ⟨0x7FFFFFFFFFFF, 65536, 4096, 1⟩⟩

theorem largePages_booted : largePages.Booted where
  cached := ⟨⟨0, 65536, 65536, 1⟩, rfl⟩
  large := by decide
  small := by decide

/-- With pages of 64 KiB the first search is served from the view of the file. -/
theorem items_not_executable : ∃ session : Session (List (Nat × Nat)), ∃ item,
    largePages.Booted ∧ (blocks 0x20000 largePages.usize).Protects largePages (mappedIn 0x20000) ∧
      largePages.Viewed 0x10000 (mappedIn 0x20000 []) ∧
      Transition.Run (step largePages (blocks 0x20000 largePages.usize) 0 1 0x10000)
        (fun _ operation => operation.Typed largePages)
        (initial largePages (blocks 0x20000 largePages.usize) 0x10000 [])
        [.getBuffer 0 ⟨0, 0x7FFFFFFFFFFF, 4096⟩] session ∧
      session.leases 0 = some ⟨⟨0x10000, 0⟩, 4096⟩ ∧
      session.world.locators.registered ⟨0x10000, 0⟩ = some item ∧
      ¬ Words.extent item.baseAddress item.size.toNat ⊆ mappedIn 0x20000 session.world.os := by
  have steps : ∃ session,
      (initial largePages (blocks 0x20000 largePages.usize) 0x10000 []).step largePages
        (blocks 0x20000 largePages.usize) 0 1 0x10000 (.getBuffer 0 ⟨0, 0x7FFFFFFFFFFF, 4096⟩) = some session ∧
      session.leases 0 = some ⟨⟨0x10000, 0⟩, 4096⟩ ∧
      session.world.locators.registered ⟨0x10000, 0⟩ = some ⟨0x11000, 16384, 0, 1⟩ ∧ session.world.os = [] :=
    ⟨_, rfl, rfl, rfl, rfl⟩
  obtain ⟨session, searched, lease, registered, untouched⟩ := steps
  have typed : (Operation.getBuffer 0 ⟨0, 0x7FFFFFFFFFFF, 4096⟩).Typed largePages := by
    constructor <;> decide
  have nothing : ∀ byte, byte ∉ mappedIn 0x20000 [] := fun byte mapped =>
    List.not_mem_nil mapped.2.choose_spec.1
  refine ⟨session, ⟨0x11000, 16384, 0, 1⟩, largePages_booted, blocks_protects 0x20000 rfl, ?_,
    .single typed searched, lease, registered, fun inside => ?_⟩
  · rw [Target.Viewed, TargetOs.view_plain]
    exact Set.disjoint_left.mpr fun byte _ => nothing byte
  · rw [untouched] at inside
    exact nothing 0x11000 (inside ⟨by decide, by decide⟩)

end Session

end Buffers

end ReloadedBuffers
