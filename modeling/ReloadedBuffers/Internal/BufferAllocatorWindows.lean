import ReloadedBuffers.Internal.BufferAllocator

/-! The Windows back end: a walk over the pages that `VirtualQuery` reports, by
region and then, when asked for, by steps of the allocation granularity.
-/

set_option autoImplicit false

namespace ReloadedBuffers

/-- The fields of `MEMORY_BASIC_INFORMATION` that are read; `isFree` is `State == MEM_FREE`. -/
structure MemoryBasicInformation where
  baseAddress : Nat
  regionSize : Nat
  isFree : Bool
  deriving DecidableEq, Repr

/-- The calls of `LocalKernel32`, with those that find and describe the target process. -/
structure WindowsCalls (σ : Type) where
  openProcess : UInt32 → σ → Bool × σ
  /-- `none` when `IsWow64Process` fails. -/
  isWow64Process : UInt32 → σ → Option Bool × σ
  virtualQuery : Nat → σ → Option MemoryBasicInformation × σ
  virtualAlloc : Nat → Nat → σ → Nat × σ
  virtualFree : Nat → Nat → σ → σ

namespace BufferAllocatorWindows

variable {σ : Type} (target : Target) (calls : WindowsCalls σ) (settings : BufferAllocatorSettings)

def getMaxWindowsAddress (processId : UInt32) (world : σ) : Nat × σ :=
  if target.sysInfo.thisProcessId = processId then (target.sysInfo.maxAddress, world)
  else
    match calls.isWow64Process processId world with
    | (some false, world) => (target.sysInfo.maxAddress, world)
    | (_, world) => (0x7FFFFFFF, world)

def getBufferPointersInPageRange (pageInfo : MemoryBasicInformation) : List Nat :=
  getPossibleBufferAddresses target.usize settings.minAddress settings.maxAddress pageInfo.baseAddress
    (Words.add target.usize pageInfo.baseAddress pageInfo.regionSize) settings.size.toNat target.granularity

def tryAllocateBuffer (pageInfo : MemoryBasicInformation) (world : σ) : Option LocatorItem × σ :=
  if !pageInfo.isFree then (none, world)
  else
    let (allocated, world) := tryCandidates (calls.virtualAlloc · settings.size.toNat)
      (calls.virtualFree · settings.size.toNat) (getBufferPointersInPageRange target settings pageInfo) world
    (allocated.map (LocatorItem.new · settings.size), world)

/-- The page walk; `advance` is the distance to the next query. A walk that never
leaves the address space runs out of fuel and has no result. -/
def walkPages (maxAddress : Nat) (advance : MemoryBasicInformation → Nat) :
    Nat → Nat → σ → Option (Option LocatorItem × σ)
  | 0, _, _ => none
  | fuel + 1, currentAddress, world =>
    if currentAddress ≤ maxAddress then
      match calls.virtualQuery currentAddress world with
      | (none, world) => some (none, world)
      | (some memoryInformation, world) =>
        match tryAllocateBuffer target calls settings memoryInformation world with
        | (some item, world) => some (some item, world)
        | (none, world) =>
          walkPages maxAddress advance fuel
            (Words.add target.usize currentAddress (advance memoryInformation)) world
    else some (none, world)

def allocateFast (fuel maxAddress : Nat) (world : σ) : Option (Option LocatorItem × σ) :=
  let maxAddress := min maxAddress settings.maxAddress
  let byRegion := walkPages target calls settings maxAddress (·.regionSize) fuel settings.minAddress
  match retry byRegion settings.retries world with
  | some (none, world) =>
    if settings.bruteForce then
      walkPages target calls settings maxAddress (fun _ => target.granularity) fuel settings.minAddress world
    else some (none, world)
  | result => result

end BufferAllocatorWindows

def allocateWindows {σ : Type} (target : Target) (calls : WindowsCalls σ) (fuel : Nat)
    (settings : BufferAllocatorSettings) (world : σ) : Option (Except String LocatorItem × σ) :=
  match calls.openProcess settings.targetProcessId world with
  | (false, world) => some (.error "Failed to open process", world)
  | (true, world) =>
    let (maxAddress, world) := BufferAllocatorWindows.getMaxWindowsAddress target calls settings.targetProcessId world
    match BufferAllocatorWindows.allocateFast target calls settings fuel maxAddress world with
    | none => none
    | some (some item, world) => some (.ok item, world)
    | some (none, world) => some (.error "Failed to allocate buffer on Windows", world)

/-- The operating system's side on Windows; a failed allocation is null. -/
structure WindowsCalls.Sound {σ : Type} (calls : WindowsCalls σ) (usize : Nat) (held : σ → Set Nat) : Prop where
  opens : ∀ processId world, held world ⊆ held (calls.openProcess processId world).2
  wow64 : ∀ processId world, held world ⊆ held (calls.isWow64Process processId world).2
  queries : ∀ address world, held world ⊆ held (calls.virtualQuery address world).2
  maps : MemoryService usize 0 held calls.virtualAlloc calls.virtualFree

namespace BufferAllocatorWindows

variable {σ : Type} {target : Target} {calls : WindowsCalls σ} {settings : BufferAllocatorSettings}
  {held : σ → Set Nat}

theorem tryAllocateBuffer_outcome (sound : calls.Sound target.usize held) (pageInfo : MemoryBasicInformation)
    (world : σ) : Outcome target.usize settings (held world)
      (held (tryAllocateBuffer target calls settings pageInfo world).2)
      (tryAllocateBuffer target calls settings pageInfo world).1 := by
  unfold tryAllocateBuffer
  split
  · exact subset_rfl
  · refine tryCandidates_outcome sound.maps ?_ (fun _ _ notNull => notNull) rfl
    intro address member
    obtain ⟨low, _, high⟩ := mem_candidates member
    exact ⟨low, fun word => (high word).1⟩

/-- What the walks over the pages need to know: a query may come first, and the attempt
is made with what it answered. -/
structure Walked (target : Target) (calls : WindowsCalls σ) (settings : BufferAllocatorSettings)
    (Ends : σ → Option LocatorItem → σ → Prop) : Prop where
  rule : WalkRule Ends
  queried : ∀ address world, Ends world none (calls.virtualQuery address world).2
  tried : ∀ address world info next result last, calls.virtualQuery address world = (some info, next) →
    tryAllocateBuffer target calls settings info next = (result, last) → Ends world result last

variable {Ends : σ → Option LocatorItem → σ → Prop}

theorem Walked.walkPages (walked : Walked target calls settings Ends) {maxAddress : Nat}
    {advance : MemoryBasicInformation → Nat} {fuel currentAddress : Nat} {world last : σ}
    {result : Option LocatorItem}
    (run : BufferAllocatorWindows.walkPages target calls settings maxAddress advance fuel currentAddress world =
      some (result, last)) : Ends world result last := by
  induction fuel generalizing currentAddress world with
  | zero => cases run
  | succ fuel ih =>
      have queried := walked.queried currentAddress world
      simp only [BufferAllocatorWindows.walkPages] at run
      split at run
      · split at run
        · rename_i next answer
          cases run
          rw [answer] at queried
          exact queried
        · rename_i info next answer
          split at run
          · rename_i item after found
            cases run
            exact walked.tried _ _ _ _ _ _ answer found
          · rename_i after missed
            exact walked.rule.again _ _ _ _ (walked.tried _ _ _ _ _ _ answer missed) (ih run)
      · cases run
        exact walked.rule.idle _

/-- The walk by region, and then the walk by granularity when the settings ask for it. -/
theorem Walked.allocateFast (walked : Walked target calls settings Ends) {fuel maxAddress : Nat} {world last : σ}
    {result : Option LocatorItem}
    (run : BufferAllocatorWindows.allocateFast target calls settings fuel maxAddress world = some (result, last)) :
    Ends world result last := by
  have retried := fun (found : Option LocatorItem) (next : σ)
      (again : retry (BufferAllocatorWindows.walkPages target calls settings (min maxAddress settings.maxAddress)
        (·.regionSize) fuel settings.minAddress) settings.retries world = some (found, next)) =>
    walked.rule.retry (fun _ _ _ once => walked.walkPages once) again
  simp only [BufferAllocatorWindows.allocateFast] at run
  split at run
  · rename_i next missed
    split at run
    · exact walked.rule.again _ _ _ _ (retried _ _ missed) (walked.walkPages run)
    · cases run
      exact retried _ _ missed
  · exact retried _ _ run

/-- The process itself is not asked about: its highest address is known without a call. -/
theorem getMaxWindowsAddress_rule (rule : WalkRule Ends) {processId : UInt32}
    (asks : ∀ world, Ends world none (calls.isWow64Process processId world).2) (world : σ) :
    Ends world none (getMaxWindowsAddress target calls processId world).2 := by
  have asked := asks world
  unfold getMaxWindowsAddress
  split
  · exact rule.idle _
  · split <;> rename_i reply <;> rw [reply] at asked <;> exact asked

end BufferAllocatorWindows

/-- What holds of the calls before the walks and of the walks holds of the allocation. -/
theorem allocateWindows_rule {σ : Type} {target : Target} {calls : WindowsCalls σ}
    {settings : BufferAllocatorSettings} {Ends : σ → Option LocatorItem → σ → Prop}
    (walked : BufferAllocatorWindows.Walked target calls settings Ends)
    (opens : ∀ world, Ends world none (calls.openProcess settings.targetProcessId world).2)
    (asks : ∀ world, Ends world none (calls.isWow64Process settings.targetProcessId world).2) {fuel : Nat}
    {world last : σ} {result : Except String LocatorItem}
    (run : allocateWindows target calls fuel settings world = some (result, last)) :
    Ends world result.toOption last := by
  have opened := opens world
  simp only [allocateWindows] at run
  split at run
  · rename_i next denied
    cases run
    rw [denied] at opened
    exact opened
  · rename_i next allowed
    rw [allowed] at opened
    have measured := walked.rule.again _ _ _ _ opened
      (@BufferAllocatorWindows.getMaxWindowsAddress_rule _ target _ _ walked.rule _ asks next)
    split at run
    · cases run
    · rename_i item after found
      cases run
      exact walked.rule.again _ _ _ _ measured (walked.allocateFast found)
    · rename_i after missed
      cases run
      exact walked.rule.again _ _ _ _ measured (walked.allocateFast missed)

theorem allocateWindows_outcome {σ : Type} {target : Target} {calls : WindowsCalls σ} {held : σ → Set Nat}
    {settings : BufferAllocatorSettings} (sound : calls.Sound target.usize held) {fuel : Nat} {world last : σ}
    {result : Except String LocatorItem}
    (run : allocateWindows target calls fuel settings world = some (result, last)) :
    Outcome target.usize settings (held world) (held last) result.toOption := by
  refine allocateWindows_rule ⟨Outcome.walkRule target.usize settings held, sound.queries, ?_⟩ (sound.opens _)
    (sound.wow64 _) run
  intro address start info next found after answer tried
  have queried := sound.queries address start
  have outcome := @BufferAllocatorWindows.tryAllocateBuffer_outcome _ _ _ settings _ sound info next
  rw [answer] at queried
  rw [tried] at outcome
  exact outcome.weaken queried

end ReloadedBuffers
