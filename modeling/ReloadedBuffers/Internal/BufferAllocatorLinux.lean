import ReloadedBuffers.Internal.Candidates

/-! The Linux back end: free regions are computed from the memory map of the
target process, and candidates are mapped with `MAP_FIXED_NOREPLACE`.
-/

set_option autoImplicit false

namespace ReloadedBuffers

/-- A region of a memory map, or a free region with both ends included. -/
structure MemoryMapEntry where
  startAddress : Nat
  endAddress : Nat
  deriving DecidableEq, Repr

/-- The loop of `get_free_regions`, from the end of the last region seen. -/
def freeRegionsFrom (maxAddress : Nat) : Nat → List MemoryMapEntry → List MemoryMapEntry
  | lastEndAddress, [] => if lastEndAddress < maxAddress then [⟨lastEndAddress, maxAddress⟩] else []
  | lastEndAddress, entry :: rest =>
    (if entry.startAddress > lastEndAddress then [⟨lastEndAddress, entry.startAddress - 1⟩] else []) ++
      freeRegionsFrom maxAddress entry.endAddress rest

def getFreeRegions (target : Target) (regions : List MemoryMapEntry) : List MemoryMapEntry :=
  freeRegionsFrom target.sysInfo.maxAddress 0 regions

/-- What the back end calls: the parsed `/proc/{pid}/maps`, `mmap` with
`MAP_PRIVATE | MAP_ANONYMOUS | MAP_FIXED_NOREPLACE` and `munmap`. A file that cannot be
opened or read makes `read_to_string` panic, and there is no memory map. -/
structure LinuxCalls (σ : Type) where
  memoryMap : UInt32 → σ → Option (List MemoryMapEntry × σ)
  mmap : Nat → Nat → σ → Nat × σ
  munmap : Nat → Nat → σ → σ

/-- `MAP_FAILED`, minus one as a pointer. -/
def mapFailed (usize : Nat) : Nat := usize - 1

namespace BufferAllocatorLinux

variable {σ : Type} (target : Target) (calls : LinuxCalls σ) (settings : BufferAllocatorSettings)

def candidates (entry : MemoryMapEntry) : List Nat :=
  getPossibleBufferAddresses target.usize settings.minAddress settings.maxAddress entry.startAddress
    entry.endAddress settings.size.toNat target.granularity

def tryAllocateBuffer (entry : MemoryMapEntry) (world : σ) : Option LocatorItem × σ :=
  let (allocated, world) := tryCandidates (calls.mmap · settings.size.toNat)
    (calls.munmap · settings.size.toNat) (candidates target settings entry) world
  (allocated.map (LocatorItem.new · settings.size), world)

def tryRegions : List MemoryMapEntry → σ → Option LocatorItem × σ
  | [], world => (none, world)
  | region :: rest, world =>
    if region.startAddress > settings.maxAddress then (none, world)
    else
      match tryAllocateBuffer target calls settings region world with
      | (some item, world) => (some item, world)
      | (none, world) => tryRegions rest world

/-- One round of the retry loop, over a fresh reading of the memory map. -/
def walkRegions (world : σ) : Option (Option LocatorItem × σ) :=
  (calls.memoryMap settings.targetProcessId world).map fun (regions, world) =>
    tryRegions target calls settings (getFreeRegions target regions) world

end BufferAllocatorLinux

def allocateLinux {σ : Type} (target : Target) (calls : LinuxCalls σ) (settings : BufferAllocatorSettings)
    (world : σ) : Option (Option LocatorItem × σ) :=
  retry (BufferAllocatorLinux.walkRegions target calls settings) settings.retries world

/-- The operating system's side on Linux: memory maps hold words, reading one
releases nothing, and mappings are fresh. -/
structure LinuxCalls.Sound {σ : Type} (calls : LinuxCalls σ) (usize : Nat) (held : σ → Set Nat) : Prop where
  words : ∀ processId world regions next, calls.memoryMap processId world = some (regions, next) →
    ∀ entry ∈ regions, entry.startAddress < usize ∧ entry.endAddress < usize
  reads : ∀ processId world regions next, calls.memoryMap processId world = some (regions, next) →
    held world ⊆ held next
  maps : MemoryService usize (mapFailed usize) held calls.mmap calls.munmap

/-- A 64-bit target, or one whose granularity is a power of two. On either of them no
address that is asked for is `MAP_FAILED`. -/
def Target.TellsFailure (target : Target) : Prop :=
  target.width = .bits64 ∨ ∃ exponent, target.granularity = 2 ^ exponent

theorem aligned_ne_mapFailed {target : Target} (power : ∃ exponent, target.granularity = 2 ^ exponent)
    (large : 1 < target.granularity) {address : Nat} (aligned : target.granularity ∣ address) :
    address ≠ mapFailed target.usize := by
  obtain ⟨exponent, power⟩ := power
  have even : 2 ∣ target.granularity := by
    cases exponent with
    | zero => exact absurd (power ▸ large) (by decide)
    | succ exponent => exact ⟨2 ^ exponent, power.trans (Nat.pow_succ' ..)⟩
  have half := even.trans aligned
  have whole : 2 ∣ target.usize := (Dvd.intro _ rfl : 2 ∣ 2 * 2 ^ 31).trans target.width.u32_dvd_modulus
  have positive := target.usize_pos
  unfold mapFailed
  omega

-- A free region starts at zero or at the end of a mapped region, and ends below
-- the start of one or at the highest address.
theorem freeRegionsFrom_bounds {usize maxAddress limit : Nat} (last : usize - 1 ≤ limit) (highest : maxAddress < limit)
    {regions : List MemoryMapEntry} (words : ∀ entry ∈ regions, entry.startAddress < usize ∧ entry.endAddress < usize)
    {lastEndAddress : Nat} (word : lastEndAddress < usize) {free : MemoryMapEntry}
    (member : free ∈ freeRegionsFrom maxAddress lastEndAddress regions) :
    free.startAddress < usize ∧ free.endAddress < limit := by
  induction regions generalizing lastEndAddress with
  | nil =>
      simp only [freeRegionsFrom] at member
      split at member
      · obtain rfl := List.mem_singleton.mp member
        exact ⟨word, highest⟩
      · cases member
  | cons entry rest ih =>
      have here := words entry List.mem_cons_self
      simp only [freeRegionsFrom, List.mem_append] at member
      rcases member with gap | later
      · split at gap
        · obtain rfl := List.mem_singleton.mp gap
          exact ⟨word, by simp only; omega⟩
        · cases gap
      · exact ih (fun other inside => words other (List.mem_cons_of_mem _ inside)) here.2 later

namespace BufferAllocatorLinux

variable {σ : Type} {target : Target} {calls : LinuxCalls σ} {settings : BufferAllocatorSettings}
  {held : σ → Set Nat}

/-- What a candidate must not be, on a target that tells failures from addresses. -/
theorem candidate_ne_mapFailed (booted : target.Booted) (tells : target.TellsFailure)
    (highest : target.width = .bits64 → target.sysInfo.maxAddress < target.usize - 1)
    (words : target.sysInfo.maxAddress < target.usize) (minimum : settings.minAddress < target.usize)
    (maximum : settings.maxAddress < target.usize) {regions : List MemoryMapEntry}
    (bounds : ∀ entry ∈ regions, entry.startAddress < target.usize ∧ entry.endAddress < target.usize)
    {free : MemoryMapEntry} (member : free ∈ getFreeRegions target regions) {address : Nat}
    (listed : address ∈ candidates target settings free) : address ≠ mapFailed target.usize := by
  have positive := target.usize_pos
  have large : 4096 ≤ target.granularity := booted.large
  have small := booted.small
  have reach := target.u32_le_usize
  have size : settings.size.toNat < target.usize := Nat.lt_of_lt_of_le settings.size.toNat_lt reach
  obtain ⟨start, last⟩ := freeRegionsFrom_bounds (Nat.sub_le _ _) words bounds positive member
  have placed := candidate_feasible (by omega) (by omega) minimum maximum start last size listed
  rcases tells with wide | power
  · -- No free region reaches the highest word.
    obtain ⟨_, below⟩ := freeRegionsFrom_bounds (Nat.le_refl _) (highest wide) bounds positive member
    unfold mapFailed
    rcases placed with fits | ⟨_, _, top, _⟩
    · have inside := fits.le_page
      omega
    · omega
  · refine aligned_ne_mapFailed power (by omega) ?_
    rcases placed with fits | ⟨_, _, _, _, rfl⟩
    · exact fits.aligned
    · exact dvd_add_padding (by omega)

theorem tryAllocateBuffer_outcome (sound : calls.Sound target.usize held) {entry : MemoryMapEntry}
    (proper : ∀ address ∈ candidates target settings entry, address ≠ mapFailed target.usize) (world : σ) :
    Outcome target.usize settings (held world) (held (tryAllocateBuffer target calls settings entry world).2)
      (tryAllocateBuffer target calls settings entry world).1 := by
  refine tryCandidates_outcome sound.maps ?_ ?_ rfl
  · intro address member
    obtain ⟨low, _, high⟩ := mem_candidates member
    exact ⟨low, fun word => (high word).1⟩
  · exact fun address member _ => proper address member

/-- What holds of the attempt in each region holds of the walk over them. -/
theorem tryRegions_rule {Ends : σ → Option LocatorItem → σ → Prop} (rule : WalkRule Ends)
    {regions : List MemoryMapEntry}
    (tried : ∀ region ∈ regions, ∀ world result last,
      tryAllocateBuffer target calls settings region world = (result, last) → Ends world result last)
    {world last : σ} {result : Option LocatorItem}
    (run : tryRegions target calls settings regions world = (result, last)) : Ends world result last := by
  induction regions generalizing world with
  | nil =>
      cases run
      exact rule.idle _
  | cons region rest ih =>
      have here := tried region List.mem_cons_self world
      simp only [tryRegions] at run
      split at run
      · cases run
        exact rule.idle _
      · split at run
        · rename_i item next found
          cases run
          exact here _ _ found
        · rename_i next missed
          have later := ih (fun other inside => tried other (List.mem_cons_of_mem _ inside)) run
          exact rule.again _ _ _ _ (here _ _ missed) later

end BufferAllocatorLinux

/-- What holds of reading the memory map and of the attempt in each free region holds of
the allocation. -/
theorem allocateLinux_rule {σ : Type} {target : Target} {calls : LinuxCalls σ} {settings : BufferAllocatorSettings}
    {Ends : σ → Option LocatorItem → σ → Prop} (rule : WalkRule Ends)
    (reads : ∀ world regions next, calls.memoryMap settings.targetProcessId world = some (regions, next) →
      Ends world none next)
    (tried : ∀ system regions next, calls.memoryMap settings.targetProcessId system = some (regions, next) →
      ∀ region ∈ getFreeRegions target regions, ∀ world result last,
        BufferAllocatorLinux.tryAllocateBuffer target calls settings region world = (result, last) →
          Ends world result last)
    {world last : σ} {result : Option LocatorItem}
    (run : allocateLinux target calls settings world = some (result, last)) : Ends world result last := by
  refine rule.retry (fun start found next walked => ?_) run
  obtain ⟨⟨regions, after⟩, read, walked⟩ := Option.map_eq_some_iff.mp walked
  exact rule.again _ _ _ _ (reads start regions after read)
    (BufferAllocatorLinux.tryRegions_rule rule (tried start regions after read) walked)

theorem allocateLinux_outcome {σ : Type} {target : Target} {calls : LinuxCalls σ} {held : σ → Set Nat}
    {settings : BufferAllocatorSettings} (sound : calls.Sound target.usize held) (booted : target.Booted)
    (tells : target.TellsFailure) (posix : target.os ≠ .windows) (minimum : settings.minAddress < target.usize)
    (maximum : settings.maxAddress < target.usize) {world last : σ} {result : Option LocatorItem}
    (run : allocateLinux target calls settings world = some (result, last)) :
    Outcome target.usize settings (held world) (held last) result := by
  refine allocateLinux_rule (Outcome.walkRule target.usize settings held) (sound.reads _) ?_ run
  intro system regions after read region member start found next tried
  have proper := fun address (listed : address ∈ BufferAllocatorLinux.candidates target settings region) =>
    BufferAllocatorLinux.candidate_ne_mapFailed booted tells (booted.maxAddress_lt · posix)
      (booted.maxAddress_word posix) minimum maximum (sound.words _ _ _ _ read) member listed
  have outcome := BufferAllocatorLinux.tryAllocateBuffer_outcome sound proper start
  rwa [tried] at outcome

end ReloadedBuffers
