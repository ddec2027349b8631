import ReloadedBuffers.Internal.BufferAllocatorLinux
import ReloadedBuffers.Internal.BufferAllocatorOsx
import ReloadedBuffers.Internal.BufferAllocatorWindows
import ReloadedBuffers.Structs.LocatorHeader

/-! The operating system as the crate sees it, and allocation through the back end
that the build selects.
-/

set_option autoImplicit false

namespace ReloadedBuffers

/-- Everything outside the crate that it calls. Only the back end of the target's
own platform is ever used. -/
structure Os (σ : Type) where
  linux : LinuxCalls σ
  windows : WindowsCalls σ
  macos : MachCalls σ
  /-- The global allocator: a size and an alignment, zero for a null pointer. -/
  alloc : Nat → Nat → σ → Nat × σ
  /-- What a read of a header finds in memory that has not been written. -/
  raw : σ → Nat → LocatorHeader

structure BufferAllocationError where
  settings : BufferAllocatorSettings
  text : String
  deriving DecidableEq, Repr

variable {σ : Type}

/-- `none` is a call that does not return: a page walk that never ends. -/
def allocate (target : Target) (os : Os σ) (fuel : Nat) (settings : BufferAllocatorSettings) (world : σ) :
    Option (Except BufferAllocationError LocatorItem × σ) :=
  let settings := settings.sanitize target
  match target.os with
  | .linux =>
    match allocateLinux target os.linux settings world with
    | none => none
    | some (some item, world) => some (.ok item, world)
    | some (none, world) => some (.error ⟨settings, "Failed to allocate buffer on Linux"⟩, world)
  | .windows =>
    match allocateWindows target os.windows fuel settings world with
    | none => none
    | some (.ok item, world) => some (.ok item, world)
    | some (.error text, world) => some (.error ⟨settings, text⟩, world)
  | .macos =>
    match allocateOsx target os.macos fuel settings world with
    | none => none
    | some (some item, world) => some (.ok item, world)
    | some (none, world) => some (.error ⟨settings, "Failed to allocate buffer on OSX"⟩, world)

/-- The error is about the settings; what was allocated is the back end's. -/
theorem allocate_cases {target : Target} {os : Os σ} {fuel : Nat} {settings : BufferAllocatorSettings} {world last : σ}
    {result : Except BufferAllocationError LocatorItem}
    (run : allocate target os fuel settings world = some (result, last)) :
    match target.os with
    | .linux => allocateLinux target os.linux (settings.sanitize target) world = some (result.toOption, last)
    | .windows => ∃ found, allocateWindows target os.windows fuel (settings.sanitize target) world = some (found, last) ∧
        result.toOption = found.toOption
    | .macos => allocateOsx target os.macos fuel (settings.sanitize target) world = some (result.toOption, last) := by
  simp only [allocate] at run
  cases system : target.os with
  | linux =>
      simp only [system] at run ⊢
      split at run
      · cases run
      · rename_i item next allocated
        cases run
        exact allocated
      · rename_i next allocated
        cases run
        exact allocated
  | windows =>
      simp only [system] at run ⊢
      split at run
      · cases run
      · rename_i item next allocated
        cases run
        exact ⟨_, allocated, rfl⟩
      · rename_i text next allocated
        cases run
        exact ⟨_, allocated, rfl⟩
  | macos =>
      simp only [system] at run ⊢
      split at run
      · cases run
      · rename_i item next allocated
        cases run
        exact allocated
      · rename_i next allocated
        cases run
        exact allocated

/-- The contract of the platform and of the global allocator. `held` is memory in use. -/
structure Os.Sound (os : Os σ) (target : Target) (held : σ → Set Nat) : Prop where
  platform :
    match target.os with
    | .linux => os.linux.Sound target.usize held
    | .windows => os.windows.Sound target.usize held
    | .macos => os.macos.Sound target.usize held
  heapGranted : ∀ size align world, (os.alloc size align world).1 ≠ 0 →
    (os.alloc size align world).1 + size < target.usize ∧
    Disjoint (Words.extent (os.alloc size align world).1 size) (held world) ∧
    held world ∪ Words.extent (os.alloc size align world).1 size ⊆ held (os.alloc size align world).2
  heapRefused : ∀ size align world, (os.alloc size align world).1 = 0 →
    held world ⊆ held (os.alloc size align world).2

/-- The part of it that speaks of the platform. -/
def Os.Platform (os : Os σ) (target : Target) (held : σ → Set Nat) : Prop :=
  match target.os with
  | .linux => os.linux.Sound target.usize held
  | .windows => os.windows.Sound target.usize held
  | .macos => os.macos.Sound target.usize held

/-- The part of it that speaks of the global allocator. -/
structure Os.Heap (os : Os σ) (target : Target) (held : σ → Set Nat) : Prop where
  granted : ∀ size align world, (os.alloc size align world).1 ≠ 0 →
    (os.alloc size align world).1 + size < target.usize ∧
    Disjoint (Words.extent (os.alloc size align world).1 size) (held world) ∧
    held world ∪ Words.extent (os.alloc size align world).1 size ⊆ held (os.alloc size align world).2
  refused : ∀ size align world, (os.alloc size align world).1 = 0 →
    held world ⊆ held (os.alloc size align world).2

theorem Os.Sound.heap {os : Os σ} {target : Target} {held : σ → Set Nat} (sound : os.Sound target held) :
    os.Heap target held := ⟨sound.heapGranted, sound.heapRefused⟩

/-- A Linux system that gives out memory upwards only; its state is the end of what
has been given out, and it gives nothing back to itself. -/
def Os.upwards (usize : Nat) (raw : LocatorHeader) : Os Nat where
  linux :=
    { memoryMap := fun _ brk => some ([⟨0, min brk (usize - 1)⟩], brk)
      mmap := fun address size brk =>
        if size = 0 ∨ address < brk ∨ usize ≤ address + size then (mapFailed usize, brk)
        else (address, address + size)
      munmap := fun _ _ brk => brk }
  windows := ⟨fun _ brk => (false, brk), fun _ brk => (none, brk), fun _ brk => (none, brk),
    fun _ _ brk => (0, brk), fun _ _ brk => brk⟩
  macos := ⟨fun _ brk => (.failure, brk), fun _ _ brk => (none, brk), fun _ _ brk => (false, brk),
    fun _ _ brk => brk⟩
  alloc size _ brk := if usize ≤ brk + size then (0, brk) else (brk, brk + size)
  raw _ _ := raw

/-- Memory above all that has been given out. -/
theorem extent_above {brk address : Nat} (above : brk ≤ address) (size : Nat) :
    Disjoint (Words.extent address size) (Set.Iio brk) ∧
      Set.Iio brk ∪ Words.extent address size ⊆ Set.Iio (address + size) := by
  constructor
  · apply Set.disjoint_left.mpr
    intro byte inside below
    rw [Words.mem_extent] at inside
    rw [Set.mem_Iio] at below
    omega
  · intro byte inside
    rw [Set.mem_union, Set.mem_Iio, Words.mem_extent] at inside
    rw [Set.mem_Iio]
    omega

theorem Os.upwards_sound (target : Target) (raw : LocatorHeader) (linux : target.os = .linux) :
    (Os.upwards target.usize raw).Sound target Set.Iio where
  platform := by
    have positive := target.usize_pos
    simp only [linux]
    refine ⟨?_, ?_, ⟨?_, ?_, ?_, ?_, ?_⟩⟩
    · intro _ brk regions next read entry member
      cases read
      obtain rfl := List.mem_singleton.mp member
      simp only
      omega
    · intro _ brk regions next read
      cases read
      exact subset_rfl
    · intro address brk
      simp [upwards]
    · intro address size brk granted
      simp only [upwards] at granted ⊢
      split at granted
      · exact absurd rfl granted
      · rename_i free
        rw [if_neg free]
        exact ⟨by omega, extent_above (by omega) size⟩
    · intro address size brk _
      simp only [upwards]
      split
      · exact subset_rfl
      · exact Set.Iio_subset_Iio (by omega)
    · intro address size brk
      exact Set.sdiff_subset
    · exact fun _ _ => subset_rfl
  heapGranted size align brk granted := by
    simp only [upwards] at granted ⊢
    split at granted
    · exact absurd rfl granted
    · rename_i free
      rw [if_neg free]
      exact ⟨by omega, extent_above (Nat.le_refl _) size⟩
  heapRefused size align brk _ := by
    simp only [upwards]
    split
    · exact subset_rfl
    · exact Set.Iio_subset_Iio (by omega)

variable {target : Target} {os : Os σ} {held : σ → Set Nat} {settings : BufferAllocatorSettings}

-- Windows reports the highest address itself and needs no bound on it.
theorem Os.Platform.allocate_outcome (platform : os.Platform target held) (booted : target.Booted)
    (tells : target.TellsFailure) (minimum : settings.minAddress < target.usize)
    (maximum : settings.maxAddress < target.usize) {fuel : Nat}
    {world last : σ} {result : Except BufferAllocationError LocatorItem}
    (run : allocate target os fuel settings world = some (result, last)) :
    Outcome target.usize (settings.sanitize target) (held world) (held last) result.toOption := by
  have allocated := allocate_cases run
  have lower := BufferAllocatorSettings.sanitize_minAddress_lt target minimum booted.granularity_lt
  unfold Os.Platform at platform
  cases system : target.os with
  | linux =>
      simp only [system] at allocated platform
      exact allocateLinux_outcome platform booted tells (by simp [system]) lower maximum allocated
  | windows =>
      simp only [system] at allocated platform
      obtain ⟨found, allocated, same⟩ := allocated
      rw [same]
      exact allocateWindows_outcome platform allocated
  | macos =>
      simp only [system] at allocated platform
      exact allocateOsx_outcome platform allocated

theorem allocate_outcome (sound : os.Sound target held) (booted : target.Booted) (tells : target.TellsFailure)
    (minimum : settings.minAddress < target.usize) (maximum : settings.maxAddress < target.usize) {fuel : Nat}
    {world last : σ} {result : Except BufferAllocationError LocatorItem}
    (run : allocate target os fuel settings world = some (result, last)) :
    Outcome target.usize (settings.sanitize target) (held world) (held last) result.toOption :=
  Os.Platform.allocate_outcome sound.platform booted tells minimum maximum run

end ReloadedBuffers
