import ReloadedBuffers.Internal.ManagedAllocator
import ReloadedBuffers.Structs.Carving

/-! What an allocation of the C# library obtains, on every platform. Failures are told
before anything else is looked at, so that no answer is mistaken for memory.
-/

set_option autoImplicit false

namespace ReloadedBuffers

/-- The contract of the calls. On Linux nothing is ever mapped at null, and `VirtualFree`
with a size of zero gives back what `VirtualAlloc` has just reserved. -/
structure LinuxCalls.ManagedSound {σ : Type} (calls : LinuxCalls σ) (usize : Nat) (held : σ → Set Nat) : Prop where
  contract : calls.Sound usize held
  notNull : ∀ address size world, (calls.mmap address size world).1 ≠ 0

structure WindowsCalls.ManagedSound {σ : Type} (calls : WindowsCalls σ) (usize : Nat) (held : σ → Set Nat) : Prop where
  wow64 : ∀ processId world, held world ⊆ held (calls.isWow64Process processId world).2
  queries : ∀ address world, held world ⊆ held (calls.virtualQuery address world).2
  words : ∀ address world info next, calls.virtualQuery address world = (some info, next) → info.baseAddress < usize
  empty : ∀ address world, (calls.virtualAlloc address 0 world).1 = 0
  granted : ∀ address size world, (calls.virtualAlloc address size world).1 ≠ 0 →
    (calls.virtualAlloc address size world).1 + size < usize ∧
    Disjoint (Words.extent (calls.virtualAlloc address size world).1 size) (held world) ∧
    held world ∪ Words.extent (calls.virtualAlloc address size world).1 size ⊆
      held (calls.virtualAlloc address size world).2
  refused : ∀ address size world, (calls.virtualAlloc address size world).1 = 0 →
    held world ⊆ held (calls.virtualAlloc address size world).2
  returned : ∀ address size world, (calls.virtualAlloc address size world).1 ≠ 0 →
    held world ⊆ held (calls.virtualFree (calls.virtualAlloc address size world).1 0
      (calls.virtualAlloc address size world).2)

namespace BufferAllocator.Managed

variable {σ : Type} {Ends : σ → Option Nat → σ → Prop} {failed : Nat} {request : Nat → σ → Nat × σ}
  {release : Nat → σ → σ} {candidates : List Nat} {world last : σ}

/-- The three answers to a request for a candidate. -/
theorem tryCandidates_rule (rule : WalkRule Ends)
    (refused : ∀ address ∈ candidates, ∀ world, (request address world).1 = failed →
      Ends world none (request address world).2)
    (elsewhere : ∀ address ∈ candidates, ∀ world, (request address world).1 ≠ failed →
      Ends world none (release (request address world).1 (request address world).2))
    (here : ∀ address ∈ candidates, ∀ world, (request address world).1 = address → address ≠ failed →
      Ends world (some address) (request address world).2) {result : Option Nat}
    (run : tryCandidates failed request release candidates world = (result, last)) : Ends world result last := by
  induction candidates generalizing world with
  | nil =>
      cases run
      exact rule.idle _
  | cons address rest ih =>
      have later := fun {next : σ} => @ih next (fun other member => refused other (List.mem_cons_of_mem address member))
        (fun other member => elsewhere other (List.mem_cons_of_mem address member))
        (fun other member => here other (List.mem_cons_of_mem address member))
      simp only [tryCandidates] at run
      split at run
      · rename_i denied
        exact rule.again _ _ _ _ (refused address List.mem_cons_self world denied) (later run)
      · rename_i accepted
        split at run
        · exact rule.again _ _ _ _ (elsewhere address List.mem_cons_self world accepted) (later run)
        · rename_i same
          cases run
          have answer : (request address world).1 = address := not_not.mp same
          have kept := here address List.mem_cons_self world answer (by rwa [answer] at accepted)
          rwa [answer]

end BufferAllocator.Managed

/-- The size as the C# back ends pass it to the search for candidates is at least the size. -/
theorem size_le_nuint (target : Target) (size : UInt32) :
    size.toNat ≤ BufferAllocatorWindows.Managed.nuint target.usize size.toInt32 ∧
      BufferAllocatorWindows.Managed.nuint target.usize size.toInt32 < target.usize := by
  have value : size.toInt32.toInt = if 2 * size.toNat < 2 ^ 32 then (size.toNat : Int) else size.toNat - 2 ^ 32 :=
    BitVec.toInt_eq_toNat_cond size.toBitVec
  have below := size.toNat_lt
  rw [BufferAllocatorWindows.Managed.nuint, value]
  cases wide : target.width <;> simp only [Target.usize, wide, PointerWidth.modulus] <;> split <;> omega

/-- A candidate for a larger size lies in the window with the smaller one as well. -/
theorem window_of_larger {usize minimumPtr maximumPtr pageStart pageEnd size larger granularity address : Nat}
    (positive : 0 < granularity) (small : granularity < usize) (minimum : minimumPtr < usize)
    (maximum : maximumPtr < usize) (start : pageStart < usize) (last : pageEnd < usize) (word : larger < usize)
    (grown : size ≤ larger)
    (member : address ∈ getPossibleBufferAddresses usize minimumPtr maximumPtr pageStart pageEnd larger granularity) :
    minimumPtr ≤ address ∧ (address + size < usize → address + size ≤ maximumPtr) := by
  have low := (mem_candidates member).1
  rcases candidate_feasible positive small minimum maximum start last word member with fits | ⟨_, _, _, top, _⟩
  · have stop := fits.le_window
    exact ⟨low, fun _ => by omega⟩
  · exact ⟨low, fun inside => by omega⟩

namespace BufferAllocatorLinux.Managed

variable {σ : Type} {target : Target} {calls : LinuxCalls σ} {settings : BufferAllocatorSettings} {held : σ → Set Nat}

theorem tryAllocateBuffer_outcome (sound : calls.ManagedSound target.usize held) (booted : target.Booted)
    (minimum : settings.minAddress < target.usize) {entry : MemoryMapEntry} (start : entry.startAddress < target.usize)
    {world last : σ} {result : Option LocatorItem}
    (run : tryAllocateBuffer target calls settings entry world = (result, last)) :
    Outcome target.usize settings (held world) (held last) result := by
  have rule := (Outcome.walkRule target.usize settings held).map (LocatorItem.new · settings.size)
  cases run
  refine BufferAllocator.Managed.tryCandidates_rule rule ?_ ?_ ?_ rfl
  · exact fun address _ world denied => sound.contract.maps.refused address _ world denied
  · exact fun address _ world _ => sound.contract.maps.returned address _ world
  · intro address member world here proper
    rw [candidates_eq booted minimum start] at member
    have accepted : (calls.mmap address settings.size.toNat world).1 ≠ mapFailed target.usize := by rwa [here]
    obtain ⟨word, separate, grows⟩ := sound.contract.maps.granted address _ world accepted
    obtain ⟨low, _, high⟩ := mem_candidates member
    have nonzero := sound.notNull address settings.size.toNat world
    rw [here] at word separate grows nonzero
    refine ⟨rfl, nonzero, ?_, word, low, (high word).1, separate, grows⟩
    by_contra empty
    have zero : settings.size.toNat = 0 := by omega
    rw [zero] at accepted
    exact accepted (sound.contract.maps.empty address world)

theorem tryRegions_outcome (sound : calls.ManagedSound target.usize held) (booted : target.Booted)
    (minimum : settings.minAddress < target.usize) {regions : List MemoryMapEntry}
    (words : ∀ region ∈ regions, region.startAddress < target.usize) {world last : σ} {result : Option LocatorItem}
    (run : tryRegions target calls settings regions world = (result, last)) :
    Outcome target.usize settings (held world) (held last) result := by
  induction regions generalizing world with
  | nil =>
      cases run
      exact subset_rfl
  | cons region rest ih =>
      have here := fun {found next} => @tryAllocateBuffer_outcome _ _ _ _ _ sound booted minimum region
        (words region List.mem_cons_self) world next found
      simp only [tryRegions] at run
      split at run
      · cases run
        exact subset_rfl
      · split at run
        · rename_i item next found
          cases run
          exact here found
        · rename_i next missed
          exact (ih (fun other inside => words other (List.mem_cons_of_mem _ inside)) run).weaken (here missed)

theorem allocateLinux_outcome (sound : calls.ManagedSound target.usize held) (booted : target.Booted)
    (posix : target.os ≠ .windows) (minimum : settings.minAddress < target.usize) {world last : σ}
    {result : Option LocatorItem} (run : allocateLinux target calls settings world = some (result, last)) :
    Outcome target.usize settings (held world) (held last) result := by
  refine (Outcome.walkRule target.usize settings held).retry (fun start found next walked => ?_) run
  obtain ⟨⟨regions, next⟩, read, tried⟩ := Option.map_eq_some_iff.mp walked
  have words := sound.contract.words _ _ _ _ read
  refine (tryRegions_outcome sound booted minimum (fun region member => ?_) tried).weaken
    (sound.contract.reads _ _ _ _ read)
  exact (freeRegionsFrom_bounds (Nat.sub_le _ _) (booted.maxAddress_word posix) words target.usize_pos member).1

end BufferAllocatorLinux.Managed

namespace BufferAllocatorWindows.Managed

variable {σ : Type} {target : Target} {calls : WindowsCalls σ} {settings : BufferAllocatorSettings} {held : σ → Set Nat}

theorem tryAllocateBuffer_outcome (sound : calls.ManagedSound target.usize held) (booted : target.Booted)
    (minimum : settings.minAddress < target.usize) (maximum : settings.maxAddress < target.usize)
    {pageInfo : MemoryBasicInformation} (base : pageInfo.baseAddress < target.usize) {world last : σ}
    {result : Option LocatorItem}
    (run : tryAllocateBuffer target calls settings pageInfo world = (result, last)) :
    Outcome target.usize settings (held world) (held last) result := by
  have rule := (Outcome.walkRule target.usize settings held).map (LocatorItem.new · settings.size)
  have large : 4096 ≤ target.granularity := booted.large
  unfold tryAllocateBuffer at run
  split at run
  · cases run
    exact subset_rfl
  · cases run
    refine BufferAllocator.Managed.tryCandidates_rule rule ?_ ?_ ?_ rfl
    · exact fun address _ world denied => sound.refused address _ world denied
    · exact fun address _ world accepted => sound.returned address _ world accepted
    · intro address member world here proper
      rw [candidates_eq booted.small minimum base] at member
      have accepted : (calls.virtualAlloc address settings.size.toNat world).1 ≠ 0 := by rwa [here]
      obtain ⟨word, separate, grows⟩ := sound.granted address _ world accepted
      obtain ⟨grown, fits⟩ := size_le_nuint target settings.size
      obtain ⟨low, high⟩ := window_of_larger (by omega) booted.granularity_lt minimum maximum base
        (Nat.mod_lt _ target.usize_pos) fits grown member
      rw [here] at word separate grows
      refine ⟨rfl, proper, ?_, word, low, high word, separate, grows⟩
      by_contra empty
      have zero : settings.size.toNat = 0 := by omega
      rw [zero] at accepted
      exact accepted (sound.empty address world)

theorem walkPages_outcome (sound : calls.ManagedSound target.usize held) (booted : target.Booted)
    (minimum : settings.minAddress < target.usize) (maximum : settings.maxAddress < target.usize)
    {maxAddress : Nat} {advance : MemoryBasicInformation → Nat} {fuel currentAddress : Nat} {world last : σ}
    {result : Option LocatorItem}
    (run : walkPages target calls settings maxAddress advance fuel currentAddress world = some (result, last)) :
    Outcome target.usize settings (held world) (held last) result := by
  induction fuel generalizing currentAddress world with
  | zero => cases run
  | succ fuel ih =>
      have queried := sound.queries currentAddress world
      simp only [walkPages] at run
      split at run
      · split at run
        · rename_i next answer
          cases run
          rw [answer] at queried
          exact queried
        · rename_i info next answer
          rw [answer] at queried
          have tried := fun {found after} => @tryAllocateBuffer_outcome _ _ _ _ _ sound booted minimum maximum info
            (sound.words _ _ _ _ answer) next after found
          split at run
          · rename_i item after found
            cases run
            exact (tried found).weaken queried
          · rename_i after missed
            exact ((ih run).weaken (tried missed)).weaken queried
      · cases run
        exact subset_rfl

theorem allocateFast_outcome (sound : calls.ManagedSound target.usize held) (booted : target.Booted)
    (minimum : settings.minAddress < target.usize) (maximum : settings.maxAddress < target.usize)
    {fuel maxAddress : Nat} {world last : σ} {result : Option LocatorItem}
    (run : allocateFast target calls settings fuel maxAddress world = some (result, last)) :
    Outcome target.usize settings (held world) (held last) result := by
  have retried := fun {found : Option LocatorItem} {next : σ}
      (again : retry (walkPages target calls settings (min maxAddress settings.maxAddress) (·.regionSize) fuel
        settings.minAddress) settings.retries world = some (found, next)) =>
    (Outcome.walkRule target.usize settings held).retry
      (fun _ _ _ once => walkPages_outcome sound booted minimum maximum once) again
  simp only [allocateFast] at run
  split at run
  · rename_i next missed
    split at run
    · exact (walkPages_outcome sound booted minimum maximum run).weaken (retried missed)
    · cases run
      exact retried missed
  · exact retried run

theorem allocateWindows_outcome {remote : WindowsCalls σ} (sound : calls.ManagedSound target.usize held)
    (reaches : remote.ManagedSound target.usize held) (booted : target.Booted)
    (minimum : settings.minAddress < target.usize) (maximum : settings.maxAddress < target.usize) {fuel : Nat}
    {world last : σ} {result : Option LocatorItem}
    (run : allocateWindows target calls settings remote fuel world = some (result, last)) :
    Outcome target.usize settings (held world) (held last) result := by
  have asked := @getMaxWindowsAddress_rule _ target _ _ (Outcome.walkRule target.usize settings held) _
    (sound.wow64 settings.targetProcessId) world
  simp only [allocateWindows] at run
  split at run
  · exact (allocateFast_outcome sound booted minimum maximum run).weaken asked
  · exact (allocateFast_outcome reaches booted minimum maximum run).weaken asked

end BufferAllocatorWindows.Managed

namespace BufferAllocatorOsx.Managed

variable {σ : Type} {target : Target} {calls : MachCalls σ} {settings : BufferAllocatorSettings} {held : σ → Set Nat}

theorem tryPointers_outcome (sound : calls.Sound target.usize held) {pointers : List Nat}
    (inWindow : ∀ address ∈ pointers, settings.minAddress ≤ address ∧
      (address + settings.size.toNat < target.usize → address + settings.size.toNat ≤ settings.maxAddress))
    {world last : σ} {result : Option LocatorItem}
    (run : tryPointers calls settings pointers world = (result, last)) :
    Outcome target.usize settings (held world) (held last) result := by
  induction pointers generalizing world with
  | nil =>
      cases run
      exact subset_rfl
  | cons address rest ih =>
      have windowRest := fun other member => inWindow other (List.mem_cons_of_mem address member)
      simp only [tryPointers] at run
      split at run
      · rename_i next answer
        have refused := sound.refused address settings.size.toNat world (by rw [answer])
        rw [answer] at refused
        exact (ih windowRest run).weaken refused
      · rename_i allocated next answer
        cases run
        obtain ⟨rfl, notNull⟩ := sound.fixed address settings.size.toNat world allocated (by rw [answer])
        obtain ⟨word, separate, grows⟩ := sound.granted allocated settings.size.toNat world allocated (by rw [answer])
        obtain ⟨low, high⟩ := inWindow allocated List.mem_cons_self
        rw [answer] at grows
        refine ⟨rfl, notNull, ?_, word, low, high word, separate, grows⟩
        by_contra nothing
        have zero : settings.size.toNat = 0 := by omega
        have denied := sound.empty allocated world
        rw [← zero, answer] at denied
        cases denied

theorem tryAllocateBuffer_outcome (sound : calls.Sound target.usize held) (booted : target.Booted)
    (minimum : settings.minAddress < target.usize) (maximum : settings.maxAddress < target.usize)
    {pageAddress pageSize : Nat} (start : pageAddress < target.usize) {world last : σ} {result : Option LocatorItem}
    (run : tryAllocateBuffer target calls settings pageAddress pageSize world = (result, last)) :
    Outcome target.usize settings (held world) (held last) result := by
  have wide := target.u32_le_usize
  have large : 4096 ≤ target.granularity := booted.large
  obtain ⟨grown, fits⟩ := size_le_nuint target settings.size
  refine tryPointers_outcome sound (fun address member => ?_) run
  rw [getBufferPointersInPageRange, BufferAllocatorWindows.Managed.getPossibleBufferAddresses_eq minimum start,
    BufferAllocatorWindows.Managed.getAllocationGranularity,
    BufferAllocatorWindows.Managed.nuint_ofNat booted.small (by omega)] at member
  exact window_of_larger (by omega) booted.granularity_lt minimum maximum start (Nat.mod_lt _ target.usize_pos) fits
    grown member

theorem getFreePages_words (sound : calls.Sound target.usize held) {maxAddress fuel currentAddress : Nat}
    (word : currentAddress < target.usize) {pages : List (Nat × Nat)} {world last : σ}
    (listed : getFreePages target calls maxAddress fuel currentAddress world = some (pages, last)) :
    (∀ page ∈ pages, page.1 < target.usize) ∧ held world ⊆ held last := by
  induction fuel generalizing currentAddress pages world last with
  | zero => cases listed
  | succ fuel ih =>
      have queried := sound.regions currentAddress world
      simp only [getFreePages] at listed
      split at listed
      · split at listed
        · rename_i next answer
          rw [answer] at queried
          cases listed
          refine ⟨fun page member => ?_, queried⟩
          split at member
          · cases List.mem_singleton.mp member
            exact word
          · cases member
        · rename_i next answer
          rw [answer] at queried
          cases listed
          exact ⟨fun _ member => (by cases member), queried⟩
        · rename_i actualAddress availableSize next answer
          rw [answer] at queried
          obtain ⟨⟨rest, after⟩, remaining, joined⟩ := Option.map_eq_some_iff.mp listed
          cases joined
          obtain ⟨words, kept⟩ := ih (Nat.mod_lt _ target.usize_pos) remaining
          refine ⟨fun page member => ?_, queried.trans kept⟩
          rcases List.mem_append.mp member with gap | later
          · split at gap
            · cases List.mem_singleton.mp gap
              exact word
            · cases gap
          · exact words page later
      · cases listed
        exact ⟨fun _ member => (by cases member), subset_rfl⟩

theorem tryPages_outcome (sound : calls.Sound target.usize held) (booted : target.Booted)
    (minimum : settings.minAddress < target.usize) (maximum : settings.maxAddress < target.usize)
    {pages : List (Nat × Nat)} (words : ∀ page ∈ pages, page.1 < target.usize) {world last : σ}
    {result : Option LocatorItem} (run : tryPages target calls settings pages world = (result, last)) :
    Outcome target.usize settings (held world) (held last) result := by
  induction pages generalizing world with
  | nil =>
      cases run
      exact subset_rfl
  | cons page rest ih =>
      have here := fun {found next} => @tryAllocateBuffer_outcome _ _ _ _ _ sound booted minimum maximum page.1 page.2
        (words page List.mem_cons_self) world next found
      simp only [tryPages] at run
      split at run
      · rename_i item next found
        cases run
        exact here found
      · rename_i next missed
        exact (ih (fun other inside => words other (List.mem_cons_of_mem _ inside)) run).weaken (here missed)

theorem allocateOsx_outcome (sound : calls.Sound target.usize held) (booted : target.Booted)
    (minimum : settings.minAddress < target.usize) (maximum : settings.maxAddress < target.usize) {fuel : Nat}
    {world last : σ} {result : Option LocatorItem}
    (run : allocateOsx target calls settings fuel world = some (result, last)) :
    Outcome target.usize settings (held world) (held last) result := by
  refine (Outcome.walkRule target.usize settings held).retry (fun start found next walked => ?_) run
  obtain ⟨⟨pages, after⟩, listed, tried⟩ := Option.map_eq_some_iff.mp walked
  obtain ⟨words, kept⟩ := getFreePages_words sound minimum listed
  exact (tryPages_outcome sound booted minimum maximum words tried).weaken kept

end BufferAllocatorOsx.Managed

/-- The contract of everything that the C# library calls; `Memory.Instance` gives fresh
memory of the size that it was asked for, or throws. -/
structure ManagedOs.Sound {σ : Type} (os : ManagedOs σ) (target : Target) (held : σ → Set Nat) : Prop where
  platform :
    match target.os with
    | .linux => os.os.linux.ManagedSound target.usize held
    | .windows => os.os.windows.ManagedSound target.usize held ∧ os.remote.ManagedSound target.usize held
    | .macos => os.os.macos.Sound target.usize held
  allocated : ∀ size world address length, (os.allocate size world).1 = some (address, length) →
    length = size ∧ address ≠ 0 ∧ address + size < target.usize ∧ Disjoint (Words.extent address size) (held world) ∧
    held world ∪ Words.extent address size ⊆ held (os.allocate size world).2
  threw : ∀ size world, (os.allocate size world).1 = none → held world ⊆ held (os.allocate size world).2

namespace BufferAllocator.Managed

variable {σ : Type} {target : Target} {os : ManagedOs σ} {settings : BufferAllocatorSettings} {held : σ → Set Nat}

theorem thrown_outcome {searched : Option (Option LocatorItem × σ)} {world last : σ}
    {result : Except ManagedException LocatorItem}
    (outcome : ∀ found next, searched = some (found, next) → Outcome target.usize settings (held world) (held next) found)
    (run : thrown settings searched = some (result, last)) :
    Outcome target.usize settings (held world) (held last) result.toOption := by
  rcases thrown_cases run with ⟨item, found, rfl⟩ | ⟨missed, rfl⟩
  · exact outcome _ _ found
  · exact outcome _ _ missed

/-- What the C# library allocates is fresh and in the window, and it loses nothing when it
throws. It needs no assumption on the granularity to tell failures. -/
theorem allocate_outcome (sound : os.Sound target held) (booted : target.Booted)
    (minimum : settings.minAddress < target.usize) (maximum : settings.maxAddress < target.usize) {fuel : Nat}
    {world last : σ} {result : Except ManagedException LocatorItem}
    (run : allocate target os fuel settings world = some (result, last)) :
    Outcome target.usize (settings.sanitize target) (held world) (held last) result.toOption := by
  have lower := BufferAllocatorSettings.sanitize_minAddress_lt target minimum booted.granularity_lt
  have platform := sound.platform
  simp only [allocate, BufferAllocatorSettings.Managed.sanitize_eq booted] at run
  cases system : target.os with
  | linux =>
      simp only [system] at run platform
      split at run
      · cases run
        exact subset_rfl
      · exact thrown_outcome (fun _ _ searched => BufferAllocatorLinux.Managed.allocateLinux_outcome platform booted
          (by simp [system]) lower searched) run
  | windows =>
      simp only [system] at run platform
      exact thrown_outcome (fun _ _ searched => BufferAllocatorWindows.Managed.allocateWindows_outcome platform.1
        platform.2 booted lower maximum searched) run
  | macos =>
      simp only [system] at run platform
      split at run
      · cases run
        exact subset_rfl
      · exact thrown_outcome (fun _ _ searched => BufferAllocatorOsx.Managed.allocateOsx_outcome platform booted lower
          maximum searched) run

end BufferAllocator.Managed

/-- The kernel refuses to map anything at null. -/
def LinuxCalls.aboveNull {σ : Type} (calls : LinuxCalls σ) (usize : Nat) : LinuxCalls σ :=
  { calls with
    mmap := fun address size world => if address = 0 then (mapFailed usize, world) else calls.mmap address size world }

/-- A kernel that refuses more keeps its contract. -/
theorem LinuxCalls.Sound.aboveNull {σ : Type} {calls : LinuxCalls σ} {usize : Nat} {held : σ → Set Nat}
    (sound : calls.Sound usize held) : (calls.aboveNull usize).Sound usize held := by
  refine ⟨sound.words, sound.reads, ⟨?_, ?_, ?_, sound.maps.released, sound.maps.ignored⟩⟩
  · intro address world
    simp only [LinuxCalls.aboveNull]
    split
    · rfl
    · exact sound.maps.empty address world
  · intro address size world accepted
    simp only [LinuxCalls.aboveNull] at accepted ⊢
    split at accepted
    · exact absurd rfl accepted
    · rename_i above
      rw [if_neg above]
      exact sound.maps.granted address size world accepted
  · intro address size world denied
    simp only [LinuxCalls.aboveNull] at denied ⊢
    split at denied
    · rename_i null
      rw [if_pos null]
    · rename_i above
      rw [if_neg above]
      exact sound.maps.refused address size world denied

/-- The system that gives out memory upwards, for both libraries. -/
def ManagedOs.upwards (usize : Nat) (raw : LocatorHeader) : ManagedOs Nat where
  os := { Os.upwards usize raw with linux := (Os.upwards usize raw).linux.aboveNull usize }
  remote := (Os.upwards usize raw).windows
  allocate size brk := if brk = 0 ∨ usize ≤ brk + size then (none, brk) else (some (brk, size), brk + size)

variable {target : Target}

theorem ManagedOs.upwards_os_sound (raw : LocatorHeader) (linux : target.os = .linux) :
    (ManagedOs.upwards target.usize raw).os.Sound target Set.Iio where
  platform := by
    have platform := (Os.upwards_sound target raw linux).platform
    simp only [linux] at platform ⊢
    exact platform.aboveNull
  heapGranted := (Os.upwards_sound target raw linux).heapGranted
  heapRefused := (Os.upwards_sound target raw linux).heapRefused

theorem ManagedOs.upwards_sound (raw : LocatorHeader) (linux : target.os = .linux) :
    (ManagedOs.upwards target.usize raw).Sound target Set.Iio where
  platform := by
    have platform := (ManagedOs.upwards_os_sound raw linux).platform
    have wide := target.u32_le_usize
    simp only [linux] at platform ⊢
    refine ⟨platform, fun address size brk null => ?_⟩
    simp only [ManagedOs.upwards, LinuxCalls.aboveNull, Os.upwards, mapFailed] at null
    split at null
    · omega
    · rename_i above
      split at null
      · omega
      · exact above null
  allocated size brk address length answer := by
    simp only [ManagedOs.upwards] at answer ⊢
    split at answer
    · cases answer
    · rename_i free
      cases answer
      rw [if_neg free]
      exact ⟨rfl, by omega, by omega, extent_above (Nat.le_refl _) size⟩
  threw size brk _ := by
    simp only [ManagedOs.upwards]
    split
    · exact subset_rfl
    · exact Set.Iio_subset_Iio (Nat.le_add_right _ _)

namespace BufferAllocator.Managed

/-- Two pages between 128 KiB and 1 MiB, in a process that holds its first 64 KiB. -/
def twoPages : BufferAllocatorSettings := ⟨0x20000, 0x100000, 8000, 1, 8, true⟩

theorem upwards_answers : (ManagedOs.upwards smallTarget.usize LocatorHeader.zeroedHeader).Answers smallTarget := by
  have sound : (ManagedOs.upwards smallTarget.usize LocatorHeader.zeroedHeader).os.linux.ManagedSound
      smallTarget.usize Set.Iio := (@ManagedOs.upwards_sound smallTarget LocatorHeader.zeroedHeader rfl).platform
  exact ⟨sound.contract.words, fun _ _ => rfl⟩

/-- The kernel maps the candidate that it is asked for, and never anything else. -/
theorem allocate_agrees_twoPages : ∃ other : Except BufferAllocationError LocatorItem,
    ReloadedBuffers.allocate smallTarget (ManagedOs.upwards smallTarget.usize LocatorHeader.zeroedHeader).os 0 twoPages
        0x10000 =
        some (other, 0x22000) ∧ SameAllocation (.ok (LocatorItem.new 0x20000 8192)) other := by
  have run : allocate smallTarget (ManagedOs.upwards smallTarget.usize LocatorHeader.zeroedHeader).logged 0 twoPages
      ⟨opened smallTarget (ManagedOs.upwards smallTarget.usize LocatorHeader.zeroedHeader).os 0x10000, []⟩ =
      some (.ok (LocatorItem.new 0x20000 8192), ⟨0x22000, [.mmap 0x20000 8192 0x20000, .memoryMap [⟨0, 0x10000⟩]]⟩) := rfl
  refine allocate_agrees upwards_answers smallTarget_booted (.inr ⟨12, rfl⟩) rfl (by decide) (by decide) (.inl rfl) run ?_
  intro call member
  rcases List.mem_cons.mp member with rfl | member
  · exact show ¬ (0x20000 : Nat) = 0 by decide
  · cases List.mem_singleton.mp member
    exact id

end BufferAllocator.Managed

end ReloadedBuffers
