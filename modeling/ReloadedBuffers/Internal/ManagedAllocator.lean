import ReloadedBuffers.Internal.CallLog
import ReloadedBuffers.Internal.ManagedCandidates

/-! Allocation in the C# library. It asks the same systems for the same candidates, but
looks at their answers differently: a failed `mmap` is told by its own value and not
unmapped, on macOS all gaps are listed before the first request, and a failure is an
exception.
-/

set_option autoImplicit false

namespace ReloadedBuffers

/-- The exceptions that the C# library throws itself, and what the allocator that it
takes locators from may throw. -/
inductive ManagedException where
  | memoryBufferAllocation (start stop : Nat) (size : Int32)
  | platformNotSupported (message : String)
  | memoryAllocation
  deriving DecidableEq, Repr

/-- The format `X8`. -/
def hexadecimal (value : Nat) : String :=
  let digits := (Nat.toDigits 16 value).map Char.toUpper
  String.ofList (List.replicate (8 - digits.length) '0' ++ digits)

def ManagedException.message : ManagedException → Option String
  | .memoryBufferAllocation start stop size => some ("Failed to allocate " ++ toString size.toInt ++
      " bytes in address range " ++ hexadecimal start ++ " - " ++ hexadecimal stop ++ ".")
  | .platformNotSupported message => some message
  | .memoryAllocation => none

example : (ManagedException.memoryBufferAllocation 0x1000 0x7FFFFFFFFFFF 8192).message =
    some "Failed to allocate 8192 bytes in address range 00001000 - 7FFFFFFFFFFF." := by decide

namespace BufferAllocatorSettings.Managed

open BufferAllocatorWindows.Managed (nuint getAllocationGranularity) in
def sanitize (target : Target) (settings : BufferAllocatorSettings) : BufferAllocatorSettings :=
  { settings with
    minAddress :=
      if target.os = .windows ∧ settings.minAddress < nuint target.usize (getAllocationGranularity target) then
        nuint target.usize (getAllocationGranularity target)
      else settings.minAddress
    size := UInt32.ofNat
      (BufferAllocatorWindows.Managed.roundUp target.usize (max settings.size 1).toNat (getAllocationGranularity target)) }

theorem sanitize_eq {target : Target} (booted : target.Booted) (settings : BufferAllocatorSettings) :
    sanitize target settings = settings.sanitize target := by
  have wide := target.u32_le_usize
  have same := @BufferAllocatorWindows.Managed.nuint_ofNat target.usize _ booted.small (by omega)
  simp only [sanitize, BufferAllocatorSettings.sanitize, BufferAllocatorWindows.Managed.roundUp,
    BufferAllocatorWindows.Managed.getAllocationGranularity, same]

end BufferAllocatorSettings.Managed

namespace BufferAllocator.Managed

/-- The loop over the candidates. A failed request is skipped, an answer elsewhere is
given back. -/
def tryCandidates {σ : Type} (failed : Nat) (request : Nat → σ → Nat × σ) (release : Nat → σ → σ) :
    List Nat → σ → Option Nat × σ
  | [], world => (none, world)
  | addr :: rest, world =>
    let (allocated, world) := request addr world
    if allocated = failed then tryCandidates failed request release rest world
    else if allocated ≠ addr then tryCandidates failed request release rest (release allocated world)
    else (some allocated, world)

end BufferAllocator.Managed

namespace BufferAllocatorLinux.Managed

variable {σ : Type} (target : Target) (calls : LinuxCalls σ) (settings : BufferAllocatorSettings)

open BufferAllocatorWindows.Managed (getAllocationGranularity) in
def candidates (entry : MemoryMapEntry) : List Nat :=
  BufferAllocatorWindows.Managed.getPossibleBufferAddresses target.usize settings.minAddress settings.maxAddress
    entry.startAddress entry.endAddress settings.size.toNat (getAllocationGranularity target)

def tryAllocateBuffer (entry : MemoryMapEntry) (world : σ) : Option LocatorItem × σ :=
  let (allocated, world) := BufferAllocator.Managed.tryCandidates (mapFailed target.usize)
    (calls.mmap · settings.size.toNat) (calls.munmap · settings.size.toNat) (candidates target settings entry) world
  (allocated.map (LocatorItem.new · settings.size), world)

/-- The loop over the free regions, which ends behind the highest address asked for. -/
def tryRegions : List MemoryMapEntry → σ → Option LocatorItem × σ
  | [], world => (none, world)
  | region :: rest, world =>
    if region.startAddress > settings.maxAddress then (none, world)
    else
      match tryAllocateBuffer target calls settings region world with
      | (some item, world) => (some item, world)
      | (none, world) => tryRegions rest world

def walkRegions (world : σ) : Option (Option LocatorItem × σ) :=
  (calls.memoryMap settings.targetProcessId world).map fun (regions, world) =>
    tryRegions target calls settings (getFreeRegions target regions) world

def allocateLinux (world : σ) : Option (Option LocatorItem × σ) :=
  retry (walkRegions target calls settings) settings.retries world

end BufferAllocatorLinux.Managed

namespace BufferAllocatorWindows.Managed

variable {σ : Type} (target : Target) (k32 : WindowsCalls σ) (settings : BufferAllocatorSettings)

/-- `VirtualFree` is given a size of zero here. -/
def tryAllocateBuffer (pageInfo : MemoryBasicInformation) (world : σ) : Option LocatorItem × σ :=
  if !pageInfo.isFree then (none, world)
  else
    let (allocated, world) := BufferAllocator.Managed.tryCandidates 0 (k32.virtualAlloc · settings.size.toNat)
      (k32.virtualFree · 0) (candidates target settings pageInfo) world
    (allocated.map (LocatorItem.new · settings.size), world)

def walkPages (maxAddress : Nat) (advance : MemoryBasicInformation → Nat) :
    Nat → Nat → σ → Option (Option LocatorItem × σ)
  | 0, _, _ => none
  | fuel + 1, currentAddress, world =>
    if currentAddress ≤ maxAddress then
      match k32.virtualQuery currentAddress world with
      | (none, world) => some (none, world)
      | (some memoryInformation, world) =>
        match tryAllocateBuffer target k32 settings memoryInformation world with
        | (some item, world) => some (some item, world)
        | (none, world) =>
          walkPages maxAddress advance fuel
            (Words.add target.usize currentAddress (advance memoryInformation)) world
    else some (none, world)

def allocateFast (fuel maxAddress : Nat) (world : σ) : Option (Option LocatorItem × σ) :=
  let maxAddress := min maxAddress settings.maxAddress
  let byRegion := walkPages target k32 settings maxAddress (·.regionSize) fuel settings.minAddress
  match retry byRegion settings.retries world with
  | some (none, world) =>
    if settings.bruteForce then
      walkPages target k32 settings maxAddress (fun _ => nuint target.usize (getAllocationGranularity target)) fuel
        settings.minAddress world
    else some (none, world)
  | result => result

/-- Another process is reached through the `Ex` variants of the calls. -/
def allocateWindows (remote : WindowsCalls σ) (fuel : Nat) (world : σ) : Option (Option LocatorItem × σ) :=
  let (maxAddress, world) := getMaxWindowsAddress target k32 settings.targetProcessId world
  if target.sysInfo.thisProcessId = settings.targetProcessId then
    allocateFast target k32 settings fuel maxAddress world
  else allocateFast target remote settings fuel maxAddress world

end BufferAllocatorWindows.Managed

namespace BufferAllocatorOsx.Managed

variable {σ : Type} (target : Target) (calls : MachCalls σ) (settings : BufferAllocatorSettings)

/-- The gaps up to the highest address, all of them. -/
def getFreePages (maxAddress : Nat) : Nat → Nat → σ → Option (List (Nat × Nat) × σ)
  | 0, _, _ => none
  | fuel + 1, currentAddress, world =>
    if currentAddress ≤ maxAddress then
      match calls.machVmRegion currentAddress world with
      | (.invalidAddress, world) =>
        let padding := maxAddress - currentAddress
        some (if padding > 0 then [(currentAddress, padding)] else [], world)
      | (.failure, world) => some ([], world)
      | (.region actualAddress availableSize, world) =>
        let gap :=
          if actualAddress > currentAddress then [(currentAddress, actualAddress - currentAddress)] else []
        (getFreePages maxAddress fuel (Words.add target.usize actualAddress availableSize) world).map
          fun (rest, world) => (gap ++ rest, world)
    else some ([], world)

open BufferAllocatorWindows.Managed (nuint getAllocationGranularity) in
def getBufferPointersInPageRange (pageAddress pageSize : Nat) (bufferSize : Int32) : List Nat :=
  BufferAllocatorWindows.Managed.getPossibleBufferAddresses target.usize settings.minAddress settings.maxAddress
    pageAddress (Words.add target.usize pageAddress pageSize) (nuint target.usize bufferSize)
    (getAllocationGranularity target)

/-- The memory is kept as it comes; it is not made executable. -/
def tryPointers : List Nat → σ → Option LocatorItem × σ
  | [], world => (none, world)
  | addr :: rest, world =>
    match calls.machVmAllocate addr settings.size.toNat world with
    | (none, world) => tryPointers rest world
    | (some allocated, world) => (some (LocatorItem.new allocated settings.size), world)

def tryAllocateBuffer (pageAddress pageSize : Nat) (world : σ) : Option LocatorItem × σ :=
  tryPointers calls settings (getBufferPointersInPageRange target settings pageAddress pageSize settings.size.toInt32)
    world

def tryPages : List (Nat × Nat) → σ → Option LocatorItem × σ
  | [], world => (none, world)
  | (addr, size) :: rest, world =>
    match tryAllocateBuffer target calls settings addr size world with
    | (some item, world) => (some item, world)
    | (none, world) => tryPages rest world

def walkPages (maxAddress fuel : Nat) (world : σ) : Option (Option LocatorItem × σ) :=
  (getFreePages target calls maxAddress fuel settings.minAddress world).map fun (pages, world) =>
    tryPages target calls settings pages world

def allocateOsx (fuel : Nat) (world : σ) : Option (Option LocatorItem × σ) :=
  retry (walkPages target calls settings (min target.sysInfo.maxAddress settings.maxAddress) fuel) settings.retries world

end BufferAllocatorOsx.Managed

/-- What the C# library calls besides: the calls that reach other processes, and
`Memory.Instance.Allocate`, which gives an address with a length, or throws. -/
structure ManagedOs (σ : Type) where
  os : Os σ
  remote : WindowsCalls σ
  allocate : Nat → σ → Option (Nat × Nat) × σ

namespace BufferAllocator.Managed

variable {σ : Type}

/-- An item, or the exception at the end of the back end's own loop. -/
def thrown (settings : BufferAllocatorSettings) :
    Option (Option LocatorItem × σ) → Option (Except ManagedException LocatorItem × σ)
  | none => none
  | some (some item, world) => some (.ok item, world)
  | some (none, world) =>
    some (.error (.memoryBufferAllocation settings.minAddress settings.maxAddress settings.size.toInt32), world)

def allocate (target : Target) (os : ManagedOs σ) (fuel : Nat) (settings : BufferAllocatorSettings) (world : σ) :
    Option (Except ManagedException LocatorItem × σ) :=
  let settings := BufferAllocatorSettings.Managed.sanitize target settings
  match target.os with
  | .windows =>
    thrown settings (BufferAllocatorWindows.Managed.allocateWindows target os.os.windows settings os.remote fuel world)
  | .linux =>
    if settings.targetProcessId ≠ target.sysInfo.thisProcessId then
      some (.error (.platformNotSupported "Allocating memory in external process is not supported on this platform."),
        world)
    else thrown settings (BufferAllocatorLinux.Managed.allocateLinux target os.os.linux settings world)
  | .macos =>
    if settings.targetProcessId ≠ target.sysInfo.thisProcessId then
      some (.error (.platformNotSupported "Allocating memory in external process is not supported on this platform."),
        world)
    else thrown settings (BufferAllocatorOsx.Managed.allocateOsx target os.os.macos settings fuel world)

end BufferAllocator.Managed

/-! ### The same answers as in Rust -/

/-- An answer that the two libraries take differently: memory at null, which is a failure
in Rust and none in C#, and memory of `VirtualAlloc` that is not where it was asked for,
of whose release they give different sizes. -/
def SystemCall.Divides : SystemCall → Prop
  | .mmap _ _ answer => answer = 0
  | .virtualAlloc address _ answer => answer ≠ 0 ∧ answer ≠ address
  | _ => False

def Logged.Undivided {σ : Type} (world : Logged σ) : Prop := ∀ call ∈ world.calls, ¬ call.Divides

theorem Logged.Undivided.of_suffix {σ : Type} {earlier later : Logged σ} (undivided : later.Undivided)
    (grows : earlier.calls <:+ later.calls) : earlier.Undivided :=
  fun call member => undivided call (grows.mem member)

section

variable {σ α : Type} {finish : α → σ → σ} {world : Logged σ}

/-- A part of the C# library, on a system that keeps a log, against its counterpart in
Rust on the system itself. Where no answer divides them they return the same, and Rust is
in the state of C# when it has finished with what it returns. -/
structure Agrees (finish : α → σ → σ) (world : Logged σ) (run : α × Logged σ) (other : α × σ) : Prop where
  grows : world.calls <:+ run.2.calls
  same : run.2.Undivided → other = (run.1, finish run.1 run.2.system)

/-- The same for a part that may have no result. -/
structure Follows (finish : α → σ → σ) (world : Logged σ) (run : Option (α × Logged σ)) (other : Option (α × σ)) :
    Prop where
  grows : ∀ result last, run = some (result, last) → world.calls <:+ last.calls
  same : ∀ result last, run = some (result, last) → last.Undivided → other = some (result, finish result last.system)

theorem Follows.none {other : Option (α × σ)} : Follows finish world none other := by
  constructor <;> rintro result last ⟨⟩

theorem Agrees.follows {run : α × Logged σ} {other : α × σ} (agrees : Agrees finish world run other) :
    Follows finish world (some run) (some other) := by
  constructor
  · rintro result last ⟨⟩
    exact agrees.grows
  · rintro result last ⟨⟩ undivided
    rw [agrees.same undivided]

theorem retry_follows {finish : Option α → σ → σ} (nothing : ∀ system, finish none system = system)
    {walk : Logged σ → Option (Option α × Logged σ)} {other : σ → Option (Option α × σ)}
    (once : ∀ world, Follows finish world (walk world) (other world.system)) (count : Nat) (world : Logged σ) :
    Follows finish world (retry walk count world) (retry other count world.system) := by
  induction count generalizing world with
  | zero =>
      constructor
      · rintro result last ⟨⟩
        exact List.suffix_rfl
      · rintro result last ⟨⟩ _
        simp only [retry, nothing]
  | succ count ih =>
      have here := once world
      simp only [retry]
      cases walked : walk world with
      | none => exact .none
      | some outcome =>
          obtain ⟨found, next⟩ := outcome
          have grows := here.grows _ _ walked
          cases found with
          | some found =>
              constructor
              · rintro result last ⟨⟩
                exact grows
              · rintro result last ⟨⟩ undivided
                rw [here.same _ _ walked undivided]
          | none =>
              constructor
              · exact fun result last run => grows.trans ((ih next).grows result last run)
              · intro result last run undivided
                have later := (ih next).same result last run undivided
                rw [here.same _ _ walked (undivided.of_suffix ((ih next).grows result last run)), nothing]
                exact later

end

/-- Nothing is left to be done. -/
def finished {σ α : Type} (_ : α) (system : σ) : σ := system

/-- The two loops over the candidates, for a request whose answer says whether it divides them. -/
theorem BufferAllocator.Managed.tryCandidates_agrees {σ : Type} {failed : Nat} {request : Nat → σ → Nat × σ}
    {release other : Nat → σ → σ} {entry : Nat → Nat → SystemCall} {released : Nat → SystemCall} {candidates : List Nat}
    (failure : ∀ address ∈ candidates, ∀ system, ¬ (entry address failed).Divides →
      (request address system).1 = failed →
        failed = 0 ∨ failed ≠ address ∧ other failed (request address system).2 = (request address system).2)
    (memory : ∀ address ∈ candidates, ∀ answer, ¬ (entry address answer).Divides → answer ≠ failed →
      answer ≠ 0 ∧ (answer ≠ address → release answer = other answer))
    (world : Logged σ) :
    Agrees finished world
      (tryCandidates failed (fun address => Logged.call (request address) (entry address))
        (fun address => Logged.tell (release address) (released address)) candidates world)
      (ReloadedBuffers.tryCandidates request other candidates world.system) := by
  induction candidates generalizing world with
  | nil => exact ⟨List.suffix_rfl, fun _ => rfl⟩
  | cons address rest ih =>
      have later := ih (fun other member => failure other (List.mem_cons_of_mem _ member))
        fun other member => memory other (List.mem_cons_of_mem _ member)
      have failure := failure address List.mem_cons_self world.system
      have memory := memory address List.mem_cons_self
      cases asked : request address world.system with
      | mk answer next =>
          rw [asked] at failure
          have logged : world.calls <:+ entry address answer :: world.calls := List.suffix_cons _ _
          simp only [tryCandidates, ReloadedBuffers.tryCandidates, Logged.call, asked]
          split
          · rename_i refused
            rw [refused] at logged failure ⊢
            have rest := later ⟨next, entry address failed :: world.calls⟩
            refine ⟨logged.trans rest.grows, fun undivided => ?_⟩
            have single := undivided.of_suffix rest.grows (entry address failed) List.mem_cons_self
            rcases failure single rfl with null | ⟨elsewhere, ignored⟩
            · rw [if_pos null]
              exact rest.same undivided
            · by_cases null : failed = 0
              · rw [if_pos null]
                exact rest.same undivided
              · rw [if_neg null, if_pos elsewhere, ignored]
                exact rest.same undivided
          · rename_i accepted
            split
            · rename_i misplaced
              have rest := later (Logged.tell (release answer) (released answer) ⟨next, entry address answer :: world.calls⟩)
              have told : entry address answer :: world.calls <:+ released answer :: entry address answer :: world.calls :=
                List.suffix_cons _ _
              refine ⟨logged.trans (told.trans rest.grows), fun undivided => ?_⟩
              have single := undivided (entry address answer) ((told.trans rest.grows).mem List.mem_cons_self)
              obtain ⟨nonzero, same⟩ := memory answer single accepted
              rw [if_neg nonzero, ← same misplaced]
              exact rest.same undivided
            · rename_i here
              refine ⟨logged, fun undivided => ?_⟩
              have single := undivided (entry address answer) List.mem_cons_self
              rw [if_neg (memory answer single accepted).1]
              rfl

/-- Memory maps hold words, and `MAP_FAILED` is no mapping that could be released. -/
structure LinuxCalls.Answers {σ : Type} (calls : LinuxCalls σ) (usize : Nat) : Prop where
  words : ∀ processId world regions next, calls.memoryMap processId world = some (regions, next) →
    ∀ entry ∈ regions, entry.startAddress < usize ∧ entry.endAddress < usize
  ignored : ∀ size world, calls.munmap (mapFailed usize) size world = world

/-- A process may open itself, which only Rust does, and pages have words for addresses. -/
structure WindowsCalls.Answers {σ : Type} (calls : WindowsCalls σ) (usize : Nat) (thisProcessId : UInt32) : Prop where
  words : ∀ address world info next, calls.virtualQuery address world = (some info, next) → info.baseAddress < usize
  opens : ∀ world, (calls.openProcess thisProcessId world).1 = true

/-- Asking about a region and asking in vain change nothing, and memory that has just been
obtained can be protected, which only Rust does. -/
structure MachCalls.Answers {σ : Type} (calls : MachCalls σ) : Prop where
  queries : ∀ address world, (calls.machVmRegion address world).2 = world
  refused : ∀ address size world next, calls.machVmAllocate address size world = (none, next) → next = world
  protects : ∀ address size world allocated next, calls.machVmAllocate address size world = (some allocated, next) →
    (calls.machVmProtect allocated size next).1 = true

theorem nuint_size {target : Target} {size : UInt32} (small : size.toNat < 2 ^ 31) :
    BufferAllocatorWindows.Managed.nuint target.usize size.toInt32 = size.toNat := by
  have wide := target.u32_le_usize
  have same : size.toInt32 = Int32.ofNat size.toNat := by
    rw [← UInt32.toInt32_ofNat', UInt32.ofNat_toNat]
  rw [same, BufferAllocatorWindows.Managed.nuint_ofNat small (by omega)]

namespace BufferAllocatorLinux.Managed

variable {σ : Type} {target : Target} {calls : LinuxCalls σ} {settings : BufferAllocatorSettings}

theorem candidates_eq (booted : target.Booted) (minimum : settings.minAddress < target.usize) {entry : MemoryMapEntry}
    (start : entry.startAddress < target.usize) :
    candidates target settings entry = BufferAllocatorLinux.candidates target settings entry := by
  have wide := target.u32_le_usize
  rw [candidates, BufferAllocatorWindows.Managed.getPossibleBufferAddresses_eq minimum start,
    BufferAllocatorWindows.Managed.getAllocationGranularity,
    BufferAllocatorWindows.Managed.nuint_ofNat booted.small (by omega), BufferAllocatorLinux.candidates]

theorem tryAllocateBuffer_agrees (answers : calls.Answers target.usize) (booted : target.Booted)
    (minimum : settings.minAddress < target.usize) {entry : MemoryMapEntry} (start : entry.startAddress < target.usize)
    (proper : ∀ address ∈ BufferAllocatorLinux.candidates target settings entry, address ≠ mapFailed target.usize)
    (world : Logged σ) : Agrees finished world (tryAllocateBuffer target calls.logged settings entry world)
      (BufferAllocatorLinux.tryAllocateBuffer target calls settings entry world.system) := by
  have loop := @BufferAllocator.Managed.tryCandidates_agrees σ (mapFailed target.usize) (calls.mmap · settings.size.toNat)
    (calls.munmap · settings.size.toNat) (calls.munmap · settings.size.toNat) (.mmap · settings.size.toNat)
    (.munmap · settings.size.toNat) (BufferAllocatorLinux.candidates target settings entry)
    (fun address member system _ _ => .inr ⟨(proper address member).symm, answers.ignored _ _⟩)
    (fun address _ answer undivided _ => ⟨undivided, fun _ => rfl⟩) world
  simp only [tryAllocateBuffer, BufferAllocatorLinux.tryAllocateBuffer, candidates_eq booted minimum start]
  refine ⟨loop.grows, fun undivided => ?_⟩
  rw [loop.same undivided]
  rfl

theorem tryRegions_agrees {regions : List MemoryMapEntry}
    (each : ∀ region ∈ regions, ∀ world, Agrees finished world (tryAllocateBuffer target calls.logged settings region world)
      (BufferAllocatorLinux.tryAllocateBuffer target calls settings region world.system)) (world : Logged σ) :
    Agrees finished world (tryRegions target calls.logged settings regions world)
      (BufferAllocatorLinux.tryRegions target calls settings regions world.system) := by
  induction regions generalizing world with
  | nil => exact ⟨List.suffix_rfl, fun _ => rfl⟩
  | cons region rest ih =>
      have here := each region List.mem_cons_self world
      simp only [tryRegions, BufferAllocatorLinux.tryRegions]
      split
      · exact ⟨List.suffix_rfl, fun _ => rfl⟩
      · cases tried : tryAllocateBuffer target calls.logged settings region world with
        | mk found next =>
            rw [tried] at here
            cases found with
            | some item =>
                refine ⟨here.grows, fun undivided => ?_⟩
                rw [here.same undivided]
            | none =>
                have later := ih (fun next member => each next (List.mem_cons_of_mem _ member)) next
                refine ⟨here.grows.trans later.grows, fun undivided => ?_⟩
                rw [here.same (undivided.of_suffix later.grows)]
                exact later.same undivided

theorem walkRegions_follows (answers : calls.Answers target.usize) (booted : target.Booted) (tells : target.TellsFailure)
    (posix : target.os ≠ .windows) (minimum : settings.minAddress < target.usize)
    (maximum : settings.maxAddress < target.usize) (world : Logged σ) :
    Follows finished world (walkRegions target calls.logged settings world)
      (BufferAllocatorLinux.walkRegions target calls settings world.system) := by
  simp only [walkRegions, BufferAllocatorLinux.walkRegions, LinuxCalls.logged, Logged.ask]
  cases read : calls.memoryMap settings.targetProcessId world.system with
  | none => exact .none
  | some reading =>
      obtain ⟨regions, next⟩ := reading
      have words := answers.words _ _ _ _ read
      have walked := @tryRegions_agrees _ target calls settings (getFreeRegions target regions) (fun region member => by
        have start := (freeRegionsFrom_bounds (Nat.sub_le _ _) (booted.maxAddress_word posix) words target.usize_pos
          member).1
        refine tryAllocateBuffer_agrees answers booted minimum start fun address listed => ?_
        exact BufferAllocatorLinux.candidate_ne_mapFailed booted tells (booted.maxAddress_lt · posix)
          (booted.maxAddress_word posix) minimum maximum words member listed)
        ⟨next, .memoryMap regions :: world.calls⟩
      have logged : world.calls <:+ SystemCall.memoryMap regions :: world.calls := List.suffix_cons _ _
      exact Agrees.follows ⟨logged.trans walked.grows, walked.same⟩

theorem allocateLinux_follows (answers : calls.Answers target.usize) (booted : target.Booted) (tells : target.TellsFailure)
    (posix : target.os ≠ .windows) (minimum : settings.minAddress < target.usize)
    (maximum : settings.maxAddress < target.usize) (world : Logged σ) :
    Follows finished world (allocateLinux target calls.logged settings world)
      (ReloadedBuffers.allocateLinux target calls settings world.system) :=
  retry_follows (fun _ => rfl) (walkRegions_follows answers booted tells posix minimum maximum) _ world

end BufferAllocatorLinux.Managed

namespace BufferAllocatorWindows.Managed

variable {σ : Type} {target : Target} {calls : WindowsCalls σ} {settings : BufferAllocatorSettings}

theorem tryAllocateBuffer_agrees (booted : target.Booted) (minimum : settings.minAddress < target.usize)
    (small : settings.size.toNat < 2 ^ 31) {pageInfo : MemoryBasicInformation}
    (base : pageInfo.baseAddress < target.usize) (world : Logged σ) :
    Agrees finished world (tryAllocateBuffer target calls.logged settings pageInfo world)
      (BufferAllocatorWindows.tryAllocateBuffer target calls settings pageInfo world.system) := by
  have same : candidates target settings pageInfo =
      BufferAllocatorWindows.getBufferPointersInPageRange target settings pageInfo := by
    rw [candidates_eq booted.small minimum base, nuint_size small, BufferAllocatorWindows.getBufferPointersInPageRange]
  have loop := @BufferAllocator.Managed.tryCandidates_agrees σ 0 (calls.virtualAlloc · settings.size.toNat)
    (calls.virtualFree · 0) (calls.virtualFree · settings.size.toNat) (.virtualAlloc · settings.size.toNat)
    (.virtualFree · 0) (BufferAllocatorWindows.getBufferPointersInPageRange target settings pageInfo)
    (fun _ _ _ _ _ => .inl rfl)
    (fun address _ answer undivided accepted => ⟨accepted, fun misplaced => absurd ⟨accepted, misplaced⟩ undivided⟩) world
  simp only [tryAllocateBuffer, BufferAllocatorWindows.tryAllocateBuffer, same]
  split
  · exact ⟨List.suffix_rfl, fun _ => rfl⟩
  · refine ⟨loop.grows, fun undivided => ?_⟩
    rw [loop.same undivided]
    rfl

theorem walkPages_follows (answers : calls.Answers target.usize target.sysInfo.thisProcessId)
    (booted : target.Booted) (minimum : settings.minAddress < target.usize) (small : settings.size.toNat < 2 ^ 31)
    (maxAddress : Nat) (advance : MemoryBasicInformation → Nat) (fuel currentAddress : Nat) (world : Logged σ) :
    Follows finished world (walkPages target calls.logged settings maxAddress advance fuel currentAddress world)
      (BufferAllocatorWindows.walkPages target calls settings maxAddress advance fuel currentAddress world.system) := by
  induction fuel generalizing currentAddress world with
  | zero => exact .none
  | succ fuel ih =>
      have queried : world.calls <:+ (calls.logged.virtualQuery currentAddress world).2.calls := List.suffix_cons _ _
      have answer : (calls.logged.virtualQuery currentAddress world).1 = (calls.virtualQuery currentAddress world.system).1 ∧
          (calls.logged.virtualQuery currentAddress world).2.system = (calls.virtualQuery currentAddress world.system).2 :=
        ⟨rfl, rfl⟩
      simp only [walkPages, BufferAllocatorWindows.walkPages]
      split
      · cases asked : calls.logged.virtualQuery currentAddress world with
        | mk found next =>
            rw [asked] at queried answer
            have unlogged : calls.virtualQuery currentAddress world.system = (found, next.system) :=
              Prod.ext answer.1.symm answer.2.symm
            simp only [unlogged]
            cases found with
            | none => exact Agrees.follows ⟨queried, fun _ => rfl⟩
            | some info =>
                have here := @tryAllocateBuffer_agrees _ target calls settings booted minimum small info
                  (answers.words _ _ _ _ unlogged) next
                simp only
                cases tried : tryAllocateBuffer target calls.logged settings info next with
                | mk found after =>
                    rw [tried] at here
                    cases found with
                    | some item =>
                        constructor
                        · rintro result last ⟨⟩
                          exact queried.trans here.grows
                        · rintro result last ⟨⟩ undivided
                          rw [here.same undivided]
                    | none =>
                        have later := ih (Words.add target.usize currentAddress (advance info)) after
                        constructor
                        · exact fun result last run => queried.trans (here.grows.trans (later.grows result last run))
                        · intro result last run undivided
                          rw [here.same (undivided.of_suffix (later.grows result last run))]
                          exact later.same result last run undivided
      · exact Agrees.follows ⟨List.suffix_rfl, fun _ => rfl⟩

theorem allocateFast_follows (answers : calls.Answers target.usize target.sysInfo.thisProcessId)
    (booted : target.Booted) (minimum : settings.minAddress < target.usize) (small : settings.size.toNat < 2 ^ 31)
    (fuel maxAddress : Nat) (world : Logged σ) :
    Follows finished world (allocateFast target calls.logged settings fuel maxAddress world)
      (BufferAllocatorWindows.allocateFast target calls settings fuel maxAddress world.system) := by
  have wide := target.u32_le_usize
  have granularity : nuint target.usize (getAllocationGranularity target) = target.granularity :=
    nuint_ofNat booted.small (by omega)
  have retried := retry_follows (fun _ => rfl) (walkPages_follows answers booted minimum small
    (min maxAddress settings.maxAddress) (·.regionSize) fuel settings.minAddress) settings.retries world
  simp only [allocateFast, BufferAllocatorWindows.allocateFast, granularity]
  cases first : retry (walkPages target calls.logged settings (min maxAddress settings.maxAddress) (·.regionSize) fuel
      settings.minAddress) settings.retries world with
  | none => exact .none
  | some outcome =>
      obtain ⟨found, next⟩ := outcome
      have grows := retried.grows _ _ first
      cases found with
      | some item =>
          constructor
          · rintro result last ⟨⟩
            exact grows
          · rintro result last ⟨⟩ undivided
            rw [retried.same _ _ first undivided]
      | none =>
          simp only
          split
          · have later := walkPages_follows answers booted minimum small (min maxAddress settings.maxAddress)
              (fun _ => target.granularity) fuel settings.minAddress next
            constructor
            · exact fun result last run => grows.trans (later.grows result last run)
            · intro result last run undivided
              rw [retried.same _ _ first (undivided.of_suffix (later.grows result last run))]
              exact later.same result last run undivided
          · constructor
            · rintro result last ⟨⟩
              exact grows
            · rintro result last ⟨⟩ undivided
              rw [retried.same _ _ first undivided]

end BufferAllocatorWindows.Managed

namespace BufferAllocatorOsx.Managed

variable {σ : Type} {target : Target} {calls : MachCalls σ} {settings : BufferAllocatorSettings}

/-- What Rust does besides with memory that it has obtained: it protects it. -/
def protectAfter (calls : MachCalls σ) : Option LocatorItem → σ → σ
  | none, system => system
  | some item, system => (calls.machVmProtect item.baseAddress item.size.toNat system).2

/-- The attempts in Rust are those in C#, and the ones in vain leave nothing behind. -/
structure Attempts (calls : MachCalls σ) (world : Logged σ) (run : Option LocatorItem × Logged σ)
    (other : Option LocatorItem × σ) : Prop where
  grows : world.calls <:+ run.2.calls
  same : other = (run.1, protectAfter calls run.1 run.2.system)
  inVain : run.1 = none → run.2.system = world.system

theorem tryPointers_attempts (answers : calls.Answers) (pointers : List Nat) (world : Logged σ) :
    Attempts calls world (tryPointers calls.logged settings pointers world)
      (BufferAllocatorOsx.tryPointers calls settings pointers world.system) := by
  induction pointers generalizing world with
  | nil => exact ⟨List.suffix_rfl, rfl, fun _ => rfl⟩
  | cons address rest ih =>
      simp only [tryPointers, BufferAllocatorOsx.tryPointers, MachCalls.logged, Logged.call]
      cases asked : calls.machVmAllocate address settings.size.toNat world.system with
      | mk answer next =>
          have logged : world.calls <:+ SystemCall.machVmAllocate address settings.size.toNat answer :: world.calls :=
            List.suffix_cons _ _
          cases answer with
          | none =>
              cases answers.refused _ _ _ _ asked
              have later := ih ⟨world.system, .machVmAllocate address settings.size.toNat none :: world.calls⟩
              exact ⟨logged.trans later.grows, later.same, later.inVain⟩
          | some allocated =>
              refine ⟨logged, ?_, fun nothing => by cases nothing⟩
              have permitted := answers.protects _ _ _ _ _ asked
              cases protects : calls.machVmProtect allocated settings.size.toNat next with
              | mk answer after =>
                  rw [protects] at permitted
                  cases permitted
                  simp only [protectAfter, LocatorItem.new, protects]

theorem tryAllocateBuffer_attempts (answers : calls.Answers) (booted : target.Booted)
    (minimum : settings.minAddress < target.usize) (small : settings.size.toNat < 2 ^ 31) {pageAddress : Nat}
    (start : pageAddress < target.usize) (pageSize : Nat) (world : Logged σ) :
    Attempts calls world (tryAllocateBuffer target calls.logged settings pageAddress pageSize world)
      (BufferAllocatorOsx.tryAllocateBuffer target calls settings pageAddress pageSize world.system) := by
  have wide := target.u32_le_usize
  have same : getBufferPointersInPageRange target settings pageAddress pageSize settings.size.toInt32 =
      BufferAllocatorOsx.getBufferPointersInPageRange target settings pageAddress pageSize := by
    rw [getBufferPointersInPageRange, BufferAllocatorWindows.Managed.getPossibleBufferAddresses_eq minimum start,
      nuint_size small, BufferAllocatorWindows.Managed.getAllocationGranularity,
      BufferAllocatorWindows.Managed.nuint_ofNat booted.small (by omega),
      BufferAllocatorOsx.getBufferPointersInPageRange]
  simp only [tryAllocateBuffer, BufferAllocatorOsx.tryAllocateBuffer, same]
  exact tryPointers_attempts answers _ world

/-- A gap before other gaps: what is left of the search is left to them. -/
theorem tryPages_cons {pageAddress pageSize : Nat} {rest : List (Nat × Nat)} {world : Logged σ}
    {here : Option LocatorItem × σ} (later : σ → Option (Option LocatorItem × σ)) :
    Attempts calls world (tryAllocateBuffer target calls.logged settings pageAddress pageSize world) here →
    (∀ next : Logged σ, next.system = world.system →
      Follows (protectAfter calls) next (some (tryPages target calls.logged settings rest next)) (later world.system)) →
    Follows (protectAfter calls) world
      (some (tryPages target calls.logged settings ((pageAddress, pageSize) :: rest) world))
      (match here with
        | (some item, system) => some (some item, system)
        | (none, system) => later system) := by
  intro tried follows
  simp only [tryPages]
  cases attempt : tryAllocateBuffer target calls.logged settings pageAddress pageSize world with
  | mk found next =>
      rw [attempt] at tried
      cases tried.same
      cases found with
      | some item =>
          constructor
          · rintro result last ⟨⟩
            exact tried.grows
          · rintro result last ⟨⟩ _
            rfl
      | none =>
          have still := tried.inVain rfl
          have rest := follows next still
          simp only [protectAfter] at still ⊢
          rw [still]
          exact ⟨fun result last run => tried.grows.trans (rest.grows result last run), rest.same⟩

/-- Listing the gaps first and trying them afterwards is trying each as it is found: a gap in
which nothing is obtained is passed without a change. -/
theorem getFreePages_follows (answers : calls.Answers) (booted : target.Booted)
    (minimum : settings.minAddress < target.usize) (small : settings.size.toNat < 2 ^ 31) {maxAddress fuel : Nat}
    {currentAddress : Nat} (word : currentAddress < target.usize) {pages : List (Nat × Nat)} {world last : Logged σ}
    (listed : getFreePages target calls.logged maxAddress fuel currentAddress world = some (pages, last)) :
    world.calls <:+ last.calls ∧ last.system = world.system ∧ ∀ start : Logged σ, start.system = world.system →
      Follows (protectAfter calls) start (some (tryPages target calls.logged settings pages start))
        (BufferAllocatorOsx.walkRegions target calls settings maxAddress fuel currentAddress world.system) := by
  induction fuel generalizing currentAddress pages world last with
  | zero => cases listed
  | succ fuel ih =>
      have still := answers.queries currentAddress world.system
      have nothing : ∀ start : Logged σ, start.system = world.system →
          Follows (protectAfter calls) start (some (tryPages target calls.logged settings [] start))
            (some (none, world.system)) := by
        intro start here
        constructor
        · rintro result last ⟨⟩
          exact List.suffix_rfl
        · rintro result last ⟨⟩ _
          rw [protectAfter, here]
      simp only [getFreePages] at listed
      simp only [BufferAllocatorOsx.walkRegions]
      split at listed
      · rename_i inside
        rw [if_pos inside]
        simp only [MachCalls.logged, Logged.call] at listed
        cases asked : calls.machVmRegion currentAddress world.system with
        | mk reply next =>
            have logged : world.calls <:+ SystemCall.machVmRegion currentAddress reply :: world.calls :=
              List.suffix_cons _ _
            rw [asked] at still listed
            simp only at still listed ⊢
            subst still
            cases reply with
            | invalidAddress =>
                cases listed
                refine ⟨logged, rfl, fun start here => ?_⟩
                by_cases gap : maxAddress - currentAddress > 0
                · have tried := tryAllocateBuffer_attempts answers booted minimum small word
                    (maxAddress - currentAddress) start
                  rw [here] at tried
                  simp only [if_pos gap]
                  have single := tryPages_cons (fun system => some (none, system)) tried (by rw [here]; exact nothing)
                  cases attempt : BufferAllocatorOsx.tryAllocateBuffer target calls settings currentAddress
                      (maxAddress - currentAddress) world.system with
                  | mk found after =>
                      rw [attempt] at single
                      cases found <;> exact single
                · simp only [if_neg gap]
                  exact nothing start here
            | failure =>
                cases listed
                exact ⟨logged, rfl, nothing⟩
            | region actualAddress availableSize =>
                obtain ⟨⟨rest, after⟩, remaining, joined⟩ := Option.map_eq_some_iff.mp listed
                obtain ⟨grows, unchanged, walked⟩ := ih (Nat.mod_lt _ target.usize_pos) remaining
                cases joined
                refine ⟨logged.trans grows, unchanged, fun start here => ?_⟩
                by_cases gap : actualAddress > currentAddress
                · have tried := tryAllocateBuffer_attempts answers booted minimum small word
                    (actualAddress - currentAddress) start
                  rw [here] at tried
                  simp only [if_pos gap, List.cons_append, List.nil_append]
                  exact tryPages_cons _ tried (by rw [here]; exact walked)
                · simp only [if_neg gap, List.nil_append]
                  exact walked start here
      · rename_i outside
        cases listed
        rw [if_neg outside]
        exact ⟨List.suffix_rfl, rfl, nothing⟩

theorem walkPages_follows (answers : calls.Answers) (booted : target.Booted)
    (minimum : settings.minAddress < target.usize) (small : settings.size.toNat < 2 ^ 31) (maxAddress fuel : Nat)
    (world : Logged σ) :
    Follows (protectAfter calls) world (walkPages target calls.logged settings maxAddress fuel world)
      (BufferAllocatorOsx.walkRegions target calls settings maxAddress fuel settings.minAddress world.system) := by
  simp only [walkPages]
  cases listed : getFreePages target calls.logged maxAddress fuel settings.minAddress world with
  | none => exact .none
  | some outcome =>
      obtain ⟨pages, last⟩ := outcome
      obtain ⟨grows, still, walked⟩ := getFreePages_follows answers booted minimum small minimum listed
      have tried := walked last still
      exact ⟨fun result final run => grows.trans (tried.grows result final run), tried.same⟩

theorem allocateOsx_follows (answers : calls.Answers) (booted : target.Booted)
    (minimum : settings.minAddress < target.usize) (small : settings.size.toNat < 2 ^ 31) (fuel : Nat)
    (world : Logged σ) :
    Follows (protectAfter calls) world (allocateOsx target calls.logged settings fuel world)
      (ReloadedBuffers.allocateOsx target calls fuel settings world.system) :=
  retry_follows (fun _ => rfl) (walkPages_follows answers booted minimum small _ fuel) _ world

end BufferAllocatorOsx.Managed

/-- The log says nothing of `Memory.Instance.Allocate`. -/
def ManagedOs.logged {σ : Type} (os : ManagedOs σ) : ManagedOs (Logged σ) where
  os := os.os.logged
  remote := os.remote.logged
  allocate size world := ((os.allocate size world.system).1, ⟨(os.allocate size world.system).2, world.calls⟩)

/-- What the platform of the target promises beyond its contract. -/
def ManagedOs.Answers {σ : Type} (os : ManagedOs σ) (target : Target) : Prop :=
  match target.os with
  | .linux => os.os.linux.Answers target.usize
  | .windows => os.os.windows.Answers target.usize target.sysInfo.thisProcessId
  | .macos => os.os.macos.Answers

/-- The same item, or an exception and an error about the same request. -/
def SameAllocation : Except ManagedException LocatorItem → Except BufferAllocationError LocatorItem → Prop
  | .ok item, .ok other => item = other
  | .error (.memoryBufferAllocation start stop size), .error error =>
    start = error.settings.minAddress ∧ stop = error.settings.maxAddress ∧ size = error.settings.size.toInt32
  | _, _ => False

namespace BufferAllocator.Managed

variable {σ : Type} {target : Target} {os : ManagedOs σ} {settings : BufferAllocatorSettings}

theorem thrown_cases {searched : Option (Option LocatorItem × σ)} {last : σ}
    {result : Except ManagedException LocatorItem} (run : thrown settings searched = some (result, last)) :
    (∃ item, searched = some (some item, last) ∧ result = .ok item) ∨
      searched = some (none, last) ∧
        result = .error (.memoryBufferAllocation settings.minAddress settings.maxAddress settings.size.toInt32) := by
  cases searched with
  | none => cases run
  | some outcome =>
      obtain ⟨found, after⟩ := outcome
      cases found with
      | some item =>
          cases run
          exact .inl ⟨item, rfl, rfl⟩
      | none =>
          cases run
          exact .inr ⟨rfl, rfl⟩

/-- Where Rust begins when C# is asked: on Windows it opens its own process first. -/
def opened (target : Target) (os : Os σ) (system : σ) : σ :=
  match target.os with
  | .windows => (os.windows.openProcess target.sysInfo.thisProcessId system).2
  | _ => system

/-- Where Rust ends when C# has come to an end: on macOS it makes what it returns executable. -/
def protectedAfter (target : Target) (os : Os σ) : Except ManagedException LocatorItem → σ → σ
  | .ok item, system =>
    match target.os with
    | .macos => BufferAllocatorOsx.Managed.protectAfter os.macos (some item) system
    | _ => system
  | .error _, system => system

/-- In its own process, either library gets the same memory in the same steps, up to the
calls that only Rust makes at the beginning and at the end, as long as no answer divides them. -/
theorem allocate_agrees (answers : os.Answers target) (booted : target.Booted) (tells : target.TellsFailure)
    (own : settings.targetProcessId = target.sysInfo.thisProcessId) (minimum : settings.minAddress < target.usize)
    (maximum : settings.maxAddress < target.usize)
    (small : target.os = .linux ∨ (settings.sanitize target).size.toNat < 2 ^ 31) {fuel : Nat} {system : σ}
    {last : Logged σ} {result : Except ManagedException LocatorItem}
    (run : allocate target os.logged fuel settings ⟨opened target os.os system, []⟩ = some (result, last))
    (undivided : ∀ call ∈ last.calls, ¬ call.Divides) :
    ∃ other, ReloadedBuffers.allocate target os.os fuel settings system =
        some (other, protectedAfter target os.os result last.system) ∧ SameAllocation result other := by
  have lower := BufferAllocatorSettings.sanitize_minAddress_lt target minimum booted.granularity_lt
  have process : (settings.sanitize target).targetProcessId = target.sysInfo.thisProcessId := own
  simp only [allocate, BufferAllocatorSettings.Managed.sanitize_eq booted, process, opened] at run
  simp only [ReloadedBuffers.allocate, protectedAfter]
  unfold ManagedOs.Answers at answers
  cases platform : target.os with
  | linux =>
      simp only [platform, ne_eq, not_true_eq_false, if_false] at run answers ⊢
      have same := BufferAllocatorLinux.Managed.allocateLinux_follows answers booted tells (by simp [platform]) lower
        maximum ⟨system, []⟩
      rcases thrown_cases run with ⟨item, found, rfl⟩ | ⟨missed, rfl⟩
      · exact ⟨.ok item, by rw [same.same _ _ found undivided]; rfl, rfl⟩
      · exact ⟨.error _, by rw [same.same _ _ missed undivided]; rfl, rfl, rfl, rfl⟩
  | windows =>
      have size := small.resolve_left (by simp [platform])
      simp only [platform] at run answers ⊢
      simp only [BufferAllocatorWindows.Managed.allocateWindows, BufferAllocatorWindows.getMaxWindowsAddress, process,
        if_true] at run
      have allowed := answers.opens system
      cases opening : os.os.windows.openProcess target.sysInfo.thisProcessId system with
      | mk answer next =>
          rw [opening] at allowed run
          cases allowed
          have same := BufferAllocatorWindows.Managed.allocateFast_follows answers booted lower size fuel
            target.sysInfo.maxAddress ⟨next, []⟩
          simp only [allocateWindows, process, opening, BufferAllocatorWindows.getMaxWindowsAddress, if_true]
          rcases thrown_cases run with ⟨item, found, rfl⟩ | ⟨missed, rfl⟩
          · exact ⟨.ok item, by rw [same.same _ _ found undivided]; rfl, rfl⟩
          · exact ⟨.error _, by rw [same.same _ _ missed undivided]; rfl, rfl, rfl, rfl⟩
  | macos =>
      have size := small.resolve_left (by simp [platform])
      simp only [platform, ne_eq, not_true_eq_false, if_false] at run answers ⊢
      have same := BufferAllocatorOsx.Managed.allocateOsx_follows answers booted lower size fuel ⟨system, []⟩
      rcases thrown_cases run with ⟨item, found, rfl⟩ | ⟨missed, rfl⟩
      · exact ⟨.ok item, by rw [same.same _ _ found undivided], rfl⟩
      · exact ⟨.error _, by rw [same.same _ _ missed undivided]; rfl, rfl, rfl, rfl⟩

end BufferAllocator.Managed

end ReloadedBuffers
