import ReloadedBuffers.Internal.Allocate
import ReloadedBuffers.Internal.MapsFile
import ReloadedBuffers.Internal.Postcondition
import ReloadedBuffers.Structs.Carving

/-! The Linux back end over the maps file itself, under a kernel that promises nothing
about a request for pages which are mapped already: it may replace them, as one without
`MAP_FIXED_NOREPLACE` does. No such request is made.
-/

set_option autoImplicit false

namespace ReloadedBuffers

open LinuxMapParser

/-- The calls of the Linux back end. -/
structure MapsKernel (σ : Type) where
  files : FileCalls σ
  mmap : Nat → Nat → σ → Nat × σ
  munmap : Nat → Nat → σ → σ

namespace MapsKernel

variable {σ : Type}

/-- The memory map is parsed from the file; a process that cannot read it panics. `fuel` is
more than the length of its text. -/
def linux (kernel : MapsKernel σ) (target : Target) (reserve : Nat → Nat → Nat → Nat) (fuel : σ → Nat) : LinuxCalls σ where
  memoryMap processId world :=
    match parseMemoryMapFromProcessId target reserve kernel.files (fuel world) processId.toInt32 world with
    | some (.ok regions, world) => some (regions, world)
    | some (.error _, _) => none
    | none => none
  mmap := kernel.mmap
  munmap := kernel.munmap

/-- The addresses at which something is mapped. -/
def mapped (mappings : List LinuxMapParser.Mapping) : Set Nat := {address | ∃ mapping ∈ mappings, mapping.entry.Maps address}

/-- The maps file can be opened at any time, and it prints what is mapped; it is read to its
end in parts smaller than the buffer, and reading it changes no mapping. A request for
pages at which nothing is mapped is served there, though never at the address zero, or is
as if it had not been made once what it obtained elsewhere is given back. -/
structure Honest (kernel : MapsKernel σ) (target : Target) (fuel : σ → Nat) (mappings : σ → List LinuxMapParser.Mapping)
    (rest : Int32 → σ → List UInt8) : Prop where
  printable : ∀ world, ∀ mapping ∈ mappings world, mapping.Printable target.usize
  sorted : ∀ world, SortedMap target.usize ((mappings world).map LinuxMapParser.Mapping.entry)
  opens : ∀ world, ∃ file start,
    kernel.files.openReadOnly (mapsPath target.sysInfo.thisProcessId.toInt32) world = (some file, start) ∧
    mappings start = mappings world ∧ characters (rest file start) = LinuxMapParser.Mapping.print (mappings world) ∧
    (rest file start).length < fuel world
  delivers : ∀ file, kernel.files.Delivers file (rest file)
  short : ∀ file, kernel.files.Short file
  reads : ∀ file count world, mappings (kernel.files.read file count world).2 = mappings world
  closes : ∀ file world, mappings (kernel.files.close file world) = mappings world
  serves : ∀ address length world, target.granularity ∣ address →
    Disjoint (Words.extent address length) (mapped (mappings world)) →
    (kernel.mmap address length world).1 = address ∧ 0 < address ∧
        mapped (mappings (kernel.mmap address length world).2) = mapped (mappings world) ∪ Words.extent address length ∨
      (kernel.mmap address length world).1 ≠ address ∧
        ((kernel.mmap address length world).1 = 0 →
          mapped (mappings (kernel.mmap address length world).2) = mapped (mappings world)) ∧
        mapped (mappings (kernel.munmap (kernel.mmap address length world).1 length (kernel.mmap address length world).2)) =
          mapped (mappings world)

end MapsKernel

namespace LinuxMapParser

variable {σ α : Type}

/-- What reading and closing leave alone is left alone by the loop. -/
theorem readLoop_keeps {reserve : Nat → Nat → Nat → Nat} {calls : FileCalls σ} {file : Int32} (keep : σ → α)
    (reads : ∀ count world, keep (calls.read file count world).2 = keep world)
    (closes : ∀ world, keep (calls.close file world) = keep world) {fuel : Nat} {reading : Reading σ}
    {result : Except String (List UInt8)} {last : σ}
    (run : readLoop reserve calls file fuel reading = some (result, last)) : keep last = keep reading.world := by
  induction fuel generalizing reading with
  | zero => cases run
  | succ fuel ih =>
      have asked := reads reading.remainingCapacity reading.world
      rw [readLoop, Reading.next] at run
      rcases answer : calls.read file reading.remainingCapacity reading.world with ⟨bytes, world⟩
      rw [answer] at asked run
      cases bytes with
      | none =>
          cases run
          exact (closes world).trans asked
      | some bytes =>
          dsimp only at run
          by_cases ended : bytes.length = 0
          · rw [if_pos ended] at run
            cases run
            exact (closes world).trans asked
          · rw [if_neg ended] at run
            exact (ih run).trans asked

theorem parseMemoryMapFromProcessId_keeps {target : Target} {reserve : Nat → Nat → Nat → Nat} {calls : FileCalls σ}
    {file : Int32} (keep : σ → α) (reads : ∀ count world, keep (calls.read file count world).2 = keep world)
    (closes : ∀ world, keep (calls.close file world) = keep world) {processId : Int32} {world start last : σ}
    (opened : calls.openReadOnly (mapsPath processId) world = (some file, start)) {fuel : Nat}
    {regions : List MemoryMapEntry}
    (run : parseMemoryMapFromProcessId target reserve calls fuel processId world = some (.ok regions, last)) :
    keep last = keep start := by
  rw [parseMemoryMapFromProcessId, readToString, opened] at run
  dsimp only at run
  split at run
  · cases run
  · cases run
  · rename_i text world read
    cases run
    exact readLoop_keeps keep reads closes read

end LinuxMapParser

namespace MapsKernel

variable {σ : Type} {kernel : MapsKernel σ} {target : Target} {reserve : Nat → Nat → Nat → Nat} {fuel : σ → Nat}
  {mappings : σ → List LinuxMapParser.Mapping} {rest : Int32 → σ → List UInt8} {settings : BufferAllocatorSettings}

theorem Honest.memoryMap (honest : kernel.Honest target fuel mappings rest) (reserves : Reserves reserve) (world : σ) :
    ∃ last, (kernel.linux target reserve fuel).memoryMap target.sysInfo.thisProcessId world =
      some ((mappings world).map LinuxMapParser.Mapping.entry, last) ∧ mappings last = mappings world := by
  obtain ⟨file, start, opened, same, text, enough⟩ := honest.opens world
  obtain ⟨last, run⟩ := parseMemoryMapFromProcessId_text reserves (honest.delivers file) (honest.short file) opened text
    enough (honest.printable world)
  have kept := parseMemoryMapFromProcessId_keeps mappings (honest.reads file) (honest.closes file) opened run
  refine ⟨last, ?_, kept.trans same⟩
  rw [linux]
  simp only [run]

/-- What an allocation does to what was mapped before it. -/
def Added (before after : Set Nat) : Option LocatorItem → Prop
  | none => after = before
  | some item => Disjoint (Words.extent item.baseAddress item.size.toNat) before ∧
      after = before ∪ Words.extent item.baseAddress item.size.toNat

/-- It is a rule for walks which start from the same mapped addresses. -/
theorem Added.walkRule (mappings : σ → List LinuxMapParser.Mapping) (before : Set Nat) :
    WalkRule fun world result last => mapped (mappings world) = before → Added before (mapped (mappings last)) result where
  idle _ same := same
  again _ _ _ _ first later same := later (first same)

/-- A candidate is a page, and its bytes lie between the mapped regions that enclose the free one. -/
theorem candidate_unmapped (booted : target.Booted) (wide : target.width = .bits64) (posix : target.os ≠ .windows)
    (minimum : settings.minAddress < target.usize) (maximum : settings.maxAddress < target.usize)
    {regions : List LinuxMapParser.Mapping}
    (sorted : SortedMap target.usize (regions.map LinuxMapParser.Mapping.entry)) {free : MemoryMapEntry}
    (member : free ∈ getFreeRegions target (regions.map LinuxMapParser.Mapping.entry)) {address : Nat}
    (listed : address ∈ BufferAllocatorLinux.candidates target settings free) :
    target.granularity ∣ address ∧ Disjoint (Words.extent address settings.size.toNat) (mapped regions) := by
  have behind : ∀ region ∈ regions.map LinuxMapParser.Mapping.entry, 0 ≤ region.startAddress := fun _ _ => Nat.zero_le _
  have words : ∀ entry ∈ regions.map LinuxMapParser.Mapping.entry,
      entry.startAddress < target.usize ∧ entry.endAddress < target.usize := by
    intro entry inside
    have proper := sorted.proper entry inside
    omega
  have page := booted.large
  obtain ⟨word, below⟩ := freeRegionsFrom_bounds (Nat.le_refl _) (booted.maxAddress_lt wide posix) words target.usize_pos
    member
  have fits := candidate_fits (by omega) booted.small minimum maximum word below listed
  have apart := (freeRegionsFrom_free sorted behind member).2.2
  refine ⟨fits.aligned, Set.disjoint_left.mpr ?_⟩
  rintro byte inside ⟨mapping, mine, low, high⟩
  rw [Words.mem_extent] at inside
  have page_le := fits.page_le
  have le_page := fits.le_page
  rcases apart mapping.entry (List.mem_map_of_mem mine) with before | beyond
  · omega
  · omega

section

variable (honest : kernel.Honest target fuel mappings rest) (reserves : Reserves reserve) (booted : target.Booted)
  (wide : target.width = .bits64) (posix : target.os ≠ .windows) (minimum : settings.minAddress < target.usize)
  (maximum : settings.maxAddress < target.usize)
include honest booted wide posix minimum maximum

theorem tryAllocateBuffer_added {start : σ} {free : MemoryMapEntry}
    (member : free ∈ getFreeRegions target ((mappings start).map LinuxMapParser.Mapping.entry)) {world last : σ}
    {result : Option LocatorItem}
    (run : BufferAllocatorLinux.tryAllocateBuffer target (kernel.linux target reserve fuel) settings free world =
      (result, last)) :
    mapped (mappings world) = mapped (mappings start) → Added (mapped (mappings start)) (mapped (mappings last)) result := by
  have unmapped := fun address =>
    @candidate_unmapped _ _ booted wide posix minimum maximum _ (honest.sorted start) _ member address
  have rule := (Added.walkRule mappings (mapped (mappings start))).map (LocatorItem.new · settings.size)
  cases run
  refine rule.tryCandidates ?_ ?_ ?_ (Prod.eta _).symm
  · intro address listed world null same
    rcases honest.serves address _ world (unmapped address listed).1 (same ▸ (unmapped address listed).2) with
      ⟨here, positive, _⟩ | ⟨_, idle, _⟩
    · exact absurd (here.symm.trans null) (Nat.ne_of_gt positive)
    · exact (idle null).trans same
  · intro address listed world _ elsewhere same
    rcases honest.serves address _ world (unmapped address listed).1 (same ▸ (unmapped address listed).2) with
      ⟨here, _⟩ | ⟨_, _, returned⟩
    · exact absurd here elsewhere
    · exact returned.trans same
  · intro address listed world here _ same
    rcases honest.serves address _ world (unmapped address listed).1 (same ▸ (unmapped address listed).2) with
      ⟨_, _, grown⟩ | ⟨elsewhere, _⟩
    · refine ⟨(unmapped address listed).2, ?_⟩
      rw [← same]
      exact grown
    · exact absurd here elsewhere

theorem allocateLinux_added (reserves : Reserves reserve) (own : settings.targetProcessId = target.sysInfo.thisProcessId)
    {world last : σ} {result : Option LocatorItem}
    (run : allocateLinux target (kernel.linux target reserve fuel) settings world = some (result, last)) :
    Added (mapped (mappings world)) (mapped (mappings last)) result := by
  have rule := Added.walkRule mappings (mapped (mappings world))
  refine rule.retry (fun start found next walked same => ?_) run rfl
  obtain ⟨after, read, kept⟩ := honest.memoryMap reserves start
  rw [BufferAllocatorLinux.walkRegions, own, read, Option.map_some] at walked
  -- The regions of this round are those that are mapped at its start, and stay so while it fails.
  refine BufferAllocatorLinux.tryRegions_rule rule (fun region member next found later tried => ?_)
    (Option.some.inj walked) ((congrArg mapped kept).trans same)
  rw [← same]
  exact tryAllocateBuffer_added honest booted wide posix minimum maximum member tried

end

/-- Calls of `allocate`, one after another; what each of them has obtained. -/
def allocateEach (target : Target) (os : Os σ) (fuel : Nat) : List BufferAllocatorSettings → σ →
    Option (List (Except BufferAllocationError LocatorItem) × σ)
  | [], world => some ([], world)
  | settings :: later, world =>
    match allocate target os fuel settings world with
    | none => none
    | some (result, world) =>
      (allocateEach target os fuel later world).map fun (results, world) => (result :: results, world)

/-- The bytes of the items obtained. -/
def obtained (results : List (Except BufferAllocationError LocatorItem)) : List (Set Nat) :=
  (results.filterMap Except.toOption).map fun item => Words.extent item.baseAddress item.size.toNat

/-- In a process that allocates on one thread the maps file alone keeps what is mapped:
the buffers are disjoint from it and from each other, and they are all that is added. -/
theorem allocateEach_replaces_nothing {os : Os σ} (honest : kernel.Honest target fuel mappings rest)
    (reserves : Reserves reserve) (system : os.linux = kernel.linux target reserve fuel) (booted : target.Booted)
    (wide : target.width = .bits64) (linux : target.os = .linux) {requests : List BufferAllocatorSettings}
    (words : ∀ settings ∈ requests, settings.minAddress < target.usize ∧ settings.maxAddress < target.usize ∧
      settings.targetProcessId = target.sysInfo.thisProcessId) {steps : Nat} {world last : σ}
    {results : List (Except BufferAllocationError LocatorItem)}
    (run : allocateEach target os steps requests world = some (results, last)) :
    (obtained results).Pairwise Disjoint ∧ (∀ bytes ∈ obtained results, Disjoint bytes (mapped (mappings world))) ∧
      mapped (mappings last) = mapped (mappings world) ∪ {byte | ∃ bytes ∈ obtained results, byte ∈ bytes} := by
  induction requests generalizing world results with
  | nil =>
      cases run
      simp [obtained]
  | cons settings requests ih =>
      obtain ⟨minimum, maximum, own⟩ := words settings List.mem_cons_self
      rw [allocateEach] at run
      split at run
      · cases run
      · rename_i result next allocated
        obtain ⟨⟨results, last⟩, later, same⟩ := Option.map_eq_some_iff.mp run
        cases same
        obtain ⟨apart, fresh, grown⟩ := ih (fun other member => words other (List.mem_cons_of_mem _ member)) later
        have cases := allocate_cases allocated
        simp only [linux, system] at cases
        have lower := BufferAllocatorSettings.sanitize_minAddress_lt target minimum booted.granularity_lt
        have added := allocateLinux_added honest booted wide (by simp [linux]) lower maximum reserves own cases
        cases result with
        | error error =>
            have still : mapped (mappings next) = mapped (mappings world) := added
            rw [still] at fresh grown
            exact ⟨apart, fresh, grown⟩
        | ok item =>
            obtain ⟨unmapped, more⟩ := added
            have here : obtained (.ok item :: results) =
                Words.extent item.baseAddress item.size.toNat :: obtained results := rfl
            rw [more] at fresh grown
            rw [here]
            refine ⟨List.pairwise_cons.mpr ⟨fun bytes member => ?_, apart⟩, ?_, ?_⟩
            · exact (fresh bytes member).symm.mono_left Set.subset_union_right
            · intro bytes member
              rcases List.mem_cons.mp member with rfl | member
              · exact unmapped
              · exact (fresh bytes member).mono_right Set.subset_union_left
            · rw [grown, Set.union_assoc]
              congr 1
              ext byte
              simp

end MapsKernel

/-- What is mapped is one region from zero on, which grows by a page twice. -/
structure GrowingMap where
  pages : Nat
  left : List UInt8

namespace GrowingMap

def mappings (world : GrowingMap) : List LinuxMapParser.Mapping :=
  [⟨8, 0, 8, 4096 * (1 + min world.pages 2), "rw-p 00000000 00:00 0".toList, none⟩]

def text (world : GrowingMap) : List UInt8 := (LinuxMapParser.Mapping.print world.mappings).map fun c => UInt8.ofNat c.toNat

def kernel : MapsKernel GrowingMap where
  files :=
    { openReadOnly := fun _ world => (some 3, { world with left := world.text })
      read := fun _ count world =>
        (some (world.left.take (min count 4096)), { world with left := world.left.drop (min count 4096) })
      close := fun _ world => world }
  mmap address length world :=
    if address = 4096 * (1 + world.pages) ∧ length = 4096 ∧ world.pages < 2
      then (address, { world with pages := world.pages + 1 })
      else (mapFailed smallTarget.usize, world)
  munmap _ _ world := world

theorem mapped_mappings (world : GrowingMap) :
    MapsKernel.mapped world.mappings = Set.Iio (4096 * (1 + min world.pages 2)) := by
  ext byte
  simp [MapsKernel.mapped, mappings, MemoryMapEntry.Maps, LinuxMapParser.Mapping.entry]

theorem characters_text (world : GrowingMap) : characters world.text = LinuxMapParser.Mapping.print world.mappings := by
  have few : min world.pages 2 = 0 ∨ min world.pages 2 = 1 ∨ min world.pages 2 = 2 := by omega
  simp only [text, mappings]
  rcases few with few | few | few
  · rw [few]
    decide +kernel
  · rw [few]
    decide +kernel
  · rw [few]
    decide +kernel

theorem kernel_honest :
    kernel.Honest smallTarget (fun world => world.text.length + 1) mappings fun _ world => world.left where
  printable world mapping member := by
    rcases List.mem_singleton.mp member with rfl
    have wide : smallTarget.usize = 2 ^ 64 := rfl
    have fields : '\n' ∉ "rw-p 00000000 00:00 0".toList := by decide
    refine ⟨?_, ?_, fields, fun _ none => nomatch none⟩
    · dsimp only
      omega
    · dsimp only
      omega
  sorted world := by
    have wide : smallTarget.usize = 2 ^ 64 := rfl
    refine ⟨fun region member => ?_, List.pairwise_singleton _ _⟩
    rcases List.mem_singleton.mp member with rfl
    simp only [LinuxMapParser.Mapping.entry]
    omega
  opens world := ⟨3, _, rfl, rfl, world.characters_text, Nat.lt_succ_self _⟩
  delivers file :=
    { nothing := fun count world finished => by
        rcases finished with rfl | empty
        · exact ⟨rfl, rfl⟩
        · simp [kernel, empty]
      something := fun count world asked some_left => by
        refine ⟨world.left.take (min count 4096), rfl, ?_, ?_, (List.take_append_drop _ _).symm⟩
        · intro empty
          rcases List.take_eq_nil_iff.mp empty with none | none
          · omega
          · exact some_left none
        · exact (List.length_take_le _ _).trans (Nat.min_le_left _ _) }
  short file count world bytes answer := by
    cases answer
    rw [List.length_take, bufferSize]
    omega
  reads _ _ _ := rfl
  closes _ _ := rfl
  serves address length world aligned _ := by
    simp only [kernel]
    by_cases next : address = 4096 * (1 + world.pages) ∧ length = 4096 ∧ world.pages < 2
    · rw [if_pos next]
      obtain ⟨rfl, rfl, few⟩ := next
      refine .inl ⟨rfl, by omega, ?_⟩
      rw [mapped_mappings, mapped_mappings]
      ext byte
      simp only [Set.mem_union, Set.mem_Iio, Words.mem_extent]
      omega
    · rw [if_neg next]
      refine .inr ⟨?_, fun _ => rfl, rfl⟩
      have wide : smallTarget.usize = 2 ^ 64 := rfl
      have page : smallTarget.granularity = 4096 := rfl
      rw [page] at aligned
      simp only [mapFailed, wide]
      omega

def os : Os GrowingMap where
  linux := kernel.linux smallTarget reserveDouble fun world => world.text.length + 1
  windows := ⟨fun _ world => (false, world), fun _ world => (none, world), fun _ world => (none, world),
    fun _ _ world => (0, world), fun _ _ world => world⟩
  macos := ⟨fun _ world => (.failure, world), fun _ _ world => (none, world), fun _ _ world => (false, world),
    fun _ _ world => world⟩
  alloc _ _ world := (0, world)
  raw _ _ := LocatorHeader.zeroedHeader

end GrowingMap

/-- Two pages, one behind the other. -/
theorem MapsKernel.allocateEach_replaces_nothing_twice : ∃ results last,
    allocateEach smallTarget GrowingMap.os 1
      [BufferAllocatorSettings.new smallTarget, BufferAllocatorSettings.new smallTarget] ⟨0, []⟩ = some (results, last) ∧
    (obtained results).length = 2 ∧ (obtained results).Pairwise Disjoint := by
  have ran : ((allocateEach smallTarget GrowingMap.os 1
      [BufferAllocatorSettings.new smallTarget, BufferAllocatorSettings.new smallTarget] ⟨0, []⟩).map fun outcome =>
        (outcome.1.filterMap Except.toOption).length) = some 2 := by decide +kernel
  obtain ⟨⟨results, last⟩, run, two⟩ := Option.map_eq_some_iff.mp ran
  refine ⟨results, last, run, (List.length_map _).trans two, ?_⟩
  refine
    (allocateEach_replaces_nothing GrowingMap.kernel_honest reserveDouble_reserves rfl smallTarget_booted rfl rfl ?_ run).1
  intro settings member
  have same : settings = BufferAllocatorSettings.new smallTarget := by simpa using member
  rw [same]
  decide

end ReloadedBuffers
