import ReloadedBuffers.Internal.CallLog
import ReloadedBuffers.Internal.Candidates

/-! What an allocation gives on Linux and on Windows, whatever the system answers: the
item fits the settings as they were passed, and the log of calls shows the report of
free memory and the mapping behind it.
-/

set_option autoImplicit false

namespace ReloadedBuffers

/-- The call reported the addresses from `start` to `stop` free. On Linux a free region
is a gap in the memory map. -/
def SystemCall.ReportsFree (target : Target) (start stop : Nat) : SystemCall → Prop
  | .memoryMap regions => ⟨start, stop⟩ ∈ getFreeRegions target regions
  | .virtualQuery _ (some info) =>
    info.isFree = true ∧ start = info.baseAddress ∧ stop = info.baseAddress + info.regionSize
  | _ => False

/-- The call mapped `length` bytes at `start`. -/
def SystemCall.Maps (target : Target) (start length : Nat) : SystemCall → Prop
  | .mmap _ size answer => answer ≠ mapFailed target.usize ∧ answer = start ∧ size = length
  | .virtualAlloc _ size answer => answer ≠ 0 ∧ answer = start ∧ size = length
  | _ => False

/-- Reported regions end below the last word, and an empty mapping fails. -/
structure Os.Honest {σ : Type} (os : Os σ) (target : Target) : Prop where
  regions : ∀ processId system regions next, os.linux.memoryMap processId system = some (regions, next) →
    ∀ entry ∈ regions, entry.startAddress < target.usize ∧ entry.endAddress < target.usize - 1
  queries : ∀ address system info, (os.windows.virtualQuery address system).1 = some info →
    info.baseAddress + info.regionSize < target.usize - 1
  emptyMmap : ∀ address system, (os.linux.mmap address 0 system).1 = mapFailed target.usize
  emptyAlloc : ∀ address system, (os.windows.virtualAlloc address 0 system).1 = 0

/-- What an allocation promises, in terms of the settings passed to it and of the calls
made between the logs `past` and `log`. -/
structure Postcondition (target : Target) (settings : BufferAllocatorSettings) (past log : List SystemCall)
    (item : LocatorItem) : Prop where
  allocated : item.baseAddress ≠ 0
  aligned : target.granularity ∣ item.baseAddress
  min_le : settings.minAddress ≤ item.baseAddress
  le_max : item.baseAddress + item.size.toNat ≤ settings.maxAddress
  size_le : settings.size ≤ item.size
  position_eq : item.position = 0
  unlocked : item.isTaken = 0
  mapped : ∃ call recent, log = call :: (recent ++ past) ∧
    call.Maps target item.baseAddress item.size.toNat ∧
    ∃ report ∈ recent, ∃ start stop, report.ReportsFree target start stop ∧
      start ≤ item.baseAddress ∧ item.baseAddress + item.size.toNat ≤ stop

/-- An item was mapped between `start` and `stop`, with the sanitised settings. -/
structure Fitted (target : Target) (settings : BufferAllocatorSettings) (start stop : Nat)
    (past log : List SystemCall) (item : LocatorItem) : Prop where
  fresh : item = LocatorItem.new item.baseAddress settings.size
  allocated : item.baseAddress ≠ 0
  served : 0 < settings.size.toNat
  feasible : Feasible settings.minAddress settings.maxAddress start stop settings.size.toNat target.granularity
    item.baseAddress
  mapped : ∃ call recent, log = call :: (recent ++ past) ∧ call.Maps target item.baseAddress settings.size.toNat

/-- Nothing was obtained, or an item in a region that has been reported free since. -/
def Reported (target : Target) (settings : BufferAllocatorSettings) (past : List SystemCall) :
    Option LocatorItem → List SystemCall → Prop
  | none, log => past <:+ log
  | some item, log => ∃ report earlier middle start stop, past <:+ earlier ∧ report :: earlier <:+ middle ∧
      report.ReportsFree target start stop ∧ Fitted target settings start stop middle log item

theorem Reported.weaken {target : Target} {settings : BufferAllocatorSettings} {past between log : List SystemCall}
    {result : Option LocatorItem} (later : past <:+ between) (reported : Reported target settings between result log) :
    Reported target settings past result log := by
  cases result with
  | none => exact later.trans reported
  | some item =>
      obtain ⟨report, earlier, middle, start, stop, before, rest⟩ := reported
      exact ⟨report, earlier, middle, start, stop, later.trans before, rest⟩

theorem Reported.walkRule (σ : Type) (target : Target) (settings : BufferAllocatorSettings) :
    WalkRule fun (before : Logged σ) result after => Reported target settings before.calls result after.calls where
  idle _ := List.suffix_rfl
  again _ _ _ _ first later := later.weaken first

variable {σ : Type}

section

variable {target : Target} {settings : BufferAllocatorSettings}

/-- A candidate of a region that ends below the last word fits into it. -/
theorem candidate_fits (positive : 0 < target.granularity) (small : target.granularity < 2 ^ 31)
    (minimum : settings.minAddress < target.usize) (maximum : settings.maxAddress < target.usize) {start stop address : Nat}
    (word : start < target.usize) (below : stop < target.usize - 1)
    (member : address ∈ getPossibleBufferAddresses target.usize settings.minAddress settings.maxAddress start stop
      settings.size.toNat target.granularity) :
    Feasible settings.minAddress settings.maxAddress start stop settings.size.toNat target.granularity address := by
  have wide := target.u32_le_usize
  have size : settings.size.toNat < target.usize := Nat.lt_of_lt_of_le settings.size.toNat_lt wide
  rcases candidate_feasible positive (by omega) minimum maximum word (by omega) size member with fits | overrun
  · exact fits
  · omega

/-- Nothing was obtained, or an item between `start` and `stop`. -/
def Placed (target : Target) (settings : BufferAllocatorSettings) (start stop : Nat) (past : List SystemCall) :
    Option LocatorItem → List SystemCall → Prop
  | none, log => past <:+ log
  | some item, log => Fitted target settings start stop past log item

theorem Tried.placed {ask : Nat → σ → Nat × σ} {asked : Nat → Nat → SystemCall} {candidates : List Nat}
    {past log : List SystemCall} {start stop : Nat} {result : Option Nat}
    (tried : Tried ask asked candidates past result log)
    (fits : ∀ candidate ∈ candidates, Feasible settings.minAddress settings.maxAddress start stop settings.size.toNat
      target.granularity candidate)
    (maps : ∀ candidate ∈ candidates, candidate ≠ 0 → ∀ system, (ask candidate system).1 = candidate →
      0 < settings.size.toNat ∧ (asked candidate candidate).Maps target candidate settings.size.toNat) :
    Placed target settings start stop past (result.map (LocatorItem.new · settings.size)) log := by
  cases result with
  | none => exact tried
  | some address =>
      obtain ⟨member, nonzero, recent, system, same, answer⟩ := tried
      obtain ⟨served, mapped⟩ := maps address member nonzero system answer
      exact ⟨rfl, nonzero, served, fits address member, _, recent, same, mapped⟩

theorem Placed.reported {start stop : Nat} {report : SystemCall} {earlier middle log : List SystemCall}
    {result : Option LocatorItem} (placed : Placed target settings start stop middle result log)
    (free : report.ReportsFree target start stop) (since : report :: earlier <:+ middle) :
    Reported target settings earlier result log := by
  cases result with
  | none => exact ((List.suffix_cons _ _).trans since).trans placed
  | some item => exact ⟨report, earlier, middle, start, stop, List.suffix_rfl, since, free, placed⟩

variable (positive : 0 < target.granularity) (small : target.granularity < 2 ^ 31)
  (minimum : settings.minAddress < target.usize) (maximum : settings.maxAddress < target.usize)
include positive small minimum maximum

namespace BufferAllocatorLinux

variable {calls : LinuxCalls σ}
  (empty : ∀ address system, (calls.mmap address 0 system).1 = mapFailed target.usize)
include empty

theorem tryAllocateBuffer_placed {region : MemoryMapEntry} (word : region.startAddress < target.usize)
    (below : region.endAddress < target.usize - 1) (world : Logged σ) :
    Placed target settings region.startAddress region.endAddress world.calls
      (tryAllocateBuffer target calls.logged settings region world).1
      (tryAllocateBuffer target calls.logged settings region world).2.calls := by
  have fits := fun candidate (member : candidate ∈ candidates target settings region) =>
    candidate_fits positive small minimum maximum word below member
  have tried := tryCandidates_logged (calls.mmap · settings.size.toNat) (calls.munmap · settings.size.toNat)
    (.mmap · settings.size.toNat) (.munmap · settings.size.toNat)
    (Prod.eta (tryCandidates (calls.logged.mmap · settings.size.toNat) (calls.logged.munmap · settings.size.toNat)
      (candidates target settings region) world)).symm
  refine tried.placed fits fun candidate member _ system answer => ?_
  have inside := (fits candidate member).le_page
  -- No region reaches the last word, so no candidate is `MAP_FAILED`.
  have accepted : candidate ≠ mapFailed target.usize := by
    unfold mapFailed
    omega
  refine ⟨?_, accepted, rfl, rfl⟩
  by_contra zero
  rw [Nat.eq_zero_of_not_pos zero, empty] at answer
  exact accepted answer.symm

theorem tryRegions_reported {regions : List MemoryMapEntry} {report : SystemCall} {earlier : List SystemCall}
    (free : ∀ region ∈ regions, report.ReportsFree target region.startAddress region.endAddress)
    (bounds : ∀ region ∈ regions, region.startAddress < target.usize ∧ region.endAddress < target.usize - 1)
    {world last : Logged σ} {result : Option LocatorItem} (since : report :: earlier <:+ world.calls)
    (run : tryRegions target calls.logged settings regions world = (result, last)) :
    Reported target settings earlier result last.calls := by
  induction regions generalizing world with
  | nil =>
      cases run
      exact (List.suffix_cons _ _).trans since
  | cons region rest ih =>
      obtain ⟨word, below⟩ := bounds region List.mem_cons_self
      have placed := tryAllocateBuffer_placed positive small minimum maximum empty word below world
      have here := free region List.mem_cons_self
      simp only [tryRegions] at run
      split at run
      · cases run
        exact (List.suffix_cons _ _).trans since
      · split at run
        · rename_i item next tried
          cases run
          rw [tried] at placed
          exact placed.reported here since
        · rename_i next tried
          rw [tried] at placed
          exact ih (fun other member => free other (List.mem_cons_of_mem _ member))
            (fun other member => bounds other (List.mem_cons_of_mem _ member)) (since.trans placed) run

end BufferAllocatorLinux

theorem allocateLinux_reported {calls : LinuxCalls σ} (highest : target.sysInfo.maxAddress < target.usize - 1)
    (words : ∀ processId system regions next, calls.memoryMap processId system = some (regions, next) →
      ∀ entry ∈ regions, entry.startAddress < target.usize ∧ entry.endAddress < target.usize - 1)
    (empty : ∀ address system, (calls.mmap address 0 system).1 = mapFailed target.usize)
    {world last : Logged σ} {result : Option LocatorItem}
    (run : allocateLinux target calls.logged settings world = some (result, last)) :
    Reported target settings world.calls result last.calls := by
  refine (Reported.walkRule σ target settings).retry (fun start found next walked => ?_) run
  obtain ⟨⟨regions, after⟩, read, walked⟩ := Option.map_eq_some_iff.mp walked
  obtain ⟨system, asked, rfl⟩ := Logged.ask_eq_some.mp read
  have bounds := fun region (member : region ∈ getFreeRegions target regions) =>
    freeRegionsFrom_bounds (Nat.le_refl _) highest (fun entry inside => ⟨(words _ _ _ _ asked entry inside).1, by
      have below := (words _ _ _ _ asked entry inside).2
      omega⟩) target.usize_pos member
  exact BufferAllocatorLinux.tryRegions_reported positive small minimum maximum empty (fun region member => member)
    bounds List.suffix_rfl walked

namespace BufferAllocatorWindows

variable {calls : WindowsCalls σ}
  (queries : ∀ address system info, (calls.virtualQuery address system).1 = some info →
    info.baseAddress + info.regionSize < target.usize - 1)
  (empty : ∀ address system, (calls.virtualAlloc address 0 system).1 = 0)
include empty

theorem tryAllocateBuffer_placed {info : MemoryBasicInformation}
    (below : info.baseAddress + info.regionSize < target.usize - 1) (world : Logged σ) :
    Placed target settings info.baseAddress (info.baseAddress + info.regionSize) world.calls
      (tryAllocateBuffer target calls.logged settings info world).1
      (tryAllocateBuffer target calls.logged settings info world).2.calls := by
  unfold tryAllocateBuffer
  split
  · exact List.suffix_rfl
  · have stop : Words.add target.usize info.baseAddress info.regionSize = info.baseAddress + info.regionSize :=
      Words.add_eq (by omega)
    have fits : ∀ candidate ∈ getBufferPointersInPageRange target settings info,
        Feasible settings.minAddress settings.maxAddress info.baseAddress (info.baseAddress + info.regionSize)
          settings.size.toNat target.granularity candidate := by
      intro candidate member
      rw [getBufferPointersInPageRange, stop] at member
      exact candidate_fits positive small minimum maximum (by omega) below member
    have tried := tryCandidates_logged (calls.virtualAlloc · settings.size.toNat)
      (calls.virtualFree · settings.size.toNat) (.virtualAlloc · settings.size.toNat)
      (.virtualFree · settings.size.toNat)
      (Prod.eta (tryCandidates (calls.logged.virtualAlloc · settings.size.toNat)
        (calls.logged.virtualFree · settings.size.toNat) (getBufferPointersInPageRange target settings info)
        world)).symm
    refine tried.placed fits fun candidate member nonzero system answer => ⟨?_, nonzero, rfl, rfl⟩
    -- An empty mapping would have failed.
    by_contra zero
    rw [Nat.eq_zero_of_not_pos zero, empty] at answer
    exact nonzero answer.symm

include queries

/-- The attempt after a query is made in the region that the query described. -/
theorem tried_reported {currentAddress : Nat} {info : MemoryBasicInformation} {world next last : Logged σ}
    {result : Option LocatorItem} (answer : calls.logged.virtualQuery currentAddress world = (some info, next))
    (run : tryAllocateBuffer target calls.logged settings info next = (result, last)) :
    Reported target settings world.calls result last.calls := by
  -- The latest entry of the log is the report on this region.
  have known : (calls.virtualQuery currentAddress world.system).1 = some info := congrArg Prod.fst answer
  have logged : next.calls = .virtualQuery currentAddress (some info) :: world.calls := by
    rw [← known]
    exact (congrArg (·.2.calls) answer).symm
  have placed := tryAllocateBuffer_placed positive small minimum maximum empty (queries _ _ _ known) next
  rw [run] at placed
  cases result with
  | none => exact (logged ▸ List.suffix_cons _ _).trans placed
  | some item =>
      by_cases free : info.isFree = true
      · have reports : (SystemCall.virtualQuery currentAddress (some info)).ReportsFree target info.baseAddress
            (info.baseAddress + info.regionSize) := ⟨free, rfl, rfl⟩
        exact placed.reported reports (logged ▸ List.suffix_rfl)
      · simp [tryAllocateBuffer, free] at run

end BufferAllocatorWindows

theorem allocateWindows_reported {calls : WindowsCalls σ}
    (queries : ∀ address system info, (calls.virtualQuery address system).1 = some info →
      info.baseAddress + info.regionSize < target.usize - 1)
    (empty : ∀ address system, (calls.virtualAlloc address 0 system).1 = 0) {fuel : Nat} {world last : Logged σ}
    {result : Except String LocatorItem}
    (run : allocateWindows target calls.logged fuel settings world = some (result, last)) :
    Reported target settings world.calls result.toOption last.calls := by
  refine allocateWindows_rule ⟨Reported.walkRule σ target settings, ?_, ?_⟩ ?_ ?_ run
  · exact fun address start => Logged.calls_call (calls.virtualQuery address) (.virtualQuery address) start
  · exact fun _ _ _ _ _ _ answer tried =>
      BufferAllocatorWindows.tried_reported positive small minimum maximum queries empty answer tried
  · exact fun start => Logged.calls_call (calls.openProcess settings.targetProcessId) .openProcess start
  · exact fun start => Logged.calls_call (calls.isWow64Process settings.targetProcessId) .isWow64Process start

end

/-- What was reported and fitted for the sanitised settings serves the settings as passed. -/
theorem Reported.postcondition {target : Target} {settings : BufferAllocatorSettings} {past log : List SystemCall}
    {item : LocatorItem} (positive : 0 < target.granularity)
    (rounds : BufferAllocatorSettings.Rounds settings.size target.granularity)
    (reported : Reported target (settings.sanitize target) past (some item) log) :
    Postcondition target settings past log item := by
  obtain ⟨report, _, _, start, stop, ⟨before, rfl⟩, ⟨since, rfl⟩, free, fitted⟩ := reported
  obtain ⟨call, recent, same, maps⟩ := fitted.mapped
  have size : item.size = (settings.sanitize target).size := congrArg LocatorItem.size fitted.fresh
  have feasible := fitted.feasible
  rw [← size] at maps feasible
  refine ⟨fitted.allocated, feasible.aligned, ?_, feasible.le_window, ?_, ?_, ?_, ?_⟩
  · exact (BufferAllocatorSettings.minAddress_le_sanitize target settings).trans feasible.window_le
  · rw [size]
    exact UInt32.le_iff_toNat_le.mpr (BufferAllocatorSettings.sanitize_size_ge target settings rounds positive fitted.served)
  · exact congrArg LocatorItem.position fitted.fresh
  · exact congrArg LocatorItem.isTaken fitted.fresh
  · refine ⟨call, recent ++ since ++ report :: before, ?_, maps, report, ?_, start, stop, free, feasible.page_le,
      feasible.le_page⟩
    · rw [same]
      simp only [List.append_assoc, List.cons_append]
    · simp

/-- Whatever a 64-bit Linux or Windows answers, an item that is returned is aligned, in
the window and large enough, and lies in reported free memory that was then mapped. -/
theorem allocate_postcondition {os : Os σ} {target : Target} {settings : BufferAllocatorSettings}
    (honest : os.Honest target) (booted : target.Booted) (wide : target.width = .bits64)
    (platform : target.os ≠ .macos) (power : ∃ exponent, target.granularity = 2 ^ exponent)
    (minimum : settings.minAddress < target.usize) (maximum : settings.maxAddress < target.usize) {fuel : Nat}
    {world last : Logged σ} {item : LocatorItem}
    (run : allocate target os.logged fuel settings world = some (.ok item, last)) :
    Postcondition target settings world.calls last.calls item := by
  have positive : 0 < target.granularity := Nat.lt_of_lt_of_le (by decide) booted.large
  have rounds : BufferAllocatorSettings.Rounds settings.size target.granularity := .inl (booted.granularity_dvd power)
  have lower := BufferAllocatorSettings.sanitize_minAddress_lt target minimum booted.granularity_lt
  have allocated := allocate_cases run
  cases system : target.os with
  | linux =>
      have highest := booted.maxAddress_lt wide (by simp [system])
      simp only [system] at allocated
      exact (allocateLinux_reported positive booted.small lower maximum highest honest.regions honest.emptyMmap
        allocated).postcondition positive rounds
  | windows =>
      simp only [system] at allocated
      obtain ⟨found, allocated, same⟩ := allocated
      have reported := allocateWindows_reported positive booted.small lower maximum honest.queries honest.emptyAlloc
        allocated
      rw [← same] at reported
      exact reported.postcondition positive rounds
  | macos => exact absurd system platform

/-- One mapped region at the bottom; every request that is not empty is served. -/
def generousOs : Os Unit where
  linux :=
    { memoryMap := fun _ system => some ([⟨0, 0x10000⟩], system)
      mmap := fun address length system => (if length = 0 then mapFailed (2 ^ 64) else address, system)
      munmap := fun _ _ system => system }
  windows := ⟨fun _ system => (false, system), fun _ system => (none, system), fun _ system => (none, system),
    fun _ _ system => (0, system), fun _ _ system => system⟩
  macos := ⟨fun _ system => (.failure, system), fun _ _ system => (none, system), fun _ _ system => (false, system),
    fun _ _ system => system⟩
  alloc _ _ system := (0, system)
  raw _ _ := ⟨0, 0, 0, 0, 0, fun _ => ⟨0, 0, 0, 0⟩⟩

theorem allocate_postcondition_generous :
    ∃ item last, allocate smallTarget generousOs.logged 0 (BufferAllocatorSettings.new smallTarget) ⟨(), []⟩ =
        some (.ok item, last) ∧
      Postcondition smallTarget (BufferAllocatorSettings.new smallTarget) [] last.calls item := by
  have honest : generousOs.Honest smallTarget := by
    refine ⟨?_, fun _ _ _ answer => (nomatch answer), fun _ _ => rfl, fun _ _ => rfl⟩
    intro _ _ _ _ read entry member
    cases read
    obtain rfl := List.mem_singleton.mp member
    decide
  have run : ∃ item last, allocate smallTarget generousOs.logged 0 (BufferAllocatorSettings.new smallTarget) ⟨(), []⟩ =
      some (.ok item, last) := ⟨_, _, rfl⟩
  obtain ⟨item, last, run⟩ := run
  exact ⟨item, last, run, allocate_postcondition honest smallTarget_booted rfl (by decide) ⟨12, rfl⟩ (by decide)
    (by decide) run⟩

end ReloadedBuffers
