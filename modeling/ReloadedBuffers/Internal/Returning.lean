import ReloadedBuffers.Internal.CallLog

/-! The walks of an allocation come to an end. On Linux they are over a list, which has
to be there; on the other platforms every reply has to take them closer to the end of the
address space.
-/

set_option autoImplicit false

namespace ReloadedBuffers

variable {σ : Type} {target : Target} {settings : BufferAllocatorSettings}

/-- The memory map of a process can be read, at any time. -/
def LinuxCalls.Readable (calls : LinuxCalls σ) (processId : UInt32) : Prop :=
  ∀ world, (calls.memoryMap processId world).isSome = true

/-- `VirtualQuery` answers below the last step of the granularity only, and describes no
empty region and none that passes the end of the address space. -/
structure WindowsCalls.Advances (calls : WindowsCalls σ) (target : Target) : Prop where
  queries : ∀ address world info, (calls.virtualQuery address world).1 = some info →
    0 < info.regionSize ∧ address + info.regionSize < target.usize ∧ address + target.granularity < target.usize

/-- `mach_vm_region` describes a region that ends behind the address asked about, and
not behind the end of the address space. -/
structure MachCalls.Advances (calls : MachCalls σ) (target : Target) : Prop where
  regions : ∀ address world actualAddress availableSize,
    (calls.machVmRegion address world).1 = .region actualAddress availableSize →
      address < actualAddress + availableSize ∧ actualAddress + availableSize < target.usize

def Os.Advances (os : Os σ) (target : Target) : Prop :=
  match target.os with
  | .linux => os.linux.Readable target.sysInfo.thisProcessId
  | .windows => os.windows.Advances target
  | .macos => os.macos.Advances target

theorem Os.Advances.logged {os : Os σ} (advances : os.Advances target) : os.logged.Advances target := by
  unfold Os.Advances at advances ⊢
  cases system : target.os with
  | linux =>
      simp only [system] at advances
      intro world
      simpa [Os.logged, LinuxCalls.logged, Logged.ask] using advances world.system
  | windows =>
      simp only [system] at advances
      exact ⟨fun address world info answer => advances.queries address world.system info answer⟩
  | macos =>
      simp only [system] at advances
      exact ⟨fun address world actual size answer => advances.regions address world.system actual size answer⟩

/-- The walk comes to an end, without an item or with one that is free. -/
def Ends : Option (Option LocatorItem × σ) → Prop
  | none => False
  | some (result, _) => ∀ item, result = some item → item.isTaken = 0

theorem Ends.cases {outcome : Option (Option LocatorItem × σ)} (ends_ : Ends outcome) :
    ∃ result last, outcome = some (result, last) ∧ ∀ item, result = some item → item.isTaken = 0 := by
  cases outcome with
  | none => cases ends_
  | some outcome => exact ⟨outcome.1, outcome.2, rfl, ends_⟩

theorem Ends.nothing (world : σ) : Ends (some (none, world)) := by
  rintro item ⟨⟩

theorem Ends.allocated (allocated : Option Nat) (size : UInt32) (world : σ) :
    Ends (some (allocated.map (LocatorItem.new · size), world)) := by
  rintro item found
  obtain ⟨address, _, rfl⟩ := Option.map_eq_some_iff.mp found
  rfl

theorem retry_ends {walk : σ → Option (Option LocatorItem × σ)} (once : ∀ world, Ends (walk world)) (count : Nat)
    (world : σ) : Ends (retry walk count world) := by
  induction count generalizing world with
  | zero => exact .nothing world
  | succ count ih =>
      have ended := once world
      simp only [retry]
      split
      · rename_i never
        rwa [never] at ended
      · rename_i found next walked
        rwa [walked] at ended
      · exact ih _

namespace BufferAllocatorLinux

theorem tryRegions_ends (calls : LinuxCalls σ) (regions : List MemoryMapEntry) (world : σ) :
    Ends (some (tryRegions target calls settings regions world)) := by
  induction regions generalizing world with
  | nil => exact .nothing world
  | cons region rest ih =>
      simp only [tryRegions]
      split
      · exact .nothing world
      · have tried : Ends (some (tryAllocateBuffer target calls settings region world)) := .allocated _ _ _
        split
        · rename_i item next found
          rwa [found] at tried
        · exact ih _

theorem walkRegions_ends {calls : LinuxCalls σ} (readable : calls.Readable settings.targetProcessId) (world : σ) :
    Ends (walkRegions target calls settings world) := by
  obtain ⟨⟨regions, next⟩, read⟩ := Option.isSome_iff_exists.mp (readable world)
  rw [walkRegions, read]
  exact tryRegions_ends calls _ next

end BufferAllocatorLinux

namespace BufferAllocatorWindows

variable {calls : WindowsCalls σ}

theorem tryAllocateBuffer_ends (info : MemoryBasicInformation) (world : σ) :
    Ends (some (tryAllocateBuffer target calls settings info world)) := by
  unfold tryAllocateBuffer
  split
  · exact .nothing world
  · exact .allocated _ _ _

/-- Every step goes up by one byte at least, and stays in the address space. -/
theorem walkPages_ends {maxAddress : Nat} {advance : MemoryBasicInformation → Nat}
    (advances : ∀ address world info, (calls.virtualQuery address world).1 = some info →
      0 < advance info ∧ address + advance info < target.usize)
    {fuel currentAddress : Nat} (positive : 0 < fuel) (enough : target.usize ≤ currentAddress + fuel) (world : σ) :
    Ends (walkPages target calls settings maxAddress advance fuel currentAddress world) := by
  induction fuel generalizing currentAddress world with
  | zero => exact absurd positive (Nat.lt_irrefl 0)
  | succ fuel ih =>
      have answers := advances currentAddress world
      simp only [walkPages]
      split
      · split
        · exact .nothing _
        · rename_i info next answer
          obtain ⟨up, below⟩ := answers info (by rw [answer])
          have tried : Ends (some (tryAllocateBuffer target calls settings info next)) := tryAllocateBuffer_ends _ _
          split
          · rename_i item after found
            rwa [found] at tried
          -- The cursor goes up without wrapping, so what is left of the fuel still reaches the end.
          · rw [Words.add_eq below]
            exact ih (by omega) (by omega) _
      · exact .nothing world

theorem allocateFast_ends (advances : calls.Advances target) (granular : 0 < target.granularity) {fuel : Nat}
    (enough : target.usize ≤ fuel) (maxAddress : Nat) (world : σ) :
    Ends (allocateFast target calls settings fuel maxAddress world) := by
  have positive : 0 < fuel := Nat.lt_of_lt_of_le target.usize_pos enough
  have walks := fun (advance : MemoryBasicInformation → Nat) steps => @walkPages_ends _ target settings calls
    (min maxAddress settings.maxAddress) advance steps fuel settings.minAddress positive
    (enough.trans (Nat.le_add_left _ _))
  have byRegion := walks (·.regionSize) fun address world info answer =>
    ⟨(advances.queries address world info answer).1, (advances.queries address world info answer).2.1⟩
  have retried := retry_ends byRegion settings.retries world
  simp only [allocateFast]
  split
  · split
    · exact walks (fun _ => target.granularity) (fun address world info answer =>
        ⟨granular, (advances.queries address world info answer).2.2⟩) _
    · exact .nothing _
  · exact retried

end BufferAllocatorWindows

namespace BufferAllocatorOsx

variable {calls : MachCalls σ}

theorem tryPointers_ends (pointers : List Nat) (world : σ) : Ends (some (tryPointers calls settings pointers world)) := by
  induction pointers generalizing world with
  | nil => exact .nothing world
  | cons address rest ih =>
      simp only [tryPointers]
      split
      · exact ih _
      · split
        · exact ih _
        · exact .allocated (some _) _ _

theorem walkRegions_ends (advances : calls.Advances target) {maxAddress fuel currentAddress : Nat}
    (positive : 0 < fuel) (enough : target.usize ≤ currentAddress + fuel) (world : σ) :
    Ends (walkRegions target calls settings maxAddress fuel currentAddress world) := by
  induction fuel generalizing currentAddress world with
  | zero => exact absurd positive (Nat.lt_irrefl 0)
  | succ fuel ih =>
      have answers := advances.regions currentAddress world
      simp only [walkRegions]
      split
      · split
        · split
          · exact tryPointers_ends _ _
          · exact .nothing _
        · exact .nothing _
        · rename_i actual size next answer
          obtain ⟨up, below⟩ := answers actual size (by rw [answer])
          have tried : Ends (some (if actual > currentAddress then
              tryAllocateBuffer target calls settings currentAddress (actual - currentAddress) next
            else (none, next))) := by
            split
            · exact tryPointers_ends _ _
            · exact .nothing _
          split
          · rename_i item after found
            rwa [found] at tried
          · rw [Words.add_eq below]
            exact ih (by omega) (by omega) _
      · exact .nothing world

end BufferAllocatorOsx

theorem allocateWindows_returns {calls : WindowsCalls σ} (advances : calls.Advances target)
    (granular : 0 < target.granularity) {fuel : Nat} (enough : target.usize ≤ fuel) (world : σ) :
    ∃ result last, allocateWindows target calls fuel settings world = some (result, last) ∧
      ∀ item, result = .ok item → item.isTaken = 0 := by
  simp only [allocateWindows]
  split
  · exact ⟨_, _, rfl, by rintro _ ⟨⟩⟩
  · obtain ⟨result, last, run, free⟩ := (BufferAllocatorWindows.allocateFast_ends advances granular enough
      (BufferAllocatorWindows.getMaxWindowsAddress target calls settings.targetProcessId _).1
      (BufferAllocatorWindows.getMaxWindowsAddress target calls settings.targetProcessId _).2).cases
    rw [run]
    cases result with
    | none => exact ⟨_, _, rfl, by rintro _ ⟨⟩⟩
    | some item => exact ⟨_, _, rfl, by rintro _ ⟨⟩; exact free item rfl⟩

/-- Fuel for a step to every address, and on Linux a memory map of its own that the process can
read, make an allocation return, with an item that is free. -/
theorem allocate_returns {os : Os σ} (advances : os.Advances target) (granular : 0 < target.granularity) {fuel : Nat}
    (enough : target.usize ≤ fuel) {settings : BufferAllocatorSettings}
    (own : settings.targetProcessId = target.sysInfo.thisProcessId) (world : σ) :
    ∃ result last, allocate target os fuel settings world = some (result, last) ∧
      ∀ item, result = .ok item → item.isTaken = 0 := by
  unfold Os.Advances at advances
  simp only [allocate]
  cases system : target.os with
  | linux =>
      simp only [system] at advances
      have readable : os.linux.Readable (settings.sanitize target).targetProcessId := by
        rw [← own] at advances
        exact advances
      have ended : Ends (allocateLinux target os.linux (settings.sanitize target) world) :=
        retry_ends (BufferAllocatorLinux.walkRegions_ends readable) _ _
      obtain ⟨result, last, run, free⟩ := ended.cases
      rw [run]
      cases result with
      | none => exact ⟨_, _, rfl, by rintro _ ⟨⟩⟩
      | some item => exact ⟨_, _, rfl, by rintro _ ⟨⟩; exact free item rfl⟩
  | windows =>
      simp only [system] at advances
      obtain ⟨result, last, run, free⟩ := @allocateWindows_returns _ target (settings.sanitize target) _ advances
        granular _ enough world
      rw [run]
      cases result with
      | error text => exact ⟨_, _, rfl, by rintro _ ⟨⟩⟩
      | ok item => exact ⟨_, _, rfl, by rintro _ ⟨⟩; exact free item rfl⟩
  | macos =>
      simp only [system] at advances
      have positive : 0 < fuel := Nat.lt_of_lt_of_le target.usize_pos enough
      have ended : Ends (allocateOsx target os.macos fuel (settings.sanitize target) world) :=
        retry_ends (BufferAllocatorOsx.walkRegions_ends advances positive (enough.trans (Nat.le_add_left _ _))) _ _
      obtain ⟨result, last, run, free⟩ := ended.cases
      rw [run]
      cases result with
      | none => exact ⟨_, _, rfl, by rintro _ ⟨⟩⟩
      | some item => exact ⟨_, _, rfl, by rintro _ ⟨⟩; exact free item rfl⟩

end ReloadedBuffers
