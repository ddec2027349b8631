import ReloadedBuffers.Internal.BufferAllocatorLinux
import ReloadedBuffers.Internal.Candidates

/-! Whether the Linux back end finds space in a memory map that does not change. A free
region ends one byte before the next mapped one, and the candidates of a region end by
its end, so a buffer is never placed right against the mapping behind it.
-/

set_option autoImplicit false

namespace ReloadedBuffers

/-- A memory map as the kernel lists it: regions that are not empty, in order. -/
structure SortedMap (usize : Nat) (regions : List MemoryMapEntry) : Prop where
  proper : ∀ region ∈ regions, region.startAddress < region.endAddress ∧ region.endAddress < usize
  sorted : regions.Pairwise fun one other => one.endAddress ≤ other.startAddress

/-- The bytes from `start` on lie outside every mapped region. -/
def Unmapped (regions : List MemoryMapEntry) (start length : Nat) : Prop :=
  ∀ region ∈ regions, start + length ≤ region.startAddress ∨ region.endAddress ≤ start

instance (regions : List MemoryMapEntry) (start length : Nat) : Decidable (Unmapped regions start length) :=
  inferInstanceAs (Decidable (∀ region ∈ regions, start + length ≤ region.startAddress ∨ region.endAddress ≤ start))

theorem SortedMap.tail {usize : Nat} {entry : MemoryMapEntry} {rest : List MemoryMapEntry}
    (map : SortedMap usize (entry :: rest)) : SortedMap usize rest where
  proper region member := map.proper region (List.mem_cons_of_mem _ member)
  sorted := map.sorted.of_cons

theorem SortedMap.order {usize : Nat} {entry : MemoryMapEntry} {rest : List MemoryMapEntry}
    (map : SortedMap usize (entry :: rest)) : ∀ region ∈ rest, entry.endAddress ≤ region.startAddress :=
  fun _ later => List.rel_of_pairwise_cons map.sorted later

section

variable {usize maxAddress lastEndAddress : Nat} {regions : List MemoryMapEntry} (map : SortedMap usize regions)
  (behind : ∀ region ∈ regions, lastEndAddress ≤ region.startAddress)
include map behind

/-- A free region meets no mapped one, and ends before the next of them starts. -/
theorem freeRegionsFrom_free {free : MemoryMapEntry} (member : free ∈ freeRegionsFrom maxAddress lastEndAddress regions) :
    lastEndAddress ≤ free.startAddress ∧ free.startAddress ≤ free.endAddress ∧
      ∀ region ∈ regions, free.endAddress < region.startAddress ∨ region.endAddress ≤ free.startAddress := by
  induction regions generalizing lastEndAddress with
  | nil =>
      simp only [freeRegionsFrom] at member
      split at member
      · rename_i below
        obtain rfl := List.mem_singleton.mp member
        exact ⟨Nat.le_refl _, below.le, fun _ inside => absurd inside List.not_mem_nil⟩
      · cases member
  | cons entry rest ih =>
      have proper := map.proper entry List.mem_cons_self
      have start := behind entry List.mem_cons_self
      have order := map.order
      simp only [freeRegionsFrom, List.mem_append] at member
      rcases member with gap | later
      · split at gap
        · rename_i wide
          obtain rfl := List.mem_singleton.mp gap
          refine ⟨Nat.le_refl _, Nat.le_sub_one_of_lt wide, fun region inside => .inl ?_⟩
          dsimp only
          rcases List.mem_cons.mp inside with rfl | further
          · omega
          · have beyond := order region further
            omega
        · cases gap
      · obtain ⟨low, high, apart⟩ := ih map.tail order later
        refine ⟨by omega, high, fun region inside => ?_⟩
        rcases List.mem_cons.mp inside with rfl | further
        · exact .inr low
        · exact apart region further

end

/-- A kernel with one memory map. It serves every request for unmapped memory at an
aligned address below the highest one, and refuses requests at null, of no bytes, and
beyond the highest address. `still` says that nothing has been mapped yet. -/
structure LinuxCalls.Static {σ : Type} (calls : LinuxCalls σ) (target : Target) (regions : List MemoryMapEntry)
    (still : σ → Prop) : Prop where
  reads : ∀ processId world, still world → ∃ next, calls.memoryMap processId world = some (regions, next) ∧ still next
  grants : ∀ address length world, still world → address ≠ 0 → target.granularity ∣ address → 0 < length →
    address + length ≤ target.sysInfo.maxAddress → Unmapped regions address length →
    (calls.mmap address length world).1 = address
  refuses : ∀ address length world, still world →
    (address = 0 ∨ length = 0 ∨ target.sysInfo.maxAddress < address + length) →
    (calls.mmap address length world).1 = mapFailed target.usize ∧
      still (calls.munmap (mapFailed target.usize) length (calls.mmap address length world).2)

namespace BufferAllocatorLinux

/-- The buffer fits somewhere in a free region, other than at null. -/
def HasPlace (target : Target) (settings : BufferAllocatorSettings) (free : MemoryMapEntry) : Prop :=
  0 < settings.size.toNat ∧ ∃ address ≠ 0, Feasible settings.minAddress settings.maxAddress free.startAddress
    free.endAddress settings.size.toNat target.granularity address

section

variable {σ : Type} {target : Target} {calls : LinuxCalls σ} {settings : BufferAllocatorSettings}
  {regions : List MemoryMapEntry} {still : σ → Prop} (static : calls.Static target regions still)
  (booted : target.Booted) (power : ∃ exponent, target.granularity = 2 ^ exponent)
  (words : target.sysInfo.maxAddress < target.usize) (minimum : settings.minAddress < target.usize)
  (highest : settings.maxAddress ≤ target.sysInfo.maxAddress)
include static booted power words minimum highest

theorem tryAllocateBuffer_decides {free : MemoryMapEntry} (order : free.startAddress ≤ free.endAddress)
    (word : free.endAddress < target.usize)
    (apart : ∀ region ∈ regions, free.endAddress < region.startAddress ∨ region.endAddress ≤ free.startAddress)
    {world : σ} (start : still world) :
    Decides (HasPlace target settings free) still (tryAllocateBuffer target calls settings free world) := by
  have large : 4096 ≤ target.granularity := booted.large
  have small := booted.granularity_lt
  have size : settings.size.toNat < target.usize := Nat.lt_of_lt_of_le settings.size.toNat_lt target.u32_le_usize
  have fits := fun {address : Nat} (member : address ∈ candidates target settings free) =>
    candidate_feasible (by omega) small minimum (by omega) (by omega) word size member
  let granted address := address ≠ 0 ∧ 0 < settings.size.toNat ∧
    address + settings.size.toNat ≤ target.sysInfo.maxAddress
  -- A candidate whose end is no word is refused, so one that is served fits.
  have granted_feasible : ∀ address ∈ candidates target settings free, granted address →
      Feasible settings.minAddress settings.maxAddress free.startAddress free.endAddress settings.size.toNat
        target.granularity address := by
    rintro address member ⟨_, _, low⟩
    rcases fits member with feasible | ⟨overrun, _⟩
    · exact feasible
    · omega
  have aligned : ∀ address ∈ candidates target settings free, target.granularity ∣ address := by
    intro address member
    rcases fits member with feasible | ⟨_, _, _, _, rfl⟩
    · exact feasible.aligned
    · exact dvd_add_padding (by omega)
  have decides := @tryCandidates_decides σ (calls.mmap · settings.size.toNat) (calls.munmap · settings.size.toNat)
    still granted (candidates target settings free) ?_ ?_ world start
  · refine (decides.congr ⟨?_, ?_⟩).map (LocatorItem.new · settings.size)
    · rintro ⟨address, member, served⟩
      exact ⟨served.2.1, address, served.1, granted_feasible address member served⟩
    · rintro ⟨served, address, nonzero, feasible⟩
      obtain ⟨_, _, highest, member, _, greatest⟩ := candidates_extremes (by omega) word ⟨address, feasible⟩
      have above : address ≤ highest := greatest.2 feasible
      have below : highest + settings.size.toNat ≤ settings.maxAddress := greatest.1.le_window
      exact ⟨highest, member, by omega, served, by omega⟩
  · intro address member served
    have feasible := granted_feasible address member served
    refine ⟨served.1, fun world same => static.grants address _ world same served.1 feasible.aligned served.2.1
      served.2.2 fun region inside => ?_⟩
    have low := feasible.page_le
    have high := feasible.le_page
    rcases apart region inside with before | beyond <;> omega
  · intro address member refused world same
    have refusal : address = 0 ∨ settings.size.toNat = 0 ∨ target.sysInfo.maxAddress < address + settings.size.toNat := by
      simp only [granted] at refused
      omega
    obtain ⟨answer, after⟩ := static.refuses address settings.size.toNat world same refusal
    refine .inr ⟨?_, ?_, ?_⟩
    -- The answer to a refusal is an address too, and the loop compares it with the candidate.
    · rw [answer, mapFailed]
      omega
    · rw [answer]
      exact (aligned_ne_mapFailed power (by omega) (aligned address member)).symm
    · rw [answer]
      exact after

end

end BufferAllocatorLinux

end ReloadedBuffers
