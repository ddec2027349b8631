import ReloadedBuffers.Internal.LinuxFreeSpace

/-! The free regions of a memory map against its complement. Mapped regions leave their
end out and free ones have both ends in them, so that every address below the highest
one is in one region of the one kind or of the other.
-/

set_option autoImplicit false

namespace ReloadedBuffers

/-- The address is in the mapped region, which leaves its end out. -/
def MemoryMapEntry.Maps (region : MemoryMapEntry) (address : Nat) : Prop :=
  region.startAddress ≤ address ∧ address < region.endAddress

/-- The address is in the free region, which has both ends in it. -/
def MemoryMapEntry.Frees (free : MemoryMapEntry) (address : Nat) : Prop :=
  free.startAddress ≤ address ∧ address ≤ free.endAddress

/-- The free regions are what the mapped ones leave of the addresses up to the highest,
in order, and no two of them meet. -/
structure Complements (maxAddress : Nat) (regions frees : List MemoryMapEntry) : Prop where
  free : ∀ address ≤ maxAddress, (∀ region ∈ regions, ¬ region.Maps address) → ∃! free, free ∈ frees ∧ free.Frees address
  mapped : ∀ address ≤ maxAddress, (∃ region ∈ regions, region.Maps address) → ∀ free ∈ frees, ¬ free.Frees address
  proper : ∀ free ∈ frees, free.startAddress ≤ free.endAddress
  increasing : frees.Pairwise fun one other => one.endAddress < other.startAddress

section

variable {usize maxAddress lastEndAddress : Nat} {regions : List MemoryMapEntry} (map : SortedMap usize regions)
  (behind : ∀ region ∈ regions, lastEndAddress ≤ region.startAddress)
include map behind

/-- A free region ends before the next one starts, since a mapped region lies between. -/
theorem freeRegionsFrom_increasing : (freeRegionsFrom maxAddress lastEndAddress regions).Pairwise
    fun one other => one.endAddress < other.startAddress := by
  induction regions generalizing lastEndAddress with
  | nil =>
      simp only [freeRegionsFrom]
      split
      · exact List.pairwise_singleton _ _
      · exact .nil
  | cons entry rest ih =>
      have proper := map.proper entry List.mem_cons_self
      refine List.pairwise_append.mpr ⟨?_, ih map.tail map.order, fun gap inside free later => ?_⟩
      · split
        · exact List.pairwise_singleton _ _
        · exact .nil
      · have low := (freeRegionsFrom_free map.tail map.order later).1
        split at inside
        · obtain rfl := List.mem_singleton.mp inside
          dsimp only
          omega
        · cases inside

/-- The loop loses no address behind the end of the last region seen. -/
theorem freeRegionsFrom_frees {page address : Nat} (pages : 1 < page) (last : page ∣ lastEndAddress)
    (aligned : ∀ region ∈ regions, page ∣ region.endAddress) (top : page ∣ maxAddress + 1)
    (above : lastEndAddress ≤ address) (below : address ≤ maxAddress)
    (unmapped : ∀ region ∈ regions, ¬ region.Maps address) :
    ∃ free ∈ freeRegionsFrom maxAddress lastEndAddress regions, free.Frees address := by
  induction regions generalizing lastEndAddress with
  | nil =>
      -- The last region ends on a page, and the highest address is the last of one.
      have room : lastEndAddress < maxAddress := by
        obtain ⟨ends, rfl⟩ := last
        obtain ⟨tops, highest⟩ := top
        have more : ends + 1 ≤ tops := by
          by_contra fewer
          have bound : page * tops ≤ page * ends := Nat.mul_le_mul_left _ (by omega)
          omega
        have whole : page * (ends + 1) ≤ page * tops := Nat.mul_le_mul_left _ more
        rw [Nat.mul_succ] at whole
        omega
      rw [freeRegionsFrom, if_pos room]
      exact ⟨_, List.mem_singleton_self _, above, below⟩
  | cons entry rest ih =>
      simp only [freeRegionsFrom, List.mem_append]
      have here := unmapped entry List.mem_cons_self
      rcases Nat.lt_or_ge address entry.startAddress with before | inside
      · refine ⟨⟨lastEndAddress, entry.startAddress - 1⟩, .inl ?_, above, Nat.le_sub_one_of_lt before⟩
        rw [if_pos (by omega)]
        exact List.mem_singleton_self _
      · have beyond : entry.endAddress ≤ address := by
          by_contra within
          exact here ⟨inside, Nat.lt_of_not_le within⟩
        obtain ⟨free, member, frees⟩ := ih map.tail map.order (aligned entry List.mem_cons_self)
          (fun region later => aligned region (List.mem_cons_of_mem _ later)) beyond
          (fun region later => unmapped region (List.mem_cons_of_mem _ later))
        exact ⟨free, .inr member, frees⟩

end

/-- An address is in one region of an increasing list at most. -/
theorem increasing_unique {frees : List MemoryMapEntry}
    (increasing : frees.Pairwise fun one other => one.endAddress < other.startAddress)
    {one other : MemoryMapEntry} (first : one ∈ frees) (second : other ∈ frees) {address : Nat}
    (left : one.Frees address) (right : other.Frees address) : one = other := by
  induction increasing with
  | nil => cases first
  | cons after _ ih =>
      rcases List.mem_cons.mp first with rfl | later <;> rcases List.mem_cons.mp second with rfl | also
      · rfl
      · exact absurd (after other also) (Nat.not_lt.mpr (right.1.trans left.2))
      · exact absurd (after one later) (Nat.not_lt.mpr (left.1.trans right.2))
      · exact ih later also

/-- The free regions of a page-aligned memory map are its complement, for a highest
address that is the last one of a page. -/
theorem getFreeRegions_complements {target : Target} {regions : List MemoryMapEntry}
    (map : SortedMap target.usize regions) {page : Nat} (pages : 1 < page)
    (aligned : ∀ region ∈ regions, page ∣ region.startAddress ∧ page ∣ region.endAddress)
    (top : page ∣ target.sysInfo.maxAddress + 1) :
    Complements target.sysInfo.maxAddress regions (getFreeRegions target regions) := by
  have behind : ∀ region ∈ regions, 0 ≤ region.startAddress := fun _ _ => Nat.zero_le _
  have increasing : (getFreeRegions target regions).Pairwise fun one other => one.endAddress < other.startAddress :=
    freeRegionsFrom_increasing map behind
  constructor
  · intro address below unmapped
    obtain ⟨free, member, frees⟩ := freeRegionsFrom_frees map behind pages (Nat.dvd_zero page)
      (fun region inside => (aligned region inside).2) top (Nat.zero_le address) below unmapped
    exact ⟨free, ⟨member, frees⟩, fun other ⟨also, meets⟩ => increasing_unique increasing also member meets frees⟩
  · rintro address _ ⟨region, inside, low, high⟩ free member ⟨start, last⟩
    rcases (freeRegionsFrom_free map behind member).2.2 region inside with before | beyond
    · omega
    · omega
  · exact fun free member => (freeRegionsFrom_free map behind member).2.1
  · exact increasing

/-- Two mapped regions that touch, and one above the highest address. -/
theorem getFreeRegions_complements_touching : Complements smallTarget.sysInfo.maxAddress
    [⟨0x10000, 0x12000⟩, ⟨0x12000, 0x15000⟩, ⟨0xFFFFFFFFFF600000, 0xFFFFFFFFFF601000⟩]
    (getFreeRegions smallTarget
      [⟨0x10000, 0x12000⟩, ⟨0x12000, 0x15000⟩, ⟨0xFFFFFFFFFF600000, 0xFFFFFFFFFF601000⟩]) :=
  getFreeRegions_complements ⟨by decide, by decide⟩ (Nat.one_lt_ofNat : 1 < 4096) (by decide) (by decide)

end ReloadedBuffers
