import ReloadedBuffers.Internal.BufferAllocator

/-! The candidate addresses of one free region, compared with the addresses at which
the buffer really fits. The least and the greatest of those are always candidates, and
a candidate that does not fit takes a saturated end for its own.
-/

set_option autoImplicit false

namespace ReloadedBuffers

/-- The buffer fits at the address, between both ends of the page range and of the
window, in exact arithmetic. -/
structure Feasible (minimumPtr maximumPtr pageStart pageEnd bufSize granularity address : Nat) : Prop where
  aligned : granularity ∣ address
  page_le : pageStart ≤ address
  le_page : address + bufSize ≤ pageEnd
  window_le : minimumPtr ≤ address
  le_window : address + bufSize ≤ maximumPtr

/-- The least multiple of the granularity at or above both lower ends. -/
def lowestStart (minimumPtr pageStart granularity : Nat) : Nat :=
  max pageStart minimumPtr + padding (max pageStart minimumPtr) granularity

/-- The greatest multiple of the granularity from which the buffer ends by both upper ends. -/
def highestStart (maximumPtr pageEnd bufSize granularity : Nat) : Nat :=
  roundDown (min pageEnd maximumPtr - bufSize) granularity

/-- Rounding up that does not go down has not wrapped. -/
theorem roundUp_of_le {usize number multiple : Nat} (positive : 0 < multiple) (small : multiple < usize)
    (word : number < usize) (le : number ≤ roundUp usize number multiple) :
    roundUp usize number multiple = number + padding number multiple ∧ number + padding number multiple < usize := by
  have close : padding number multiple < multiple := padding_lt positive
  rcases Nat.lt_or_ge (number + padding number multiple) usize with fits | wraps
  · exact ⟨roundUp_exact fits, fits⟩
  · have wrapped : (number + padding number multiple) % usize = number + padding number multiple - usize := by
      rw [Nat.mod_eq_sub_mod wraps, Nat.mod_eq_of_lt (by omega)]
    rw [roundUp_eq word, wrapped] at le
    omega

theorem lowestStart_of_le {minimumPtr pageStart granularity : Nat}
    (le : minimumPtr ≤ pageStart + padding pageStart granularity) (positive : 0 < granularity) :
    lowestStart minimumPtr pageStart granularity = pageStart + padding pageStart granularity := by
  apply Nat.le_antisymm
  · exact padding_least (dvd_add_padding positive) (max_le (Nat.le_add_right _ _) le)
  · exact padding_least (dvd_add_padding positive) ((le_max_left _ _).trans (Nat.le_add_right _ _))

theorem lowestStart_comm (minimumPtr pageStart granularity : Nat) :
    lowestStart minimumPtr pageStart granularity = lowestStart pageStart minimumPtr granularity := by
  unfold lowestStart
  rw [max_comm]

section

variable {usize minimumPtr maximumPtr pageStart pageEnd bufSize granularity address : Nat}

/-- Rounding down and adding the size back does not wrap, or ends beyond the limit. -/
theorem roundDown_end {limit : Nat} (size : bufSize < usize)
    (below : address ≤ subtractWithUnderflowCap limit bufSize)
    (high : Words.add usize address bufSize ≤ limit) : address + bufSize ≤ limit := by
  unfold subtractWithUnderflowCap Words.satSub at below
  rcases Nat.lt_or_ge limit bufSize with short | long
  · rw [Words.add_eq (by omega)] at high
    omega
  · omega

/-- What is known of a candidate: it is a multiple above both lower ends, and it fits
unless its end is not a word and both upper ends are the largest word. -/
theorem candidate_feasible (positive : 0 < granularity) (small : granularity < usize) (minimum : minimumPtr < usize)
    (maximum : maximumPtr < usize) (start : pageStart < usize) (last : pageEnd < usize) (size : bufSize < usize)
    (member : address ∈ getPossibleBufferAddresses usize minimumPtr maximumPtr pageStart pageEnd bufSize
      granularity) :
    Feasible minimumPtr maximumPtr pageStart pageEnd bufSize granularity address ∨
      usize ≤ address + bufSize ∧ address < usize ∧ pageEnd = usize - 1 ∧ maximumPtr = usize - 1 ∧
        address = lowestStart minimumPtr pageStart granularity := by
  obtain ⟨window_le, page_le, stop, le_window, le_page, shape⟩ := candidate_cases member
  rcases shape with ⟨rounded, rfl⟩ | ⟨rounded, rfl⟩
  · -- A rounded up candidate has the saturated end.
    have exact : granularity ∣ address ∧ address < usize ∧ address = lowestStart minimumPtr pageStart granularity := by
      rcases rounded with fromPage | fromWindow
      · obtain ⟨value, word⟩ := roundUp_of_le positive small start (fromPage ▸ page_le)
        rw [value] at fromPage
        rw [lowestStart_of_le (fromPage ▸ window_le) positive, fromPage]
        exact ⟨dvd_add_padding positive, word, rfl⟩
      · obtain ⟨value, word⟩ := roundUp_of_le positive small minimum (fromWindow ▸ window_le)
        rw [value] at fromWindow
        rw [lowestStart_comm, lowestStart_of_le (fromWindow ▸ page_le) positive, fromWindow]
        exact ⟨dvd_add_padding positive, word, rfl⟩
    obtain ⟨aligned, word, lowest⟩ := exact
    rcases Nat.lt_or_ge (address + bufSize) usize with fits | overrun
    · have stops : addWithOverflowCap usize address bufSize = address + bufSize := Words.satAdd_eq fits
      rw [stops] at le_window le_page
      exact .inl ⟨aligned, page_le, le_page, window_le, le_window⟩
    · have stops : addWithOverflowCap usize address bufSize = usize - 1 := Nat.min_eq_right (by omega)
      rw [stops] at le_window le_page
      exact .inr ⟨overrun, word, by omega, by omega, lowest⟩
  · left
    rcases rounded with fromPage | fromWindow
    · have inside : address + bufSize ≤ pageEnd := roundDown_end size (fromPage ▸ roundDown_le _ _) le_page
      rw [Words.add_eq (by omega)] at le_window
      exact ⟨fromPage ▸ dvd_roundDown positive, page_le, inside, window_le, le_window⟩
    · have inside : address + bufSize ≤ maximumPtr := roundDown_end size (fromWindow ▸ roundDown_le _ _) le_window
      rw [Words.add_eq (by omega)] at le_page
      exact ⟨fromWindow ▸ dvd_roundDown positive, page_le, le_page, window_le, inside⟩

/-- The four ranges that are tried: from both ends of the page range, then from both
ends of the window. -/
def candidateRanges (usize minimumPtr maximumPtr pageStart pageEnd bufSize granularity : Nat) : List AddressRange :=
  let up start : AddressRange :=
    ⟨roundUp usize start granularity, addWithOverflowCap usize (roundUp usize start granularity) bufSize⟩
  let down stop : AddressRange :=
    ⟨roundDown (subtractWithUnderflowCap stop bufSize) granularity,
      Words.add usize (roundDown (subtractWithUnderflowCap stop bufSize) granularity) bufSize⟩
  [up pageStart, down pageEnd, up minimumPtr, down maximumPtr]

/-- Neither early rejection applies when the size fits in the page range and a range
that was tried lies between the ends. -/
theorem mem_of_range (last : pageEnd < usize) (order : pageStart ≤ pageEnd) (size : bufSize ≤ pageEnd - pageStart)
    (meet : max pageStart minimumPtr ≤ min pageEnd maximumPtr) {range : AddressRange}
    (listed : range ∈ candidateRanges usize minimumPtr maximumPtr pageStart pageEnd bufSize granularity)
    (low : max pageStart minimumPtr ≤ range.startPointer) (high : range.endPointer ≤ min pageEnd maximumPtr) :
    range.startPointer ∈ getPossibleBufferAddresses usize minimumPtr maximumPtr pageStart pageEnd bufSize
      granularity := by
  have overlap : (⟨pageStart, pageEnd⟩ : AddressRange).overlaps ⟨minimumPtr, maximumPtr⟩ = true := by
    simp only [AddressRange.overlaps, AddressRange.pointInRange, Bool.or_eq_true, Bool.and_eq_true,
      decide_eq_true_eq]
    omega
  have room : ¬ bufSize > AddressRange.size usize ⟨pageStart, pageEnd⟩ := by
    rw [AddressRange.size, Words.sub_eq last order]
    omega
  simp only [getPossibleBufferAddresses, overlap, room, Bool.not_true, Bool.false_eq_true, if_false]
  refine List.mem_map.mpr ⟨range, List.mem_filter.mpr ⟨listed, ?_⟩, rfl⟩
  simp only [AddressRange.contains, Bool.and_eq_true, decide_eq_true_eq]
  omega

theorem size_le_of_mem (last : pageEnd < usize) (order : pageStart ≤ pageEnd)
    (member : address ∈ getPossibleBufferAddresses usize minimumPtr maximumPtr pageStart pageEnd bufSize
      granularity) : bufSize ≤ pageEnd - pageStart := by
  simp only [getPossibleBufferAddresses] at member
  split at member
  · cases member
  · split at member
    · cases member
    · rename_i room
      rw [AddressRange.size, Words.sub_eq last order] at room
      omega

theorem lowestStart_mem (last : pageEnd < usize) (order : pageStart ≤ pageEnd) (size : bufSize ≤ pageEnd - pageStart)
    (word : lowestStart minimumPtr pageStart granularity < usize)
    (low : lowestStart minimumPtr pageStart granularity ≤ min pageEnd maximumPtr)
    (high : min (lowestStart minimumPtr pageStart granularity + bufSize) (usize - 1) ≤ min pageEnd maximumPtr) :
    lowestStart minimumPtr pageStart granularity ∈
      getPossibleBufferAddresses usize minimumPtr maximumPtr pageStart pageEnd bufSize granularity := by
  have above : max pageStart minimumPtr ≤ lowestStart minimumPtr pageStart granularity := Nat.le_add_right _ _
  have listed : (⟨lowestStart minimumPtr pageStart granularity,
      addWithOverflowCap usize (lowestStart minimumPtr pageStart granularity) bufSize⟩ : AddressRange) ∈
      candidateRanges usize minimumPtr maximumPtr pageStart pageEnd bufSize granularity := by
    rcases le_total pageStart minimumPtr with window | page
    · have lowest : lowestStart minimumPtr pageStart granularity = roundUp usize minimumPtr granularity := by
        unfold lowestStart at word ⊢
        rw [max_eq_right window] at word ⊢
        exact (roundUp_exact word).symm
      simp [candidateRanges, lowest]
    · have lowest : lowestStart minimumPtr pageStart granularity = roundUp usize pageStart granularity := by
        unfold lowestStart at word ⊢
        rw [max_eq_left page] at word ⊢
        exact (roundUp_exact word).symm
      simp [candidateRanges, lowest]
  exact mem_of_range last order size (above.trans low) listed above high

theorem highestStart_mem (last : pageEnd < usize) (order : pageStart ≤ pageEnd) (size : bufSize ≤ pageEnd - pageStart)
    (fits : bufSize ≤ min pageEnd maximumPtr)
    (above : max pageStart minimumPtr ≤ highestStart maximumPtr pageEnd bufSize granularity) :
    highestStart maximumPtr pageEnd bufSize granularity ∈
      getPossibleBufferAddresses usize minimumPtr maximumPtr pageStart pageEnd bufSize granularity := by
  have below : highestStart maximumPtr pageEnd bufSize granularity ≤ min pageEnd maximumPtr - bufSize :=
    roundDown_le _ _
  have stops : Words.add usize (highestStart maximumPtr pageEnd bufSize granularity) bufSize =
      highestStart maximumPtr pageEnd bufSize granularity + bufSize := Words.add_eq (by omega)
  have listed : (⟨highestStart maximumPtr pageEnd bufSize granularity,
      Words.add usize (highestStart maximumPtr pageEnd bufSize granularity) bufSize⟩ : AddressRange) ∈
      candidateRanges usize minimumPtr maximumPtr pageStart pageEnd bufSize granularity := by
    rcases le_total pageEnd maximumPtr with page | window
    · simp [candidateRanges, highestStart, min_eq_left page, subtractWithUnderflowCap, Words.satSub]
    · simp [candidateRanges, highestStart, min_eq_right window, subtractWithUnderflowCap, Words.satSub]
  exact mem_of_range last order size (by omega) listed above (by simp only [stops]; omega)

/-- Where the buffer fits anywhere, its highest place is a candidate. -/
theorem Feasible.highest (positive : 0 < granularity) (last : pageEnd < usize)
    (fits : Feasible minimumPtr maximumPtr pageStart pageEnd bufSize granularity address) :
    address ≤ highestStart maximumPtr pageEnd bufSize granularity ∧
      highestStart maximumPtr pageEnd bufSize granularity ∈
        getPossibleBufferAddresses usize minimumPtr maximumPtr pageStart pageEnd bufSize granularity := by
  have page := fits.le_page
  have window := fits.le_window
  have start := fits.page_le
  have low := fits.window_le
  have high : address ≤ highestStart maximumPtr pageEnd bufSize granularity :=
    le_roundDown positive fits.aligned (Nat.le_sub_of_add_le (le_min page window))
  exact ⟨high, highestStart_mem last (by omega) (by omega) (by omega) (by omega)⟩

/-- Every candidate fits, unless both upper ends are the largest word and the buffer would
run over it from the lowest start. -/
theorem candidates_feasible_iff (positive : 0 < granularity) (small : granularity < usize)
    (minimum : minimumPtr < usize) (maximum : maximumPtr < usize) (last : pageEnd < usize) (size : bufSize < usize)
    (order : pageStart ≤ pageEnd) :
    (∀ address ∈ getPossibleBufferAddresses usize minimumPtr maximumPtr pageStart pageEnd bufSize granularity,
      Feasible minimumPtr maximumPtr pageStart pageEnd bufSize granularity address) ↔
      ¬ (pageEnd = usize - 1 ∧ maximumPtr = usize - 1 ∧ bufSize ≤ pageEnd - pageStart ∧
        lowestStart minimumPtr pageStart granularity < usize ∧
        usize ≤ lowestStart minimumPtr pageStart granularity + bufSize) := by
  constructor
  · rintro feasible ⟨page, window, room, word, overrun⟩
    have fits := (feasible _ (lowestStart_mem last order room word (by omega) (by omega))).le_page
    omega
  · intro inside address member
    have room := size_le_of_mem last order member
    rcases candidate_feasible positive small minimum maximum (by omega) last size member with fits | overrun
    · exact fits
    · obtain ⟨beyond, word, page, window, rfl⟩ := overrun
      exact absurd ⟨page, window, room, word, beyond⟩ inside

theorem candidates_feasible_iff_low :
    0x12000 ∈ getPossibleBufferAddresses (2 ^ 64) 0x10000 0x7FFFFFFF 0x11800 0x40000 0x4000 0x1000 ∧
      Feasible 0x10000 0x7FFFFFFF 0x11800 0x40000 0x4000 0x1000 0x12000 := by
  have listed :
      0x12000 ∈ getPossibleBufferAddresses (2 ^ 64) 0x10000 0x7FFFFFFF 0x11800 0x40000 0x4000 0x1000 := by
    decide
  exact ⟨listed, (candidates_feasible_iff (by decide) (by decide) (by decide) (by decide) (by decide) (by decide)
    (by decide)).mpr (by decide) 0x12000 listed⟩

/-- Eight pages are asked for, the free range at the top of a 32-bit address space has
sixteen, and the window leaves one. -/
theorem candidates_overrun : 0xFFFFF000 ∈ getPossibleBufferAddresses (2 ^ 32) 0xFFFFF000 0xFFFFFFFF 0xFFFF0000
      0xFFFFFFFF 0x8000 0x1000 ∧
    ¬ Feasible 0xFFFFF000 0xFFFFFFFF 0xFFFF0000 0xFFFFFFFF 0x8000 0x1000 0xFFFFF000 :=
  ⟨by decide, fun feasible => absurd feasible.le_page (by decide)⟩

/-- Four candidates are enough: where the buffer fits anywhere, its lowest and its
highest place are among them. -/
theorem candidates_extremes (positive : 0 < granularity) (last : pageEnd < usize)
    (some_place : ∃ address, Feasible minimumPtr maximumPtr pageStart pageEnd bufSize granularity address) :
    ∃ lowest ∈ getPossibleBufferAddresses usize minimumPtr maximumPtr pageStart pageEnd bufSize granularity,
      ∃ highest ∈ getPossibleBufferAddresses usize minimumPtr maximumPtr pageStart pageEnd bufSize granularity,
        IsLeast { address | Feasible minimumPtr maximumPtr pageStart pageEnd bufSize granularity address } lowest ∧
        IsGreatest { address | Feasible minimumPtr maximumPtr pageStart pageEnd bufSize granularity address }
          highest := by
  obtain ⟨place, fits⟩ := some_place
  have page := fits.le_page
  have window := fits.le_window
  have start := fits.page_le
  -- Any place lies between the lowest and the highest start, and so those fit as well.
  have least : ∀ address, Feasible minimumPtr maximumPtr pageStart pageEnd bufSize granularity address →
      lowestStart minimumPtr pageStart granularity ≤ address := fun address feasible =>
    padding_least feasible.aligned (max_le feasible.page_le feasible.window_le)
  have low := least place fits
  obtain ⟨high, listed⟩ := fits.highest positive last
  have above : max pageStart minimumPtr ≤ lowestStart minimumPtr pageStart granularity := Nat.le_add_right _ _
  have below : highestStart maximumPtr pageEnd bufSize granularity ≤ min pageEnd maximumPtr - bufSize :=
    roundDown_le _ _
  refine ⟨_, lowestStart_mem last (by omega) (by omega) (by omega) (by omega) (by omega), _, listed, ⟨?_, least⟩,
    ⟨?_, fun address feasible => (feasible.highest positive last).1⟩⟩
  · exact ⟨dvd_add_padding positive, by omega, by omega, by omega, by omega⟩
  · exact ⟨dvd_roundDown positive, by omega, by omega, by omega, by omega⟩

/-- A window nested in its page range, neither of them aligned. -/
theorem candidates_extremes_nested :
    ∃ lowest ∈ getPossibleBufferAddresses (2 ^ 64) 0x10801 0x19FFF 0x8000 0x40000 0x2000 0x1000,
      ∃ highest ∈ getPossibleBufferAddresses (2 ^ 64) 0x10801 0x19FFF 0x8000 0x40000 0x2000 0x1000,
        IsLeast { address | Feasible 0x10801 0x19FFF 0x8000 0x40000 0x2000 0x1000 address } lowest ∧
        IsGreatest { address | Feasible 0x10801 0x19FFF 0x8000 0x40000 0x2000 0x1000 address } highest :=
  candidates_extremes (by decide) (by decide) ⟨0x12000, by decide, by decide, by decide, by decide, by decide⟩

end

end ReloadedBuffers
