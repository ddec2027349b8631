import ReloadedBuffers.Internal.Candidates
import ReloadedBuffers.Internal.WindowsFreeSpace

/-! The candidates of the C# back end on 64-bit Windows. It asks for the same size as an
`int`, and then as a `nuint`: a size of 2 GiB or more comes out near the largest word.
-/

set_option autoImplicit false

namespace ReloadedBuffers

namespace BufferAllocatorWindows

namespace Managed

/-- `(nuint)value`, outside a checked context, extends the sign. -/
def nuint (usize : Nat) (value : Int32) : Nat := (value.toInt % usize).toNat

def addWithOverflowCap (usize a b : Nat) : Nat :=
  let max := usize - 1
  if max - a ≥ b then Words.add usize a b else max

def subtractWithUnderflowCap (a b : Nat) : Nat := if b ≤ a then a - b else 0

/-- The overloads for an `int` call those for a `nuint`, which are written as in Rust. -/
def roundUp (usize number : Nat) (multiple : Int32) : Nat := ReloadedBuffers.roundUp usize number (nuint usize multiple)

def roundDown (usize number : Nat) (multiple : Int32) : Nat := ReloadedBuffers.roundDown number (nuint usize multiple)

def overlaps (range other : AddressRange) : Bool :=
  if other.pointInRange range.startPointer then true
  else if other.pointInRange range.endPointer then true
  else if range.pointInRange other.startPointer then true
  else if range.pointInRange other.endPointer then true
  else false

def getPossibleBufferAddresses (usize minimumPtr maximumPtr pageStart pageEnd bufSize : Nat)
    (allocationGranularity : Int32) : List Nat :=
  let minMaxRange : AddressRange := ⟨minimumPtr, maximumPtr⟩
  let pageRange : AddressRange := ⟨pageStart, pageEnd⟩
  if !overlaps pageRange minMaxRange then []
  else if bufSize > pageRange.size usize then []
  else
    let pageMinAligned := roundUp usize pageRange.startPointer allocationGranularity
    let pageMinRange : AddressRange := ⟨pageMinAligned, addWithOverflowCap usize pageMinAligned bufSize⟩
    let pageMaxAligned :=
      roundDown usize (subtractWithUnderflowCap pageRange.endPointer bufSize) allocationGranularity
    let pageMaxRange : AddressRange := ⟨pageMaxAligned, Words.add usize pageMaxAligned bufSize⟩
    let ptrMinAligned := roundUp usize minimumPtr allocationGranularity
    let ptrMinRange : AddressRange := ⟨ptrMinAligned, addWithOverflowCap usize ptrMinAligned bufSize⟩
    let ptrMaxAligned := roundDown usize (subtractWithUnderflowCap maximumPtr bufSize) allocationGranularity
    let ptrMaxRange : AddressRange := ⟨ptrMaxAligned, Words.add usize ptrMaxAligned bufSize⟩
    ([pageMinRange, pageMaxRange, ptrMinRange, ptrMaxRange].filter fun range =>
      pageRange.contains range && minMaxRange.contains range).map (·.startPointer)

/-- `Cached.GetAllocationGranularity()`. -/
def getAllocationGranularity (target : Target) : Int32 := Int32.ofNat target.granularity

def getBufferPointersInPageRange (target : Target) (pageInfo : MemoryBasicInformation) (bufferSize : Int32)
    (minimumPtr maximumPtr : Nat) : List Nat :=
  getPossibleBufferAddresses target.usize minimumPtr maximumPtr pageInfo.baseAddress
    (Words.add target.usize pageInfo.baseAddress pageInfo.regionSize) (nuint target.usize bufferSize)
    (getAllocationGranularity target)

/-- The candidates that `TryAllocateBuffer` goes through: it passes `(int)settings.Size`. -/
def candidates (target : Target) (settings : BufferAllocatorSettings) (pageInfo : MemoryBasicInformation) : List Nat :=
  getBufferPointersInPageRange target pageInfo settings.size.toInt32 settings.minAddress settings.maxAddress

variable {usize : Nat}

theorem addWithOverflowCap_eq {a b : Nat} (word : a < usize) :
    addWithOverflowCap usize a b = ReloadedBuffers.addWithOverflowCap usize a b := by
  simp only [addWithOverflowCap, ReloadedBuffers.addWithOverflowCap, Words.satAdd]
  split
  · rename_i fits
    rw [Words.add_eq (by omega), Nat.min_eq_left (by omega)]
  · exact (Nat.min_eq_right (by omega)).symm

theorem subtractWithUnderflowCap_eq (a b : Nat) :
    subtractWithUnderflowCap a b = ReloadedBuffers.subtractWithUnderflowCap a b := by
  simp only [subtractWithUnderflowCap, ReloadedBuffers.subtractWithUnderflowCap, Words.satSub]
  split
  · rfl
  · omega

theorem overlaps_eq (range other : AddressRange) : overlaps range other = range.overlaps other := by
  rw [Bool.eq_iff_iff]
  simp only [overlaps, AddressRange.overlaps, Bool.or_eq_true, Bool.if_true_left, Bool.if_false_right,
    decide_eq_true_eq, Bool.and_true]
  tauto

theorem roundUp_lt {number multiple : Nat} (word : number < usize) :
    ReloadedBuffers.roundUp usize number multiple < usize := by
  rw [roundUp_eq word]
  exact Nat.mod_lt _ (Nat.zero_lt_of_lt word)

/-- The two implementations compute the same from the same words. -/
theorem getPossibleBufferAddresses_eq {minimumPtr maximumPtr pageStart pageEnd bufSize : Nat} {granularity : Int32}
    (minimum : minimumPtr < usize) (start : pageStart < usize) :
    getPossibleBufferAddresses usize minimumPtr maximumPtr pageStart pageEnd bufSize granularity =
      ReloadedBuffers.getPossibleBufferAddresses usize minimumPtr maximumPtr pageStart pageEnd bufSize
        (nuint usize granularity) := by
  simp only [getPossibleBufferAddresses, ReloadedBuffers.getPossibleBufferAddresses, roundUp, roundDown, overlaps_eq,
    subtractWithUnderflowCap_eq, addWithOverflowCap_eq (roundUp_lt minimum), addWithOverflowCap_eq (roundUp_lt start)]

theorem nuint_ofNat {value : Nat} (small : value < 2 ^ 31) (wide : 2 ^ 31 ≤ usize) :
    nuint usize (Int32.ofNat value) = value := by
  rw [nuint, Int32.toInt_ofNat_of_lt small, ← Int.natCast_mod, Int.toNat_natCast]
  exact Nat.mod_eq_of_lt (by omega)

/-- A size below 2 GiB survives; a larger one ends up as far below 2 ^ 64 as below 2 ^ 32. -/
theorem nuint_toInt32 (size : UInt32) : nuint (2 ^ 64) size.toInt32 =
    if size.toNat < 2 ^ 31 then size.toNat else size.toNat + (2 ^ 64 - 2 ^ 32) := by
  have value : size.toInt32.toInt = if 2 * size.toNat < 2 ^ 32 then (size.toNat : Int) else size.toNat - 2 ^ 32 :=
    BitVec.toInt_eq_toNat_cond size.toBitVec
  have below := size.toNat_lt
  rw [nuint, value]
  split <;> split <;> omega

/-- The size as it comes out of both conversions. -/
theorem candidates_eq {target : Target} {settings : BufferAllocatorSettings} {pageInfo : MemoryBasicInformation}
    (small : target.granularity < 2 ^ 31) (minimum : settings.minAddress < target.usize)
    (base : pageInfo.baseAddress < target.usize) : candidates target settings pageInfo =
      ReloadedBuffers.getPossibleBufferAddresses target.usize settings.minAddress settings.maxAddress pageInfo.baseAddress
        (Words.add target.usize pageInfo.baseAddress pageInfo.regionSize)
        (nuint target.usize settings.size.toInt32) target.granularity := by
  have wide := target.u32_le_usize
  rw [candidates, getBufferPointersInPageRange, getPossibleBufferAddresses_eq minimum base, getAllocationGranularity,
    nuint_ofNat small (by omega)]

end Managed

end BufferAllocatorWindows

section

variable {usize minimumPtr maximumPtr pageStart pageEnd bufSize granularity : Nat}

/-- Both upper ends are the largest word, and from the lowest start the buffer would run
over it: the one case in which an address is a candidate although the buffer does not fit. -/
structure Overruns (usize minimumPtr maximumPtr pageStart pageEnd bufSize granularity : Nat) : Prop where
  page : pageEnd = usize - 1
  window : maximumPtr = usize - 1
  room : bufSize ≤ pageEnd - pageStart
  word : lowestStart minimumPtr pageStart granularity < usize
  wraps : usize ≤ lowestStart minimumPtr pageStart granularity + bufSize

theorem Overruns.mem (overruns : Overruns usize minimumPtr maximumPtr pageStart pageEnd bufSize granularity)
    (start : pageStart < usize) : lowestStart minimumPtr pageStart granularity ∈
      getPossibleBufferAddresses usize minimumPtr maximumPtr pageStart pageEnd bufSize granularity := by
  obtain ⟨page, window, room, word, wraps⟩ := overruns
  exact lowestStart_mem (by omega) (by omega) room word (by omega) (by omega)

/-- Where nothing fits and nothing runs over, there are no candidates. -/
theorem candidates_eq_nil (positive : 0 < granularity) (small : granularity < usize) (minimum : minimumPtr < usize)
    (maximum : maximumPtr < usize) (start : pageStart < usize) (last : pageEnd < usize) (size : bufSize < usize)
    (nowhere : ∀ address, ¬ Feasible minimumPtr maximumPtr pageStart pageEnd bufSize granularity address)
    (inside : ¬ Overruns usize minimumPtr maximumPtr pageStart pageEnd bufSize granularity) :
    getPossibleBufferAddresses usize minimumPtr maximumPtr pageStart pageEnd bufSize granularity = [] := by
  apply List.eq_nil_iff_forall_not_mem.mpr
  intro address member
  rcases candidate_feasible positive small minimum maximum start last size member with fits | overrun
  · exact nowhere address fits
  · obtain ⟨wraps, word, page, window, rfl⟩ := overrun
    exact inside ⟨page, window, size_le_of_mem last (by omega) member, word, wraps⟩

/-- A place for a buffer is a place for a smaller one. -/
theorem Feasible.mono {address smaller : Nat} (le : smaller ≤ bufSize)
    (fits : Feasible minimumPtr maximumPtr pageStart pageEnd bufSize granularity address) :
    Feasible minimumPtr maximumPtr pageStart pageEnd smaller granularity address :=
  { fits with
    le_page := (Nat.add_le_add_left le _).trans fits.le_page
    le_window := (Nat.add_le_add_left le _).trans fits.le_window }

/-- The address, if it lies above both lower ends. -/
def kept (minimumPtr pageStart address : Nat) : List Nat :=
  if pageStart ≤ address ∧ minimumPtr ≤ address then [address] else []

/-- The candidates below the largest word: those rounded up do not depend on the size. -/
theorem candidates_top (room : bufSize ≤ usize - 1 - pageStart) (start : pageStart < usize) (minimum : minimumPtr < usize) :
    getPossibleBufferAddresses usize minimumPtr (usize - 1) pageStart (usize - 1) bufSize granularity =
      kept minimumPtr pageStart (roundUp usize pageStart granularity) ++
        kept minimumPtr pageStart (roundDown (usize - 1 - bufSize) granularity) ++
        kept minimumPtr pageStart (roundUp usize minimumPtr granularity) ++
        kept minimumPtr pageStart (roundDown (usize - 1 - bufSize) granularity) := by
  have overlap : (⟨pageStart, usize - 1⟩ : AddressRange).overlaps ⟨minimumPtr, usize - 1⟩ = true := by
    simp only [AddressRange.overlaps, AddressRange.pointInRange, Bool.or_eq_true, Bool.and_eq_true, decide_eq_true_eq]
    omega
  have last : usize - 1 < usize := by omega
  have order : pageStart ≤ usize - 1 := by omega
  have size : AddressRange.size usize ⟨pageStart, usize - 1⟩ = usize - 1 - pageStart := Words.sub_eq last order
  have fits : ¬ bufSize > AddressRange.size usize ⟨pageStart, usize - 1⟩ := by
    rw [size]
    omega
  have below : roundDown (usize - 1 - bufSize) granularity ≤ usize - 1 - bufSize := roundDown_le _ _
  have stops : Words.add usize (roundDown (usize - 1 - bufSize) granularity) bufSize ≤ usize - 1 := by
    rw [Words.add_eq (by omega)]
    omega
  have capped : ∀ address, addWithOverflowCap usize address bufSize ≤ usize - 1 := fun address => Nat.min_le_right _ _
  simp only [getPossibleBufferAddresses, overlap, fits, Bool.not_true, Bool.false_eq_true, if_false,
    subtractWithUnderflowCap, Words.satSub, AddressRange.contains, List.filter_cons, List.filter_nil, stops, capped,
    decide_true, Bool.and_true, Bool.and_eq_true, decide_eq_true_eq, kept, ge_iff_le]
  split <;> split <;> split <;> simp

theorem kept_above {address : Nat} (page : pageStart ≤ address) (window : minimumPtr ≤ address) :
    kept minimumPtr pageStart address = [address] := if_pos ⟨page, window⟩

/-- Rounded down from the largest word, nothing lies above both lower ends if nothing fits. -/
theorem kept_nowhere (positive : 0 < granularity) (room : bufSize ≤ usize - 1 - pageStart)
    (nowhere : ∀ address, ¬ Feasible minimumPtr (usize - 1) pageStart (usize - 1) bufSize granularity address) :
    kept minimumPtr pageStart (roundDown (usize - 1 - bufSize) granularity) = [] := by
  have below : roundDown (usize - 1 - bufSize) granularity ≤ usize - 1 - bufSize := roundDown_le _ _
  apply if_neg
  rintro ⟨page, window⟩
  exact nowhere _ ⟨dvd_roundDown positive, page, by omega, window, by omega⟩

theorem lt_roundDown_add {number multiple : Nat} (positive : 0 < multiple) :
    number < roundDown number multiple + multiple := by
  have below : number % multiple < multiple := Nat.mod_lt _ positive
  rw [roundDown_eq positive]
  omega

end

/-- Of lists that differ in one part, used twice, that part is the same if the lists are. -/
theorem part_eq_of_append {α : Type} {first second part other : List α}
    (same : first ++ part ++ second ++ part = first ++ other ++ second ++ other) : part = other := by
  have length := congrArg List.length same
  simp only [List.length_append] at length
  rw [List.append_assoc, List.append_assoc, List.append_assoc, List.append_assoc, List.append_cancel_left_eq] at same
  exact (List.append_inj same (by omega)).1

namespace BufferAllocatorWindows

variable {target : Target} {settings : BufferAllocatorSettings} {pageInfo : MemoryBasicInformation}

/-- The size is below 2 GiB; or the buffer fits nowhere, and where it would run over the
largest word, the C# size has room in the region as well. -/
def Agreeing (target : Target) (settings : BufferAllocatorSettings) (pageInfo : MemoryBasicInformation) : Prop :=
  let pageEnd := Words.add target.usize pageInfo.baseAddress pageInfo.regionSize
  settings.size.toNat < 2 ^ 31 ∨
    (∀ address, ¬ Feasible settings.minAddress settings.maxAddress pageInfo.baseAddress pageEnd settings.size.toNat
      target.granularity address) ∧
    (Overruns target.usize settings.minAddress settings.maxAddress pageInfo.baseAddress pageEnd settings.size.toNat
      target.granularity → Managed.nuint target.usize settings.size.toInt32 ≤ pageEnd - pageInfo.baseAddress)

section

variable {minimumPtr maximumPtr pageStart pageEnd size larger granularity : Nat}

section

variable (positive : 0 < granularity) (small : granularity < 2 ^ 31) (minimum : minimumPtr < 2 ^ 64)
  (maximum : maximumPtr < 2 ^ 64) (start : pageStart < 2 ^ 64) (last : pageEnd < 2 ^ 64)
  (grown : larger = size + (2 ^ 64 - 2 ^ 32)) (word : larger < 2 ^ 64)
include positive small minimum maximum start last grown word

/-- A size so much larger has the same candidates only if the buffer fits nowhere. -/
theorem nowhere_of_same
    (same : getPossibleBufferAddresses (2 ^ 64) minimumPtr maximumPtr pageStart pageEnd size granularity =
      getPossibleBufferAddresses (2 ^ 64) minimumPtr maximumPtr pageStart pageEnd larger granularity) (address : Nat) :
    ¬ Feasible minimumPtr maximumPtr pageStart pageEnd size granularity address := by
  intro fits
  obtain ⟨high, listed⟩ := fits.highest positive last
  have page := fits.page_le
  have window := fits.window_le
  have above : min pageEnd maximumPtr - size < highestStart maximumPtr pageEnd size granularity + granularity :=
    lt_roundDown_add positive
  rw [same] at listed
  -- The highest place is too high for the larger size, unless that runs over the largest word.
  rcases candidate_feasible positive (by omega) minimum maximum start last word listed with again | overrun
  · have stop := again.le_page
    have limit := again.le_window
    omega
  · obtain ⟨_, _, rfl, rfl, _⟩ := overrun
    have room := size_le_of_mem last (by omega) listed
    rw [candidates_top (by omega) start minimum, candidates_top room start minimum] at same
    have parts := part_eq_of_append same
    have top : highestStart (2 ^ 64 - 1) (2 ^ 64 - 1) size granularity = roundDown (2 ^ 64 - 1 - size) granularity := by
      rw [highestStart, Nat.min_self]
    rw [top] at high above
    rw [kept_above (by omega) (by omega)] at parts
    have below : roundDown (2 ^ 64 - 1 - larger) granularity ≤ 2 ^ 64 - 1 - larger := roundDown_le _ _
    unfold kept at parts
    split at parts
    · have equal := (List.cons.inj parts).1
      omega
    · cases parts

/-- Where the buffer fits nowhere, and has room with the larger size where it overruns,
the larger size has the same candidates. -/
theorem same_of_nowhere
    (nowhere : ∀ address, ¬ Feasible minimumPtr maximumPtr pageStart pageEnd size granularity address)
    (room : Overruns (2 ^ 64) minimumPtr maximumPtr pageStart pageEnd size granularity → larger ≤ pageEnd - pageStart) :
    getPossibleBufferAddresses (2 ^ 64) minimumPtr maximumPtr pageStart pageEnd size granularity =
      getPossibleBufferAddresses (2 ^ 64) minimumPtr maximumPtr pageStart pageEnd larger granularity := by
  have further : ∀ address, ¬ Feasible minimumPtr maximumPtr pageStart pageEnd larger granularity address :=
    fun address fits => nowhere address (fits.mono (by omega))
  by_cases overruns : Overruns (2 ^ 64) minimumPtr maximumPtr pageStart pageEnd size granularity
  · have wide := room overruns
    obtain ⟨rfl, rfl, _, _, _⟩ := overruns
    rw [candidates_top (by omega) start minimum, candidates_top wide start minimum,
      kept_nowhere positive (by omega) nowhere, kept_nowhere positive wide further]
  · have inside : ¬ Overruns (2 ^ 64) minimumPtr maximumPtr pageStart pageEnd larger granularity := by
      rintro ⟨page, window, wide, lowest, wraps⟩
      have low : max pageStart minimumPtr ≤ lowestStart minimumPtr pageStart granularity := Nat.le_add_right _ _
      -- From the lowest start the smaller size would fit, or run over as well.
      rcases Nat.lt_or_ge (lowestStart minimumPtr pageStart granularity + size) (2 ^ 64) with fits | beyond
      · have aligned : granularity ∣ lowestStart minimumPtr pageStart granularity := dvd_add_padding positive
        exact nowhere _ ⟨aligned, by omega, by omega, by omega, by omega⟩
      · exact overruns ⟨page, window, by omega, lowest, beyond⟩
    rw [candidates_eq_nil positive (by omega) minimum maximum start last (by omega) nowhere overruns,
      candidates_eq_nil positive (by omega) minimum maximum start last word further inside]

end

end

/-- Exactly when the two implementations go through the same candidates. -/
theorem candidates_agree_iff (wide : target.width = .bits64) (positive : 0 < target.granularity)
    (small : target.granularity < 2 ^ 31) (minimum : settings.minAddress < target.usize)
    (maximum : settings.maxAddress < target.usize) (base : pageInfo.baseAddress < target.usize) :
    getBufferPointersInPageRange target settings pageInfo = Managed.candidates target settings pageInfo ↔
      Agreeing target settings pageInfo := by
  have usize : target.usize = 2 ^ 64 := by rw [Target.usize, wide, PointerWidth.modulus]
  have last : Words.add target.usize pageInfo.baseAddress pageInfo.regionSize < target.usize :=
    Nat.mod_lt _ target.usize_pos
  have below := settings.size.toNat_lt
  rw [Managed.candidates_eq small minimum base, getBufferPointersInPageRange]
  unfold Agreeing
  rw [usize] at minimum maximum base last ⊢
  have size := Managed.nuint_toInt32 settings.size
  rcases Nat.lt_or_ge settings.size.toNat (2 ^ 31) with fits | large
  · rw [if_pos fits] at size
    rw [size]
    exact iff_of_true rfl (.inl fits)
  · rw [if_neg (Nat.not_lt.mpr large)] at size
    constructor
    · intro same
      right
      refine ⟨nowhere_of_same positive small minimum maximum base last size (by omega) same, fun overruns => ?_⟩
      have listed := overruns.mem base
      rw [same] at listed
      have page := overruns.page
      exact size_le_of_mem last (by omega) listed
    · intro agreeing
      obtain ⟨nowhere, room⟩ := agreeing.resolve_left (Nat.not_lt.mpr large)
      exact same_of_nowhere positive small minimum maximum base last size (by omega) nowhere room

/-- A region of 8 GiB, and a request for one granule. -/
theorem candidates_agree_granule :
    getBufferPointersInPageRange windowsTarget ⟨0x10000, 0x7FFFFFFEFFFF, 0x10000, 1, 8, true⟩ ⟨0x10000, 0x200000000, true⟩ =
      Managed.candidates windowsTarget ⟨0x10000, 0x7FFFFFFEFFFF, 0x10000, 1, 8, true⟩ ⟨0x10000, 0x200000000, true⟩ :=
  (candidates_agree_iff rfl (by decide) (by decide) (by decide) (by decide) (by decide)).mpr (.inl (by decide))

/-- A request for 2 GiB, already a multiple of the granularity: the C# back end finds no candidate. -/
theorem candidates_differ :
    getBufferPointersInPageRange windowsTarget ⟨0x10000, 0x7FFFFFFEFFFF, 0x80000000, 1, 8, true⟩
        ⟨0x10000, 0x200000000, true⟩ = [0x10000, 0x180010000, 0x10000] ∧
      Managed.candidates windowsTarget ⟨0x10000, 0x7FFFFFFEFFFF, 0x80000000, 1, 8, true⟩
        ⟨0x10000, 0x200000000, true⟩ = [] := by
  constructor <;> decide

end BufferAllocatorWindows

end ReloadedBuffers
