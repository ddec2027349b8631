import ReloadedBuffers.Structs.LocatorItem
import ReloadedBuffers.Structs.Params

/-! Candidate addresses inside one free region, and the loop that asks the
operating system for them, shared by the platform back ends.
-/

set_option autoImplicit false

namespace ReloadedBuffers

/-- Defines a physical address range with a minimum and maximum address. -/
structure AddressRange where
  startPointer : Nat
  endPointer : Nat
  deriving DecidableEq, Repr

namespace AddressRange

def size (usize : Nat) (range : AddressRange) : Nat := Words.sub usize range.endPointer range.startPointer

def contains (range other : AddressRange) : Bool :=
  other.startPointer ≥ range.startPointer && other.endPointer ≤ range.endPointer

def pointInRange (range : AddressRange) (point : Nat) : Bool :=
  point ≥ range.startPointer && point ≤ range.endPointer

def overlaps (range other : AddressRange) : Bool :=
  range.pointInRange other.startPointer || range.pointInRange other.endPointer ||
    other.pointInRange range.startPointer || other.pointInRange range.endPointer

end AddressRange

def getPossibleBufferAddresses (usize minimumPtr maximumPtr pageStart pageEnd bufSize
    allocationGranularity : Nat) : List Nat :=
  let minMaxRange : AddressRange := ⟨minimumPtr, maximumPtr⟩
  let pageRange : AddressRange := ⟨pageStart, pageEnd⟩
  if !pageRange.overlaps minMaxRange then []
  else if bufSize > pageRange.size usize then []
  else
    -- Page boundaries first, then the boundaries of the requested window. Only
    -- the ends of the two rounded-up candidates are capped.
    let pageMinAligned := roundUp usize pageRange.startPointer allocationGranularity
    let pageMinRange : AddressRange := ⟨pageMinAligned, addWithOverflowCap usize pageMinAligned bufSize⟩
    let pageMaxAligned :=
      roundDown (subtractWithUnderflowCap pageRange.endPointer bufSize) allocationGranularity
    let pageMaxRange : AddressRange := ⟨pageMaxAligned, Words.add usize pageMaxAligned bufSize⟩
    let ptrMinAligned := roundUp usize minimumPtr allocationGranularity
    let ptrMinRange : AddressRange := ⟨ptrMinAligned, addWithOverflowCap usize ptrMinAligned bufSize⟩
    let ptrMaxAligned := roundDown (subtractWithUnderflowCap maximumPtr bufSize) allocationGranularity
    let ptrMaxRange : AddressRange := ⟨ptrMaxAligned, Words.add usize ptrMaxAligned bufSize⟩
    ([pageMinRange, pageMaxRange, ptrMinRange, ptrMaxRange].filter fun range =>
      pageRange.contains range && minMaxRange.contains range).map (·.startPointer)

-- Both range tests on a candidate, with the four ways its tested end is computed.
theorem candidate_cases {usize minimumPtr maximumPtr pageStart pageEnd bufSize granularity address : Nat}
    (member : address ∈ getPossibleBufferAddresses usize minimumPtr maximumPtr pageStart pageEnd bufSize
      granularity) :
    minimumPtr ≤ address ∧ pageStart ≤ address ∧ ∃ last, last ≤ maximumPtr ∧ last ≤ pageEnd ∧
      (((address = roundUp usize pageStart granularity ∨ address = roundUp usize minimumPtr granularity) ∧
          last = addWithOverflowCap usize address bufSize) ∨
        ((address = roundDown (subtractWithUnderflowCap pageEnd bufSize) granularity ∨
            address = roundDown (subtractWithUnderflowCap maximumPtr bufSize) granularity) ∧
          last = Words.add usize address bufSize)) := by
  simp only [getPossibleBufferAddresses] at member
  split at member
  · cases member
  · split at member
    · cases member
    · obtain ⟨range, kept, rfl⟩ := List.mem_map.mp member
      obtain ⟨listed, fits⟩ := List.mem_filter.mp kept
      simp only [AddressRange.contains, Bool.and_eq_true, decide_eq_true_eq] at fits
      obtain ⟨⟨pageLow, pageHigh⟩, ⟨windowLow, windowHigh⟩⟩ := fits
      refine ⟨windowLow, pageLow, range.endPointer, windowHigh, pageHigh, ?_⟩
      simp only [List.mem_cons, List.not_mem_nil, or_false] at listed
      rcases listed with rfl | rfl | rfl | rfl
      · exact .inl ⟨.inl rfl, rfl⟩
      · exact .inr ⟨.inl rfl, rfl⟩
      · exact .inl ⟨.inr rfl, rfl⟩
      · exact .inr ⟨.inr rfl, rfl⟩

/-- The tested end of a candidate is its true end unless that is not an address. -/
theorem mem_candidates {usize minimumPtr maximumPtr pageStart pageEnd bufSize granularity address : Nat}
    (member : address ∈ getPossibleBufferAddresses usize minimumPtr maximumPtr pageStart pageEnd bufSize
      granularity) :
    minimumPtr ≤ address ∧ pageStart ≤ address ∧
      (address + bufSize < usize → address + bufSize ≤ maximumPtr ∧ address + bufSize ≤ pageEnd) := by
  obtain ⟨windowLow, pageLow, last, windowHigh, pageHigh, shape⟩ := candidate_cases member
  refine ⟨windowLow, pageLow, fun word => ?_⟩
  have exact : last = address + bufSize := by
    rcases shape with ⟨_, capped⟩ | ⟨_, wrapped⟩
    · exact capped.trans (Words.satAdd_eq word)
    · exact wrapped.trans (Words.add_eq word)
  exact ⟨exact ▸ windowHigh, exact ▸ pageHigh⟩

/-- Ask for each candidate in turn. A null answer is skipped; an answer elsewhere
is given back; the first answer at the candidate itself is kept. -/
def tryCandidates {σ : Type} (request : Nat → σ → Nat × σ) (release : Nat → σ → σ) :
    List Nat → σ → Option Nat × σ
  | [], world => (none, world)
  | address :: rest, world =>
    let (allocated, world) := request address world
    if allocated = 0 then tryCandidates request release rest world
    else if allocated ≠ address then tryCandidates request release rest (release allocated world)
    else (some allocated, world)

/-- Repeat a walk over the free regions until it obtains something. -/
def retry {σ α : Type} (walk : σ → Option (Option α × σ)) : Nat → σ → Option (Option α × σ)
  | 0, world => some (none, world)
  | count + 1, world =>
    match walk world with
    | none => none
    | some (some found, world) => some (some found, world)
    | some (none, world) => retry walk count world

/-- A relation between the system before a search, what the search found and the system
after it, for searches put together: a search may do nothing, and may follow one that
found nothing. -/
structure WalkRule {σ α : Type} (Ends : σ → Option α → σ → Prop) : Prop where
  idle : ∀ world, Ends world none world
  again : ∀ world next last result, Ends world none next → Ends next result last → Ends world result last

namespace WalkRule

variable {σ α : Type} {Ends : σ → Option α → σ → Prop} {world last : σ}

theorem map {β : Type} (rule : WalkRule Ends) (wrap : β → α) :
    WalkRule fun world result last => Ends world (result.map wrap) last where
  idle := rule.idle
  again world next last result := rule.again world next last (result.map wrap)

/-- What holds of every walk holds of all of them together. -/
theorem retry (rule : WalkRule Ends) {walk : σ → Option (Option α × σ)}
    (once : ∀ world result last, walk world = some (result, last) → Ends world result last) {count : Nat}
    {result : Option α} (run : retry walk count world = some (result, last)) : Ends world result last := by
  induction count generalizing world with
  | zero =>
      cases run
      exact rule.idle _
  | succ count ih =>
      simp only [ReloadedBuffers.retry] at run
      split at run
      · cases run
      · rename_i found next walked
        cases run
        exact once _ _ _ walked
      · rename_i next walked
        exact rule.again _ _ _ _ (once _ _ _ walked) (ih run)

/-- The three answers to a request for a candidate. -/
theorem tryCandidates {Ends : σ → Option Nat → σ → Prop} (rule : WalkRule Ends) {request : Nat → σ → Nat × σ}
    {release : Nat → σ → σ} {candidates : List Nat}
    (null : ∀ address ∈ candidates, ∀ world, (request address world).1 = 0 → Ends world none (request address world).2)
    (elsewhere : ∀ address ∈ candidates, ∀ world, (request address world).1 ≠ 0 → (request address world).1 ≠ address →
      Ends world none (release (request address world).1 (request address world).2))
    (here : ∀ address ∈ candidates, ∀ world, (request address world).1 = address → address ≠ 0 →
      Ends world (some address) (request address world).2) {result : Option Nat}
    (run : tryCandidates request release candidates world = (result, last)) : Ends world result last := by
  induction candidates generalizing world with
  | nil =>
      cases run
      exact rule.idle _
  | cons address rest ih =>
      have later := fun {next : σ} => @ih next (fun other member => null other (List.mem_cons_of_mem address member))
        (fun other member => elsewhere other (List.mem_cons_of_mem address member))
        (fun other member => here other (List.mem_cons_of_mem address member))
      simp only [ReloadedBuffers.tryCandidates] at run
      split at run
      · rename_i refused
        exact rule.again _ _ _ _ (null address List.mem_cons_self world refused) (later run)
      · rename_i nonzero
        split at run
        · rename_i misplaced
          exact rule.again _ _ _ _ (elsewhere address List.mem_cons_self world nonzero misplaced) (later run)
        · rename_i same
          cases run
          have answer : (request address world).1 = address := not_not.mp same
          have kept := here address List.mem_cons_self world answer fun zero => nonzero (answer.trans zero)
          rwa [answer]

end WalkRule

/-- The operating system's side of `request` and `release`. `held` is memory that
the process has been given and has not given back. -/
structure MemoryService {σ : Type} (usize failed : Nat) (held : σ → Set Nat)
    (request : Nat → Nat → σ → Nat × σ) (release : Nat → Nat → σ → σ) : Prop where
  empty : ∀ address world, (request address 0 world).1 = failed
  granted : ∀ address size world, (request address size world).1 ≠ failed →
    (request address size world).1 + size < usize ∧
    Disjoint (Words.extent (request address size world).1 size) (held world) ∧
    held world ∪ Words.extent (request address size world).1 size ⊆ held (request address size world).2
  refused : ∀ address size world, (request address size world).1 = failed →
    held world ⊆ held (request address size world).2
  released : ∀ address size world, held world \ Words.extent address size ⊆ held (release address size world)
  ignored : ∀ size world, held world ⊆ held (release failed size world)

/-- What an allocation obtained, against the memory held before and after it. -/
structure Obtained (usize : Nat) (settings : BufferAllocatorSettings) (before after : Set Nat)
    (item : LocatorItem) : Prop where
  fresh : item = LocatorItem.new item.baseAddress settings.size
  allocated : item.baseAddress ≠ 0
  served : 0 < settings.size.toNat
  end_lt : item.baseAddress + settings.size.toNat < usize
  min_le : settings.minAddress ≤ item.baseAddress
  le_max : item.baseAddress + settings.size.toNat ≤ settings.maxAddress
  separate : Disjoint (Words.extent item.baseAddress settings.size.toNat) before
  grows : before ∪ Words.extent item.baseAddress settings.size.toNat ⊆ after

/-- Either nothing was obtained and nothing was lost, or an item was obtained. -/
def Outcome (usize : Nat) (settings : BufferAllocatorSettings) (before after : Set Nat) :
    Option LocatorItem → Prop
  | none => before ⊆ after
  | some item => Obtained usize settings before after item

variable {usize : Nat} {settings : BufferAllocatorSettings} {before middle after : Set Nat}

theorem Obtained.weaken {item : LocatorItem} (smaller : before ⊆ middle)
    (obtained : Obtained usize settings middle after item) : Obtained usize settings before after item :=
  { obtained with
    separate := obtained.separate.mono_right smaller
    grows := (Set.union_subset_union_left _ smaller).trans obtained.grows }

theorem Outcome.weaken {result : Option LocatorItem} (smaller : before ⊆ middle)
    (outcome : Outcome usize settings middle after result) : Outcome usize settings before after result := by
  cases result with
  | none => exact smaller.trans outcome
  | some item => exact Obtained.weaken smaller outcome

/-- Memory stays held across a request that is answered elsewhere and given back. -/
theorem MemoryService.returned {σ : Type} {failed : Nat} {held : σ → Set Nat}
    {request : Nat → Nat → σ → Nat × σ} {release : Nat → Nat → σ → σ}
    (service : MemoryService usize failed held request release) (address size : Nat) (world : σ) :
    held world ⊆ held (release (request address size world).1 size (request address size world).2) := by
  by_cases refused : (request address size world).1 = failed
  · rw [refused]
    exact (service.refused address size world refused).trans (service.ignored size _)
  · obtain ⟨_, separate, grows⟩ := service.granted address size world refused
    intro byte inside
    refine service.released _ _ _ ⟨grows (Or.inl inside), fun taken => ?_⟩
    exact Set.disjoint_left.mp separate taken inside

theorem MemoryService.kept {σ : Type} {failed : Nat} {held : σ → Set Nat}
    {request : Nat → Nat → σ → Nat × σ} {release : Nat → Nat → σ → σ}
    (service : MemoryService usize failed held request release) (address size : Nat) (world : σ) :
    held world ⊆ held (request address size world).2 := by
  by_cases refused : (request address size world).1 = failed
  · exact service.refused address size world refused
  · exact Set.subset_union_left.trans (service.granted address size world refused).2.2

theorem Outcome.walkRule {σ : Type} (usize : Nat) (settings : BufferAllocatorSettings) (held : σ → Set Nat) :
    WalkRule fun before result after => Outcome usize settings (held before) (held after) result where
  idle _ := subset_rfl
  again _ _ _ _ first later := later.weaken first

/-- The candidate loop obtains one of its candidates, or loses nothing. -/
theorem tryCandidates_outcome {σ : Type} {failed : Nat} {held : σ → Set Nat}
    {request : Nat → Nat → σ → Nat × σ} {release : Nat → Nat → σ → σ}
    (service : MemoryService usize failed held request release) {candidates : List Nat}
    (inWindow : ∀ address ∈ candidates, settings.minAddress ≤ address ∧
      (address + settings.size.toNat < usize → address + settings.size.toNat ≤ settings.maxAddress))
    (proper : ∀ address ∈ candidates, address ≠ 0 → address ≠ failed) {world last : σ} {result : Option Nat}
    (run : tryCandidates (request · settings.size.toNat) (release · settings.size.toNat) candidates world =
      (result, last)) :
    Outcome usize settings (held world) (held last) (result.map (LocatorItem.new · settings.size)) := by
  refine ((Outcome.walkRule usize settings held).map (LocatorItem.new · settings.size)).tryCandidates ?_ ?_ ?_ run
  · exact fun address _ world _ => service.kept address _ world
  · exact fun address _ world _ _ => service.returned address _ world
  · intro address member world here nonzero
    have accepted : (request address settings.size.toNat world).1 ≠ failed := by
      rw [here]
      exact proper address member nonzero
    obtain ⟨word, separate, grows⟩ := service.granted address _ world accepted
    obtain ⟨low, high⟩ := inWindow address member
    rw [here] at word separate grows
    refine ⟨rfl, nonzero, ?_, word, low, high word, separate, grows⟩
    by_contra empty
    have zero : settings.size.toNat = 0 := by omega
    rw [zero] at accepted
    exact accepted (service.empty address world)

/-- The search found something exactly when it was there, and otherwise left the system
as it was. -/
def Decides {σ α : Type} (there : Prop) (still : σ → Prop) : Option α × σ → Prop
  | (some _, _) => there
  | (none, world) => ¬ there ∧ still world

theorem Decides.congr {σ α : Type} {there other : Prop} {still : σ → Prop} {outcome : Option α × σ}
    (same : there ↔ other) (decides : Decides there still outcome) : Decides other still outcome := by
  rwa [← propext same]

theorem Decides.map {σ α β : Type} {there : Prop} {still : σ → Prop} {outcome : Option α × σ} (wrap : α → β)
    (decides : Decides there still outcome) : Decides there still (outcome.1.map wrap, outcome.2) := by
  obtain ⟨result, world⟩ := outcome
  cases result with
  | none => exact decides
  | some found => exact decides

/-- Against a system that serves some of the candidates and refuses the others without
a change, the loop ends at one that is served. -/
theorem tryCandidates_decides {σ : Type} {request : Nat → σ → Nat × σ} {release : Nat → σ → σ} {still : σ → Prop}
    {granted : Nat → Prop} {candidates : List Nat}
    (grants : ∀ address ∈ candidates, granted address → address ≠ 0 ∧
      ∀ world, still world → (request address world).1 = address)
    (refuses : ∀ address ∈ candidates, ¬ granted address → ∀ world, still world →
      (request address world).1 = 0 ∧ still (request address world).2 ∨
      (request address world).1 ≠ 0 ∧ (request address world).1 ≠ address ∧
        still (release (request address world).1 (request address world).2))
    {world : σ} (start : still world) :
    Decides (∃ address ∈ candidates, granted address) still (tryCandidates request release candidates world) := by
  induction candidates generalizing world with
  | nil => exact ⟨fun found => (nomatch found), start⟩
  | cons address rest ih =>
      have again := fun {next : σ} (same : still next) => ih
        (fun other member => grants other (List.mem_cons_of_mem _ member))
        (fun other member => refuses other (List.mem_cons_of_mem _ member)) same
      simp only [tryCandidates]
      by_cases served : granted address
      · obtain ⟨nonzero, answers⟩ := grants address List.mem_cons_self served
        rw [answers world start, if_neg nonzero, if_neg (not_not.mpr rfl)]
        exact ⟨address, List.mem_cons_self, served⟩
      · have skip : (∃ other ∈ rest, granted other) ↔ ∃ other ∈ address :: rest, granted other := by
          simp [served]
        rcases refuses address List.mem_cons_self served world start with ⟨null, same⟩ | ⟨nonzero, elsewhere, same⟩
        · rw [if_pos null]
          exact (again same).congr skip
        · rw [if_neg nonzero, if_pos elsewhere]
          exact (again same).congr skip

end ReloadedBuffers
