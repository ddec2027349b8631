import ReloadedBuffers.Internal.BufferAllocatorWindows
import ReloadedBuffers.Internal.Candidates
import ReloadedBuffers.Internal.CallLog

/-! The page walk over a Windows address space that does not change. The cursor keeps
the offset of the lowest address within its page, and enters every region above that
address at the same offset, so no region is left out.
-/

set_option autoImplicit false

namespace ReloadedBuffers

def windowsPage : Nat := 4096

/-- Pages in the same state, `stop` not included. -/
structure PageRegion where
  start : Nat
  stop : Nat
  isFree : Bool
  deriving DecidableEq, Repr

/-- Regions of whole pages, each of which starts where the one before it stops. -/
def Contiguous : Nat → List PageRegion → Prop
  | _, [] => True
  | start, region :: rest =>
    region.start = start ∧ region.start < region.stop ∧ windowsPage ∣ region.start ∧ windowsPage ∣ region.stop ∧
      Contiguous region.stop rest

instance decidableContiguous : ∀ (start : Nat) (regions : List PageRegion), Decidable (Contiguous start regions)
  | _, [] => .isTrue trivial
  | start, region :: rest =>
    have := decidableContiguous region.stop rest
    inferInstanceAs (Decidable (region.start = start ∧ region.start < region.stop ∧ windowsPage ∣ region.start ∧
      windowsPage ∣ region.stop ∧ Contiguous region.stop rest))

/-- An address space from null up to an address. -/
structure AddressSpace (usize : Nat) where
  regions : List PageRegion
  contiguous : Contiguous 0 regions
  word : ∀ region ∈ regions, region.stop < usize

namespace PageRegion

/-- The answer to a query in the region: its rest, from the page that was asked for. -/
def report (region : PageRegion) (query : Nat) : MemoryBasicInformation :=
  ⟨roundDown query windowsPage, region.stop - roundDown query windowsPage, region.isFree⟩

/-- The buffer fits in the region at the address. -/
structure Holds (region : PageRegion) (target : Target) (settings : BufferAllocatorSettings) (address : Nat) :
    Prop where
  isFree : region.isFree = true
  served : 0 < settings.size.toNat
  feasible : Feasible settings.minAddress settings.maxAddress region.start region.stop settings.size.toNat
    target.granularity address

/-- Where the walk enters the region. -/
def entry (region : PageRegion) (settings : BufferAllocatorSettings) : Nat :=
  if region.start ≤ settings.minAddress then settings.minAddress
  else region.start + settings.minAddress % windowsPage

end PageRegion

def AddressSpace.query {usize : Nat} (space : AddressSpace usize) (address : Nat) : Option MemoryBasicInformation :=
  (space.regions.find? fun region => region.start ≤ address ∧ address < region.stop).map (·.report address)

theorem Contiguous.proper {start : Nat} {regions : List PageRegion} (contiguous : Contiguous start regions)
    {region : PageRegion} (member : region ∈ regions) :
    start ≤ region.start ∧ region.start < region.stop ∧ windowsPage ∣ region.start ∧ windowsPage ∣ region.stop := by
  induction regions generalizing start with
  | nil => cases member
  | cons head rest ih =>
      obtain ⟨rfl, some_page, low, high, follows⟩ := contiguous
      rcases List.mem_cons.mp member with rfl | later
      · exact ⟨Nat.le_refl _, some_page, low, high⟩
      · have proper := ih follows later
        exact ⟨by omega, proper.2⟩

theorem Contiguous.head_start {start : Nat} {regions : List PageRegion} (contiguous : Contiguous start regions)
    {region : PageRegion} (first : region ∈ regions.head?) : region.start = start := by
  cases regions with
  | nil => cases first
  | cons head rest =>
      obtain rfl := Option.some.inj first
      exact contiguous.1

theorem Contiguous.find {start : Nat} {regions : List PageRegion} (contiguous : Contiguous start regions)
    {region : PageRegion} (member : region ∈ regions) {address : Nat} (low : region.start ≤ address)
    (high : address < region.stop) :
    regions.find? (fun region => region.start ≤ address ∧ address < region.stop) = some region := by
  induction regions generalizing start with
  | nil => cases member
  | cons head rest ih =>
      obtain ⟨rfl, _, _, _, follows⟩ := contiguous
      rcases List.mem_cons.mp member with rfl | later
      · simp [low, high]
      · have behind := (follows.proper later).1
        rw [List.find?_cons_of_neg (by simp; omega)]
        exact ih follows later

/-- Every address below the end of a region lies in some region. -/
theorem Contiguous.covers {start : Nat} {regions : List PageRegion} (contiguous : Contiguous start regions)
    {region : PageRegion} (member : region ∈ regions) {address : Nat} (low : start ≤ address)
    (high : address < region.stop) : ∃ other ∈ regions, other.start ≤ address ∧ address < other.stop := by
  induction regions generalizing start with
  | nil => cases member
  | cons head rest ih =>
      obtain ⟨rfl, _, _, _, follows⟩ := contiguous
      rcases Nat.lt_or_ge address head.stop with here | beyond
      · exact ⟨head, List.mem_cons_self, low, here⟩
      · rcases List.mem_cons.mp member with rfl | later
        · omega
        · obtain ⟨other, inside, bounds⟩ := ih follows later beyond
          exact ⟨other, List.mem_cons_of_mem _ inside, bounds⟩

/-- The regions that end above an address, from the one that holds it on. -/
theorem Contiguous.above {start : Nat} {regions : List PageRegion} (contiguous : Contiguous start regions)
    {address : Nat} (low : start ≤ address) :
    ∃ first rest, Contiguous first rest ∧ rest <:+ regions ∧
      (∀ region ∈ regions, region ∉ rest → region.stop ≤ address) ∧
      ∀ region ∈ rest.head?, region.start ≤ address ∧ address < region.stop := by
  induction regions generalizing start with
  | nil => exact ⟨start, [], contiguous, List.suffix_rfl, fun _ member => (nomatch member),
      fun _ member => (nomatch member)⟩
  | cons head rest ih =>
      have whole := contiguous
      obtain ⟨rfl, _, _, _, follows⟩ := contiguous
      rcases Nat.lt_or_ge address head.stop with here | beyond
      · refine ⟨head.start, head :: rest, whole, List.suffix_rfl, fun _ member out => absurd member out, ?_⟩
        intro region first
        obtain rfl := Option.some.inj first
        exact ⟨low, here⟩
      · obtain ⟨first, remaining, later, inside, passed, holder⟩ := ih follows beyond
        refine ⟨first, remaining, later, inside.trans (List.suffix_cons _ _), ?_, holder⟩
        intro region member out
        rcases List.mem_cons.mp member with rfl | further
        · exact beyond
        · exact passed region further out

section

variable {usize : Nat} {space : AddressSpace usize}

theorem AddressSpace.query_eq {region : PageRegion} (member : region ∈ space.regions) {address : Nat}
    (low : region.start ≤ address) (high : address < region.stop) :
    space.query address = some (region.report address) := by
  rw [AddressSpace.query, space.contiguous.find member low high]
  rfl

theorem AddressSpace.query_cases {address : Nat} {info : MemoryBasicInformation}
    (answer : space.query address = some info) :
    ∃ region ∈ space.regions, region.start ≤ address ∧ address < region.stop ∧ info = region.report address := by
  obtain ⟨region, found, rfl⟩ := Option.map_eq_some_iff.mp answer
  have bounds := List.find?_some found
  simp only [decide_eq_true_eq] at bounds
  exact ⟨region, List.mem_of_find?_eq_some found, bounds.1, bounds.2, rfl⟩

theorem AddressSpace.query_none {address : Nat} (beyond : ∀ region ∈ space.regions, region.stop ≤ address) :
    space.query address = none := by
  cases answer : space.query address with
  | none => rfl
  | some info =>
      obtain ⟨region, member, _, high, _⟩ := query_cases answer
      have behind := beyond region member
      omega

end

/-- Rounding down to a page stays in the region. -/
theorem PageRegion.page_bounds {region : PageRegion} {address : Nat} (aligned : windowsPage ∣ region.start)
    (low : region.start ≤ address) (high : address < region.stop) :
    region.start ≤ roundDown address windowsPage ∧ roundDown address windowsPage + address % windowsPage = address ∧
      roundDown address windowsPage < region.stop := by
  have positive : 0 < windowsPage := by decide
  have small := Nat.mod_le address windowsPage
  have value := @roundDown_eq address _ positive
  exact ⟨le_roundDown positive aligned low, by omega, by omega⟩

/-- A whole page fits above the last page boundary that is a word. -/
theorem page_room {target : Target} {stop : Nat} (aligned : windowsPage ∣ stop) (word : stop < target.usize) :
    stop + windowsPage ≤ target.usize := by
  have whole : windowsPage ∣ target.usize := (Dvd.intro _ rfl : windowsPage ∣ windowsPage * 2 ^ 20).trans
    target.width.u32_dvd_modulus
  unfold windowsPage at aligned whole ⊢
  omega

/-- A system that always describes one address space. It serves every request for free
memory at an aligned address, and refuses requests of no bytes. `still` says that
nothing has been allocated yet. -/
structure WindowsCalls.Static {σ : Type} (calls : WindowsCalls σ) (target : Target) (space : AddressSpace target.usize)
    (still : σ → Prop) : Prop where
  describes : ∀ address world, still world →
    (calls.virtualQuery address world).1 = space.query address ∧ still (calls.virtualQuery address world).2
  grants : ∀ address length world, still world → address ≠ 0 → target.granularity ∣ address → 0 < length →
    (∃ region ∈ space.regions, region.isFree = true ∧ region.start ≤ address ∧ address + length ≤ region.stop) →
    (calls.virtualAlloc address length world).1 = address
  refuses : ∀ address world, still world →
    (calls.virtualAlloc address 0 world).1 = 0 ∧ still (calls.virtualAlloc address 0 world).2

namespace BufferAllocatorWindows

section

variable {σ : Type} {target : Target} {calls : WindowsCalls σ} {settings : BufferAllocatorSettings}
  {space : AddressSpace target.usize} {still : σ → Prop} (static : calls.Static target space still)
  (booted : target.Booted) (lowest : 0 < settings.minAddress) (minimum : settings.minAddress < target.usize)
  (maximum : settings.maxAddress < target.usize)
include static booted lowest minimum maximum

theorem tryAllocateBuffer_decides {region : PageRegion} (member : region ∈ space.regions) {address : Nat}
    (low : region.start ≤ address) (high : address < region.stop) {world : σ} (start : still world) :
    Decides (∃ place, region.Holds target settings place ∧ roundDown address windowsPage ≤ place) still
      (tryAllocateBuffer target calls settings (region.report address) world) := by
  obtain ⟨_, _, aligned, whole⟩ := space.contiguous.proper member
  obtain ⟨inside, _, before⟩ := PageRegion.page_bounds aligned low high
  have word := space.word region member
  unfold tryAllocateBuffer
  split
  · rename_i taken
    refine ⟨?_, start⟩
    rintro ⟨place, holds, _⟩
    have free := holds.isFree
    simp [PageRegion.report, free] at taken
  · rename_i free
    have room := page_room whole word
    have page : windowsPage = 4096 := rfl
    have large : 4096 ≤ target.granularity := booted.large
    have wide := target.u32_le_usize
    have tiny := booted.small
    have size : settings.size.toNat < target.usize := Nat.lt_of_lt_of_le settings.size.toNat_lt wide
    have ends : Words.add target.usize (region.report address).baseAddress (region.report address).regionSize =
        region.stop := by
      simp only [PageRegion.report]
      rw [Words.add_eq (by omega)]
      omega
    have fits : ∀ candidate ∈ getBufferPointersInPageRange target settings (region.report address),
        Feasible settings.minAddress settings.maxAddress (roundDown address windowsPage) region.stop
          settings.size.toNat target.granularity candidate := by
      intro candidate listed
      rw [getBufferPointersInPageRange, ends] at listed
      rcases candidate_feasible (by omega) (by omega) minimum maximum (by simp only [PageRegion.report]; omega) word
        size listed with feasible | ⟨_, _, top, _⟩
      · exact feasible
      · omega
    have isFree : region.isFree = true := by simpa [PageRegion.report] using free
    -- Every candidate is served, unless no bytes are asked for.
    have decides := @tryCandidates_decides σ (calls.virtualAlloc · settings.size.toNat)
      (calls.virtualFree · settings.size.toNat) still (fun _ => 0 < settings.size.toNat)
      (getBufferPointersInPageRange target settings (region.report address)) ?_ ?_ world start
    · refine (decides.congr ⟨?_, ?_⟩).map (LocatorItem.new · settings.size)
      · rintro ⟨candidate, listed, served⟩
        have feasible := fits candidate listed
        exact ⟨candidate, ⟨isFree, served, { feasible with page_le := inside.trans feasible.page_le }⟩,
          feasible.page_le⟩
      · rintro ⟨place, holds, above⟩
        obtain ⟨_, _, highest, listed, _⟩ := candidates_extremes (by omega) word
          ⟨place, { holds.feasible with page_le := above }⟩
        refine ⟨highest, ?_, holds.served⟩
        rw [getBufferPointersInPageRange, ends]
        exact listed
    · intro candidate listed served
      have feasible := fits candidate listed
      have above := feasible.window_le
      exact ⟨by omega, fun world same => static.grants candidate _ world same (by omega) feasible.aligned served
        ⟨region, member, isFree, inside.trans feasible.page_le, feasible.le_page⟩⟩
    · intro candidate _ empty world same
      have zero : settings.size.toNat = 0 := Nat.eq_zero_of_not_pos empty
      left
      rw [zero]
      exact static.refuses candidate world same

/-- One step of the walk, from an address in a region. -/
theorem walkPages_step {region : PageRegion} (member : region ∈ space.regions) {address : Nat}
    (low : region.start ≤ address) (high : address < region.stop) {world : σ} (start : still world) {maxAddress : Nat}
    (reached : address ≤ maxAddress) (advance : MemoryBasicInformation → Nat) :
    ((∃ place, region.Holds target settings place ∧ roundDown address windowsPage ≤ place) ∧
      ∃ item last, ∀ fuel, walkPages target calls settings maxAddress advance (fuel + 1) address world =
        some (some item, last)) ∨
    (¬ ∃ place, region.Holds target settings place ∧ roundDown address windowsPage ≤ place) ∧
      ∃ next, still next ∧ ∀ fuel, walkPages target calls settings maxAddress advance (fuel + 1) address world =
        walkPages target calls settings maxAddress advance fuel
          (Words.add target.usize address (advance (region.report address))) next := by
  obtain ⟨answer, after⟩ := static.describes address world start
  rw [space.query_eq member low high] at answer
  have decides := tryAllocateBuffer_decides static booted lowest minimum maximum member low high after
  have queried : calls.virtualQuery address world = (some (region.report address), (calls.virtualQuery address world).2) :=
    Prod.ext answer rfl
  simp only [walkPages, if_pos reached]
  rw [queried]
  dsimp only
  cases tried : tryAllocateBuffer target calls settings (region.report address) (calls.virtualQuery address world).2 with
  | mk found next =>
    rw [tried] at decides
    cases found with
    | some item => exact .inl ⟨decides, item, next, fun _ => rfl⟩
    | none => exact .inr ⟨decides.1, next, decides.2, fun _ => rfl⟩

omit booted lowest minimum maximum in
theorem walkPages_end {address : Nat} (beyond : ∀ region ∈ space.regions, region.stop ≤ address) {world : σ}
    (start : still world) (maxAddress : Nat) (advance : MemoryBasicInformation → Nat) (fuel : Nat) :
    ∃ next, still next ∧ walkPages target calls settings maxAddress advance (fuel + 1) address world =
      some (none, next) := by
  obtain ⟨answer, after⟩ := static.describes address world start
  rw [space.query_none beyond] at answer
  simp only [walkPages]
  split
  · split
    · rename_i next reply
      refine ⟨next, ?_, rfl⟩
      rw [reply] at after
      exact after
    · rename_i info next reply
      rw [reply] at answer
      cases answer
  · exact ⟨world, start, rfl⟩

omit static booted lowest minimum maximum in
theorem entry_bounds {region : PageRegion} (some_page : region.start < region.stop) (aligned : windowsPage ∣ region.start)
    (whole : windowsPage ∣ region.stop) (ahead : settings.minAddress < region.stop) :
    region.start ≤ region.entry settings ∧ region.entry settings < region.stop ∧
      roundDown (region.entry settings) windowsPage ≤ max region.start settings.minAddress ∧
      region.entry settings % windowsPage = settings.minAddress % windowsPage := by
  unfold PageRegion.entry
  split
  · rename_i low
    exact ⟨low, ahead, (roundDown_le _ _).trans (le_max_right _ _), rfl⟩
  · have value := @roundDown_eq (region.start + settings.minAddress % windowsPage) windowsPage (by decide)
    unfold windowsPage at *
    omega

omit booted lowest minimum maximum static in
/-- A region behind another one is entered at its start, as far from the page boundary as
the first one was. -/
theorem entry_later {region other : PageRegion} (behind : region.stop ≤ other.start)
    (ahead : settings.minAddress < region.stop) :
    other.entry settings = other.start + settings.minAddress % windowsPage ∧
      (region.start ≤ other.start → region.entry settings ≤ other.entry settings) := by
  have later : other.entry settings = other.start + settings.minAddress % windowsPage := if_neg (by omega)
  refine ⟨later, fun order => ?_⟩
  rw [later]
  unfold PageRegion.entry
  split <;> omega

omit booted lowest minimum maximum static in
/-- The step from the entry of a region leads behind the region. -/
theorem entry_onward {region : PageRegion} (member : region ∈ space.regions) (ahead : settings.minAddress < region.stop) :
    Words.add target.usize (region.entry settings) (region.report (region.entry settings)).regionSize =
      region.stop + settings.minAddress % windowsPage := by
  obtain ⟨_, some_page, aligned, whole⟩ := space.contiguous.proper member
  obtain ⟨low, high, _, offset⟩ := entry_bounds some_page aligned whole ahead
  obtain ⟨_, parts, before⟩ := PageRegion.page_bounds aligned low high
  have room := page_room whole (space.word region member)
  have below : settings.minAddress % windowsPage < windowsPage := Nat.mod_lt _ (by decide)
  simp only [PageRegion.report]
  rw [Words.add_eq (by omega)]
  omega

/-- What a walk has before it: the other regions have been passed, and the first one is entered. -/
structure Remaining {usize : Nat} (space : AddressSpace usize) (settings : BufferAllocatorSettings) (cursor first : Nat)
    (rest : List PageRegion) : Prop where
  follows : Contiguous first rest
  inside : ∀ region ∈ rest, region ∈ space.regions
  passed : ∀ region ∈ space.regions, region ∉ rest → region.stop ≤ cursor
  enters : ∀ region ∈ rest.head?, cursor = region.entry settings ∧ settings.minAddress < region.stop

omit booted lowest minimum maximum static in
/-- Behind a region the walk is in the next one, as far from a page boundary as before. -/
theorem Remaining.onward {cursor first : Nat} {region : PageRegion} {rest : List PageRegion}
    (remaining : Remaining space settings cursor first (region :: rest)) :
    Remaining space settings (region.stop + settings.minAddress % windowsPage) region.stop rest := by
  obtain ⟨entered, ahead⟩ := remaining.enters region rfl
  obtain ⟨_, some_page, aligned, whole, later⟩ := remaining.follows
  obtain ⟨_, inRegion, _, _⟩ := entry_bounds some_page aligned whole ahead
  refine ⟨later, fun other further => remaining.inside other (List.mem_cons_of_mem _ further), ?_, ?_⟩
  · intro other listed out
    rcases eq_or_ne other region with rfl | elsewhere
    · exact Nat.le_add_right _ _
    · have earlier := remaining.passed other listed (by simp [elsewhere, out])
      omega
  · intro other head
    have next := later.head_start head
    have proper := later.proper (List.mem_of_mem_head? head)
    refine ⟨?_, by omega⟩
    rw [(entry_later next.ge ahead).1, next]

/-- The walk from the entry of a region finds the first place in that region and the
later ones that are entered by the highest address. -/
theorem walkPages_decides {maxAddress cursor first : Nat} {rest : List PageRegion}
    (remaining : Remaining space settings cursor first rest) {fuel : Nat} (enough : rest.length < fuel) {world : σ}
    (start : still world) :
    ∃ outcome, walkPages target calls settings maxAddress (·.regionSize) fuel cursor world = some outcome ∧
      Decides (∃ region ∈ rest, (∃ place, region.Holds target settings place) ∧ region.entry settings ≤ maxAddress)
        still outcome := by
  induction rest generalizing first cursor fuel world with
  | nil =>
      obtain ⟨count, rfl⟩ := Nat.exists_eq_succ_of_ne_zero (Nat.ne_of_gt enough)
      obtain ⟨next, same, run⟩ := walkPages_end static (fun region member => remaining.passed region member (by simp))
        start maxAddress (·.regionSize) count
      exact ⟨_, run, fun found => (nomatch found), same⟩
  | cons region rest ih =>
      obtain ⟨count, rfl⟩ := Nat.exists_eq_succ_of_ne_zero (Nat.ne_of_gt (Nat.lt_of_le_of_lt (Nat.zero_le _) enough))
      obtain ⟨rfl, ahead⟩ := remaining.enters region rfl
      have member := remaining.inside region List.mem_cons_self
      obtain ⟨_, some_page, aligned, whole, later⟩ := remaining.follows
      obtain ⟨low, high, base, _⟩ := entry_bounds some_page aligned whole ahead
      have split : (∃ other ∈ region :: rest, (∃ place, other.Holds target settings place) ∧
            other.entry settings ≤ maxAddress) ↔
          (∃ place, region.Holds target settings place) ∧ region.entry settings ≤ maxAddress ∨
            ∃ other ∈ rest, (∃ place, other.Holds target settings place) ∧ other.entry settings ≤ maxAddress := by
        simp
      -- Nothing that fits in the region lies before the page that is asked for.
      have seen : (∃ place, region.Holds target settings place ∧
            roundDown (region.entry settings) windowsPage ≤ place) ↔
          ∃ place, region.Holds target settings place :=
        exists_congr fun place => and_iff_left_of_imp fun holds =>
          base.trans (max_le holds.feasible.page_le holds.feasible.window_le)
      by_cases reached : region.entry settings ≤ maxAddress
      · rcases walkPages_step static booted lowest minimum maximum member low high start reached (·.regionSize)
          with ⟨found, item, last, run⟩ | ⟨missed, next, same, run⟩
        · exact ⟨_, run count, split.mpr (.inl ⟨seen.mp found, reached⟩)⟩
        · rw [run count, @entry_onward _ settings space region member ahead]
          obtain ⟨outcome, result, decides⟩ := ih remaining.onward (Nat.lt_of_succ_lt_succ enough) same
          refine ⟨outcome, result, decides.congr ?_⟩
          rw [split, or_iff_right fun here => missed (seen.mpr here.1)]
      · -- Later regions are entered further up.
        refine ⟨_, if_neg reached, fun found => ?_, start⟩
        rcases split.mp found with here | ⟨other, further, _, below⟩
        · exact reached here.2
        · have beyond := (later.proper further).1
          exact reached (((entry_later beyond ahead).2 (by omega)).trans below)

/-- The whole walk. -/
theorem walkPages_from_lowest (maxAddress : Nat) {fuel : Nat} (enough : space.regions.length < fuel) {world : σ}
    (start : still world) :
    ∃ outcome, walkPages target calls settings maxAddress (·.regionSize) fuel settings.minAddress world = some outcome ∧
      Decides (∃ region ∈ space.regions, (∃ place, region.Holds target settings place) ∧
        region.entry settings ≤ maxAddress) still outcome := by
  obtain ⟨first, rest, follows, inside, passed, holder⟩ := space.contiguous.above (Nat.zero_le settings.minAddress)
  have enters : ∀ region ∈ rest.head?, settings.minAddress = region.entry settings ∧
      settings.minAddress < region.stop := fun region head =>
    ⟨(if_pos (holder region head).1).symm, (holder region head).2⟩
  have remaining : Remaining space settings settings.minAddress first rest :=
    ⟨follows, fun region member => inside.mem member, passed, enters⟩
  obtain ⟨outcome, run, decides⟩ := walkPages_decides static booted lowest minimum maximum remaining
    (Nat.lt_of_le_of_lt inside.length_le enough) start
  refine ⟨outcome, run, decides.congr ⟨?_, ?_⟩⟩
  · rintro ⟨region, member, found⟩
    exact ⟨region, inside.mem member, found⟩
  · rintro ⟨region, member, ⟨place, holds⟩, reached⟩
    refine ⟨region, ?_, ⟨place, holds⟩, reached⟩
    by_contra out
    have below := passed region member out
    have low := holds.feasible.window_le
    have high := holds.feasible.le_page
    have served := holds.served
    omega

end

end BufferAllocatorWindows

def SystemCall.isQuery : SystemCall → Bool
  | .virtualQuery .. => true
  | _ => false

/-- How often `VirtualQuery` has been called. -/
def Logged.queries {σ : Type} (world : Logged σ) : Nat := world.calls.countP SystemCall.isQuery

section

variable {σ : Type} {calls : WindowsCalls σ} {target : Target} {settings : BufferAllocatorSettings}

theorem WindowsCalls.Static.logged {space : AddressSpace target.usize} {still : σ → Prop}
    (static : calls.Static target space still) :
    calls.logged.Static target space fun world => still world.system where
  describes address world := static.describes address world.system
  grants address length world := static.grants address length world.system
  refuses address world := static.refuses address world.system

theorem tryCandidates_queries {request : Nat → Logged σ → Nat × Logged σ} {release : Nat → Logged σ → Logged σ}
    (asks : ∀ address world, (request address world).2.queries = world.queries)
    (gives : ∀ address world, (release address world).queries = world.queries) (candidates : List Nat)
    (world : Logged σ) : (tryCandidates request release candidates world).2.queries = world.queries := by
  induction candidates generalizing world with
  | nil => rfl
  | cons address rest ih =>
      simp only [tryCandidates]
      split
      · rw [ih, asks]
      · split
        · rw [ih, gives, asks]
        · exact asks address world

namespace BufferAllocatorWindows

theorem tryAllocateBuffer_queries (info : MemoryBasicInformation) (world : Logged σ) :
    (tryAllocateBuffer target calls.logged settings info world).2.queries = world.queries := by
  unfold tryAllocateBuffer
  split
  · rfl
  · have asks : ∀ address (start : Logged σ),
        (calls.logged.virtualAlloc address settings.size.toNat start).2.queries = start.queries := fun _ _ =>
      List.countP_cons_of_neg Bool.false_ne_true
    have gives : ∀ address (start : Logged σ),
        (calls.logged.virtualFree address settings.size.toNat start).queries = start.queries := fun _ _ =>
      List.countP_cons_of_neg Bool.false_ne_true
    exact tryCandidates_queries asks gives _ world

theorem tryAllocateBuffer_mapped (info : MemoryBasicInformation) (world : Logged σ) :
    ItemMapped settings (tryAllocateBuffer target calls.logged settings info world).1
      (tryAllocateBuffer target calls.logged settings info world).2.calls := by
  unfold tryAllocateBuffer
  split
  · trivial
  · have tried := tryCandidates_logged (calls.virtualAlloc · settings.size.toNat)
      (calls.virtualFree · settings.size.toNat) (.virtualAlloc · settings.size.toNat)
      (.virtualFree · settings.size.toNat)
      (Prod.eta (tryCandidates (calls.logged.virtualAlloc · settings.size.toNat)
        (calls.logged.virtualFree · settings.size.toNat) (getBufferPointersInPageRange target settings info)
        world)).symm
    exact tried.itemMapped fun _ nonzero _ => ⟨nonzero, rfl, rfl⟩

theorem allocateFast_mapped {fuel maxAddress : Nat} {world last : Logged σ} {result : Option LocatorItem}
    (run : allocateFast target calls.logged settings fuel maxAddress world = some (result, last)) :
    ItemMapped settings result last.calls := by
  have walked : Walked target calls.logged settings fun _ result last => ItemMapped settings result last.calls := by
    refine ⟨ItemMapped.walkRule σ settings, fun _ _ => trivial, ?_⟩
    intro _ _ info next found after _ tried
    have mapped := @tryAllocateBuffer_mapped σ calls target settings info next
    rwa [tried] at mapped
  exact walked.allocateFast run

theorem walkPages_queries {maxAddress : Nat} {advance : MemoryBasicInformation → Nat} {fuel cursor : Nat}
    {world last : Logged σ} {result : Option LocatorItem}
    (run : walkPages target calls.logged settings maxAddress advance fuel cursor world = some (result, last)) :
    last.queries ≤ world.queries + fuel := by
  induction fuel generalizing cursor world with
  | zero => cases run
  | succ fuel ih =>
      have counted : (calls.logged.virtualQuery cursor world).2.queries = world.queries + 1 :=
        List.countP_cons_of_pos rfl
      simp only [walkPages] at run
      split at run
      · split at run
        · rename_i next answer
          cases run
          rw [answer] at counted
          dsimp only at counted
          omega
        · rename_i info next answer
          rw [answer] at counted
          have tried := @tryAllocateBuffer_queries σ calls target settings info next
          split at run
          · rename_i item after found
            cases run
            rw [found] at tried
            dsimp only at tried counted
            omega
          · rename_i after missed
            rw [missed] at tried
            have onward := ih run
            dsimp only at tried counted
            omega
      · cases run
        omega

end BufferAllocatorWindows

end

/-- Free space that the settings allow, up to and including the highest address. -/
structure AddressSpace.Usable (target : Target) (space : AddressSpace target.usize)
    (settings : BufferAllocatorSettings) (maxAddress address : Nat) : Prop where
  holds : ∃ region ∈ space.regions, region.Holds target settings address
  below : address + settings.size.toNat ≤ maxAddress + 1

namespace BufferAllocatorWindows

/-- A region is entered less than a page above a place, and a buffer has a page or more. -/
theorem entry_reached {target : Target} {settings : BufferAllocatorSettings} {region : PageRegion}
    {maxAddress place : Nat} (some_page : region.start < region.stop) (aligned : windowsPage ∣ region.start)
    (whole : windowsPage ∣ region.stop) (holds : region.Holds target settings place)
    (pages : 4096 ≤ settings.size.toNat) (below : place + settings.size.toNat ≤ maxAddress + 1) :
    region.entry settings ≤ min maxAddress settings.maxAddress := by
  have low := holds.feasible.window_le
  have top := holds.feasible.le_page
  have window := holds.feasible.le_window
  have ahead : settings.minAddress < region.stop := by omega
  obtain ⟨from_start, inside, base, _⟩ := entry_bounds some_page aligned whole ahead
  obtain ⟨_, parts, _⟩ := PageRegion.page_bounds aligned from_start inside
  have offset : region.entry settings % windowsPage < 4096 := Nat.mod_lt _ (by decide)
  have page := base.trans (max_le holds.feasible.page_le low)
  omega

/-- The first pass over the pages finds usable space. Every pass asks about a region once
and about the end of the address space once more, at most, and one that finds nothing
leaves the system to the next as it was. What it finds it has just mapped. -/
theorem allocateFast_finds {σ : Type} {calls : WindowsCalls σ} {target : Target} {settings : BufferAllocatorSettings}
    {space : AddressSpace target.usize} {still : σ → Prop} (static : calls.Static target space still)
    (booted : target.Booted) (windows : target.os = .windows) (power : ∃ exponent, target.granularity = 2 ^ exponent)
    (minimum : settings.minAddress < target.usize) (maximum : settings.maxAddress < target.usize)
    (tries : 0 < settings.retries) (maxAddress : Nat) :
    (∀ world : Logged σ, still world.system →
      (∃ address, space.Usable target (settings.sanitize target) maxAddress address) → ∃ item last,
        walkPages target calls.logged (settings.sanitize target) (min maxAddress settings.maxAddress) (·.regionSize)
          (space.regions.length + 1) (settings.sanitize target).minAddress world = some (some item, last) ∧
        allocateFast target calls.logged (settings.sanitize target) (space.regions.length + 1) maxAddress world =
          some (some item, last) ∧
        item.size = (settings.sanitize target).size ∧ MappedLast item.baseAddress item.size.toNat last.calls) ∧
    ∀ world : Logged σ, still world.system → ∃ result last,
      walkPages target calls.logged (settings.sanitize target) (min maxAddress settings.maxAddress) (·.regionSize)
          (space.regions.length + 1) (settings.sanitize target).minAddress world = some (result, last) ∧
        last.queries ≤ world.queries + (space.regions.length + 1) ∧ (result = none → still last.system) := by
  have large : 4096 ≤ target.granularity := booted.large
  have high := BufferAllocatorSettings.granularity_le_sanitize settings windows
  have multiple := BufferAllocatorSettings.sanitize_size_dvd target settings (by omega)
    (booted.granularity_dvd power)
  have walks := fun (world : Logged σ) (start : still world.system) => walkPages_from_lowest static.logged booted
    (by omega) (BufferAllocatorSettings.sanitize_minAddress_lt target minimum booted.granularity_lt) maximum
    (min maxAddress settings.maxAddress) (Nat.lt_succ_self _) start
  refine ⟨fun world start => ?_, fun world start => ?_⟩
  · rintro ⟨address, ⟨region, member, holds⟩, below⟩
    obtain ⟨⟨result, last⟩, run, decides⟩ := walks world start
    have pages : 4096 ≤ (settings.sanitize target).size.toNat := by
      have sizes := Nat.le_of_dvd holds.served multiple
      omega
    obtain ⟨_, some_page, aligned, whole⟩ := space.contiguous.proper member
    have reached := entry_reached some_page aligned whole holds pages below
    cases result with
    | none => exact absurd ⟨region, member, ⟨address, holds⟩, reached⟩ decides.1
    | some item =>
        obtain ⟨count, more⟩ := Nat.exists_eq_succ_of_ne_zero (Nat.ne_of_gt tries)
        have first : retry (walkPages target calls.logged (settings.sanitize target)
            (min maxAddress settings.maxAddress) (·.regionSize) (space.regions.length + 1)
            (settings.sanitize target).minAddress) (settings.sanitize target).retries world =
            some (some item, last) := by
          rw [show (settings.sanitize target).retries = count + 1 from more, retry, run]
        have found : allocateFast target calls.logged (settings.sanitize target) (space.regions.length + 1) maxAddress
            world = some (some item, last) := by
          simp only [allocateFast, BufferAllocatorSettings.sanitize_maxAddress]
          rw [first]
        exact ⟨item, last, run, found, allocateFast_mapped found⟩
  · obtain ⟨⟨result, last⟩, run, decides⟩ := walks world start
    refine ⟨result, last, run, walkPages_queries run, ?_⟩
    rintro rfl
    exact decides.2

end BufferAllocatorWindows

/-- A system that keeps one address space and serves what lies in a free region. -/
def AddressSpace.calls {usize : Nat} (space : AddressSpace usize) : WindowsCalls Unit where
  openProcess _ system := (true, system)
  isWow64Process _ system := (some false, system)
  virtualQuery address system := (space.query address, system)
  virtualAlloc address length system :=
    (if 0 < length ∧ ∃ region ∈ space.regions, region.isFree = true ∧ region.start ≤ address ∧
        address + length ≤ region.stop then address else 0, system)
  virtualFree _ _ system := system

theorem AddressSpace.calls_static (target : Target) (space : AddressSpace target.usize) :
    space.calls.Static target space fun _ => True where
  describes _ _ _ := ⟨rfl, trivial⟩
  grants _ _ _ _ _ _ positive free := if_pos ⟨positive, free⟩
  refuses _ _ _ := by simp [AddressSpace.calls]

/-- A Windows process with a granularity of 64 KiB. -/
def windowsTarget : Target := ⟨.bits64, .windows, .x86_64, ⟨0x7FFFFFFEFFFF, 65536, 4096, 1⟩⟩

theorem windowsTarget_booted : windowsTarget.Booted where
  cached := ⟨⟨0x7FFFFFFEFFFF, 65536, 4096, 1⟩, rfl⟩
  large := by decide
  small := by decide

/-- Free memory at the third step of the granularity, and nowhere else. -/
def oneGap : AddressSpace windowsTarget.usize where
  regions := [⟨0, 0x30000, false⟩, ⟨0x30000, 0x40000, true⟩, ⟨0x40000, 0x7FFFFFFF0000, false⟩]
  contiguous := by decide
  word := by decide

def lowSettings (minAddress : Nat) : BufferAllocatorSettings :=
  { BufferAllocatorSettings.new windowsTarget with minAddress }

theorem oneGap_usable : oneGap.Usable windowsTarget ((lowSettings 0x18000).sanitize windowsTarget) 0x7FFFFFFEFFFF
    0x30000 where
  holds := ⟨⟨0x30000, 0x40000, true⟩, by decide, rfl, by decide, by decide, by decide, by decide, by decide, by decide⟩
  below := by decide

theorem allocateFast_finds_gap : ∃ item last,
    BufferAllocatorWindows.allocateFast windowsTarget oneGap.calls.logged
      ((lowSettings 0x18000).sanitize windowsTarget) 4 0x7FFFFFFEFFFF ⟨(), []⟩ = some (some item, last) ∧
    MappedLast item.baseAddress item.size.toNat last.calls := by
  have finds := (BufferAllocatorWindows.allocateFast_finds (oneGap.calls_static windowsTarget) windowsTarget_booted rfl
    ⟨16, rfl⟩ (by decide) (by decide) (by decide) 0x7FFFFFFEFFFF).1 ⟨(), []⟩ trivial ⟨0x30000, oneGap_usable⟩
  obtain ⟨item, last, _, found, _, mapped⟩ := finds
  exact ⟨item, last, found, mapped⟩

end ReloadedBuffers
