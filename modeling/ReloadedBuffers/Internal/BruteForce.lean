import ReloadedBuffers.Internal.WindowsFreeSpace

/-! The brute force pass against the page walk. It steps by the granularity from the
lowest address, and of a free region it sees what lies behind the page of a step.
-/

set_option autoImplicit false

namespace ReloadedBuffers

namespace BufferAllocatorSettings

/-- One pass over the pages. -/
def pageWalkOnly (settings : BufferAllocatorSettings) : BufferAllocatorSettings :=
  { settings with retryCount := 1, bruteForce := false }

def bruteForceOnly (settings : BufferAllocatorSettings) : BufferAllocatorSettings :=
  { settings with retryCount := 0, bruteForce := true }

end BufferAllocatorSettings

/-- The modes differ in the passes, not in the places. -/
theorem PageRegion.Holds.congr {region : PageRegion} {target : Target} {one other : BufferAllocatorSettings}
    (minimum : one.minAddress = other.minAddress) (maximum : one.maxAddress = other.maxAddress)
    (size : one.size = other.size) (address : Nat) :
    region.Holds target one address ↔ region.Holds target other address := by
  constructor
  · rintro ⟨isFree, served, feasible⟩
    rw [size] at served
    rw [minimum, maximum, size] at feasible
    exact ⟨isFree, served, feasible⟩
  · rintro ⟨isFree, served, feasible⟩
    rw [← size] at served
    rw [← minimum, ← maximum, ← size] at feasible
    exact ⟨isFree, served, feasible⟩

theorem Target.Booted.page_dvd {target : Target} (booted : target.Booted)
    (power : ∃ exponent, target.granularity = 2 ^ exponent) : windowsPage ∣ target.granularity := by
  obtain ⟨exponent, power⟩ := power
  have large : 2 ^ 12 ≤ 2 ^ exponent := power ▸ booted.large
  exact power ▸ (Nat.pow_dvd_pow 2 ((Nat.pow_le_pow_iff_right Nat.one_lt_two).mp large) : 2 ^ 12 ∣ 2 ^ exponent)

namespace BufferAllocatorWindows

section

variable {σ : Type} {target : Target} {calls : WindowsCalls σ} {settings : BufferAllocatorSettings}
  {space : AddressSpace target.usize} {still : σ → Prop} (static : calls.Static target space still)
  (booted : target.Booted) (lowest : 0 < settings.minAddress) (minimum : settings.minAddress < target.usize)
  (maximum : settings.maxAddress < target.usize)

theorem allocateFast_bruteForceOnly (fuel maxAddress : Nat) (world : σ) :
    allocateFast target calls settings.bruteForceOnly fuel maxAddress world =
      walkPages target calls settings.bruteForceOnly (min maxAddress settings.maxAddress)
        (fun _ => target.granularity) fuel settings.minAddress world := rfl

theorem allocateFast_pageWalkOnly (fuel maxAddress : Nat) (world : σ) :
    allocateFast target calls settings.pageWalkOnly fuel maxAddress world =
      walkPages target calls settings.pageWalkOnly (min maxAddress settings.maxAddress) (·.regionSize) fuel
        settings.minAddress world := by
  have once : settings.pageWalkOnly.retries = 1 := rfl
  change _ = walkPages target calls settings.pageWalkOnly (min maxAddress settings.pageWalkOnly.maxAddress)
    (·.regionSize) fuel settings.pageWalkOnly.minAddress world
  simp only [allocateFast, once, retry]
  cases walkPages target calls settings.pageWalkOnly (min maxAddress settings.pageWalkOnly.maxAddress) (·.regionSize)
      fuel settings.pageWalkOnly.minAddress world with
  | none => rfl
  | some outcome =>
    obtain ⟨result, last⟩ := outcome
    cases result with
    | none => rfl
    | some item => rfl

include static booted lowest minimum maximum

/-- What a walk finds it has seen from an address that it visits. -/
theorem walkPages_found {maxAddress : Nat} {advance : MemoryBasicInformation → Nat} (Visits : Nat → Prop)
    (onward : ∀ region ∈ space.regions, ∀ address, region.start ≤ address → address < region.stop → Visits address →
      Visits (Words.add target.usize address (advance (region.report address))))
    {fuel cursor : Nat} (visits : Visits cursor) {world last : σ} (start : still world) {item : LocatorItem}
    (run : walkPages target calls settings maxAddress advance fuel cursor world = some (some item, last)) :
    ∃ region ∈ space.regions, ∃ address, Visits address ∧ address ≤ maxAddress ∧ region.start ≤ address ∧
      address < region.stop ∧ ∃ place, region.Holds target settings place ∧ roundDown address windowsPage ≤ place := by
  induction fuel generalizing cursor world with
  | zero => cases run
  | succ fuel ih =>
      by_cases reached : cursor ≤ maxAddress
      · by_cases inside : ∃ region ∈ space.regions, region.start ≤ cursor ∧ cursor < region.stop
        · obtain ⟨region, member, low, high⟩ := inside
          rcases walkPages_step static booted lowest minimum maximum member low high start reached advance with
            ⟨seen, _⟩ | ⟨_, next, same, rest⟩
          · exact ⟨region, member, cursor, visits, reached, low, high, seen⟩
          · exact ih (onward region member cursor low high visits) same ((rest fuel).symm.trans run)
        · have beyond : ∀ region ∈ space.regions, region.stop ≤ cursor := by
            intro region member
            by_contra before
            exact inside (space.contiguous.covers member (Nat.zero_le cursor) (Nat.lt_of_not_le before))
          obtain ⟨next, _, ended⟩ := walkPages_end static beyond start maxAddress advance fuel
          rw [ended] at run
          cases run
      · rw [walkPages, if_neg reached] at run
        cases run

/-- A step that lies in the region of a place, not behind its page, finds something,
unless an earlier one did. -/
theorem walkPages_reaches {maxAddress : Nat} {region : PageRegion} (member : region ∈ space.regions) {place : Nat}
    (holds : region.Holds target settings place) (page : windowsPage ∣ place)
    (pages : windowsPage ≤ settings.size.toNat) {steps cursor : Nat}
    (low : region.start ≤ cursor + steps * target.granularity)
    (high : cursor + steps * target.granularity < place + windowsPage)
    (reached : cursor + steps * target.granularity ≤ maxAddress) {world : σ} (start : still world) :
    ∃ fuel item last, walkPages target calls settings maxAddress (fun _ => target.granularity) fuel cursor world =
      some (some item, last) := by
  have fits := holds.feasible.le_page
  induction steps generalizing cursor world with
  | zero =>
      rw [Nat.zero_mul, Nat.add_zero] at low high reached
      have seen : roundDown cursor windowsPage ≤ place := by
        rw [roundDown_eq (by decide)]
        unfold windowsPage at page high ⊢
        omega
      rcases walkPages_step static booted lowest minimum maximum member low (by omega) start reached _ with
        ⟨_, item, last, run⟩ | ⟨missed, _⟩
      · exact ⟨1, item, last, run 0⟩
      · exact absurd ⟨place, holds, seen⟩ missed
  | succ steps ih =>
      rw [Nat.succ_mul] at low high reached
      have word := space.word region member
      obtain ⟨other, inside, before, after⟩ := space.contiguous.covers member (Nat.zero_le cursor) (by omega)
      have onward : Words.add target.usize cursor target.granularity = cursor + target.granularity :=
        Words.add_eq (by omega)
      have early : cursor ≤ maxAddress := by omega
      rcases walkPages_step static booted lowest minimum maximum inside before after start early
        (fun _ => target.granularity) with ⟨_, item, last, run⟩ | ⟨_, next, same, run⟩
      · exact ⟨1, item, last, run 0⟩
      · have further : region.start ≤ cursor + target.granularity + steps * target.granularity := by omega
        obtain ⟨fuel, item, last, later⟩ := ih further (by omega) (by omega) same
        refine ⟨fuel + 1, item, last, ?_⟩
        rw [run fuel, onward]
        exact later

end

/-- A step of the granularity lies in the region, by the highest address and not behind
the page of the place. -/
def Stepped (target : Target) (settings : BufferAllocatorSettings) (maxAddress : Nat) (region : PageRegion)
    (place : Nat) : Prop :=
  ∃ steps, region.start ≤ settings.minAddress + steps * target.granularity ∧
    settings.minAddress + steps * target.granularity < place + windowsPage ∧
    settings.minAddress + steps * target.granularity ≤ maxAddress

/-- The page walk enters a region no later than a step does. -/
theorem Stepped.entry_le {target : Target} {settings : BufferAllocatorSettings} {maxAddress place : Nat}
    {region : PageRegion} (stepped : Stepped target settings maxAddress region place)
    (page : windowsPage ∣ target.granularity) (aligned : windowsPage ∣ region.start) :
    region.entry settings ≤ maxAddress := by
  obtain ⟨steps, inside, _, reached⟩ := stepped
  unfold PageRegion.entry
  split
  · exact (Nat.le_add_right _ _).trans reached
  · have whole : windowsPage ∣ steps * target.granularity := Dvd.dvd.mul_left page steps
    unfold windowsPage at *
    omega

section

variable {σ : Type} {target : Target} {calls : WindowsCalls σ} {settings : BufferAllocatorSettings}
  {space : AddressSpace target.usize} {still : σ → Prop} (static : calls.Static target space still)
  (booted : target.Booted) (lowest : 0 < settings.minAddress) (minimum : settings.minAddress < target.usize)
  (maximum : settings.maxAddress < target.usize)
include static booted lowest minimum maximum

/-- The page walk finds something exactly when it enters a region with a place. -/
theorem pageWalk_finds_iff (maxAddress : Nat) {world : σ} (start : still world) :
    (∃ fuel item last, walkPages target calls settings maxAddress (·.regionSize) fuel settings.minAddress world =
        some (some item, last)) ↔
      ∃ region ∈ space.regions, (∃ place, region.Holds target settings place) ∧ region.entry settings ≤ maxAddress := by
  constructor
  · rintro ⟨fuel, item, last, run⟩
    have onward : ∀ region ∈ space.regions, ∀ address, region.start ≤ address → address < region.stop →
        settings.minAddress ≤ address ∧ address % windowsPage = settings.minAddress % windowsPage →
        settings.minAddress ≤ Words.add target.usize address (region.report address).regionSize ∧
          Words.add target.usize address (region.report address).regionSize % windowsPage =
            settings.minAddress % windowsPage := by
      rintro region member address low high ⟨above, offset⟩
      obtain ⟨_, _, aligned, whole⟩ := space.contiguous.proper member
      obtain ⟨_, parts, before⟩ := PageRegion.page_bounds aligned low high
      have room := page_room whole (space.word region member)
      have next : Words.add target.usize address (region.report address).regionSize =
          region.stop + address % windowsPage := by
        have below : address % windowsPage < windowsPage := Nat.mod_lt _ (by decide)
        -- The report starts at the page of the address, so the next address keeps its offset.
        simp only [PageRegion.report]
        rw [Words.add_eq (by omega)]
        omega
      obtain ⟨pages, stop⟩ := whole
      rw [next, offset, stop, Nat.mul_add_mod, Nat.mod_mod]
      exact ⟨by omega, rfl⟩
    obtain ⟨region, member, address, ⟨above, offset⟩, reached, low, _, place, holds, _⟩ :=
      walkPages_found static booted lowest minimum maximum (fun address => settings.minAddress ≤ address ∧
        address % windowsPage = settings.minAddress % windowsPage) onward ⟨Nat.le_refl _, rfl⟩ start run
    refine ⟨region, member, ⟨place, holds⟩, ?_⟩
    have aligned := (space.contiguous.proper member).2.2.1
    unfold PageRegion.entry
    split
    · omega
    · unfold windowsPage at *
      omega
  · intro found
    obtain ⟨⟨result, last⟩, run, decides⟩ := walkPages_from_lowest static booted lowest minimum maximum maxAddress
      (Nat.lt_succ_self _) start
    cases result with
    | none => exact absurd found decides.1
    | some item => exact ⟨_, item, last, run⟩

/-- The brute force pass finds something exactly when a step sees a place. -/
theorem bruteForce_finds_iff (power : ∃ exponent, target.granularity = 2 ^ exponent)
    (pages : settings.size.toNat = 0 ∨ windowsPage ≤ settings.size.toNat) (maxAddress : Nat) {world : σ}
    (start : still world) :
    (∃ fuel item last, walkPages target calls settings maxAddress (fun _ => target.granularity) fuel
        settings.minAddress world = some (some item, last)) ↔
      ∃ region ∈ space.regions, ∃ place, region.Holds target settings place ∧
        Stepped target settings maxAddress region place := by
  constructor
  · rintro ⟨fuel, item, last, run⟩
    have entered : settings.minAddress ≤ maxAddress := by
      cases fuel with
      | zero => cases run
      | succ fuel =>
          by_contra beyond
          rw [walkPages, if_neg beyond] at run
          cases run
    have whole : target.granularity ∣ target.usize :=
      (booted.granularity_dvd power).trans target.width.u32_dvd_modulus
    have onward : ∀ region ∈ space.regions, ∀ address, region.start ≤ address → address < region.stop →
        address % target.granularity = settings.minAddress % target.granularity →
        Words.add target.usize address target.granularity % target.granularity =
          settings.minAddress % target.granularity := by
      intro region _ address _ _ same
      -- A power of two divides the modulus: the steps keep their offset where they wrap too.
      rw [Words.add, Nat.mod_mod_of_dvd _ whole, Nat.add_mod_right, same]
    obtain ⟨region, member, address, same, reached, inside, _, place, holds, seen⟩ :=
      walkPages_found static booted lowest minimum maximum (fun address =>
        address % target.granularity = settings.minAddress % target.granularity) onward rfl start run
    refine ⟨region, member, place, holds, ?_⟩
    have parts := @roundDown_eq address windowsPage (by decide)
    have offset : address % windowsPage < windowsPage := Nat.mod_lt _ (by decide)
    -- Below the lowest address the walk has wrapped, and its first step sees the place as well.
    rcases Nat.lt_or_ge address settings.minAddress with below | above
    · have window := holds.feasible.window_le
      exact ⟨0, by omega, by omega, by omega⟩
    · obtain ⟨steps, distance⟩ := Nat.dvd_of_mod_eq_zero (Nat.sub_mod_eq_zero_of_mod_eq same)
      have reach : settings.minAddress + steps * target.granularity = address := by
        rw [Nat.mul_comm, ← distance]
        omega
      exact ⟨steps, by omega, by omega, by omega⟩
  · rintro ⟨region, member, place, holds, steps, inside, before, reached⟩
    have page := booted.page_dvd power
    exact walkPages_reaches static booted lowest minimum maximum member holds (page.trans holds.feasible.aligned)
      (pages.resolve_left (Nat.ne_of_gt holds.served)) inside before reached start

end

end BufferAllocatorWindows

/-- Brute force alone finds space when one page walk does, if and only if some step sees
a place whenever the page walk enters a region with one. -/
theorem bruteForce_substitutes_iff {σ : Type} {target : Target} {calls : WindowsCalls σ}
    {settings : BufferAllocatorSettings} {space : AddressSpace target.usize} {still : σ → Prop}
    (static : calls.Static target space still) (booted : target.Booted) (windows : target.os = .windows)
    (power : ∃ exponent, target.granularity = 2 ^ exponent) (minimum : settings.minAddress < target.usize)
    (maximum : settings.maxAddress < target.usize) (maxAddress : Nat) {world : σ} (start : still world) :
    ((∃ fuel item last, BufferAllocatorWindows.allocateFast target calls (settings.sanitize target).bruteForceOnly fuel
          maxAddress world = some (some item, last)) ↔
        ∃ fuel item last, BufferAllocatorWindows.allocateFast target calls (settings.sanitize target).pageWalkOnly fuel
          maxAddress world = some (some item, last)) ↔
      ((∃ region ∈ space.regions, (∃ place, region.Holds target (settings.sanitize target) place) ∧
          region.entry (settings.sanitize target) ≤ min maxAddress settings.maxAddress) →
        ∃ region ∈ space.regions, ∃ place, region.Holds target (settings.sanitize target) place ∧
          BufferAllocatorWindows.Stepped target (settings.sanitize target) (min maxAddress settings.maxAddress) region
            place) := by
  have page := booted.page_dvd power
  have large : 4096 ≤ target.granularity := booted.large
  have high := BufferAllocatorSettings.granularity_le_sanitize settings windows
  have lower := BufferAllocatorSettings.sanitize_minAddress_lt target minimum booted.granularity_lt
  have multiple := BufferAllocatorSettings.sanitize_size_dvd target settings (by omega)
    (booted.granularity_dvd power)
  have pages : (settings.sanitize target).size.toNat = 0 ∨ windowsPage ≤ (settings.sanitize target).size.toNat :=
    (Nat.eq_zero_or_pos _).imp_right fun served => Nat.le_of_dvd served (page.trans multiple)
  have lowest : 0 < (settings.sanitize target).minAddress := by omega
  have brute := @BufferAllocatorWindows.bruteForce_finds_iff _ _ _ (settings.sanitize target).bruteForceOnly _ _
    static booted lowest lower maximum power pages (min maxAddress settings.maxAddress) _ start
  have walk := @BufferAllocatorWindows.pageWalk_finds_iff _ _ _ (settings.sanitize target).pageWalkOnly _ _
    static booted lowest lower maximum (min maxAddress settings.maxAddress) _ start
  have one : ∀ region place, PageRegion.Holds region target (settings.sanitize target).bruteForceOnly place ↔
      region.Holds target (settings.sanitize target) place := fun _ => PageRegion.Holds.congr rfl rfl rfl
  have other : ∀ region place, PageRegion.Holds region target (settings.sanitize target).pageWalkOnly place ↔
      region.Holds target (settings.sanitize target) place := fun _ => PageRegion.Holds.congr rfl rfl rfl
  simp only [one] at brute
  simp only [other] at walk
  simp only [BufferAllocatorWindows.allocateFast_bruteForceOnly, BufferAllocatorWindows.allocateFast_pageWalkOnly]
  constructor
  · intro same found
    exact brute.mp (same.mpr (walk.mpr found))
  · intro substitutes
    refine ⟨fun found => walk.mpr ?_, fun found => brute.mpr (substitutes (walk.mp found))⟩
    obtain ⟨region, member, place, holds, stepped⟩ := brute.mp found
    exact ⟨region, member, ⟨place, holds⟩,
      BufferAllocatorWindows.Stepped.entry_le stepped page (space.contiguous.proper member).2.2.1⟩

/-- From a lowest address on the granularity the free memory is stepped on. -/
theorem bruteForce_substitutes_aligned :
    (∃ fuel item last, BufferAllocatorWindows.allocateFast windowsTarget oneGap.calls
        ((lowSettings 0x20000).sanitize windowsTarget).bruteForceOnly fuel 0x7FFFFFFEFFFF () = some (some item, last)) ↔
      ∃ fuel item last, BufferAllocatorWindows.allocateFast windowsTarget oneGap.calls
        ((lowSettings 0x20000).sanitize windowsTarget).pageWalkOnly fuel 0x7FFFFFFEFFFF () = some (some item, last) := by
  have holds : PageRegion.Holds ⟨0x30000, 0x40000, true⟩ windowsTarget ((lowSettings 0x20000).sanitize windowsTarget)
      0x30000 :=
    ⟨rfl, by decide, by decide, by decide, by decide, by decide, by decide⟩
  exact (bruteForce_substitutes_iff (oneGap.calls_static windowsTarget) windowsTarget_booted rfl ⟨16, rfl⟩ (by decide)
    (by decide) 0x7FFFFFFEFFFF trivial).mpr fun _ =>
      ⟨⟨0x30000, 0x40000, true⟩, by decide, 0x30000, holds, 1, by decide, by decide, by decide⟩

/-- From half a step further down, the steps lie half a step before the free memory and
half a step into it. -/
theorem bruteForce_misses_gap :
    (∃ fuel item last, BufferAllocatorWindows.allocateFast windowsTarget oneGap.calls
        ((lowSettings 0x18000).sanitize windowsTarget).pageWalkOnly fuel 0x7FFFFFFEFFFF () = some (some item, last)) ∧
      ¬ ∃ fuel item last, BufferAllocatorWindows.allocateFast windowsTarget oneGap.calls
        ((lowSettings 0x18000).sanitize windowsTarget).bruteForceOnly fuel 0x7FFFFFFEFFFF () =
          some (some item, last) := by
  refine ⟨⟨4, ⟨0x30000, 0x10000, 0, 0⟩, (), by decide⟩, fun found => ?_⟩
  simp only [BufferAllocatorWindows.allocateFast_bruteForceOnly] at found
  obtain ⟨region, member, place, holds, steps, inside, before, _⟩ :=
    (BufferAllocatorWindows.bruteForce_finds_iff (oneGap.calls_static windowsTarget) windowsTarget_booted
      (by decide) (by decide) (by decide) ⟨16, rfl⟩ (by decide) _ trivial).mp found
  have free := holds.isFree
  have low := holds.feasible.page_le
  have high := holds.feasible.le_page
  simp only [oneGap, List.mem_cons, List.not_mem_nil, or_false] at member
  rcases member with rfl | rfl | rfl
  · cases free
  · have size : (((lowSettings 0x18000).sanitize windowsTarget).bruteForceOnly).size.toNat = 0x10000 := by decide
    have lowest : (((lowSettings 0x18000).sanitize windowsTarget).bruteForceOnly).minAddress = 0x18000 := by decide
    have step : windowsTarget.granularity = 0x10000 := rfl
    have page : windowsPage = 0x1000 := rfl
    rw [size] at high
    rw [lowest, step] at inside before
    dsimp only at low high inside
    omega
  · cases free

end ReloadedBuffers
