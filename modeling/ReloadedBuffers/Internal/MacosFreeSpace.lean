import ReloadedBuffers.Internal.CallLog
import ReloadedBuffers.Internal.LinuxFreeSpace

/-! The region walk over a macOS address space that does not change. The cursor starts
anywhere, also inside a region, and then stands at the end of the last region seen.
-/

set_option autoImplicit false

namespace ReloadedBuffers

/-- The first region that ends above the address, or that there is none. -/
def regionReply (regions : List MemoryMapEntry) (address : Nat) : RegionReply :=
  match regions.find? fun region => address < region.endAddress with
  | some region => .region region.startAddress (region.endAddress - region.startAddress)
  | none => .invalidAddress

/-- A system that always describes the same regions. It serves every request for aligned
unmapped memory and lets it be protected. `still` says that nothing is allocated. -/
structure MachCalls.Static {σ : Type} (calls : MachCalls σ) (target : Target) (regions : List MemoryMapEntry)
    (still : σ → Prop) : Prop where
  describes : ∀ address world, still world →
    (calls.machVmRegion address world).1 = regionReply regions address ∧ still (calls.machVmRegion address world).2
  grants : ∀ address length world, still world → target.granularity ∣ address → target.granularity ∣ length →
    0 < length → address + length < target.usize → Unmapped regions address length →
    (calls.machVmAllocate address length world).1 = some address ∧
      (calls.machVmProtect address length (calls.machVmAllocate address length world).2).1 = true
  refused : ∀ address length world, still world → (calls.machVmAllocate address length world).1 = none →
    still (calls.machVmAllocate address length world).2
  returned : ∀ address length allocated world next protected_, still world →
    calls.machVmAllocate address length world = (some allocated, next) →
    calls.machVmProtect allocated length next = (false, protected_) →
    still (calls.machVmDeallocate allocated length protected_)

/-- Room for the buffer that the settings and the system allow. -/
structure UsableSpace (target : Target) (settings : BufferAllocatorSettings) (regions : List MemoryMapEntry)
    (address : Nat) : Prop where
  served : 0 < settings.size.toNat
  aligned : target.granularity ∣ address
  min_le : settings.minAddress ≤ address
  le_max : address + settings.size.toNat ≤ min target.sysInfo.maxAddress settings.maxAddress
  unmapped : Unmapped regions address settings.size.toNat

/-- The regions that end by an address and those that end above it. -/
theorem SortedMap.split {usize : Nat} {regions : List MemoryMapEntry} (map : SortedMap usize regions) (address : Nat) :
    ∃ passed rest, regions = passed ++ rest ∧ (∀ region ∈ passed, region.endAddress ≤ address) ∧
      ∀ region ∈ rest, address < region.endAddress := by
  induction regions with
  | nil => exact ⟨[], [], rfl, by simp, by simp⟩
  | cons head regions ih =>
      rcases Nat.lt_or_ge address head.endAddress with above | by_then
      · refine ⟨[], head :: regions, rfl, by simp, fun region member => ?_⟩
        rcases List.mem_cons.mp member with rfl | later
        · exact above
        · have behind := map.order region later
          have proper := map.proper region member
          omega
      · obtain ⟨passed, rest, rfl, before, after⟩ := ih map.tail
        refine ⟨head :: passed, rest, rfl, fun region member => ?_, after⟩
        rcases List.mem_cons.mp member with rfl | later
        · exact by_then
        · exact before region later

section

variable {usize address : Nat} {region : MemoryMapEntry} {passed rest : List MemoryMapEntry}
  (map : SortedMap usize (passed ++ region :: rest))
include map

/-- No region lies between those passed and the next. -/
theorem SortedMap.gap (before : ∀ other ∈ passed, other.endAddress ≤ address) :
    ∀ other ∈ passed ++ region :: rest, region.startAddress ≤ other.startAddress ∨ other.endAddress ≤ address := by
  intro other inside
  rcases List.mem_append.mp inside with earlier | later
  · exact .inr (before other earlier)
  · rcases List.mem_cons.mp later with rfl | further
    · exact .inl (Nat.le_refl _)
    · have order := List.rel_of_pairwise_cons (List.pairwise_append.mp map.sorted).2.1 further
      have proper := (map.proper region (List.mem_append_right _ List.mem_cons_self)).1
      exact .inl (proper.le.trans order)

omit map in
/-- At the end of the next region, it has been passed too. -/
theorem passes_next (before : ∀ other ∈ passed, other.endAddress ≤ address) (above : address < region.endAddress) :
    ∀ other ∈ passed ++ [region], other.endAddress ≤ region.endAddress := by
  intro other inside
  rcases List.mem_append.mp inside with earlier | here
  · exact (before other earlier).trans above.le
  · rw [List.mem_singleton.mp here]

theorem SortedMap.remains : ∀ other ∈ rest, region.endAddress < other.endAddress := by
  intro other further
  have order := List.rel_of_pairwise_cons (List.pairwise_append.mp map.sorted).2.1 further
  have proper := (map.proper other (List.mem_append_right _ (List.mem_cons_of_mem _ further))).1
  exact Nat.lt_of_le_of_lt order proper

end

/-- The reply is about the first region that the address has not passed. -/
theorem regionReply_eq {passed rest : List MemoryMapEntry} {address : Nat}
    (before : ∀ region ∈ passed, region.endAddress ≤ address) (after : ∀ region ∈ rest, address < region.endAddress) :
    regionReply (passed ++ rest) address = match rest with
      | region :: _ => .region region.startAddress (region.endAddress - region.startAddress)
      | [] => .invalidAddress := by
  have none_passed : passed.find? (fun region => address < region.endAddress) = none :=
    List.find?_eq_none.mpr fun region member => by simpa using before region member
  rw [regionReply, List.find?_append, none_passed, Option.none_or]
  cases rest with
  | nil => rfl
  | cons region rest =>
      rw [List.find?_cons_of_pos (by simpa using after region List.mem_cons_self)]

namespace BufferAllocatorOsx

section

variable {σ : Type} {target : Target} {calls : MachCalls σ} {settings : BufferAllocatorSettings}
  {regions : List MemoryMapEntry} {still : σ → Prop} (static : calls.Static target regions still)
include static

/-- Pointers that lead to nothing leave the system as it was. -/
theorem tryPointers_still {pointers : List Nat} {world last : σ} (start : still world)
    (run : tryPointers calls settings pointers world = (none, last)) : still last := by
  induction pointers generalizing world with
  | nil =>
      cases run
      exact start
  | cons address pointers ih =>
      simp only [tryPointers] at run
      split at run
      · rename_i next answer
        have refused := static.refused address settings.size.toNat world start (by rw [answer])
        rw [answer] at refused
        exact ih refused run
      · rename_i allocated next answer
        split at run
        · rename_i denied_world denied
          exact ih (static.returned address _ allocated world next _ start answer denied) run
        · cases run

variable (booted : target.Booted) (minimum : settings.minAddress < target.usize)
  (maximum : settings.maxAddress < target.usize) (whole : target.granularity ∣ settings.size.toNat)
include booted minimum maximum whole

/-- In an unmapped page range with room for the buffer, the first pointer is served. -/
theorem tryAllocateBuffer_finds {cursor stop : Nat} (order : cursor ≤ stop) (word : stop < target.usize)
    (apart : ∀ region ∈ regions, stop ≤ region.startAddress ∨ region.endAddress ≤ cursor)
    (served : 0 < settings.size.toNat)
    (room : ∃ place, Feasible settings.minAddress settings.maxAddress cursor stop settings.size.toNat
      target.granularity place) {world : σ} (start : still world) :
    ∃ item last, tryAllocateBuffer target calls settings cursor (stop - cursor) world = (some item, last) ∧
      settings.minAddress ≤ item.baseAddress ∧ item.baseAddress + settings.size.toNat ≤ settings.maxAddress := by
  have large : 4096 ≤ target.granularity := booted.large
  have small := booted.granularity_lt
  have size : settings.size.toNat < target.usize := Nat.lt_of_lt_of_le settings.size.toNat_lt target.u32_le_usize
  have ends : Words.add target.usize cursor (stop - cursor) = stop := by
    rw [Words.add_eq (by omega)]
    omega
  have nonempty : getPossibleBufferAddresses target.usize settings.minAddress settings.maxAddress cursor stop
      settings.size.toNat target.granularity ≠ [] := by
    obtain ⟨lowest, member, _⟩ := candidates_extremes (by omega) word room
    exact List.ne_nil_of_mem member
  obtain ⟨first, pointers, found⟩ := List.exists_cons_of_ne_nil nonempty
  have listed : first ∈ getPossibleBufferAddresses target.usize settings.minAddress settings.maxAddress cursor stop
      settings.size.toNat target.granularity := by
    rw [found]
    exact List.mem_cons_self
  -- Where there is room, the lowest start does not run over the end of the address space.
  have feasible : Feasible settings.minAddress settings.maxAddress cursor stop settings.size.toNat
      target.granularity first := by
    rcases candidate_feasible (by omega) small minimum maximum (by omega) word size listed with fits | overrun
    · exact fits
    · obtain ⟨place, fits⟩ := room
      obtain ⟨beyond, _, _, _, rfl⟩ := overrun
      have least := padding_least fits.aligned (max_le fits.page_le fits.window_le)
      have inside := fits.le_page
      unfold lowestStart at beyond
      omega
  have low := feasible.page_le
  have high := feasible.le_page
  have unmapped : Unmapped regions first settings.size.toNat := by
    intro region member
    rcases apart region member with before | behind
    · exact .inl (high.trans before)
    · exact .inr (behind.trans low)
  obtain ⟨answer, permitted⟩ := static.grants first _ world start feasible.aligned whole served (by omega) unmapped
  rcases allocation : calls.machVmAllocate first settings.size.toNat world with ⟨allocated, next⟩
  rw [allocation] at answer permitted
  cases answer
  rcases protection : calls.machVmProtect first settings.size.toNat next with ⟨success, last⟩
  rw [protection] at permitted
  cases permitted
  refine ⟨LocatorItem.new first settings.size, last, ?_, feasible.window_le, feasible.le_window⟩
  simp only [tryAllocateBuffer, getBufferPointersInPageRange, ends, found, tryPointers, allocation, protection]

/-- Before a region, the pointers are exactly the places of the gap. -/
theorem tryAllocateBuffer_gap {cursor stop : Nat} (order : cursor ≤ stop) (word : stop + 1 < target.usize)
    (apart : ∀ region ∈ regions, stop ≤ region.startAddress ∨ region.endAddress ≤ cursor)
    (served : 0 < settings.size.toNat) {world last : σ} {item : LocatorItem} (start : still world)
    (run : tryAllocateBuffer target calls settings cursor (stop - cursor) world = (some item, last)) :
    settings.minAddress ≤ item.baseAddress ∧ item.baseAddress + settings.size.toNat ≤ settings.maxAddress := by
  have large : 4096 ≤ target.granularity := booted.large
  have small := booted.granularity_lt
  have size : settings.size.toNat < target.usize := Nat.lt_of_lt_of_le settings.size.toNat_lt target.u32_le_usize
  have ends : Words.add target.usize cursor (stop - cursor) = stop := by
    rw [Words.add_eq (by omega)]
    omega
  cases found : getBufferPointersInPageRange target settings cursor (stop - cursor) with
  | nil =>
      rw [tryAllocateBuffer, found] at run
      cases run
  | cons first pointers =>
      have listed : first ∈ getPossibleBufferAddresses target.usize settings.minAddress settings.maxAddress cursor stop
          settings.size.toNat target.granularity := by
        rw [getBufferPointersInPageRange, ends] at found
        rw [found]
        exact List.mem_cons_self
      have feasible : Feasible settings.minAddress settings.maxAddress cursor stop settings.size.toNat
          target.granularity first := by
        rcases candidate_feasible (by omega) small minimum maximum (by omega) (by omega) size listed with
          fits | ⟨_, _, top, _⟩
        · exact fits
        · omega
      obtain ⟨other, after, same, window⟩ := tryAllocateBuffer_finds static booted minimum maximum whole order
        (by omega) apart served ⟨first, feasible⟩ start
      cases same.symm.trans run
      exact window

/-- The walk comes to an end. It finds whatever room lies behind the cursor, or leaves the
system as it was. -/
def Finds (target : Target) (settings : BufferAllocatorSettings) (regions : List MemoryMapEntry) (still : σ → Prop)
    (cursor : Nat) (outcome : Option (Option LocatorItem × σ)) : Prop :=
  ∃ result last, outcome = some (result, last) ∧ (result = none → still last) ∧
    ((∃ address, UsableSpace target settings regions address ∧ cursor ≤ address) →
      ∃ item, result = some item ∧ settings.minAddress ≤ item.baseAddress ∧
        item.baseAddress + settings.size.toNat ≤ settings.maxAddress)

omit static booted minimum maximum whole in
/-- There is no room between the cursor and the highest address. -/
theorem Finds.nothing {cursor : Nat}
    (full : min target.sysInfo.maxAddress settings.maxAddress < cursor + settings.size.toNat ∨ settings.size.toNat = 0)
    {world : σ} (start : still world) : Finds target settings regions still cursor (some (none, world)) := by
  refine ⟨none, world, rfl, fun _ => start, ?_⟩
  rintro ⟨address, usable, low⟩
  have top := usable.le_max
  have served := usable.served
  omega

/-- Behind the last region, the pointers up to the highest address are tried. -/
theorem walkRegions_last {cursor fuel : Nat} (before : ∀ region ∈ regions, region.endAddress ≤ cursor) {world : σ}
    (start : still world) : Finds target settings regions still cursor
      (walkRegions target calls settings (min target.sysInfo.maxAddress settings.maxAddress) (fuel + 1) cursor world) := by
  have highest : min target.sysInfo.maxAddress settings.maxAddress < target.usize :=
    (Nat.min_le_right _ _).trans_lt maximum
  obtain ⟨answer, next_still⟩ := static.describes cursor world start
  have nowhere := @regionReply_eq regions [] cursor before nofun
  rw [List.append_nil] at nowhere
  rw [nowhere] at answer
  rcases queried : calls.machVmRegion cursor world with ⟨reply, next⟩
  rw [queried] at answer next_still
  cases answer
  by_cases reached : cursor ≤ min target.sysInfo.maxAddress settings.maxAddress
  · simp only [walkRegions, if_pos reached, queried]
    by_cases room : cursor < min target.sysInfo.maxAddress settings.maxAddress
    · rw [if_pos (Nat.sub_pos_of_lt room)]
      rcases tried : tryAllocateBuffer target calls settings cursor
        (min target.sysInfo.maxAddress settings.maxAddress - cursor) next with ⟨result, last⟩
      refine ⟨result, last, rfl, ?_, ?_⟩
      · rintro rfl
        exact tryPointers_still static next_still tried
      · rintro ⟨address, usable, low⟩
        obtain ⟨item, _, same, window⟩ := tryAllocateBuffer_finds static booted minimum maximum whole room.le
          highest (fun region member => .inr (before region member)) usable.served
          ⟨address, usable.aligned, low, usable.le_max, usable.min_le, usable.le_max.trans (Nat.min_le_right _ _)⟩
          next_still
        cases same.symm.trans tried
        exact ⟨item, rfl, window⟩
    · rw [if_neg (by omega)]
      exact .nothing (by omega) next_still
  · rw [walkRegions, if_neg reached]
    exact .nothing (.inl (by omega)) start

/-- A buffer that the gap before a region does not serve lies behind the region. -/
theorem usable_behind {cursor : Nat} {region : MemoryMapEntry} (member : region ∈ regions)
    (word : region.startAddress < target.usize)
    (gap : ∀ other ∈ regions, region.startAddress ≤ other.startAddress ∨ other.endAddress ≤ cursor) {next middle : σ}
    (start : still next)
    (missed : (if region.startAddress > cursor then
      tryAllocateBuffer target calls settings cursor (region.startAddress - cursor) next else (none, next)) =
        (none, middle))
    {address : Nat} (usable : UsableSpace target settings regions address) (low : cursor ≤ address) :
    region.endAddress ≤ address := by
  rcases usable.unmapped region member with ahead | behind
  · have served := usable.served
    have window := usable.le_max.trans (Nat.min_le_right _ _)
    obtain ⟨item, _, same, _⟩ := tryAllocateBuffer_finds static booted minimum maximum whole (by omega) word gap
      served ⟨address, usable.aligned, low, ahead, usable.min_le, window⟩ start
    rw [if_pos (by omega), same] at missed
    cases missed
  · exact behind

/-- The gap before the next region is tried, and then what lies behind the region. -/
theorem walkRegions_next {cursor fuel : Nat} {region : MemoryMapEntry} (member : region ∈ regions)
    (proper : region.startAddress < region.endAddress) (word : region.endAddress < target.usize)
    (gap : ∀ other ∈ regions, region.startAddress ≤ other.startAddress ∨ other.endAddress ≤ cursor)
    (describes : regionReply regions cursor =
      .region region.startAddress (region.endAddress - region.startAddress))
    (later : ∀ middle, still middle → Finds target settings regions still region.endAddress
      (walkRegions target calls settings (min target.sysInfo.maxAddress settings.maxAddress) fuel region.endAddress
        middle))
    {world : σ} (start : still world) : Finds target settings regions still cursor
      (walkRegions target calls settings (min target.sysInfo.maxAddress settings.maxAddress) (fuel + 1) cursor world) := by
  have onward : Words.add target.usize region.startAddress (region.endAddress - region.startAddress) =
      region.endAddress := by
    rw [Words.add_eq (by omega)]
    omega
  obtain ⟨answer, next_still⟩ := static.describes cursor world start
  rw [describes] at answer
  rcases queried : calls.machVmRegion cursor world with ⟨reply, next⟩
  rw [queried] at answer next_still
  cases answer
  by_cases reached : cursor ≤ min target.sysInfo.maxAddress settings.maxAddress
  · simp only [walkRegions, if_pos reached, queried, onward]
    rcases tried : (if region.startAddress > cursor then
        tryAllocateBuffer target calls settings cursor (region.startAddress - cursor) next else (none, next)) with
      ⟨found, middle⟩
    cases found with
    | some item =>
        refine ⟨some item, middle, rfl, fun absent => absurd absent (Option.some_ne_none item), ?_⟩
        rintro ⟨address, usable, _⟩
        split at tried
        · rename_i ahead
          exact ⟨item, rfl, tryAllocateBuffer_gap static booted minimum maximum whole (Nat.le_of_lt ahead)
            (by omega) gap usable.served next_still tried⟩
        · cases tried
    | none =>
        have middle_still : still middle := by
          split at tried
          · exact tryPointers_still static next_still tried
          · cases tried
            exact next_still
        obtain ⟨result, last, run, unchanged, finds⟩ := later middle middle_still
        refine ⟨result, last, run, unchanged, ?_⟩
        rintro ⟨address, usable, low⟩
        exact finds ⟨address, usable, usable_behind static booted minimum maximum whole member (by omega) gap
          next_still tried usable low⟩
  · rw [walkRegions, if_neg reached]
    exact .nothing (.inl (by omega)) start

/-- From a cursor that has passed some of the regions, the walk finds any room behind it. -/
theorem walkRegions_finds (map : SortedMap target.usize regions) {passed rest : List MemoryMapEntry}
    (split : regions = passed ++ rest) {cursor : Nat} (before : ∀ region ∈ passed, region.endAddress ≤ cursor)
    (after : ∀ region ∈ rest, cursor < region.endAddress) {fuel : Nat} (enough : rest.length < fuel) {world : σ}
    (start : still world) : Finds target settings regions still cursor
      (walkRegions target calls settings (min target.sysInfo.maxAddress settings.maxAddress) fuel cursor world) := by
  obtain ⟨fuel, rfl⟩ := Nat.exists_eq_succ_of_ne_zero (Nat.ne_of_gt (Nat.lt_of_le_of_lt (Nat.zero_le _) enough))
  induction rest generalizing passed cursor fuel world with
  | nil =>
      rw [List.append_nil] at split
      exact walkRegions_last static booted minimum maximum whole (split ▸ before) start
  | cons region rest ih =>
      have member : region ∈ regions := by
        rw [split]
        exact List.mem_append_right _ List.mem_cons_self
      obtain ⟨proper, word⟩ := map.proper region member
      have sorted := split ▸ map
      have describes : regionReply regions cursor = _ := split ▸ regionReply_eq before after
      have gap := split ▸ sorted.gap before
      refine walkRegions_next static booted minimum maximum whole member proper word gap describes ?_ start
      intro middle middle_still
      obtain ⟨fuel, rfl⟩ := Nat.exists_eq_succ_of_ne_zero (Nat.ne_of_gt (Nat.zero_lt_of_lt
        (Nat.lt_of_succ_lt_succ enough)))
      exact ih (by rw [split, List.append_assoc]; rfl) (passes_next before (after region List.mem_cons_self)) sorted.remains
        middle_still fuel (Nat.lt_of_succ_lt_succ enough)

end

end BufferAllocatorOsx

def SystemCall.isRegionQuery : SystemCall → Bool
  | .machVmRegion .. => true
  | _ => false

/-- How often `mach_vm_region` has been called. -/
def Logged.regionQueries {σ : Type} (world : Logged σ) : Nat := world.calls.countP SystemCall.isRegionQuery

section

variable {σ : Type} {calls : MachCalls σ} {target : Target} {settings : BufferAllocatorSettings}

theorem MachCalls.Static.logged {regions : List MemoryMapEntry} {still : σ → Prop}
    (static : calls.Static target regions still) :
    calls.logged.Static target regions fun world => still world.system where
  describes address world := static.describes address world.system
  grants address length world := static.grants address length world.system
  refused address length world := static.refused address length world.system
  returned address length allocated world next denied start answer protection := by
    obtain ⟨allocated_here, rfl⟩ := Prod.ext_iff.mp answer
    obtain ⟨denied_here, rfl⟩ := Prod.ext_iff.mp protection
    exact static.returned address length allocated world.system _ _ start (Prod.ext allocated_here rfl)
      (Prod.ext denied_here rfl)

namespace BufferAllocatorOsx

theorem tryPointers_queries (pointers : List Nat) (world : Logged σ) :
    (tryPointers calls.logged settings pointers world).2.regionQueries = world.regionQueries := by
  have allocates : ∀ address (start : Logged σ),
      (calls.logged.machVmAllocate address settings.size.toNat start).2.regionQueries = start.regionQueries :=
    fun _ _ => List.countP_cons_of_neg Bool.false_ne_true
  have protects : ∀ address (start : Logged σ),
      (calls.logged.machVmProtect address settings.size.toNat start).2.regionQueries = start.regionQueries :=
    fun _ _ => List.countP_cons_of_neg Bool.false_ne_true
  have deallocates : ∀ address (start : Logged σ),
      (calls.logged.machVmDeallocate address settings.size.toNat start).regionQueries = start.regionQueries :=
    fun _ _ => List.countP_cons_of_neg Bool.false_ne_true
  induction pointers generalizing world with
  | nil => rfl
  | cons address pointers ih =>
      have allocated := allocates address world
      simp only [tryPointers]
      split
      · rename_i next answer
        rw [answer] at allocated
        exact (ih next).trans allocated
      · rename_i pointer next answer
        rw [answer] at allocated
        have protected_ := protects pointer next
        split
        · rename_i denied_world denied
          rw [denied] at protected_
          rw [ih, deallocates]
          exact protected_.trans allocated
        · rename_i last permitted
          rw [permitted] at protected_
          exact protected_.trans allocated

theorem tryPointers_mapped {pointers : List Nat} {world last : Logged σ} {result : Option LocatorItem}
    (run : tryPointers calls.logged settings pointers world = (result, last)) :
    ItemMapped settings result last.calls := by
  induction pointers generalizing world with
  | nil =>
      cases run
      trivial
  | cons address pointers ih =>
      simp only [tryPointers] at run
      split at run
      · exact ih run
      · rename_i allocated next answer
        split at run
        · exact ih run
        · rename_i after permitted
          cases run
          -- The two calls that were just answered are the latest ones.
          obtain ⟨allocated_here, rfl⟩ := Prod.ext_iff.mp answer
          obtain ⟨permitted_here, rfl⟩ := Prod.ext_iff.mp permitted
          exact ⟨rfl, permitted_here, rfl, allocated_here, rfl, rfl⟩

theorem walkRegions_mapped {maxAddress fuel cursor : Nat} {world last : Logged σ} {result : Option LocatorItem}
    (run : walkRegions target calls.logged settings maxAddress fuel cursor world = some (result, last)) :
    ItemMapped settings result last.calls :=
  walkRegions_rule (ItemMapped.walkRule σ settings) (fun _ _ => trivial)
    (fun _ _ _ _ _ tried => tryPointers_mapped tried) run

theorem walkRegions_queries {maxAddress fuel cursor : Nat} {world last : Logged σ} {result : Option LocatorItem}
    (run : walkRegions target calls.logged settings maxAddress fuel cursor world = some (result, last)) :
    last.regionQueries ≤ world.regionQueries + fuel := by
  induction fuel generalizing cursor world with
  | zero => cases run
  | succ fuel ih =>
      have counted : (calls.logged.machVmRegion cursor world).2.regionQueries = world.regionQueries + 1 :=
        List.countP_cons_of_pos rfl
      simp only [walkRegions] at run
      split at run
      · split at run
        · rename_i next answer
          rw [answer] at counted
          split at run
          · have tried := @tryPointers_queries σ calls settings
              (getBufferPointersInPageRange target settings cursor (maxAddress - cursor)) next
            rw [← tryAllocateBuffer, Option.some.inj run] at tried
            dsimp only at tried counted
            omega
          · cases run
            dsimp only at counted
            omega
        · rename_i next answer
          cases run
          rw [answer] at counted
          dsimp only at counted
          omega
        · rename_i actualAddress availableSize next answer
          rw [answer] at counted
          have tried : (if actualAddress > cursor then
              tryAllocateBuffer target calls.logged settings cursor (actualAddress - cursor) next
              else (none, next)).2.regionQueries = next.regionQueries := by
            split
            · exact tryPointers_queries _ _
            · rfl
          split at run
          · rename_i item after found
            cases run
            rw [found] at tried
            dsimp only at tried counted
            omega
          · rename_i after missed
            rw [missed] at tried
            have onward := ih run
            dsimp only at tried counted
            omega
      · cases run
        omega

end BufferAllocatorOsx

end

/-- The first walk finds room that the settings and the system allow, maps it and answers
with its address in the window. Every walk asks about a region once and once more, at most, and
one that finds nothing leaves the system to the next as it was. -/
theorem allocateOsx_finds {σ : Type} {calls : MachCalls σ} {target : Target} {settings : BufferAllocatorSettings}
    {regions : List MemoryMapEntry} {still : σ → Prop} (static : calls.Static target regions still)
    (map : SortedMap target.usize regions) (booted : target.Booted)
    (power : ∃ exponent, target.granularity = 2 ^ exponent) (minimum : settings.minAddress < target.usize)
    (maximum : settings.maxAddress < target.usize) (tries : 0 < settings.retries) :
    (∀ world : Logged σ, still world.system →
      (∃ address, UsableSpace target (settings.sanitize target) regions address) → ∃ item last,
        allocateOsx target calls.logged (regions.length + 1) (settings.sanitize target) world = some (some item, last) ∧
        (settings.sanitize target).minAddress ≤ item.baseAddress ∧
        item.baseAddress + (settings.sanitize target).size.toNat ≤ settings.maxAddress ∧
        item.size = (settings.sanitize target).size ∧ MappedLast item.baseAddress item.size.toNat last.calls) ∧
    ∀ world : Logged σ, still world.system → ∃ result last,
      BufferAllocatorOsx.walkRegions target calls.logged (settings.sanitize target)
          (min target.sysInfo.maxAddress settings.maxAddress) (regions.length + 1)
          (settings.sanitize target).minAddress world = some (result, last) ∧
        last.regionQueries ≤ world.regionQueries + (regions.length + 1) ∧ (result = none → still last.system) := by
  have large : 4096 ≤ target.granularity := booted.large
  have multiple := BufferAllocatorSettings.sanitize_size_dvd target settings (by omega) (booted.granularity_dvd power)
  have lowest := BufferAllocatorSettings.sanitize_minAddress_lt target minimum booted.granularity_lt
  obtain ⟨passed, rest, split, before, after⟩ := map.split (settings.sanitize target).minAddress
  have enough : rest.length < regions.length + 1 := by
    rw [split, List.length_append]
    omega
  have walks := fun (world : Logged σ) (start : still world.system) =>
    BufferAllocatorOsx.walkRegions_finds static.logged booted lowest maximum multiple map split before after enough start
  refine ⟨fun world start => ?_, fun world start => ?_⟩
  · rintro ⟨address, usable⟩
    obtain ⟨result, last, run, _, finds⟩ := walks world start
    obtain ⟨item, rfl, low, high⟩ := finds ⟨address, usable, usable.min_le⟩
    obtain ⟨count, more⟩ := Nat.exists_eq_succ_of_ne_zero (Nat.ne_of_gt tries)
    refine ⟨item, last, ?_, low, high, BufferAllocatorOsx.walkRegions_mapped run⟩
    simp only [allocateOsx, BufferAllocatorSettings.sanitize_maxAddress] at run ⊢
    rw [show (settings.sanitize target).retries = count + 1 from more, retry, run]
  · obtain ⟨result, last, run, unchanged, _⟩ := walks world start
    exact ⟨result, last, run, BufferAllocatorOsx.walkRegions_queries run, unchanged⟩

/-- A system that keeps its regions and serves what lies between them. -/
def staticMach (target : Target) (regions : List MemoryMapEntry) : MachCalls Unit where
  machVmRegion address system := (regionReply regions address, system)
  machVmAllocate address length system :=
    (if 0 < length ∧ address + length < target.usize ∧ Unmapped regions address length then some address else none, system)
  machVmProtect _ _ system := (true, system)
  machVmDeallocate _ _ system := system

theorem staticMach_static (target : Target) (regions : List MemoryMapEntry) :
    (staticMach target regions).Static target regions fun _ => True where
  describes _ _ _ := ⟨rfl, trivial⟩
  grants _ _ _ _ _ _ positive word unmapped := ⟨if_pos ⟨positive, word, unmapped⟩, rfl⟩
  refused _ _ _ _ _ := trivial
  returned _ _ _ _ _ _ _ _ _ := trivial

/-- A macOS process on Apple silicon, with pages of 16 KiB. -/
def macosTarget : Target := ⟨.bits64, .macos, .aarch64, ⟨0x7FFFFFFFFFFF, 16384, 4096, 1⟩⟩

theorem macosTarget_booted : macosTarget.Booted where
  cached := ⟨⟨0, 16384, 16384, 1⟩, rfl⟩
  large := by decide
  small := by decide

/-- The walk starts in the first region and finds the gap behind it. -/
theorem allocateOsx_finds_gap : ∃ item last, allocateOsx macosTarget
    (staticMach macosTarget [⟨0, 0x100000000⟩, ⟨0x100008000, 0x7FFFFFFFC000⟩]).logged 3
      ((BufferAllocatorSettings.new macosTarget).sanitize macosTarget) ⟨(), []⟩ = some (some item, last) ∧
    MappedLast item.baseAddress item.size.toNat last.calls := by
  have map : SortedMap macosTarget.usize [⟨0, 0x100000000⟩, ⟨0x100008000, 0x7FFFFFFFC000⟩] := ⟨by decide, by decide⟩
  have usable : UsableSpace macosTarget ((BufferAllocatorSettings.new macosTarget).sanitize macosTarget)
      [⟨0, 0x100000000⟩, ⟨0x100008000, 0x7FFFFFFFC000⟩] 0x100000000 :=
    ⟨by decide, by decide, by decide, by decide, by decide⟩
  obtain ⟨item, last, found, _, _, _, mapped⟩ := (allocateOsx_finds (staticMach_static _ _) map macosTarget_booted ⟨14, rfl⟩
    (by decide) (by decide) (by decide)).1 ⟨(), []⟩ trivial ⟨_, usable⟩
  exact ⟨item, last, found, mapped⟩

end ReloadedBuffers
