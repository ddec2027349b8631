import ReloadedBuffers.Buffers

/-! What a buffer search grants, whichever way it finds the buffer. -/

set_option autoImplicit false

namespace ReloadedBuffers

namespace Buffers

variable {σ : Type}

/-- The promise of `get_buffer`: a registered item, locked for the caller, with the
space asked for inside the range asked for. -/
structure Granted (settings : BufferSearchSettings) (before : World σ) (pointer : SafeLocatorItem)
    (after : World σ) (item : LocatorItem) : Prop where
  registered : after.locators.registered pointer = some item
  isTaken : item.isTaken = 1
  wasFree : ∀ earlier, before.locators.registered pointer = some earlier → earlier.isTaken = 0
  bytesLeft : settings.size ≤ item.bytesLeft
  minAddress : settings.minAddress ≤ item.baseAddress + item.position.toNat
  maxAddress : item.baseAddress + item.size.toNat ≤ settings.maxAddress

/-- The chain of a search in progress: all its items are sound, and an item that is
free was free when the search began. -/
structure Searching (target : Target) (held : σ → Set Nat) (start : World σ) (first : Nat) (locator : Nat)
    (world : World σ) : Prop where
  housed : World.Housed held world
  chain : ∃ nodes, world.locators.Chain first nodes ∧ locator ∈ nodes ∧
    ∀ pointer item, pointer.locator ∈ nodes → world.locators.registered pointer = some item →
      item.Sound target.usize
  free : ∀ pointer earlier, start.locators.registered pointer = some earlier →
    ∃ item, world.locators.registered pointer = some item ∧ (item.isTaken = 0 → earlier.isTaken = 0)

variable {target : Target} {held : σ → Set Nat} {start before after : World σ} {first locator : Nat}

theorem Searching.quiet (searching : Searching target held start first locator before)
    (quiet : World.Quiet held before after) : Searching target held start first locator after where
  housed := searching.housed.quiet quiet
  chain := by
    obtain ⟨nodes, chain, member, sound⟩ := searching.chain
    refine ⟨nodes, ?_, member, ?_⟩
    · unfold Locators.Chain at chain ⊢
      rwa [quiet.next]
    · intro pointer item inside found
      obtain ⟨earlier, known, marked⟩ := quiet.registered found
      obtain ⟨base, size, position, _⟩ := marked.fields
      have whole := sound pointer earlier inside known
      constructor
      · rw [position, size]
        exact whole.position_le
      · rw [base, size]
        exact whole.end_lt
  free := by
    intro pointer earlier known
    obtain ⟨item, found, free⟩ := searching.free pointer earlier known
    obtain ⟨later, here, marked⟩ := quiet.later found
    exact ⟨later, here, fun clear => free (marked.fields.2.2.2.mp clear)⟩

theorem Searching.follow {next : Nat} (searching : Searching target held start first locator before)
    (follows : before.locators.next locator = some (some next)) :
    Searching target held start first next before where
  housed := searching.housed
  chain := by
    obtain ⟨nodes, chain, member, sound⟩ := searching.chain
    exact ⟨nodes, chain, chain.next_mem member follows, sound⟩
  free := searching.free

theorem Searching.link {address : Nat} (searching : Searching target held start first locator before)
    (linked : World.Linked target held before locator address after) :
    Searching target held start first address after where
  housed := searching.housed.link linked
  chain := by
    obtain ⟨nodes, chain, member, sound⟩ := searching.chain
    obtain ⟨more, tail, inside, frame⟩ := linked.nodes
    refine ⟨nodes ++ more, ?_, List.mem_append_right _ tail.head_mem, ?_⟩
    · refine chain.extend member linked.ended (fun node old apart => frame node ?_ apart) linked.next tail
      -- The new block is fresh memory, so no old locator lies in it.
      intro new
      have inUse := searching.housed node (chain.defined old)
      exact Set.disjoint_left.mp linked.separate (inside node new) inUse
    · intro pointer item known found
      by_cases new : pointer.locator ∈ Words.extent address target.granularity
      · exact linked.fresh_sound new found
      · rw [linked.kept pointer new] at found
        rcases List.mem_append.mp known with old | recent
        · exact sound pointer item old found
        · exact absurd (inside _ recent) new
  free := by
    intro pointer earlier known
    obtain ⟨item, found, free⟩ := searching.free pointer earlier known
    exact ⟨item, linked.registered searching.housed found, free⟩

/-- An available item that has been taken grants what the search asked for. -/
theorem Searching.taken {settings : BufferSearchSettings} {pointer : SafeLocatorItem}
    (searching : Searching target held start first pointer.locator before)
    (taken : World.Taken target settings before pointer after) :
    ∃ nodes item, after.locators.Chain first nodes ∧ pointer.locator ∈ nodes ∧
      Granted settings start pointer after item ∧ item.Sound target.usize ∧ item.baseAddress ≠ 0 := by
  obtain ⟨nodes, chain, member, sound⟩ := searching.chain
  obtain ⟨item, found, free, usable, registered⟩ := taken.item
  have whole := sound pointer item member found
  obtain ⟨allocated, room, low, high⟩ := whole.canUse_iff.mp usable
  refine ⟨nodes, { item with isTaken := 1 }, ?_, member, ⟨?_, rfl, ?_, ?_, low, high⟩,
    ⟨whole.position_le, whole.end_lt⟩, allocated⟩
  · unfold Locators.Chain at chain ⊢
    rwa [taken.next]
  · rw [registered, Function.update_self]
  · intro earlier known
    -- The search itself frees nothing, so what is free now was free at the start.
    obtain ⟨current, here, wasFree⟩ := searching.free pointer earlier known
    cases here.symm.trans found
    exact wasFree free
  · have left := whole.bytesLeft_toNat
    rw [UInt32.le_iff_toNat_le]
    change _ ≤ item.bytesLeft.toNat
    omega

/-- A newly allocated item grants what the search asked for when rounding the size up
to the granularity does not lose any of it. -/
theorem Searching.registered {settings : BufferSearchSettings} {pointer : SafeLocatorItem}
    (rounds : BufferAllocatorSettings.Rounds settings.size target.granularity) (booted : target.Booted)
    (searching : Searching target held start first pointer.locator before)
    (registered : World.Registered target held settings before pointer after) :
    ∃ nodes item, after.locators.Chain first nodes ∧ pointer.locator ∈ nodes ∧
      Granted settings start pointer after item ∧ item.Sound target.usize ∧ item.baseAddress ≠ 0 := by
  obtain ⟨nodes, chain, member, sound⟩ := searching.chain
  obtain ⟨item, obtained, free, stored⟩ := registered.item
  have enough := BufferAllocatorSettings.sanitize_size_ge target (itemRequest target settings)
    rounds (Nat.lt_of_lt_of_le (by decide) booted.large) obtained.served
  refine ⟨nodes, { item with isTaken := 1 }, ?_, member, ⟨?_, rfl, ?_, ?_, ?_, ?_⟩, ⟨?_, ?_⟩, obtained.allocated⟩
  · unfold Locators.Chain at chain ⊢
    rwa [registered.next]
  · rw [stored, Function.update_self]
  · intro earlier known
    obtain ⟨current, here, _⟩ := searching.free pointer earlier known
    rw [free] at here
    cases here
  · change settings.size ≤ item.bytesLeft
    rw [obtained.fresh, LocatorItem.bytesLeft_new]
    exact UInt32.le_iff_toNat_le.mpr enough
  · have low := (BufferAllocatorSettings.minAddress_le_sanitize target _).trans obtained.min_le
    exact low.trans (Nat.le_add_right _ _)
  · have high := obtained.le_max
    rw [obtained.fresh]
    exact high
  · rw [obtained.fresh]
    exact UInt32.zero_le
  · rw [obtained.fresh]
    exact obtained.end_lt

/-- A successful search grants a sound item of the chain it leaves behind, whether it
found it, registered it, or created a locator for it. -/
theorem getBuffer_grants {os : Os σ} {settings : BufferSearchSettings} {world last : World σ} {nodes : List Nat}
    {fuel depth : Nat} {pointer : SafeLocatorItem} (sound : os.Sound target held) (booted : target.Booted)
    (power : ∃ exponent, target.granularity = 2 ^ exponent) (tells : target.TellsFailure)
    (minimum : settings.minAddress < target.usize) (maximum : settings.maxAddress < target.usize)
    (housed : World.Housed held world) (chain : world.locators.Chain first nodes)
    (items : ∀ pointer item, pointer.locator ∈ nodes → world.locators.registered pointer = some item →
      item.Sound target.usize)
    (run : getBuffer target os fuel depth settings first world = some (.ok pointer, last)) :
    ∃ nodes item, last.locators.Chain first nodes ∧ pointer.locator ∈ nodes ∧
      Granted settings world pointer last item ∧ item.Sound target.usize ∧ item.baseAddress ≠ 0 := by
  have rounds : BufferAllocatorSettings.Rounds settings.size target.granularity :=
    .inl (booted.granularity_dvd power)
  have rule : SearchRule target held settings (Searching target held world first)
      (fun result after => ∀ pointer, result = .ok pointer →
        ∃ nodes item, after.locators.Chain first nodes ∧ pointer.locator ∈ nodes ∧
          Granted settings world pointer after item ∧ item.Sound target.usize ∧ item.baseAddress ≠ 0) := by
    constructor
    · exact fun _ _ searching => searching.housed
    · exact fun _ _ _ searching quiet => searching.quiet quiet
    · exact fun _ _ _ searching follows => searching.follow follows
    · exact fun _ _ _ _ searching linked => searching.link linked
    · rintro before pointer after searching taken _ ⟨⟩
      exact searching.taken taken
    · rintro before pointer after searching registered _ ⟨⟩
      exact searching.registered rounds booted registered
    · rintro locator after text searching _ ⟨⟩
  have start : Searching target held world first first world :=
    ⟨housed, ⟨nodes, chain, chain.head_mem, items⟩, fun _ earlier known => ⟨earlier, known, id⟩⟩
  exact getBufferRecursive_rule sound booted tells minimum maximum rule run start pointer rfl

/-- Run alone over a finite chain of sound items, a successful search keeps its promise. -/
theorem getBuffer_granted {os : Os σ} {settings : BufferSearchSettings} {world last : World σ} {nodes : List Nat}
    {fuel depth : Nat} {pointer : SafeLocatorItem} (sound : os.Sound target held) (booted : target.Booted)
    (power : ∃ exponent, target.granularity = 2 ^ exponent) (wide : target.width = .bits64)
    (minimum : settings.minAddress < target.usize) (maximum : settings.maxAddress < target.usize)
    (housed : World.Housed held world) (chain : world.locators.Chain first nodes)
    (items : ∀ pointer item, pointer.locator ∈ nodes → world.locators.registered pointer = some item →
      item.Sound target.usize)
    (run : getBuffer target os fuel depth settings first world = some (.ok pointer, last)) :
    ∃ nodes item, last.locators.Chain first nodes ∧ pointer.locator ∈ nodes ∧
      Granted settings world pointer last item := by
  obtain ⟨nodes, item, linked, member, granted, _⟩ :=
    getBuffer_grants sound booted power (.inl wide) minimum maximum housed chain items run
  exact ⟨nodes, item, linked, member, granted⟩

/-- One locator without items, and free memory behind it. -/
def emptyHeader : LocatorHeader := ⟨0x10000, 0, 0, 0, 0, fun _ => ⟨0, 0, 0, 0⟩⟩

def smallWorld : World Nat := ⟨fun address => if address = 0x10000 then some emptyHeader else none, 0x11000⟩

theorem smallWorld_locator {address : Nat} (found : (smallWorld.locators.next address).isSome) :
    address = 0x10000 := by
  rw [Locators.next_isSome] at found
  by_contra apart
  simp [smallWorld, apart] at found

theorem smallWorld_housed : World.Housed Set.Iio smallWorld := by
  intro address found
  rw [smallWorld_locator found]
  decide

theorem smallWorld_chain : smallWorld.locators.Chain 0x10000 [0x10000] :=
  .last rfl

theorem smallWorld_items {pointer : SafeLocatorItem} {item : LocatorItem}
    (found : smallWorld.locators.registered pointer = some item) : item.Sound smallTarget.usize := by
  obtain ⟨header, reached, inside, _⟩ := Locators.registered_eq_some.mp found
  have empty : header = emptyHeader := by
    simp only [smallWorld] at reached
    split at reached
    · exact (Option.some.inj reached).symm
    · cases reached
  rw [empty] at inside
  exact absurd inside (Nat.not_lt_zero _)

theorem getBuffer_granted_fresh : ∃ last nodes item,
    getBuffer smallTarget (.upwards smallTarget.usize emptyHeader) 0 1 ⟨0x20000, 0x7FFFFFFFFFFF, 5000⟩ 0x10000
      smallWorld = some (.ok ⟨0x10000, 0⟩, last) ∧
    last.locators.Chain 0x10000 nodes ∧ 0x10000 ∈ nodes ∧
    Granted ⟨0x20000, 0x7FFFFFFFFFFF, 5000⟩ smallWorld ⟨0x10000, 0⟩ last item := by
  have run : ∃ last, getBuffer smallTarget (.upwards smallTarget.usize emptyHeader) 0 1
      ⟨0x20000, 0x7FFFFFFFFFFF, 5000⟩ 0x10000 smallWorld = some (.ok ⟨0x10000, 0⟩, last) := ⟨_, rfl⟩
  obtain ⟨last, run⟩ := run
  obtain ⟨nodes, item, linked, member, granted⟩ := getBuffer_granted (Os.upwards_sound smallTarget emptyHeader rfl)
    smallTarget_booted ⟨12, rfl⟩ rfl (by decide) (by decide) smallWorld_housed smallWorld_chain
    (fun _ _ _ => smallWorld_items) run
  exact ⟨last, nodes, item, run, linked, member, granted⟩

end Buffers

end ReloadedBuffers
