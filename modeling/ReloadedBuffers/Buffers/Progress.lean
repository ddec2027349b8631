import ReloadedBuffers.Buffers.Session

/-! The layout of buffers in memory and the claims of clients on them, through a
search and through a change of position. On the way the arena of the registered
items only goes forward.
-/

set_option autoImplicit false

namespace ReloadedBuffers

namespace Buffers

variable {σ : Type}

/-- Locators and registered buffers lie in memory that is in use. -/
structure Laid (target : Target) (held : σ → Set Nat) (world : World σ) : Prop where
  housed : World.Housed held world
  sound : ∀ pointer item, world.locators.registered pointer = some item → item.Sound target.usize
  inUse : ∀ pointer item, world.locators.registered pointer = some item →
    Words.extent item.baseAddress item.size.toNat ⊆ held world.os

/-- Every live item is locked, belongs to one holder, and has room for what is left
of its budget. -/
structure Leased (leases : Nat → Option Lease) (world : World σ) : Prop where
  room : ∀ handle lease, leases handle = some lease → ∃ item,
    world.locators.registered lease.pointer = some item ∧ item.isTaken ≠ 0 ∧
    item.position.toNat + lease.budget ≤ item.size.toNat
  distinct : ∀ handle other one two, leases handle = some one → leases other = some two →
    one.pointer = two.pointer → handle = other

/-- Where a search has got to: the arena has only gone forward since it began. -/
structure Progress (target : Target) (held : σ → Set Nat) (start : Session σ) (leases : Nat → Option Lease)
    (world : World σ) : Prop where
  laid : Laid target held world
  leased : Leased leases world
  steps : Arena.Steps (start.world.arena start.records) (world.arena start.records)

variable {target : Target} {held : σ → Set Nat} {start : Session σ} {leases : Nat → Option Lease}
  {before after : World σ} {pointer : SafeLocatorItem} {item : LocatorItem}

theorem Laid.quiet (laid : Laid target held before) (quiet : World.Quiet held before after) :
    Laid target held after where
  housed := laid.housed.quiet quiet
  sound pointer item found := by
    obtain ⟨earlier, known, marked⟩ := quiet.registered found
    obtain ⟨base, size, position, _⟩ := marked.fields
    have whole := laid.sound pointer earlier known
    constructor
    · rw [position, size]
      exact whole.position_le
    · rw [base, size]
      exact whole.end_lt
  inUse pointer item found := by
    obtain ⟨earlier, known, marked⟩ := quiet.registered found
    obtain ⟨base, size, _, _⟩ := marked.fields
    rw [base, size]
    exact (laid.inUse pointer earlier known).trans quiet.held_le

/-- A sound item in used memory may be stored anywhere. -/
theorem Laid.update (laid : Laid target held before) (more : held before.os ⊆ held after.os)
    (next : after.locators.next = before.locators.next)
    (stored : after.locators.registered = Function.update before.locators.registered pointer (some item))
    (sound : item.Sound target.usize) (inUse : Words.extent item.baseAddress item.size.toNat ⊆ held after.os) :
    Laid target held after where
  housed locator found := by
    rw [next] at found
    exact more (laid.housed locator found)
  sound other known found := by
    rcases eq_or_ne other pointer with rfl | apart
    · rw [stored, Function.update_self] at found
      cases found
      exact sound
    · rw [stored, Function.update_of_ne apart] at found
      exact laid.sound other known found
  inUse other known found := by
    rcases eq_or_ne other pointer with rfl | apart
    · rw [stored, Function.update_self] at found
      cases found
      exact inUse
    · rw [stored, Function.update_of_ne apart] at found
      exact (laid.inUse other known found).trans more

theorem Leased.mono (leased : Leased leases before)
    (kept : ∀ pointer item, before.locators.registered pointer = some item → item.isTaken ≠ 0 →
      ∃ later, after.locators.registered pointer = some later ∧ later.isTaken ≠ 0 ∧
        later.position = item.position ∧ later.size = item.size) : Leased leases after where
  room handle lease live := by
    obtain ⟨item, found, taken, room⟩ := leased.room handle lease live
    obtain ⟨later, here, locked, position, size⟩ := kept _ _ found taken
    exact ⟨later, here, locked, by rw [position, size]; exact room⟩
  distinct := leased.distinct

/-- A handle on an item nobody else holds replaces whatever its name stood for. -/
theorem Leased.update {handle budget : Nat} (leased : Leased leases before)
    (stored : after.locators.registered = Function.update before.locators.registered pointer (some item))
    (unshared : ∀ other lease, other ≠ handle → leases other = some lease → lease.pointer ≠ pointer)
    (taken : item.isTaken ≠ 0) (room : item.position.toNat + budget ≤ item.size.toNat) :
    Leased (Function.update leases handle (some ⟨pointer, budget⟩)) after where
  room other lease live := by
    rcases eq_or_ne other handle with rfl | apart
    · rw [Function.update_self] at live
      cases live
      exact ⟨item, by rw [stored, Function.update_self], taken, room⟩
    · rw [Function.update_of_ne apart] at live
      obtain ⟨known, found, locked, enough⟩ := leased.room other lease live
      exact ⟨known, by rw [stored, Function.update_of_ne (unshared other lease apart live), found], locked, enough⟩
  distinct one other first second left right same := by
    rcases eq_or_ne one handle with rfl | apart
    · rw [Function.update_self] at left
      cases left
      -- The new lease would share its item with an old one.
      by_contra different
      rw [Function.update_of_ne (Ne.symm different)] at right
      exact unshared other second (Ne.symm different) right same.symm
    · rw [Function.update_of_ne apart] at left
      rcases eq_or_ne other handle with rfl | elsewhere
      · rw [Function.update_self] at right
        cases right
        exact absurd same (unshared one first apart left)
      · rw [Function.update_of_ne elsewhere] at right
        exact leased.distinct one other first second left right same

theorem Leased.drop {handle : Nat} {lease : Lease} (leased : Leased leases before)
    (live : leases handle = some lease)
    (stored : after.locators.registered = Function.update before.locators.registered lease.pointer (some item)) :
    Leased (Function.update leases handle none) after where
  room other known here := by
    have apart : other ≠ handle := by
      rintro rfl
      rw [Function.update_self] at here
      cases here
    rw [Function.update_of_ne apart] at here
    obtain ⟨found, registered, rest⟩ := leased.room other known here
    have elsewhere : known.pointer ≠ lease.pointer := fun same =>
      apart (leased.distinct other handle known lease here live same)
    exact ⟨found, by rw [stored, Function.update_of_ne elsewhere, registered], rest⟩
  distinct one other first second left right same := by
    have here : one ≠ handle := by
      rintro rfl
      rw [Function.update_self] at left
      cases left
    have there : other ≠ handle := by
      rintro rfl
      rw [Function.update_self] at right
      cases right
    rw [Function.update_of_ne here] at left
    rw [Function.update_of_ne there] at right
    exact leased.distinct one other first second left right same

theorem Progress.quiet (progress : Progress target held start leases before)
    (quiet : World.Quiet held before after) : Progress target held start leases after where
  laid := progress.laid.quiet quiet
  leased := by
    refine progress.leased.mono fun pointer item found taken => ?_
    obtain ⟨later, here, marked⟩ := quiet.later found
    obtain ⟨_, size, position, locked⟩ := marked.fields
    exact ⟨later, here, fun clear => taken (locked.mp clear), position, size⟩
  steps := by
    rw [quiet.arena]
    exact progress.steps

/-- A block in fresh memory is a new block of the arena. -/
theorem Laid.register {records : List (Arena.Record SafeLocatorItem)} (laid : Laid target held before)
    (pointer : SafeLocatorItem) (item : LocatorItem)
    (unregistered : before.locators.registered pointer = none) (start : item.position = 0)
    (separate : Disjoint (Words.extent item.baseAddress item.size.toNat) (held before.os))
    (stored : after.locators.registered = Function.update before.locators.registered pointer (some item)) :
    Arena.Steps (before.arena records) (after.arena records) := by
  rw [World.arena_update before after records item stored]
  refine .single (.register ?_ ?_ ?_)
  · simp [World.arena, unregistered]
  · simp [LocatorItem.block, start]
  · intro other found here
    obtain ⟨known, registered, rfl⟩ := World.arena_eq_some.mp here
    exact separate.mono_right (laid.inUse other known registered)

/-- Only the first slot of a new locator holds a buffer. -/
theorem linked_others {locator address : Nat} (linked : World.Linked target held before locator address after)
    (small : target.granularity ≤ singleChunk) (housed : World.Housed held before)
    (apart : pointer ≠ ⟨address, 0⟩) :
    after.locators.registered pointer = before.locators.registered pointer := by
  by_cases inside : pointer.locator ∈ Words.extent address target.granularity
  · cases later : after.locators.registered pointer with
    | none =>
        cases earlier : before.locators.registered pointer with
        | none => rfl
        | some known =>
            rw [linked.registered housed earlier] at later
            cases later
    | some known =>
        obtain ⟨same, first, _⟩ := linked.fresh pointer known inside later
        refine absurd ?_ apart
        cases pointer
        cases same
        cases first small
        rfl
  · exact linked.kept pointer inside

theorem linked_steps {locator address : Nat} {records : List (Arena.Record SafeLocatorItem)}
    (linked : World.Linked target held before locator address after) (small : target.granularity ≤ singleChunk)
    (laid : Laid target held before) : Arena.Steps (before.arena records) (after.arena records) := by
  cases found : after.locators.registered ⟨address, 0⟩ with
  | none =>
      -- A locator without buffers registers nothing, and the arena stays as it is.
      have same : after.locators.registered = before.locators.registered := by
        funext pointer
        rcases eq_or_ne pointer ⟨address, 0⟩ with rfl | apart
        · cases earlier : before.locators.registered ⟨address, 0⟩ with
          | none => exact found
          | some known =>
              rw [linked.registered laid.housed earlier] at found
              cases found
        · exact linked_others linked small laid.housed apart
      simp only [World.arena, same]
      exact .refl
  | some item =>
      obtain ⟨nodes, chain, inside, _⟩ := linked.nodes
      have here := inside address chain.head_mem
      obtain ⟨_, _, size, rfl, fits⟩ := linked.fresh ⟨address, 0⟩ item here found
      refine laid.register ⟨address, 0⟩ (.new (address + locatorLength) size) ?_ rfl ?_ ?_
      · -- The address of the new locator was not in use before.
        cases earlier : before.locators.registered ⟨address, 0⟩ with
        | none => rfl
        | some known =>
            obtain ⟨header, reached, _⟩ := Locators.registered_eq_some.mp earlier
            have inUse := laid.housed address (by rw [Locators.next_isSome, reached]; rfl)
            exact absurd inUse (Set.disjoint_left.mp linked.separate here)
      · refine linked.separate.mono_left ?_
        exact Words.extent_subset (Nat.le_add_right _ _) (by simp only [LocatorItem.new]; omega)
      · funext pointer
        rcases eq_or_ne pointer ⟨address, 0⟩ with rfl | apart
        · rw [Function.update_self, found]
        · rw [Function.update_of_ne apart]
          exact linked_others linked small laid.housed apart

theorem Progress.link {locator address : Nat} (small : target.granularity ≤ singleChunk)
    (progress : Progress target held start leases before)
    (linked : World.Linked target held before locator address after) :
    Progress target held start leases after where
  laid := by
    refine ⟨progress.laid.housed.link linked, ?_, ?_⟩
    · intro pointer item found
      by_cases inside : pointer.locator ∈ Words.extent address target.granularity
      · exact linked.fresh_sound inside found
      · rw [linked.kept pointer inside] at found
        exact progress.laid.sound pointer item found
    · intro pointer item found
      by_cases inside : pointer.locator ∈ Words.extent address target.granularity
      · obtain ⟨_, _, size, rfl, fits⟩ := linked.fresh pointer item inside found
        refine Set.Subset.trans ?_ (Set.subset_union_right.trans linked.grows)
        exact Words.extent_subset (Nat.le_add_right _ _) (by simp only [LocatorItem.new]; omega)
      · rw [linked.kept pointer inside] at found
        exact (progress.laid.inUse pointer item found).trans (Set.subset_union_left.trans linked.grows)
  leased := progress.leased.mono fun pointer item found taken =>
    ⟨item, linked.registered progress.laid.housed found, taken, rfl, rfl⟩
  steps := progress.steps.trans (linked_steps linked small progress.laid)

theorem Progress.taken {handle : Nat} {settings : BufferSearchSettings}
    (progress : Progress target held start leases before)
    (taken : World.Taken target settings before pointer after) :
    Progress target held start (Function.update leases handle (some ⟨pointer, settings.size.toNat⟩)) after := by
  obtain ⟨item, found, free, usable, stored⟩ := taken.item
  have sound := progress.laid.sound pointer item found
  obtain ⟨_, room, _, _⟩ := sound.canUse_iff.mp usable
  refine ⟨?_, ?_, ?_⟩
  · exact progress.laid.update (taken.os ▸ subset_rfl) taken.next stored ⟨sound.position_le, sound.end_lt⟩
      (taken.os ▸ progress.laid.inUse pointer item found)
  · refine progress.leased.update stored ?_ (by simp) room
    -- A leased item is taken, and this one was free.
    rintro other lease _ live rfl
    obtain ⟨known, here, locked, _⟩ := progress.leased.room other lease live
    cases here.symm.trans found
    exact locked free
  · rw [World.arena_update_lock before after { item with isTaken := 1 } found rfl stored]
    exact progress.steps

theorem Progress.registered {handle : Nat} {settings : BufferSearchSettings}
    (rounds : BufferAllocatorSettings.Rounds settings.size target.granularity) (booted : target.Booted)
    (progress : Progress target held start leases before)
    (registered : World.Registered target held settings before pointer after) :
    Progress target held start (Function.update leases handle (some ⟨pointer, settings.size.toNat⟩)) after := by
  obtain ⟨item, obtained, free, stored⟩ := registered.item
  have size : item.size = ((itemRequest target settings).sanitize target).size :=
    congrArg LocatorItem.size obtained.fresh
  have position : item.position = 0 := congrArg LocatorItem.position obtained.fresh
  have enough := BufferAllocatorSettings.sanitize_size_ge target (itemRequest target settings) rounds
    (Nat.lt_of_lt_of_le (by decide) booted.large) obtained.served
  have separate := obtained.separate
  have grows := obtained.grows
  rw [← size] at enough separate grows
  refine ⟨?_, ?_, ?_⟩
  · refine progress.laid.update (Set.subset_union_left.trans grows) registered.next stored ⟨?_, ?_⟩
      (Set.subset_union_right.trans grows)
    · simp only [position]
      exact UInt32.zero_le
    · simp only [size]
      exact obtained.end_lt
  · refine progress.leased.update stored ?_ (by simp) ?_
    -- Nothing was registered under this pointer.
    · rintro other lease _ live rfl
      obtain ⟨known, here, _⟩ := progress.leased.room other lease live
      rw [free] at here
      cases here
    · simp only [position, UInt32.toNat_zero, Nat.zero_add]
      exact enough
  · exact progress.steps.trans (progress.laid.register pointer { item with isTaken := 1 } free position
      separate stored)

/-- A search leaves the arena where it was or further on, and a success leaves a
live item with the size asked for. -/
theorem getBuffer_progress {os : Os σ} {world last : World σ} {fuel depth first : Nat}
    {result : Except BufferSearchError SafeLocatorItem} (handle : Nat) (settings : BufferSearchSettings)
    (sound : os.Sound target held) (booted : target.Booted) (wide : target.width = .bits64)
    (small : target.granularity ≤ singleChunk) (minimum : settings.minAddress < target.usize)
    (maximum : settings.maxAddress < target.usize)
    (rounds : BufferAllocatorSettings.Rounds settings.size target.granularity)
    (run : getBuffer target os fuel depth settings first world = some (result, last))
    (progress : Progress target held start leases world) :
    Progress target held start (received leases handle settings result) last := by
  have rule : SearchRule target held settings (fun _ => Progress target held start leases)
      fun result => Progress target held start (received leases handle settings result) := by
    constructor
    · exact fun _ _ progress => progress.laid.housed
    · exact fun _ _ _ progress quiet => progress.quiet quiet
    · exact fun _ _ _ progress _ => progress
    · exact fun _ _ _ _ progress linked => progress.link small linked
    · exact fun _ _ _ progress taken => progress.taken taken
    · exact fun _ _ _ progress registered => progress.registered rounds booted registered
    · exact fun _ _ _ progress => progress
  exact getBufferRecursive_rule sound booted (.inl wide) minimum maximum rule run progress

/-- A live item can be advanced where its holder's budget still fits behind. -/
theorem Leased.advance {handle : Nat} {lease : Lease} (after : World σ) (count budget : Nat)
    (laid : Laid target held before) (leased : Leased leases before) (live : leases handle = some lease)
    (found : before.locators.registered lease.pointer = some item)
    (spare : item.position.toNat + count + budget ≤ item.size.toNat)
    (system : after.os = before.os) (next : after.locators.next = before.locators.next)
    (stored : after.locators.registered =
      Function.update before.locators.registered lease.pointer (some (item.advance count))) :
    Laid target held after ∧ Leased (Function.update leases handle (some ⟨lease.pointer, budget⟩)) after := by
  obtain ⟨known, here, taken, enough⟩ := leased.room handle lease live
  cases here.symm.trans found
  have room : item.position.toNat + count ≤ item.size.toNat := by omega
  have moved := LocatorItem.advance_position room
  have inUse := laid.inUse _ _ found
  constructor
  · exact laid.update (system ▸ subset_rfl) next stored ((laid.sound _ _ found).advance room) (system ▸ inUse)
  · refine leased.update stored ?_ taken ?_
    -- Two handles never stand for one item.
    · rintro other one apart elsewhere same
      exact apart (leased.distinct other handle one lease elsewhere live same)
    · rw [moved]
      change _ ≤ item.size.toNat
      omega

theorem padding_le_maxMisalignment (number : Nat) (alignment : UInt32) :
    padding number alignment.toNat ≤ (maxMisalignment alignment).toNat := by
  unfold maxMisalignment
  split
  · rename_i zero
    rw [zero]
    exact Nat.le_of_eq padding_zero
  · rename_i positive
    have one : (1 : UInt32) ≤ alignment := by
      rw [UInt32.le_iff_toNat_le]
      exact Nat.pos_of_ne_zero fun zero => positive (UInt32.toNat_inj.mp zero)
    have below := UInt32.le_iff_toNat_le.mp one
    have close : padding number alignment.toNat < alignment.toNat := padding_lt below
    rw [UInt32.toNat_sub_of_le _ _ one]
    exact Nat.le_sub_one_of_lt close

theorem alignItem_cases {alignment : UInt32} {locators last : Locators}
    (found : locators.registered pointer = some item) (sound : item.Sound target.usize)
    (room : item.position.toNat + (maxMisalignment alignment).toNat ≤ item.size.toNat)
    (run : alignItem target alignment pointer locators = some last) :
    last.next = locators.next ∧ last.registered = Function.update locators.registered pointer
      (some (item.advance (padding (item.baseAddress + item.position.toNat) alignment.toNat))) := by
  have close := padding_le_maxMisalignment (item.baseAddress + item.position.toNat) alignment
  have word := sound.end_lt
  have aligned : roundUp target.usize (item.baseAddress + item.position.toNat) alignment.toNat =
      item.baseAddress + item.position.toNat + padding (item.baseAddress + item.position.toNat) alignment.toNat :=
    roundUp_exact (by omega)
  have delta : Words.sub target.usize (roundUp target.usize (item.cursor target.usize) alignment.toNat)
      (item.cursor target.usize) = padding (item.baseAddress + item.position.toNat) alignment.toNat := by
    rw [sound.cursor_eq, aligned, Words.sub_eq (by omega) (Nat.le_add_right _ _), Nat.add_sub_cancel_left]
  obtain ⟨written, stored, next, registered⟩ := Locators.setItem_registered
    (item.advance (padding (item.baseAddress + item.position.toNat) alignment.toNat)) found
  rw [alignItem, Locators.item_of_registered found] at run
  simp only [Option.bind_eq_bind, Option.bind_some, delta] at run
  cases stored.symm.trans run
  exact ⟨next, registered⟩

end Buffers

end ReloadedBuffers
