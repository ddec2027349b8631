import ReloadedBuffers.Buffers.Granted
import ReloadedBuffers.Buffers.Progress

/-! What `get_buffer_aligned` grants. The size that is searched for wraps where the size
asked for and the padding do not fit a `u32`, and then nothing of the promise is left.
-/

set_option autoImplicit false

namespace ReloadedBuffers

/-- A system that gives out nothing. -/
def Os.exhausted (usize : Nat) (raw : LocatorHeader) : Os Unit where
  linux := ⟨fun _ system => some ([], system), fun _ _ system => (mapFailed usize, system), fun _ _ system => system⟩
  windows := ⟨fun _ system => (false, system), fun _ system => (none, system), fun _ system => (none, system),
    fun _ _ system => (0, system), fun _ _ system => system⟩
  macos := ⟨fun _ system => (.failure, system), fun _ _ system => (none, system), fun _ _ system => (false, system),
    fun _ _ system => system⟩
  alloc _ _ system := (0, system)
  raw _ _ := raw

theorem Os.exhausted_sound (target : Target) (raw : LocatorHeader) (inUse : Set Nat) :
    (Os.exhausted target.usize raw).Sound target fun _ => inUse where
  platform := by
    cases target.os with
    | linux =>
        refine ⟨?_, ?_, fun _ _ => rfl, ?_, fun _ _ _ _ => subset_rfl, fun _ _ _ => Set.sdiff_subset,
          fun _ _ => subset_rfl⟩
        · rintro processId system regions next ⟨⟩ entry member
          cases member
        · rintro processId system regions next ⟨⟩
          exact subset_rfl
        · exact fun _ _ _ granted => absurd rfl granted
    | windows =>
        refine ⟨fun _ _ => subset_rfl, fun _ _ => subset_rfl, fun _ _ => subset_rfl, fun _ _ => rfl, ?_,
          fun _ _ _ _ => subset_rfl, fun _ _ _ => Set.sdiff_subset, fun _ _ => subset_rfl⟩
        exact fun _ _ _ granted => absurd rfl granted
    | macos =>
        exact ⟨fun _ _ => subset_rfl, fun _ _ => rfl, fun _ _ _ _ given => (nomatch given),
          fun _ _ _ _ given => (nomatch given), fun _ _ _ _ => subset_rfl, fun _ _ _ => subset_rfl,
          fun _ _ _ => Set.sdiff_subset⟩
  heapGranted _ _ _ granted := absurd rfl granted
  heapRefused _ _ _ _ := subset_rfl

namespace Buffers

/-- The promise of `get_buffer_aligned`. -/
structure AlignedGrant (settings : BufferSearchSettings) (alignment : UInt32) (item : LocatorItem) : Prop where
  aligned : alignment.toNat ∣ item.baseAddress + item.position.toNat
  position_le : item.position ≤ item.size
  bytesLeft : settings.size ≤ item.bytesLeft
  minAddress : settings.minAddress ≤ item.baseAddress + item.position.toNat
  maxAddress : item.baseAddress + item.size.toNat ≤ settings.maxAddress

/-- Whatever the system and whatever sound items the chain holds, a success keeps the promise. -/
def KeepsPromise (target : Target) (settings : BufferSearchSettings) (alignment : UInt32) : Prop :=
  ∀ (σ : Type) (held : σ → Set Nat) (os : Os σ) (world last : World σ) (first : Nat) (nodes : List Nat)
    (fuel depth : Nat) (pointer : SafeLocatorItem), os.Sound target held → World.Housed held world →
    world.locators.Chain first nodes →
    (∀ pointer item, pointer.locator ∈ nodes → world.locators.registered pointer = some item →
      item.Sound target.usize) →
    getBufferAligned target os fuel depth settings alignment first world = some (.ok pointer, last) →
    ∃ item, last.locators.registered pointer = some item ∧ AlignedGrant settings alignment item

variable {target : Target} {settings : BufferSearchSettings} {alignment : UInt32}

/-- Aligning an item with room for the padding keeps what it was granted for. -/
theorem alignedGrant_of_granted {item : LocatorItem} (positive : 1 ≤ alignment) (sound : item.Sound target.usize)
    (room : settings.size.toNat + (maxMisalignment alignment).toNat ≤ item.bytesLeft.toNat)
    (low : settings.minAddress ≤ item.baseAddress + item.position.toNat)
    (high : item.baseAddress + item.size.toNat ≤ settings.maxAddress) :
    AlignedGrant settings alignment
      (item.advance (padding (item.baseAddress + item.position.toNat) alignment.toNat)) := by
  have close := padding_le_maxMisalignment (item.baseAddress + item.position.toNat) alignment
  have left := sound.bytesLeft_toNat
  have fits := sound.position_le_toNat
  have enough : item.position.toNat + padding (item.baseAddress + item.position.toNat) alignment.toNat ≤
      item.size.toNat := by omega
  have moved := LocatorItem.advance_position enough
  have advanced := sound.advance enough
  refine ⟨?_, advanced.position_le, ?_, ?_, high⟩
  · rw [moved, ← Nat.add_assoc]
    exact dvd_add_padding (UInt32.le_iff_toNat_le.mp positive)
  · rw [UInt32.le_iff_toNat_le, advanced.bytesLeft_toNat, moved]
    change _ ≤ item.size.toNat - _
    omega
  · rw [moved]
    exact low.trans (by change _ ≤ item.baseAddress + _; omega)

theorem maxMisalignment_toNat (positive : 1 ≤ alignment) :
    maxMisalignment alignment = alignment - 1 ∧ (alignment - 1).toNat = alignment.toNat - 1 := by
  have one := UInt32.le_iff_toNat_le.mp positive
  have some_step : alignment ≠ 0 := by
    rintro rfl
    exact absurd one (by decide)
  exact ⟨if_neg some_step, UInt32.toNat_sub_of_le _ _ positive⟩

/-- One locator with one free item. -/
def oneItemHeader (item : LocatorItem) : LocatorHeader := ⟨0x10000, 0, 0, 0, 1, fun _ => item⟩

def oneItemWorld (item : LocatorItem) : World Unit :=
  ⟨fun address => if address = 0x10000 then some (oneItemHeader item) else none, ()⟩

theorem oneItemWorld_registered {item : LocatorItem} {pointer : SafeLocatorItem} {found : LocatorItem}
    (registered : (oneItemWorld item).locators.registered pointer = some found) : found = item := by
  obtain ⟨header, reached, _, here⟩ := Locators.registered_eq_some.mp registered
  simp only [oneItemWorld] at reached
  split at reached
  · cases reached
    exact here.symm
  · cases reached

/-- The search takes the item if it can use it, and aligning it leaves its size alone. -/
theorem getBufferAligned_oneItem {item : LocatorItem} (os : Os Unit) (free : item.isTaken = 0)
    (usable : item.canUse target.usize (settings.size + maxMisalignment alignment) settings.minAddress
      settings.maxAddress = true) :
    ∃ last, getBufferAligned target os 0 1 settings alignment 0x10000 (oneItemWorld item) =
        some (.ok ⟨0x10000, 0⟩, last) ∧
      ∀ found, last.locators.registered ⟨0x10000, 0⟩ = some found → found.size = item.size := by
  have taken : item.tryLock = (true, { item with isTaken := 1 }) := by simp [LocatorItem.tryLock, free]
  have searched : getBuffer target os 0 1 { settings with size := settings.size + maxMisalignment alignment } 0x10000
      (oneItemWorld item) = some (.ok ⟨0x10000, 0⟩,
        ⟨(oneItemWorld item).locators.store 0x10000 ((oneItemHeader item).setItem 0 { item with isTaken := 1 }), ()⟩) := by
    simp [getBuffer, getBufferRecursive, visit, oneItemWorld, oneItemHeader,
      LocatorHeader.getFirstAvailableItemLocked, LocatorHeader.scanItems, usable, taken]
  have registered : ((oneItemWorld item).locators.store 0x10000
      ((oneItemHeader item).setItem 0 { item with isTaken := 1 })).registered ⟨0x10000, 0⟩ =
      some { item with isTaken := 1 } := by
    simp [Locators.registered, oneItemHeader, LocatorHeader.setItem]
  have aligning := fun delta => Locators.setItem_registered
    (LocatorItem.advance { item with isTaken := 1 } delta) registered
  obtain ⟨written, stored, _, after⟩ := aligning _
  refine ⟨⟨written, ()⟩, ?_, ?_⟩
  · rw [getBufferAligned, searched]
    simp only [Option.bind_eq_bind, Option.bind_some, alignItem, Locators.item_of_registered registered]
    rw [stored]
    rfl
  · intro found here
    rw [after, Function.update_self] at here
    cases here
    rfl

/-- Where the size and the padding fit, or the window is too small for what is searched
for, the promise is kept. -/
theorem keepsPromise_of_fits (booted : target.Booted) (power : ∃ exponent, target.granularity = 2 ^ exponent)
    (minimum : settings.minAddress < target.usize) (maximum : settings.maxAddress < target.usize)
    (positive : 1 ≤ alignment)
    (fits : settings.size.toNat + (alignment.toNat - 1) < 2 ^ 32 ∨
      settings.maxAddress < max settings.minAddress 1 + (settings.size + (alignment - 1)).toNat) :
    KeepsPromise target settings alignment := by
  intro σ held os world last first nodes fuel depth pointer sound housed chain items run
  obtain ⟨padded, step⟩ := maxMisalignment_toNat positive
  obtain ⟨⟨found, middle⟩, searched, aligned⟩ := Option.bind_eq_some_iff.mp run
  cases found with
  | error error => cases aligned
  | ok pointer =>
      obtain ⟨locators, moved, aligned⟩ := Option.bind_eq_some_iff.mp aligned
      cases aligned
      obtain ⟨_, item, _, _, granted, whole, allocated⟩ :=
        @getBuffer_grants _ _ _ _ _ { settings with size := settings.size + maxMisalignment alignment } _ _ _ _ _ _
          sound booted power (.inr power) minimum maximum housed chain items searched
      have bytes := UInt32.le_iff_toNat_le.mp granted.bytesLeft
      have left := whole.bytesLeft_toNat
      have inside := whole.position_le_toNat
      have low : settings.minAddress ≤ item.baseAddress + item.position.toNat := granted.minAddress
      have high : item.baseAddress + item.size.toNat ≤ settings.maxAddress := granted.maxAddress
      dsimp only at bytes
      rw [padded] at bytes
      -- Either the padded size is exact, or no item is as large as the wrapped size and the search found none.
      rcases fits with fits | narrow
      · have sum : (settings.size + (alignment - 1)).toNat = settings.size.toNat + (alignment - 1).toNat := by
          rw [UInt32.toNat_add]
          exact Nat.mod_eq_of_lt (by omega)
        have room : settings.size.toNat + (maxMisalignment alignment).toNat ≤ item.bytesLeft.toNat := by
          rw [padded]
          omega
        obtain ⟨_, stored⟩ := alignItem_cases granted.registered whole (by omega) moved
        exact ⟨_, by rw [stored, Function.update_self], alignedGrant_of_granted positive whole room low high⟩
      · omega

/-- Otherwise an item of the size that is searched for breaks it. -/
theorem not_keepsPromise_of_wraps (maximum : settings.maxAddress < target.usize) (positive : 1 ≤ alignment)
    (wraps : 2 ^ 32 ≤ settings.size.toNat + (alignment.toNat - 1))
    (wide : max settings.minAddress 1 + (settings.size + (alignment - 1)).toNat ≤ settings.maxAddress) :
    ¬ KeepsPromise target settings alignment := by
  intro keeps
  obtain ⟨padded, step⟩ := maxMisalignment_toNat positive
  have small := settings.size.toNat_lt
  have bounded := alignment.toNat_lt
  have wrapped : (settings.size + (alignment - 1)).toNat = settings.size.toNat + (alignment.toNat - 1) - 2 ^ 32 := by
    rw [UInt32.toNat_add, step, Nat.mod_eq_sub_mod wraps]
    exact Nat.mod_eq_of_lt (by omega)
  -- The item has exactly the wrapped size, so the search takes it, and it is too small for the promise.
  let item : LocatorItem := .new (max settings.minAddress 1) (settings.size + (alignment - 1))
  have usable : item.canUse target.usize (settings.size + maxMisalignment alignment) settings.minAddress
      settings.maxAddress = true := by
    have allocated : (max settings.minAddress 1 != 0) = true := by
      rw [bne_iff_ne]
      omega
    have start : Words.add target.usize (max settings.minAddress 1) (0 : UInt32).toNat = max settings.minAddress 1 :=
      Words.add_eq (by rw [UInt32.toNat_zero]; omega)
    have stop : addWithOverflowCap target.usize (max settings.minAddress 1) (settings.size + (alignment - 1)).toNat =
        max settings.minAddress 1 + (settings.size + (alignment - 1)).toNat := Words.satAdd_eq (by omega)
    have served : ¬ settings.size + (alignment - 1) < settings.size + (alignment - 1) := by simp
    rw [padded]
    simp only [LocatorItem.canUse, item, LocatorItem.isAllocated, LocatorItem.bytesLeft_new]
    simp only [LocatorItem.new, allocated, served, start, stop, wide]
    simp
  have sound : item.Sound target.usize := ⟨UInt32.zero_le, Nat.lt_of_le_of_lt wide maximum⟩
  obtain ⟨last, run, sizes⟩ := getBufferAligned_oneItem (Os.exhausted target.usize (oneItemHeader item)) rfl usable
  obtain ⟨found, registered, grant⟩ := keeps Unit (fun _ => Set.univ) _ _ _ _ [0x10000] _ _ _
    (Os.exhausted_sound target _ Set.univ) (fun _ _ => Set.mem_univ _) (.last rfl)
    (fun _ _ _ known => oneItemWorld_registered known ▸ sound) run
  have size := congrArg UInt32.toNat (sizes found registered)
  have bytes := UInt32.le_iff_toNat_le.mp grant.bytesLeft
  have left : found.bytesLeft.toNat = found.size.toNat - found.position.toNat :=
    UInt32.toNat_sub_of_le _ _ grant.position_le
  change _ = (settings.size + (alignment - 1)).toNat at size
  omega

/-- The promise is kept exactly where the size and the padding fit a `u32`, and where
the window has no room for the wrapped size. -/
theorem getBufferAligned_keeps_iff (booted : target.Booted) (power : ∃ exponent, target.granularity = 2 ^ exponent)
    (minimum : settings.minAddress < target.usize) (maximum : settings.maxAddress < target.usize)
    (positive : 1 ≤ alignment) :
    KeepsPromise target settings alignment ↔ settings.size.toNat + (alignment.toNat - 1) < 2 ^ 32 ∨
      settings.maxAddress < max settings.minAddress 1 + (settings.size + (alignment - 1)).toNat := by
  constructor
  · intro keeps
    by_contra broken
    rw [not_or, Nat.not_lt, Nat.not_lt] at broken
    exact not_keepsPromise_of_wraps maximum positive broken.1 broken.2 keeps
  · exact keepsPromise_of_fits booted power minimum maximum positive

/-- A page on a line of 64 bytes. -/
theorem getBufferAligned_keeps_line : KeepsPromise smallTarget ⟨0x20000, 0x7FFFFFFFFFFF, 4096⟩ 64 :=
  (getBufferAligned_keeps_iff smallTarget_booted ⟨12, rfl⟩ (by decide) (by decide) (by decide)).mpr (by decide)

/-- Asked for 0xFFFFFFFF bytes at an even address, the search asks for none and is
given a page. -/
theorem getBufferAligned_wraps : ∃ last item,
    getBufferAligned smallTarget (.upwards smallTarget.usize emptyHeader) 0 1 ⟨0x20000, 0x7FFFFFFFFFFF, 0xFFFFFFFF⟩ 2
      0x10000 smallWorld = some (.ok ⟨0x10000, 0⟩, last) ∧
    last.locators.registered ⟨0x10000, 0⟩ = some item ∧ item.bytesLeft = 4096 ∧
    ¬ AlignedGrant ⟨0x20000, 0x7FFFFFFFFFFF, 0xFFFFFFFF⟩ 2 item :=
  ⟨_, _, rfl, rfl, by decide, fun grant => absurd grant.bytesLeft (by decide)⟩

end Buffers

end ReloadedBuffers
