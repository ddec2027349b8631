import Mathlib.Algebra.Order.Group.Abs
import Mathlib.Algebra.Order.Ring.Int
import ReloadedBuffers.Buffers.Granted
import ReloadedBuffers.Structs.PrivateAllocation

/-! Settings made from a proximity, through both entry points that take them. The window
means what it says even where one of its ends saturates; the size is cut to 32 bits.
-/

set_option autoImplicit false

namespace ReloadedBuffers

/-- Enough bytes from `start` on, all of them close to the target. -/
structure Near (proximity target size start available : Nat) : Prop where
  enough : size ≤ available
  close : ∀ address ∈ Words.extent start available, |(address : Int) - target| ≤ proximity

/-- A window from a proximity is no wider than that, saturated or not. -/
theorem close_of_window (usize : Nat) {proximity target start available : Nat}
    (low : subtractWithUnderflowCap target proximity ≤ start)
    (high : start + available ≤ addWithOverflowCap usize target proximity) :
    ∀ address ∈ Words.extent start available, |(address : Int) - target| ≤ proximity := by
  intro address inside
  rw [Words.mem_extent] at inside
  have above : target - proximity ≤ start := low
  have below : start + available ≤ target + proximity := high.trans (Nat.min_le_left _ _)
  apply abs_le.mpr
  constructor <;> omega

theorem addWithOverflowCap_lt {usize : Nat} (positive : 0 < usize) (a b : Nat) : addWithOverflowCap usize a b < usize := by
  have capped : addWithOverflowCap usize a b ≤ usize - 1 := Nat.min_le_right _ _
  omega

namespace Buffers

/-- A private allocation has the size of an item, which is 32 bits wide. -/
theorem allocatePrivateMemory_size {σ : Type} {platform : Target} {os : Os σ} {fuel : Nat}
    {settings : BufferAllocatorSettings} {system last : σ} {allocation : PrivateAllocation}
    (run : allocatePrivateMemory platform os fuel settings system = some (.ok allocation, last)) :
    allocation.size < 2 ^ 32 := by
  obtain ⟨item, _, rfl⟩ := allocatePrivateMemory_ok run
  exact item.size.toNat_lt

variable {σ : Type} {platform : Target} {held : σ → Set Nat} {os : Os σ} {proximity target size : Nat}

section

variable (sound : os.Sound platform held) (booted : platform.Booted)
  (power : ∃ exponent, platform.granularity = 2 ^ exponent) (wide : platform.width = .bits64)
  (word : target < platform.usize)
include sound booted power wide word

/-- What a successful search for settings from a proximity hands out. -/
theorem getBuffer_near {fuel depth first : Nat} {world last : World σ} {nodes : List Nat} {pointer : SafeLocatorItem}
    (housed : World.Housed held world) (chain : world.locators.Chain first nodes)
    (items : ∀ pointer item, pointer.locator ∈ nodes → world.locators.registered pointer = some item →
      item.Sound platform.usize)
    (run : getBuffer platform os fuel depth (.fromProximity platform.usize proximity target size) first world =
      some (.ok pointer, last)) :
    ∃ item, last.locators.registered pointer = some item ∧
      Near proximity target (size % 2 ^ 32) (item.cursor platform.usize) item.bytesLeft.toNat := by
  have minimum : (BufferSearchSettings.fromProximity platform.usize proximity target size).minAddress < platform.usize :=
    (Nat.sub_le target proximity).trans_lt word
  have maximum : (BufferSearchSettings.fromProximity platform.usize proximity target size).maxAddress < platform.usize :=
    addWithOverflowCap_lt platform.usize_pos target proximity
  obtain ⟨_, item, _, _, granted, whole, _⟩ :=
    getBuffer_grants sound booted power (.inl wide) minimum maximum housed chain items run
  refine ⟨item, granted.registered, ?_, ?_⟩
  · have left := UInt32.le_iff_toNat_le.mp granted.bytesLeft
    rwa [BufferSearchSettings.fromProximity, UInt32.toNat_ofNat'] at left
  · have inside := whole.position_le_toNat
    have left := whole.bytesLeft_toNat
    have high := granted.maxAddress
    rw [whole.cursor_eq]
    refine close_of_window platform.usize granted.minAddress ?_
    refine Nat.le_trans ?_ high
    omega

/-- The same for a private allocation. -/
theorem allocatePrivateMemory_near {fuel : Nat} {system last : σ} {allocation : PrivateAllocation}
    (run : allocatePrivateMemory platform os fuel (.fromProximity platform proximity target size) system =
      some (.ok allocation, last)) :
    Near proximity target (size % 2 ^ 32) allocation.baseAddress allocation.size := by
  have minimum : (BufferAllocatorSettings.fromProximity platform proximity target size).minAddress < platform.usize :=
    (Nat.sub_le target proximity).trans_lt word
  have maximum : (BufferAllocatorSettings.fromProximity platform proximity target size).maxAddress < platform.usize :=
    addWithOverflowCap_lt platform.usize_pos target proximity
  have rounds : BufferAllocatorSettings.Rounds
      (BufferAllocatorSettings.fromProximity platform proximity target size).size platform.granularity :=
    .inl (booted.granularity_dvd power)
  obtain ⟨item, allocated, rfl⟩ := allocatePrivateMemory_ok run
  have obtained : Obtained _ _ _ _ item := allocate_outcome sound booted (.inl wide) minimum maximum allocated
  have enough := BufferAllocatorSettings.sanitize_size_ge platform _ rounds
    (Nat.lt_of_lt_of_le (by decide) booted.large) obtained.served
  have low := (BufferAllocatorSettings.minAddress_le_sanitize platform _).trans obtained.min_le
  have size : item.size = _ := congrArg LocatorItem.size obtained.fresh
  constructor
  · rw [size]
    rwa [BufferAllocatorSettings.fromProximity, UInt32.toNat_ofNat'] at enough
  · rw [size]
    exact close_of_window platform.usize low obtained.le_max

/-- Through both entry points, what is obtained is near exactly when the size fits in 32 bits. -/
theorem fromProximity_near_iff :
    (∀ fuel depth first (world last : World σ) nodes pointer, World.Housed held world →
      world.locators.Chain first nodes →
      (∀ pointer item, pointer.locator ∈ nodes → world.locators.registered pointer = some item →
        item.Sound platform.usize) →
      getBuffer platform os fuel depth (.fromProximity platform.usize proximity target size) first world =
        some (.ok pointer, last) →
      ((∃ item, last.locators.registered pointer = some item ∧
        Near proximity target size (item.cursor platform.usize) item.bytesLeft.toNat) ↔ size < 2 ^ 32)) ∧
    ∀ fuel (system last : σ) allocation,
      allocatePrivateMemory platform os fuel (.fromProximity platform proximity target size) system =
        some (.ok allocation, last) →
      (Near proximity target size allocation.baseAddress allocation.size ↔ size < 2 ^ 32) := by
  constructor
  · intro fuel depth first world last nodes pointer housed chain items run
    constructor
    · rintro ⟨item, _, near⟩
      exact near.enough.trans_lt item.bytesLeft.toNat_lt
    · intro fits
      have near := getBuffer_near sound booted power wide word housed chain items run
      rwa [Nat.mod_eq_of_lt fits] at near
  · intro fuel system last allocation run
    constructor
    · intro near
      exact near.enough.trans_lt (allocatePrivateMemory_size run)
    · intro fits
      have near := allocatePrivateMemory_near sound booted power wide word run
      rwa [Nat.mod_eq_of_lt fits] at near

end

theorem fromProximity_near_two_pages :
    (∃ last item, getBuffer smallTarget (.upwards smallTarget.usize emptyHeader) 0 1
        (.fromProximity smallTarget.usize 0x100000 0x80000 5000) 0x10000 smallWorld = some (.ok ⟨0x10000, 0⟩, last) ∧
      last.locators.registered ⟨0x10000, 0⟩ = some item ∧
      Near 0x100000 0x80000 5000 (item.cursor smallTarget.usize) item.bytesLeft.toNat) ∧
    ∃ allocation last, allocatePrivateMemory smallTarget (.upwards smallTarget.usize emptyHeader) 0
        (.fromProximity smallTarget 0x100000 0x80000 5000) 0x11000 = some (.ok allocation, last) ∧
      Near 0x100000 0x80000 5000 allocation.baseAddress allocation.size := by
  have searched : ∃ last, getBuffer smallTarget (.upwards smallTarget.usize emptyHeader) 0 1
      (.fromProximity smallTarget.usize 0x100000 0x80000 5000) 0x10000 smallWorld =
        some (.ok ⟨0x10000, 0⟩, last) := ⟨_, rfl⟩
  have allocated : ∃ allocation last, allocatePrivateMemory smallTarget (.upwards smallTarget.usize emptyHeader) 0
      (.fromProximity smallTarget 0x100000 0x80000 5000) 0x11000 = some (.ok allocation, last) := ⟨_, _, rfl⟩
  obtain ⟨found, run⟩ := searched
  obtain ⟨allocation, last, privately⟩ := allocated
  obtain ⟨buffers, allocations⟩ := @fromProximity_near_iff _ _ _ _ 0x100000 0x80000 5000
    (Os.upwards_sound smallTarget emptyHeader rfl) smallTarget_booted ⟨12, rfl⟩ rfl (by decide)
  obtain ⟨item, registered, near⟩ := (buffers 0 1 0x10000 smallWorld found [0x10000] ⟨0x10000, 0⟩ smallWorld_housed
    smallWorld_chain (fun _ _ _ => smallWorld_items) run).mpr (by decide)
  exact ⟨⟨found, item, run, registered, near⟩, allocation, last, privately,
    (allocations 0 0x11000 last allocation privately).mpr (by decide)⟩

/-- More than 4 GiB are asked for, and one page is handed out. -/
theorem fromProximity_falls_short :
    (∃ last item, getBuffer smallTarget (.upwards smallTarget.usize emptyHeader) 0 1
        (.fromProximity smallTarget.usize 0x100000 0x80000 0x100000064) 0x10000 smallWorld =
          some (.ok ⟨0x10000, 0⟩, last) ∧
      last.locators.registered ⟨0x10000, 0⟩ = some item ∧ item.size = 4096 ∧
      ¬ Near 0x100000 0x80000 0x100000064 (item.cursor smallTarget.usize) item.bytesLeft.toNat) ∧
    ∃ allocation last, allocatePrivateMemory smallTarget (.upwards smallTarget.usize emptyHeader) 0
        (.fromProximity smallTarget 0x100000 0x80000 0x100000064) 0x11000 = some (.ok allocation, last) ∧
      allocation.size = 4096 ∧ ¬ Near 0x100000 0x80000 0x100000064 allocation.baseAddress allocation.size := by
  constructor
  · refine ⟨_, _, rfl, rfl, rfl, fun near => ?_⟩
    exact absurd near.enough (by decide)
  · refine ⟨_, _, rfl, rfl, fun near => ?_⟩
    exact absurd near.enough (by decide)

end Buffers

end ReloadedBuffers
