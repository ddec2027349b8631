import ReloadedBuffers.Structs.Initialization

/-! The buffers carved from the rest of a block, against a partition of that rest. The
loop never moves the address, so a second chunk lies over the first.
-/

set_option autoImplicit false

namespace ReloadedBuffers

namespace LocatorHeader

/-- The registered items divide the addresses from `start` to `stop` among them, in
order: chunks of the preallocated length, all of them unused. -/
structure Partitions (header : LocatorHeader) (start stop : Nat) : Prop where
  count : header.numItems.toNat = chunkCount (stop - start)
  first : 0 < header.numItems.toNat → (header.items 0).baseAddress = start
  next : ∀ slot, slot + 1 < header.numItems.toNat → (header.items (slot + 1)).baseAddress =
    (header.items slot).baseAddress + (header.items slot).size.toNat
  sizes : ∀ slot < header.numItems.toNat,
    1 ≤ (header.items slot).size.toNat ∧ (header.items slot).size ≤ lengthOfPreallocatedChunks
  total : ((List.range header.numItems.toNat).map fun slot => (header.items slot).size.toNat).sum = stop - start
  unused : ∀ slot < header.numItems.toNat, (header.items slot).isTaken = 0 ∧ (header.items slot).position = 0

theorem chunkSize_bounds {remaining index : Nat} (inside : index < chunkCount remaining) :
    1 ≤ chunkSize remaining index ∧ chunkSize remaining index ≤ lengthOfPreallocatedChunks.toNat := by
  have chunk : lengthOfPreallocatedChunks.toNat = 16384 := rfl
  simp only [chunkCount, chunkSize, chunk] at inside ⊢
  omega

/-- There are enough chunks for the rest, and none without a rest. -/
theorem chunkCount_covers (remaining : Nat) : remaining ≤ chunkCount remaining * lengthOfPreallocatedChunks.toNat ∧
    (0 < chunkCount remaining → 0 < remaining) := by
  have chunk : lengthOfPreallocatedChunks.toNat = 16384 := rfl
  simp only [chunkCount, chunk]
  omega

/-- The chunks use up the rest. -/
theorem sum_chunkSize (remaining count : Nat) :
    ((List.range count).map (chunkSize remaining)).sum =
      min remaining (count * lengthOfPreallocatedChunks.toNat) := by
  induction count with
  | zero => simp
  | succ count ih =>
      rw [List.range_succ, List.map_append, List.sum_append, ih]
      have chunk : lengthOfPreallocatedChunks.toNat = 16384 := rfl
      simp only [chunkSize, chunk, List.map_cons, List.map_nil, List.sum_cons, List.sum_nil]
      omega

/-- As many items as there are chunks in the rest, of their sizes, and all of them at
the one address. -/
structure Carved (header : LocatorHeader) (start rest : Nat) : Prop where
  count : header.numItems.toNat = chunkCount rest
  item : ∀ slot < chunkCount rest, header.items slot = LocatorItem.new start (header.items slot).size
  size : ∀ slot < chunkCount rest, (header.items slot).size.toNat = chunkSize rest slot

theorem initialize_carved {target : Target} {address length : Nat} (raw : Nat → LocatorHeader) (locators : Locators)
    (permissive : target.appleSilicon = false) (large : 4096 ≤ length)
    (small : length ≤ 4096 + target.width.maxItemCount * 16384) :
    ∃ header, initializeHeader target raw address length locators address = some header ∧
      header.Carved (Words.add target.usize address locatorLength) (length - 4096) := by
  have chunk : lengthOfPreallocatedChunks.toNat = 16384 := rfl
  have page : locatorLength = 4096 := rfl
  have most := target.width.maxItemCount_le
  have wide := target.u32_le_usize
  have word : length < target.usize := by omega
  have rest : (UInt32.ofNat (Words.sub target.usize length locatorLength)).toNat = length - 4096 := by
    rw [page, Words.sub_eq word large, UInt32.toNat_ofNat']
    exact Nat.mod_eq_of_lt (by omega)
  -- The bound on the length is the one that keeps the count in its byte.
  have count : chunkCount (length - 4096) ≤ target.width.maxItemCount := by
    simp only [chunkCount, chunk]
    omega
  simp only [initializeHeader, permissive, Bool.false_eq_true, if_false, Function.update_self]
  refine ⟨_, rfl, ?_⟩
  constructor
  · -- As many items as a header has room for fit into the eight bits of the count.
    rw [numItems_carved, rest]
    exact Nat.mod_eq_of_lt (by omega)
  · intro slot inside
    rw [item_carved (by rw [rest]; exact inside)]
    rfl
  · intro slot inside
    rw [item_carved (by rw [rest]; exact inside), rest]
    dsimp only [LocatorItem.new]
    rw [UInt32.toNat_ofNat']
    refine Nat.mod_eq_of_lt (Nat.lt_of_le_of_lt (Nat.min_le_left _ _) ?_)
    omega

/-- A second chunk starts where the first one does, which is not empty. -/
theorem Carved.overlaps {header : LocatorHeader} {start stop base rest : Nat} (carved : header.Carved base rest)
    (second : 1 < chunkCount rest) : ¬ header.Partitions start stop := by
  intro partitions
  have some_chunk : 0 < chunkCount rest := Nat.zero_lt_of_lt second
  -- The second buffer would have to start where the first one ends.
  have next := partitions.next 0 (carved.count ▸ second)
  have bounds := chunkSize_bounds some_chunk
  rw [carved.size 0 some_chunk, carved.item 1 second, carved.item 0 some_chunk] at next
  dsimp only [LocatorItem.new] at next
  omega

theorem Carved.partitions {header : LocatorHeader} {start stop base rest : Nat} (carved : header.Carved base rest)
    (starts : 0 < chunkCount rest → base = start) (same : stop - start = rest) (single : chunkCount rest ≤ 1) :
    header.Partitions start stop := by
  obtain ⟨covers, _⟩ := chunkCount_covers rest
  have used := sum_chunkSize rest (chunkCount rest)
  rw [Nat.min_eq_left covers] at used
  refine ⟨?_, ?_, ?_, ?_, ?_, ?_⟩ <;> simp only [carved.count, same]
  · intro some_chunk
    rw [carved.item 0 some_chunk]
    exact starts some_chunk
  · intro slot inside
    omega
  · intro slot inside
    rw [UInt32.le_iff_toNat_le, carved.size slot inside]
    exact chunkSize_bounds inside
  · refine (congrArg List.sum (List.map_congr_left fun slot member => ?_)).trans used
    exact carved.size slot (List.mem_range.mp member)
  · intro slot inside
    rw [carved.item slot inside]
    exact ⟨rfl, rfl⟩

/-- The buffers behind a fresh header partition the rest of its memory exactly when the
rest is at most one chunk. -/
theorem initialize_partitions_iff {target : Target} {address length : Nat} (raw : Nat → LocatorHeader)
    (locators : Locators) (permissive : target.appleSilicon = false) (large : 4096 ≤ length)
    (small : length ≤ 4096 + target.width.maxItemCount * 16384) (room : address + length ≤ target.usize) :
    ∃ header, initializeHeader target raw address length locators address = some header ∧
      (header.Partitions (address + 4096) (address + length) ↔ length ≤ 4096 + 16384) := by
  have chunk : lengthOfPreallocatedChunks.toNat = 16384 := rfl
  have page : locatorLength = 4096 := rfl
  obtain ⟨header, found, carved⟩ := @initialize_carved target address length raw locators permissive large small
  refine ⟨header, found, ?_⟩
  constructor
  · intro partitions
    by_contra long
    have second : 1 < chunkCount (length - 4096) := by
      simp only [chunkCount, chunk]
      omega
    exact carved.overlaps second partitions
  · intro short
    have single : chunkCount (length - 4096) ≤ 1 := by
      simp only [chunkCount, chunk]
      omega
    have starts : 0 < chunkCount (length - 4096) → Words.add target.usize address locatorLength = address + 4096 := by
      intro some_chunk
      have more := (chunkCount_covers (length - 4096)).2 some_chunk
      exact Words.add_eq (by omega)
    exact carved.partitions starts (by omega) single

/-- Memory that reads as zero. -/
def zeroedHeader : LocatorHeader := ⟨0, 0, 0, 0, 0, fun _ => ⟨0, 0, 0, 0⟩⟩

/-- A header and one chunk. -/
theorem initialize_partitions_chunk : ∃ header,
    initializeHeader smallTarget (fun _ => zeroedHeader) 0x10000 0x5000 (fun _ => none) 0x10000 = some header ∧
      header.Partitions (0x10000 + 4096) (0x10000 + 0x5000) := by
  obtain ⟨header, made, partitions⟩ := initialize_partitions_iff (fun _ => zeroedHeader) (fun _ => none)
    (rfl : smallTarget.appleSilicon = false) (show 4096 ≤ 0x5000 by decide) (by decide)
    (show 0x10000 + 0x5000 ≤ smallTarget.usize by decide)
  exact ⟨header, made, partitions.mpr (by decide)⟩

/-- With a granularity of 64 KiB four chunks are registered, at one address. -/
theorem initialize_overlaps : ∃ header,
    initializeHeader smallTarget (fun _ => zeroedHeader) 0x10000 0x10000 (fun _ => none) 0x10000 = some header ∧
      header.numItems = 4 ∧ header.items 0 = LocatorItem.new 0x11000 16384 ∧
      header.items 1 = LocatorItem.new 0x11000 16384 ∧ ¬ header.Partitions (0x10000 + 4096) (0x10000 + 0x10000) := by
  have found : initializeHeader smallTarget (fun _ => zeroedHeader) 0x10000 0x10000 (fun _ => none) 0x10000 =
      some (((zeroedHeader.setDefaultValues 0x10000).initializeRemainingSpaceAsBuffers smallTarget.usize 0xF000)) :=
    rfl
  have carved := initializeRemainingSpaceAsBuffers_eq smallTarget.usize (zeroedHeader.setDefaultValues 0x10000) 0xF000
  rw [carved] at found
  refine ⟨_, found, by decide, by decide, by decide, fun partitions => ?_⟩
  have next := partitions.next 0 (by decide)
  revert next
  decide

end LocatorHeader

end ReloadedBuffers
