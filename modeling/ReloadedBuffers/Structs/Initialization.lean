import ReloadedBuffers.Structs.LocatorHeader

/-! What initialising a block of memory as a locator leaves there, on both kinds of
target: buffers behind the one header, or further headers without any.
-/

set_option autoImplicit false

namespace ReloadedBuffers

theorem min_toNat (a b : UInt32) : (min a b).toNat = min a.toNat b.toNat := by
  change (if a ≤ b then a else b).toNat = _
  split
  · rename_i le
    exact (Nat.min_eq_left (UInt32.le_iff_toNat_le.mp le)).symm
  · rename_i more
    rw [UInt32.le_iff_toNat_le] at more
    exact (Nat.min_eq_right (by omega)).symm

namespace LocatorHeader

/-- How many chunks the rest of a block makes, the last of them possibly short. -/
def chunkCount (remaining : Nat) : Nat :=
  (remaining + (lengthOfPreallocatedChunks.toNat - 1)) / lengthOfPreallocatedChunks.toNat

def chunkSize (remaining index : Nat) : Nat :=
  min lengthOfPreallocatedChunks.toNat (remaining - index * lengthOfPreallocatedChunks.toNat)

/-- The items once the chunks have been registered from `slot` on, all of them at the one address. -/
def chunks (bufferAddress slot remaining : Nat) (items : Nat → LocatorItem) : Nat → LocatorItem := fun index =>
  if slot ≤ index ∧ index < slot + chunkCount remaining then
    LocatorItem.new bufferAddress (UInt32.ofNat (chunkSize remaining (index - slot)))
  else items index

theorem chunkCount_zero : chunkCount 0 = 0 := rfl

@[simp] theorem chunks_zero (bufferAddress slot : Nat) (items : Nat → LocatorItem) :
    chunks bufferAddress slot 0 items = items := by
  funext index
  apply if_neg
  rw [chunkCount_zero]
  omega

section

variable {bufferAddress slot remaining : Nat} {items : Nat → LocatorItem}

theorem chunkCount_more (more : 0 < remaining) : chunkCount remaining = chunkCount (remaining - min 16384 remaining) + 1 := by
  have chunk : lengthOfPreallocatedChunks.toNat = 16384 := rfl
  simp only [chunkCount, chunk]
  omega

/-- The first chunk, and those of the rest. -/
theorem chunks_more (more : 0 < remaining) :
    chunks bufferAddress slot remaining items =
      chunks bufferAddress (slot + 1) (remaining - min 16384 remaining)
        (Function.update items slot (LocatorItem.new bufferAddress (UInt32.ofNat (min 16384 remaining)))) := by
  have chunk : lengthOfPreallocatedChunks.toNat = 16384 := rfl
  have count := chunkCount_more more
  funext index
  unfold chunks
  rcases Nat.lt_trichotomy index slot with before | rfl | after
  · rw [if_neg (by omega), if_neg (by omega), Function.update_of_ne (by omega)]
  · rw [if_pos (by omega), if_neg (by omega), Function.update_self, Nat.sub_self, chunkSize, chunk, Nat.zero_mul,
      Nat.sub_zero]
  · have shift : chunkSize (remaining - min 16384 remaining) (index - (slot + 1)) = chunkSize remaining (index - slot) := by
      obtain ⟨later, rfl⟩ := Nat.exists_eq_add_of_lt after
      simp only [chunkSize, chunk]
      omega
    rw [shift, Function.update_of_ne (by omega)]
    exact if_congr (by omega) rfl rfl

end

/-- The loop registers the chunks in order. -/
theorem carve_eq {bufferAddress fuel slot : Nat} {remaining : UInt32} {numItems : UInt8} {items : Nat → LocatorItem}
    (enough : remaining.toNat ≤ fuel) :
    carve bufferAddress fuel remaining slot numItems items =
      (numItems + UInt8.ofNat (chunkCount remaining.toNat), chunks bufferAddress slot remaining.toNat items) := by
  induction fuel generalizing remaining slot numItems items with
  | zero =>
      rw [Nat.le_zero.mp enough, chunks_zero]
      exact Prod.ext (UInt8.add_zero numItems).symm rfl
  | succ fuel ih =>
      simp only [carve]
      split
      · rename_i more
        have positive : 0 < remaining.toNat := UInt32.lt_iff_toNat_lt.mp more
        have taken : (min lengthOfPreallocatedChunks remaining).toNat = min 16384 remaining.toNat := min_toNat _ _
        have first : min lengthOfPreallocatedChunks remaining = UInt32.ofNat (min 16384 remaining.toNat) := by
          rw [← taken, UInt32.ofNat_toNat]
        have left : (remaining - min lengthOfPreallocatedChunks remaining).toNat =
            remaining.toNat - min 16384 remaining.toNat := by
          rw [UInt32.toNat_sub_of_le _ _ (UInt32.le_iff_toNat_le.mpr (by omega)), taken]
        rw [ih (by omega), left, chunkCount_more positive, chunks_more positive, first]
        refine Prod.ext ?_ rfl
        dsimp only
        rw [UInt8.add_assoc, Nat.add_comm _ 1, UInt8.ofNat_add]
        rfl
      · rename_i empty
        have zero : remaining.toNat = 0 := by
          rw [gt_iff_lt, UInt32.lt_iff_toNat_lt] at empty
          exact Nat.eq_zero_of_not_pos empty
        rw [zero, chunks_zero]
        exact Prod.ext (UInt8.add_zero numItems).symm rfl

/-- The header that carving leaves. -/
theorem initializeRemainingSpaceAsBuffers_eq (usize : Nat) (header : LocatorHeader) (remaining : UInt32) :
    header.initializeRemainingSpaceAsBuffers usize remaining =
      { header with
        numItems := UInt8.ofNat (chunkCount remaining.toNat)
        items := fun index =>
          if index < chunkCount remaining.toNat then
            LocatorItem.new (Words.add usize header.thisAddress locatorLength)
              (UInt32.ofNat (chunkSize remaining.toNat index))
          else header.items index } := by
  simp only [initializeRemainingSpaceAsBuffers, carve_eq (Nat.le_refl _), UInt8.zero_add]
  unfold chunks
  simp only [Nat.zero_le, true_and, Nat.zero_add, Nat.sub_zero]

section

variable {usize : Nat} {header : LocatorHeader} {remaining : UInt32}

/-- The count of the chunks has eight bits. -/
theorem numItems_carved : (header.initializeRemainingSpaceAsBuffers usize remaining).numItems.toNat =
    chunkCount remaining.toNat % 2 ^ 8 := by
  rw [initializeRemainingSpaceAsBuffers_eq, UInt8.toNat_ofNat']

theorem item_carved {slot : Nat} (inside : slot < chunkCount remaining.toNat) :
    (header.initializeRemainingSpaceAsBuffers usize remaining).items slot =
      LocatorItem.new (Words.add usize header.thisAddress locatorLength)
        (UInt32.ofNat (chunkSize remaining.toNat slot)) := by
  rw [initializeRemainingSpaceAsBuffers_eq]
  exact if_pos inside

end

/-- Off Apple silicon a block becomes one header. -/
theorem initializeHeader_buffers {target : Target} {address length : Nat} {locators : Locators}
    (raw : Nat → LocatorHeader) (plain : target.appleSilicon = false) (large : locatorLength ≤ length)
    (word : length < target.usize) : initializeHeader target raw address length locators =
      Function.update locators address (some (((raw address).setDefaultValues address).initializeRemainingSpaceAsBuffers
        target.usize (UInt32.ofNat (length - locatorLength)))) := by
  simp only [initializeHeader, plain, Bool.false_eq_true, if_false, Words.sub_eq word large]

end LocatorHeader

/-- The part of the address space behind one locator that becomes at most one buffer. -/
def singleChunk : Nat := locatorLength + lengthOfPreallocatedChunks.toNat

/-- A block of memory has been laid out as locators; nothing else has changed. -/
structure Formatted (block length : Nat) (before after : Locators) (nodes : List Nat) : Prop where
  chain : after.Chain block nodes
  inside : ∀ node ∈ nodes, node ∈ Words.extent block length
  frame : ∀ other, other ∉ nodes → after other = before other
  items : ∀ node ∈ nodes, ∀ header, after node = some header → ∀ slot < header.numItems.toNat,
    node = block ∧ (length ≤ singleChunk → slot = 0) ∧
    ∃ size, header.items slot = LocatorItem.new (block + locatorLength) size ∧
      size.toNat + locatorLength ≤ length

namespace LocatorHeader

theorem next_of_ne_zero {locators : Locators} {address : Nat} {header : LocatorHeader}
    (found : locators address = some header) (linked : header.nextLocatorPtr ≠ 0) :
    locators.next address = some (some header.nextLocatorPtr) := by
  simp [Locators.next, found, hasNextLocator, linked]

theorem next_of_eq_zero {locators : Locators} {address : Nat} {header : LocatorHeader}
    (found : locators address = some header) (ended : header.nextLocatorPtr = 0) :
    locators.next address = some none := by
  simp [Locators.next, found, hasNextLocator, ended]

/-- The headers that have been put into a block, one behind another, each as `Blank`
says; nothing else has changed. -/
structure LaidOut (Blank : LocatorHeader → Prop) (block length : Nat) (before after : Locators)
    (nodes : List Nat) : Prop where
  chain : after.Chain block nodes
  rooms : ∀ node ∈ nodes, block ≤ node ∧ node + locatorLength ≤ block + length
  apart : nodes.Pairwise fun node later => node + locatorLength ≤ later
  frame : ∀ other, other ∉ nodes → after other = before other
  blank : ∀ node ∈ nodes, ∃ header, after node = some header ∧ Blank header

variable {Blank : LocatorHeader → Prop}

theorem LaidOut.single {block length : Nat} {before after : Locators} {header : LocatorHeader}
    (found : after block = some header) (ended : header.nextLocatorPtr = 0) (blank : Blank header)
    (large : locatorLength ≤ length) (frame : ∀ other, other ≠ block → after other = before other) :
    LaidOut Blank block length before after [block] where
  chain := .last (next_of_eq_zero found ended)
  rooms node member := by
    obtain rfl := List.mem_singleton.mp member
    omega
  apart := List.pairwise_singleton _ _
  frame other away := frame other fun same => away (List.mem_singleton.mpr same)
  blank node member := by
    obtain rfl := List.mem_singleton.mp member
    exact ⟨header, found, blank⟩

/-- The header in front may have been written before. -/
theorem LaidOut.weaken {Weaker : LocatorHeader → Prop} {block length : Nat} {before locators after : Locators}
    {nodes : List Nat} (laid : LaidOut Blank block length before after nodes)
    (weaker : ∀ header, Blank header → Weaker header) (same : ∀ other, other ≠ block → before other = locators other) :
    LaidOut Weaker block length locators after nodes where
  chain := laid.chain
  rooms := laid.rooms
  apart := laid.apart
  frame other away := by
    rw [laid.frame other away]
    apply same
    rintro rfl
    exact away laid.chain.head_mem
  blank node member := by
    obtain ⟨header, found, blank⟩ := laid.blank node member
    exact ⟨header, found, weaker header blank⟩

/-- A header in front of a layout that starts right behind it, and is linked to it. -/
theorem LaidOut.cons {current length : Nat} {before linked after : Locators} {header : LocatorHeader}
    {nodes : List Nat} (laid : LaidOut Blank (current + locatorLength) length linked after nodes)
    (here : linked current = some { header with nextLocatorPtr := current + locatorLength })
    (blank : Blank { header with nextLocatorPtr := current + locatorLength })
    (frame : ∀ other, other ≠ current → other ≠ current + locatorLength → linked other = before other) :
    LaidOut Blank current (locatorLength + length) before after (current :: nodes) := by
  -- What lies behind this header does not write over it.
  have outside : current ∉ nodes := by
    intro member
    have above := (laid.rooms _ member).1
    have positive : 0 < locatorLength := by decide
    omega
  have kept := (laid.frame _ outside).trans here
  refine ⟨.link (next_of_ne_zero kept (Nat.succ_ne_zero _)) laid.chain, ?_, ?_, ?_, ?_⟩
  · intro node member
    rcases List.mem_cons.mp member with rfl | later
    · omega
    · have bounds := laid.rooms node later
      omega
  · exact List.pairwise_cons.mpr ⟨fun later member => (laid.rooms later member).1, laid.apart⟩
  · intro other away
    rw [List.mem_cons, not_or] at away
    rw [laid.frame other away.2]
    apply frame other away.1
    rintro rfl
    exact away.2 laid.chain.head_mem
  · intro node member
    rcases List.mem_cons.mp member with rfl | later
    · exact ⟨_, kept, blank⟩
    · exact laid.blank node later

theorem headers_laidOut {current : Nat} {locators : Locators} {header : LocatorHeader} (usize : Nat)
    (raw : Nat → LocatorHeader) (reset : ∀ header address, Blank (setDefaultValues header address))
    (link : ∀ header address, Blank header → Blank { header with nextLocatorPtr := address }) (fuel : Nat)
    (remaining : UInt32) (found : locators current = some header) (ended : header.nextLocatorPtr = 0)
    (blank : Blank header) (word : current + remaining.toNat < usize) :
    ∃ nodes, LaidOut Blank current (locatorLength + remaining.toNat) locators
      (initializeRemainingSpaceAsHeaders usize raw fuel current remaining locators) nodes := by
  -- Where the loop ends, with the fuel or with the space, the header is the last.
  have alone : LaidOut Blank current (locatorLength + remaining.toNat) locators locators [current] :=
    .single found ended blank (Nat.le_add_right _ _) fun _ _ => rfl
  induction fuel generalizing current remaining locators header with
  | zero => exact ⟨[current], alone⟩
  | succ fuel ih =>
      simp only [initializeRemainingSpaceAsHeaders]
      split
      · rename_i more
        have enough : 4096 ≤ remaining.toNat := UInt32.le_iff_toNat_le.mp more
        have left : (remaining - UInt32.ofNat locatorLength).toNat = remaining.toNat - 4096 :=
          UInt32.toNat_sub_of_le _ _ more
        have size : locatorLength = 4096 := rfl
        have next : Words.add usize current locatorLength = current + locatorLength := Words.add_eq (by omega)
        have apart : current + locatorLength ≠ current := by omega
        rw [next, Function.update_of_ne apart.symm, found, Option.map_some]
        have behind : (Function.update
            (Function.update locators (current + locatorLength)
              (some ((raw (current + locatorLength)).setDefaultValues (current + locatorLength))))
            current (some { header with nextLocatorPtr := current + locatorLength })) (current + locatorLength) =
            some ((raw (current + locatorLength)).setDefaultValues (current + locatorLength)) := by
          rw [Function.update_of_ne apart, Function.update_self]
        obtain ⟨nodes, laid⟩ := ih (remaining - UInt32.ofNat locatorLength) behind rfl (reset _ _) (by omega)
          (.single behind rfl (reset _ _) (Nat.le_add_right _ _) fun _ _ => rfl)
        rw [left, show locatorLength + (remaining.toNat - 4096) = remaining.toNat by omega] at laid
        refine ⟨current :: nodes, laid.cons (Function.update_self _ _ _) (link _ _ blank) fun other away later => ?_⟩
        rw [Function.update_of_ne away, Function.update_of_ne later]
      · exact ⟨[current], alone⟩

/-- Headers without items, strung together over the bytes behind the first of them. -/
structure Strung (current remaining : Nat) (before after : Locators) (nodes : List Nat) : Prop where
  chain : after.Chain current nodes
  inside : ∀ node ∈ nodes, current ≤ node ∧ node ≤ current + remaining
  frame : ∀ other, other ∉ nodes → after other = before other
  empty : ∀ node ∈ nodes, ∀ header, after node = some header → header.numItems = 0

theorem headers_strung {current : Nat} {locators : Locators} {header : LocatorHeader} (usize : Nat)
    (raw : Nat → LocatorHeader) (fuel : Nat) (remaining : UInt32) (found : locators current = some header)
    (ended : header.nextLocatorPtr = 0) (empty : header.numItems = 0)
    (word : current + remaining.toNat < usize) :
    ∃ nodes, Strung current remaining.toNat locators
      (initializeRemainingSpaceAsHeaders usize raw fuel current remaining locators) nodes := by
  obtain ⟨nodes, laid⟩ := @headers_laidOut (·.numItems = 0) current locators header usize raw (fun _ _ => rfl)
    (fun _ _ kept => kept) fuel remaining found ended empty word
  refine ⟨nodes, laid.chain, fun node member => ?_, laid.frame, fun node member header reached => ?_⟩
  · have bounds := laid.rooms node member
    omega
  · obtain ⟨known, here, none⟩ := laid.blank node member
    cases here.symm.trans reached
    exact none

theorem Strung.formatted {address length : Nat} {before after locators : Locators} {nodes : List Nat}
    (strung : Strung address (length - locatorLength) before after nodes) (large : locatorLength ≤ length)
    (same : ∀ other, other ≠ address → before other = locators other) :
    Formatted address length locators after nodes where
  chain := strung.chain
  inside node member := by
    have bounds := strung.inside node member
    have header_fits : 0 < locatorLength := by decide
    rw [Words.mem_extent]
    omega
  frame other away := by
    have apart : other ≠ address := by
      rintro rfl
      exact away strung.chain.head_mem
    exact (strung.frame other away).trans (same other apart)
  items node member header found slot registered := by
    rw [strung.empty node member header found] at registered
    exact absurd registered (Nat.not_lt_zero _)

theorem buffers_nextLocatorPtr {usize : Nat} {header : LocatorHeader} {remaining : UInt32} :
    (header.initializeRemainingSpaceAsBuffers usize remaining).nextLocatorPtr = header.nextLocatorPtr := rfl

theorem initializeRemainingSpaceAsBuffers_numItems {usize : Nat} {header : LocatorHeader} {remaining : UInt32}
    {slot : Nat} (registered : slot < (header.initializeRemainingSpaceAsBuffers usize remaining).numItems.toNat) :
    (remaining ≤ lengthOfPreallocatedChunks → slot = 0) ∧
    ∃ size : UInt32, size.toNat ≤ remaining.toNat ∧
      (header.initializeRemainingSpaceAsBuffers usize remaining).items slot =
        LocatorItem.new (Words.add usize header.thisAddress locatorLength) size := by
  rw [numItems_carved] at registered
  have below : slot < chunkCount remaining.toNat := Nat.lt_of_lt_of_le registered (Nat.mod_le _ _)
  refine ⟨fun short => ?_, UInt32.ofNat (chunkSize remaining.toNat slot), ?_, item_carved below⟩
  · have chunk : lengthOfPreallocatedChunks.toNat = 16384 := rfl
    rw [UInt32.le_iff_toNat_le] at short
    -- Up to one chunk of space there is one slot.
    simp only [chunkCount, chunk] at below short
    omega
  · rw [UInt32.toNat_ofNat']
    exact (Nat.mod_le _ _).trans ((Nat.min_le_right _ _).trans (Nat.sub_le _ _))

theorem buffers_formatted {usize address length : Nat} {header : LocatorHeader} {locators : Locators}
    (here : header.thisAddress = address) (ended : header.nextLocatorPtr = 0) (large : locatorLength ≤ length)
    (small : length < 2 ^ 32) (word : address + length < usize) :
    Formatted address length locators (Function.update locators address
      (some (header.initializeRemainingSpaceAsBuffers usize (UInt32.ofNat (length - locatorLength)))))
      [address] where
  chain := by
    refine .last (next_of_eq_zero (Function.update_self _ _ _) ?_)
    rw [buffers_nextLocatorPtr, ended]
  inside node member := by
    have header_fits : 0 < locatorLength := by decide
    obtain rfl := List.mem_singleton.mp member
    rw [Words.mem_extent]
    omega
  frame other away := Function.update_of_ne (fun same => away (List.mem_singleton.mpr same)) _ _
  items node member reached found slot registered := by
    obtain rfl := List.mem_singleton.mp member
    rw [Function.update_self] at found
    cases found
    have remaining : (UInt32.ofNat (length - locatorLength)).toNat = length - locatorLength := by
      rw [UInt32.toNat_ofNat', Nat.mod_eq_of_lt (by omega)]
    have start : Words.add usize header.thisAddress locatorLength = node + locatorLength := by
      rw [here]
      exact Words.add_eq (by omega)
    obtain ⟨single, size, fits, written⟩ := initializeRemainingSpaceAsBuffers_numItems registered
    refine ⟨rfl, ?_, size, ?_, by omega⟩
    · intro chunk
      unfold singleChunk at chunk
      exact single (UInt32.le_iff_toNat_le.mpr (by omega))
    · rw [written, start]

theorem initializeHeader_formatted {target : Target} {address length : Nat} (raw : Nat → LocatorHeader)
    (locators : Locators) (large : locatorLength ≤ length) (small : length < 2 ^ 32)
    (word : address + length < target.usize) :
    ∃ nodes, Formatted address length locators (initializeHeader target raw address length locators) nodes := by
  have behind : Words.sub target.usize length locatorLength = length - locatorLength :=
    Words.sub_eq (by omega) large
  have remaining : (UInt32.ofNat (length - locatorLength)).toNat = length - locatorLength := by
    rw [UInt32.toNat_ofNat', Nat.mod_eq_of_lt (by omega)]
  simp only [initializeHeader, behind]
  split
  · obtain ⟨nodes, strung⟩ := headers_strung target.usize raw
      (UInt32.ofNat (length - locatorLength)).toNat (UInt32.ofNat (length - locatorLength))
      (Function.update_self address (some ((raw address).setDefaultValues address)) locators) rfl rfl (by omega)
    rw [remaining] at strung ⊢
    exact ⟨nodes, strung.formatted large fun other apart => Function.update_of_ne apart _ _⟩
  · exact ⟨[address], buffers_formatted rfl rfl large small word⟩

/-- The header of a locator that is free to use, with items that are, and has a slot left. -/
structure Fresh (width : PointerWidth) (header : LocatorHeader) : Prop where
  unlocked : header.isLocked = 0
  room : header.isFull width = false
  free : ∀ slot < header.numItems.toNat, (header.items slot).isTaken = 0

end LocatorHeader

/-- A new locator is not full. The count of its chunks is a byte and may wrap. -/
def Target.LeavesRoom (target : Target) : Prop :=
  LocatorHeader.chunkCount (target.granularity - locatorLength) % 256 < target.width.maxItemCount

namespace Target

variable {target : Target}

theorem leavesRoom_of_le (small : target.granularity ≤ 65536) : target.LeavesRoom := by
  have most := target.width.le_maxItemCount
  have chunk : lengthOfPreallocatedChunks.toNat = 16384 := rfl
  simp only [LeavesRoom, LocatorHeader.chunkCount, chunk]
  omega

/-- A power of two makes a power of two of chunks, or none when the count wraps. -/
theorem leavesRoom_of_power (power : ∃ exponent, target.granularity = 2 ^ exponent) : target.LeavesRoom := by
  obtain ⟨exponent, power⟩ := power
  rcases Nat.lt_or_ge exponent 17 with below | above
  · apply leavesRoom_of_le
    rw [power]
    exact Nat.pow_le_pow_right (by decide) (Nat.le_of_lt_succ below)
  · have most := target.width.le_maxItemCount
    have chunk : lengthOfPreallocatedChunks.toNat = 16384 := rfl
    have size : locatorLength = 4096 := rfl
    obtain ⟨more, rfl⟩ := Nat.exists_eq_add_of_le above
    -- The header takes a quarter of a chunk, which the rounding up gives back.
    have chunks : LocatorHeader.chunkCount (target.granularity - locatorLength) = 8 * 2 ^ more := by
      simp only [LocatorHeader.chunkCount, chunk, size, power, pow_add]
      omega
    unfold LeavesRoom
    rw [chunks]
    rcases Nat.lt_or_ge more 5 with few | many
    · have less : 2 ^ more ≤ 2 ^ 4 := Nat.pow_le_pow_right (by decide) (Nat.le_of_lt_succ few)
      have small : 8 * 2 ^ more % 256 ≤ 8 * 2 ^ more := Nat.mod_le _ _
      omega
    -- The count in its byte is zero.
    · obtain ⟨rest, rfl⟩ := Nat.exists_eq_add_of_le many
      have wraps : 8 * 2 ^ (5 + rest) = 256 * 2 ^ rest := by
        rw [pow_add]
        omega
      rw [wraps, Nat.mul_mod_right]
      omega

end Target

namespace LocatorHeader

theorem initializeHeader_laidOut {target : Target} {address : Nat} (raw : Nat → LocatorHeader) (locators : Locators)
    (booted : target.Booted) (room : target.LeavesRoom) (word : address + target.granularity < target.usize) :
    ∃ nodes, LaidOut (Fresh target.width) address target.granularity locators
      (initializeHeader target raw address target.granularity locators) nodes := by
  have large : locatorLength ≤ target.granularity := booted.large
  have small : target.granularity < 2 ^ 31 := booted.small
  have behind : Words.sub target.usize target.granularity locatorLength = target.granularity - locatorLength :=
    Words.sub_eq (by omega) large
  have remaining : (UInt32.ofNat (target.granularity - locatorLength)).toNat = target.granularity - locatorLength := by
    rw [UInt32.toNat_ofNat', Nat.mod_eq_of_lt (by omega)]
  simp only [initializeHeader, behind]
  split
  · -- No header of a string has items.
    have empty : ∀ header : LocatorHeader, header.isLocked = 0 ∧ header.numItems = 0 → Fresh target.width header := by
      rintro header ⟨unlocked, none⟩
      have most := target.width.le_maxItemCount
      refine ⟨unlocked, ?_, fun slot inside => ?_⟩
      · simp only [isFull, none, UInt8.toNat_zero, decide_eq_false_iff_not]
        omega
      · rw [none] at inside
        exact absurd inside (Nat.not_lt_zero _)
    obtain ⟨nodes, laid⟩ := @headers_laidOut (fun header => header.isLocked = 0 ∧ header.numItems = 0) address _ _
      target.usize raw (fun _ _ => ⟨rfl, rfl⟩) (fun _ _ kept => kept)
      (UInt32.ofNat (target.granularity - locatorLength)).toNat (UInt32.ofNat (target.granularity - locatorLength))
      (Function.update_self address (some ((raw address).setDefaultValues address)) locators) rfl ⟨rfl, rfl⟩ (by omega)
    rw [remaining, Nat.add_sub_cancel' large] at laid
    rw [remaining]
    exact ⟨nodes, laid.weaken empty fun other apart => Function.update_of_ne apart _ _⟩
  · rw [initializeRemainingSpaceAsBuffers_eq, remaining]
    refine ⟨[address], .single (Function.update_self _ _ _) rfl ⟨rfl, ?_, fun slot inside => ?_⟩ large fun other away =>
      Function.update_of_ne away _ _⟩
    · simp only [isFull, UInt8.toNat_ofNat', decide_eq_false_iff_not, not_le]
      exact room
    -- A count that has wrapped hides chunks, and shows none that is not there.
    · have counted : slot < chunkCount (target.granularity - locatorLength) := by
        rw [UInt8.toNat_ofNat'] at inside
        exact Nat.lt_of_lt_of_le inside (Nat.mod_le _ _)
      simp only [if_pos counted]
      rfl

end LocatorHeader

end ReloadedBuffers
