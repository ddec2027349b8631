import ReloadedBuffers.Buffers.Granted
import ReloadedBuffers.Buffers.Session
import ReloadedBuffers.Internal.CallLog
import ReloadedBuffers.Internal.SystemCalls

/-! Locators are filled in the order of their chain: one that holds items has only
full locators before it. A search may therefore stop at the first locator that is
not full, and overlooks nothing behind it.
-/

set_option autoImplicit false

namespace ReloadedBuffers

namespace Locators

/-- Every slot up to the last is registered. -/
def Full (target : Target) (locators : Locators) (node : Nat) : Prop :=
  (locators.registered ⟨node, target.width.maxItemCount - 1⟩).isSome

def Vacant (locators : Locators) (node : Nat) : Prop := ∀ slot, locators.registered ⟨node, slot⟩ = none

/-- No locator holds items unless all earlier ones are full. -/
def Packed (target : Target) (locators : Locators) (nodes : List Nat) : Prop :=
  nodes.Pairwise fun node later => locators.Full target node ∨ locators.Vacant later

def SameSlots (before after : Locators) : Prop :=
  ∀ pointer, (after.registered pointer).isSome = (before.registered pointer).isSome

variable {target : Target} {locators after : Locators} {node : Nat} {nodes : List Nat} {header : LocatorHeader}

theorem full_iff (found : locators node = some header) :
    locators.Full target node ↔ header.isFull target.width = true := by
  have positive : 0 < target.width.maxItemCount := by
    cases target.width <;> decide
  simp only [Full, registered, found, Option.bind_some, LocatorHeader.isFull, ge_iff_le, decide_eq_true_eq]
  split
  · simp only [Option.isSome_some, true_iff]
    omega
  · simp only [Option.isSome_none, Bool.false_eq_true, false_iff]
    omega

theorem SameSlots.full (same : SameSlots locators after) (full : locators.Full target node) :
    after.Full target node := (same _).trans full

theorem SameSlots.vacant (same : SameSlots locators after) (vacant : locators.Vacant node) : after.Vacant node := by
  intro slot
  rw [← Option.isNone_iff_eq_none, ← Option.not_isSome, same, vacant slot]
  rfl

theorem SameSlots.packed (same : SameSlots locators after) (packed : locators.Packed target nodes) :
    after.Packed target nodes :=
  packed.imp fun either => either.imp same.full same.vacant

theorem packed_of_full {passed : List Nat} (full : ∀ node ∈ passed, locators.Full target node)
    (packed : locators.Packed target nodes) : locators.Packed target (passed ++ nodes) := by
  induction passed with
  | nil => exact packed
  | cons node passed ih =>
      refine List.pairwise_cons.mpr ⟨fun later _ => .inl (full node List.mem_cons_self), ?_⟩
      exact ih fun other member => full other (List.mem_cons_of_mem _ member)

/-- A chain with items in its first locator only. -/
theorem packed_of_vacant {first : Nat} (chain : locators.Chain first nodes)
    (vacant : ∀ node ∈ nodes, node ≠ first → locators.Vacant node) : locators.Packed target nodes := by
  have once := chain.nodup
  cases chain with
  | last => exact List.pairwise_singleton _ _
  | link _ rest =>
      have behind := (List.nodup_cons.mp once).1
      have empty : ∀ node ∈ _, locators.Vacant node := fun node member =>
        vacant node (List.mem_cons_of_mem _ member) fun same => behind (same ▸ member)
      refine List.pairwise_cons.mpr ⟨fun later member => .inr (empty later member), ?_⟩
      exact List.pairwise_of_forall_mem_list fun _ _ later member => .inr (empty later member)

theorem setItem_slots {pointer : SafeLocatorItem} {item : LocatorItem}
    (written : locators.setItem pointer item = some after) :
    after.next = locators.next ∧ SameSlots locators after := by
  obtain ⟨header, found, rfl⟩ := Option.map_eq_some_iff.mp written
  refine ⟨next_store found rfl, fun other => ?_⟩
  rcases eq_or_ne other.locator pointer.locator with same | apart
  · simp only [registered, same, found, store_self, Option.bind_some, LocatorHeader.setItem]
    split <;> rfl
  · rw [registered_store_of_ne apart]

end Locators

variable {σ : Type} {target : Target} {held : σ → Set Nat} {before after : World σ}

theorem Os.Heap.logged {os : Os σ} (heap : os.Heap target held) :
    os.logged.Heap target fun world => held world.system where
  granted size align world := heap.granted size align world.system
  refused size align world := heap.refused size align world.system

theorem Locators.slots_of_marked {locators later : Locators}
    (marked : ∀ pointer, Option.Rel LocatorItem.Marked (locators.registered pointer) (later.registered pointer)) :
    SameSlots locators later := by
  intro pointer
  have one := marked pointer
  revert one
  generalize locators.registered pointer = known
  generalize later.registered pointer = found
  intro one
  cases one with
  | none => rfl
  | some => rfl

theorem World.Quiet.slots (quiet : World.Quiet held before after) :
    Locators.SameSlots before.locators after.locators := Locators.slots_of_marked quiet.marked

theorem World.Scanned.slots (scanned : World.Scanned before after) :
    Locators.SameSlots before.locators after.locators := Locators.slots_of_marked scanned.marked

/-- A scan leaves a free item as it is. -/
theorem World.Scanned.free {pointer : SafeLocatorItem} {item : LocatorItem} (scanned : World.Scanned before after)
    (found : before.locators.registered pointer = some item) (free : item.isTaken = 0) :
    after.locators.registered pointer = some item := by
  obtain ⟨later, here, rfl | ⟨taken, _⟩⟩ := Locators.marked_forward scanned.marked found
  · exact here
  · exact absurd free taken

/-- Storing where an item is registered already. -/
theorem World.Taken.slots {settings : BufferSearchSettings} {pointer : SafeLocatorItem}
    (taken : World.Taken target settings before pointer after) :
    Locators.SameSlots before.locators after.locators := by
  obtain ⟨item, found, _, _, stored⟩ := taken.item
  intro other
  rw [stored]
  rcases eq_or_ne other pointer with rfl | apart
  · rw [Function.update_self, found]
    rfl
  · rw [Function.update_of_ne apart]

namespace Buffers

/-- Where a search has got to: it has passed full locators only. -/
structure Walking (target : Target) (held : σ → Set Nat) (first locator : Nat) (world : World σ) : Prop where
  housed : World.Housed held world
  nodes : ∃ passed rest, world.locators.Chain first (passed ++ rest) ∧ world.locators.Chain locator rest ∧
    (∀ node ∈ passed, world.locators.Full target node) ∧ world.locators.Packed target rest

/-- Between the calls. -/
structure Settled (target : Target) (held : σ → Set Nat) (first : Nat) (world : World σ) : Prop where
  housed : World.Housed held world
  nodes : ∃ nodes, world.locators.Chain first nodes ∧ world.locators.Packed target nodes

variable {first locator : Nat}

theorem Settled.walking (settled : Settled target held first before) : Walking target held first first before := by
  obtain ⟨nodes, chain, packed⟩ := settled.nodes
  exact ⟨settled.housed, [], nodes, chain, chain, fun _ member => absurd member List.not_mem_nil, packed⟩

theorem Walking.settled (walking : Walking target held first locator before) : Settled target held first before := by
  obtain ⟨passed, rest, chain, _, full, packed⟩ := walking.nodes
  exact ⟨walking.housed, passed ++ rest, chain, Locators.packed_of_full full packed⟩

/-- A search goes on over the same slots and links. -/
theorem Walking.slots (walking : Walking target held first locator before)
    (more : held before.os ⊆ held after.os) (next : after.locators.next = before.locators.next)
    (same : Locators.SameSlots before.locators after.locators) : Walking target held first locator after where
  housed node found := by
    rw [next] at found
    exact more (walking.housed node found)
  nodes := by
    obtain ⟨passed, rest, chain, tail, full, packed⟩ := walking.nodes
    refine ⟨passed, rest, ?_, ?_, fun node member => same.full (full node member), same.packed packed⟩
    · unfold Locators.Chain at chain ⊢
      rwa [next]
    · unfold Locators.Chain at tail ⊢
      rwa [next]

theorem Walking.quiet (walking : Walking target held first locator before) (quiet : World.Quiet held before after) :
    Walking target held first locator after :=
  walking.slots quiet.held_le quiet.next quiet.slots

/-- An item goes into the first locator that is not full. -/
theorem Walking.pushed {pointer : SafeLocatorItem} {item : LocatorItem}
    (walking : Walking target held first pointer.locator before) (more : held before.os ⊆ held after.os)
    (pushed : World.Pushed before pointer item after) (room : ¬ before.locators.Full target pointer.locator) :
    Settled target held first after := by
  obtain ⟨passed, rest, chain, tail, full, packed⟩ := walking.nodes
  have kept : ∀ node, before.locators.Full target node → after.locators.Full target node := by
    intro node whole
    unfold Locators.Full at whole ⊢
    rw [pushed.stored]
    rcases eq_or_ne (⟨node, target.width.maxItemCount - 1⟩ : SafeLocatorItem) pointer with same | apart
    · rw [same, Function.update_self]
      rfl
    · rwa [Function.update_of_ne apart]
  have elsewhere : ∀ node, node ≠ pointer.locator → before.locators.Vacant node → after.locators.Vacant node := by
    intro node apart empty slot
    rw [pushed.stored, Function.update_of_ne]
    · exact empty slot
    · exact fun same => apart (congrArg SafeLocatorItem.locator same)
  refine ⟨fun node found => ?_, passed ++ rest, ?_,
    Locators.packed_of_full (fun node member => kept node (full node member)) ?_⟩
  · rw [pushed.next] at found
    exact more (walking.housed node found)
  · unfold Locators.Chain at chain ⊢
    rwa [pushed.next]
  · have once := tail.nodup
    cases tail with
    | last => exact List.pairwise_singleton _ _
    | link _ later =>
        -- What lies behind a locator that is not full holds no items.
        obtain ⟨behind, _⟩ := List.pairwise_cons.mp packed
        have empty : ∀ node ∈ _, after.locators.Vacant node := fun node member =>
          elsewhere node (fun same => (List.nodup_cons.mp once).1 (same ▸ member))
            ((behind node member).resolve_left room)
        refine List.pairwise_cons.mpr ⟨fun node member => .inr (empty node member), ?_⟩
        exact List.pairwise_of_forall_mem_list fun _ _ node member => .inr (empty node member)

theorem Walking.follow {next : Nat} (walking : Walking target held first locator before)
    (full : before.locators.Full target locator) (follows : before.locators.next locator = some (some next)) :
    Walking target held first next before := by
  obtain ⟨passed, rest, chain, tail, behind, packed⟩ := walking.nodes
  cases tail with
  | last ends =>
      rw [ends] at follows
      cases follows
  | link goes later =>
      rw [goes] at follows
      cases follows
      refine ⟨walking.housed, passed ++ [locator], _, ?_, later, ?_, (List.pairwise_cons.mp packed).2⟩
      · rwa [List.append_assoc]
      · intro node member
        rcases List.mem_append.mp member with old | here
        · exact behind node old
        · obtain rfl := List.mem_singleton.mp here
          exact full

/-- A locator is created behind full ones. -/
theorem Walking.link {address : Nat} (walking : Walking target held first locator before)
    (full : before.locators.Full target locator) (linked : World.Linked target held before locator address after) :
    Walking target held first address after := by
  obtain ⟨passed, rest, chain, tail, behind, packed⟩ := walking.nodes
  obtain ⟨more, created, inside, frame⟩ := linked.nodes
  have kept : ∀ node, before.locators.Full target node → after.locators.Full target node := by
    intro node whole
    obtain ⟨item, found⟩ := Option.isSome_iff_exists.mp whole
    exact Option.isSome_iff_exists.mpr ⟨item, linked.registered walking.housed found⟩
  cases tail with
  | link goes =>
      rw [linked.ended] at goes
      cases goes
  | last =>
      refine ⟨walking.housed.link linked, passed ++ [locator], more, ?_, created, ?_, ?_⟩
      · refine chain.extend (List.mem_append_right _ (List.mem_singleton_self _)) linked.ended
          (fun node old apart => frame node (fun new => ?_) apart) linked.next created
        have inUse := walking.housed node (chain.defined old)
        exact Set.disjoint_left.mp linked.separate (inside node new) inUse
      · intro node member
        rcases List.mem_append.mp member with old | here
        · exact kept node (behind node old)
        · obtain rfl := List.mem_singleton.mp here
          exact kept node full
      · refine Locators.packed_of_vacant created fun node member apart slot => ?_
        by_contra present
        obtain ⟨item, found⟩ := Option.ne_none_iff_exists'.mp present
        exact apart (linked.fresh ⟨node, slot⟩ item (inside node member) found).1

variable {os : Os σ} {fuel depth : Nat} {settings : BufferSearchSettings} {world last : World σ}
  {result : Except BufferSearchError SafeLocatorItem}

theorem Search.settled (search : Search target os fuel settings locator world result last)
    (reserves : os.Reserves target held) (booted : target.Booted)
    (walking : Walking target held first locator world) : Settled target held first last := by
  induction search with
  | ended visited =>
      cases visited with
      | taken found scan =>
          obtain ⟨middle, scanned, taken⟩ := getFirstAvailableItemLocked_taken found scan
          exact ((walking.quiet scanned.quiet).slots (taken.os ▸ subset_rfl) taken.next taken.slots).settled
      | allocated found scan tried =>
          have missed := walking.quiet (getFirstAvailableItemLocked_missed found scan).quiet
          obtain ⟨header, _, here, room, rfl, answer, pushed⟩ := tryAllocateItem_ok tried
          refine missed.pushed (reserves.allocate answer) pushed fun full => ?_
          -- A locator that reports no space is full, and this one has not.
          rw [Locators.full_iff here, room] at full
          cases full
      | refused found scan tried =>
          have missed := walking.quiet (getFirstAvailableItemLocked_missed found scan).quiet
          obtain ⟨same, _, answer⟩ := tryAllocateItem_cannotAllocateMemory tried
          exact (missed.quiet (.of_locators same (reserves.allocate answer))).settled
      | stuck found scan tried grown =>
          have missed := walking.quiet (getFirstAvailableItemLocked_missed found scan).quiet
          obtain ⟨rfl, _⟩ := tryAllocateItem_noSpaceInHeader tried
          exact (missed.quiet (getNextLocator_error reserves.heap booted missed.housed grown)).settled
  | moved visited _ ih =>
      cases visited with
      | passed found scan tried grown =>
          have missed := walking.quiet (getFirstAvailableItemLocked_missed found scan).quiet
          obtain ⟨rfl, header, here, whole⟩ := tryAllocateItem_noSpaceInHeader tried
          have full := (Locators.full_iff here).mpr whole
          -- The next locator is on the chain already or has been created at its end.
          rcases getNextLocator_ok reserves.heap booted missed.housed grown with ⟨follows, rfl⟩ | linked
          · exact ih (missed.follow full follows)
          · exact ih (missed.link full linked)

theorem getBuffer_settled (reserves : os.Reserves target held) (booted : target.Booted)
    (run : getBuffer target os fuel depth settings first world = some (result, last))
    (settled : Settled target held first world) : Settled target held first last :=
  (getBufferRecursive_search run).settled reserves booted settled.walking

theorem tryAllocateItem_full {header : LocatorHeader} {size : UInt32} {minAddress maxAddress : Nat}
    (found : world.locators locator = some header) (full : header.isFull target.width = true) :
    tryAllocateItem target os fuel locator size minAddress maxAddress world = some (.error .noSpaceInHeader, world) := by
  simp [tryAllocateItem, found, full]

theorem getNextLocator_follows {next : Nat} (follows : world.locators.next locator = some (some next)) :
    getNextLocator target os locator world = some (.ok next, world) := by
  obtain ⟨header, found, goes⟩ := Option.map_eq_some_iff.mp follows
  split at goes
  · rename_i linked
    cases goes
    simp [getNextLocator, found, linked]
  · cases goes

/-- A search that succeeds without a call to the system and without a new locator. -/
def Undisturbed (before : World σ) : Option (Except BufferSearchError SafeLocatorItem × World σ) → Prop
  | some (.ok _, after) => after.os = before.os ∧ after.locators.next = before.locators.next
  | _ => False

theorem Undisturbed.scanned {outcome : Option (Except BufferSearchError SafeLocatorItem × World σ)}
    (undisturbed : Undisturbed after outcome) (scanned : World.Scanned before after) : Undisturbed before outcome := by
  match outcome, undisturbed with
  | some (.ok _, _), ⟨os, next⟩ => exact ⟨os.trans scanned.os, next.trans scanned.next⟩

/-- Over a packed chain with a usable item that is free, a search that may go far
enough is undisturbed. -/
theorem getBufferRecursive_undisturbed {nodes : List Nat} (chain : world.locators.Chain locator nodes)
    (packed : world.locators.Packed target nodes) {pointer : SafeLocatorItem} {item : LocatorItem}
    (member : pointer.locator ∈ nodes) (registered : world.locators.registered pointer = some item)
    (free : item.isTaken = 0)
    (usable : item.canUse target.usize settings.size settings.minAddress settings.maxAddress = true) :
    getBufferRecursive target os fuel settings depth locator world = none ∧ depth < nodes.length ∨
      Undisturbed world (getBufferRecursive target os fuel settings depth locator world) := by
  -- The scan of a locator that is passed may write stale lock words, so the world changes along
  -- the chain and the chain gets shorter with the depth.
  induction depth generalizing locator world nodes item with
  | zero => exact .inl ⟨rfl, List.length_pos_of_mem member⟩
  | succ depth ih =>
      obtain ⟨header, found⟩ := Option.isSome_iff_exists.mp (Locators.next_isSome ▸ chain.defined chain.head_mem)
      simp only [getBufferRecursive, visit, found]
      generalize scan : header.getFirstAvailableItemLocked target.usize settings.size settings.minAddress
        settings.maxAddress = answer
      obtain ⟨slot, scanned⟩ := answer
      cases slot with
      | some slot =>
          obtain ⟨middle, marked, taken⟩ := getFirstAvailableItemLocked_taken found scan
          exact .inr ⟨rfl, taken.next.trans marked.next⟩
      | none =>
          -- What is usable lies behind this locator, so this one is full.
          have missed := getFirstAvailableItemLocked_missed found scan
          have apart : pointer.locator ≠ locator := by
            rintro rfl
            rw [getFirstAvailableItemLocked_unusable found scan registered free] at usable
            cases usable
          cases chain with
          | last => exact absurd (List.mem_singleton.mp member) apart
          | @link _ next rest goes tail =>
              have behind := (List.mem_cons.mp member).resolve_left apart
              obtain ⟨before, later⟩ := List.pairwise_cons.mp packed
              have full : world.locators.Full target locator := by
                refine (before pointer.locator behind).resolve_right fun vacant => ?_
                cases registered.symm.trans (vacant pointer.slot)
              have whole := (Locators.full_iff Locators.store_self).mp (missed.slots.full full)
              have follows := (congrFun missed.next locator).trans goes
              have tried : tryAllocateItem target os fuel locator settings.size settings.minAddress settings.maxAddress
                  ⟨world.locators.store locator scanned, world.os⟩ = some (.error .noSpaceInHeader, _) :=
                tryAllocateItem_full Locators.store_self whole
              have grown : getNextLocator target os locator ⟨world.locators.store locator scanned, world.os⟩ =
                  some (.ok next, _) := getNextLocator_follows follows
              simp only [tried, reduceCtorEq, if_false, grown]
              have shorter : Locators.Chain (world.locators.store locator scanned) next rest := by
                unfold Locators.Chain at tail ⊢
                rwa [missed.next]
              rcases ih shorter (missed.slots.packed later) behind (missed.free registered free) free usable with
                ⟨out, short⟩ | undisturbed
              · exact .inl ⟨out, Nat.succ_lt_succ short⟩
              · exact .inr (undisturbed.scanned missed)

/-- Writing an item through a pointer moves nothing. -/
theorem Settled.setItem {pointer : SafeLocatorItem} {item : LocatorItem} {locators : Locators}
    (settled : Settled target held first before)
    (written : before.locators.setItem pointer item = some locators) :
    Settled target held first { before with locators := locators } := by
  obtain ⟨next, same⟩ := Locators.setItem_slots written
  have walking : Walking target held first first { before with locators := locators } :=
    settled.walking.slots subset_rfl next same
  exact walking.settled

namespace Session

theorem step_settled {session next : Session σ} {operation : Operation} (reserves : os.Reserves target held)
    (booted : target.Booted) (settled : Settled target held first session.world)
    (run : session.step target os fuel depth first operation = some next) : Settled target held first next.world := by
  obtain ⟨middle, searched, rewritten⟩ := step_world run
  have between : Settled target held first middle := by
    rcases searched with rfl | ⟨_, _, _, searched⟩
    · exact settled
    · exact getBuffer_settled reserves booted searched settled
  generalize next.world = last at rewritten ⊢
  cases rewritten with
  | same => exact between
  | item _ written => exact between.setItem written

/-- Whichever way the block has been laid out, only its first locator may hold items. -/
theorem initial_settled {system : σ} (booted : target.Booted) (word : first + target.granularity < target.usize)
    (inUse : Words.extent first target.granularity ⊆ held system) :
    Settled target held first (initial target os first system).world := by
  obtain ⟨nodes, formatted⟩ := LocatorHeader.initializeHeader_formatted (os.raw system) (fun _ => none)
    booted.large (booted.small.trans (by decide)) word
  refine ⟨fun locator found => inUse (formatted.inside _ ?_), nodes, formatted.chain, ?_⟩
  · by_contra away
    rw [Locators.next_isSome, initial] at found
    dsimp only at found
    rw [formatted.frame _ away] at found
    cases found
  · refine Locators.packed_of_vacant formatted.chain fun node member apart slot => ?_
    by_contra present
    obtain ⟨item, found⟩ := Option.ne_none_iff_exists'.mp present
    obtain ⟨header, reached, inside, _⟩ := Locators.registered_eq_some.mp found
    exact apart (formatted.items node member header reached slot inside).1

/-- An existing usable buffer is never overlooked. In every session, a search that asks
the system for anything, creates a locator, fails or does not come back, although it
may follow the chain to its end, began without a usable free item on the chain. -/
theorem getBuffer_overlooks_nothing {os : Os σ} {held : Logged σ → Set Nat} {system : Logged σ}
    {session : Session (Logged σ)} {operations : List Operation} (reserves : os.logged.Reserves target held)
    (booted : target.Booted) (word : first + target.granularity < target.usize)
    (inUse : Words.extent first target.granularity ⊆ held system)
    (run : Transition.Run (step target os.logged fuel depth first) Transition.always
      (initial target os.logged first system) operations session) :
    ∃ nodes, session.world.locators.Chain first nodes ∧ ∀ fuel depth settings,
      nodes.length ≤ depth ∨
        (Buffers.getBuffer target os.logged fuel depth settings first session.world).isSome = true →
      ¬ Undisturbed session.world (Buffers.getBuffer target os.logged fuel depth settings first session.world) →
      ∀ pointer item, pointer.locator ∈ nodes → session.world.locators.registered pointer = some item →
        item.isTaken = 0 →
        item.canUse target.usize settings.size settings.minAddress settings.maxAddress = false := by
  have settled := run.invariant (fun session => Settled target held first session.world)
    (fun _ _ _ settled _ taken => step_settled reserves booted settled taken) (initial_settled booted word inUse)
  obtain ⟨nodes, chain, packed⟩ := settled.nodes
  refine ⟨nodes, chain, fun fuel depth settings enough disturbed pointer item member registered free => ?_⟩
  -- A usable free item would have left the search undisturbed.
  by_contra usable
  rw [Bool.not_eq_false] at usable
  have search : getBufferRecursive target os.logged fuel settings depth first session.world = none ∧
        depth < nodes.length ∨
      Undisturbed session.world (getBufferRecursive target os.logged fuel settings depth first session.world) :=
    getBufferRecursive_undisturbed chain packed member registered free usable
  rcases search with ⟨out, short⟩ | undisturbed
  · rcases enough with far | returned
    · omega
    · rw [Buffers.getBuffer, out] at returned
      cases returned
  · exact disturbed undisturbed

theorem upwards_reserves : (Os.upwards smallTarget.usize emptyHeader).logged.Reserves smallTarget
    fun world => Set.Iio world.system where
  heap := (Os.upwards_sound smallTarget emptyHeader rfl).heap.logged
  called before after called := by
    simp only [Os.Called, smallTarget] at called
    cases called with
    | memoryMap read =>
        simp only [Os.logged, LinuxCalls.logged] at read
        obtain ⟨system, asked, rfl⟩ := Logged.ask_eq_some.mp read
        cases asked
        exact subset_rfl
    | mmap address length =>
        simp only [Os.logged, LinuxCalls.logged, Logged.call, Os.upwards]
        split
        · exact subset_rfl
        · exact Set.Iio_subset_Iio (by omega)
    | munmap => exact subset_rfl

/-- A buffer of 8192 bytes that was dropped is too small for a search that allocates. -/
theorem getBuffer_overlooks_nothing_dropped : ∃ session : Session (Logged Nat), ∃ item,
    session.world.locators.registered ⟨0x10000, 0⟩ = some item ∧ item.isTaken = 0 ∧ item.size = 8192 ∧
      item.canUse smallTarget.usize 10000 0x20000 0x7FFFFFFFFFFF = false := by
  have steps : ∃ middle session : Session (Logged Nat), ∃ item after,
      (initial smallTarget (Os.upwards smallTarget.usize emptyHeader).logged 0x10000 ⟨0x11000, []⟩).step smallTarget
        (Os.upwards smallTarget.usize emptyHeader).logged 0 2 0x10000
        (.getBuffer 0 ⟨0x20000, 0x40000, 5000⟩) = some middle ∧
      middle.step smallTarget (Os.upwards smallTarget.usize emptyHeader).logged 0 2 0x10000 (.drop 0) = some session ∧
      session.world.locators.registered ⟨0x10000, 0⟩ = some item ∧ item.isTaken = 0 ∧ item.size = 8192 ∧
      Buffers.getBuffer smallTarget (Os.upwards smallTarget.usize emptyHeader).logged 0 2
        ⟨0x20000, 0x7FFFFFFFFFFF, 10000⟩ 0x10000 session.world = some (.ok ⟨0x10000, 1⟩, after) ∧
      session.world.os.calls.length = 2 ∧ after.os.calls.length = 4 :=
    ⟨_, _, _, _, rfl, rfl, rfl, rfl, rfl, rfl, rfl, rfl⟩
  obtain ⟨middle, session, item, after, searched, dropped, registered, free, size, allocated, one, two⟩ := steps
  obtain ⟨nodes, chain, nothing⟩ := getBuffer_overlooks_nothing upwards_reserves smallTarget_booted (by decide)
    (fun byte inside => inside.2) (.cons trivial searched (.single trivial dropped))
  refine ⟨session, item, registered, free, size,
    nothing 0 2 ⟨0x20000, 0x7FFFFFFFFFFF, 10000⟩ (.inr ?_) ?_ ⟨0x10000, 0⟩ item chain.head_mem registered free⟩
  · rw [allocated]
    rfl
  · rw [allocated]
    rintro ⟨same, _⟩
    rw [same, one] at two
    cases two

end Session

end Buffers

end ReloadedBuffers
