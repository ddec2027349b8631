import Mathlib.Data.List.Pairwise
import ReloadedBuffers.Buffers.Session
import ReloadedBuffers.Internal.SystemCalls

/-! A search as a sequence of visits, over chains whose headers are unlocked and lie in
memory of their own. One visit keeps such a chain, or links one new block behind it.
-/

set_option autoImplicit false

namespace ReloadedBuffers

variable {σ : Type} {target : Target} {os : Os σ} {held : σ → Set Nat} {first locator : Nat} {nodes : List Nat}
  {before after : World σ}

/-- Between two operations a header is unlocked, and the lock words of its items are
zero or one. -/
structure LocatorHeader.Tidy (header : LocatorHeader) : Prop where
  unlocked : header.isLocked = 0
  flags : ∀ slot < header.numItems.toNat, (header.items slot).isTaken = 0 ∨ (header.items slot).isTaken = 1

theorem LocatorHeader.Fresh.tidy {width : PointerWidth} {header : LocatorHeader} (fresh : header.Fresh width) :
    header.Tidy := ⟨fresh.unlocked, fun slot inside => .inl (fresh.free slot inside)⟩

/-- The chain between two operations: each of its headers has its bytes to itself. -/
structure World.WellFormed (held : σ → Set Nat) (first : Nat) (nodes : List Nat) (world : World σ) : Prop where
  chain : world.locators.Chain first nodes
  tidy : ∀ node header, world.locators node = some header → header.Tidy
  housed : ∀ node, (world.locators node).isSome → Words.extent node locatorLength ⊆ held world.os
  apart : ∀ node other, (world.locators node).isSome → (world.locators other).isSome → node ≠ other →
    Disjoint (Words.extent node locatorLength) (Words.extent other locatorLength)

theorem Words.mem_extent_self {start length : Nat} (positive : 0 < length) : start ∈ Words.extent start length :=
  ⟨Nat.le_refl _, Nat.lt_add_of_pos_right positive⟩

theorem LocatorHeader.LaidOut.extent_subset {Blank : LocatorHeader → Prop} {block length : Nat} {earlier later : Locators}
    (laid : LocatorHeader.LaidOut Blank block length earlier later nodes) {node : Nat} (member : node ∈ nodes) :
    Words.extent node locatorLength ⊆ Words.extent block length :=
  Words.extent_subset (laid.rooms node member).1 (laid.rooms node member).2

theorem LocatorHeader.LaidOut.disjoint {Blank : LocatorHeader → Prop} {block length : Nat} {earlier later : Locators}
    (laid : LocatorHeader.LaidOut Blank block length earlier later nodes) {node other : Nat} (member : node ∈ nodes)
    (another : other ∈ nodes) (different : node ≠ other) :
    Disjoint (Words.extent node locatorLength) (Words.extent other locatorLength) := by
  have pairs : nodes.Pairwise fun node other =>
      Disjoint (Words.extent node locatorLength) (Words.extent other locatorLength) :=
    laid.apart.imp Words.extent_disjoint_of_le
  have symmetric : Std.Symm fun node other : Nat =>
      Disjoint (Words.extent node locatorLength) (Words.extent other locatorLength) := ⟨fun _ _ disjoint => disjoint.symm⟩
  exact pairs.forall member another different

/-- The header that links to a layout may be written again. -/
theorem LocatorHeader.LaidOut.store {Blank : LocatorHeader → Prop} {block length : Nat} {locators created : Locators}
    {linked changed : LocatorHeader}
    (laid : LocatorHeader.LaidOut Blank block length (locators.store locator linked) created nodes)
    (away : locator ∉ nodes) (link : changed.nextLocatorPtr = linked.nextLocatorPtr) :
    LocatorHeader.LaidOut Blank block length (locators.store locator changed) (created.store locator changed) nodes := by
  have here : created locator = some linked := by
    rw [laid.frame locator away, Locators.store_self]
  refine ⟨?_, laid.rooms, laid.apart, fun other outside => ?_, fun node member => ?_⟩
  · have chain := laid.chain
    unfold Locators.Chain at chain ⊢
    rwa [Locators.next_store here link]
  · rcases eq_or_ne other locator with rfl | apart
    · rw [Locators.store_self, Locators.store_self]
    · rw [Locators.store_of_ne apart, laid.frame other outside, Locators.store_of_ne apart, Locators.store_of_ne apart]
  · have apart : node ≠ locator := fun same => away (same ▸ member)
    rw [Locators.store_of_ne apart]
    exact laid.blank node member

/-- A block of fresh memory, initialised as locators, has been linked behind the locator
that ended its chain. -/
structure World.Grown (target : Target) (os : Os σ) (held : σ → Set Nat) (before : World σ) (locator : Nat)
    (header : LocatorHeader) (address : Nat) (more : List Nat) (after : World σ) : Prop where
  found : before.locators locator = some header
  ended : header.nextLocatorPtr = 0
  notNull : address ≠ 0
  separate : Disjoint (Words.extent address target.granularity) (held before.os)
  grows : held before.os ∪ Words.extent address target.granularity ⊆ held after.os
  laid : LocatorHeader.LaidOut (LocatorHeader.Fresh target.width) address target.granularity
    (before.locators.store locator { header with nextLocatorPtr := address }) after.locators more
  initialised : ∀ node ∈ more, after.locators node = LocatorHeader.initializeHeader target (os.raw after.os) address
    target.granularity (before.locators.store locator { header with isLocked := 1, nextLocatorPtr := address }) node

namespace World.WellFormed

theorem mem_held (formed : before.WellFormed held first nodes) {node : Nat} (found : (before.locators node).isSome) :
    node ∈ held before.os := formed.housed node found (Words.mem_extent_self (by decide))

/-- A locator has been stored with the link it had. -/
theorem stored {header changed : LocatorHeader} (formed : before.WellFormed held first nodes)
    (found : before.locators locator = some header) (stored : after.locators = before.locators.store locator changed)
    (link : changed.nextLocatorPtr = header.nextLocatorPtr) (tidy : changed.Tidy)
    (more : held before.os ⊆ held after.os) : after.WellFormed held first nodes := by
  have next : after.locators.next = before.locators.next := by
    rw [stored]
    exact Locators.next_store found link
  have there : ∀ node, (after.locators node).isSome = (before.locators node).isSome := by
    intro node
    rw [← Locators.next_isSome, next, Locators.next_isSome]
  refine ⟨?_, ?_, ?_, ?_⟩
  · have chain := formed.chain
    unfold Locators.Chain at chain ⊢
    rwa [next]
  · intro node header reached
    rw [stored] at reached
    rcases eq_or_ne node locator with rfl | apart
    · rw [Locators.store_self] at reached
      cases reached
      exact tidy
    · rw [Locators.store_of_ne apart] at reached
      exact formed.tidy node header reached
  · intro node present
    rw [there] at present
    exact (formed.housed node present).trans more
  · intro node other here elsewhere
    rw [there] at here elsewhere
    exact formed.apart node other here elsewhere

/-- Memory has been asked for, and the locators are the same. -/
theorem of_locators (formed : before.WellFormed held first nodes) (same : after.locators = before.locators)
    (more : held before.os ⊆ held after.os) : after.WellFormed held first nodes where
  chain := same ▸ formed.chain
  tidy := same ▸ formed.tidy
  housed node present := (formed.housed node (same ▸ present)).trans more
  apart := same ▸ formed.apart

end World.WellFormed

namespace World.Grown

variable {header : LocatorHeader} {address : Nat} {more : List Nat}

/-- The new locators lie outside the memory of the old ones. -/
theorem outside (grown : before.Grown target os held locator header address more after)
    (formed : before.WellFormed held first nodes) {node : Nat} (present : (before.locators node).isSome) : node ∉ more := by
  intro member
  have inside := grown.laid.extent_subset member (Words.mem_extent_self (by decide))
  exact Set.disjoint_left.mp grown.separate inside (formed.mem_held present)

theorem here (grown : before.Grown target os held locator header address more after)
    (formed : before.WellFormed held first nodes) :
    after.locators locator = some { header with nextLocatorPtr := address } := by
  have away : locator ∉ more := grown.outside formed (by rw [grown.found]; rfl)
  rw [grown.laid.frame locator away, Locators.store_self]

theorem frame (grown : before.Grown target os held locator header address more after) {node : Nat}
    (away : node ∉ more) (apart : node ≠ locator) : after.locators node = before.locators node := by
  rw [grown.laid.frame node away, Locators.store_of_ne apart]

theorem next (grown : before.Grown target os held locator header address more after)
    (formed : before.WellFormed held first nodes) : after.locators.next locator = some (some address) :=
  LocatorHeader.next_of_ne_zero (grown.here formed) grown.notNull

/-- A locator of the new world is new, or it was there before. -/
theorem present (grown : before.Grown target os held locator header address more after) {node : Nat}
    (there : (after.locators node).isSome) : node ∈ more ∨ (before.locators node).isSome := by
  by_cases member : node ∈ more
  · exact .inl member
  · rcases eq_or_ne node locator with rfl | apart
    · exact .inr (by rw [grown.found]; rfl)
    · rw [grown.frame member apart] at there
      exact .inr there

theorem wellFormed (grown : before.Grown target os held locator header address more after)
    (formed : before.WellFormed held first nodes) (member : locator ∈ nodes) :
    after.WellFormed held first (nodes ++ more) := by
  have ended : before.locators.next locator = some none := LocatorHeader.next_of_eq_zero grown.found grown.ended
  have inUse : ∀ node ∈ more, Words.extent node locatorLength ⊆ held after.os := fun node inside =>
    (grown.laid.extent_subset inside).trans (Set.subset_union_right.trans grown.grows)
  have separate : ∀ node ∈ more, ∀ other, (before.locators other).isSome →
      Disjoint (Words.extent node locatorLength) (Words.extent other locatorLength) := fun node inside other old =>
    grown.separate.mono (grown.laid.extent_subset inside) (formed.housed other old)
  refine ⟨?_, ?_, ?_, ?_⟩
  · refine formed.chain.extend member ended (fun node old apart => ?_) (grown.next formed) grown.laid.chain
    have present : (before.locators node).isSome := by
      rw [← Locators.next_isSome]
      exact formed.chain.defined old
    simp only [Locators.next, grown.frame (grown.outside formed present) apart]
  · intro node known reached
    -- New headers are blank, the last of the old ones has only its link set, the others are as they were.
    by_cases new : node ∈ more
    · obtain ⟨blank, here, fresh⟩ := grown.laid.blank node new
      cases here.symm.trans reached
      exact fresh.tidy
    · rcases eq_or_ne node locator with rfl | apart
      · cases (grown.here formed).symm.trans reached
        have tidy := formed.tidy node header grown.found
        exact ⟨tidy.unlocked, tidy.flags⟩
      · rw [grown.frame new apart] at reached
        exact formed.tidy node known reached
  · intro node there
    rcases grown.present there with new | old
    · exact inUse node new
    · exact (formed.housed node old).trans (Set.subset_union_left.trans grown.grows)
  · intro node other there elsewhere different
    rcases grown.present there with new | old
    · rcases grown.present elsewhere with newer | older
      · exact grown.laid.disjoint new newer different
      · exact separate node new other older
    · rcases grown.present elsewhere with newer | older
      · exact (separate other newer node old).symm
      · exact formed.apart node other old older different

end World.Grown

/-- The end of a chain is extended, or the system has no memory for that. -/
theorem getNextLocator_grown (heap : os.Heap target held) (booted : target.Booted) (room : target.LeavesRoom)
    (formed : before.WellFormed held first nodes) {result : Except String Nat}
    (run : getNextLocator target os locator before = some (result, after)) :
    (∃ next, result = .ok next ∧ before.locators.next locator = some (some next) ∧ after = before) ∨
    (∃ text, result = .error text ∧ after.locators = before.locators ∧ held before.os ⊆ held after.os) ∨
    ∃ header address more, result = .ok address ∧ before.Grown target os held locator header address more after := by
  obtain ⟨header, found, ⟨linked, rfl, rfl⟩ | ⟨ended, free, address, answer, rest⟩⟩ := getNextLocator_steps run
  · exact .inl ⟨_, rfl, LocatorHeader.next_of_ne_zero found linked, rfl⟩
  · have refused := heap.refused target.granularity target.sysInfo.pageSize before.os
    have granted := heap.granted target.granularity target.sysInfo.pageSize before.os
    rw [answer] at refused granted
    rcases rest with ⟨null, ⟨text, rfl⟩, same⟩ | ⟨notNull, created, again, initialised, refound, rfl, stored⟩
    · exact .inr (.inl ⟨text, rfl, same, refused null⟩)
    · obtain ⟨word, separate, grows⟩ := granted notNull
      obtain ⟨more, laid⟩ := LocatorHeader.initializeHeader_laidOut (os.raw after.os)
        (before.locators.store locator { header with isLocked := 1, nextLocatorPtr := address }) booted room word
      rw [← initialised] at laid
      -- The block is fresh memory, so it is not laid out over the locator that is linked to it.
      have away : locator ∉ more := by
        intro member
        have inside := laid.extent_subset member (Words.mem_extent_self (by decide))
        exact Set.disjoint_left.mp separate inside (formed.mem_held (by rw [found]; rfl))
      have here : created locator = some { header with isLocked := 1, nextLocatorPtr := address } := by
        rw [laid.frame locator away, Locators.store_self]
      cases here.symm.trans refound
      have unlocked : LocatorHeader.unlock { header with isLocked := 1, nextLocatorPtr := address } =
          { header with nextLocatorPtr := address } :=
        @LocatorHeader.unlock_locked { header with nextLocatorPtr := address } free
      rw [unlocked] at stored
      refine .inr (.inr ⟨header, address, more, rfl, found, ended, notNull, separate, grows, ?_, fun node member => ?_⟩)
      · rw [stored]
        exact laid.store away rfl
      · have apart : node ≠ locator := fun same => away (same ▸ member)
        rw [stored, Locators.store_of_ne apart, initialised]

theorem LocatorItem.Marked.eq_of_flag {item later : LocatorItem} (marked : LocatorItem.Marked item later)
    (flag : item.isTaken = 0 ∨ item.isTaken = 1) : later = item := by
  rcases marked with same | ⟨taken, rfl⟩
  · exact same
  · have one := flag.resolve_left taken
    cases item
    cases one
    rfl

namespace LocatorHeader

/-- Lock words of items that were taken have been taken again. -/
def Marked (header later : LocatorHeader) : Prop :=
  ∃ items, later = { header with items := items } ∧ ∀ slot, LocatorItem.Marked (header.items slot) (items slot)

variable {header later last : LocatorHeader}

theorem Marked.refl (header : LocatorHeader) : Marked header header := ⟨header.items, rfl, fun _ => .refl _⟩

theorem Marked.trans (left : Marked header later) (right : Marked later last) : Marked header last := by
  obtain ⟨items, rfl, marked⟩ := left
  obtain ⟨more, rfl, again⟩ := right
  exact ⟨more, rfl, fun slot => (marked slot).trans (again slot)⟩

/-- Words that are zero or one do not change by that. -/
theorem Marked.items_eq (marked : Marked header later) (tidy : header.Tidy) {slot : Nat}
    (inside : slot < header.numItems.toNat) : later.items slot = header.items slot := by
  obtain ⟨items, rfl, marked⟩ := marked
  exact (marked slot).eq_of_flag (tidy.flags slot inside)

theorem Marked.tidy (marked : Marked header later) (tidy : header.Tidy) : later.Tidy := by
  have same := fun slot inside => @items_eq header later marked tidy slot inside
  obtain ⟨items, rfl, _⟩ := marked
  refine ⟨tidy.unlocked, fun slot inside => ?_⟩
  rw [same slot inside]
  exact tidy.flags slot inside

theorem Tidy.setItem (tidy : header.Tidy) {slot : Nat} {item : LocatorItem}
    (flag : slot < header.numItems.toNat → item.isTaken = 0 ∨ item.isTaken = 1) : (header.setItem slot item).Tidy := by
  refine ⟨tidy.unlocked, fun place inside => ?_⟩
  rcases eq_or_ne place slot with rfl | apart
  · simp only [LocatorHeader.setItem, Function.update_self]
    exact flag inside
  · simp only [LocatorHeader.setItem, Function.update_of_ne apart]
    exact tidy.flags place inside

/-- A scan that takes nothing changes lock words of items at most. -/
theorem scan_missed {usize : Nat} {size : UInt32} {minAddress maxAddress : Nat}
    (scan : header.getFirstAvailableItemLocked usize size minAddress maxAddress = (none, later)) : Marked header later := by
  obtain ⟨items, marked, missed | ⟨_, _, _, _, taken⟩⟩ := scanItems_cases usize size minAddress maxAddress
    header.numItems.toNat 0 header
  · cases missed.symm.trans scan
    exact ⟨items, rfl, marked⟩
  · cases taken.symm.trans scan

theorem scan_taken {usize : Nat} {size : UInt32} {minAddress maxAddress slot : Nat}
    (scan : header.getFirstAvailableItemLocked usize size minAddress maxAddress = (some slot, later))
    (tidy : header.Tidy) : later.nextLocatorPtr = header.nextLocatorPtr ∧ later.Tidy := by
  obtain ⟨items, marked, missed | ⟨_, _, _, _, taken⟩⟩ := scanItems_cases usize size minAddress maxAddress
    header.numItems.toNat 0 header
  · cases missed.symm.trans scan
  · cases taken.symm.trans scan
    have scanned : Marked header { header with items := items } := ⟨items, rfl, marked⟩
    exact ⟨rfl, (scanned.tidy tidy).setItem fun _ => .inr rfl⟩

end LocatorHeader

variable {fuel : Nat} {settings : BufferSearchSettings}

/-- A registration stores its locator again, with the header unlocked. -/
theorem tryAllocateItem_stored {pointer : SafeLocatorItem} {header : LocatorHeader}
    (found : before.locators locator = some header) (tidy : header.Tidy)
    (run : tryAllocateItem target os fuel locator settings.size settings.minAddress settings.maxAddress before =
      some (.ok pointer, after)) :
    ∃ changed, after.locators = before.locators.store locator changed ∧
      changed.nextLocatorPtr = header.nextLocatorPtr ∧ changed.Tidy := by
  obtain ⟨known, here, run⟩ := Option.bind_eq_some_iff.mp run
  cases here.symm.trans found
  split at run
  · cases run
  · obtain ⟨locked, acquired, run⟩ := Option.bind_eq_some_iff.mp run
    obtain ⟨_, rfl⟩ := LocatorHeader.lock_eq_some acquired
    split at run
    · cases run
    · obtain ⟨⟨allocated, system⟩, _, run⟩ := Option.bind_eq_some_iff.mp run
      cases allocated with
      | error text => cases run
      | ok item =>
          obtain ⟨taken, won, run⟩ := Option.bind_eq_some_iff.mp run
          have flag : taken.isTaken = 1 := by rw [(LocatorItem.lock_eq_some won).2]
          cases run
          refine ⟨_, rfl, rfl, rfl, fun slot inside => ?_⟩
          -- The count has grown by one or wrapped: every slot below it is old, or the one that was filled.
          have more : slot ≤ header.numItems.toNat := by
            have wraps : (header.numItems + 1).toNat ≤ header.numItems.toNat + 1 := Nat.mod_le _ _
            exact Nat.le_of_lt_succ (Nat.lt_of_lt_of_le inside wraps)
          rcases Nat.lt_or_eq_of_le more with below | rfl
          · simp only [LocatorHeader.unlock, LocatorHeader.setItem, Function.update_of_ne (Nat.ne_of_lt below)]
            exact tidy.flags slot below
          · simp only [LocatorHeader.unlock, LocatorHeader.setItem, Function.update_self]
            exact .inr flag

/-- Every header is what it was, but for lock words of items that were taken. -/
def World.Rescanned (before after : World σ) : Prop :=
  ∀ node header, before.locators node = some header → ∃ later, after.locators node = some later ∧ header.Marked later

theorem World.Rescanned.of_locators (same : after.locators = before.locators) : World.Rescanned before after :=
  fun _ header found => ⟨header, same ▸ found, .refl header⟩

theorem World.Rescanned.trans {middle : World σ} (first : World.Rescanned before middle)
    (later : World.Rescanned middle after) : World.Rescanned before after := by
  intro node header found
  obtain ⟨between, there, marked⟩ := first node header found
  obtain ⟨last, here, again⟩ := later node between there
  exact ⟨last, here, marked.trans again⟩

/-- A scan has found nothing in the locator. -/
structure World.Missed (before : World σ) (locator : Nat) (header scanned : LocatorHeader)
    (after : World σ) : Prop where
  found : before.locators locator = some header
  stored : after = { before with locators := before.locators.store locator scanned }
  marked : header.Marked scanned

namespace World.Missed

variable {header scanned : LocatorHeader}

theorem of_scan {usize : Nat} (found : before.locators locator = some header)
    (scan : header.getFirstAvailableItemLocked usize settings.size settings.minAddress settings.maxAddress =
      (none, scanned)) :
    World.Missed before locator header scanned { before with locators := before.locators.store locator scanned } :=
  ⟨found, rfl, LocatorHeader.scan_missed scan⟩

theorem here (missed : World.Missed before locator header scanned after) :
    after.locators locator = some scanned := by
  rw [missed.stored]
  exact Locators.store_self

theorem os_eq (missed : World.Missed before locator header scanned after) : after.os = before.os := by
  rw [missed.stored]

theorem link (missed : World.Missed before locator header scanned after) :
    scanned.nextLocatorPtr = header.nextLocatorPtr := by
  obtain ⟨items, rfl, _⟩ := missed.marked
  rfl

theorem isFull (width : PointerWidth) (missed : World.Missed before locator header scanned after) :
    scanned.isFull width = header.isFull width := by
  obtain ⟨items, rfl, _⟩ := missed.marked
  rfl

theorem next (missed : World.Missed before locator header scanned after) :
    after.locators.next = before.locators.next := by
  rw [missed.stored]
  exact Locators.next_store missed.found missed.link

theorem rescanned (missed : World.Missed before locator header scanned after) :
    World.Rescanned before after := by
  intro node known found
  rcases eq_or_ne node locator with rfl | apart
  · cases missed.found.symm.trans found
    exact ⟨_, missed.here, missed.marked⟩
  · refine ⟨known, ?_, .refl known⟩
    rw [missed.stored]
    exact (Locators.store_of_ne apart).trans found

theorem wellFormed (missed : World.Missed before locator header scanned after)
    (formed : before.WellFormed held first nodes) : after.WellFormed held first nodes :=
  formed.stored missed.found (by rw [missed.stored]) missed.link (missed.marked.tidy (formed.tidy _ _ missed.found))
    (by rw [missed.os_eq])

end World.Missed

namespace Buffers

section

variable (reserves : os.Reserves target held) (booted : target.Booted) (room : target.LeavesRoom)
include reserves booted room

/-- A visit that ends the search leaves the chain as it was. -/
theorem visit_ended {result : Except BufferSearchError SafeLocatorItem} (formed : before.WellFormed held first nodes)
    (run : visit target os fuel settings locator before = some (.ended result, after)) :
    after.WellFormed held first nodes ∧ after.locators.next = before.locators.next ∧
      ∀ error, result = .error error → World.Rescanned before after := by
  cases visit_visited run with
  | taken found scan =>
      obtain ⟨link, tidy⟩ := LocatorHeader.scan_taken scan (formed.tidy _ _ found)
      refine ⟨formed.stored found rfl link tidy subset_rfl, Locators.next_store found link, ?_⟩
      rintro error ⟨⟩
  | allocated found scan tried =>
      have missed : World.Missed before locator _ _ _ := .of_scan found scan
      obtain ⟨_, _, _, _, _, answer, _⟩ := tryAllocateItem_ok tried
      have tidy := (missed.wellFormed formed).tidy _ _ missed.here
      obtain ⟨changed, stored, link, kept⟩ := tryAllocateItem_stored missed.here tidy tried
      refine ⟨(missed.wellFormed formed).stored missed.here stored link kept (reserves.allocate answer), ?_, ?_⟩
      · rw [stored, Locators.next_store missed.here link, missed.next]
      · rintro error ⟨⟩
  | refused found scan tried =>
      have missed : World.Missed before locator _ _ _ := .of_scan found scan
      obtain ⟨same, _, answer⟩ := tryAllocateItem_cannotAllocateMemory tried
      refine ⟨(missed.wellFormed formed).of_locators same (reserves.allocate answer), ?_, fun _ _ => ?_⟩
      · rw [same, missed.next]
      · exact missed.rescanned.trans (.of_locators same)
  | stuck found scan tried grown =>
      have missed : World.Missed before locator _ _ _ := .of_scan found scan
      obtain ⟨rfl, _⟩ := tryAllocateItem_noSpaceInHeader tried
      rcases getNextLocator_grown reserves.heap booted room (missed.wellFormed formed) grown with
        ⟨_, wrong, _⟩ | ⟨_, _, same, more⟩ | ⟨_, _, _, wrong, _⟩
      · cases wrong
      · refine ⟨(missed.wellFormed formed).of_locators same more, ?_, fun _ _ => ?_⟩
        · rw [same, missed.next]
        · exact missed.rescanned.trans (.of_locators same)
      · cases wrong

/-- Only full locators are left, for the next of the chain or for a new one. -/
theorem visit_moved {next : Nat} (formed : before.WellFormed held first nodes)
    (run : visit target os fuel settings locator before = some (.moved next, after)) :
    ∃ header scanned middle, World.Missed before locator header scanned middle ∧
      header.isFull target.width = true ∧
      (before.locators.next locator = some (some next) ∧ after = middle ∨
        ∃ more, middle.Grown target os held locator scanned next more after) := by
  cases visit_visited run with
  | @passed _ _ _ header scanned found scan tried grown =>
      have missed : World.Missed before locator header scanned _ := .of_scan found scan
      obtain ⟨rfl, known, here, full⟩ := tryAllocateItem_noSpaceInHeader tried
      cases here.symm.trans missed.here
      refine ⟨header, scanned, _, missed, (missed.isFull _).symm.trans full, ?_⟩
      rcases getNextLocator_grown reserves.heap booted room (missed.wellFormed formed) grown with
        ⟨_, same, follows, rfl⟩ | ⟨_, wrong, _⟩ | ⟨known, _, more, same, created⟩
      · cases same
        rw [missed.next] at follows
        exact .inl ⟨follows, rfl⟩
      · cases wrong
      · cases same
        cases created.found.symm.trans missed.here
        exact .inr ⟨more, created⟩

/-- What a search does to the chain: it ends within the chain, or it puts one block
behind it and ends there. -/
inductive Searched (target : Target) (os : Os σ) (held : σ → Set Nat) (first : Nat) (nodes : List Nat)
    (before : World σ) (result : Except BufferSearchError SafeLocatorItem) : List Nat → World σ → Prop where
  | within {after : World σ} :
      after.WellFormed held first nodes → after.locators.next = before.locators.next →
      (∀ error, result = .error error → World.Rescanned before after) →
      Searched target os held first nodes before result [] after
  | beyond {middle created after : World σ} {last address : Nat} {header : LocatorHeader} {more : List Nat} :
      middle.WellFormed held first nodes → middle.locators.next = before.locators.next →
      World.Rescanned before middle → last ∈ nodes →
      middle.Grown target os held last header address more created →
      after.WellFormed held first (nodes ++ more) → after.locators.next = created.locators.next →
      (∀ error, result = .error error → World.Rescanned created after) →
      Searched target os held first nodes before result more after

theorem getBufferRecursive_searched {depth : Nat} {result : Except BufferSearchError SafeLocatorItem}
    (formed : before.WellFormed held first nodes) (member : locator ∈ nodes)
    (run : getBufferRecursive target os fuel settings depth locator before = some (result, after)) :
    ∃ more, Searched target os held first nodes before result more after := by
  induction depth generalizing locator before with
  | zero => cases run
  | succ depth ih =>
      simp only [getBufferRecursive] at run
      split at run
      · cases run
      · rename_i ended visited
        cases run
        obtain ⟨kept, next, preserved⟩ := visit_ended reserves booted room formed visited
        exact ⟨[], .within kept next preserved⟩
      · rename_i next between visited
        obtain ⟨header, scanned, middle, missed, full, ⟨follows, rfl⟩ | ⟨more, grown⟩⟩ :=
          visit_moved reserves booted room formed visited
        -- Along the chain the scan has changed lock words at most, and the rest of the search starts there.
        · obtain ⟨more, searched⟩ := ih (missed.wellFormed formed) (formed.chain.next_mem member follows) run
          cases searched with
          | within kept same preserved =>
              exact ⟨[], .within kept (same.trans missed.next) fun error failed =>
                missed.rescanned.trans (preserved error failed)⟩
          | beyond formed' same preserved last grown kept links later =>
              exact ⟨more, .beyond formed' (same.trans missed.next) (missed.rescanned.trans preserved) last grown kept
                links later⟩
        · -- The first header of the new block has a slot left, so the search ends there.
          have here := missed.wellFormed formed
          have created := grown.wellFormed here member
          cases depth with
          | zero => cases run
          | succ depth =>
              simp only [getBufferRecursive] at run
              split at run
              · cases run
              · rename_i ended last
                cases run
                obtain ⟨kept, links, preserved⟩ := visit_ended reserves booted room created last
                exact ⟨more, .beyond here missed.next missed.rescanned member grown kept links preserved⟩
              · rename_i again last
                obtain ⟨known, _, _, wrong, whole, _⟩ := visit_moved reserves booted room created last
                obtain ⟨blank, there, fresh⟩ := grown.laid.blank _ grown.laid.chain.head_mem
                cases there.symm.trans wrong.found
                rw [fresh.room] at whole
                cases whole

end

/-- A link that has been set stays as it is. -/
def LinksKept (before after : Locators) : Prop :=
  ∀ node next, before.next node = some (some next) → after.next node = some (some next)

theorem LinksKept.of_next {earlier later : Locators} (same : later.next = earlier.next) : LinksKept earlier later := by
  intro node next linked
  rwa [same]

theorem LinksKept.trans {one two three : Locators} (left : LinksKept one two) (right : LinksKept two three) :
    LinksKept one three := fun node next linked => right node next (left node next linked)

theorem grown_linksKept {header : LocatorHeader} {address : Nat} {more : List Nat}
    (grown : before.Grown target os held locator header address more after)
    (formed : before.WellFormed held first nodes) : LinksKept before.locators after.locators := by
  intro node next linked
  have ended := LocatorHeader.next_of_eq_zero grown.found grown.ended
  have apart : node ≠ locator := by
    rintro rfl
    rw [ended] at linked
    cases linked
  have away : node ∉ more := grown.outside formed (by rw [← Locators.next_isSome, linked]; rfl)
  simpa only [Locators.next, grown.frame away apart] using linked

theorem Searched.kept {result : Except BufferSearchError SafeLocatorItem} {more : List Nat}
    (searched : Searched target os held first nodes before result more after) :
    after.WellFormed held first (nodes ++ more) ∧ LinksKept before.locators after.locators := by
  cases searched with
  | within kept same _ =>
      rw [List.append_nil]
      exact ⟨kept, .of_next same⟩
  | beyond formed same _ _ grown kept links _ =>
      exact ⟨kept, (LinksKept.of_next same).trans ((grown_linksKept grown formed).trans (.of_next links))⟩

/-- Writing an item through a pointer moves no locator. -/
theorem Touched.kept (touched : Touched before after) (formed : before.WellFormed held first nodes) :
    after.WellFormed held first nodes ∧ after.locators.next = before.locators.next := by
  -- Both writes leave a lock word at zero or one.
  have write : ∀ {pointer : SafeLocatorItem} {earlier item : LocatorItem} {locators : Locators},
      before.locators.item pointer = some earlier → before.locators.setItem pointer item = some locators →
      (earlier.isTaken = 0 ∨ earlier.isTaken = 1 → item.isTaken = 0 ∨ item.isTaken = 1) →
      World.WellFormed held first nodes { before with locators := locators } ∧ locators.next = before.locators.next := by
    intro pointer earlier item locators known written flag
    obtain ⟨header, found, rfl⟩ := Option.map_eq_some_iff.mp written
    have tidy := formed.tidy _ _ found
    have here : header.items pointer.slot = earlier := by simpa [Locators.item, found] using known
    refine ⟨formed.stored found rfl rfl (tidy.setItem fun inside => flag ?_) subset_rfl, Locators.next_store found rfl⟩
    rw [← here]
    exact tidy.flags _ inside
  cases touched with
  | same => exact ⟨formed, rfl⟩
  | advanced count known written => exact write known written id
  | unlocked known written => exact write known written fun _ => .inl rfl

namespace Session

theorem step_kept {depth : Nat} {session next : Session σ} {operation : Operation} (reserves : os.Reserves target held)
    (booted : target.Booted) (room : target.LeavesRoom) (formed : session.world.WellFormed held first nodes)
    (run : session.step target os fuel depth first operation = some next) :
    (∃ more, next.world.WellFormed held first (nodes ++ more)) ∧
      LinksKept session.world.locators next.world.locators := by
  obtain ⟨middle, searched, touched⟩ := step_touched run
  have between : ∃ more, middle.WellFormed held first (nodes ++ more) ∧
      LinksKept session.world.locators middle.locators := by
    rcases searched with rfl | ⟨settings, result, _, search⟩
    · exact ⟨[], by rwa [List.append_nil], .of_next rfl⟩
    · obtain ⟨more, searched⟩ := getBufferRecursive_searched reserves booted room formed formed.chain.head_mem search
      exact ⟨more, searched.kept⟩
  obtain ⟨more, there, links⟩ := between
  obtain ⟨kept, same⟩ := touched.kept there
  exact ⟨⟨more, kept⟩, links.trans (.of_next same)⟩

/-- A block that has just been initialised, alone in memory. -/
theorem initial_wellFormed {system : σ} (booted : target.Booted) (room : target.LeavesRoom)
    (word : first + target.granularity < target.usize) (inUse : Words.extent first target.granularity ⊆ held system) :
    ∃ nodes, (initial target os first system).world.WellFormed held first nodes := by
  obtain ⟨nodes, laid⟩ := LocatorHeader.initializeHeader_laidOut (os.raw system) (fun _ => none) booted room word
  have member : ∀ node, ((initial target os first system).world.locators node).isSome → node ∈ nodes := by
    intro node present
    by_contra away
    have missing : (initial target os first system).world.locators node = none := laid.frame node away
    rw [missing] at present
    cases present
  refine ⟨nodes, laid.chain, fun node header found => ?_, fun node present => ?_, fun node other here there => ?_⟩
  · obtain ⟨known, reached, fresh⟩ := laid.blank node (member node (by rw [found]; rfl))
    cases reached.symm.trans found
    exact fresh.tidy
  · exact (laid.extent_subset (member node present)).trans inUse
  · exact laid.disjoint (member node here) (member other there)

/-- The chain is well formed after every run. -/
theorem run_kept {depth : Nat} {system : σ} {session : Session σ} {operations : List Operation}
    (reserves : os.Reserves target held) (booted : target.Booted) (room : target.LeavesRoom)
    (word : first + target.granularity < target.usize) (inUse : Words.extent first target.granularity ⊆ held system)
    (run : Transition.Run (step target os fuel depth first) Transition.always (initial target os first system) operations
      session) : ∃ nodes, session.world.WellFormed held first nodes := by
  refine run.invariant (fun session => ∃ nodes, session.world.WellFormed held first nodes) ?_
    (initial_wellFormed booted room word inUse)
  rintro session operation next ⟨nodes, formed⟩ _ taken
  obtain ⟨⟨more, kept⟩, _⟩ := step_kept reserves booted room formed taken
  exact ⟨_, kept⟩

end Session

end Buffers

end ReloadedBuffers
