import ReloadedBuffers.Buffers.Preservation
import ReloadedBuffers.Structs.ManagedAppend
import ReloadedBuffers.Structs.ManagedLocator

/-! The C# library in a process of its own. Its sessions are those of the Rust library, but
it searches, registers and extends in its own way, on granularities of any size, and one
of its two appends leaves the position alone.
-/

set_option autoImplicit false

namespace ReloadedBuffers

namespace Buffers

namespace Managed

variable {σ : Type} (target : Target) (os : ManagedOs σ) (fuel : Nat)

/-- `GetBufferRecursive`. A call that visits more than `depth` locators has no result. -/
def getBufferRecursive (settings : BufferSearchSettings) :
    Nat → Nat → World σ → Option (Except ManagedException SafeLocatorItem × World σ)
  | 0, _, _ => none
  | depth + 1, locator, world =>
    match world.locators locator with
    | none => none
    | some header =>
      let (item, header) := LocatorHeader.Managed.getFirstAvailableItemLocked target.usize header settings.size
        settings.minAddress settings.maxAddress
      let world : World σ := { world with locators := world.locators.store locator header }
      match item with
      | some slot => some (.ok ⟨locator, slot⟩, world)
      | none =>
        match LocatorHeader.Managed.tryAllocateItem target os fuel locator settings.size settings.minAddress
          settings.maxAddress world with
        | none => none
        | some (.ok (some item), world) => some (.ok item, world)
        | some (.error exception, world) => some (.error exception, world)
        | some (.ok none, world) =>
          match LocatorHeader.Managed.getNextLocator target os locator world with
          | none => none
          | some (.ok next, world) => getBufferRecursive settings depth next world
          | some (.error exception, world) => some (.error exception, world)

def getBuffer (depth : Nat) (settings : BufferSearchSettings) (first : Nat) (world : World σ) :
    Option (Except ManagedException SafeLocatorItem × World σ) :=
  getBufferRecursive target os fuel settings depth first world

/-- `SafeLocatorItem.Append`, of a span or of a value. -/
def append (kind : LocatorItem.Managed.Append) (pointer : SafeLocatorItem) (data : List UInt8) (locators : Locators) :
    Option (Nat × Locators) := do
  let item ← locators.item pointer
  let (address, item, _) := kind.run target.usize item data
  let locators ← locators.setItem pointer item
  return (address, locators)

/-- A search that succeeds leaves the client with a live item. -/
def received (leases : Nat → Option Lease) (handle : Nat) (settings : BufferSearchSettings) :
    Except ManagedException SafeLocatorItem → Nat → Option Lease
  | .ok pointer => Function.update leases handle (some ⟨pointer, settings.size.toNat⟩)
  | .error _ => leases

end Managed

/-- What the clients of the C# library do; `Dispose` is `drop` under another name. -/
inductive ManagedOperation where
  | getBuffer (handle : Nat) (settings : BufferSearchSettings)
  | append (handle : Nat) (kind : LocatorItem.Managed.Append) (data : List UInt8)
  | dispose (handle : Nat)

namespace Session

variable {σ : Type}

/-- Values are no records: the next append is made to the same place. -/
def managedStep (target : Target) (os : ManagedOs σ) (fuel depth first : Nat) (session : Session σ) :
    ManagedOperation → Option (Session σ)
  | .getBuffer handle settings => do
    guard (session.leases handle = none)
    let (result, world) ← Managed.getBuffer target os fuel depth settings first session.world
    return { session with world := world, leases := Managed.received session.leases handle settings result }
  | .append handle kind data => do
    let lease ← session.leases handle
    let (address, locators) ← Managed.append target kind lease.pointer data session.world.locators
    match kind with
    | .span =>
      return {
        world := { session.world with locators := locators }
        records := ⟨lease.pointer, address, data.length⟩ :: session.records
        leases := Function.update session.leases handle (some { lease with budget := lease.budget - data.length }) }
    | .value => return { session with world := { session.world with locators := locators } }
  | .dispose handle => do
    let lease ← session.leases handle
    let locators ← lease.pointer.drop session.world.locators
    return { session with
      world := { session.world with locators := locators }
      leases := Function.update session.leases handle none }

/-- The first locator, initialised by the C# library in a block of the allocation granularity. -/
def managedInitial (target : Target) (os : ManagedOs σ) (first : Nat) (system : σ) : Session σ where
  world := ⟨LocatorHeader.Managed.initializeHeader target.usize (os.os.raw system) first
    (BufferAllocatorWindows.Managed.getAllocationGranularity target) fun _ => none, system⟩
  records := []
  leases _ := none

end Session

/-- The rules of the clients: words for settings, sizes that survive rounding, and nobody
appends more than was asked for. -/
def ManagedOperation.Allowed {σ : Type} (target : Target) (session : Session σ) : ManagedOperation → Prop
  | .getBuffer _ settings => settings.minAddress < target.usize ∧ settings.maxAddress < target.usize ∧
      BufferAllocatorSettings.Rounds settings.size target.granularity
  | .append handle _ data => ∀ lease, session.leases handle = some lease → data.length ≤ lease.budget
  | .dispose _ => True

/-! ### A locator with its chunks one behind another -/

variable {σ : Type} {target : Target} {held : σ → Set Nat} {before after : World σ} {address : Nat}
  {header : LocatorHeader}

/-- The chunks of a locator in fresh memory are new blocks of the arena. -/
theorem placed_steps {records : List (Arena.Record SafeLocatorItem)} (fresh : before.locators address = none)
    (found : after.locators address = some header)
    (placed : LocatorHeader.Managed.Placed header (address + 4096) (target.granularity - 4096))
    (large : 4096 ≤ target.granularity)
    (kept : ∀ pointer, pointer.locator ≠ address →
      after.locators.registered pointer = before.locators.registered pointer)
    (separate : ∀ pointer item, before.locators.registered pointer = some item →
      Disjoint (Words.extent address target.granularity) (Words.extent item.baseAddress item.size.toNat)) :
    Arena.Steps (before.arena records) (after.arena records) := by
  have count := placed.count
  have whole : after.arena records = (before.arena records).putRange (fun slot => ⟨address, slot⟩)
      (fun slot => (header.items slot).block) (LocatorHeader.chunkCount (target.granularity - 4096)) := by
    apply Arena.State.eq_putRange
    · intro one other same
      cases same
      rfl
    · intro slot inside
      simp [World.arena, Locators.registered, found, count, inside]
    · intro pointer apart
      simp only [World.arena]
      congr 1
      by_cases here : pointer.locator = address
      · obtain ⟨locator, slot⟩ := pointer
        cases here
        have outside : ¬ slot < header.numItems.toNat := fun inside => apart slot (count ▸ inside) rfl
        simp [Locators.registered, found, fresh, outside]
      · exact kept pointer here
    · rfl
  rw [whole]
  apply Arena.Steps.registerRange
  · intro one other same
    cases same
    rfl
  · intro slot inside
    simp [World.arena, Locators.registered, fresh]
  · intro slot inside
    simp only [LocatorItem.block, (placed.bounds inside).2.1]
    exact Nat.zero_le _
  · intro slot inside other block here
    obtain ⟨item, registered, rfl⟩ := World.arena_eq_some.mp here
    obtain ⟨base, _, _, room⟩ := placed.bounds inside
    refine (separate other item registered).mono_left ?_
    simp only [LocatorItem.block, Arena.Block.extent, base]
    exact Words.extent_subset (by omega) (by omega)
  · intro earlier later order inside
    obtain ⟨base, _, _, _⟩ := placed.bounds inside
    obtain ⟨first, _, short, _⟩ := placed.bounds (Nat.lt_trans order inside)
    simp only [LocatorItem.block, Arena.Block.extent, base, first]
    exact (Words.extent_disjoint_of_le (by omega)).symm

theorem Laid.placed (laid : Laid target held before) (found : after.locators address = some header)
    (placed : LocatorHeader.Managed.Placed header (address + 4096) (target.granularity - 4096))
    (large : 4096 ≤ target.granularity) (word : address + target.granularity < target.usize)
    (grows : held before.os ∪ Words.extent address target.granularity ⊆ held after.os)
    (known : ∀ other, other ≠ address → (after.locators.next other).isSome → (before.locators.next other).isSome)
    (kept : ∀ pointer, pointer.locator ≠ address →
      after.locators.registered pointer = before.locators.registered pointer) : Laid target held after := by
  have chunk : ∀ pointer item, pointer.locator = address → after.locators.registered pointer = some item →
      address ≤ item.baseAddress ∧ item.position = 0 ∧
        item.baseAddress + item.size.toNat ≤ address + target.granularity := by
    intro pointer item here registered
    obtain ⟨known, reached, inside, rfl⟩ := Locators.registered_eq_some.mp registered
    rw [here, found] at reached
    cases reached
    rw [placed.count] at inside
    obtain ⟨base, position, _, room⟩ := placed.bounds inside
    exact ⟨by omega, position, by omega⟩
  refine ⟨?_, ?_, ?_⟩
  · intro other there
    rcases eq_or_ne other address with rfl | apart
    · refine grows (.inr ?_)
      rw [Words.mem_extent]
      omega
    · exact grows (.inl (laid.housed other (known other apart there)))
  · intro pointer item registered
    rcases eq_or_ne pointer.locator address with here | apart
    · obtain ⟨_, position, last⟩ := chunk pointer item here registered
      refine ⟨?_, by omega⟩
      rw [position]
      exact UInt32.zero_le
    · rw [kept pointer apart] at registered
      exact laid.sound pointer item registered
  · intro pointer item registered
    rcases eq_or_ne pointer.locator address with here | apart
    · obtain ⟨low, _, last⟩ := chunk pointer item here registered
      exact (Words.extent_subset low last).trans (Set.subset_union_right.trans grows)
    · rw [kept pointer apart] at registered
      exact (laid.inUse pointer item registered).trans (Set.subset_union_left.trans grows)

variable {start : Session σ} {leases : Nat → Option Lease} {os : ManagedOs σ} {fuel locator : Nat}

theorem Progress.join (large : 4096 ≤ target.granularity) (progress : Progress target held start leases before)
    (joined : LocatorHeader.Managed.Joined target held before locator address after) :
    Progress target held start leases after := by
  obtain ⟨header, found, _, placed⟩ := joined.header
  refine ⟨?_, ?_, ?_⟩
  · refine progress.laid.placed found placed large joined.word joined.grows (fun other apart there => ?_) joined.kept
    rcases eq_or_ne other locator with rfl | elsewhere
    · rw [joined.ended]
      rfl
    · rwa [joined.frame other apart elsewhere] at there
  · refine progress.leased.mono fun pointer item registered taken => ⟨item, ?_, taken, rfl, rfl⟩
    rw [joined.kept pointer, registered]
    rintro rfl
    rw [Locators.registered, joined.fresh] at registered
    cases registered
  · refine progress.steps.trans (placed_steps joined.fresh found placed large joined.kept fun pointer item registered => ?_)
    exact joined.separate.mono_right (progress.laid.inUse pointer item registered)

namespace Managed

variable {world last : World σ}

/-- An item that is read and written back. -/
theorem append_value {pointer : SafeLocatorItem} {item : LocatorItem} {data : List UInt8} {address : Nat}
    {locators changed : Locators} (found : locators.registered pointer = some item)
    (run : append target .value pointer data locators = some (address, changed)) :
    changed = locators ∧ address = item.cursor target.usize := by
  obtain ⟨known, read, run⟩ := Option.bind_eq_some_iff.mp run
  cases (Locators.item_of_registered found).symm.trans read
  obtain ⟨written, stored, run⟩ := Option.bind_eq_some_iff.mp run
  cases run
  obtain ⟨header, reached, _, here⟩ := Locators.registered_eq_some.mp found
  refine ⟨?_, rfl⟩
  rw [Locators.setItem, reached, Option.map_some, Option.some.injEq] at stored
  have same : header.setItem pointer.slot item = header := by
    rw [LocatorHeader.setItem, ← here, Function.update_eq_self]
  rw [← stored]
  change locators.store pointer.locator (header.setItem pointer.slot item) = locators
  rw [same, Locators.store_eq_self reached]

/-- What it takes to follow a search of the C# library: a property of the world, kept by
everything that can happen on the way, with what it gives at each of the ends. -/
structure SearchRule (target : Target) (held : σ → Set Nat) (settings : BufferSearchSettings) (Reached : World σ → Prop)
    (Ended : Except ManagedException SafeLocatorItem → World σ → Prop) : Prop where
  laid : ∀ world, Reached world → Laid target held world
  quiet : ∀ before after, Reached before → World.Quiet held before after → Reached after
  join : ∀ before locator address after, Reached before →
    LocatorHeader.Managed.Joined target held before locator address after → Reached after
  taken : ∀ before pointer after, Reached before → World.Taken target settings before pointer after →
    Ended (.ok pointer) after
  registered : ∀ before pointer after, Reached before → World.Registered target held settings before pointer after →
    Ended (.ok pointer) after
  thrown : ∀ world exception, Reached world → Ended (.error exception) world

theorem getBufferRecursive_rule {settings : BufferSearchSettings} {Reached : World σ → Prop}
    {Ended : Except ManagedException SafeLocatorItem → World σ → Prop} (sound : os.Sound target held)
    (booted : target.Booted) (fits : target.granularity ≤ 4096 + target.width.maxItemCount * 16384)
    (minimum : settings.minAddress < target.usize) (maximum : settings.maxAddress < target.usize)
    (rule : SearchRule target held settings Reached Ended) {depth : Nat} {result : Except ManagedException SafeLocatorItem}
    (run : getBufferRecursive target os fuel settings depth locator world = some (result, last))
    (start : Reached world) : Ended result last := by
  induction depth generalizing locator world with
  | zero => cases run
  | succ depth ih =>
      have laid := rule.laid world start
      simp only [getBufferRecursive] at run
      split at run
      · cases run
      · rename_i header found
        have words : ∀ pointer item, world.locators.registered pointer = some item → item.baseAddress < target.usize :=
          fun pointer item registered => by
            have bound := (laid.sound pointer item registered).end_lt
            omega
        split at run
        · rename_i slot scan
          cases run
          rcases LocatorHeader.Managed.getFirstAvailableItemLocked_cases words found (Prod.ext scan rfl) with
            ⟨wrong, _⟩ | ⟨place, same, taken⟩
          · cases wrong
          · cases same
            exact rule.taken _ _ _ start taken
        · rename_i scan
          -- A scan that finds nothing changes nothing.
          have still : (LocatorHeader.Managed.getFirstAvailableItemLocked target.usize header settings.size
              settings.minAddress settings.maxAddress).2 = header := by
            rcases LocatorHeader.Managed.getFirstAvailableItemLocked_cases words found (Prod.ext scan rfl) with
              ⟨_, same⟩ | ⟨_, wrong, _⟩
            · exact same
            · cases wrong
          rw [still, Locators.store_eq_self found] at run
          split at run
          · cases run
          · rename_i pointer middle tried
            cases run
            rcases LocatorHeader.Managed.tryAllocateItem_cases tried with
              ⟨_, item, same, rfl, answer, pushed⟩ | ⟨wrong, _⟩ | ⟨_, wrong, _⟩
            · cases same
              have obtained := BufferAllocator.Managed.allocate_outcome sound booted minimum maximum answer
              exact rule.registered _ _ _ start (pushed.registered obtained)
            · cases wrong
            · cases wrong
          · rename_i exception middle tried
            cases run
            rcases LocatorHeader.Managed.tryAllocateItem_cases tried with
              ⟨_, _, wrong, _⟩ | ⟨wrong, _⟩ | ⟨_, _, same, answer⟩
            · cases wrong
            · cases wrong
            · have kept := BufferAllocator.Managed.allocate_outcome sound booted minimum maximum answer
              exact rule.thrown _ _ (rule.quiet _ _ start (.of_locators same kept))
          · rename_i middle tried
            rcases LocatorHeader.Managed.tryAllocateItem_cases tried with
              ⟨_, _, wrong, _⟩ | ⟨_, rfl⟩ | ⟨_, wrong, _⟩
            · cases wrong
            · split at run
              · cases run
              · rename_i next after grown
                rcases LocatorHeader.Managed.getNextLocator_cases sound booted fits laid.housed grown with
                  ⟨_, _, _, rfl⟩ | ⟨_, _, joined⟩ | ⟨_, wrong, _⟩
                · exact ih run start
                · exact ih run (rule.join _ _ _ _ start joined)
                · cases wrong
              · rename_i exception after thrown
                cases run
                rcases LocatorHeader.Managed.getNextLocator_cases sound booted fits laid.housed thrown with
                  ⟨_, wrong, _⟩ | ⟨_, wrong, _⟩ | ⟨_, _, quiet⟩
                · cases wrong
                · cases wrong
                · exact rule.thrown _ _ (rule.quiet _ _ start quiet)
            · cases wrong

/-- A search of the C# library leaves the arena where it was or further on. -/
theorem getBufferRecursive_progress (handle : Nat) (settings : BufferSearchSettings) (sound : os.Sound target held)
    (booted : target.Booted)
    (fits : target.granularity ≤ 4096 + target.width.maxItemCount * 16384)
    (minimum : settings.minAddress < target.usize) (maximum : settings.maxAddress < target.usize)
    (rounds : BufferAllocatorSettings.Rounds settings.size target.granularity) {depth : Nat}
    {result : Except ManagedException SafeLocatorItem}
    (run : getBufferRecursive target os fuel settings depth locator world = some (result, last))
    (progress : Progress target held start leases world) :
    Progress target held start (received leases handle settings result) last := by
  have rule : SearchRule target held settings (Progress target held start leases)
      fun result => Progress target held start (received leases handle settings result) := by
    constructor
    · exact fun _ progress => progress.laid
    · exact fun _ _ progress quiet => progress.quiet quiet
    · exact fun _ _ _ _ progress joined => progress.join booted.large joined
    · exact fun _ _ _ progress taken => progress.taken taken
    · exact fun _ _ _ progress registered => progress.registered rounds booted registered
    · exact fun _ _ progress => progress
  exact getBufferRecursive_rule sound booted fits minimum maximum rule run progress

end Managed

namespace Session

variable {depth first : Nat} {session next : Session σ}

/-- A value is written behind everything, and leaves the item as it was. -/
theorem value_forward {handle : Nat} {data : List UInt8} (sound : session.Sound target held)
    (run : session.managedStep target os fuel depth first (.append handle .value data) = some next) :
    Forward target held session next := by
  obtain ⟨lease, live, run⟩ := Option.bind_eq_some_iff.mp run
  obtain ⟨⟨address, locators⟩, appended, run⟩ := Option.bind_eq_some_iff.mp run
  cases run
  obtain ⟨item, found, taken, room⟩ := sound.leased.room handle lease live
  obtain ⟨same, stored⟩ := Managed.append_value found appended
  rw [same]
  exact ⟨sound.laid, sound.leased, .refl⟩

theorem managedStep_forward (managed : os.Sound target held) (booted : target.Booted)
    (fits : target.granularity ≤ 4096 + target.width.maxItemCount * 16384)
    (sound : session.Sound target held) {operation : ManagedOperation} (allowed : operation.Allowed target session)
    (run : session.managedStep target os fuel depth first operation = some next) :
    Forward target held session next := by
  cases operation with
  | getBuffer handle settings =>
      obtain ⟨minimum, maximum, rounds⟩ := allowed
      obtain ⟨_, _, run⟩ := Option.bind_eq_some_iff.mp run
      obtain ⟨⟨result, world⟩, found, run⟩ := Option.bind_eq_some_iff.mp run
      cases run
      have progress := Managed.getBufferRecursive_progress handle settings managed booted fits minimum maximum
        rounds found ⟨sound.laid, sound.leased, .refl⟩
      exact ⟨progress.laid, progress.leased, progress.steps⟩
  | append handle kind data =>
      cases kind with
      -- A span is appended as the bytes are in Rust.
      | span => exact @append_forward _ _ _ os.os fuel depth first handle .bytes data _ _ sound allowed trivial run
      | value => exact value_forward sound run
  | dispose handle => exact @drop_forward _ _ _ os.os fuel depth first handle _ _ sound run

theorem managedInitial_sound {system : σ} (booted : target.Booted)
    (fits : target.granularity ≤ 4096 + target.width.maxItemCount * 16384)
    (word : first + target.granularity < target.usize)
    (inUse : Words.extent first target.granularity ⊆ held system) :
    (managedInitial target os first system).Sound target held := by
  obtain ⟨header, stored, _, placed⟩ := LocatorHeader.Managed.initializeHeader_placed (os.os.raw system) (fun _ => none)
    booted.large fits word
  have large : 4096 ≤ target.granularity := booted.large
  have found : (managedInitial target os first system).world.locators first = some header := by
    simp only [managedInitial, BufferAllocatorWindows.Managed.getAllocationGranularity, stored, Locators.store_self]
  have elsewhere : ∀ other, other ≠ first → (managedInitial target os first system).world.locators other = none := by
    intro other apart
    simp only [managedInitial, BufferAllocatorWindows.Managed.getAllocationGranularity, stored,
      Locators.store_of_ne apart]
  have kept : ∀ pointer : SafeLocatorItem, pointer.locator ≠ first →
      (managedInitial target os first system).world.locators.registered pointer = none := by
    intro pointer apart
    rw [Locators.registered, elsewhere _ apart]
    rfl
  -- Before it there was nothing.
  have empty : Laid target held (⟨fun _ => none, system⟩ : World σ) :=
    ⟨fun _ there => (by cases there), fun _ _ there => (by cases there), fun _ _ there => (by cases there)⟩
  refine ⟨?_, ⟨fun _ _ live => (by cases live), fun _ _ _ _ live => (by cases live)⟩, ?_⟩
  · refine empty.placed found placed large word (Set.union_subset subset_rfl inUse) (fun other apart there => ?_) kept
    rw [Locators.next_isSome, elsewhere other apart] at there
    cases there
  · have steps := @placed_steps _ target ⟨fun _ => none, system⟩ _ _ _ [] rfl found placed large kept
      fun _ _ there => by cases there
    exact Arena.Steps.valid steps ⟨fun _ _ there => (by cases there), fun _ _ _ _ there => (by cases there),
      fun _ member => (by cases member), List.Pairwise.nil⟩

/-- A value that fits what its holder asked for is written into its buffer, and where no range
that was appended lies. -/
def ValuesApart (target : Target) (session : Session σ) : Prop :=
  ∀ handle lease item (data : List UInt8), session.leases handle = some lease →
    session.world.locators.registered lease.pointer = some item → data.length ≤ lease.budget →
    Words.extent (LocatorItem.Managed.appendValue target.usize item data).1 data.length ⊆
        Words.extent item.baseAddress item.size.toNat ∧
      ∀ record ∈ session.records,
        Disjoint (Words.extent (LocatorItem.Managed.appendValue target.usize item data).1 data.length) record.extent

theorem Sound.valuesApart (sound : session.Sound target held) : session.ValuesApart target := by
  intro handle lease item data live found paid
  obtain ⟨known, here, _, room⟩ := sound.leased.room handle lease live
  cases here.symm.trans found
  have cursor : (LocatorItem.Managed.appendValue target.usize item data).1 = item.block.base + item.block.used :=
    (sound.laid.sound _ _ found).cursor_eq
  have block : session.arena.blocks lease.pointer = some item.block := World.arena_eq_some.mpr ⟨item, found, rfl⟩
  have enough : item.block.used + data.length ≤ item.block.size := by
    simp only [LocatorItem.block]
    omega
  rw [cursor]
  refine ⟨Words.extent_subset (Nat.le_add_right _ _) ?_, fun record member => ?_⟩
  · simp only [LocatorItem.block] at enough ⊢
    omega
  · exact sound.valid.cursor_apart block enough member

/-- The C# library never moves or overwrites what was appended as a span: over every run of
its operations such ranges stay apart and in their buffers, values are written apart from
them, and buffers stay where they are. -/
theorem managed_untouched {system : σ} {middle last : Session σ} {operations more : List ManagedOperation}
    (managed : os.Sound target held) (booted : target.Booted)
    (fits : target.granularity ≤ 4096 + target.width.maxItemCount * 16384)
    (word : first + target.granularity < target.usize) (inUse : Words.extent first target.granularity ⊆ held system)
    (run : Transition.Run (managedStep target os fuel depth first)
      (fun session operation => operation.Allowed target session) (managedInitial target os first system) operations
      middle)
    (rest : Transition.Run (managedStep target os fuel depth first)
      (fun session operation => operation.Allowed target session) middle more last) :
    Untouched middle last ∧ last.ValuesApart target := by
  have forward : ∀ session operation next, session.Sound target held → operation.Allowed target session →
      managedStep target os fuel depth first session operation = some next → Forward target held session next :=
    fun _ _ _ sound allowed taken => managedStep_forward managed booted fits sound allowed taken
  have preserved : ∀ session operation next, session.Sound target held → operation.Allowed target session →
      managedStep target os fuel depth first session operation = some next → next.Sound target held :=
    fun session operation next sound allowed taken => (forward session operation next sound allowed taken).sound sound
  have reached := run.invariant (Session.Sound target held) preserved (managedInitial_sound booted fits word inUse)
  have extended := rest.monotone (Session.Sound target held)
    (fun earlier later => Arena.Extends earlier.arena later.arena) (fun _ => .refl _)
    (fun _ _ _ left right => left.trans right) preserved
    (fun session operation next sound allowed taken => (forward session operation next sound allowed taken).steps.extends)
    reached
  have sound := rest.invariant (Session.Sound target held) preserved reached
  exact ⟨sound.untouched extended, sound.valuesApart⟩

/-- A span, and a value that the next span is written over. -/
theorem managed_untouched_value : ∃ middle last : Session Nat,
    (last.records.map (·.address)) = [0x7FFFFFFFD002, 0x7FFFFFFFD000] ∧ Untouched middle last ∧
      last.ValuesApart smallTarget := by
  have steps : ∃ one middle three last : Session Nat,
      (managedInitial smallTarget (.upwards smallTarget.usize emptyHeader) 0x10000 0x11000).managedStep
        smallTarget (.upwards smallTarget.usize emptyHeader) 0 1 0x10000 (.getBuffer 0 ⟨0x20000, 0x7FFFFFFFFFFF, 5000⟩) =
          some one ∧
      one.managedStep smallTarget (.upwards smallTarget.usize emptyHeader) 0 1 0x10000 (.append 0 .span [0x90, 0xC3]) =
          some middle ∧
      middle.managedStep smallTarget (.upwards smallTarget.usize emptyHeader) 0 1 0x10000 (.append 0 .value [7]) =
          some three ∧
      three.managedStep smallTarget (.upwards smallTarget.usize emptyHeader) 0 1 0x10000 (.append 0 .span [1]) =
          some last ∧
      one.leases 0 = some ⟨⟨0x10000, 0⟩, 5000⟩ ∧ middle.leases 0 = some ⟨⟨0x10000, 0⟩, 4998⟩ ∧
      three.leases 0 = some ⟨⟨0x10000, 0⟩, 4998⟩ ∧ last.records.map (·.address) = [0x7FFFFFFFD002, 0x7FFFFFFFD000] :=
    ⟨_, _, _, _, rfl, rfl, rfl, rfl, rfl, rfl, rfl, rfl⟩
  obtain ⟨one, middle, three, last, searched, first, written, second, lease, left, same, places⟩ := steps
  refine ⟨middle, last, places, ?_⟩
  have asked : (ManagedOperation.getBuffer 0 ⟨0x20000, 0x7FFFFFFFFFFF, 5000⟩).Allowed smallTarget
      (managedInitial smallTarget (ManagedOs.upwards smallTarget.usize emptyHeader) 0x10000 0x11000) :=
    ⟨by decide, by decide, .inl (by decide)⟩
  have paid : (ManagedOperation.append 0 .span [0x90, 0xC3]).Allowed smallTarget one := by
    intro known live
    cases lease.symm.trans live
    decide
  have valued : (ManagedOperation.append 0 .value [7]).Allowed smallTarget middle := by
    intro known live
    cases left.symm.trans live
    decide
  have again : (ManagedOperation.append 0 .span [1]).Allowed smallTarget three := by
    intro known live
    cases same.symm.trans live
    decide
  exact managed_untouched (ManagedOs.upwards_sound emptyHeader rfl) smallTarget_booted (by decide) (by decide)
    (fun byte inside => inside.2) (.cons asked searched (.single paid first))
    (.cons valued written (.single again second))

end Session

end Buffers

end ReloadedBuffers
