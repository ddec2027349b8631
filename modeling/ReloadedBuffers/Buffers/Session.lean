import ReloadedBuffers.Buffers
import ReloadedBuffers.Foundation.Arena
import ReloadedBuffers.Foundation.Transition

/-! Clients of the buffers, one whole operation after another, and the arena that
their buffers form: each registered item is a block, its position the cursor.
-/

set_option autoImplicit false

namespace ReloadedBuffers

def LocatorItem.block (item : LocatorItem) : Arena.Block :=
  ⟨item.baseAddress, item.size.toNat, item.position.toNat⟩

theorem LocatorItem.advance_block {item : LocatorItem} {count : Nat}
    (room : item.position.toNat + count ≤ item.size.toNat) :
    (item.advance count).block = item.block.advance count := by
  simp only [block, Arena.Block.advance, advance_position room]
  rfl

namespace Buffers

variable {σ : Type}

/-- A live item, with what is left of the size that its holder asked for. -/
structure Lease where
  pointer : SafeLocatorItem
  budget : Nat
  deriving DecidableEq, Repr

/-- Clients keep their live items under names. -/
structure Session (σ : Type) where
  world : World σ
  records : List (Arena.Record SafeLocatorItem)
  leases : Nat → Option Lease

inductive Operation where
  | getBuffer (handle : Nat) (settings : BufferSearchSettings)
  | getBufferAligned (handle : Nat) (settings : BufferSearchSettings) (alignment : UInt32)
  | append (handle : Nat) (kind : SafeLocatorItem.Append) (data : List UInt8)
  | drop (handle : Nat)

/-- A search that succeeds leaves the client with a live item. -/
def received (leases : Nat → Option Lease) (handle : Nat) (settings : BufferSearchSettings) :
    Except BufferSearchError SafeLocatorItem → Nat → Option Lease
  | .ok pointer => Function.update leases handle (some ⟨pointer, settings.size.toNat⟩)
  | .error _ => leases

namespace Session

def step (target : Target) (os : Os σ) (fuel depth first : Nat) (session : Session σ) :
    Operation → Option (Session σ)
  | .getBuffer handle settings => do
    guard (session.leases handle = none)
    let (result, world) ← Buffers.getBuffer target os fuel depth settings first session.world
    return { session with world := world, leases := received session.leases handle settings result }
  | .getBufferAligned handle settings alignment => do
    guard (session.leases handle = none)
    let (result, world) ←
      Buffers.getBufferAligned target os fuel depth settings alignment first session.world
    return { session with world := world, leases := received session.leases handle settings result }
  | .append handle kind data => do
    let lease ← session.leases handle
    let (address, locators) ← lease.pointer.append target kind data session.world.locators
    return {
      world := { session.world with locators := locators }
      records := ⟨lease.pointer, address, data.length⟩ :: session.records
      leases := Function.update session.leases handle (some { lease with budget := lease.budget - data.length }) }
  | .drop handle => do
    let lease ← session.leases handle
    let locators ← lease.pointer.drop session.world.locators
    return { session with
      world := { session.world with locators := locators }
      leases := Function.update session.leases handle none }

/-- One locator, freshly initialised in a block of the allocation granularity. -/
def initial (target : Target) (os : Os σ) (first : Nat) (system : σ) : Session σ where
  world := ⟨LocatorHeader.initializeHeader target (os.raw system) first target.granularity fun _ => none, system⟩
  records := []
  leases _ := none

end Session

/-- What an operation searches for. -/
def Operation.search : Operation → Option BufferSearchSettings
  | .getBuffer _ settings => some settings
  | .getBufferAligned _ settings alignment =>
    some { settings with size := settings.size + maxMisalignment alignment }
  | .append _ _ _ | .drop _ => none

/-- One item has been written, or none, and all buffers are where they were. -/
inductive Rewritten (before : World σ) : World σ → Prop where
  | same : Rewritten before before
  | item {pointer : SafeLocatorItem} {earlier item : LocatorItem} {locators : Locators} :
      before.locators.item pointer = some earlier → before.locators.setItem pointer item = some locators →
      item.baseAddress = earlier.baseAddress → item.size = earlier.size →
      Rewritten before { before with locators := locators }

/-- One item has been advanced or unlocked, or none. -/
inductive Touched (before : World σ) : World σ → Prop where
  | same : Touched before before
  | advanced {pointer : SafeLocatorItem} {item : LocatorItem} {locators : Locators} (count : Nat) :
      before.locators.item pointer = some item →
      before.locators.setItem pointer (item.advance count) = some locators →
      Touched before { before with locators := locators }
  | unlocked {pointer : SafeLocatorItem} {item : LocatorItem} {locators : Locators} :
      before.locators.item pointer = some item → before.locators.setItem pointer item.unlock = some locators →
      Touched before { before with locators := locators }

theorem Touched.rewritten {before after : World σ} (touched : Touched before after) : Rewritten before after := by
  cases touched with
  | same => exact .same
  | advanced count known written => exact .item known written rfl rfl
  | unlocked known written => exact .item known written rfl rfl

theorem getBufferAligned_touched {target : Target} {os : Os σ} {fuel depth first : Nat} {settings : BufferSearchSettings}
    {alignment : UInt32} {before last : World σ} {result : Except BufferSearchError SafeLocatorItem}
    (run : getBufferAligned target os fuel depth settings alignment first before = some (result, last)) :
    ∃ found middle, getBuffer target os fuel depth
        { settings with size := settings.size + maxMisalignment alignment } first before = some (found, middle) ∧
      Touched middle last ∧ ∀ error, result = .error error → found = .error error ∧ last = middle := by
  obtain ⟨⟨found, middle⟩, searched, aligned⟩ := Option.bind_eq_some_iff.mp run
  refine ⟨found, middle, searched, ?_⟩
  cases found with
  | error error =>
      cases aligned
      exact ⟨.same, fun other failed => ⟨failed, rfl⟩⟩
  | ok pointer =>
      obtain ⟨locators, moved, aligned⟩ := Option.bind_eq_some_iff.mp aligned
      cases aligned
      obtain ⟨item, known, written⟩ := Option.bind_eq_some_iff.mp moved
      exact ⟨.advanced _ known written, by rintro error ⟨⟩⟩

/-- A step makes its search, if any, and then advances or unlocks one item at most. -/
theorem Session.step_touched {target : Target} {os : Os σ} {fuel depth first : Nat} {session next : Session σ}
    {operation : Operation} (run : session.step target os fuel depth first operation = some next) :
    ∃ middle, (middle = session.world ∨ ∃ settings result, operation.search = some settings ∧
        Buffers.getBuffer target os fuel depth settings first session.world = some (result, middle)) ∧
      Touched middle next.world := by
  cases operation with
  | getBuffer handle settings =>
      obtain ⟨_, _, run⟩ := Option.bind_eq_some_iff.mp run
      obtain ⟨⟨result, world⟩, searched, run⟩ := Option.bind_eq_some_iff.mp run
      cases run
      exact ⟨world, .inr ⟨settings, result, rfl, searched⟩, .same⟩
  | getBufferAligned handle settings alignment =>
      obtain ⟨_, _, run⟩ := Option.bind_eq_some_iff.mp run
      obtain ⟨⟨result, world⟩, aligned, run⟩ := Option.bind_eq_some_iff.mp run
      cases run
      obtain ⟨found, middle, searched, touched, _⟩ := getBufferAligned_touched aligned
      exact ⟨middle, .inr ⟨_, found, rfl, searched⟩, touched⟩
  | append handle kind data =>
      obtain ⟨lease, _, run⟩ := Option.bind_eq_some_iff.mp run
      obtain ⟨⟨address, locators⟩, appended, run⟩ := Option.bind_eq_some_iff.mp run
      cases run
      obtain ⟨item, known, appended⟩ := Option.bind_eq_some_iff.mp appended
      obtain ⟨locators, written, appended⟩ := Option.bind_eq_some_iff.mp appended
      cases appended
      -- Of every kind of append, what reaches the locator is an advance of the position.
      have moved : session.world.locators.setItem lease.pointer (item.advance (kind.written target data)) =
          some locators := by
        rw [← (kind.run_eq target item data).2]
        exact written
      exact ⟨session.world, .inl rfl, .advanced _ known moved⟩
  | drop handle =>
      obtain ⟨lease, _, run⟩ := Option.bind_eq_some_iff.mp run
      obtain ⟨locators, dropped, run⟩ := Option.bind_eq_some_iff.mp run
      cases run
      obtain ⟨item, known, written⟩ := Option.bind_eq_some_iff.mp dropped
      exact ⟨session.world, .inl rfl, .unlocked known written⟩

/-- A step makes its search, if any, and then writes one item at most. -/
theorem Session.step_world {target : Target} {os : Os σ} {fuel depth first : Nat} {session next : Session σ}
    {operation : Operation} (run : session.step target os fuel depth first operation = some next) :
    ∃ middle, (middle = session.world ∨ ∃ settings result, operation.search = some settings ∧
        Buffers.getBuffer target os fuel depth settings first session.world = some (result, middle)) ∧
      Rewritten middle next.world := by
  obtain ⟨middle, searched, touched⟩ := step_touched run
  exact ⟨middle, searched, touched.rewritten⟩

/-- The settings hold words, an aligned request does not wrap, and nobody appends
more than was asked for. -/
def Operation.Allowed (target : Target) (session : Session σ) : Operation → Prop
  | .getBuffer _ settings => settings.minAddress < target.usize ∧ settings.maxAddress < target.usize
  | .getBufferAligned _ settings alignment =>
    settings.minAddress < target.usize ∧ settings.maxAddress < target.usize ∧
      settings.size.toNat + (maxMisalignment alignment).toNat < 2 ^ 32
  | .append handle _ data => ∀ lease, session.leases handle = some lease → data.length ≤ lease.budget
  | .drop _ => True

/-- `append_copy` advances by the size of a reference, whatever the size of the value: the
value is no longer than that, and the buffer has so many bytes more than the holder may
still append behind it. -/
def Operation.Spares (target : Target) (session : Session σ) : Operation → Prop
  | .append handle (.copy _) data => ∀ lease item, session.leases handle = some lease →
    session.world.locators.registered lease.pointer = some item → data.length ≤ target.width.bytes ∧
      item.position.toNat + target.width.bytes + (lease.budget - data.length) ≤ item.size.toNat
  | _ => True

/-- What an append advances by covers the data, and leaves room for the rest of the budget. -/
theorem Operation.Spares.room {target : Target} {session : Session σ} {handle : Nat} {kind : SafeLocatorItem.Append}
    {data : List UInt8} {lease : Lease} {item : LocatorItem}
    (spares : (Operation.append handle kind data).Spares target session)
    (live : session.leases handle = some lease) (found : session.world.locators.registered lease.pointer = some item)
    (paid : data.length ≤ lease.budget) (room : item.position.toNat + lease.budget ≤ item.size.toNat) :
    data.length ≤ kind.written target data ∧
      item.position.toNat + kind.written target data + (lease.budget - data.length) ≤ item.size.toNat := by
  cases kind with
  | bytes =>
      refine ⟨Nat.le_refl _, ?_⟩
      simp only [SafeLocatorItem.Append.written]
      omega
  | copy reference => exact spares lease item live found
  | code =>
      refine ⟨Nat.le_refl _, ?_⟩
      simp only [SafeLocatorItem.Append.written]
      omega

/-- Rounding the size that is searched for up to the granularity does not lose any of it. -/
def Operation.Rounded (target : Target) : Operation → Prop
  | .getBuffer _ settings => BufferAllocatorSettings.Rounds settings.size target.granularity
  | .getBufferAligned _ settings alignment =>
    BufferAllocatorSettings.Rounds (settings.size + maxMisalignment alignment) target.granularity
  | .append _ _ _ => True
  | .drop _ => True

end Buffers

/-- The registered items as the blocks of an arena. -/
def World.arena {σ : Type} (world : World σ) (records : List (Arena.Record SafeLocatorItem)) :
    Arena.State SafeLocatorItem where
  blocks pointer := (world.locators.registered pointer).map LocatorItem.block
  records := records

namespace World

variable {σ : Type} {before after : World σ} {held : σ → Set Nat} {pointer : SafeLocatorItem}
  {item earlier : LocatorItem} {records : List (Arena.Record SafeLocatorItem)}

theorem arena_eq_some {block : Arena.Block} : (before.arena records).blocks pointer = some block ↔
    ∃ item, before.locators.registered pointer = some item ∧ item.block = block := by
  simp [arena]

theorem arena_update (before after : World σ) (records : List (Arena.Record SafeLocatorItem)) (item : LocatorItem)
    (stored : after.locators.registered = Function.update before.locators.registered pointer (some item)) :
    after.arena records = (before.arena records).put pointer item.block := by
  simp only [arena, Arena.State.put, stored, Arena.State.mk.injEq, and_true]
  funext other
  rcases eq_or_ne other pointer with rfl | apart
  · simp
  · simp [apart]

/-- Lock words are no part of the arena. -/
theorem arena_update_lock (before after : World σ) (item : LocatorItem)
    (found : before.locators.registered pointer = some earlier) (same : item.block = earlier.block)
    (stored : after.locators.registered = Function.update before.locators.registered pointer (some item)) :
    after.arena records = before.arena records := by
  rw [arena_update before after records item stored, same]
  simp only [arena, Arena.State.put, Arena.State.mk.injEq, and_true]
  funext other
  rcases eq_or_ne other pointer with rfl | apart
  · simp [found]
  · simp [apart]

theorem Quiet.arena (quiet : Quiet held before after) : after.arena records = before.arena records := by
  simp only [World.arena, Arena.State.mk.injEq, and_true]
  funext pointer
  have marked := quiet.marked pointer
  revert marked
  generalize before.locators.registered pointer = one
  generalize after.locators.registered pointer = two
  intro marked
  cases marked with
  | none => rfl
  | some marked =>
      obtain ⟨base, size, position, _⟩ := marked.fields
      simp [LocatorItem.block, base, size, position]

end World

end ReloadedBuffers
