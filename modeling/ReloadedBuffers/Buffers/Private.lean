import ReloadedBuffers.Buffers.Locks
import ReloadedBuffers.Foundation.Ledger
import ReloadedBuffers.Structs.PrivateAllocation

/-! Private allocations beside the buffers. Both come from the same allocator, and a
private allocation is given back when it is dropped, whatever has been registered since.
-/

set_option autoImplicit false

namespace ReloadedBuffers

def PrivateAllocation.dropMacos {σ : Type} (target : Target) (calls : MachCalls σ) (allocation : PrivateAllocation)
    (world : σ) : σ :=
  if allocation.thisProcessId = target.sysInfo.thisProcessId then
    calls.machVmDeallocate allocation.baseAddress allocation.size world
  else
    -- Not implemented for another process.
    world

/-- The part for other processes stands behind a feature that the package does not have. -/
def PrivateAllocation.dropWindows {σ : Type} (calls : WindowsCalls σ) (allocation : PrivateAllocation) (world : σ) : σ :=
  calls.virtualFree allocation.baseAddress 0 world

def PrivateAllocation.drop {σ : Type} (target : Target) (os : Os σ) (allocation : PrivateAllocation) (world : σ) : σ :=
  match target.os with
  | .windows => allocation.dropWindows os.windows world
  | .linux => allocation.dropUnix target os.linux world
  | .macos => allocation.dropMacos target os.macos world

def PrivateAllocation.extent (allocation : PrivateAllocation) : Set Nat :=
  Words.extent allocation.baseAddress allocation.size

namespace Buffers

variable {σ : Type} {target : Target} {held : σ → Set Nat} {before after : World σ} {bytes : Set Nat}

/-- The bytes are in use, and neither a locator nor a buffer has a part in them. -/
structure Beside (held : σ → Set Nat) (bytes : Set Nat) (world : World σ) : Prop where
  inUse : bytes ⊆ held world.os
  locators : ∀ locator, (world.locators.next locator).isSome → locator ∉ bytes
  items : ∀ pointer item, world.locators.registered pointer = some item →
    Disjoint (Words.extent item.baseAddress item.size.toNat) bytes

namespace Beside

theorem quiet (beside : Beside held bytes before) (quiet : World.Quiet held before after) : Beside held bytes after where
  inUse := beside.inUse.trans quiet.held_le
  locators locator found := by
    rw [quiet.next] at found
    exact beside.locators locator found
  items pointer item found := by
    obtain ⟨earlier, known, marked⟩ := quiet.registered found
    obtain ⟨base, size, _, _⟩ := marked.fields
    rw [base, size]
    exact beside.items pointer earlier known

/-- What was not in use before is no part of it. -/
theorem apart {fresh : Set Nat} (beside : Beside held bytes before) (separate : Disjoint fresh (held before.os)) :
    Disjoint fresh bytes := separate.mono_right beside.inUse

theorem link {locator address : Nat} (beside : Beside held bytes before)
    (linked : World.Linked target held before locator address after) : Beside held bytes after := by
  have apart := beside.apart linked.separate
  constructor
  · exact beside.inUse.trans (Set.subset_union_left.trans linked.grows)
  · intro other found inside
    obtain ⟨nodes, _, fresh, frame⟩ := linked.nodes
    by_cases new : other ∈ nodes
    · exact Set.disjoint_left.mp apart (fresh other new) inside
    · by_cases here : other = locator
      · refine beside.locators other ?_ inside
        rw [here, linked.ended]
        rfl
      · rw [frame other new here] at found
        exact beside.locators other found inside
  · intro pointer item found
    by_cases inside : pointer.locator ∈ Words.extent address target.granularity
    · obtain ⟨_, _, size, rfl, fits⟩ := linked.fresh pointer item inside found
      refine apart.mono_left ?_
      exact Words.extent_subset (Nat.le_add_right _ _) (by simp only [LocatorItem.new]; omega)
    · rw [linked.kept pointer inside] at found
      exact beside.items pointer item found

theorem join {locator address : Nat} (large : 4096 ≤ target.granularity) (beside : Beside held bytes before)
    (joined : LocatorHeader.Managed.Joined target held before locator address after) : Beside held bytes after := by
  have apart := beside.apart joined.separate
  obtain ⟨header, stored, _, placed⟩ := joined.header
  constructor
  · exact beside.inUse.trans (Set.subset_union_left.trans joined.grows)
  · intro other found inside
    by_cases new : other = address
    · refine Set.disjoint_left.mp apart ?_ inside
      rw [new, Words.mem_extent]
      omega
    · by_cases here : other = locator
      · refine beside.locators other ?_ inside
        rw [here, joined.ended]
        rfl
      · rw [joined.frame other new here] at found
        exact beside.locators other found inside
  · intro pointer item found
    by_cases new : pointer.locator = address
    · obtain ⟨known, reached, counted, rfl⟩ := Locators.registered_eq_some.mp found
      rw [new, stored] at reached
      cases reached
      rw [placed.count] at counted
      obtain ⟨base, _, _, room⟩ := placed.bounds counted
      refine apart.mono_left ?_
      exact Words.extent_subset (by omega) (by omega)
    · rw [joined.kept pointer new] at found
      exact beside.items pointer item found

/-- The item at a pointer has been written. -/
theorem update {pointer : SafeLocatorItem} {item : LocatorItem} (beside : Beside held bytes before)
    (more : held before.os ⊆ held after.os) (next : after.locators.next = before.locators.next)
    (stored : after.locators.registered = Function.update before.locators.registered pointer (some item))
    (apart : Disjoint (Words.extent item.baseAddress item.size.toNat) bytes) : Beside held bytes after where
  inUse := beside.inUse.trans more
  locators locator found := by
    rw [next] at found
    exact beside.locators locator found
  items other known found := by
    by_cases same : other = pointer
    · rw [stored, same, Function.update_self] at found
      cases found
      exact apart
    · rw [stored, Function.update_of_ne same] at found
      exact beside.items other known found

theorem taken {settings : BufferSearchSettings} {pointer : SafeLocatorItem} (beside : Beside held bytes before)
    (taken : World.Taken target settings before pointer after) : Beside held bytes after := by
  obtain ⟨item, found, _, _, stored⟩ := taken.item
  exact beside.update (taken.os ▸ subset_rfl) taken.next stored (beside.items pointer item found)

theorem registered {settings : BufferSearchSettings} {pointer : SafeLocatorItem} (beside : Beside held bytes before)
    (registered : World.Registered target held settings before pointer after) : Beside held bytes after := by
  obtain ⟨item, obtained, _, stored⟩ := registered.item
  have size : item.size = ((itemRequest target settings).sanitize target).size :=
    congrArg LocatorItem.size obtained.fresh
  have separate := obtained.separate
  rw [← size] at separate
  exact beside.update (Set.subset_union_left.trans obtained.grows) registered.next stored (beside.apart separate)

/-- Memory that has just been obtained, with the locators as they were. -/
theorem fresh {system : σ} (laid : Laid target held before) (separate : Disjoint bytes (held before.os))
    (grows : held before.os ∪ bytes ⊆ held system) : Beside held bytes { before with os := system } where
  inUse := Set.subset_union_right.trans grows
  locators locator found inside := Set.disjoint_left.mp separate inside (laid.housed locator found)
  items pointer item found := (separate.mono_right (laid.inUse pointer item found)).symm

theorem rule (large : 4096 ≤ target.granularity) : SessionRule target held fun _ => Beside held bytes where
  quiet _ _ _ beside quiet := beside.quiet quiet
  link _ _ _ _ _ beside linked := beside.link linked
  join _ _ _ _ _ beside joined := beside.join large joined
  taken _ _ _ _ _ _ _ _ beside taken := beside.taken taken
  registered _ _ _ _ _ _ _ _ beside registered := beside.registered registered
  advanced _ _ _ _ _ item _ _ _ beside found written :=
    beside.update (written.os ▸ subset_rfl) written.next written.stored (beside.items _ item found)
  dropped _ _ _ _ item _ _ beside found written :=
    beside.update (written.os ▸ subset_rfl) written.next written.stored (beside.items _ item found)

/-- Other memory has been given back. -/
theorem released {other : Set Nat} {system : σ} (beside : Beside held bytes before) (apart : Disjoint bytes other)
    (kept : held before.os \ other ⊆ held system) : Beside held bytes { before with os := system } where
  inUse _ inside := kept ⟨beside.inUse inside, Set.disjoint_left.mp apart inside⟩
  locators := beside.locators
  items := beside.items

end Beside

/-- Private memory has been given back, in which no buffer has a part. -/
theorem Laid.released {system : σ} (laid : Laid target held before) (beside : Beside held bytes before)
    (kept : held before.os \ bytes ⊆ held system) : Laid target held { before with os := system } where
  housed locator found := kept ⟨laid.housed locator found, beside.locators locator found⟩
  sound := laid.sound
  inUse pointer item found := by
    intro byte inside
    exact kept ⟨laid.inUse pointer item found inside, Set.disjoint_left.mp (beside.items pointer item found) inside⟩

/-- Private allocations lie beside the buffers and apart from each other. -/
structure Privates (held : σ → Set Nat) (allocations : Nat → Option PrivateAllocation) (world : World σ) : Prop where
  beside : ∀ name allocation, allocations name = some allocation → Beside held allocation.extent world
  apart : ∀ name other one two, name ≠ other → allocations name = some one → allocations other = some two →
    Disjoint one.extent two.extent

namespace Privates

variable {allocations : Nat → Option PrivateAllocation} {name : Nat} {allocation : PrivateAllocation} {system : σ}

theorem quiet (privates : Privates held allocations before) (quiet : World.Quiet held before after) :
    Privates held allocations after :=
  ⟨fun name allocation known => (privates.beside name allocation known).quiet quiet, privates.apart⟩

/-- A new allocation in memory that was not in use. -/
theorem insert (privates : Privates held allocations before) (laid : Laid target held before)
    (separate : Disjoint allocation.extent (held before.os)) (grows : held before.os ∪ allocation.extent ⊆ held system) :
    Privates held (Function.update allocations name (some allocation)) { before with os := system } := by
  have quiet : World.Quiet held before { before with os := system } :=
    .of_locators rfl (Set.subset_union_left.trans grows)
  have fresh : ∀ other one, allocations other = some one → Disjoint allocation.extent one.extent :=
    fun other one known => separate.mono_right (privates.beside other one known).inUse
  constructor
  · intro other one known
    rcases Ledger.update_eq_some.mp known with ⟨_, new⟩ | ⟨_, old⟩
    · cases new
      exact Beside.fresh laid separate grows
    · exact (privates.beside other one old).quiet quiet
  · intro left right one two different here there
    rcases Ledger.update_eq_some.mp here with ⟨rfl, new⟩ | ⟨_, first⟩
    · cases new
      obtain ⟨_, second⟩ := (Ledger.update_eq_some.mp there).resolve_left fun same => different same.1.symm
      exact fresh right two second
    · rcases Ledger.update_eq_some.mp there with ⟨_, new⟩ | ⟨_, second⟩
      · cases new
        exact (fresh left one first).symm
      · exact privates.apart left right one two different first second

/-- An allocation is forgotten, and at most its own memory is given back. -/
theorem erase (privates : Privates held allocations before) (known : allocations name = some allocation)
    (kept : held before.os \ allocation.extent ⊆ held system) :
    Privates held (Function.update allocations name none) { before with os := system } := by
  constructor
  · intro other one found
    obtain ⟨different, here⟩ := (Ledger.update_eq_some.mp found).resolve_left (by simp)
    exact (privates.beside other one here).released (privates.apart other name one allocation different here known) kept
  · intro left right one two different here there
    obtain ⟨_, first⟩ := (Ledger.update_eq_some.mp here).resolve_left (by simp)
    obtain ⟨_, second⟩ := (Ledger.update_eq_some.mp there).resolve_left (by simp)
    exact privates.apart left right one two different first second

end Privates

/-- A session of the Rust library, with the private allocations that clients keep under names. -/
structure ApiSession (σ : Type) where
  session : Session σ
  allocations : Nat → Option PrivateAllocation

inductive ApiOperation where
  | buffers (operation : Operation)
  | allocatePrivateMemory (name : Nat) (settings : BufferAllocatorSettings)
  | dropAllocation (name : Nat)

def Session.setSystem (session : Session σ) (system : σ) : Session σ :=
  { session with world := { session.world with os := system } }

namespace ApiSession

def step (target : Target) (os : Os σ) (fuel depth first : Nat) (state : ApiSession σ) :
    ApiOperation → Option (ApiSession σ)
  | .buffers operation => do
    let session ← state.session.step target os fuel depth first operation
    return { state with session := session }
  | .allocatePrivateMemory name settings => do
    guard (state.allocations name = none)
    let (result, system) ← Buffers.allocatePrivateMemory target os fuel settings state.session.world.os
    match result with
    | .error _ => return { state with session := state.session.setSystem system }
    | .ok allocation =>
      return ⟨state.session.setSystem system, Function.update state.allocations name (some allocation)⟩
  | .dropAllocation name => do
    let allocation ← state.allocations name
    let system := allocation.drop target os state.session.world.os
    return ⟨state.session.setSystem system, Function.update state.allocations name none⟩

end ApiSession

/-- The rules of the clients: those for buffers, and settings that hold words. -/
def ApiOperation.Allowed (target : Target) (state : ApiSession σ) : ApiOperation → Prop
  | .buffers operation => Session.Permits target state.session operation
  | .allocatePrivateMemory _ settings => settings.minAddress < target.usize ∧ settings.maxAddress < target.usize
  | .dropAllocation _ => True

theorem allocatePrivateMemory_error {os : Os σ} {fuel : Nat} {settings : BufferAllocatorSettings} {system last : σ}
    {error : BufferAllocationError}
    (run : allocatePrivateMemory target os fuel settings system = some (.error error, last)) :
    allocate target os fuel settings system = some (.error error, last) := by
  unfold allocatePrivateMemory at run
  split at run
  · cases run
  · rename_i failed
    cases run
    exact failed
  · split at run
    · cases run
    · cases run

/-- What is dropped gives back its own memory at most, and nothing in another process. On
Windows the size zero stands for all that was reserved there, of which no other call speaks. -/
theorem drop_keeps {os : Os σ} (sound : os.Sound target held) (sized : target.os ≠ .windows)
    (allocation : PrivateAllocation) (system : σ) :
    held system \ allocation.extent ⊆ held (allocation.drop target os system) := by
  have platform := sound.platform
  cases system_ : target.os with
  | windows => exact absurd system_ sized
  | linux =>
      simp only [system_] at platform
      simp only [PrivateAllocation.drop, system_, PrivateAllocation.dropUnix]
      split
      · exact platform.maps.released _ _ _
      · exact Set.sdiff_subset
  | macos =>
      simp only [system_] at platform
      simp only [PrivateAllocation.drop, system_, PrivateAllocation.dropMacos]
      split
      · exact platform.released _ _ _
      · exact Set.sdiff_subset

namespace ApiSession

/-- The invariant. -/
structure Sound (target : Target) (held : σ → Set Nat) (state : ApiSession σ) : Prop where
  session : state.session.Sound target held
  accounted : Accounted state.session.leases state.session.world
  privates : Privates held state.allocations state.session.world

/-- A step keeps the invariant, and takes the arena of the buffers forward. -/
structure Forward (target : Target) (held : σ → Set Nat) (before after : ApiSession σ) : Prop where
  sound : after.Sound target held
  extends_ : Arena.Extends before.session.arena after.session.arena

variable {os : Os σ} {fuel depth first : Nat} {state next : ApiSession σ}

/-- The buffers do not notice what the system does with other memory. -/
theorem setSystem_forward {system : σ} {allocations : Nat → Option PrivateAllocation} (sound : state.Sound target held)
    (laid : Laid target held { state.session.world with os := system })
    (privates : Privates held allocations { state.session.world with os := system }) :
    Forward target held state ⟨state.session.setSystem system, allocations⟩ where
  sound :=
    ⟨⟨laid, ⟨sound.session.leased.room, sound.session.leased.distinct⟩, sound.session.valid⟩, sound.accounted, privates⟩
  extends_ := .refl _

/-- Whatever the buffers have done, they have kept clear of private memory. -/
theorem buffers_forward {session : Session σ} (sound : state.Sound target held)
    (forward : Session.Forward target held state.session session) (accounted : Accounted session.leases session.world)
    (kept : ∀ bytes, Beside held bytes state.session.world → Beside held bytes session.world) :
    Forward target held state { state with session := session } where
  sound :=
    ⟨forward.sound sound.session, accounted,
      ⟨fun name allocation known => kept _ (sound.privates.beside name allocation known), sound.privates.apart⟩⟩
  extends_ := forward.steps.extends

theorem allocatePrivateMemory_forward {name : Nat} {settings : BufferAllocatorSettings} (contract : os.Sound target held)
    (booted : target.Booted) (wide : target.width = .bits64) (sound : state.Sound target held)
    (minimum : settings.minAddress < target.usize) (maximum : settings.maxAddress < target.usize)
    (run : state.step target os fuel depth first (.allocatePrivateMemory name settings) = some next) :
    Forward target held state next := by
  obtain ⟨_, _, run⟩ := Option.bind_eq_some_iff.mp run
  obtain ⟨⟨result, system⟩, allocated, run⟩ := Option.bind_eq_some_iff.mp run
  cases result with
  | error error =>
      cases run
      have kept : held state.session.world.os ⊆ held system :=
        allocate_outcome contract booted (.inl wide) minimum maximum (allocatePrivateMemory_error allocated)
      have quiet : World.Quiet held state.session.world { state.session.world with os := system } :=
        .of_locators rfl kept
      exact setSystem_forward sound (sound.session.laid.quiet quiet) (sound.privates.quiet quiet)
  | ok allocation =>
      cases run
      obtain ⟨item, answer, rfl⟩ := allocatePrivateMemory_ok allocated
      have obtained : Obtained target.usize (settings.sanitize target) (held state.session.world.os) (held system) item :=
        allocate_outcome contract booted (.inl wide) minimum maximum answer
      have size : item.size = (settings.sanitize target).size := congrArg LocatorItem.size obtained.fresh
      have separate := obtained.separate
      have grows := obtained.grows
      rw [← size] at separate grows
      have quiet : World.Quiet held state.session.world { state.session.world with os := system } :=
        .of_locators rfl (Set.subset_union_left.trans grows)
      exact setSystem_forward sound (sound.session.laid.quiet quiet)
        (sound.privates.insert sound.session.laid separate grows)

theorem dropAllocation_forward {name : Nat} (contract : os.Sound target held) (sized : target.os ≠ .windows)
    (sound : state.Sound target held) (run : state.step target os fuel depth first (.dropAllocation name) = some next) :
    Forward target held state next := by
  obtain ⟨allocation, known, run⟩ := Option.bind_eq_some_iff.mp run
  cases run
  have kept := drop_keeps contract sized allocation state.session.world.os
  exact setSystem_forward sound (sound.session.laid.released (sound.privates.beside name allocation known) kept)
    (sound.privates.erase known kept)

theorem step_forward (contract : os.Sound target held) (booted : target.Booted) (wide : target.width = .bits64)
    (sized : target.os ≠ .windows) (small : target.granularity ≤ singleChunk) (sound : state.Sound target held)
    {operation : ApiOperation} (allowed : operation.Allowed target state)
    (run : state.step target os fuel depth first operation = some next) : Forward target held state next := by
  cases operation with
  | buffers operation =>
      obtain ⟨permitted, spares, rounds⟩ := allowed
      obtain ⟨session, taken, run⟩ := Option.bind_eq_some_iff.mp run
      cases run
      apply buffers_forward sound
      · exact Session.step_forward contract booted wide small sound.session permitted spares rounds taken
      · exact Accounted.rule.step sound.accounted contract booted wide sound.session permitted taken
      · exact fun bytes beside =>
          (Beside.rule booted.large).step beside contract booted wide sound.session permitted taken
  | allocatePrivateMemory name settings =>
      obtain ⟨minimum, maximum⟩ := allowed
      exact allocatePrivateMemory_forward contract booted wide sound minimum maximum run
  | dropAllocation name => exact dropAllocation_forward contract sized sound run

theorem initial_sound {system : σ} (booted : target.Booted) (small : target.granularity ≤ singleChunk)
    (word : first + target.granularity < target.usize) (inUse : Words.extent first target.granularity ⊆ held system) :
    ApiSession.Sound target held ⟨Session.initial target os first system, fun _ => none⟩ :=
  ⟨Session.initial_sound booted small word inUse, Session.initial_accounted booted word, nofun, nofun⟩

/-- Private allocations and buffers keep clear of each other over every run of the interface:
data in buffers stays untouched when private memory is dropped, and private memory that
has not been dropped is in use and shared with nothing. -/
theorem api_untouched {system : σ} {middle last : ApiSession σ} {operations more : List ApiOperation}
    (contract : os.Sound target held) (booted : target.Booted) (wide : target.width = .bits64)
    (sized : target.os ≠ .windows) (small : target.granularity ≤ 20480)
    (word : first + target.granularity < target.usize) (inUse : Words.extent first target.granularity ⊆ held system)
    (run : Transition.Run (step target os fuel depth first) (fun state operation => operation.Allowed target state)
      ⟨Session.initial target os first system, fun _ => none⟩ operations middle)
    (rest : Transition.Run (step target os fuel depth first) (fun state operation => operation.Allowed target state)
      middle more last) :
    Session.Untouched middle.session last.session ∧
      ∀ name allocation, last.allocations name = some allocation →
        allocation.extent ⊆ held last.session.world.os ∧
        (∀ record ∈ last.session.records, Disjoint record.extent allocation.extent) ∧
        ∀ other one, other ≠ name → last.allocations other = some one → Disjoint one.extent allocation.extent := by
  have forward : ∀ state operation next, state.Sound target held → operation.Allowed target state →
      step target os fuel depth first state operation = some next → Forward target held state next :=
    fun _ _ _ sound allowed taken => step_forward contract booted wide sized small sound allowed taken
  have preserved : ∀ state operation next, state.Sound target held → operation.Allowed target state →
      step target os fuel depth first state operation = some next → next.Sound target held :=
    fun state operation next sound allowed taken => (forward state operation next sound allowed taken).sound
  have reached := run.invariant (ApiSession.Sound target held) preserved (initial_sound booted small word inUse)
  have sound := rest.invariant (ApiSession.Sound target held) preserved reached
  have extended := rest.monotone (ApiSession.Sound target held)
    (fun earlier later => Arena.Extends earlier.session.arena later.session.arena) (fun _ => .refl _)
    (fun _ _ _ left right => left.trans right) preserved
    (fun state operation next inv allowed taken => (forward state operation next inv allowed taken).extends_) reached
  have untouched := sound.session.untouched extended
  refine ⟨untouched, fun name allocation known => ?_⟩
  have beside := sound.privates.beside name allocation known
  refine ⟨beside.inUse, ?_, fun other one different there =>
    sound.privates.apart other name one allocation different there known⟩
  intro record member
  obtain ⟨item, registered, inside⟩ := untouched.inside record member
  exact (beside.items record.key item registered).mono_left inside

/-- A private allocation of two pages, which is dropped when a buffer has been found and
written to; the other private allocation stays. -/
theorem api_untouched_dropped : ∃ middle last : ApiSession Nat,
    last.session.records.length = 1 ∧ last.allocations 0 = none ∧ (last.allocations 1).isSome ∧
    Session.Untouched middle.session last.session := by
  have steps : ∃ one two middle four last : ApiSession Nat,
      step smallTarget (.upwards smallTarget.usize emptyHeader) 0 1 0x10000
        ⟨Session.initial smallTarget (.upwards smallTarget.usize emptyHeader) 0x10000 0x11000, fun _ => none⟩
        (.allocatePrivateMemory 0 ⟨0x20000, 0x100000, 8000, 1, 8, true⟩) = some one ∧
      one.step smallTarget (.upwards smallTarget.usize emptyHeader) 0 1 0x10000
        (.allocatePrivateMemory 1 ⟨0x20000, 0x100000, 8000, 1, 8, true⟩) = some two ∧
      two.step smallTarget (.upwards smallTarget.usize emptyHeader) 0 1 0x10000
        (.buffers (.getBuffer 0 ⟨0x20000, 0x7FFFFFFFFFFF, 5000⟩)) = some middle ∧
      middle.step smallTarget (.upwards smallTarget.usize emptyHeader) 0 1 0x10000
        (.buffers (.append 0 .bytes [1])) = some four ∧
      four.step smallTarget (.upwards smallTarget.usize emptyHeader) 0 1 0x10000 (.dropAllocation 0) = some last ∧
      middle.session.leases 0 = some ⟨⟨0x10000, 0⟩, 5000⟩ ∧ last.session.records.length = 1 ∧
      last.allocations 0 = none ∧ (last.allocations 1).isSome = true :=
    ⟨_, _, _, _, _, rfl, rfl, rfl, rfl, rfl, rfl, rfl, rfl, rfl⟩
  obtain ⟨one, two, middle, four, last, first, second, searched, appended, dropped, lease, count, gone, stays⟩ := steps
  refine ⟨middle, last, count, gone, stays, ?_⟩
  have words : ∀ (name : Nat) (state : ApiSession Nat), (ApiOperation.allocatePrivateMemory name
      ⟨0x20000, 0x100000, 8000, 1, 8, true⟩).Allowed smallTarget state := fun _ _ => ⟨by decide, by decide⟩
  have asked : (ApiOperation.buffers (.getBuffer 0 ⟨0x20000, 0x7FFFFFFFFFFF, 5000⟩)).Allowed smallTarget two :=
    ⟨⟨by decide, by decide⟩, trivial, .inl (by decide)⟩
  have paid : (ApiOperation.buffers (.append 0 .bytes [1])).Allowed smallTarget middle := by
    refine ⟨fun known live => ?_, trivial, trivial⟩
    cases lease.symm.trans live
    decide
  have released : (ApiOperation.dropAllocation 0).Allowed smallTarget four := trivial
  exact (api_untouched (Os.upwards_sound smallTarget emptyHeader rfl) smallTarget_booted rfl (by decide) (by decide)
    (by decide) (fun byte inside => inside.2) (.cons (words 0 _) first (.cons (words 1 _) second (.single asked searched)))
    (.cons paid appended (.single released dropped))).1

end ApiSession

end Buffers

end ReloadedBuffers
