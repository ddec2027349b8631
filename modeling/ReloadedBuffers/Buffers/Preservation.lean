import ReloadedBuffers.Buffers.Granted
import ReloadedBuffers.Buffers.Progress

/-! Data in buffers is never moved or overwritten: every operation of a session is a
sequence of steps of the arena that its registered items form.
-/

set_option autoImplicit false

namespace ReloadedBuffers

namespace Buffers

variable {σ : Type} {target : Target} {held : σ → Set Nat}

namespace Session

def arena (session : Session σ) : Arena.State SafeLocatorItem := session.world.arena session.records

/-- The invariant of sessions. -/
structure Sound (target : Target) (held : σ → Set Nat) (session : Session σ) : Prop where
  laid : Laid target held session.world
  leased : Leased session.leases session.world
  valid : Arena.Valid session.arena

/-- A step keeps the invariant, and takes the arena forward. -/
structure Forward (target : Target) (held : σ → Set Nat) (before after : Session σ) : Prop where
  laid : Laid target held after.world
  leased : Leased after.leases after.world
  steps : Arena.Steps before.arena after.arena

theorem append_forward {os : Os σ} {fuel depth first handle : Nat} {kind : SafeLocatorItem.Append}
    {data : List UInt8} {session next : Session σ} (sound : session.Sound target held)
    (allowed : (Operation.append handle kind data).Allowed target session)
    (spares : (Operation.append handle kind data).Spares target session)
    (run : session.step target os fuel depth first (.append handle kind data) = some next) :
    Forward target held session next := by
  obtain ⟨lease, live, run⟩ := Option.bind_eq_some_iff.mp run
  obtain ⟨⟨address, locators⟩, appended, run⟩ := Option.bind_eq_some_iff.mp run
  cases run
  obtain ⟨item, found, _, room⟩ := sound.leased.room handle lease live
  obtain ⟨inside, spare⟩ := spares.room live found (allowed lease live) room
  obtain ⟨rfl, links, stored⟩ := SafeLocatorItem.append_cases found appended
  obtain ⟨laid, leased⟩ := Leased.advance { session.world with locators := locators } (kind.written target data)
    (lease.budget - data.length) sound.laid sound.leased live found spare rfl links stored
  refine ⟨laid, leased, ?_⟩
  have whole := sound.laid.sound _ _ found
  have placed := World.arena_update session.world { session.world with locators := locators } session.records _ stored
  rw [LocatorItem.advance_block (by omega)] at placed
  have block : session.arena.blocks lease.pointer = some item.block := World.arena_eq_some.mpr ⟨item, found, rfl⟩
  have enough : item.block.used + kind.written target data ≤ item.block.size := by
    simp only [LocatorItem.block]
    omega
  have steps := Arena.Steps.reserve block inside enough
  have cursor : item.cursor target.usize = item.block.base + item.block.used := whole.cursor_eq
  rw [cursor]
  simp only [arena] at steps ⊢
  rw [← placed] at steps
  exact steps

theorem drop_forward {os : Os σ} {fuel depth first handle : Nat} {session next : Session σ}
    (sound : session.Sound target held)
    (run : session.step target os fuel depth first (.drop handle) = some next) :
    Forward target held session next := by
  obtain ⟨lease, live, run⟩ := Option.bind_eq_some_iff.mp run
  obtain ⟨locators, dropped, run⟩ := Option.bind_eq_some_iff.mp run
  cases run
  obtain ⟨item, found, _, _⟩ := sound.leased.room handle lease live
  have whole := sound.laid.sound _ _ found
  obtain ⟨links, stored⟩ := SafeLocatorItem.drop_cases found dropped
  have inUse := sound.laid.inUse _ _ found
  refine ⟨?_, ?_, ?_⟩
  · exact sound.laid.update subset_rfl links stored
      ⟨whole.position_le, whole.end_lt⟩ inUse
  · exact sound.leased.drop live stored
  · simp only [arena]
    rw [World.arena_update_lock session.world { session.world with locators := locators } item.unlock found rfl stored]

section

variable {os : Os σ} {fuel depth first handle : Nat} {settings : BufferSearchSettings} {session next : Session σ}
  (contract : os.Sound target held) (booted : target.Booted) (wide : target.width = .bits64)
  (small : target.granularity ≤ singleChunk) (sound : session.Sound target held)
include contract booted wide small sound

theorem getBuffer_forward (allowed : (Operation.getBuffer handle settings).Allowed target session)
    (rounds : (Operation.getBuffer handle settings).Rounded target)
    (run : session.step target os fuel depth first (.getBuffer handle settings) = some next) :
    Forward target held session next := by
  obtain ⟨_, _, run⟩ := Option.bind_eq_some_iff.mp run
  obtain ⟨⟨result, world⟩, found, run⟩ := Option.bind_eq_some_iff.mp run
  cases run
  have progress := getBuffer_progress handle settings contract booted wide small allowed.1 allowed.2 rounds
    found ⟨sound.laid, sound.leased, .refl⟩
  exact ⟨progress.laid, progress.leased, progress.steps⟩

theorem getBufferAligned_forward {alignment : UInt32}
    (allowed : (Operation.getBufferAligned handle settings alignment).Allowed target session)
    (rounds : (Operation.getBufferAligned handle settings alignment).Rounded target)
    (run : session.step target os fuel depth first (.getBufferAligned handle settings alignment) = some next) :
    Forward target held session next := by
  obtain ⟨minimum, maximum, fits⟩ := allowed
  obtain ⟨_, _, run⟩ := Option.bind_eq_some_iff.mp run
  obtain ⟨⟨result, world⟩, aligned, run⟩ := Option.bind_eq_some_iff.mp run
  cases run
  obtain ⟨⟨found, middle⟩, searched, aligned⟩ := Option.bind_eq_some_iff.mp aligned
  have progress := getBuffer_progress handle
    { settings with size := settings.size + maxMisalignment alignment } contract booted wide small minimum maximum
    rounds searched ⟨sound.laid, sound.leased, .refl⟩
  cases found with
  | error error =>
      cases aligned
      exact ⟨progress.laid, progress.leased, progress.steps⟩
  | ok pointer =>
      obtain ⟨locators, moved, aligned⟩ := Option.bind_eq_some_iff.mp aligned
      cases aligned
      have live : received session.leases handle
          { settings with size := settings.size + maxMisalignment alignment } (.ok pointer) handle =
          some ⟨pointer, (settings.size + maxMisalignment alignment).toNat⟩ := Function.update_self _ _ _
      have budget : (settings.size + maxMisalignment alignment).toNat =
          settings.size.toNat + (maxMisalignment alignment).toNat := by
        rw [UInt32.toNat_add, Nat.mod_eq_of_lt fits]
      obtain ⟨item, here, _, room⟩ := progress.leased.room handle _ live
      dsimp only at room
      have whole := progress.laid.sound _ _ here
      -- The search has asked for the padding too, so it is skipped inside the block.
      have small := padding_le_maxMisalignment (item.baseAddress + item.position.toNat) alignment
      obtain ⟨links, stored⟩ := alignItem_cases here whole (by omega) moved
      obtain ⟨laid, leased⟩ := Leased.advance { middle with locators := locators } _ settings.size.toNat
        progress.laid progress.leased live here (by omega) rfl links stored
      refine ⟨laid, ?_, progress.steps.trans (.single ?_)⟩
      · simpa [received] using leased
      · simp only [arena]
        rw [World.arena_update middle { middle with locators := locators } session.records _ stored,
          LocatorItem.advance_block (by omega)]
        refine .skip (World.arena_eq_some.mpr ⟨item, here, rfl⟩) ?_
        simp only [LocatorItem.block]
        omega

end

theorem step_forward {os : Os σ} {fuel depth first : Nat} {session next : Session σ} {operation : Operation}
    (contract : os.Sound target held) (booted : target.Booted) (wide : target.width = .bits64)
    (small : target.granularity ≤ singleChunk) (sound : session.Sound target held)
    (allowed : operation.Allowed target session) (spares : operation.Spares target session)
    (rounds : operation.Rounded target)
    (run : session.step target os fuel depth first operation = some next) : Forward target held session next := by
  cases operation with
  | getBuffer handle settings => exact getBuffer_forward contract booted wide small sound allowed rounds run
  | getBufferAligned handle settings alignment =>
      exact getBufferAligned_forward contract booted wide small sound allowed rounds run
  | append handle kind data => exact append_forward sound allowed spares run
  | drop handle => exact drop_forward sound run

theorem Forward.sound {session next : Session σ} (forward : Forward target held session next)
    (sound : session.Sound target held) : next.Sound target held :=
  ⟨forward.laid, forward.leased, forward.steps.valid sound.valid⟩

/-- The chunk behind the header is the only buffer of a freshly initialised locator. -/
theorem initial_sound {os : Os σ} {first : Nat} {system : σ} (booted : target.Booted)
    (small : target.granularity ≤ singleChunk) (word : first + target.granularity < target.usize)
    (inUse : Words.extent first target.granularity ⊆ held system) : (initial target os first system).Sound target held := by
  obtain ⟨nodes, formatted⟩ := LocatorHeader.initializeHeader_formatted (os.raw system) (fun _ => none)
    booted.large (booted.small.trans (by decide)) word
  have chunk : ∀ pointer item, (initial target os first system).world.locators.registered pointer = some item →
      pointer = ⟨first, 0⟩ ∧ ∃ size, item = LocatorItem.new (first + locatorLength) size ∧
        size.toNat + locatorLength ≤ target.granularity := by
    intro pointer item found
    obtain ⟨header, reached, inside, rfl⟩ := Locators.registered_eq_some.mp found
    have member : pointer.locator ∈ nodes := by
      by_contra away
      cases (formatted.frame _ away).symm.trans reached
    -- No header but the first has items, and that one has a single chunk.
    obtain ⟨same, start, size, here, fits⟩ := formatted.items _ member header reached _ inside
    refine ⟨?_, size, here, fits⟩
    cases pointer
    cases same
    cases start small
    rfl
  refine ⟨⟨?_, ?_, ?_⟩, ⟨?_, ?_⟩, ⟨?_, ?_, ?_, List.Pairwise.nil⟩⟩
  · intro locator found
    refine inUse (formatted.inside _ ?_)
    by_contra away
    rw [Locators.next_isSome] at found
    have missing := formatted.frame _ away
    simp only [initial, missing] at found
    cases found
  · intro pointer item found
    obtain ⟨_, size, rfl, fits⟩ := chunk pointer item found
    constructor
    · exact UInt32.zero_le
    · simp only [LocatorItem.new]
      omega
  · intro pointer item found
    obtain ⟨_, size, rfl, fits⟩ := chunk pointer item found
    refine Set.Subset.trans ?_ inUse
    exact Words.extent_subset (Nat.le_add_right _ _) (by simp only [LocatorItem.new]; omega)
  · rintro handle lease ⟨⟩
  · rintro handle other one two ⟨⟩
  · intro key block found
    obtain ⟨item, registered, rfl⟩ := World.arena_eq_some.mp found
    obtain ⟨_, size, rfl, _⟩ := chunk key item registered
    exact Nat.zero_le _
  · intro key other first second left right different
    obtain ⟨_, here, _⟩ := World.arena_eq_some.mp left
    obtain ⟨_, there, _⟩ := World.arena_eq_some.mp right
    exact absurd ((chunk _ _ here).1.trans (chunk _ _ there).1.symm) different
  · rintro record ⟨⟩

/-- What clients rely on: appended ranges never overlap and lie in the buffers they
were made through, and registered buffers stay as they are, but for positions
that advance. -/
structure Untouched (earlier later : Session σ) : Prop where
  disjoint : later.records.Pairwise fun first second => Disjoint first.extent second.extent
  inside : ∀ record ∈ later.records, ∃ item, later.world.locators.registered record.key = some item ∧
    record.extent ⊆ Words.extent item.baseAddress item.size.toNat
  kept : ∀ pointer item, earlier.world.locators.registered pointer = some item → ∃ grown,
    later.world.locators.registered pointer = some grown ∧ grown.baseAddress = item.baseAddress ∧
    grown.size = item.size ∧ item.position ≤ grown.position
  records : earlier.records <:+ later.records
  position_le : ∀ pointer item, later.world.locators.registered pointer = some item → item.position ≤ item.size

theorem Sound.untouched {earlier later : Session σ} (sound : later.Sound target held)
    (extends_ : Arena.Extends earlier.arena later.arena) : Untouched earlier later where
  disjoint := sound.valid.apart
  inside record member := by
    obtain ⟨block, found, low, high⟩ := sound.valid.recorded record member
    have used := sound.valid.used_le _ _ found
    obtain ⟨item, registered, rfl⟩ := World.arena_eq_some.mp found
    exact ⟨item, registered, Words.extent_subset low (high.trans (Nat.add_le_add_left used _))⟩
  kept pointer item found := by
    obtain ⟨block, here, base, size, used⟩ :=
      extends_.blocks pointer item.block (World.arena_eq_some.mpr ⟨item, found, rfl⟩)
    obtain ⟨grown, registered, rfl⟩ := World.arena_eq_some.mp here
    exact ⟨grown, registered, base, UInt32.toNat_inj.mp size, UInt32.le_iff_toNat_le.mpr used⟩
  records := extends_.records
  position_le pointer item found := (sound.laid.sound pointer item found).position_le

/-- What is asked of every step of a run: clients keep their word, a value is copied only
where its reference fits, and sizes survive rounding. -/
def Permits (target : Target) (session : Session σ) (operation : Operation) : Prop :=
  operation.Allowed target session ∧ operation.Spares target session ∧ operation.Rounded target

/-- Allocated data is never moved or overwritten, on a target whose locators have room for
one chunk, over every run of operations in which no reference is copied that does not fit. -/
theorem run_untouched {os : Os σ} {fuel depth first : Nat} {system : σ} {middle last : Session σ}
    {operations more : List Operation} (contract : os.Sound target held) (booted : target.Booted)
    (wide : target.width = .bits64) (small : target.granularity ≤ 20480)
    (word : first + target.granularity < target.usize)
    (inUse : Words.extent first target.granularity ⊆ held system)
    (run : Transition.Run (step target os fuel depth first) (Permits target) (initial target os first system)
      operations middle)
    (rest : Transition.Run (step target os fuel depth first) (Permits target) middle more last) :
    Untouched middle last := by
  have forward : ∀ session operation next, session.Sound target held → Permits target session operation →
      step target os fuel depth first session operation = some next → Forward target held session next :=
    fun _ _ _ sound permitted taken =>
      step_forward contract booted wide small sound permitted.1 permitted.2.1 permitted.2.2 taken
  have preserved : ∀ session operation next, session.Sound target held → Permits target session operation →
      step target os fuel depth first session operation = some next → next.Sound target held :=
    fun session operation next sound permitted taken => (forward session operation next sound permitted taken).sound sound
  have reached := run.invariant (Session.Sound target held) preserved (initial_sound booted small word inUse)
  -- Soundness is what the steps preserve; the order on arenas is what they only move along.
  have extended := rest.monotone (Session.Sound target held)
    (fun earlier later => Arena.Extends earlier.arena later.arena) (fun _ => .refl _)
    (fun _ _ _ left right => left.trans right) preserved
    (fun session operation next sound permitted taken =>
      (forward session operation next sound permitted taken).steps.extends)
    reached
  exact (rest.invariant (Session.Sound target held) preserved reached).untouched extended

/-- A search, code that is appended, and a byte that is copied where a reference fits too. -/
theorem run_untouched_appends : ∃ middle last : Session Nat, last.records.length = 2 ∧ Untouched middle last := by
  have steps : ∃ middle next last : Session Nat,
      (initial smallTarget (.upwards smallTarget.usize emptyHeader) 0x10000 0x11000).step smallTarget
        (.upwards smallTarget.usize emptyHeader) 0 1 0x10000 (.getBuffer 0 ⟨0x20000, 0x7FFFFFFFFFFF, 5000⟩) =
          some middle ∧
      middle.step smallTarget (.upwards smallTarget.usize emptyHeader) 0 1 0x10000 (.append 0 .code [0x90, 0xC3]) =
          some next ∧
      next.step smallTarget (.upwards smallTarget.usize emptyHeader) 0 1 0x10000 (.append 0 (.copy 0x7FFD1000) [7]) =
          some last ∧
      middle.leases 0 = some ⟨⟨0x10000, 0⟩, 5000⟩ ∧ next.leases 0 = some ⟨⟨0x10000, 0⟩, 4998⟩ ∧
      next.world.locators.registered ⟨0x10000, 0⟩ = some ⟨0x7FFFFFFFD000, 8192, 2, 1⟩ ∧ last.records.length = 2 :=
    ⟨_, _, _, rfl, rfl, rfl, rfl, rfl, rfl, rfl⟩
  obtain ⟨middle, next, last, searched, first, second, lease, left, item, count⟩ := steps
  have paid : (Operation.append 0 .code [0x90, 0xC3]).Allowed smallTarget middle := by
    intro known live
    cases lease.symm.trans live
    decide
  have again : (Operation.append 0 (.copy 0x7FFD1000) [7]).Allowed smallTarget next := by
    intro known live
    cases left.symm.trans live
    decide
  have spared : (Operation.append 0 (.copy 0x7FFD1000) [7]).Spares smallTarget next := by
    intro known found live there
    cases left.symm.trans live
    cases item.symm.trans there
    decide
  have asked : (Operation.getBuffer 0 ⟨0x20000, 0x7FFFFFFFFFFF, 5000⟩).Allowed smallTarget
      (initial smallTarget (.upwards smallTarget.usize emptyHeader) 0x10000 0x11000) := by
    constructor <;> decide
  have rounds : (Operation.getBuffer 0 ⟨0x20000, 0x7FFFFFFFFFFF, 5000⟩).Rounded smallTarget := .inl (by decide)
  refine ⟨middle, last, count, ?_⟩
  exact run_untouched (Os.upwards_sound smallTarget emptyHeader rfl) smallTarget_booted rfl (by decide) (by decide)
    (fun byte inside => inside.2) (.single ⟨asked, trivial, rounds⟩ searched)
    (.cons ⟨paid, trivial, trivial⟩ first (.single ⟨again, spared, trivial⟩ second))

/-- The same on pages of 4096 bytes: of a buffer of one page 4095 bytes are used, and the byte
that is left is filled with `append_copy(&7u8)`. -/
theorem run_overwrites : ∃ last : Session Nat, ∃ operations,
    smallTarget.Booted ∧ smallTarget.width = .bits64 ∧ smallTarget.granularity = 4096 ∧
    Words.extent 0x10000 smallTarget.granularity ⊆ Set.Iio 0x11000 ∧
    (Os.upwards smallTarget.usize emptyHeader).Sound smallTarget Set.Iio ∧
    Transition.Run (step smallTarget (.upwards smallTarget.usize emptyHeader) 0 1 0x10000)
      (fun session operation => operation.Allowed smallTarget session ∧ operation.Rounded smallTarget)
      (initial smallTarget (.upwards smallTarget.usize emptyHeader) 0x10000 0x11000) operations last ∧
    (∃ pointer item, last.world.locators.registered pointer = some item ∧ item.size = 4096 ∧ item.position = 4103) ∧
    ∀ earlier, ¬ Untouched earlier last := by
  have steps : ∀ data : List UInt8, ∃ middle next last : Session Nat,
      (initial smallTarget (.upwards smallTarget.usize emptyHeader) 0x10000 0x11000).step smallTarget
        (.upwards smallTarget.usize emptyHeader) 0 1 0x10000 (.getBuffer 0 ⟨0x20000, 0x7FFFFFFFFFFF, 4096⟩) =
          some middle ∧
      middle.step smallTarget (.upwards smallTarget.usize emptyHeader) 0 1 0x10000 (.append 0 .bytes data) = some next ∧
      next.step smallTarget (.upwards smallTarget.usize emptyHeader) 0 1 0x10000 (.append 0 (.copy 0x7FFD1000) [7]) =
          some last ∧
      middle.leases 0 = some ⟨⟨0x10000, 0⟩, 4096⟩ ∧ next.leases 0 = some ⟨⟨0x10000, 0⟩, 4096 - data.length⟩ ∧
      last.world.locators.registered ⟨0x10000, 0⟩ = some ⟨0x7FFFFFFFE000, 4096, 0 + UInt32.ofNat data.length + 8, 1⟩ :=
    fun data => ⟨_, _, _, rfl, rfl, rfl, rfl, rfl, rfl⟩
  obtain ⟨middle, next, last, searched, filled, copied, lease, left, item⟩ := steps (List.replicate 4095 0)
  rw [List.length_replicate] at left item
  have asked : (Operation.getBuffer 0 ⟨0x20000, 0x7FFFFFFFFFFF, 4096⟩).Allowed smallTarget
      (initial smallTarget (.upwards smallTarget.usize emptyHeader) 0x10000 0x11000) := by
    constructor <;> decide
  have paid : (Operation.append 0 .bytes (List.replicate 4095 0)).Allowed smallTarget middle := by
    intro known live
    cases lease.symm.trans live
    rw [List.length_replicate]
    decide
  have again : (Operation.append 0 (.copy 0x7FFD1000) [7]).Allowed smallTarget next := by
    intro known live
    cases left.symm.trans live
    decide
  refine ⟨last, _, smallTarget_booted, rfl, rfl, fun byte inside => inside.2,
    Os.upwards_sound smallTarget emptyHeader rfl, .cons ⟨asked, .inl (by decide)⟩ searched
      (.cons ⟨paid, trivial⟩ filled (.single ⟨again, trivial⟩ copied)), ⟨_, _, item, rfl, by decide⟩, ?_⟩
  intro earlier untouched
  exact absurd (untouched.position_le _ _ item) (by decide)

end Session

end Buffers

end ReloadedBuffers
