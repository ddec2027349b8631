import ReloadedBuffers.Buffers.Managed

/-! What every operation of the two libraries comes to, so that an invariant of the leases
and the world is shown once for each thing that can happen and not for each operation.
-/

set_option autoImplicit false

namespace ReloadedBuffers

namespace Buffers

variable {σ : Type}

/-- The item at a pointer has been written, and nothing else has changed. -/
structure World.Rewrites (before : World σ) (pointer : SafeLocatorItem) (item : LocatorItem) (after : World σ) : Prop where
  os : after.os = before.os
  next : after.locators.next = before.locators.next
  stored : after.locators.registered = Function.update before.locators.registered pointer (some item)

/-- What an invariant has to survive: lock words that are taken again, a new locator of
either library, an item that is found or obtained for a new handle, an item that is
advanced through its handle, and an item that is let go of. -/
structure SessionRule (target : Target) (held : σ → Set Nat) (Inv : (Nat → Option Lease) → World σ → Prop) : Prop where
  quiet : ∀ leases before after, Inv leases before → World.Quiet held before after → Inv leases after
  link : ∀ leases before locator address after, Inv leases before →
    World.Linked target held before locator address after → Inv leases after
  join : ∀ leases before locator address after, Inv leases before →
    LocatorHeader.Managed.Joined target held before locator address after → Inv leases after
  taken : ∀ leases handle budget settings before pointer after, leases handle = none → Inv leases before →
    World.Taken target settings before pointer after → Inv (Function.update leases handle (some ⟨pointer, budget⟩)) after
  registered : ∀ leases handle budget settings before pointer after, leases handle = none → Inv leases before →
    World.Registered target held settings before pointer after →
    Inv (Function.update leases handle (some ⟨pointer, budget⟩)) after
  advanced : ∀ leases handle lease budget before item count after, leases handle = some lease → Inv leases before →
    before.locators.registered lease.pointer = some item →
    World.Rewrites before lease.pointer (item.advance count) after →
    Inv (Function.update leases handle (some ⟨lease.pointer, budget⟩)) after
  dropped : ∀ leases handle lease before item after, leases handle = some lease → Inv leases before →
    before.locators.registered lease.pointer = some item → World.Rewrites before lease.pointer item.unlock after →
    Inv (Function.update leases handle none) after

theorem of_guard {condition : Prop} [Decidable condition] {passed : Unit}
    (guarded : (guard condition : Option Unit) = some passed) : condition := by
  by_contra stuck
  rw [guard, if_neg stuck] at guarded
  cases guarded

variable {target : Target} {held : σ → Set Nat} {Inv : (Nat → Option Lease) → World σ → Prop}

namespace SessionRule

variable {leases : Nat → Option Lease} {handle fuel depth first : Nat} {settings : BufferSearchSettings}
  {world last : World σ}

/-- A search of the Rust library; what it returns is a registered item. -/
theorem getBuffer {os : Os σ} (rule : SessionRule target held Inv) (sound : os.Sound target held) (booted : target.Booted)
    (wide : target.width = .bits64) {result : Except BufferSearchError SafeLocatorItem}
    (run : Buffers.getBuffer target os fuel depth settings first world = some (result, last))
    (minimum : settings.minAddress < target.usize) (maximum : settings.maxAddress < target.usize)
    (name : leases handle = none) (housed : World.Housed held world) (inv : Inv leases world) :
    Inv (received leases handle settings result) last ∧
      ∀ pointer, result = .ok pointer → ∃ item, last.locators.registered pointer = some item := by
  have search : SearchRule target held settings (fun _ world => World.Housed held world ∧ Inv leases world)
      fun result last => Inv (received leases handle settings result) last ∧
        ∀ pointer, result = .ok pointer → ∃ item, last.locators.registered pointer = some item := by
    constructor
    · exact fun _ _ reached => reached.1
    · exact fun _ _ _ reached quiet => ⟨reached.1.quiet quiet, rule.quiet _ _ _ reached.2 quiet⟩
    · exact fun _ _ _ reached _ => reached
    · exact fun _ _ _ _ reached linked => ⟨reached.1.link linked, rule.link _ _ _ _ _ reached.2 linked⟩
    · intro _ pointer _ reached taken
      obtain ⟨item, _, _, _, stored⟩ := taken.item
      refine ⟨rule.taken _ _ _ _ _ _ _ name reached.2 taken, ?_⟩
      rintro _ ⟨⟩
      exact ⟨_, by rw [stored, Function.update_self]⟩
    · intro _ pointer _ reached registered
      obtain ⟨item, _, _, stored⟩ := registered.item
      refine ⟨rule.registered _ _ _ _ _ _ _ name reached.2 registered, ?_⟩
      rintro _ ⟨⟩
      exact ⟨_, by rw [stored, Function.update_self]⟩
    · exact fun _ _ _ reached => ⟨reached.2, nofun⟩
  exact getBufferRecursive_rule sound booted (.inl wide) minimum maximum search run ⟨housed, inv⟩

theorem managedGetBuffer {os : ManagedOs σ} (rule : SessionRule target held Inv) (sound : os.Sound target held)
    (booted : target.Booted) (fits : target.granularity ≤ 4096 + target.width.maxItemCount * 16384)
    {result : Except ManagedException SafeLocatorItem}
    (run : Managed.getBuffer target os fuel depth settings first world = some (result, last))
    (minimum : settings.minAddress < target.usize) (maximum : settings.maxAddress < target.usize)
    (name : leases handle = none) (laid : Laid target held world) (leased : Leased leases world) (inv : Inv leases world) :
    Inv (Managed.received leases handle settings result) last := by
  have search : Managed.SearchRule target held settings
      (fun now => Progress target held ⟨world, [], leases⟩ leases now ∧ Inv leases now)
      fun result => Inv (Managed.received leases handle settings result) := by
    constructor
    · exact fun _ reached => reached.1.laid
    · exact fun _ _ reached quiet => ⟨reached.1.quiet quiet, rule.quiet _ _ _ reached.2 quiet⟩
    · exact fun _ _ _ _ reached joined => ⟨reached.1.join booted.large joined, rule.join _ _ _ _ _ reached.2 joined⟩
    · exact fun _ _ _ reached taken => rule.taken _ _ _ _ _ _ _ name reached.2 taken
    · exact fun _ _ _ reached registered => rule.registered _ _ _ _ _ _ _ name reached.2 registered
    · exact fun _ _ reached => reached.2
  exact Managed.getBufferRecursive_rule sound booted fits minimum maximum search run ⟨⟨laid, leased, .refl⟩, inv⟩

variable {os : Os σ} {session next : Session σ} (rule : SessionRule target held Inv)
  (inv : Inv session.leases session.world)
include rule inv

theorem append {kind : SafeLocatorItem.Append} {data : List UInt8} (leased : Leased session.leases session.world)
    (run : session.step target os fuel depth first (.append handle kind data) = some next) :
    Inv next.leases next.world := by
  obtain ⟨lease, live, run⟩ := Option.bind_eq_some_iff.mp run
  obtain ⟨⟨address, locators⟩, appended, run⟩ := Option.bind_eq_some_iff.mp run
  cases run
  obtain ⟨item, found, _, _⟩ := leased.room handle lease live
  obtain ⟨_, links, stored⟩ := SafeLocatorItem.append_cases found appended
  exact rule.advanced _ _ _ _ _ _ _ _ live inv found ⟨rfl, links, stored⟩

theorem drop (leased : Leased session.leases session.world)
    (run : session.step target os fuel depth first (.drop handle) = some next) : Inv next.leases next.world := by
  obtain ⟨lease, live, run⟩ := Option.bind_eq_some_iff.mp run
  obtain ⟨locators, dropped, run⟩ := Option.bind_eq_some_iff.mp run
  cases run
  obtain ⟨item, found, _, _⟩ := leased.room handle lease live
  obtain ⟨links, stored⟩ := SafeLocatorItem.drop_cases found dropped
  exact rule.dropped _ _ _ _ _ _ live inv found ⟨rfl, links, stored⟩

theorem step (contract : os.Sound target held) (booted : target.Booted) (wide : target.width = .bits64)
    (sound : session.Sound target held) {operation : Operation} (allowed : operation.Allowed target session)
    (run : session.step target os fuel depth first operation = some next) : Inv next.leases next.world := by
  cases operation with
  | append handle kind data => exact rule.append inv sound.leased run
  | drop handle => exact rule.drop inv sound.leased run
  | getBuffer handle settings =>
      obtain ⟨minimum, maximum⟩ := allowed
      obtain ⟨_, name, run⟩ := Option.bind_eq_some_iff.mp run
      obtain ⟨⟨result, world⟩, searched, run⟩ := Option.bind_eq_some_iff.mp run
      cases run
      exact (rule.getBuffer contract booted wide searched minimum maximum (of_guard name) sound.laid.housed inv).1
  | getBufferAligned handle settings alignment =>
      obtain ⟨minimum, maximum, _⟩ := allowed
      obtain ⟨_, name, run⟩ := Option.bind_eq_some_iff.mp run
      obtain ⟨⟨result, world⟩, aligned, run⟩ := Option.bind_eq_some_iff.mp run
      cases run
      obtain ⟨⟨found, middle⟩, searched, aligned⟩ := Option.bind_eq_some_iff.mp aligned
      obtain ⟨kept, there⟩ := rule.getBuffer contract booted wide searched minimum maximum (of_guard name)
        sound.laid.housed inv
      cases found with
      | error error =>
          cases aligned
          exact kept
      | ok pointer =>
          obtain ⟨locators, moved, aligned⟩ := Option.bind_eq_some_iff.mp aligned
          cases aligned
          obtain ⟨item, known⟩ := there pointer rfl
          obtain ⟨same, read, written⟩ := Option.bind_eq_some_iff.mp moved
          cases (Locators.item_of_registered known).symm.trans read
          obtain ⟨_, stored, links, registered⟩ := Locators.setItem_registered _ known
          cases stored.symm.trans written
          have live : received session.leases handle { settings with size := settings.size + maxMisalignment alignment }
              (.ok pointer) handle = some ⟨pointer, (settings.size + maxMisalignment alignment).toNat⟩ :=
            Function.update_self _ _ _
          have advanced := rule.advanced _ _ _ settings.size.toNat _ _ _ { middle with locators := locators } live kept known
            ⟨rfl, links, registered⟩
          simpa [received] using advanced

theorem managedStep {os : ManagedOs σ} (managed : os.Sound target held) (booted : target.Booted)
    (fits : target.granularity ≤ 4096 + target.width.maxItemCount * 16384) (sound : session.Sound target held)
    {operation : ManagedOperation} (allowed : operation.Allowed target session)
    (run : session.managedStep target os fuel depth first operation = some next) : Inv next.leases next.world := by
  cases operation with
  | getBuffer handle settings =>
      obtain ⟨minimum, maximum, _⟩ := allowed
      obtain ⟨_, name, run⟩ := Option.bind_eq_some_iff.mp run
      obtain ⟨⟨result, world⟩, found, run⟩ := Option.bind_eq_some_iff.mp run
      cases run
      exact rule.managedGetBuffer managed booted fits found minimum maximum (of_guard name) sound.laid sound.leased inv
  | append handle kind data =>
      cases kind with
      | span =>
          have bytes : session.step target os.os fuel depth first (.append handle .bytes data) = some next := run
          exact rule.append inv sound.leased bytes
      | value =>
          obtain ⟨lease, live, run⟩ := Option.bind_eq_some_iff.mp run
          obtain ⟨⟨address, locators⟩, appended, run⟩ := Option.bind_eq_some_iff.mp run
          cases run
          obtain ⟨item, found, _, _⟩ := sound.leased.room handle lease live
          obtain ⟨same, _⟩ := Managed.append_value found appended
          rw [same]
          exact inv
  | dispose handle =>
      have dropped : session.step target os.os fuel depth first (.drop handle) = some next := run
      exact rule.drop inv sound.leased dropped

end SessionRule

end Buffers

end ReloadedBuffers
