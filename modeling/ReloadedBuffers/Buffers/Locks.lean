import ReloadedBuffers.Buffers.SessionRule

/-! Lock words against leases. An item is locked as long as somebody holds it and no
longer, in either library and whichever searches pass over it meanwhile.
-/

set_option autoImplicit false

namespace ReloadedBuffers

namespace Buffers

variable {σ : Type} {target : Target} {held : σ → Set Nat} {leases : Nat → Option Lease} {before after : World σ}
  {pointer : SafeLocatorItem} {item : LocatorItem} {handle budget : Nat}

/-- Every item that is locked is held by somebody. -/
def Accounted (leases : Nat → Option Lease) (world : World σ) : Prop :=
  ∀ pointer item, world.locators.registered pointer = some item → item.isTaken ≠ 0 →
    ∃ handle lease, leases handle = some lease ∧ lease.pointer = pointer

namespace Accounted

/-- No item has been locked. -/
theorem mono (accounted : Accounted leases before)
    (old : ∀ pointer item, after.locators.registered pointer = some item → item.isTaken ≠ 0 →
      ∃ earlier, before.locators.registered pointer = some earlier ∧ earlier.isTaken ≠ 0) : Accounted leases after := by
  intro pointer item found taken
  obtain ⟨earlier, known, locked⟩ := old pointer item found taken
  exact accounted pointer earlier known locked

theorem quiet (accounted : Accounted leases before) (quiet : World.Quiet held before after) : Accounted leases after := by
  apply accounted.mono
  intro pointer item found taken
  obtain ⟨earlier, known, marked⟩ := quiet.registered found
  obtain ⟨_, _, _, locked⟩ := marked.fields
  exact ⟨earlier, known, fun free => taken (locked.mpr free)⟩

/-- The items of a new locator are free. -/
theorem link {locator address : Nat} (accounted : Accounted leases before)
    (linked : World.Linked target held before locator address after) : Accounted leases after := by
  apply accounted.mono
  intro pointer item found taken
  by_cases inside : pointer.locator ∈ Words.extent address target.granularity
  · obtain ⟨_, _, size, rfl, _⟩ := linked.fresh pointer item inside found
    exact absurd rfl taken
  · rw [linked.kept pointer inside] at found
    exact ⟨item, found, taken⟩

theorem placed {header : LocatorHeader} {address start rest : Nat} (accounted : Accounted leases before)
    (found : after.locators address = some header) (placed : LocatorHeader.Managed.Placed header start rest)
    (kept : ∀ pointer, pointer.locator ≠ address →
      after.locators.registered pointer = before.locators.registered pointer) : Accounted leases after := by
  apply accounted.mono
  intro pointer item registered taken
  by_cases here : pointer.locator = address
  · obtain ⟨known, reached, inside, rfl⟩ := Locators.registered_eq_some.mp registered
    rw [here, found] at reached
    cases reached
    rw [placed.item _ (placed.count ▸ inside)] at taken
    exact absurd rfl taken
  · rw [kept pointer here] at registered
    exact ⟨item, registered, taken⟩

/-- The item that is written is held under a name that stood for nothing else. -/
theorem update (accounted : Accounted leases before) (free : ∀ lease ∈ leases handle, lease.pointer = pointer)
    (stored : after.locators.registered = Function.update before.locators.registered pointer (some item)) :
    Accounted (Function.update leases handle (some ⟨pointer, budget⟩)) after := by
  intro other known found taken
  by_cases same : other = pointer
  · exact ⟨handle, _, Function.update_self _ _ _, same.symm⟩
  · rw [stored, Function.update_of_ne same] at found
    obtain ⟨holder, lease, live, rfl⟩ := accounted other known found taken
    have apart : holder ≠ handle := by
      rintro rfl
      exact same (free lease live)
    exact ⟨holder, lease, by rw [Function.update_of_ne apart, live], rfl⟩

theorem drop {lease : Lease} (accounted : Accounted leases before) (live : leases handle = some lease)
    (free : item.isTaken = 0)
    (stored : after.locators.registered = Function.update before.locators.registered lease.pointer (some item)) :
    Accounted (Function.update leases handle none) after := by
  intro other known found taken
  by_cases same : other = lease.pointer
  · rw [stored, same, Function.update_self] at found
    cases found
    exact absurd free taken
  · rw [stored, Function.update_of_ne same] at found
    obtain ⟨holder, one, holds, rfl⟩ := accounted other known found taken
    have apart : holder ≠ handle := by
      rintro rfl
      cases live.symm.trans holds
      exact same rfl
    exact ⟨holder, one, by rw [Function.update_of_ne apart, holds], rfl⟩

theorem rule : SessionRule target held Accounted where
  quiet _ _ _ accounted quiet := accounted.quiet quiet
  link _ _ _ _ _ accounted linked := accounted.link linked
  join _ _ _ _ _ accounted joined := by
    obtain ⟨header, found, _, placed⟩ := joined.header
    exact accounted.placed found placed joined.kept
  taken _ _ _ _ _ _ _ name accounted taken := by
    obtain ⟨item, _, _, _, stored⟩ := taken.item
    exact accounted.update (by simp [name]) stored
  registered _ _ _ _ _ _ _ name accounted registered := by
    obtain ⟨item, _, _, stored⟩ := registered.item
    exact accounted.update (by simp [name]) stored
  advanced _ _ lease _ _ _ _ _ live accounted _ written := by
    refine accounted.update (fun other same => ?_) written.stored
    cases live.symm.trans same
    rfl
  dropped _ _ _ _ _ _ live accounted _ written := accounted.drop live rfl written.stored

end Accounted

namespace Session

variable {os : ManagedOs σ} {fuel depth first : Nat}

theorem initial_accounted {rust : Os σ} {system : σ} (booted : target.Booted)
    (word : first + target.granularity < target.usize) :
    Accounted (initial target rust first system).leases (initial target rust first system).world := by
  obtain ⟨nodes, formatted⟩ := LocatorHeader.initializeHeader_formatted (rust.raw system) (fun _ => none)
    booted.large (booted.small.trans (by decide)) word
  intro pointer item found taken
  obtain ⟨header, reached, inside, rfl⟩ := Locators.registered_eq_some.mp found
  have member : pointer.locator ∈ nodes := by
    by_contra away
    cases (formatted.frame _ away).symm.trans reached
  obtain ⟨_, _, size, here, _⟩ := formatted.items _ member header reached _ inside
  rw [here] at taken
  exact absurd rfl taken

theorem managedInitial_accounted {system : σ} (booted : target.Booted)
    (fits : target.granularity ≤ 4096 + target.width.maxItemCount * 16384)
    (word : first + target.granularity < target.usize) :
    Accounted (managedInitial target os first system).leases (managedInitial target os first system).world := by
  obtain ⟨header, stored, _, placed⟩ := LocatorHeader.Managed.initializeHeader_placed (os.os.raw system) (fun _ => none)
    booted.large fits word
  have empty : Accounted (fun _ => none) (⟨fun _ => none, system⟩ : World σ) := nofun
  have found : (managedInitial target os first system).world.locators first = some header := by
    simp only [managedInitial, BufferAllocatorWindows.Managed.getAllocationGranularity, stored, Locators.store_self]
  refine empty.placed found placed fun pointer apart => ?_
  simp only [managedInitial, BufferAllocatorWindows.Managed.getAllocationGranularity, stored]
  rw [Locators.registered, Locators.registered, Locators.store_of_ne apart]

/-- What the clients of one of the libraries have reached in a process that it has to itself. -/
inductive Reached (target : Target) (held : σ → Set Nat) (os : ManagedOs σ) (fuel depth first : Nat) (system : σ)
    (last : Session σ) : Prop where
  | rust {operations : List Operation} : os.os.Sound target held → target.width = .bits64 →
      target.granularity ≤ singleChunk →
      Transition.Run (step target os.os fuel depth first) (Permits target) (initial target os.os first system) operations
        last → Reached target held os fuel depth first system last
  | managed {operations : List ManagedOperation} : os.Sound target held →
      target.granularity ≤ 4096 + target.width.maxItemCount * 16384 →
      Transition.Run (managedStep target os fuel depth first) (fun session operation => operation.Allowed target session)
        (managedInitial target os first system) operations last → Reached target held os fuel depth first system last

theorem Reached.accounted {system : σ} {last : Session σ} (reached : Reached target held os fuel depth first system last)
    (booted : target.Booted) (word : first + target.granularity < target.usize)
    (inUse : Words.extent first target.granularity ⊆ held system) :
    last.Sound target held ∧ Accounted last.leases last.world := by
  cases reached with
  | rust contract wide small run =>
      refine run.invariant (fun session => session.Sound target held ∧ Accounted session.leases session.world) ?_
        ⟨initial_sound booted small word inUse, initial_accounted booted word⟩
      rintro session operation next ⟨sound, accounted⟩ ⟨allowed, spares, rounds⟩ taken
      exact ⟨(step_forward contract booted wide small sound allowed spares rounds taken).sound sound,
        Accounted.rule.step accounted contract booted wide sound allowed taken⟩
  | managed contract fits run =>
      refine run.invariant (fun session => session.Sound target held ∧ Accounted session.leases session.world) ?_
        ⟨managedInitial_sound booted fits word inUse, managedInitial_accounted booted fits word⟩
      rintro session operation next ⟨sound, accounted⟩ allowed taken
      exact ⟨(managedStep_forward contract booted fits sound allowed taken).sound sound,
        Accounted.rule.managedStep accounted contract booted fits sound allowed taken⟩

/-- No lock is lost and none is shared: over every run of operations of either library an
item is locked as long as just one handle holds it, so that all of them are free again
when everything has been given back. -/
theorem locked_iff_leased {system : σ} {last : Session σ} (reached : Reached target held os fuel depth first system last)
    (booted : target.Booted) (word : first + target.granularity < target.usize)
    (inUse : Words.extent first target.granularity ⊆ held system) {pointer : SafeLocatorItem} {item : LocatorItem}
    (registered : last.world.locators.registered pointer = some item) :
    item.isTaken ≠ 0 ↔ ∃! handle, ∃ lease, last.leases handle = some lease ∧ lease.pointer = pointer := by
  obtain ⟨sound, accounted⟩ := reached.accounted booted word inUse
  constructor
  · intro taken
    obtain ⟨handle, lease, live, here⟩ := accounted pointer item registered taken
    refine ⟨handle, ⟨lease, live, here⟩, ?_⟩
    rintro other ⟨one, alive, there⟩
    exact sound.leased.distinct other handle one lease alive live (there.trans here.symm)
  · rintro ⟨handle, ⟨lease, live, rfl⟩, _⟩
    obtain ⟨known, found, taken, _⟩ := sound.leased.room handle lease live
    cases found.symm.trans registered
    exact taken

/-- Of two buffers that the C# library has found one has been disposed of. -/
theorem locked_iff_leased_disposed : ∃ last : Session Nat, ∃ free taken,
    last.world.locators.registered ⟨0x10000, 0⟩ = some free ∧ last.world.locators.registered ⟨0x10000, 1⟩ = some taken ∧
    free.isTaken = 0 ∧ taken.isTaken = 1 ∧
    (∃! handle, ∃ lease, last.leases handle = some lease ∧ lease.pointer = ⟨0x10000, 1⟩) ∧
    ¬ ∃! handle, ∃ lease, last.leases handle = some lease ∧ lease.pointer = ⟨0x10000, 0⟩ := by
  have steps : ∃ one two last : Session Nat, ∃ free taken,
      (managedInitial smallTarget (.upwards smallTarget.usize emptyHeader) 0x10000 0x11000).managedStep
        smallTarget (.upwards smallTarget.usize emptyHeader) 0 1 0x10000 (.getBuffer 0 ⟨0x20000, 0x40000, 5000⟩) =
          some one ∧
      one.managedStep smallTarget (.upwards smallTarget.usize emptyHeader) 0 1 0x10000
        (.getBuffer 1 ⟨0x40000, 0x7FFFFFFFFFFF, 5000⟩) = some two ∧
      two.managedStep smallTarget (.upwards smallTarget.usize emptyHeader) 0 1 0x10000 (.dispose 0) = some last ∧
      last.world.locators.registered ⟨0x10000, 0⟩ = some free ∧ last.world.locators.registered ⟨0x10000, 1⟩ = some taken ∧
      free.isTaken = 0 ∧ taken.isTaken = 1 :=
    ⟨_, _, _, _, _, rfl, rfl, rfl, rfl, rfl, rfl, rfl⟩
  obtain ⟨one, two, last, free, taken, first, second, disposed, here, there, unlocked, locked⟩ := steps
  have asked : ∀ handle session, (ManagedOperation.getBuffer handle ⟨0x20000, 0x40000, 5000⟩).Allowed smallTarget
      (session : Session Nat) := fun _ _ => ⟨by decide, by decide, .inl (by decide)⟩
  have again : ∀ handle session, (ManagedOperation.getBuffer handle ⟨0x40000, 0x7FFFFFFFFFFF, 5000⟩).Allowed smallTarget
      (session : Session Nat) := fun _ _ => ⟨by decide, by decide, .inl (by decide)⟩
  have released : (ManagedOperation.dispose 0).Allowed smallTarget two := trivial
  have reached : Reached smallTarget Set.Iio (.upwards smallTarget.usize emptyHeader) 0 1 0x10000 0x11000 last :=
    .managed (ManagedOs.upwards_sound emptyHeader rfl) (by decide)
      (.cons (asked 0 _) first (.cons (again 1 _) second (.single released disposed)))
  have inUse : Words.extent 0x10000 smallTarget.granularity ⊆ Set.Iio 0x11000 := fun byte inside => inside.2
  refine ⟨last, free, taken, here, there, unlocked, locked, ?_, ?_⟩
  · exact (locked_iff_leased reached smallTarget_booted (by decide) inUse there).mp (by rw [locked]; decide)
  · exact fun held => (locked_iff_leased reached smallTarget_booted (by decide) inUse here).mpr held unlocked

end Session

end Buffers

end ReloadedBuffers
