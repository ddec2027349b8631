import ReloadedBuffers.Internal.BufferAllocator

/-! The macOS back end: gaps between the regions that `mach_vm_region` reports, and
the tail behind the last one.
-/

set_option autoImplicit false

namespace ReloadedBuffers

/-- Replies of `mach_vm_region`: success, `KERN_INVALID_ADDRESS` or another error. -/
inductive RegionReply where
  | region (actualAddress availableSize : Nat)
  | invalidAddress
  | failure
  deriving DecidableEq, Repr

/-- The Mach calls of the back end. `mach_vm_allocate` with flags zero asks for the
given address and gives none on failure; `mach_vm_protect` reports success. -/
structure MachCalls (σ : Type) where
  machVmRegion : Nat → σ → RegionReply × σ
  machVmAllocate : Nat → Nat → σ → Option Nat × σ
  machVmProtect : Nat → Nat → σ → Bool × σ
  machVmDeallocate : Nat → Nat → σ → σ

namespace BufferAllocatorOsx

variable {σ : Type} (target : Target) (calls : MachCalls σ) (settings : BufferAllocatorSettings)

def getBufferPointersInPageRange (pageAddress pageSize : Nat) : List Nat :=
  getPossibleBufferAddresses target.usize settings.minAddress settings.maxAddress pageAddress
    (Words.add target.usize pageAddress pageSize) settings.size.toNat target.granularity

/-- The kernel's address is kept as it comes, and given back when it cannot be protected. -/
def tryPointers : List Nat → σ → Option LocatorItem × σ
  | [], world => (none, world)
  | address :: rest, world =>
    match calls.machVmAllocate address settings.size.toNat world with
    | (none, world) => tryPointers rest world
    | (some allocated, world) =>
      match calls.machVmProtect allocated settings.size.toNat world with
      | (false, world) => tryPointers rest (calls.machVmDeallocate allocated settings.size.toNat world)
      | (true, world) => (some (LocatorItem.new allocated settings.size), world)

def tryAllocateBuffer (pageAddress pageSize : Nat) (world : σ) : Option LocatorItem × σ :=
  tryPointers calls settings (getBufferPointersInPageRange target settings pageAddress pageSize) world

def walkRegions (maxAddress : Nat) : Nat → Nat → σ → Option (Option LocatorItem × σ)
  | 0, _, _ => none
  | fuel + 1, currentAddress, world =>
    if currentAddress ≤ maxAddress then
      match calls.machVmRegion currentAddress world with
      | (.invalidAddress, world) =>
        let padding := maxAddress - currentAddress
        if padding > 0 then some (tryAllocateBuffer target calls settings currentAddress padding world)
        else some (none, world)
      | (.failure, world) => some (none, world)
      | (.region actualAddress availableSize, world) =>
        let tried :=
          if actualAddress > currentAddress then
            tryAllocateBuffer target calls settings currentAddress (actualAddress - currentAddress) world
          else (none, world)
        match tried with
        | (some item, world) => some (some item, world)
        | (none, world) => walkRegions maxAddress fuel (Words.add target.usize actualAddress availableSize) world
    else some (none, world)

end BufferAllocatorOsx

def allocateOsx {σ : Type} (target : Target) (calls : MachCalls σ) (fuel : Nat)
    (settings : BufferAllocatorSettings) (world : σ) : Option (Option LocatorItem × σ) :=
  let maxAddress := min target.sysInfo.maxAddress settings.maxAddress
  retry (BufferAllocatorOsx.walkRegions target calls settings maxAddress fuel settings.minAddress)
    settings.retries world

/-- The operating system's side on macOS: an allocation is fresh and made where it was asked for. -/
structure MachCalls.Sound {σ : Type} (calls : MachCalls σ) (usize : Nat) (held : σ → Set Nat) : Prop where
  regions : ∀ address world, held world ⊆ held (calls.machVmRegion address world).2
  empty : ∀ address world, (calls.machVmAllocate address 0 world).1 = none
  fixed : ∀ address size world allocated, (calls.machVmAllocate address size world).1 = some allocated →
    allocated = address ∧ allocated ≠ 0
  granted : ∀ address size world allocated, (calls.machVmAllocate address size world).1 = some allocated →
    allocated + size < usize ∧ Disjoint (Words.extent allocated size) (held world) ∧
    held world ∪ Words.extent allocated size ⊆ held (calls.machVmAllocate address size world).2
  refused : ∀ address size world, (calls.machVmAllocate address size world).1 = none →
    held world ⊆ held (calls.machVmAllocate address size world).2
  protects : ∀ address size world, held world ⊆ held (calls.machVmProtect address size world).2
  released : ∀ address size world,
    held world \ Words.extent address size ⊆ held (calls.machVmDeallocate address size world)

namespace BufferAllocatorOsx

variable {σ : Type} {target : Target} {calls : MachCalls σ} {settings : BufferAllocatorSettings}
  {held : σ → Set Nat}

theorem tryPointers_outcome (sound : calls.Sound target.usize held) {pointers : List Nat}
    (inWindow : ∀ address ∈ pointers, settings.minAddress ≤ address ∧
      (address + settings.size.toNat < target.usize → address + settings.size.toNat ≤ settings.maxAddress))
    {world last : σ} {result : Option LocatorItem}
    (run : tryPointers calls settings pointers world = (result, last)) :
    Outcome target.usize settings (held world) (held last) result := by
  induction pointers generalizing world with
  | nil =>
      cases run
      exact subset_rfl
  | cons address rest ih =>
      have windowRest := fun other member => inWindow other (List.mem_cons_of_mem address member)
      simp only [tryPointers] at run
      split at run
      · rename_i next answer
        have refused := sound.refused address settings.size.toNat world (by rw [answer])
        rw [answer] at refused
        exact (ih windowRest run).weaken refused
      · rename_i allocated next answer
        obtain ⟨rfl, notNull⟩ := sound.fixed address settings.size.toNat world allocated (by rw [answer])
        obtain ⟨word, separate, grows⟩ := sound.granted allocated settings.size.toNat world allocated (by rw [answer])
        rw [answer] at grows
        have protects := sound.protects allocated settings.size.toNat next
        split at run
        · rename_i after denied
          rw [denied] at protects
          refine (ih windowRest run).weaken fun byte inside => ?_
          refine sound.released _ _ _ ⟨protects (grows (Or.inl inside)), fun taken => ?_⟩
          exact Set.disjoint_left.mp separate taken inside
        · rename_i after permitted
          cases run
          rw [permitted] at protects
          have window := inWindow allocated List.mem_cons_self
          refine ⟨rfl, notNull, ?_, word, window.1, window.2 word, separate, grows.trans protects⟩
          by_contra nothing
          have zero : settings.size.toNat = 0 := by omega
          have denied := sound.empty allocated world
          rw [← zero, answer] at denied
          cases denied

theorem tryAllocateBuffer_outcome (sound : calls.Sound target.usize held) (pageAddress pageSize : Nat)
    {world last : σ} {result : Option LocatorItem}
    (run : tryAllocateBuffer target calls settings pageAddress pageSize world = (result, last)) :
    Outcome target.usize settings (held world) (held last) result := by
  refine tryPointers_outcome sound (fun address member => ?_) run
  obtain ⟨low, _, high⟩ := mem_candidates member
  exact ⟨low, fun word => (high word).1⟩

/-- What holds of a query and of every attempt holds of the walk over the regions. -/
theorem walkRegions_rule {Ends : σ → Option LocatorItem → σ → Prop} (rule : WalkRule Ends)
    (queried : ∀ address world, Ends world none (calls.machVmRegion address world).2)
    (tried : ∀ pageAddress pageSize world result last,
      tryAllocateBuffer target calls settings pageAddress pageSize world = (result, last) → Ends world result last)
    {maxAddress fuel currentAddress : Nat} {world last : σ} {result : Option LocatorItem}
    (run : walkRegions target calls settings maxAddress fuel currentAddress world = some (result, last)) :
    Ends world result last := by
  induction fuel generalizing currentAddress world with
  | zero => cases run
  | succ fuel ih =>
      have asked := queried currentAddress world
      simp only [walkRegions] at run
      split at run
      · split at run
        · rename_i next answer
          rw [answer] at asked
          split at run
          · exact rule.again _ _ _ _ asked (tried _ _ _ _ _ (Option.some.inj run))
          · cases run
            exact asked
        · rename_i next answer
          cases run
          rw [answer] at asked
          exact asked
        · rename_i actualAddress availableSize next answer
          rw [answer] at asked
          -- The gap before the region is tried only if there is one.
          have gap : ∀ found after, (if actualAddress > currentAddress then
                tryAllocateBuffer target calls settings currentAddress (actualAddress - currentAddress) next
              else (none, next)) = (found, after) → Ends next found after := by
            intro found after attempt
            split at attempt
            · exact tried _ _ _ _ _ attempt
            · cases attempt
              exact rule.idle _
          split at run
          · rename_i item after found
            cases run
            exact rule.again _ _ _ _ asked (gap _ _ found)
          · rename_i after missed
            exact rule.again _ _ _ _ (rule.again _ _ _ _ asked (gap _ _ missed)) (ih run)
      · cases run
        exact rule.idle _

end BufferAllocatorOsx

theorem allocateOsx_outcome {σ : Type} {target : Target} {calls : MachCalls σ} {held : σ → Set Nat}
    {settings : BufferAllocatorSettings} (sound : calls.Sound target.usize held) {fuel : Nat} {world last : σ}
    {result : Option LocatorItem} (run : allocateOsx target calls fuel settings world = some (result, last)) :
    Outcome target.usize settings (held world) (held last) result := by
  have rule := Outcome.walkRule target.usize settings held
  refine rule.retry (fun _ _ _ once => ?_) run
  exact BufferAllocatorOsx.walkRegions_rule rule sound.regions
    (fun _ _ _ _ _ => BufferAllocatorOsx.tryAllocateBuffer_outcome sound _ _) once

end ReloadedBuffers
