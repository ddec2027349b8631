import ReloadedBuffers.Internal.Allocate

/-! The calls of a back end as steps of the system. Whatever they answer, an
allocation takes the system along such steps only.
-/

set_option autoImplicit false

namespace ReloadedBuffers

open Relation (ReflTransGen)

variable {σ : Type}

inductive LinuxCalls.Called (calls : LinuxCalls σ) : σ → σ → Prop where
  | memoryMap {processId : UInt32} {world next : σ} {regions : List MemoryMapEntry} :
      calls.memoryMap processId world = some (regions, next) → calls.Called world next
  | mmap (address length : Nat) (world : σ) : calls.Called world (calls.mmap address length world).2
  | munmap (address length : Nat) (world : σ) : calls.Called world (calls.munmap address length world)

inductive WindowsCalls.Called (calls : WindowsCalls σ) : σ → σ → Prop where
  | openProcess (processId : UInt32) (world : σ) : calls.Called world (calls.openProcess processId world).2
  | isWow64Process (processId : UInt32) (world : σ) : calls.Called world (calls.isWow64Process processId world).2
  | virtualQuery (address : Nat) (world : σ) : calls.Called world (calls.virtualQuery address world).2
  | virtualAlloc (address length : Nat) (world : σ) : calls.Called world (calls.virtualAlloc address length world).2
  | virtualFree (address length : Nat) (world : σ) : calls.Called world (calls.virtualFree address length world)

inductive MachCalls.Called (calls : MachCalls σ) : σ → σ → Prop where
  | machVmRegion (address : Nat) (world : σ) : calls.Called world (calls.machVmRegion address world).2
  | machVmAllocate (address length : Nat) (world : σ) :
      calls.Called world (calls.machVmAllocate address length world).2
  | machVmProtect (address length : Nat) (world : σ) : calls.Called world (calls.machVmProtect address length world).2
  | machVmDeallocate (address length : Nat) (world : σ) :
      calls.Called world (calls.machVmDeallocate address length world)

/-- A call of the target's own back end. -/
def Os.Called (os : Os σ) (target : Target) : σ → σ → Prop :=
  match target.os with
  | .linux => os.linux.Called
  | .windows => os.windows.Called
  | .macos => os.macos.Called

theorem called_rule {α : Type} (called : σ → σ → Prop) :
    WalkRule fun (before : σ) (_ : Option α) after => ReflTransGen called before after where
  idle _ := .refl
  again _ _ _ _ first later := first.trans later

theorem tryCandidates_called {called : σ → σ → Prop} {request : Nat → σ → Nat × σ} {release : Nat → σ → σ}
    (asks : ∀ address world, called world (request address world).2)
    (gives : ∀ address world, called world (release address world)) {candidates : List Nat} {world last : σ}
    {result : Option Nat} (run : tryCandidates request release candidates world = (result, last)) :
    ReflTransGen called world last := by
  refine (called_rule called).tryCandidates ?_ ?_ ?_ run
  · exact fun address _ world _ => .single (asks address world)
  · exact fun address _ world _ _ => .head (asks address world) (.single (gives _ _))
  · exact fun address _ world _ _ => .single (asks address world)

variable {target : Target} {settings : BufferAllocatorSettings} {world last : σ}

theorem allocateLinux_called {calls : LinuxCalls σ} {result : Option LocatorItem}
    (run : allocateLinux target calls settings world = some (result, last)) : ReflTransGen calls.Called world last := by
  refine allocateLinux_rule (called_rule calls.Called) (fun _ _ _ read => .single (.memoryMap read)) ?_ run
  intro _ _ _ _ _ _ start found next tried
  cases tried
  exact tryCandidates_called (.mmap · _ ·) (.munmap · _ ·) rfl

theorem BufferAllocatorWindows.tryAllocateBuffer_called {calls : WindowsCalls σ} {info : MemoryBasicInformation}
    {result : Option LocatorItem} (run : tryAllocateBuffer target calls settings info world = (result, last)) :
    ReflTransGen calls.Called world last := by
  unfold tryAllocateBuffer at run
  split at run
  · cases run
    exact .refl
  · cases run
    exact tryCandidates_called (.virtualAlloc · _ ·) (.virtualFree · _ ·) rfl

theorem allocateWindows_called {calls : WindowsCalls σ} {fuel : Nat} {result : Except String LocatorItem}
    (run : allocateWindows target calls fuel settings world = some (result, last)) :
    ReflTransGen calls.Called world last := by
  have queried : ∀ address start, calls.Called start (calls.virtualQuery address start).2 := .virtualQuery
  refine allocateWindows_rule ⟨called_rule calls.Called, fun _ _ => .single (queried _ _), ?_⟩
    (fun _ => .single (.openProcess _ _)) (fun _ => .single (.isWow64Process _ _)) run
  intro address start info next found after answer tried
  have asked := queried address start
  rw [answer] at asked
  exact .head asked (BufferAllocatorWindows.tryAllocateBuffer_called tried)

theorem BufferAllocatorOsx.tryPointers_called {calls : MachCalls σ} {pointers : List Nat} {result : Option LocatorItem}
    (run : tryPointers calls settings pointers world = (result, last)) : ReflTransGen calls.Called world last := by
  induction pointers generalizing world with
  | nil =>
      cases run
      exact .refl
  | cons address rest ih =>
      have asked : calls.Called world (calls.machVmAllocate address settings.size.toNat world).2 :=
        .machVmAllocate _ _ _
      simp only [tryPointers] at run
      split at run
      · rename_i next answer
        rw [answer] at asked
        exact .head asked (ih run)
      · rename_i allocated next answer
        rw [answer] at asked
        have protects : calls.Called next (calls.machVmProtect allocated settings.size.toNat next).2 :=
          .machVmProtect _ _ _
        split at run
        · rename_i after denied
          rw [denied] at protects
          exact .head asked (.head protects (.head (.machVmDeallocate _ _ _) (ih run)))
        · rename_i after permitted
          cases run
          rw [permitted] at protects
          exact .head asked (.single protects)

theorem allocateOsx_called {calls : MachCalls σ} {fuel : Nat} {result : Option LocatorItem}
    (run : allocateOsx target calls fuel settings world = some (result, last)) :
    ReflTransGen calls.Called world last := by
  refine (called_rule calls.Called).retry (fun _ _ _ once => ?_) run
  exact BufferAllocatorOsx.walkRegions_rule (called_rule calls.Called) (fun _ _ => .single (.machVmRegion _ _))
    (fun _ _ _ _ _ tried => BufferAllocatorOsx.tryPointers_called tried) once

theorem allocate_called {os : Os σ} {fuel : Nat} {result : Except BufferAllocationError LocatorItem}
    (run : allocate target os fuel settings world = some (result, last)) :
    ReflTransGen (os.Called target) world last := by
  have allocated := allocate_cases run
  unfold Os.Called
  cases system : target.os with
  | linux =>
      simp only [system] at allocated
      exact allocateLinux_called allocated
  | windows =>
      simp only [system] at allocated
      obtain ⟨found, allocated, _⟩ := allocated
      exact allocateWindows_called allocated
  | macos =>
      simp only [system] at allocated
      exact allocateOsx_called allocated

/-- The global allocator gives out memory that is not in use, and no call of the back
end takes memory out of use. Nothing else is asked of the system. -/
structure Os.Reserves (os : Os σ) (target : Target) (held : σ → Set Nat) : Prop where
  heap : os.Heap target held
  called : ∀ before after, os.Called target before after → held before ⊆ held after

theorem Os.Reserves.allocate {os : Os σ} {held : σ → Set Nat} (reserves : os.Reserves target held) {fuel : Nat}
    {result : Except BufferAllocationError LocatorItem}
    (run : allocate target os fuel settings world = some (result, last)) : held world ⊆ held last := by
  have called := allocate_called run
  clear run
  induction called with
  | refl => exact subset_rfl
  | tail _ called ih => exact ih.trans (reserves.called _ _ called)

end ReloadedBuffers
