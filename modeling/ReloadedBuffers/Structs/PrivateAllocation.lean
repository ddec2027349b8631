import ReloadedBuffers.Internal.Allocate
import ReloadedBuffers.Internal.LinuxKernel

/-! Private allocations on Linux: the memory is mapped in the calling process, and
released there only if the settings named that process.
-/

set_option autoImplicit false

namespace ReloadedBuffers

variable {σ : Type}

structure PrivateAllocation where
  baseAddress : Nat
  size : Nat
  thisProcessId : UInt32
  deriving DecidableEq, Repr

def PrivateAllocation.dropUnix (target : Target) (calls : LinuxCalls σ) (allocation : PrivateAllocation) (world : σ) : σ :=
  if allocation.thisProcessId = target.sysInfo.thisProcessId then
    calls.munmap allocation.baseAddress allocation.size world
  else
    -- Not implemented for another process.
    world

namespace Buffers

/-- The unwrapping of a null address would not return. -/
def allocatePrivateMemory (target : Target) (os : Os σ) (fuel : Nat) (settings : BufferAllocatorSettings) (world : σ) :
    Option (Except BufferAllocationError PrivateAllocation × σ) :=
  match allocate target os fuel settings world with
  | none => none
  | some (.error error, world) => some (.error error, world)
  | some (.ok item, world) =>
    if item.baseAddress = 0 then none
    else some (.ok ⟨item.baseAddress, item.size.toNat, settings.targetProcessId⟩, world)

/-- A private allocation is an item that was allocated. -/
theorem allocatePrivateMemory_ok {target : Target} {os : Os σ} {fuel : Nat} {settings : BufferAllocatorSettings}
    {before after : σ} {allocation : PrivateAllocation}
    (run : allocatePrivateMemory target os fuel settings before = some (.ok allocation, after)) :
    ∃ item, allocate target os fuel settings before = some (.ok item, after) ∧
      allocation = ⟨item.baseAddress, item.size.toNat, settings.targetProcessId⟩ := by
  unfold allocatePrivateMemory at run
  split at run
  · cases run
  · cases run
  · rename_i item system allocated
    split at run
    · cases run
    · cases run
      exact ⟨item, allocated, rfl⟩

/-- Dropping a private allocation undoes it, and other processes get none. -/
structure Inverse (target : Target) (os : Os LinuxKernel) (fuel : Nat) (settings : BufferAllocatorSettings)
    (kernel : LinuxKernel) : Prop where
  restores : ∀ allocation after,
    allocatePrivateMemory target os fuel settings kernel = some (.ok allocation, after) →
    (allocation.dropUnix target os.linux after).mappings = kernel.mappings
  refuses : settings.targetProcessId ≠ target.sysInfo.thisProcessId → ∃ error after,
    allocatePrivateMemory target os fuel settings kernel = some (.error error, after) ∧
    after.mapped = kernel.mapped

/-- What the kernel would answer to all the requests of an allocation, if none was kept. -/
def replies (target : Target) (settings : BufferAllocatorSettings) (kernel : LinuxKernel) : List Reply :=
  LinuxKernel.replies
    (LinuxKernel.requests target (settings.sanitize target) settings.retries kernel.readings) kernel.answers

/-- For the calling process, no mapping at null comes before the first one that is kept;
for another process, its memory map can be read as often as it is asked for, and every
request fails. -/
def Answered (target : Target) (settings : BufferAllocatorSettings) (kernel : LinuxKernel) : Prop :=
  if settings.targetProcessId = target.sysInfo.thisProcessId then
    (∀ reply ∈ replies target settings kernel, reply.kept = false) ∨
      ∀ reply ∈ (replies target settings kernel).takeWhile (!·.kept), reply.answer ≠ 0
  else LinuxKernel.Readable settings.retries kernel.readings ∧
    ∀ reply ∈ replies target settings kernel, reply.kept = false ∧ reply.answer = mapFailed target.usize

variable {target : Target} {os : Os LinuxKernel} {fuel : Nat} {settings : BufferAllocatorSettings}
  {kernel after : LinuxKernel}

theorem allocatePrivateMemory_served (linux : target.os = .linux) (calls : os.linux = LinuxKernel.calls target.usize) :
    (∃ result after, LinuxKernel.Served target.usize (settings.sanitize target).size.toNat
        (LinuxKernel.requests target (settings.sanitize target) settings.retries kernel.readings) kernel result after ∧
      (result = none → LinuxKernel.Readable settings.retries kernel.readings) ∧
      allocate target os fuel settings kernel = some (match result with
        | some address => .ok (LocatorItem.new address (settings.sanitize target).size)
        | none => .error ⟨settings.sanitize target, "Failed to allocate buffer on Linux"⟩, after)) ∨
      allocate target os fuel settings kernel = none ∧ ¬ LinuxKernel.Readable settings.retries kernel.readings ∧
        ∀ reply ∈ replies target settings kernel, reply.kept = false := by
  rcases @LinuxKernel.allocateLinux_served target (settings.sanitize target) kernel with
    ⟨result, after, run, served, readable⟩ | ⟨run, unreadable, refused⟩
  · refine .inl ⟨result, after, served, readable, ?_⟩
    unfold allocate
    rw [linux]
    simp only [calls, run]
    cases result <;> rfl
  · refine .inr ⟨?_, unreadable, refused⟩
    unfold allocate
    rw [linux]
    simp only [calls, run]

/-- A call that does not return gives no allocation to be dropped, and refuses nothing. -/
theorem inverse_iff_of_unreadable (run : allocate target os fuel settings kernel = none)
    (unreadable : ¬ LinuxKernel.Readable settings.retries kernel.readings)
    (refused : ∀ reply ∈ replies target settings kernel, reply.kept = false) :
    Inverse target os fuel settings kernel ↔ Answered target settings kernel := by
  have call : allocatePrivateMemory target os fuel settings kernel = none := by
    unfold allocatePrivateMemory
    rw [run]
  constructor
  · intro inverse
    unfold Answered
    split
    · exact .inl refused
    · rename_i foreign
      obtain ⟨_, _, same, _⟩ := inverse.refuses foreign
      cases call.symm.trans same
  · intro answered
    constructor
    · intro allocation last success
      cases call.symm.trans success
    · intro foreign
      unfold Answered at answered
      rw [if_neg foreign] at answered
      exact absurd answered.1 unreadable

/-- Nothing kept: the caller is told so, and what matters is whether anything was mapped. -/
theorem inverse_iff_of_refused {error : BufferAllocationError}
    (readable : LinuxKernel.Readable settings.retries kernel.readings)
    (refused : LinuxKernel.Refused target.usize (settings.sanitize target).size.toNat
      (LinuxKernel.requests target (settings.sanitize target) settings.retries kernel.readings) kernel after)
    (run : allocate target os fuel settings kernel = some (.error error, after)) :
    Inverse target os fuel settings kernel ↔ Answered target settings kernel := by
  have call : allocatePrivateMemory target os fuel settings kernel = some (.error error, after) := by
    unfold allocatePrivateMemory
    rw [run]
  have mapped := refused.mapped_eq_iff
  constructor
  · intro inverse
    unfold Answered
    split
    · exact .inl refused.refused
    · rename_i foreign
      obtain ⟨_, _, same, unmapped⟩ := inverse.refuses foreign
      cases call.symm.trans same
      exact ⟨readable, fun reply member => ⟨refused.refused reply member, mapped.mp unmapped reply member⟩⟩
  · intro answered
    constructor
    · intro allocation last success
      cases call.symm.trans success
    · intro foreign
      unfold Answered at answered
      rw [if_neg foreign] at answered
      exact ⟨error, after, call, mapped.mpr fun reply member => (answered.2 reply member).2⟩

section

variable {first rest : List Nat} {request : Nat} {middle : LinuxKernel} {size : UInt32}
  (requests : LinuxKernel.requests target (settings.sanitize target) settings.retries kernel.readings =
    first ++ request :: rest)
  (refused : LinuxKernel.Refused target.usize size.toNat first kernel middle)
include requests refused

/-- The replies are those that were not kept, the one that was, and some never asked for. -/
theorem replies_of_kept : ∃ unasked, replies target settings kernel =
    LinuxKernel.replies first kernel.answers ++ ⟨request, middle.answers 0⟩ :: unasked := by
  unfold replies
  rw [requests, LinuxKernel.replies_append, ← refused.answers]
  exact ⟨_, rfl⟩

theorem reply_mem : ⟨request, middle.answers 0⟩ ∈ replies target settings kernel := by
  obtain ⟨unasked, all⟩ := replies_of_kept requests refused
  rw [all]
  simp

theorem takeWhile_replies (kept : (⟨request, middle.answers 0⟩ : Reply).kept = true) :
    (replies target settings kernel).takeWhile (!·.kept) = LinuxKernel.replies first kernel.answers := by
  obtain ⟨unasked, all⟩ := replies_of_kept requests refused
  rw [all, List.takeWhile_append_of_pos, List.takeWhile_cons_of_neg, List.append_nil]
  · simp [kept]
  · intro reply member
    simp [refused.refused reply member]

end

/-- In the calling process, dropping what the kernel mapped where it was asked to unmaps it. -/
theorem dropUnix_mmap {middle : LinuxKernel} {request size : Nat} (calls : os.linux = LinuxKernel.calls target.usize)
    (own : settings.targetProcessId = target.sysInfo.thisProcessId) (answer : middle.answers 0 = request) :
    (PrivateAllocation.dropUnix target os.linux ⟨request, size, settings.targetProcessId⟩
      (LinuxKernel.mmap target.usize request size middle).2).mappings = middle.mappings := by
  unfold PrivateAllocation.dropUnix
  rw [if_pos own, calls]
  have unmapped := LinuxKernel.munmap_mmap target.usize size request middle
  rwa [answer] at unmapped

/-- Something kept: it was mapped here, whatever process the settings name. -/
theorem inverse_iff_of_kept {first rest : List Nat} {request : Nat} {middle : LinuxKernel} {size : UInt32}
    (calls : os.linux = LinuxKernel.calls target.usize)
    (requests : LinuxKernel.requests target (settings.sanitize target) settings.retries kernel.readings =
      first ++ request :: rest)
    (refused : LinuxKernel.Refused target.usize size.toNat first kernel middle)
    (kept : (⟨request, middle.answers 0⟩ : Reply).kept = true)
    (last : after = (LinuxKernel.mmap target.usize request size.toNat middle).2)
    (run : allocate target os fuel settings kernel = some (.ok (LocatorItem.new request size), after)) :
    Inverse target os fuel settings kernel ↔ Answered target settings kernel := by
  have answer : middle.answers 0 = request := (Reply.kept_iff.mp kept).1
  have given : request ≠ 0 := answer ▸ (Reply.kept_iff.mp kept).2
  have call : allocatePrivateMemory target os fuel settings kernel =
      some (.ok ⟨request, size.toNat, settings.targetProcessId⟩, after) := by
    unfold allocatePrivateMemory
    rw [run]
    exact if_neg given
  have earlier := takeWhile_replies requests refused kept
  have member := reply_mem requests refused
  have undone : settings.targetProcessId = target.sysInfo.thisProcessId →
      (PrivateAllocation.dropUnix target os.linux ⟨request, size.toNat, settings.targetProcessId⟩ after).mappings =
        middle.mappings := by
    intro own
    rw [last]
    exact dropUnix_mmap calls own answer
  constructor
  · intro inverse
    unfold Answered
    split
    · rename_i own
      right
      rw [earlier]
      apply refused.mappings_eq_iff.mp
      exact (undone own).symm.trans (inverse.restores _ _ call)
    · rename_i foreign
      obtain ⟨_, _, same, _⟩ := inverse.refuses foreign
      cases call.symm.trans same
  · intro answered
    unfold Answered at answered
    split at answered
    · rename_i own
      have safe := answered.resolve_left fun none => by
        rw [none _ member] at kept
        cases kept
      rw [earlier] at safe
      constructor
      · intro allocation final success
        cases call.symm.trans success
        exact (undone own).trans (refused.mappings_eq_iff.mpr safe)
      · exact fun foreign => absurd own foreign
    · rw [(answered.2 _ member).1] at kept
      cases kept

/-- Private allocation and release are inverse, and other processes are refused, exactly
when the kernel answers so. -/
theorem allocatePrivateMemory_inverse_iff (linux : target.os = .linux)
    (calls : os.linux = LinuxKernel.calls target.usize) :
    Inverse target os fuel settings kernel ↔ Answered target settings kernel := by
  rcases allocatePrivateMemory_served linux calls with
    ⟨result, after, served, readable, run⟩ | ⟨run, unreadable, refused⟩
  · cases served with
    | refused refused => exact inverse_iff_of_refused (readable rfl) refused run
    | kept requests refused kept last => exact inverse_iff_of_kept calls requests refused kept last run
  · exact inverse_iff_of_unreadable run unreadable refused

/-- A system of which only the Linux kernel is used. -/
def kernelOs (usize : Nat) : Os LinuxKernel where
  linux := LinuxKernel.calls usize
  windows := ⟨fun _ kernel => (false, kernel), fun _ kernel => (none, kernel), fun _ kernel => (none, kernel),
    fun _ _ kernel => (0, kernel), fun _ _ kernel => kernel⟩
  macos := ⟨fun _ kernel => (.failure, kernel), fun _ _ kernel => (none, kernel), fun _ _ kernel => (false, kernel),
    fun _ _ kernel => kernel⟩
  alloc _ _ kernel := (0, kernel)
  raw _ _ := ⟨0, 0, 0, 0, 0, fun _ => ⟨0, 0, 0, 0⟩⟩

/-- A kernel with one mapping at the low end, that will map where it is first asked to. -/
def grantingKernel : LinuxKernel where
  mappings := [⟨0, 0x10000⟩]
  mapped := 1
  answers index := if index = 0 then 0x7FFFFFFFE000 else mapFailed smallTarget.usize
  readings _ := some [⟨0, 0x10000⟩]

theorem allocatePrivateMemory_inverse_iff_own :
    Inverse smallTarget (kernelOs smallTarget.usize) 0 ⟨0x20000, 0x7FFFFFFFFFFF, 4096, 1, 1, true⟩ grantingKernel := by
  apply (allocatePrivateMemory_inverse_iff rfl rfl).mpr
  unfold Answered
  rw [if_pos (by decide)]
  right
  decide

/-- The same for the process with the id 2: the memory is mapped in the calling process,
and dropping the allocation leaves it there. -/
theorem allocatePrivateMemory_foreign : ∃ allocation after,
    allocatePrivateMemory smallTarget (kernelOs smallTarget.usize) 0 ⟨0x20000, 0x7FFFFFFFFFFF, 4096, 2, 1, true⟩
      grantingKernel = some (.ok allocation, after) ∧
    (allocation.dropUnix smallTarget (kernelOs smallTarget.usize).linux after).mappings =
      [⟨0x7FFFFFFFE000, 4096⟩, ⟨0, 0x10000⟩] ∧
    ¬ Inverse smallTarget (kernelOs smallTarget.usize) 0 ⟨0x20000, 0x7FFFFFFFFFFF, 4096, 2, 1, true⟩
      grantingKernel := by
  have call : ∃ allocation after,
      allocatePrivateMemory smallTarget (kernelOs smallTarget.usize) 0 ⟨0x20000, 0x7FFFFFFFFFFF, 4096, 2, 1, true⟩
        grantingKernel = some (.ok allocation, after) ∧
      (allocation.dropUnix smallTarget (kernelOs smallTarget.usize).linux after).mappings =
        [⟨0x7FFFFFFFE000, 4096⟩, ⟨0, 0x10000⟩] := ⟨_, _, rfl, rfl⟩
  obtain ⟨allocation, after, run, left⟩ := call
  refine ⟨allocation, after, run, left, ?_⟩
  intro inverse
  have restored := inverse.restores allocation after run
  rw [left] at restored
  cases restored

end Buffers

end ReloadedBuffers
