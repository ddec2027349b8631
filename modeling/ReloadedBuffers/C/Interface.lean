import Mathlib.Data.List.AList
import ReloadedBuffers.Buffers.Private
import ReloadedBuffers.C.ErrorTexts
import ReloadedBuffers.Foundation.Ledger

/-! The interface for C. A call returns a structure that owns a buffer, a private
allocation or the text of an error, and nothing but the call that frees it gives that
back. Calls are matched with those of the Rust interface, and the heap with the results.
A private allocation that fails has no result: its behaviour is undefined.
-/

set_option autoImplicit false

namespace ReloadedBuffers

/-- The result of fetching a buffer. Null is the error 0, and no item. -/
structure GetBufferResult where
  isOk : Bool
  ok : Option SafeLocatorItem
  err : Nat
  deriving DecidableEq

/-- The result of making an allocation. -/
structure AllocationResult where
  isOk : Bool
  ok : PrivateAllocation
  err : Nat
  deriving DecidableEq

namespace C

variable {σ : Type}

/-- The C strings on the heap, by their addresses. -/
abbrev Strings := AList fun _ : Nat => List Char

/-- `CString::into_raw`: a place on the heap becomes the caller's. -/
def intoRaw (place : Strings → Nat) (text : List Char) (strings : Strings) : Nat × Strings :=
  (place strings, strings.insert (place strings) text)

/-- `CString::from_raw` and the drop; only what `into_raw` has returned may be passed. -/
def fromRaw (string : Nat) (strings : Strings) : Option Strings :=
  if string ∈ strings then some (strings.erase string) else none

def freeString (string : Nat) (strings : Strings) : Option Strings :=
  if string = 0 then some strings else fromRaw string strings

/-- What a C compilation is given: the feature `no_format` and the places on its heap. -/
structure Binding where
  noFormat : Bool
  place : Strings → Nat

/-- The heap gives out places that are neither null nor in use. -/
structure Binding.Sound (binding : Binding) : Prop where
  nonzero : ∀ strings, binding.place strings ≠ 0
  fresh : ∀ strings, binding.place strings ∉ strings

/-- How both searches are answered. The unwrapping of a text that is no C string would not return. -/
def answerSearch (binding : Binding) (strings : Strings) :
    Except BufferSearchError SafeLocatorItem → Option (GetBufferResult × Strings)
  | .ok buffer => some (⟨true, some buffer, 0⟩, strings)
  | .error error => do
    let text ← cString (error.toText binding.noFormat)
    let (raw, strings) := intoRaw binding.place text strings
    return (⟨false, none, raw⟩, strings)

def buffersGetBuffer (target : Target) (os : Os σ) (binding : Binding) (fuel depth first : Nat)
    (settings : BufferSearchSettings) (world : World σ) (strings : Strings) :
    Option (GetBufferResult × World σ × Strings) := do
  let (result, world) ← Buffers.getBuffer target os fuel depth settings first world
  let (result, strings) ← answerSearch binding strings result
  return (result, world, strings)

def buffersGetBufferAligned (target : Target) (os : Os σ) (binding : Binding) (fuel depth first : Nat)
    (settings : BufferSearchSettings) (alignment : UInt32) (world : World σ) (strings : Strings) :
    Option (GetBufferResult × World σ × Strings) := do
  let (result, world) ← Buffers.getBufferAligned target os fuel depth settings alignment first world
  let (result, strings) ← answerSearch binding strings result
  return (result, world, strings)

/-- An error is put beside `PrivateAllocation::null`, which makes a `NonNull` out of a null
pointer: there is no such value, and nothing can be said of a program that makes it. -/
def answerAllocation : Except BufferAllocationError PrivateAllocation → Option AllocationResult
  | .ok allocation => some ⟨true, allocation, 0⟩
  | .error _ => none

def buffersAllocatePrivateMemory (target : Target) (os : Os σ) (fuel : Nat) (settings : BufferAllocatorSettings)
    (system : σ) : Option (AllocationResult × σ) := do
  let (result, system) ← Buffers.allocatePrivateMemory target os fuel settings system
  let result ← answerAllocation result
  return (result, system)

/-- A null item would be written through. -/
def freeLocatorItem (item : Option SafeLocatorItem) (locators : Locators) : Option Locators := do
  let pointer ← item
  pointer.drop locators

def freeGetBufferResult (result : GetBufferResult) (locators : Locators) (strings : Strings) :
    Option (Locators × Strings) := do
  if result.isOk then
    let locators ← freeLocatorItem result.ok locators
    return (locators, strings)
  else
    let strings ← freeString result.err strings
    return (locators, strings)

/-- The allocation is moved out and dropped; that of an error is dropped at the end of the scope. -/
def freeAllocationResult (target : Target) (os : Os σ) (result : AllocationResult) (system : σ)
    (strings : Strings) : Option (σ × Strings) := do
  if result.isOk then
    return (result.ok.drop target os system, strings)
  else
    let strings ← freeString result.err strings
    return (result.ok.drop target os system, strings)

def locatoritemAppendBytes (target : Target) (item : Option SafeLocatorItem) (data : List UInt8) (locators : Locators) :
    Option (Nat × Locators) := do
  let pointer ← item
  pointer.append target .bytes data locators

/-! ### Clients -/

/-- What a client holds under a name, until it is freed. -/
inductive Result where
  | buffer (result : GetBufferResult)
  | allocation (result : AllocationResult)
  deriving DecidableEq

namespace Result

def isOk : Result → Bool
  | .buffer result => result.isOk
  | .allocation result => result.isOk

def err : Result → Nat
  | .buffer result => result.err
  | .allocation result => result.err

/-- The text that the client has to free. -/
def string (result : Result) : Option Nat := if result.isOk then none else some result.err

/-- The buffer that the client has to unlock. -/
def lease (budget : Nat) : Result → Option Buffers.Lease
  | .buffer result => if result.isOk then result.ok.map (⟨·, budget⟩) else none
  | .allocation _ => none

/-- The allocation that the client has to drop. -/
def privateAllocation : Result → Option PrivateAllocation
  | .buffer _ => none
  | .allocation result => if result.isOk then some result.ok else none

/-- Just one of the two fields is filled in, of an allocation always the same. -/
def Filled : Result → Prop
  | .buffer result => result.ok.isSome = result.isOk ∧ (result.isOk ↔ result.err = 0)
  | .allocation result => result.isOk = true ∧ result.err = 0

theorem Filled.err_ne_zero {result : Result} (filled : result.Filled) (failed : result.isOk = false) : result.err ≠ 0 := by
  cases result with
  | buffer result =>
      intro null
      exact absurd (filled.2.mpr null) (by simpa [isOk] using failed)
  | allocation result => exact absurd filled.1 (by simpa [isOk] using failed)

end Result

inductive Call where
  | getBuffer (name : Nat) (settings : BufferSearchSettings)
  | getBufferAligned (name : Nat) (settings : BufferSearchSettings) (alignment : UInt32)
  | appendBytes (name : Nat) (data : List UInt8)
  | allocatePrivateMemory (name : Nat) (settings : BufferAllocatorSettings)
  | free (name : Nat)

/-- Beside the results, clients keep what is left of the sizes that they asked for. -/
structure Session (σ : Type) where
  world : World σ
  strings : Strings
  results : Nat → Option Result
  records : List (Arena.Record SafeLocatorItem)
  owed : Nat → Nat

namespace Session

def receive (session : Session σ) (name size : Nat) (result : Result) (world : World σ) (strings : Strings) : Session σ where
  world := world
  strings := strings
  results := Function.update session.results name (some result)
  records := session.records
  owed := Function.update session.owed name size

def erase (session : Session σ) (name : Nat) (world : World σ) (strings : Strings) : Session σ :=
  { session with world := world, strings := strings, results := Function.update session.results name none }

def step (target : Target) (os : Os σ) (binding : Binding) (fuel depth first : Nat) (session : Session σ) :
    Call → Option (Session σ)
  | .getBuffer name settings => do
    guard (session.results name = none)
    let (result, world, strings) ←
      buffersGetBuffer target os binding fuel depth first settings session.world session.strings
    return session.receive name settings.size.toNat (.buffer result) world strings
  | .getBufferAligned name settings alignment => do
    guard (session.results name = none)
    let (result, world, strings) ←
      buffersGetBufferAligned target os binding fuel depth first settings alignment session.world session.strings
    return session.receive name settings.size.toNat (.buffer result) world strings
  | .appendBytes name data => do
    let .buffer result ← session.results name | none
    let pointer ← result.ok
    let (address, locators) ← locatoritemAppendBytes target result.ok data session.world.locators
    return { session with
      world := { session.world with locators := locators }
      records := ⟨pointer, address, data.length⟩ :: session.records
      owed := Function.update session.owed name (session.owed name - data.length) }
  | .allocatePrivateMemory name settings => do
    guard (session.results name = none)
    let (result, system) ← buffersAllocatePrivateMemory target os fuel settings session.world.os
    return session.receive name (session.owed name) (.allocation result) { session.world with os := system }
      session.strings
  | .free name => do
    match ← session.results name with
    | .buffer result =>
      let (locators, strings) ← freeGetBufferResult result session.world.locators session.strings
      return session.erase name { session.world with locators := locators } strings
    | .allocation result =>
      let (system, strings) ← freeAllocationResult target os result session.world.os session.strings
      return session.erase name { session.world with os := system } strings

def owns (session : Session σ) (name : Nat) : Option Nat := (session.results name).bind Result.string

def lease (session : Session σ) (name : Nat) : Option Buffers.Lease :=
  (session.results name).bind (Result.lease (session.owed name))

def allocation (session : Session σ) (name : Nat) : Option PrivateAllocation :=
  (session.results name).bind Result.privateAllocation

/-- What a client of the Rust interface would hold. -/
def api (session : Session σ) : Buffers.ApiSession σ where
  session := ⟨session.world, session.records, session.lease⟩
  allocations := session.allocation

/-- What a client of the Rust interface would do; an error is not a value to be dropped. -/
def request (session : Session σ) : Call → Option Buffers.ApiOperation
  | .getBuffer name settings => some (.buffers (.getBuffer name settings))
  | .getBufferAligned name settings alignment => some (.buffers (.getBufferAligned name settings alignment))
  | .appendBytes name data => some (.buffers (.append name .bytes data))
  | .allocatePrivateMemory name settings => some (.allocatePrivateMemory name settings)
  | .free name =>
    match session.results name with
    | some (.buffer result) => if result.isOk then some (.buffers (.drop name)) else none
    | some (.allocation result) => if result.isOk then some (.dropAllocation name) else none
    | none => none

end Session

/-- The rules of the clients are those of the Rust interface. -/
def Call.Allowed (target : Target) (session : Session σ) (call : Call) : Prop :=
  ∀ operation ∈ session.request call, operation.Allowed target session.api

/-! ### Answers -/

section

variable {binding : Binding} {strings last : Strings}

/-- A result owns a text that is new on the heap, or no text. -/
inductive Answered (binding : Binding) (strings : Strings) (result : Result) : Strings → Prop where
  | ok : result.isOk = true → Answered binding strings result strings
  | error (text : List Char) : result.isOk = false → result.err = binding.place strings →
      Answered binding strings result (strings.insert (binding.place strings) text)

end

namespace Session

variable {session next : Session σ} {name size : Nat} {result : Result} {world : World σ} {strings : Strings}

theorem owns_receive : (session.receive name size result world strings).owns =
    Function.update session.owns name result.string :=
  Function.comp_update (fun known : Option Result => known.bind Result.string) session.results name (some result)

theorem owns_erase : (session.erase name world strings).owns = Function.update session.owns name none :=
  Function.comp_update (fun known : Option Result => known.bind Result.string) session.results name none

/-- The heap and the results: every text is owned by one result, and just one field of
every result is filled in. -/
structure Balanced (session : Session σ) : Prop where
  filled : ∀ name result, session.results name = some result → result.Filled
  ledger : Ledger.Balanced session.owns (· ∈ session.strings)

namespace Balanced

variable {binding : Binding}

theorem receive (balanced : session.Balanced) (heap : binding.Sound) (unused : session.results name = none)
    (filled : result.Filled) (answered : Answered binding session.strings result strings) :
    (session.receive name size result world strings).Balanced := by
  constructor
  · intro other known found
    rcases Ledger.update_eq_some.mp found with ⟨_, new⟩ | ⟨_, old⟩
    · cases new
      exact filled
    · exact balanced.filled other known old
  · have owns : session.owns name = none := by rw [Session.owns, unused]; rfl
    rw [owns_receive]
    cases answered with
    | ok succeeded =>
        rw [Result.string, succeeded, if_pos rfl, ← owns, Function.update_eq_self]
        exact balanced.ledger
    | error text failed here =>
        have ledger := balanced.ledger.acquire (heap.fresh session.strings) owns
        simp only [Result.string, failed, here, Session.receive, AList.mem_insert]
        exact ledger

theorem erase (balanced : session.Balanced)
    (ledger : Ledger.Balanced (Function.update session.owns name none) (· ∈ strings)) :
    (session.erase name world strings).Balanced := by
  constructor
  · intro other one found
    obtain ⟨_, old⟩ := (Ledger.update_eq_some.mp found).resolve_left (by simp)
    exact balanced.filled other one old
  · rw [owns_erase]
    exact ledger

theorem owns_error (known : session.results name = some result) (failed : result.isOk = false) :
    session.owns name = some result.err := by simp [Session.owns, known, Result.string, failed]

/-- The text of an error is on the heap until it is freed with its result. -/
theorem freeString (balanced : session.Balanced) (known : session.results name = some result)
    (failed : result.isOk = false) : freeString result.err session.strings = some (session.strings.erase result.err) := by
  have present : result.err ∈ session.strings := balanced.ledger.alive name result.err (owns_error known failed)
  rw [C.freeString, if_neg ((balanced.filled name result known).err_ne_zero failed), fromRaw, if_pos present]

end Balanced

/-! ### Calls and requests -/

variable {target : Target} {os : Os σ} {binding : Binding} {fuel depth first : Nat}

/-- A private allocation that is refused has no result. -/
def Granted (state : Buffers.ApiSession σ) : Call → Prop
  | .allocatePrivateMemory name _ => (state.allocations name).isSome
  | _ => True

variable {held : σ → Set Nat}

/-- The first locator has been initialised, and no call been made. -/
def initial (target : Target) (os : Os σ) (first : Nat) (system : σ) : Session σ where
  world := (Buffers.Session.initial target os first system).world
  strings := ∅
  results _ := none
  records := []
  owed _ := 0

end Session

/-- A heap that puts every text behind the others. -/
def Binding.upwards : Binding := ⟨true, fun strings => strings.keys.sum + 1⟩

theorem Binding.upwards_sound : Binding.upwards.Sound where
  nonzero _ := Nat.succ_ne_zero _
  fresh _ member := Nat.not_succ_le_self _ (List.le_sum_of_mem member)

namespace Session

end Session

end C

end ReloadedBuffers
