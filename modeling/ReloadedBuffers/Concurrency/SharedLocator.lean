import ReloadedBuffers.Foundation.Transition
import ReloadedBuffers.Structs.Params
import ReloadedBuffers.Structs.LocatorHeader

/-! One locator shared by threads, with every access to its memory a step of its own.
A thread is in the middle of `get_first_available_item_locked` or of
`try_allocate_item`, or between calls, where it may append through the items it
holds and drop them.
-/

set_option autoImplicit false

namespace ReloadedBuffers

namespace SharedLocator

/-- The loads of `can_use`, in its order, with what has been computed so far. -/
inductive CanUse where
  | isAllocated
  | size
  | position (sizeLoaded : UInt32)
  | startBase
  | startPosition (base : Nat)
  | endBase (start : Nat)
  | endSize (start base : Nat)
  deriving DecidableEq, Repr

inductive Verdict where
  | load (next : CanUse)
  | unusable
  | usable
  deriving DecidableEq, Repr

def CanUse.run (usize : Nat) (settings : BufferSearchSettings) (item : LocatorItem) : CanUse → Verdict
  | .isAllocated => if item.baseAddress = 0 then .unusable else .load .size
  | .size => .load (.position item.size)
  | .position sizeLoaded => if sizeLoaded - item.position < settings.size then .unusable else .load .startBase
  | .startBase => .load (.startPosition item.baseAddress)
  | .startPosition base => .load (.endBase (Words.add usize base item.position.toNat))
  | .endBase start => .load (.endSize start item.baseAddress)
  | .endSize start base =>
    if start ≥ settings.minAddress && addWithOverflowCap usize base item.size.toNat ≤ settings.maxAddress then
      .usable
    else .unusable

/-- The fields of an item, in the order in which a new item is stored. -/
inductive Field where
  | baseAddress
  | size
  | position
  | isTaken
  deriving DecidableEq, Repr

def Field.all : List Field := [.baseAddress, .size, .position, .isTaken]

def Field.copy (source target : LocatorItem) : Field → LocatorItem
  | .baseAddress => { target with baseAddress := source.baseAddress }
  | .size => { target with size := source.size }
  | .position => { target with position := source.position }
  | .isTaken => { target with isTaken := source.isTaken }

/-- Where a thread is. -/
inductive Pc where
  | idle
  /-- About to read the item count that ends the search. -/
  | readCount (settings : BufferSearchSettings)
  | canUse (settings : BufferSearchSettings) (final slot : Nat) (load : CanUse)
  | tryLock (settings : BufferSearchSettings) (final slot : Nat)
  /-- About to return the item it has locked. -/
  | returning (settings : BufferSearchSettings) (slot : Nat)
  /-- About to test for fullness without the lock. -/
  | isFull (settings : BufferSearchSettings)
  | lock (settings : BufferSearchSettings)
  | isFullLocked (settings : BufferSearchSettings)
  | allocate (settings : BufferSearchSettings)
  /-- About to read the item count for the address of the slot to fill. -/
  | getItem (item : LocatorItem)
  | store (item : LocatorItem) (slot : Nat) (field : Field) (rest : List Field)
  | loadCount (slot : Nat)
  | storeCount (slot : Nat) (count : UInt8)
  | unlock
  deriving DecidableEq, Repr

/-- The locator, its threads and the live items. The last three fields only record
what has happened: the slots registered, the fields stored into each slot, and
whether the assertion in `unlock` has failed. -/
structure State (τ : Type) where
  isLocked : Int32
  numItems : UInt8
  items : Nat → LocatorItem
  pc : τ → Pc
  live : List (τ × Nat)
  registrations : List Nat
  stores : Nat → List Field
  assertionFailed : Bool

inductive Action where
  | getFirst (settings : BufferSearchSettings)
  | tryAllocate (settings : BufferSearchSettings)
  /-- The next access of the call that the thread is in. -/
  | run
  /-- The operating system's answer: a base address and a size, or a failure. -/
  | reply (allocated : Option (Nat × UInt32))
  | append (slot count : Nat)
  | drop (slot : Nat)
  deriving DecidableEq, Repr

/-- The item after this one, or the end of the search. -/
def Pc.next (settings : BufferSearchSettings) (final slot : Nat) : Pc :=
  if slot + 1 < final then .canUse settings final (slot + 1) .isAllocated else .idle

namespace State

variable {τ : Type} [DecidableEq τ]

def goto (state : State τ) (thread : τ) (pc : Pc) : State τ :=
  { state with pc := Function.update state.pc thread pc }

def setItem (state : State τ) (slot : Nat) (item : LocatorItem) : State τ :=
  { state with items := Function.update state.items slot item }

/-- The next access of a thread that is in a call and does not wait for the operating system. -/
def run (width : PointerWidth) (state : State τ) (thread : τ) : Option (State τ) :=
  match state.pc thread with
  | .idle => none
  | .readCount settings =>
    let final := state.numItems.toNat
    some (state.goto thread (if 0 < final then .canUse settings final 0 .isAllocated else .idle))
  | .canUse settings final slot load =>
    match load.run width.modulus settings (state.items slot) with
    | .load next => some (state.goto thread (.canUse settings final slot next))
    | .unusable => some (state.goto thread (.next settings final slot))
    | .usable => some (state.goto thread (.tryLock settings final slot))
  | .tryLock settings final slot =>
    let (acquired, item) := (state.items slot).tryLock
    let state := state.setItem slot item
    if acquired then
      some { state.goto thread (.returning settings slot) with live := (thread, slot) :: state.live }
    else some (state.goto thread (.next settings final slot))
  | .returning _ _ => some (state.goto thread .idle)
  | .isFull settings =>
    some (state.goto thread (if state.numItems.toNat ≥ width.maxItemCount then .idle else .lock settings))
  | .lock settings =>
    -- A failed compare-exchange leaves the thread spinning here.
    if state.isLocked = 0 then some { state.goto thread (.isFullLocked settings) with isLocked := 1 }
    else some state
  | .isFullLocked settings =>
    some (state.goto thread (if state.numItems.toNat ≥ width.maxItemCount then .unlock else .allocate settings))
  | .allocate _ => none
  | .getItem item =>
    some (state.goto thread (.store item state.numItems.toNat .baseAddress [.size, .position, .isTaken]))
  | .store item slot field rest =>
    let state := state.setItem slot (field.copy item (state.items slot))
    let state := { state with stores := Function.update state.stores slot (state.stores slot ++ [field]) }
    match rest with
    | next :: rest => some (state.goto thread (.store item slot next rest))
    | [] => some { state.goto thread (.loadCount slot) with live := (thread, slot) :: state.live }
  | .loadCount slot => some (state.goto thread (.storeCount slot state.numItems))
  | .storeCount slot count =>
    some { state.goto thread .unlock with numItems := count + 1, registrations := state.registrations ++ [slot] }
  | .unlock =>
    some { state.goto thread .idle with
      isLocked := 0, assertionFailed := state.assertionFailed || state.isLocked == 0 }

def step (width : PointerWidth) (state : State τ) : τ × Action → Option (State τ)
  | (thread, .run) => state.run width thread
  | (thread, .getFirst settings) =>
    if state.pc thread = .idle then some (state.goto thread (.readCount settings)) else none
  | (thread, .tryAllocate settings) =>
    if state.pc thread = .idle then some (state.goto thread (.isFull settings)) else none
  | (thread, .reply allocated) =>
    match state.pc thread with
    | .allocate _ =>
      match allocated with
      | some (baseAddress, size) =>
        some (state.goto thread (.getItem { LocatorItem.new baseAddress size with isTaken := 1 }))
      | none => some (state.goto thread .unlock)
    | _ => none
  | (thread, .append slot count) =>
    if state.pc thread = .idle ∧ (thread, slot) ∈ state.live then
      some (state.setItem slot ((state.items slot).advance count))
    else none
  | (thread, .drop slot) =>
    if state.pc thread = .idle ∧ (thread, slot) ∈ state.live then
      some { state.setItem slot (state.items slot).unlock with live := state.live.erase (thread, slot) }
    else none

/-- An initialised locator whose items below the count have been stored completely,
before any call. -/
structure Initial (width : PointerWidth) (state : State τ) : Prop where
  isLocked : state.isLocked = 0
  bound : state.numItems.toNat ≤ width.maxItemCount
  idle : ∀ thread, state.pc thread = .idle
  live : state.live = []
  registrations : state.registrations = []
  below : ∀ slot < state.numItems.toNat, state.stores slot = Field.all
  above : ∀ slot, state.numItems.toNat ≤ slot → state.stores slot = []
  assertionFailed : state.assertionFailed = false

end State

end SharedLocator

end ReloadedBuffers
